import KnowledgeGap.MindMap.Shape
import KnowledgeGap.Protocol.Runs

namespace KnowledgeGap.MindMap

open Protocol

structure Draft where
  tree : MpTree
  edges : List MpEdge
  deriving DecidableEq, Repr

/-- The page with the canvas, and what the browser has stored under the key of the drafts. -/
structure Page where
  drawn : Draft
  draftOffer : Option Draft
  stored : Option Draft
  deriving DecidableEq, Repr

inductive CanvasAction
  | enter (firstId : String)
  | patch (id : String) (patch : MpPatch)
  | addSibling (id codePrefix newId : String)
  | addChild (id codePrefix newId : String)
  | addChapterKp (id codePrefix newId : String)
  | promote (id : String)
  | move (id : String) (dir : Dir)
  | remove (id reseedId : String)
  | connect (edgeId fromId toId : String) (type : RelationType)
  | deleteEdge (id : String)
  | writeDraft
  | restoreDraft
  | discardDraft
  deriving DecidableEq, Repr

/-- `d?.tree?.chapters?.length ? d : null` -/
def readDraft (stored : Option Draft) : Option Draft := stored.filter (fun d => decide (d.tree.chapters.length ≠ 0))

/-- `tree.chapters.length === 1 && tree.chapters[0].id === id ? nid() : null` -/
def reseedFor (tree : MpTree) (id fresh : String) : Option String :=
  match tree.chapters with
  | [only] => if only.id = id then some fresh else none
  | _ => none

/-- Both updaters run in one batch, the edges after the tree. -/
def onRemove (d : Draft) (id fresh : String) : Draft :=
  let r := removeNode d.tree id (reseedFor d.tree id fresh)
  ⟨r.1, cleanEdges d.edges r.2⟩

def commitPending (d : Draft) (edgeId fromId toId : String) (type : RelationType) : Draft :=
  match edgeError d.tree d.edges fromId toId type with
  | some _ => d
  | none => { d with edges := d.edges ++ [⟨edgeId, fromId, toId, type⟩] }

def draw (d : Draft) : CanvasAction → Draft
  | .patch id patch => { d with tree := updateNode d.tree id patch }
  | .addSibling id codePrefix newId => { d with tree := ((addSibling d.tree id codePrefix newId).map Prod.fst).getD d.tree }
  | .addChild id codePrefix newId => { d with tree := ((addChild d.tree id codePrefix newId).map Prod.fst).getD d.tree }
  | .addChapterKp id codePrefix newId => { d with tree := ((addChapterKp d.tree id codePrefix newId).map Prod.fst).getD d.tree }
  | .promote id => { d with tree := promote d.tree id }
  | .move id dir => { d with tree := moveWithin d.tree id dir }
  | .remove id fresh => onRemove d id fresh
  | .connect edgeId fromId toId type => commitPending d edgeId fromId toId type
  | .deleteEdge id => { d with edges := d.edges.filter (fun e => decide (e.id ≠ id)) }
  | _ => d

def Page.step (p : Page) : CanvasAction → Page
  | .enter firstId => { drawn := ⟨emptyTree firstId, []⟩, draftOffer := readDraft p.stored, stored := p.stored }
  | .writeDraft => { p with stored := some p.drawn }
  | .restoreDraft =>
    match p.draftOffer with
    | none => p
    | some offer => { p with drawn := offer, draftOffer := none }
  | .discardDraft => { p with draftOffer := none, stored := none }
  | a => { p with drawn := draw p.drawn a }

def start (firstId : String) : Page := ⟨⟨emptyTree firstId, []⟩, none, none⟩

def Draft.ids (d : Draft) : List String := d.tree.nodeIds ++ d.edges.map MpEdge.id

/-- An id that an action brings is in use nowhere on the canvas. -/
def Fresh (p : Page) : CanvasAction → Prop
  | .addSibling _ _ newId | .addChild _ _ newId | .addChapterKp _ _ newId => newId ∉ p.drawn.ids
  | .remove _ reseedId => reseedId ∉ p.drawn.ids
  | .connect edgeId _ _ _ => edgeId ∉ p.drawn.ids
  | _ => True

instance (p : Page) (a : CanvasAction) : Decidable (Fresh p a) := by
  cases a <;> unfold Fresh <;> infer_instance

/-- What the canvas can be trusted with. -/
structure Draft.Sound (d : Draft) : Prop where
  ids : d.ids.Nodup
  filled : d.tree.chapters ≠ []
  joined : ∀ e ∈ d.edges, e.fromId ∈ kpIdSet d.tree ∧ e.toId ∈ kpIdSet d.tree ∧ e.fromId ≠ e.toId
  once : (d.edges.map (fun e => (e.fromId, e.toId, e.type))).Nodup

structure Page.Sound (p : Page) : Prop where
  drawn : p.drawn.Sound
  draftOffer : ∀ d ∈ p.draftOffer, d.Sound
  stored : ∀ d ∈ p.stored, d.Sound

theorem sound_start (firstId : String) : (Draft.mk (emptyTree firstId) []).Sound where
  ids := List.nodup_singleton firstId
  filled := by simp [emptyTree]
  joined := by simp
  once := List.nodup_nil

theorem Draft.Sound.distinct {d : Draft} (sound : d.Sound) : d.tree.nodeIds.Nodup := (List.nodup_append.mp sound.ids).1

theorem frame_eq_nil_iff {t : MpTree} : t.frame = [] ↔ t.chapters = [] := by
  constructor
  · intro blank
    rw [MpTree.frame, List.flatMap_eq_nil_iff] at blank
    by_contra filled
    obtain ⟨c, listed⟩ := List.exists_mem_of_ne_nil _ filled
    exact absurd (blank c listed) (List.cons_ne_nil _ _)
  · intro none_
    rw [MpTree.frame, none_, List.flatMap_nil]

variable {d : Draft}

/-- The edges hold on to the points they join, and on their ids. -/
theorem Draft.Sound.of_points {tree : MpTree} (sound : d.Sound) (ids : (tree.nodeIds ++ d.edges.map MpEdge.id).Nodup)
    (filled : tree.chapters ≠ []) (points : ∀ x ∈ kpIdSet d.tree, x ∈ kpIdSet tree) :
    (Draft.mk tree d.edges).Sound where
  ids := ids
  filled := filled
  joined := fun e listed =>
    ⟨points _ (sound.joined e listed).1, points _ (sound.joined e listed).2.1, (sound.joined e listed).2.2⟩
  once := sound.once

theorem Draft.Sound.grown {tree : MpTree} {newId : String} (sound : d.Sound) (fresh : newId ∉ d.ids)
    (grown : Grown d.tree tree newId) : (Draft.mk tree d.edges).Sound := by
  have ids : (tree.nodeIds ++ d.edges.map MpEdge.id).Perm (newId :: d.ids) := by
    rw [List.perm_iff_count]
    intro x
    rcases grown with ⟨frame, points⟩ | ⟨frame, code, _, points⟩
    · have counted := frame.count_eq x
      have same := (points.map MpKp.id).count_eq x
      simp only [Draft.ids, MpTree.nodeIds, List.count_append, List.count_cons] at *
      omega
    · have counted := frame.count_eq x
      have more := (points.map MpKp.id).count_eq x
      simp only [Draft.ids, MpTree.nodeIds, List.map_cons, newKpNode, List.count_append, List.count_cons] at *
      omega
  refine sound.of_points (ids.nodup_iff.mpr (List.nodup_cons.mpr ⟨fresh, sound.ids⟩)) ?_ ?_
  · rw [ne_eq, ← frame_eq_nil_iff]
    intro blank
    rcases grown with ⟨more, _⟩ | ⟨same, _⟩
    · rw [blank] at more
      exact absurd more.symm.eq_nil (List.cons_ne_nil _ _)
    · rw [blank] at same
      exact sound.filled (frame_eq_nil_iff.mp same.symm.eq_nil)
  · intro x listed
    rw [kpIdSet_eq] at listed ⊢
    rcases grown with ⟨_, points⟩ | ⟨_, code, _, points⟩
    · exact (points.map MpKp.id).mem_iff.mpr listed
    · exact (points.map MpKp.id).mem_iff.mpr (List.mem_cons_of_mem _ listed)

theorem Draft.Sound.rearranged {tree : MpTree} (sound : d.Sound) (rearranged : Rearranged d.tree tree) :
    (Draft.mk tree d.edges).Sound := by
  have ids : (tree.nodeIds ++ d.edges.map MpEdge.id).Perm d.ids :=
    (rearranged.1.append (rearranged.2.map MpKp.id)).append_right _
  refine sound.of_points (ids.nodup_iff.mpr sound.ids) ?_ ?_
  · rw [ne_eq, ← frame_eq_nil_iff]
    intro blank
    have before := rearranged.1
    rw [blank] at before
    exact sound.filled (frame_eq_nil_iff.mp before.symm.eq_nil)
  · intro x listed
    rw [kpIdSet_eq] at listed ⊢
    exact (rearranged.2.map MpKp.id).mem_iff.mpr listed

theorem updateNode_ids (t : MpTree) (id : String) (patch : MpPatch) :
    (updateNode t id patch).points.map MpKp.id = t.points.map MpKp.id := by
  have changed := updateNode_points t id patch
  generalize (updateNode t id patch).points = after at changed
  generalize t.points = before at changed
  induction changed with
  | nil => rfl
  | cons here _ ih =>
    rw [List.map_cons, List.map_cons, ih]
    rcases here with rfl | ⟨_, rfl⟩
    · rfl
    · rfl

theorem Draft.Sound.patched (sound : d.Sound) (id : String) (patch : MpPatch) :
    (Draft.mk (updateNode d.tree id patch) d.edges).Sound := by
  have frame := updateNode_frame d.tree id patch
  refine sound.of_points ?_ ?_ ?_
  · rw [MpTree.nodeIds, frame, updateNode_ids]
    exact sound.ids
  · rw [ne_eq, ← frame_eq_nil_iff, frame, frame_eq_nil_iff]
    exact sound.filled
  · intro x listed
    rw [kpIdSet_eq] at listed ⊢
    rw [updateNode_ids]
    exact listed

theorem removeNode_filled {t : MpTree} {id fresh : String} (distinct : t.nodeIds.Nodup) (filled : t.chapters ≠ []) :
    (removeNode t id (reseedFor t id fresh)).1.chapters ≠ [] := by
  unfold removeNode
  cases found : locate t id with
  | none => exact filled
  | some hit =>
    cases locate_spec found with
    | chapter before after c named =>
      have chapters := nodup_chapters distinct
      subst named
      dsimp only
      rw [Relational.Focus.filter_keyed chapters]
      cases before with
      | nil =>
        cases after with
        | nil => simp [reseedFor]
        | cons next after => simp [reseedFor]
      | cons first before => cases before <;> simp [reseedFor]
    | section_ before after left right c s inside named =>
      dsimp only
      rw [mapChapters_at]
      simp
    | sectionKp before after left right c s first rest k inside listed named =>
      dsimp only
      rw [mapChapters_at]
      simp
    | chapterKp before after c first rest k listed named =>
      dsimp only
      rw [mapChapters_at]
      simp

theorem mem_reseedFor {t : MpTree} {id fresh x : String} (given : x ∈ (reseedFor t id fresh).toList) : x = fresh := by
  unfold reseedFor at given
  split at given
  · split at given
    · exact List.mem_singleton.mp given
    · cases given
  · cases given

/-- The points that are left are those that are not reported as removed. -/
theorem Pruned.left_iff {t t' : MpTree} {id x fresh : String} {removed : List String} (distinct : t.nodeIds.Nodup)
    (pruned : Pruned t t' id (reseedFor t id fresh) removed) (new : fresh ∉ t.nodeIds) (listed : x ∈ kpIdSet t) :
    x ∈ kpIdSet t' ↔ x ∉ removed := by
  obtain ⟨gone, lost, reseeded, given, frame, points, taken, reported⟩ := pruned
  have parts := points.map MpKp.id
  rw [List.map_append] at parts
  have separate := List.nodup_append.mp (parts.nodup_iff.mpr (nodup_points distinct))
  rw [kpIdSet_eq] at listed ⊢
  have whole : x ∈ t'.points.map MpKp.id ∨ x ∈ lost.map MpKp.id := List.mem_append.mp (parts.mem_iff.mpr listed)
  constructor
  · intro there reported_
    rcases (reported x).mp reported_ with rfl | lost_
    · rcases List.mem_append.mp taken with gone_ | lost_
      · rcases List.mem_append.mp (frame.mem_iff.mp (List.mem_append_right _ gone_)) with seeded | framed
        · rw [mem_reseedFor (given.subset seeded)] at listed
          exact new (List.mem_append_right _ listed)
        · exact (List.nodup_append.mp distinct).2.2 x framed x listed rfl
      · exact separate.2.2 x there x lost_ rfl
    · exact separate.2.2 x there x lost_ rfl
  · intro kept
    rcases whole with there | lost_
    · exact there
    · exact absurd ((reported x).mpr (Or.inr lost_)) kept

theorem mem_cleanEdges {edges : List MpEdge} {removed : List String} {e : MpEdge} :
    e ∈ cleanEdges edges removed ↔ e ∈ edges ∧ e.fromId ∉ removed ∧ e.toId ∉ removed := by
  simp [cleanEdges]

theorem removeNode_of_missing {t : MpTree} {id : String} {reseedId : Option String} (missing : locate t id = none) :
    removeNode t id reseedId = (t, []) := by
  rw [removeNode, missing]

/-- What is taken off the canvas takes its edges along, and no other edge. -/
theorem mem_onRemove_edges {id fresh : String} (sound : d.Sound) (new : fresh ∉ d.ids) (e : MpEdge) :
    e ∈ (onRemove d id fresh).edges ↔
      e ∈ d.edges ∧ e.fromId ∈ kpIdSet (onRemove d id fresh).tree ∧ e.toId ∈ kpIdSet (onRemove d id fresh).tree := by
  unfold onRemove
  rw [mem_cleanEdges]
  refine and_congr_right (fun listed => ?_)
  have joined := sound.joined e listed
  cases found : locate d.tree id with
  | none =>
    rw [removeNode_of_missing found]
    simp [joined.1, joined.2.1]
  | some hit =>
    have pruned := removeNode_pruned (reseedFor d.tree id fresh) sound.distinct found
    have unused : fresh ∉ d.tree.nodeIds := fun used => new (List.mem_append_left _ used)
    rw [pruned.left_iff sound.distinct unused joined.1, pruned.left_iff sound.distinct unused joined.2.1]

theorem Pruned.nodeIds {t t' : MpTree} {id fresh : String} {removed rest : List String}
    (pruned : Pruned t t' id (reseedFor t id fresh) removed) (distinct : (t.nodeIds ++ rest).Nodup) (new : fresh ∉ t.nodeIds ++ rest) :
    (t'.nodeIds ++ rest).Nodup := by
  obtain ⟨gone, lost, reseeded, given, frame, points, _, _⟩ := pruned
  have seeded : (reseeded ++ (t.nodeIds ++ rest)).Nodup := by
    refine List.nodup_append.mpr ⟨?_, distinct, ?_⟩
    · refine given.nodup ?_
      cases reseedFor t id fresh <;> simp
    · rintro x listed _ used rfl
      rw [mem_reseedFor (given.subset listed)] at used
      exact new used
  have whole : ((t'.nodeIds ++ rest) ++ (gone ++ lost.map MpKp.id)).Perm (reseeded ++ (t.nodeIds ++ rest)) := by
    rw [List.perm_iff_count]
    intro x
    have framed := frame.count_eq x
    have pointed := (points.map MpKp.id).count_eq x
    simp only [MpTree.nodeIds, List.map_append, List.count_append] at *
    omega
  exact (List.nodup_append.mp (whole.nodup_iff.mpr seeded)).1

theorem Draft.Sound.removed {id fresh : String} (sound : d.Sound) (new : fresh ∉ d.ids) : (onRemove d id fresh).Sound where
  ids := by
    have kept : ((onRemove d id fresh).edges.map MpEdge.id).Sublist (d.edges.map MpEdge.id) :=
      List.filter_sublist.map MpEdge.id
    refine (kept.append_left _).nodup ?_
    cases found : locate d.tree id with
    | none =>
      rw [onRemove, removeNode_of_missing found]
      exact sound.ids
    | some hit => exact (removeNode_pruned (reseedFor d.tree id fresh) sound.distinct found).nodeIds sound.ids new
  filled := removeNode_filled sound.distinct sound.filled
  joined := fun e listed =>
    have kept := (mem_onRemove_edges sound new e).mp listed
    ⟨kept.2.1, kept.2.2, (sound.joined e kept.1).2.2⟩
  once := (List.filter_sublist.map _).nodup sound.once

theorem edgeError_eq_none_iff {tree : MpTree} {edges : List MpEdge} {fromId toId : String} {type : RelationType} :
    edgeError tree edges fromId toId type = none ↔
      fromId ∈ kpIdSet tree ∧ toId ∈ kpIdSet tree ∧ fromId ≠ toId ∧
        (fromId, toId, type) ∉ edges.map (fun e => (e.fromId, e.toId, e.type)) := by
  unfold edgeError
  grind

theorem Draft.Sound.connected {edgeId fromId toId : String} {type : RelationType} (sound : d.Sound) (new : edgeId ∉ d.ids) :
    (commitPending d edgeId fromId toId type).Sound := by
  unfold commitPending
  split
  · exact sound
  · rename_i accepted
    obtain ⟨source, target, apart, first⟩ := edgeError_eq_none_iff.mp accepted
    constructor
    · rw [Draft.ids, List.map_append, ← List.append_assoc]
      refine List.nodup_append.mpr ⟨sound.ids, List.nodup_singleton _, fun x used y here same => new ?_⟩
      have mine : x = edgeId := same.trans (List.mem_singleton.mp here)
      exact mine ▸ used
    · exact sound.filled
    · intro e listed
      rcases List.mem_append.mp listed with old | added
      · exact sound.joined e old
      · rw [List.mem_singleton.mp added]
        exact ⟨source, target, apart⟩
    · rw [List.map_append]
      refine List.nodup_append.mpr ⟨sound.once, List.nodup_singleton _, fun x used y here same => first ?_⟩
      have mine : x = (fromId, toId, type) := same.trans (List.mem_singleton.mp here)
      exact mine ▸ used

theorem Draft.Sound.unlinked (sound : d.Sound) (id : String) :
    (Draft.mk d.tree (d.edges.filter (fun e => decide (e.id ≠ id)))).Sound where
  ids := ((List.filter_sublist.map MpEdge.id).append_left _).nodup sound.ids
  filled := sound.filled
  joined := fun e listed => sound.joined e (List.mem_of_mem_filter listed)
  once := (List.filter_sublist.map _).nodup sound.once

theorem Draft.Sound.added {result : Option (MpTree × String)} {newId : String} (sound : d.Sound) (fresh : newId ∉ d.ids)
    (grown : ∀ t' given, result = some (t', given) → given = newId ∧ Grown d.tree t' newId) :
    (Draft.mk ((result.map Prod.fst).getD d.tree) d.edges).Sound := by
  cases result with
  | none => exact sound
  | some r => exact sound.grown fresh (grown r.1 r.2 rfl).2

theorem Page.Sound.step {p : Page} {a : CanvasAction} (sound : p.Sound) (fresh : Fresh p a) : (p.step a).Sound := by
  obtain ⟨drawn, offered, stored⟩ := sound
  have distinct := drawn.distinct
  cases a with
  | enter firstId =>
    refine ⟨sound_start firstId, fun d here => ?_, stored⟩
    exact stored d (Option.filter_eq_some_iff.mp here).1
  | patch id patch => exact ⟨drawn.patched id patch, offered, stored⟩
  | addSibling id codePrefix newId =>
    exact ⟨drawn.added fresh (fun _ _ => addSibling_grown distinct), offered, stored⟩
  | addChild id codePrefix newId =>
    exact ⟨drawn.added fresh (fun _ _ => addChild_grown distinct), offered, stored⟩
  | addChapterKp id codePrefix newId =>
    exact ⟨drawn.added fresh (fun _ _ => addChapterKp_grown), offered, stored⟩
  | promote id => exact ⟨drawn.rearranged (promote_rearranged id distinct), offered, stored⟩
  | move id dir => exact ⟨drawn.rearranged (moveWithin_rearranged id dir distinct), offered, stored⟩
  | remove id reseedId => exact ⟨drawn.removed fresh, offered, stored⟩
  | connect edgeId fromId toId type => exact ⟨drawn.connected fresh, offered, stored⟩
  | deleteEdge id => exact ⟨drawn.unlinked id, offered, stored⟩
  | writeDraft => exact ⟨drawn, offered, fun d here => Option.some.inj here ▸ drawn⟩
  | restoreDraft =>
    cases offer : p.draftOffer with
    | none =>
      rw [Page.step, offer]
      exact ⟨drawn, offered, stored⟩
    | some d =>
      rw [Page.step, offer]
      exact ⟨offered d offer, by simp, stored⟩
  | discardDraft => exact ⟨drawn, by simp [Page.step], by simp [Page.step]⟩

/-- However the canvas is worked on, nodes and edges keep ids of their own, a chapter is left to type into, and every edge
    joins two different points that are there, once for a type. -/
theorem canvas_sound (firstId : String) (actions : List CanvasAction) (fresh : Along Page.step Fresh (start firstId) actions) :
    (run Page.step (start firstId) actions).Sound :=
  run_invariant_along (fun _ _ sound here => sound.step here) actions _ fresh
    ⟨sound_start firstId, by simp [start], by simp [start]⟩

theorem canvas_sound_linked :
    (run Page.step (start "c") [.addChapterKp "c" "M7A" "k", .addSibling "k" "M7A" "j", .connect "e" "k" "j" .prerequisite,
      .writeDraft, .addChild "c" "M7A" "s", .remove "c" "d", .restoreDraft]).Sound :=
  canvas_sound "c" _ (by decide +kernel)

/-! The codes. -/

/-- A code typed into a card is blank, the card's own, or nowhere on the canvas yet. -/
def NewCode (p : Page) : CanvasAction → Prop
  | .patch id patch => ∀ code ∈ patch.code, code = "" ∨ code ∉ allCodes p.drawn.tree ∨
      ∃ k ∈ p.drawn.tree.points, k.id = id ∧ k.code = code
  | _ => True

theorem updateNode_points_cases {t : MpTree} (id : String) (patch : MpPatch) (distinct : t.nodeIds.Nodup) :
    (updateNode t id patch).points = t.points ∨
      ∃ left k right, t.points = left ++ k :: right ∧ k.id = id ∧
        (updateNode t id patch).points = left ++ patch.apply k :: right := by
  have changed := updateNode_points t id patch
  have ids := nodup_points distinct
  generalize (updateNode t id patch).points = after at changed
  generalize t.points = before at changed ids
  induction changed with
  | nil => exact Or.inl rfl
  | @cons k k' before after here rest ih =>
    rw [List.map_cons, List.nodup_cons] at ids
    rcases here with rfl | ⟨named, rfl⟩
    · rcases ih ids.2 with rfl | ⟨left, j, right, split, named, after_⟩
      · exact Or.inl rfl
      · exact Or.inr ⟨k' :: left, j, right, by rw [split]; rfl, named, by rw [after_]; rfl⟩
    · rcases ih ids.2 with rfl | ⟨left, j, right, split, same, _⟩
      · exact Or.inr ⟨[], k, _, rfl, named, rfl⟩
      · refine absurd ?_ ids.1
        rw [split, named, ← same]
        exact List.mem_map_of_mem (List.mem_append_right _ List.mem_cons_self)

theorem coded_cons (k : MpKp) (kps : List MpKp) : coded (k :: kps) = (if k.code = "" then [] else [k.code]) ++ coded kps := by
  by_cases blank : k.code = ""
  · simp [coded, blank]
  · simp [coded, blank]

theorem coded_perm {xs ys : List MpKp} (same : xs.Perm ys) : (coded xs).Perm (coded ys) :=
  (same.filter _).map MpKp.code

theorem nodup_codes_grown {t t' : MpTree} {newId : String} (codes : (allCodes t).Nodup) (grown : Grown t t' newId) :
    (allCodes t').Nodup := by
  rw [allCodes_eq] at codes ⊢
  rcases grown with ⟨_, points⟩ | ⟨_, code, new, points⟩
  · exact (coded_perm points).nodup_iff.mpr codes
  · rw [(coded_perm points).nodup_iff, coded_cons]
    by_cases blank : (newKpNode code newId).code = ""
    · rw [if_pos blank]
      exact codes
    · rw [if_neg blank]
      rw [allCodes_eq] at new
      exact List.nodup_cons.mpr ⟨new.resolve_left blank, codes⟩

theorem nodup_codes_rearranged {t t' : MpTree} (codes : (allCodes t).Nodup) (rearranged : Rearranged t t') :
    (allCodes t').Nodup := by
  rw [allCodes_eq] at codes ⊢
  exact (coded_perm rearranged.2).nodup_iff.mpr codes

theorem nodup_codes_removed {t : MpTree} {id fresh : String} (codes : (allCodes t).Nodup) (distinct : t.nodeIds.Nodup) :
    (allCodes (removeNode t id (reseedFor t id fresh)).1).Nodup := by
  cases found : locate t id with
  | none =>
    rw [removeNode_of_missing found]
    exact codes
  | some hit =>
    obtain ⟨gone, lost, reseeded, _, _, points, _⟩ := removeNode_pruned (reseedFor t id fresh) distinct found
    rw [allCodes_eq] at codes ⊢
    have whole := (coded_perm points).nodup_iff.mpr codes
    rw [coded_append] at whole
    exact (List.nodup_append.mp whole).1

theorem nodup_codes_patched {p : Page} {id : String} {patch : MpPatch} (codes : (allCodes p.drawn.tree).Nodup)
    (distinct : p.drawn.tree.nodeIds.Nodup) (new : NewCode p (.patch id patch)) :
    (allCodes (updateNode p.drawn.tree id patch)).Nodup := by
  rw [allCodes_eq] at codes ⊢
  rcases updateNode_points_cases id patch distinct with same | ⟨left, k, right, split, named, after⟩
  · rw [same]
    exact codes
  · have ids := nodup_points distinct
    rw [after]
    cases typed : patch.code with
    | none =>
      have kept : (patch.apply k).code = k.code := by simp [MpPatch.apply, typed]
      rw [split, coded_append, coded_cons] at codes
      rw [coded_append, coded_cons, kept]
      exact codes
    | some code =>
      have changed : (patch.apply k).code = code := by simp [MpPatch.apply, typed]
      rw [coded_append, coded_cons, changed]
      rw [split, coded_append, coded_cons] at codes
      rcases new code typed with rfl | new | ⟨j, listed, here, rfl⟩
      · rw [if_pos rfl, List.nil_append]
        exact codes.sublist ((List.sublist_append_right _ _).append_left _)
      · have others : (coded left ++ coded right).Nodup := codes.sublist ((List.sublist_append_right _ _).append_left _)
        rw [allCodes_eq, split, coded_append, coded_cons] at new
        split
        · exact others
        · refine (List.perm_middle.nodup_iff).mpr (List.nodup_cons.mpr ⟨?_, others⟩)
          intro used
          exact new ((List.Sublist.append_left (List.sublist_append_right _ _) _).subset used)
      · have same : j = k := by
          refine List.inj_on_of_nodup_map ids listed ?_ (here.trans named.symm)
          rw [split]
          exact List.mem_append_right _ List.mem_cons_self
        rw [same]
        exact codes

structure Page.Coded (p : Page) : Prop where
  drawn : (allCodes p.drawn.tree).Nodup
  draftOffer : ∀ d ∈ p.draftOffer, (allCodes d.tree).Nodup
  stored : ∀ d ∈ p.stored, (allCodes d.tree).Nodup

theorem nodup_codes_added {t : MpTree} {result : Option (MpTree × String)} {newId : String} (codes : (allCodes t).Nodup)
    (grown : ∀ t' given, result = some (t', given) → given = newId ∧ Grown t t' newId) :
    (allCodes ((result.map Prod.fst).getD t)).Nodup := by
  cases result with
  | none => exact codes
  | some r => exact nodup_codes_grown codes (grown r.1 r.2 rfl).2

theorem Page.Coded.step {p : Page} {a : CanvasAction} (sound : p.Sound) (coded_ : p.Coded) (new : NewCode p a) : (p.step a).Coded := by
  obtain ⟨drawn, offered, stored⟩ := coded_
  have distinct := sound.drawn.distinct
  cases a with
  | enter firstId =>
    refine ⟨List.nodup_nil, fun d here => ?_, stored⟩
    exact stored d (Option.filter_eq_some_iff.mp here).1
  | patch id patch => exact ⟨nodup_codes_patched drawn distinct new, offered, stored⟩
  | addSibling id codePrefix newId =>
    exact ⟨nodup_codes_added drawn (fun _ _ => addSibling_grown distinct), offered, stored⟩
  | addChild id codePrefix newId =>
    exact ⟨nodup_codes_added drawn (fun _ _ => addChild_grown distinct), offered, stored⟩
  | addChapterKp id codePrefix newId =>
    exact ⟨nodup_codes_added drawn (fun _ _ => addChapterKp_grown), offered, stored⟩
  | promote id => exact ⟨nodup_codes_rearranged drawn (promote_rearranged id distinct), offered, stored⟩
  | move id dir => exact ⟨nodup_codes_rearranged drawn (moveWithin_rearranged id dir distinct), offered, stored⟩
  | remove id reseedId => exact ⟨nodup_codes_removed drawn distinct, offered, stored⟩
  | connect edgeId fromId toId type =>
    refine ⟨?_, offered, stored⟩
    simp only [Page.step, draw, commitPending]
    split <;> exact drawn
  | deleteEdge id => exact ⟨drawn, offered, stored⟩
  | writeDraft => exact ⟨drawn, offered, fun d here => Option.some.inj here ▸ drawn⟩
  | restoreDraft =>
    cases offer : p.draftOffer with
    | none =>
      rw [Page.step, offer]
      exact ⟨drawn, offered, stored⟩
    | some d =>
      rw [Page.step, offer]
      exact ⟨offered d offer, by simp, stored⟩
  | discardDraft => exact ⟨drawn, by simp [Page.step], by simp [Page.step]⟩

/-- Two points get the same code by hand only. -/
theorem canvas_codes (firstId : String) (actions : List CanvasAction)
    (along : Along Page.step (fun p a => Fresh p a ∧ NewCode p a) (start firstId) actions) :
    (allCodes (run Page.step (start firstId) actions).drawn.tree).Nodup := by
  have kept : ∀ p a, p.Sound ∧ p.Coded → Fresh p a ∧ NewCode p a → (p.step a).Sound ∧ (p.step a).Coded :=
    fun _ _ here allowed => ⟨here.1.step allowed.1, here.2.step here.1 allowed.2⟩
  exact (run_invariant_along kept actions _ along
    ⟨⟨sound_start firstId, by simp [start], by simp [start]⟩, ⟨List.nodup_nil, by simp [start], by simp [start]⟩⟩).2.drawn

theorem canvas_codes_numbered :
    (allCodes (run Page.step (start "c") [.addChapterKp "c" "M7A" "k", .addSibling "k" "M7A" "j"]).drawn.tree).Nodup :=
  canvas_codes "c" _ ⟨⟨by decide +kernel, trivial⟩, ⟨by decide +kernel, trivial⟩, trivial⟩

end KnowledgeGap.MindMap
