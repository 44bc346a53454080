import KnowledgeGap.MindMap.Tree

namespace KnowledgeGap.MindMap

open Relational Relational.Focus

/-! What an operation does to the nodes of a tree, whatever order they stand in. -/

def MpChapter.frame (c : MpChapter) : List String := c.id :: c.sections.map MpSection.id

def MpChapter.points (c : MpChapter) : List MpKp := c.sections.flatMap MpSection.kps ++ c.kps

/-- The ids of the chapters and the sections. -/
def MpTree.frame (t : MpTree) : List String := t.chapters.flatMap MpChapter.frame

def MpTree.points (t : MpTree) : List MpKp := t.chapters.flatMap MpChapter.points

def MpTree.nodeIds (t : MpTree) : List String := t.frame ++ t.points.map MpKp.id

theorem kpIdSet_eq (t : MpTree) : kpIdSet t = t.points.map MpKp.id := by
  simp only [kpIdSet, MpTree.points, MpChapter.points, List.map_flatMap, List.map_append]

def coded (kps : List MpKp) : List String := (kps.filter (fun k => decide (k.code ≠ ""))).map MpKp.code

theorem coded_append (xs ys : List MpKp) : coded (xs ++ ys) = coded xs ++ coded ys := by
  simp [coded]

theorem coded_flatMap {α : Type} (f : α → List MpKp) (xs : List α) : coded (xs.flatMap f) = xs.flatMap (fun x => coded (f x)) := by
  induction xs with
  | nil => rfl
  | cons x xs ih => rw [List.flatMap_cons, List.flatMap_cons, coded_append, ih]

theorem allCodes_eq (t : MpTree) : allCodes t = coded t.points := by
  rw [MpTree.points, coded_flatMap]
  apply List.flatMap_congr
  intro c _
  rw [MpChapter.points, coded_append, coded_flatMap]
  rfl

/-- Where a node stands. -/
inductive Located (id : String) : MpTree → MpHit → Prop
  | chapter (before after : List MpChapter) (c : MpChapter) (named : c.id = id) :
    Located id ⟨before ++ c :: after⟩ (.chapter c before.length)
  | section_ (before after : List MpChapter) (left right : List MpSection) (c : MpChapter) (s : MpSection)
    (inside : c.sections = left ++ s :: right) (named : s.id = id) :
    Located id ⟨before ++ c :: after⟩ (.section_ c s before.length left.length)
  | sectionKp (before after : List MpChapter) (left right : List MpSection) (c : MpChapter) (s : MpSection)
    (first rest : List MpKp) (k : MpKp) (inside : c.sections = left ++ s :: right) (listed : s.kps = first ++ k :: rest)
    (named : k.id = id) :
    Located id ⟨before ++ c :: after⟩ (.kp c (some s) k before.length (some left.length) first.length)
  | chapterKp (before after : List MpChapter) (c : MpChapter) (first rest : List MpKp) (k : MpKp)
    (listed : c.kps = first ++ k :: rest) (named : k.id = id) :
    Located id ⟨before ++ c :: after⟩ (.kp c none k before.length none first.length)

theorem locate_spec {t : MpTree} {id : String} {hit : MpHit} (found : locate t id = some hit) : Located id t hit := by
  obtain ⟨chapters⟩ := t
  obtain ⟨before, c, after, split, answer⟩ := findSomeIdx_eq_some found
  dsimp only at split
  subst split
  by_cases here : c.id = id
  · rw [if_pos here] at answer
    cases answer
    exact .chapter before after c here
  · rw [if_neg here] at answer
    rcases Option.or_eq_some_iff.mp answer with inSection | ⟨_, direct⟩
    · obtain ⟨left, s, right, inside, answer⟩ := findSomeIdx_eq_some inSection
      by_cases named : s.id = id
      · rw [if_pos named] at answer
        cases answer
        exact .section_ before after left right c s inside named
      · rw [if_neg named] at answer
        obtain ⟨first, k, rest, listed, answer⟩ := findSomeIdx_eq_some answer
        by_cases named : k.id = id
        · rw [if_pos named] at answer
          cases answer
          exact .sectionKp before after left right c s first rest k inside listed named
        · rw [if_neg named] at answer
          cases answer
    · obtain ⟨first, k, rest, listed, answer⟩ := findSomeIdx_eq_some direct
      by_cases named : k.id = id
      · rw [if_pos named] at answer
        cases answer
        exact .chapterKp before after c first rest k listed named
      · rw [if_neg named] at answer
        cases answer

theorem mapChapters_at (before after : List MpChapter) (c : MpChapter) (fn : MpChapter → MpChapter) :
    mapChapters ⟨before ++ c :: after⟩ (some before.length) fn = ⟨before ++ fn c :: after⟩ := by
  have same : (before ++ c :: after).mapIdx (fun i x => if i = before.length then fn x else x) = before ++ fn c :: after :=
    mapIdx_at fn
  simp only [mapChapters, reduceCtorEq, false_or, Option.some.injEq, MpTree.mk.injEq]
  rw [← same]
  congr 1
  funext i x
  simp only [eq_comm]

section
variable {t : MpTree} (distinct : t.nodeIds.Nodup)
include distinct

theorem nodup_frame : t.frame.Nodup := (List.nodup_append.mp distinct).1

theorem nodup_points : (t.points.map MpKp.id).Nodup := (List.nodup_append.mp distinct).2.1

theorem nodup_chapters : (t.chapters.map MpChapter.id).Nodup := by
  have inside : (t.chapters.map MpChapter.id).Sublist t.frame := by
    rw [MpTree.frame]
    induction t.chapters with
    | nil => exact List.Sublist.refl _
    | cons c chapters ih =>
      rw [List.map_cons, List.flatMap_cons]
      exact (List.Sublist.cons_cons _ (List.nil_sublist _)).append ih
  exact inside.nodup (nodup_frame distinct)

theorem nodup_sections {c : MpChapter} (listed : c ∈ t.chapters) : (c.sections.map MpSection.id).Nodup := by
  have whole : c.frame.Sublist t.frame := sublist_flatMap MpChapter.frame listed
  exact ((List.sublist_cons_self c.id (c.sections.map MpSection.id)).trans whole).nodup (nodup_frame distinct)

theorem nodup_chapterPoints {c : MpChapter} (listed : c ∈ t.chapters) : (c.points.map MpKp.id).Nodup :=
  ((sublist_flatMap MpChapter.points listed).map MpKp.id).nodup (nodup_points distinct)

end

/-- A tree that has gained one node: a chapter or a section, or a point whose code is new. -/
def Grown (t t' : MpTree) (newId : String) : Prop :=
  (t'.frame.Perm (newId :: t.frame) ∧ t'.points.Perm t.points) ∨
    (t'.frame.Perm t.frame ∧
      ∃ code, (code = "" ∨ code ∉ allCodes t) ∧ t'.points.Perm (newKpNode code newId :: t.points))

theorem givenCode_new (t : MpTree) (codePrefix : String) (ci : Nat) :
    givenCode t codePrefix ci = "" ∨ givenCode t codePrefix ci ∉ allCodes t := by
  unfold givenCode nextCode
  split
  · exact Or.inl rfl
  · split
    · exact Or.inl rfl
    · dsimp only
      cases found : ((List.range' 1 99).map (numberedCode codePrefix ci)).find? (fun code => decide (code ∉ allCodes t)) with
      | none => exact Or.inl rfl
      | some code =>
        have new := List.find?_some found
        exact Or.inr (of_decide_eq_true new)

theorem frame_split (before after : List MpChapter) (c : MpChapter) :
    (MpTree.mk (before ++ c :: after)).frame = (MpTree.mk before).frame ++ (c.frame ++ (MpTree.mk after).frame) := by
  simp only [MpTree.frame, List.flatMap_append, List.flatMap_cons]

theorem points_split (before after : List MpChapter) (c : MpChapter) :
    (MpTree.mk (before ++ c :: after)).points = (MpTree.mk before).points ++ (c.points ++ (MpTree.mk after).points) := by
  simp only [MpTree.points, List.flatMap_append, List.flatMap_cons]

/-- One chapter gains what the tree gains. -/
theorem grown_chapter {before after : List MpChapter} {c c' : MpChapter} {newId : String}
    (grown : (c'.frame.Perm (newId :: c.frame) ∧ c'.points.Perm c.points) ∨
      (c'.frame.Perm c.frame ∧ ∃ code, (code = "" ∨ code ∉ allCodes ⟨before ++ c :: after⟩) ∧
        c'.points.Perm (newKpNode code newId :: c.points))) :
    Grown ⟨before ++ c :: after⟩ ⟨before ++ c' :: after⟩ newId := by
  simp only [Grown, frame_split, points_split]
  rcases grown with ⟨frame, points⟩ | ⟨frame, code, new, points⟩
  · refine Or.inl ⟨?_, (points.append_right _).append_left _⟩
    exact ((frame.append_right _).append_left _).trans List.perm_middle
  · refine Or.inr ⟨(frame.append_right _).append_left _, code, new, ?_⟩
    exact ((points.append_right _).append_left _).trans List.perm_middle

theorem addSibling_grown {t t' : MpTree} {refId codePrefix newId given : String} (distinct : t.nodeIds.Nodup)
    (added : addSibling t refId codePrefix newId = some (t', given)) : given = newId ∧ Grown t t' newId := by
  unfold addSibling at added
  cases found : locate t refId with
  | none => rw [found] at added; cases added
  | some hit =>
    have new := givenCode_new t codePrefix
    rw [found] at added
    cases locate_spec found with
    | chapter before after c named =>
      simp only [Option.some.injEq, Prod.mk.injEq] at added
      obtain ⟨rfl, rfl⟩ := added
      refine ⟨rfl, Or.inl ?_⟩
      rw [insertIdx_next]
      simp only [MpTree.frame, MpTree.points, List.flatMap_append, List.flatMap_cons]
      refine ⟨?_, List.Perm.refl _⟩
      rw [List.perm_iff_count]
      intro x
      have blank : (emptyChapter newId).frame = [newId] := rfl
      simp only [blank, List.count_cons, List.count_append, List.count_nil]
      omega
    | section_ before after left right c s inside named =>
      simp only [Option.some.injEq, Prod.mk.injEq] at added
      obtain ⟨rfl, rfl⟩ := added
      rw [mapChapters_at, inside, insertIdx_next]
      refine ⟨rfl, grown_chapter (Or.inl ⟨?_, ?_⟩)⟩
      · rw [List.perm_iff_count]
        intro x
        simp only [MpChapter.frame, inside, List.map_append, List.map_cons, List.count_cons, List.count_append]
        omega
      · simp only [MpChapter.points, inside, List.flatMap_append, List.flatMap_cons, List.nil_append]
        exact List.Perm.refl _
    | sectionKp before after left right c s first rest k inside listed named =>
      simp only [Option.some.injEq, Prod.mk.injEq] at added
      obtain ⟨rfl, rfl⟩ := added
      have sections := nodup_sections distinct (List.mem_append_right before List.mem_cons_self)
      rw [inside] at sections
      rw [mapChapters_at, inside, map_keyed _ sections, listed, insertIdx_next]
      refine ⟨rfl, grown_chapter (Or.inr ⟨?_, _, new before.length, ?_⟩)⟩
      · simp only [MpChapter.frame, inside, List.map_append, List.map_cons]
        exact List.Perm.refl _
      · rw [List.perm_iff_count]
        intro x
        simp only [MpChapter.points, inside, listed, List.flatMap_append, List.flatMap_cons, List.count_cons, List.count_append]
        omega
    | chapterKp before after c first rest k listed named =>
      simp only [Option.some.injEq, Prod.mk.injEq] at added
      obtain ⟨rfl, rfl⟩ := added
      rw [mapChapters_at, listed, insertIdx_next]
      refine ⟨rfl, grown_chapter (Or.inr ⟨List.Perm.refl _, _, new before.length, ?_⟩)⟩
      rw [List.perm_iff_count]
      intro x
      simp only [MpChapter.points, listed, List.count_cons, List.count_append]
      omega

theorem addChild_grown {t t' : MpTree} {parentId codePrefix newId given : String} (distinct : t.nodeIds.Nodup)
    (added : addChild t parentId codePrefix newId = some (t', given)) : given = newId ∧ Grown t t' newId := by
  unfold addChild at added
  cases found : locate t parentId with
  | none => rw [found] at added; cases added
  | some hit =>
    have new := givenCode_new t codePrefix
    rw [found] at added
    cases locate_spec found with
    | chapter before after c named =>
      simp only [Option.some.injEq, Prod.mk.injEq] at added
      obtain ⟨rfl, rfl⟩ := added
      rw [mapChapters_at]
      refine ⟨rfl, grown_chapter (Or.inl ⟨?_, ?_⟩)⟩
      · rw [List.perm_iff_count]
        intro x
        simp only [MpChapter.frame, List.map_append, List.map_cons, List.map_nil, List.count_cons, List.count_append,
          List.count_nil]
        omega
      · simp only [MpChapter.points, List.flatMap_append, List.flatMap_cons, List.flatMap_nil, List.append_nil]
        exact List.Perm.refl _
    | section_ before after left right c s inside named =>
      simp only [Option.some.injEq, Prod.mk.injEq] at added
      obtain ⟨rfl, rfl⟩ := added
      have sections := nodup_sections distinct (List.mem_append_right before List.mem_cons_self)
      rw [inside] at sections
      rw [mapChapters_at, inside, map_keyed _ sections]
      refine ⟨rfl, grown_chapter (Or.inr ⟨?_, _, new before.length, ?_⟩)⟩
      · simp only [MpChapter.frame, inside, List.map_append, List.map_cons]
        exact List.Perm.refl _
      · rw [List.perm_iff_count]
        intro x
        simp only [MpChapter.points, inside, List.flatMap_append, List.flatMap_cons, List.count_cons, List.count_append,
          List.count_nil]
        omega
    | sectionKp before after left right c s first rest k inside listed named => cases added
    | chapterKp before after c first rest k listed named => cases added

theorem addChapterKp_grown {t t' : MpTree} {chapterId codePrefix newId given : String}
    (added : addChapterKp t chapterId codePrefix newId = some (t', given)) : given = newId ∧ Grown t t' newId := by
  unfold addChapterKp at added
  cases found : locate t chapterId with
  | none => rw [found] at added; cases added
  | some hit =>
    have new := givenCode_new t codePrefix
    rw [found] at added
    cases locate_spec found with
    | chapter before after c named =>
      simp only [Option.some.injEq, Prod.mk.injEq] at added
      obtain ⟨rfl, rfl⟩ := added
      rw [mapChapters_at]
      refine ⟨rfl, grown_chapter (Or.inr ⟨List.Perm.refl _, _, new before.length, ?_⟩)⟩
      rw [List.perm_iff_count]
      intro x
      simp only [MpChapter.points, List.count_cons, List.count_append, List.count_nil]
      omega
    | section_ before after left right c s inside named => cases added
    | sectionKp before after left right c s first rest k inside listed named => cases added
    | chapterKp before after c first rest k listed named => cases added

/-- The same nodes in another place. -/
def Rearranged (t t' : MpTree) : Prop := t'.frame.Perm t.frame ∧ t'.points.Perm t.points

theorem rearranged_chapter {before after : List MpChapter} {c c' : MpChapter} (frame : c'.frame.Perm c.frame)
    (points : c'.points.Perm c.points) : Rearranged ⟨before ++ c :: after⟩ ⟨before ++ c' :: after⟩ := by
  rw [Rearranged, frame_split, frame_split, points_split, points_split]
  exact ⟨(frame.append_right _).append_left _, (points.append_right _).append_left _⟩

theorem nodup_sectionPoints {t : MpTree} {c : MpChapter} {s : MpSection} (distinct : t.nodeIds.Nodup) (listed : c ∈ t.chapters)
    (inside : s ∈ c.sections) : (s.kps.map MpKp.id).Nodup := by
  have part : s.kps.Sublist c.points :=
    (sublist_flatMap MpSection.kps inside).trans (List.sublist_append_left _ _)
  exact (part.map MpKp.id).nodup (nodup_chapterPoints distinct listed)

theorem promote_rearranged {t : MpTree} (id : String) (distinct : t.nodeIds.Nodup) : Rearranged t (promote t id) := by
  unfold promote
  cases found : locate t id with
  | none => exact ⟨List.Perm.refl _, List.Perm.refl _⟩
  | some hit =>
    cases locate_spec found with
    | chapter before after c named => exact ⟨List.Perm.refl _, List.Perm.refl _⟩
    | section_ before after left right c s inside named =>
      rcases List.eq_nil_or_concat before with rfl | ⟨earlier, p, rfl⟩
      · exact ⟨List.Perm.refl _, List.Perm.refl _⟩
      · have sections := nodup_sections distinct (List.mem_append_right (earlier.concat p) List.mem_cons_self)
        rw [inside] at sections
        subst named
        simp only [List.concat_eq_append, List.length_append, List.length_singleton, List.append_assoc, List.singleton_append]
        rw [mapIdx_pair, inside, filter_keyed sections]
        constructor
        · rw [List.perm_iff_count]
          intro x
          simp only [MpTree.frame, MpChapter.frame, inside, List.flatMap_append, List.flatMap_cons, List.map_append,
            List.map_cons, List.map_nil, List.count_cons, List.count_append, List.count_nil]
          omega
        · rw [List.perm_iff_count]
          intro x
          simp only [MpTree.points, MpChapter.points, inside, List.flatMap_append, List.flatMap_cons, List.flatMap_nil,
            List.count_append, List.count_nil]
          omega
    | sectionKp before after left right c s first rest k inside listed named =>
      have sections := nodup_sections distinct (List.mem_append_right before List.mem_cons_self)
      have points := nodup_sectionPoints distinct (List.mem_append_right before List.mem_cons_self)
        (show s ∈ c.sections by rw [inside]; exact List.mem_append_right _ List.mem_cons_self)
      rw [inside] at sections
      rw [listed] at points
      subst named
      dsimp only
      rw [mapChapters_at, inside, map_keyed _ sections, listed, filter_keyed points]
      apply rearranged_chapter
      · simp only [MpChapter.frame, inside, List.map_append, List.map_cons]
        exact List.Perm.refl _
      · rw [List.perm_iff_count]
        intro x
        simp only [MpChapter.points, inside, listed, List.flatMap_append, List.flatMap_cons, List.count_cons,
          List.count_append, List.count_nil]
        omega
    | chapterKp before after c first rest k listed named => exact ⟨List.Perm.refl _, List.Perm.refl _⟩

theorem perm_swap {α : Type} (dir : Dir) (arr : List α) (i : Nat) : (swap dir arr i).Perm arr := by
  unfold swap
  dsimp only
  split
  · exact List.Perm.refl _
  · split
    · rename_i x y left right
      obtain ⟨first, rfl⟩ := List.getElem?_eq_some_iff.mp left
      obtain ⟨second, rfl⟩ := List.getElem?_eq_some_iff.mp right
      exact List.set_set_perm first second
    · exact List.Perm.refl _

theorem moveWithin_rearranged {t : MpTree} (id : String) (dir : Dir) (distinct : t.nodeIds.Nodup) :
    Rearranged t (moveWithin t id dir) := by
  unfold moveWithin
  cases found : locate t id with
  | none => exact ⟨List.Perm.refl _, List.Perm.refl _⟩
  | some hit =>
    cases locate_spec found with
    | chapter before after c named =>
      have order := perm_swap dir (before ++ c :: after) before.length
      exact ⟨order.flatMap_right _, order.flatMap_right _⟩
    | section_ before after left right c s inside named =>
      have order := perm_swap dir c.sections left.length
      dsimp only
      rw [mapChapters_at]
      exact rearranged_chapter ((order.map MpSection.id).cons c.id) ((order.flatMap_right MpSection.kps).append_right c.kps)
    | sectionKp before after left right c s first rest k inside listed named =>
      have sections := nodup_sections distinct (List.mem_append_right before List.mem_cons_self)
      have order := perm_swap dir s.kps first.length
      rw [inside] at sections
      dsimp only
      rw [mapChapters_at, inside, map_keyed _ sections]
      apply rearranged_chapter
      · simp only [MpChapter.frame, inside, List.map_append, List.map_cons]
        exact List.Perm.refl _
      · simp only [MpChapter.points, inside, List.flatMap_append, List.flatMap_cons]
        exact ((order.append_right _).append_left _).append_right _
    | chapterKp before after c first rest k listed named =>
      have order := perm_swap dir c.kps first.length
      dsimp only
      rw [mapChapters_at]
      exact rearranged_chapter (List.Perm.refl _) (order.append_left _)

/-- A tree that has lost a node with all below it, and gained an empty chapter if it got one to start again with. -/
def Pruned (t t' : MpTree) (id : String) (reseedId : Option String) (removed : List String) : Prop :=
  ∃ gone lost reseeded, reseeded.Sublist reseedId.toList ∧ (t'.frame ++ gone).Perm (reseeded ++ t.frame) ∧
    (t'.points ++ lost).Perm t.points ∧ id ∈ gone ++ lost.map MpKp.id ∧ ∀ x, x ∈ removed ↔ x = id ∨ x ∈ lost.map MpKp.id

def leftOut (id : String) (c : MpChapter) : MpChapter :=
  { c with
    sections := c.sections.map (fun s => { s with kps := s.kps.filter (fun k => decide (k.id ≠ id)) })
    kps := c.kps.filter (fun k => decide (k.id ≠ id)) }

theorem frame_leftOut (id : String) (c : MpChapter) : (leftOut id c).frame = c.frame := by
  simp only [MpChapter.frame, leftOut, List.map_map, Function.comp_def]

theorem points_leftOut (id : String) (c : MpChapter) :
    (leftOut id c).points = c.points.filter (fun k => decide (k.id ≠ id)) := by
  simp only [MpChapter.points, leftOut, List.filter_append, List.filter_flatMap, List.flatMap_map]

theorem pruned_point {before after : List MpChapter} {c : MpChapter} {left right : List MpKp} {k : MpKp} {reseedId : Option String}
    (distinct : (MpTree.mk (before ++ c :: after)).nodeIds.Nodup) (split : c.points = left ++ k :: right) :
    Pruned ⟨before ++ c :: after⟩ ⟨before ++ leftOut k.id c :: after⟩ k.id reseedId [k.id] := by
  have points := nodup_chapterPoints distinct (List.mem_append_right before List.mem_cons_self)
  rw [split] at points
  refine ⟨[], [k], [], List.nil_sublist _, ?_, ?_, List.mem_singleton_self _, by simp⟩
  · rw [frame_split, frame_split, frame_leftOut, List.append_nil]
    exact List.Perm.refl _
  · rw [points_split, points_split, points_leftOut, split, filter_keyed points, List.perm_iff_count]
    intro x
    simp only [List.count_cons, List.count_append, List.count_nil]
    omega

theorem removeNode_pruned {t : MpTree} {id : String} (reseedId : Option String) (distinct : t.nodeIds.Nodup) {hit : MpHit}
    (found : locate t id = some hit) : Pruned t (removeNode t id reseedId).1 id reseedId (removeNode t id reseedId).2 := by
  unfold removeNode
  rw [found]
  cases locate_spec found with
  | chapter before after c named =>
    have chapters := nodup_chapters distinct
    subst named
    dsimp only
    rw [filter_keyed chapters]
    have left : ∀ reseeded : List String, reseeded.Sublist reseedId.toList →
        Pruned ⟨before ++ c :: after⟩ ⟨before ++ after ++ reseeded.map emptyChapter⟩ c.id reseedId
          (c.id :: removedKpIds (c.sections.map MpSection.kps) ++ removedKpIds [c.kps]) := by
      intro reseeded fresh
      have blankFrame : ∀ ids : List String, (ids.map emptyChapter).flatMap MpChapter.frame = ids := by
        intro ids
        induction ids with
        | nil => rfl
        | cons x ids ih => rw [List.map_cons, List.flatMap_cons, ih]; rfl
      have blankPoints : ∀ ids : List String, (ids.map emptyChapter).flatMap MpChapter.points = [] := by
        intro ids
        induction ids with
        | nil => rfl
        | cons x ids ih => rw [List.map_cons, List.flatMap_cons, ih]; rfl
      refine ⟨c.frame, c.points, reseeded, fresh, ?_, ?_, List.mem_cons_self, ?_⟩
      · rw [List.perm_iff_count]
        intro x
        simp only [MpTree.frame, List.flatMap_append, List.flatMap_cons, blankFrame, List.count_append]
        omega
      · rw [List.perm_iff_count]
        intro x
        simp only [MpTree.points, List.flatMap_append, List.flatMap_cons, blankPoints, List.count_append, List.count_nil]
        omega
      · intro x
        simp [removedKpIds, MpChapter.points, List.flatMap_map, List.map_flatMap]
    cases reseedId with
    | none => simpa using left [] (List.nil_sublist _)
    | some fresh =>
      dsimp only
      split
      · exact left [fresh] (List.Sublist.refl _)
      · simpa using left [] (List.nil_sublist _)
  | section_ before after left right c s inside named =>
    have sections := nodup_sections distinct (List.mem_append_right before List.mem_cons_self)
    rw [inside] at sections
    subst named
    dsimp only
    rw [mapChapters_at, inside, filter_keyed sections]
    refine ⟨[s.id], s.kps, [], List.nil_sublist _, ?_, ?_, List.mem_cons_self, ?_⟩
    · rw [frame_split, frame_split, List.perm_iff_count]
      intro x
      simp only [MpChapter.frame, inside, List.map_append, List.map_cons, List.count_cons, List.count_append,
        List.count_nil]
      omega
    · rw [points_split, points_split, List.perm_iff_count]
      intro x
      simp only [MpChapter.points, inside, List.flatMap_append, List.flatMap_cons, List.count_append]
      omega
    · simp [removedKpIds]
  | sectionKp before after left right c s first rest k inside listed named =>
    subst named
    dsimp only
    rw [mapChapters_at]
    have split : c.points = (left.flatMap MpSection.kps ++ first) ++ k :: (rest ++ right.flatMap MpSection.kps ++ c.kps) := by
      simp only [MpChapter.points, inside, listed, List.flatMap_append, List.flatMap_cons, List.append_assoc, List.cons_append]
    exact pruned_point distinct split
  | chapterKp before after c first rest k listed named =>
    subst named
    dsimp only
    rw [mapChapters_at]
    have split : c.points = (c.sections.flatMap MpSection.kps ++ first) ++ k :: rest := by
      simp only [MpChapter.points, listed, List.append_assoc]
    exact pruned_point distinct split

/-! A change of the fields. -/

theorem updateNode_frame (t : MpTree) (id : String) (patch : MpPatch) : (updateNode t id patch).frame = t.frame := by
  unfold updateNode
  cases found : locate t id with
  | none => rfl
  | some hit =>
    cases locate_spec found with
    | chapter before after c named =>
      dsimp only
      rw [mapChapters_at, frame_split, frame_split]
      rfl
    | section_ before after left right c s inside named =>
      dsimp only
      rw [mapChapters_at, frame_split, frame_split]
      congr 2
      simp only [MpChapter.frame, List.map_map, List.cons.injEq, true_and]
      apply List.map_congr_left
      intro s _
      simp only [Function.comp_apply]
      split <;> rfl
    | sectionKp before after left right c s first rest k inside listed named =>
      dsimp only
      rw [mapChapters_at, frame_split, frame_split]
      simp only [MpChapter.frame, List.map_map, Function.comp_def]
    | chapterKp before after c first rest k listed named =>
      dsimp only
      rw [mapChapters_at, frame_split, frame_split]
      simp only [MpChapter.frame, List.map_map, Function.comp_def]

/-- The points change one by one, each into itself or into what the patch makes of it. -/
theorem updateNode_points (t : MpTree) (id : String) (patch : MpPatch) :
    List.Forall₂ (fun k k' => k' = k ∨ k.id = id ∧ k' = patch.apply k) t.points (updateNode t id patch).points := by
  have same : ∀ kps : List MpKp, List.Forall₂ (fun k k' => k' = k ∨ k.id = id ∧ k' = patch.apply k) kps kps :=
    fun kps => List.forall₂_same.mpr (fun k _ => Or.inl rfl)
  have patched : ∀ kps : List MpKp, List.Forall₂ (fun k k' => k' = k ∨ k.id = id ∧ k' = patch.apply k) kps
      (kps.map (fun k => if k.id = id then patch.apply k else k)) := by
    intro kps
    rw [List.forall₂_map_right_iff]
    refine List.forall₂_same.mpr (fun k _ => ?_)
    by_cases named : k.id = id
    · rw [if_pos named]
      exact Or.inr ⟨named, rfl⟩
    · rw [if_neg named]
      exact Or.inl rfl
  have chapter : ∀ c : MpChapter, List.Forall₂ (fun k k' => k' = k ∨ k.id = id ∧ k' = patch.apply k) c.points
      (c.points.map (fun k => if k.id = id then patch.apply k else k)) := fun c => patched c.points
  unfold updateNode
  cases found : locate t id with
  | none => exact same _
  | some hit =>
    cases locate_spec found with
    | chapter before after c named =>
      dsimp only
      rw [mapChapters_at, points_split, points_split]
      exact same _
    | section_ before after left right c s inside named =>
      dsimp only
      rw [mapChapters_at, points_split, points_split]
      convert same _ using 3
      simp only [MpChapter.points, List.flatMap_map]
      congr 1
      apply List.flatMap_congr
      intro s _
      split <;> rfl
    | sectionKp before after left right c s first rest k inside listed named =>
      dsimp only
      rw [mapChapters_at, points_split, points_split]
      refine List.rel_append (same _) (List.rel_append ?_ (same _))
      convert chapter c using 1
      simp only [MpChapter.points, List.flatMap_map, List.map_append, List.map_flatMap]
    | chapterKp before after c first rest k listed named =>
      dsimp only
      rw [mapChapters_at, points_split, points_split]
      refine List.rel_append (same _) (List.rel_append ?_ (same _))
      convert chapter c using 1
      simp only [MpChapter.points, List.flatMap_map, List.map_append, List.map_flatMap]

end KnowledgeGap.MindMap
