import KnowledgeGap.Kb.Graph

namespace KnowledgeGap.KpGraph

open Relational

variable {K : Type}

def Ancestor.rename (f : Nat → Nat) (a : Ancestor K) : Ancestor K := { a with kpId := f a.kpId }

/-- One adjacency is the other with its points renamed, seen from the points in `inside`. -/
structure Renames (f : Nat → Nat) (inside : List Nat) (edges edges' : Nat → List (Nat × K)) : Prop where
  injective : ∀ a ∈ inside, ∀ b ∈ inside, f a = f b → a = b
  closed : ∀ k, ∀ e ∈ edges k, e.1 ∈ inside
  edges : ∀ k ∈ inside, edges' (f k) = (edges k).map (Prod.map f id)

section
variable {f : Nat → Nat} {inside : List Nat}

theorem mem_map_iff_of_inside (injective : ∀ a ∈ inside, ∀ b ∈ inside, f a = f b → a = b) {ks : List Nat}
    (within : ∀ k ∈ ks, k ∈ inside) {k : Nat} (member : k ∈ inside) : f k ∈ ks.map f ↔ k ∈ ks := by
  constructor
  · intro image
    obtain ⟨j, listed, same⟩ := List.mem_map.mp image
    rw [← injective j (within j listed) k member same]
    exact listed
  · exact List.mem_map_of_mem

def renameQueue (f : Nat → Nat) (queue : List (Nat × Nat) × List (Ancestor K)) :
    List (Nat × Nat) × List (Ancestor K) :=
  (queue.1.map (Prod.map f id), queue.2.map (Ancestor.rename f))

/-- Whatever the search holds is a point of `inside`. -/
structure QueueInside (inside : List Nat) (queue : List (Nat × Nat) × List (Ancestor K)) : Prop where
  frontier : ∀ q ∈ queue.1, q.1 ∈ inside
  seen : ∀ k ∈ queue.2.map Ancestor.kpId, k ∈ inside

theorem map_kpId_rename (f : Nat → Nat) (seen : List (Ancestor K)) :
    (seen.map (Ancestor.rename f)).map Ancestor.kpId = (seen.map Ancestor.kpId).map f := by
  rw [List.map_map, List.map_map]
  rfl

theorem visit_inside (depth : Nat) {queue : List (Nat × Nat) × List (Ancestor K)} {edge : Nat × K}
    (held : QueueInside inside queue) (member : edge.1 ∈ inside) : QueueInside inside (visit depth queue edge) := by
  unfold visit
  split
  · exact held
  · refine ⟨?_, ?_⟩
    · intro q listed
      rcases List.mem_append.mp listed with earlier | last
      · exact held.frontier q earlier
      · rw [List.mem_singleton.mp last]
        exact member
    · intro k listed
      rw [List.map_append, List.mem_append] at listed
      rcases listed with earlier | last
      · exact held.seen k earlier
      · rw [List.mem_singleton.mp last]
        exact member

theorem visit_rename (injective : ∀ a ∈ inside, ∀ b ∈ inside, f a = f b → a = b) {depth : Nat}
    {queue : List (Nat × Nat) × List (Ancestor K)} {edge : Nat × K} (held : QueueInside inside queue)
    (member : edge.1 ∈ inside) :
    visit depth (renameQueue f queue) (Prod.map f id edge) = renameQueue f (visit depth queue edge) := by
  have known : (Prod.map f id edge).1 ∈ (renameQueue f queue).2.map Ancestor.kpId ↔
      edge.1 ∈ queue.2.map Ancestor.kpId := by
    rw [renameQueue, map_kpId_rename]
    exact mem_map_iff_of_inside injective held.seen member
  unfold visit
  by_cases old : edge.1 ∈ queue.2.map Ancestor.kpId
  · rw [if_pos (known.mpr old), if_pos old]
  · rw [if_neg (fun new => old (known.mp new)), if_neg old]
    simp [renameQueue, Ancestor.rename]

theorem visitAll_rename (injective : ∀ a ∈ inside, ∀ b ∈ inside, f a = f b → a = b) (depth : Nat)
    {edges : List (Nat × K)} {queue : List (Nat × Nat) × List (Ancestor K)} (held : QueueInside inside queue)
    (closed : ∀ e ∈ edges, e.1 ∈ inside) :
    QueueInside inside (edges.foldl (visit depth) queue) ∧
      (edges.map (Prod.map f id)).foldl (visit depth) (renameQueue f queue) =
        renameQueue f (edges.foldl (visit depth) queue) := by
  induction edges generalizing queue with
  | nil => exact ⟨held, rfl⟩
  | cons e edges ih =>
    have next := visit_inside depth held (closed e (by simp))
    have rest := ih next (fun e member => closed e (by simp [member]))
    refine ⟨rest.1, ?_⟩
    rw [List.map_cons, List.foldl_cons, List.foldl_cons, visit_rename injective held (closed e (by simp))]
    exact rest.2

theorem search_rename {edges edges' : Nat → List (Nat × K)} (renames : Renames f inside edges edges')
    (maxDepth fuel : Nat) {queue : List (Nat × Nat) × List (Ancestor K)} (held : QueueInside inside queue) :
    search edges' maxDepth fuel (renameQueue f queue).1 (renameQueue f queue).2 =
      (search edges maxDepth fuel queue.1 queue.2).map (Ancestor.rename f) := by
  induction fuel generalizing queue with
  | zero => rfl
  | succ fuel ih =>
    obtain ⟨frontier, seen⟩ := queue
    cases frontier with
    | nil => rfl
    | cons q frontier =>
      obtain ⟨current, depth⟩ := q
      have rest : QueueInside inside (frontier, seen) :=
        ⟨fun q member => held.frontier q (by simp [member]), held.seen⟩
      have here : current ∈ inside := held.frontier (current, depth) (by simp)
      show search edges' maxDepth (fuel + 1) ((f current, depth) :: (renameQueue f (frontier, seen)).1)
        (renameQueue f (frontier, seen)).2 = _
      unfold search
      split
      · exact ih rest
      · have walked := visitAll_rename renames.injective depth rest (renames.closed current)
        rw [renames.edges current here]
        dsimp only
        rw [walked.2]
        exact ih walked.1

end

section
variable {inside : List Nat} {edges : Nat → List (Nat × K)}

/-- The points a search has still to come across, and those it has yet to expand. -/
def outstanding (inside : List Nat) (queue : List (Nat × Nat) × List (Ancestor K)) : Nat :=
  queue.1.length + (inside.filter (fun k => decide (k ∉ queue.2.map Ancestor.kpId))).length

theorem outstanding_visit (depth : Nat) {queue : List (Nat × Nat) × List (Ancestor K)} {edge : Nat × K}
    (member : edge.1 ∈ inside) : outstanding inside (visit depth queue edge) ≤ outstanding inside queue := by
  unfold visit
  split
  · exact Nat.le_refl _
  · rename_i new
    have narrowed : inside.filter (fun k => decide (k ∉ (queue.2 ++ [(⟨edge.1, depth + 1, edge.2⟩ : Ancestor K)]).map
        Ancestor.kpId)) =
        (inside.filter (fun k => decide (k ∉ queue.2.map Ancestor.kpId))).filter (fun k => decide (k ≠ edge.1)) := by
      rw [List.filter_filter]
      apply List.filter_congr
      intro k _
      simp [Bool.and_comm]
    have fewer : ((inside.filter (fun k => decide (k ∉ queue.2.map Ancestor.kpId))).filter
        (fun k => decide (k ≠ edge.1))).length <
        (inside.filter (fun k => decide (k ∉ queue.2.map Ancestor.kpId))).length :=
      List.length_filter_lt_length_iff_exists.mpr
        ⟨edge.1, List.mem_filter.mpr ⟨member, by simpa using new⟩, by simp⟩
    simp only [outstanding, List.length_append, List.length_singleton, narrowed]
    omega

theorem visitAll_inside (depth : Nat) {targets : List (Nat × K)} {queue : List (Nat × Nat) × List (Ancestor K)}
    (held : QueueInside inside queue) (closed : ∀ e ∈ targets, e.1 ∈ inside) :
    QueueInside inside (targets.foldl (visit depth) queue) ∧
      outstanding inside (targets.foldl (visit depth) queue) ≤ outstanding inside queue := by
  induction targets generalizing queue with
  | nil => exact ⟨held, Nat.le_refl _⟩
  | cons e targets ih =>
    have here := closed e (by simp)
    have rest := ih (visit_inside depth held here) (fun e later => closed e (by simp [later]))
    exact ⟨rest.1, Nat.le_trans rest.2 (outstanding_visit depth here)⟩

/-- More fuel than there are points to come across changes nothing. -/
theorem search_enough (closed : ∀ k ∈ inside, ∀ e ∈ edges k, e.1 ∈ inside) (maxDepth extra : Nat) {fuel : Nat}
    {queue : List (Nat × Nat) × List (Ancestor K)} (held : QueueInside inside queue)
    (enough : outstanding inside queue ≤ fuel) :
    search edges maxDepth (fuel + extra) queue.1 queue.2 = search edges maxDepth fuel queue.1 queue.2 := by
  induction fuel generalizing queue with
  | zero =>
    obtain ⟨frontier, seen⟩ := queue
    have empty : frontier = [] := by
      apply List.length_eq_zero_iff.mp
      simp only [outstanding] at enough
      omega
    subst empty
    cases extra <;> simp [search]
  | succ fuel ih =>
    obtain ⟨frontier, seen⟩ := queue
    rw [Nat.add_right_comm]
    cases frontier with
    | nil => rfl
    | cons q frontier =>
      obtain ⟨current, depth⟩ := q
      have rest : QueueInside inside (frontier, seen) :=
        ⟨fun q member => held.frontier q (by simp [member]), held.seen⟩
      have left : outstanding inside (frontier, seen) ≤ fuel := by
        simp only [outstanding, List.length_cons] at enough ⊢
        omega
      unfold search
      split
      · exact ih rest left
      · have here : current ∈ inside := held.frontier (current, depth) (by simp)
        have walked := visitAll_inside depth rest (closed current here)
        exact ih walked.1 (Nat.le_trans walked.2 left)

theorem search_inside (closed : ∀ k ∈ inside, ∀ e ∈ edges k, e.1 ∈ inside) (maxDepth fuel : Nat)
    {queue : List (Nat × Nat) × List (Ancestor K)} (held : QueueInside inside queue) :
    ∀ a ∈ search edges maxDepth fuel queue.1 queue.2, a.kpId ∈ inside := by
  induction fuel generalizing queue with
  | zero =>
    intro a member
    exact held.seen a.kpId (List.mem_map_of_mem member)
  | succ fuel ih =>
    obtain ⟨frontier, seen⟩ := queue
    cases frontier with
    | nil =>
      intro a member
      exact held.seen a.kpId (List.mem_map_of_mem member)
    | cons q frontier =>
      obtain ⟨current, depth⟩ := q
      have rest : QueueInside inside (frontier, seen) :=
        ⟨fun q member => held.frontier q (by simp [member]), held.seen⟩
      unfold search
      split
      · exact ih rest
      · have here : current ∈ inside := held.frontier (current, depth) (by simp)
        exact ih (visitAll_inside depth rest (closed current here)).1

end

theorem sort_rename (f : Nat → Nat) (found : List (Ancestor K)) :
    stableSort (fun a b => decide (a.depth ≤ b.depth)) (found.map (Ancestor.rename f)) =
      (stableSort (fun a b => decide (a.depth ≤ b.depth)) found).map (Ancestor.rename f) := by
  symm
  apply List.map_insertionSort
  intro a _ b _
  exact Iff.rfl

theorem search_embedded {f : Nat → Nat} {inside : List Nat} {edges edges' : Nat → List (Nat × K)}
    (renames : Renames f inside edges edges') (maxDepth : Nat) {size size' : Nat} (enough : inside.length ≤ size)
    (larger : size ≤ size') {k : Nat} (member : k ∈ inside) :
    search edges' maxDepth (size' + 1) [(f k, 0)] [] =
      (search edges maxDepth (size + 1) [(k, 0)] []).map (Ancestor.rename f) := by
  obtain ⟨extra, rfl⟩ := Nat.exists_eq_add_of_le larger
  have start : QueueInside (K := K) inside ([(k, 0)], []) := ⟨by simpa using member, by simp⟩
  have image : QueueInside (K := K) (inside.map f) ([(f k, 0)], []) :=
    ⟨by simpa using ⟨k, member, rfl⟩, by simp⟩
  have closed : ∀ j ∈ inside.map f, ∀ e ∈ edges' j, e.1 ∈ inside.map f := by
    intro j listed e edge
    obtain ⟨i, there, rfl⟩ := List.mem_map.mp listed
    rw [renames.edges i there] at edge
    obtain ⟨d, original, rfl⟩ := List.mem_map.mp edge
    exact List.mem_map_of_mem (renames.closed i d original)
  have bound : outstanding (K := K) (inside.map f) ([(f k, 0)], []) ≤ size + 1 := by
    simp only [outstanding, List.map_nil, List.not_mem_nil, not_false_eq_true, decide_true, List.filter_true,
      List.length_singleton, List.length_map]
    omega
  rw [Nat.add_right_comm]
  show search edges' maxDepth (size + 1 + extra) ([(f k, 0)], ([] : List (Ancestor K))).1
    ([(f k, 0)], ([] : List (Ancestor K))).2 = _
  rw [search_enough closed maxDepth extra image bound]
  exact search_rename renames maxDepth (size + 1) start

/-- The points of one graph stand in another under new keys, with the edges they had. -/
structure Embedding (f : Nat → Nat) (g h : KpGraph K) : Prop where
  injective : ∀ a ∈ g.kpIds, ∀ b ∈ g.kpIds, f a = f b → a = b
  size : g.points.length ≤ h.points.length
  prereq : ∀ k ∈ g.kpIds, h.prereq (f k) = (g.prereq k).map (Prod.map f id)
  confusable : ∀ k ∈ g.kpIds, h.confusable (f k) = (g.confusable k).map f

namespace Embedding

variable {f : Nat → Nat} {g h : KpGraph K} {k : Nat}

theorem prerequisiteChain (e : Embedding f g h) (member : k ∈ g.kpIds) (maxDepth : Nat) :
    h.prerequisiteChain (f k) maxDepth = (g.prerequisiteChain k maxDepth).map (Ancestor.rename f) := by
  have renames : Renames f g.kpIds g.prereq h.prereq := ⟨e.injective, g.prereq_closed, e.prereq⟩
  have enough : g.kpIds.length ≤ g.points.length := by simp [kpIds]
  unfold KpGraph.prerequisiteChain
  rw [search_embedded renames maxDepth enough e.size member, sort_rename]

theorem descendants (e : Embedding f g h) (succ : ∀ k ∈ g.kpIds, h.succ (f k) = (g.succ k).map (Prod.map f id))
    (member : k ∈ g.kpIds) (maxDepth : Nat) :
    h.descendants (f k) maxDepth = (g.descendants k maxDepth).map (Ancestor.rename f) := by
  have renames : Renames f g.kpIds g.succ h.succ := ⟨e.injective, g.succ_closed, succ⟩
  have enough : g.kpIds.length ≤ g.points.length := by simp [kpIds]
  unfold KpGraph.descendants
  rw [search_embedded renames maxDepth enough e.size member, sort_rename]

end Embedding

theorem prerequisiteChain_inside (g : KpGraph K) {k : Nat} (member : k ∈ g.kpIds) (maxDepth : Nat) :
    ∀ a ∈ g.prerequisiteChain k maxDepth, a.kpId ∈ g.kpIds := by
  intro a listed
  have start : QueueInside (K := K) g.kpIds ([(k, 0)], []) := ⟨by simpa using member, by simp⟩
  exact search_inside (fun j _ => g.prereq_closed j) maxDepth _ start a (mem_stableSort.mp listed)

/-- A relation without its key. -/
structure Join (K : Type) where
  source : Nat
  target : Nat
  type : RelationType
  weight : K
  deriving DecidableEq, Repr

def joinOf (r : KpRelation K) : Join K := ⟨r.fromKpId, r.toKpId, r.type, r.weight⟩

def Join.rename (f : Nat → Nat) (j : Join K) : Join K := { j with source := f j.source, target := f j.target }

section
variable (db : Db K) (kbVersionId : Nat)

def pointIds : List Nat := (versionPoints db kbVersionId).map KnowledgePoint.id

/-- The relations with both ends in the version. -/
def versionRelations : List (KpRelation K) :=
  db.relations.select (fun r => decide (r.fromKpId ∈ pointIds db kbVersionId) &&
    decide (r.toKpId ∈ pointIds db kbVersionId))

def versionJoins : List (Join K) := (versionRelations db kbVersionId).map joinOf

end

def prereqOf (joins : List (Join K)) (k : Nat) : List (Nat × K) :=
  (joins.filter (fun j => j.type == .prerequisite && j.target == k)).map (fun j => (j.source, j.weight))

def succOf (joins : List (Join K)) (k : Nat) : List (Nat × K) :=
  (joins.filter (fun j => j.type == .prerequisite && j.source == k)).map (fun j => (j.target, j.weight))

/-- The far end becomes a partner of `k` when the near end is `k`. -/
def addPartner (k near far : Nat) (partners : List Nat) : List Nat :=
  if near = k ∧ far ∉ partners then partners ++ [far] else partners

def linkJoin (k : Nat) (partners : List Nat) (j : Join K) : List Nat :=
  addPartner k j.target j.source (addPartner k j.source j.target partners)

def confusableOf (joins : List (Join K)) (k : Nat) : List Nat :=
  (joins.filter (fun j => j.type == .confusable)).foldl (linkJoin k) []

section
variable (db : Db K) (kbVersionId : Nat)

theorem versionEdges_eq (type : RelationType) :
    versionEdges db kbVersionId type = (versionRelations db kbVersionId).filter (fun r => r.type == type) := by
  unfold versionEdges versionRelations pointIds Table.select
  rw [List.filter_filter]
  simp only [Bool.and_assoc]

theorem load_prereq (k : Nat) : (load db kbVersionId).prereq k = prereqOf (versionJoins db kbVersionId) k := by
  show ((versionEdges db kbVersionId .prerequisite).filter _).map _ = _
  rw [versionEdges_eq, prereqOf, versionJoins, List.filter_map, List.map_map, List.filter_filter]
  congr 1
  apply List.filter_congr
  intro r _
  exact Bool.and_comm _ _

theorem load_succ (k : Nat) : (load db kbVersionId).succ k = succOf (versionJoins db kbVersionId) k := by
  show ((versionEdges db kbVersionId .prerequisite).filter _).map _ = _
  rw [versionEdges_eq, succOf, versionJoins, List.filter_map, List.map_map, List.filter_filter]
  congr 1
  apply List.filter_congr
  intro r _
  exact Bool.and_comm _ _

theorem load_confusable (k : Nat) :
    (load db kbVersionId).confusable k = confusableOf (versionJoins db kbVersionId) k := by
  show (versionEdges db kbVersionId .confusable).foldl (link k) [] = _
  rw [versionEdges_eq, confusableOf, versionJoins, List.filter_map, List.foldl_map]
  rfl

theorem versionJoins_inside {j : Join K} (member : j ∈ versionJoins db kbVersionId) :
    j.source ∈ pointIds db kbVersionId ∧ j.target ∈ pointIds db kbVersionId := by
  obtain ⟨r, kept, rfl⟩ := List.mem_map.mp member
  have holds := List.of_mem_filter kept
  simpa [joinOf] using holds

end

section
variable {f : Nat → Nat} {inside : List Nat} {joins : List (Join K)}
  (injective : ∀ a ∈ inside, ∀ b ∈ inside, f a = f b → a = b)
  (ends : ∀ j ∈ joins, j.source ∈ inside ∧ j.target ∈ inside)
include injective ends

theorem prereqOf_rename {k : Nat} (member : k ∈ inside) :
    prereqOf (joins.map (Join.rename f)) (f k) = (prereqOf joins k).map (Prod.map f id) := by
  unfold prereqOf
  rw [List.filter_map, List.map_map, List.map_map]
  congr 1
  apply List.filter_congr
  intro j listed
  have same : (f j.target == f k) = (j.target == k) :=
    Bool.eq_iff_iff.mpr (by simpa using ⟨injective _ (ends j listed).2 _ member, congrArg f⟩)
  simp [Join.rename, same]

theorem succOf_rename {k : Nat} (member : k ∈ inside) :
    succOf (joins.map (Join.rename f)) (f k) = (succOf joins k).map (Prod.map f id) := by
  unfold succOf
  rw [List.filter_map, List.map_map, List.map_map]
  congr 1
  apply List.filter_congr
  intro j listed
  have same : (f j.source == f k) = (j.source == k) :=
    Bool.eq_iff_iff.mpr (by simpa using ⟨injective _ (ends j listed).1 _ member, congrArg f⟩)
  simp [Join.rename, same]

omit ends in
theorem addPartner_rename {k near far : Nat} (member : k ∈ inside) (left : near ∈ inside) (right : far ∈ inside)
    {partners : List Nat} (within : ∀ p ∈ partners, p ∈ inside) :
    addPartner (f k) (f near) (f far) (partners.map f) = (addPartner k near far partners).map f ∧
      ∀ p ∈ addPartner k near far partners, p ∈ inside := by
  have here : f near = f k ↔ near = k := ⟨injective _ left _ member, fun h => h ▸ rfl⟩
  have known := mem_map_iff_of_inside injective within right
  unfold addPartner
  by_cases new : near = k ∧ far ∉ partners
  · rw [if_pos new, if_pos ⟨here.mpr new.1, fun old => new.2 (known.mp old)⟩]
    refine ⟨by simp, ?_⟩
    intro p listed
    rcases List.mem_append.mp listed with earlier | last
    · exact within p earlier
    · rw [List.mem_singleton.mp last]
      exact right
  · rw [if_neg new, if_neg (fun h => new ⟨here.mp h.1, fun old => h.2 (known.mpr old)⟩)]
    exact ⟨rfl, within⟩

theorem linkJoin_rename {k : Nat} (member : k ∈ inside) {partners : List Nat}
    (within : ∀ p ∈ partners, p ∈ inside) {j : Join K} (listed : j ∈ joins) :
    linkJoin (f k) (partners.map f) (j.rename f) = (linkJoin k partners j).map f ∧
      ∀ p ∈ linkJoin k partners j, p ∈ inside := by
  obtain ⟨source, target⟩ := ends j listed
  have outgoing := addPartner_rename injective member source target within
  have incoming := addPartner_rename injective member target source outgoing.2
  unfold linkJoin Join.rename
  dsimp only
  rw [outgoing.1]
  exact incoming

theorem foldl_linkJoin_rename {k : Nat} (member : k ∈ inside) (listed : List (Join K))
    (among : ∀ j ∈ listed, j ∈ joins) (partners : List Nat) (within : ∀ p ∈ partners, p ∈ inside) :
    (listed.map (Join.rename f)).foldl (linkJoin (f k)) (partners.map f) =
      (listed.foldl (linkJoin k) partners).map f := by
  induction listed generalizing partners with
  | nil => rfl
  | cons j listed ih =>
    have here := linkJoin_rename injective ends member within (among j (by simp))
    rw [List.map_cons, List.foldl_cons, List.foldl_cons, here.1]
    exact ih (fun j later => among j (by simp [later])) _ here.2

theorem confusableOf_rename {k : Nat} (member : k ∈ inside) :
    confusableOf (joins.map (Join.rename f)) (f k) = (confusableOf joins k).map f := by
  unfold confusableOf
  rw [List.filter_map]
  exact foldl_linkJoin_rename injective ends member _ (fun j kept => List.mem_of_mem_filter kept)
    [] (by simp)

end

/-- Two loaded versions, the second with the points and relations of the first under new keys. -/
theorem embedding_of_joins {db after : Db K} {source copy : Nat} {f : Nat → Nat}
    (injective : ∀ a ∈ pointIds db source, ∀ b ∈ pointIds db source, f a = f b → a = b)
    (size : (versionPoints db source).length ≤ (versionPoints after copy).length)
    (joins : versionJoins after copy = (versionJoins db source).map (Join.rename f)) :
    Embedding f (load db source) (load after copy) where
  injective := injective
  size := size
  prereq := by
    intro k member
    rw [load_prereq, load_prereq, joins]
    exact prereqOf_rename injective (fun j listed => versionJoins_inside db source listed) member
  confusable := by
    intro k member
    rw [load_confusable, load_confusable, joins]
    exact confusableOf_rename injective (fun j listed => versionJoins_inside db source listed) member

theorem succ_of_joins {db after : Db K} {source copy : Nat} {f : Nat → Nat}
    (injective : ∀ a ∈ pointIds db source, ∀ b ∈ pointIds db source, f a = f b → a = b)
    (joins : versionJoins after copy = (versionJoins db source).map (Join.rename f)) :
    ∀ k ∈ (load db source).kpIds, (load after copy).succ (f k) = ((load db source).succ k).map (Prod.map f id) := by
  intro k member
  rw [load_succ, load_succ, joins]
  exact succOf_rename injective (fun j listed => versionJoins_inside db source listed) member

end KnowledgeGap.KpGraph
