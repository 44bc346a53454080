import KnowledgeGap.Kb.Graph
import KnowledgeGap.Search.Walk

namespace KnowledgeGap

open Relational Search

namespace KpGraph

variable {K : Type}

def targets (edges : Nat → List (Nat × K)) (k : Nat) : List Nat := (edges k).map Prod.fst

/-- From a point to one of its edges' ends. -/
def Steps (edges : Nat → List (Nat × K)) (a b : Nat) : Prop := b ∈ targets edges a

def Ancestor.entry (e : Ancestor K) : Nat × Nat := (e.kpId, e.depth)

variable (edges : Nat → List (Nat × K)) (start bound : Nat)

/-- The first of the points looked at that has an edge to this one is one step nearer, and its first such edge gives
    the weight. -/
structure Discovered (looked : List (Nat × Nat)) (e : Ancestor K) : Prop where
  first : ∃ before p depth after, looked = before ++ (p, depth) :: after ∧ e.depth = depth + 1 ∧ depth < bound ∧
    (∀ q ∈ before, e.kpId ∉ targets edges q.1) ∧
    (edges p).find? (fun edge => edge.1 == e.kpId) = some (e.kpId, e.edgeWeight)

/-- The queue while the edges of its old head are looked at: what was looked at before, the head, the edges of it looked
    at so far, what is to come, and what was found. -/
structure Scan (looked : List (Nat × Nat)) (current : Nat × Nat) (scanned : List (Nat × K))
    (queue : List (Nat × Nat)) (seen : List (Ancestor K)) : Prop where
  order : looked ++ current :: queue = (start, 0) :: seen.map Ancestor.entry
  sorted : (looked ++ current :: queue).Pairwise (fun a b => a.2 ≤ b.2)
  near : ∀ e ∈ queue, e.2 ≤ current.2 + 1
  nodup : (seen.map Ancestor.kpId).Nodup
  first : ∀ e ∈ seen, Discovered edges bound (looked ++ [current]) e
  closed : ∀ q ∈ looked, q.2 < bound → ∀ t ∈ targets edges q.1, t ∈ seen.map Ancestor.kpId
  done : ∀ edge ∈ scanned, edge.1 ∈ seen.map Ancestor.kpId

/-- The queue between two points. -/
structure Queue (looked queue : List (Nat × Nat)) (seen : List (Ancestor K)) : Prop where
  order : looked ++ queue = (start, 0) :: seen.map Ancestor.entry
  sorted : (looked ++ queue).Pairwise (fun a b => a.2 ≤ b.2)
  near : ∀ a ∈ queue, ∀ b ∈ queue, b.2 ≤ a.2 + 1
  nodup : (seen.map Ancestor.kpId).Nodup
  first : ∀ e ∈ seen, Discovered edges bound looked e
  closed : ∀ q ∈ looked, q.2 < bound → ∀ t ∈ targets edges q.1, t ∈ seen.map Ancestor.kpId

variable {edges start bound} {looked queue : List (Nat × Nat)} {seen : List (Ancestor K)}

theorem Discovered.more {e : Ancestor K} (found : Discovered edges bound looked e) (later : List (Nat × Nat)) :
    Discovered edges bound (looked ++ later) e := by
  have ⟨before, p, depth, after, split, rest⟩ := found.first
  refine ⟨before, p, depth, after ++ later, ?_, rest⟩
  rw [split, List.append_assoc, List.cons_append]

theorem Scan.look {current : Nat × Nat} {scanned rest : List (Nat × K)} {edge : Nat × K}
    (scan : Scan edges start bound looked current scanned queue seen) (shallow : current.2 < bound)
    (split : edges current.1 = scanned ++ edge :: rest) :
    Scan edges start bound looked current (scanned ++ [edge]) (visit current.2 (queue, seen) edge).1
      (visit current.2 (queue, seen) edge).2 := by
  by_cases known : edge.1 ∈ seen.map Ancestor.kpId
  · simp only [KpGraph.visit, known, ↓reduceIte]
    refine ⟨scan.order, scan.sorted, scan.near, scan.nodup, scan.first, scan.closed, ?_⟩
    intro other listed
    rcases List.mem_append.mp listed with old | new
    · exact scan.done other old
    · rw [List.mem_singleton.mp new]
      exact known
  · simp only [KpGraph.visit, known, ↓reduceIte]
    have fresh : ∀ t, t ∈ seen.map Ancestor.kpId → t ≠ edge.1 := by
      intro t held same
      exact known (same ▸ held)
    have upto : ∀ e ∈ looked ++ current :: queue, e.2 ≤ current.2 + 1 := by
      intro e listed
      rcases List.mem_append.mp listed with old | ahead
      · have order := (List.pairwise_append.mp scan.sorted).2.2 e old current (List.mem_cons_self ..)
        omega
      · rcases List.mem_cons.mp ahead with same | waiting
        · rw [same]
          omega
        · exact scan.near e waiting
    constructor
    · rw [← List.cons_append, ← List.append_assoc, scan.order, List.map_append, List.cons_append]
      rfl
    · rw [← List.cons_append, ← List.append_assoc, List.pairwise_append]
      refine ⟨scan.sorted, List.pairwise_singleton .., ?_⟩
      intro e listed f new
      rw [List.mem_singleton.mp new]
      exact upto e listed
    · intro e listed
      rcases List.mem_append.mp listed with old | new
      · exact scan.near e old
      · rw [List.mem_singleton.mp new]
    · rw [List.map_append, List.nodup_append]
      refine ⟨scan.nodup, List.nodup_singleton _, ?_⟩
      intro t held u new
      rw [List.map_singleton, List.mem_singleton] at new
      rw [new]
      exact fresh t held
    · intro e listed
      rcases List.mem_append.mp listed with old | new
      · exact scan.first e old
      · rw [List.mem_singleton.mp new]
        refine ⟨looked, current.1, current.2, [], rfl, rfl, shallow, ?_, ?_⟩
        · intro q before reached
          have order := (List.pairwise_append.mp scan.sorted).2.2 q before current (List.mem_cons_self ..)
          exact known (scan.closed q before (by omega) edge.1 reached)
        · have missed : scanned.find? (fun other => other.1 == edge.1) = none := by
            rw [List.find?_eq_none]
            intro other listed same
            exact fresh other.1 (scan.done other listed) (eq_of_beq same)
          rw [split, List.find?_append, missed]
          simp
    · intro q before deep t reached
      rw [List.map_append]
      exact List.mem_append_left _ (scan.closed q before deep t reached)
    · intro other listed
      rw [List.map_append, List.mem_append]
      rcases List.mem_append.mp listed with old | new
      · exact Or.inl (scan.done other old)
      · rw [List.mem_singleton.mp new]
        exact Or.inr (List.mem_singleton_self _)

theorem Scan.all {current : Nat × Nat} {scanned rest : List (Nat × K)}
    (scan : Scan edges start bound looked current scanned queue seen) (shallow : current.2 < bound)
    (split : edges current.1 = scanned ++ rest) :
    Scan edges start bound looked current (edges current.1) (rest.foldl (visit current.2) (queue, seen)).1
      (rest.foldl (visit current.2) (queue, seen)).2 := by
  induction rest generalizing scanned queue seen with
  | nil =>
    rw [split, List.append_nil]
    exact scan
  | cons edge rest ih =>
    have next : edges current.1 = (scanned ++ [edge]) ++ rest := by rw [split, List.append_assoc, List.singleton_append]
    exact ih (scan.look shallow split) next

/-- The head of the queue opens the scan of its edges. -/
theorem Queue.scan {current : Nat × Nat} (waiting : Queue edges start bound looked (current :: queue) seen) :
    Scan edges start bound looked current [] queue seen where
  order := waiting.order
  sorted := waiting.sorted
  near e listed := waiting.near current (List.mem_cons_self ..) e (List.mem_cons_of_mem _ listed)
  nodup := waiting.nodup
  first e listed := (waiting.first e listed).more [current]
  closed := waiting.closed
  done := nofun

/-- Once all its edges are looked at, or none is to be, the head has been looked at. -/
theorem Scan.close {current : Nat × Nat} {scanned : List (Nat × K)}
    (scan : Scan edges start bound looked current scanned queue seen)
    (complete : current.2 < bound → scanned = edges current.1) :
    Queue edges start bound (looked ++ [current]) queue seen where
  order := by
    rw [List.append_assoc, List.singleton_append]
    exact scan.order
  sorted := by
    rw [List.append_assoc, List.singleton_append]
    exact scan.sorted
  near a first b second := by
    have ahead := (List.pairwise_cons.mp (List.pairwise_append.mp scan.sorted).2.1).1 a first
    have close := scan.near b second
    omega
  nodup := scan.nodup
  first := scan.first
  closed q before deep t reached := by
    rcases List.mem_append.mp before with old | new
    · exact scan.closed q old deep t reached
    · rw [List.mem_singleton.mp new] at deep reached
      have ⟨edge, listed, same⟩ := List.mem_map.mp reached
      rw [← same]
      exact scan.done edge (by rw [complete deep]; exact listed)

theorem queue_start : Queue edges start bound [] [(start, 0)] ([] : List (Ancestor K)) where
  order := rfl
  sorted := List.pairwise_singleton ..
  near a first b second := by
    rw [List.mem_singleton.mp first, List.mem_singleton.mp second]
    exact Nat.zero_le _
  nodup := List.nodup_nil
  first := nofun
  closed := nofun

theorem search_nil (fuel : Nat) : search edges bound fuel [] seen = seen := by
  cases fuel <;> rfl

/-- With a look for each point and one for the start the queue runs empty. -/
theorem search_done {points : List Nat} (inside : ∀ k, ∀ t ∈ targets edges k, t ∈ points) {fuel : Nat}
    (waiting : Queue edges start bound looked queue seen) (known : ∀ e ∈ seen, e.kpId ∈ points)
    (enough : points.length + 1 ≤ looked.length + fuel) :
    (∃ all, Queue edges start bound all [] (search edges bound fuel queue seen)) ∧
      ∀ extra, search edges bound (fuel + extra) queue seen = search edges bound fuel queue seen := by
  induction fuel generalizing looked queue seen with
  | zero =>
    have sizes := congrArg List.length waiting.order
    have few : (seen.map Ancestor.kpId).length ≤ points.length := by
      apply (List.subperm_of_subset waiting.nodup _).length_le
      intro t listed
      have ⟨e, held, same⟩ := List.mem_map.mp listed
      exact same ▸ known e held
    simp only [List.length_append, List.length_cons, List.length_map] at sizes few
    have empty : queue = [] := List.eq_nil_of_length_eq_zero (by omega)
    subst empty
    refine ⟨⟨looked, waiting⟩, ?_⟩
    intro extra
    rw [search_nil, search_nil]
  | succ fuel ih =>
    cases queue with
    | nil =>
      rw [search_nil]
      refine ⟨⟨looked, waiting⟩, ?_⟩
      intro extra
      rw [search_nil]
    | cons current queue =>
      have longer : points.length + 1 ≤ (looked ++ [current]).length + fuel := by
        rw [List.length_append, List.length_singleton]
        omega
      by_cases deep : bound ≤ current.2
      · have ⟨ends, settles⟩ := ih (waiting.scan.close (fun shallow => absurd shallow (not_lt.mpr deep))) known longer
        rw [search, if_pos deep]
        refine ⟨ends, ?_⟩
        intro extra
        rw [Nat.add_right_comm, search, if_pos deep]
        exact settles extra
      · have scanned := waiting.scan.all (not_le.mp deep) (List.nil_append _).symm
        have inner : ∀ e ∈ ((edges current.1).foldl (visit current.2) (queue, seen)).2, e.kpId ∈ points := by
          intro e listed
          have ⟨_, p, _, _, _, _, _, _, found⟩ := (scanned.first e listed).first
          exact inside p _ (List.mem_map_of_mem (List.mem_of_find?_eq_some found))
        have ⟨ends, settles⟩ := ih (scanned.close (fun _ => rfl)) inner longer
        rw [search, if_neg deep]
        refine ⟨ends, ?_⟩
        intro extra
        rw [Nat.add_right_comm, search, if_neg deep]
        exact settles extra

variable {a n : Nat}

/-- Everything found is found along a walk of its depth. -/
theorem Queue.sound (ended : Queue edges start bound looked [] seen) {e : Ancestor K} (found : e ∈ seen) :
    Walk (Steps edges) e.depth start e.kpId ∧ 0 < e.depth ∧ e.depth ≤ bound := by
  have order : looked = (start, 0) :: seen.map Ancestor.entry := by
    rw [← ended.order, List.append_nil]
  generalize size : e.depth = depth
  induction depth generalizing e with
  | zero =>
    have ⟨_, _, _, _, _, next, _⟩ := (ended.first e found).first
    omega
  | succ depth ih =>
    have ⟨before, p, m, after, split, next, shallow, _, edge⟩ := (ended.first e found).first
    have same : m = depth := by omega
    subst same
    have last : Steps edges p e.kpId := List.mem_map_of_mem (List.mem_of_find?_eq_some edge)
    have among : (p, m) ∈ (start, 0) :: seen.map Ancestor.entry := by
      rw [← order, split]
      exact List.mem_append_right _ (List.mem_cons_self ..)
    refine ⟨?_, Nat.succ_pos _, shallow⟩
    rcases List.mem_cons.mp among with first | earlier
    · cases first
      exact (Walk.refl start).snoc last
    · have ⟨f, held, entry⟩ := List.mem_map.mp earlier
      cases entry
      exact (ih held rfl).1.snoc last

/-- What a walk within the bound leads to is found, no deeper than the walk is long. -/
theorem Queue.complete (ended : Queue edges start bound looked [] seen) (walk : Walk (Steps edges) n start a)
    (positive : 0 < n) (within : n ≤ bound) : ∃ e ∈ seen, e.kpId = a ∧ e.depth ≤ n := by
  have order : looked = (start, 0) :: seen.map Ancestor.entry := by
    rw [← ended.order, List.append_nil]
  induction n generalizing a with
  | zero => omega
  | succ n ih =>
    cases walk with
    | @snoc _ _ b _ walk last =>
      have source : ∃ m, m ≤ n ∧ (b, m) ∈ looked := by
        rw [order]
        cases n with
        | zero =>
          cases walk
          exact ⟨0, Nat.le_refl _, List.mem_cons_self ..⟩
        | succ n =>
          have ⟨e, held, same, depth⟩ := ih walk (Nat.succ_pos _) (by omega)
          exact ⟨e.depth, depth, List.mem_cons_of_mem _ (List.mem_map.mpr ⟨e, held, by rw [← same]; rfl⟩)⟩
      have ⟨m, short, looked_⟩ := source
      have ⟨e, held, same⟩ := List.mem_map.mp (ended.closed (b, m) looked_ (by dsimp only; omega) a last)
      refine ⟨e, held, same, ?_⟩
      have ⟨before, p, depth, after, split, next, _, unseen, _⟩ := (ended.first e held).first
      have upto : depth ≤ m := by
        rw [split] at looked_
        rcases List.mem_append.mp looked_ with earlier | later
        · exact absurd (same ▸ last) (unseen (b, m) earlier)
        · rcases List.mem_cons.mp later with here | after_
          · cases here
            exact Nat.le_refl _
          · have sorted := ended.sorted
            rw [List.append_nil, split] at sorted
            exact (List.pairwise_cons.mp (List.pairwise_append.mp sorted).2.1).1 (b, m) after_
      omega

theorem Queue.exact_iff (ended : Queue edges start bound looked [] seen) :
    (∃ e ∈ seen, e.kpId = a ∧ e.depth = n) ↔ Shortest (Steps edges) n start a ∧ n ≤ bound := by
  constructor
  · intro held
    rcases held with ⟨e, found, rfl, rfl⟩
    have ⟨walk, positive, within⟩ := ended.sound found
    refine ⟨⟨positive, walk, ?_⟩, within⟩
    intro m some_ shorter
    by_contra less
    have ⟨f, other, same, depth⟩ := ended.complete shorter some_ (by omega)
    have equal : f = e := List.inj_on_of_nodup_map ended.nodup other found same
    rw [equal] at depth
    exact less depth
  · intro held
    have ⟨short, within⟩ := held
    have ⟨e, found, same, depth⟩ := ended.complete short.walk short.positive within
    have ⟨walk, positive, _⟩ := ended.sound found
    rw [same] at walk
    exact ⟨e, found, same, Nat.le_antisymm depth (short.least e.depth positive walk)⟩

/-- A list of the points found from a start within a bound: each once, at the length of a shortest walk, the near ones
    first, with the weight of the edge it was discovered by; and no longer a search would find more. -/
structure ExactSearch (edges : Nat → List (Nat × K)) (reach : Nat → Nat → Prop) (start bound fuel : Nat)
    (chain : List (Ancestor K)) : Prop where
  distinct : (chain.map Ancestor.kpId).Nodup
  sorted : chain.Pairwise (fun a b => a.depth ≤ b.depth)
  lists : ∀ a n, (∃ e ∈ chain, e.kpId = a ∧ e.depth = n) ↔ Shortest reach n start a ∧ n ≤ bound
  weight : ∀ e ∈ chain, Discovered edges bound ((start, 0) :: chain.map Ancestor.entry) e
  ends : ∀ extra, stableSort (fun a b => decide (a.depth ≤ b.depth))
    (search edges bound (fuel + extra) [(start, 0)] []) = chain

theorem exactSearch {points : List Nat} (inside : ∀ k, ∀ t ∈ targets edges k, t ∈ points) (start bound : Nat) :
    ExactSearch edges (Steps edges) start bound (points.length + 1)
      (stableSort (fun a b => decide (a.depth ≤ b.depth)) (search edges bound (points.length + 1) [(start, 0)] [])) := by
  have begun : Queue edges start bound [] [(start, 0)] ([] : List (Ancestor K)) := queue_start
  have enough : points.length + 1 ≤ ([] : List (Nat × Nat)).length + (points.length + 1) := by
    rw [List.length_nil]
    omega
  have ⟨⟨looked, ended⟩, settles⟩ := search_done inside begun nofun enough
  have order : looked = (start, 0) :: (search edges bound (points.length + 1) [(start, 0)] []).map Ancestor.entry := by
    rw [← ended.order, List.append_nil]
  have near : (search edges bound (points.length + 1) [(start, 0)] []).Pairwise (fun a b => a.depth ≤ b.depth) := by
    have sorted := ended.sorted
    rw [List.append_nil, order, List.pairwise_cons, List.pairwise_map] at sorted
    exact sorted.2
  have still : stableSort (fun a b => decide (a.depth ≤ b.depth)) (search edges bound (points.length + 1) [(start, 0)] []) =
      search edges bound (points.length + 1) [(start, 0)] [] :=
    stableSort_eq_self (near.imp (fun upto => decide_eq_true upto))
  rw [still]
  refine ⟨ended.nodup, near, fun a n => ended.exact_iff, ?_, ?_⟩
  · rw [← order]
    exact ended.first
  · intro extra
    rw [settles extra, still]

section
variable (db : Db K) (kbVersionId : Nat)

/-- `a` is a direct prerequisite of `b`: a relation of the version says so. -/
def Requires (a b : Nat) : Prop := ∃ r ∈ versionEdges db kbVersionId .prerequisite, r.fromKpId = a ∧ r.toKpId = b

theorem steps_prereq : Steps (load db kbVersionId).prereq = Function.swap (Requires db kbVersionId) := by
  funext b a
  rw [eq_iff_iff]
  simp only [Steps, targets, load, Requires, Function.swap, List.map_map, List.mem_map, List.mem_filter, beq_iff_eq,
    Function.comp_apply]
  constructor
  · intro held
    have ⟨r, ⟨listed, to_⟩, from_⟩ := held
    exact ⟨r, listed, from_, to_⟩
  · intro held
    have ⟨r, listed, from_, to_⟩ := held
    exact ⟨r, ⟨listed, to_⟩, from_⟩

theorem steps_succ : Steps (load db kbVersionId).succ = Requires db kbVersionId := by
  funext a b
  rw [eq_iff_iff]
  simp only [Steps, targets, load, Requires, List.map_map, List.mem_map, List.mem_filter, beq_iff_eq, Function.comp_apply]
  constructor
  · intro held
    have ⟨r, ⟨listed, from_⟩, to_⟩ := held
    exact ⟨r, listed, from_, to_⟩
  · intro held
    have ⟨r, listed, from_, to_⟩ := held
    exact ⟨r, ⟨listed, from_⟩, to_⟩

theorem targets_inside {edges : Nat → List (Nat × K)} {ids : List Nat} (closed : ∀ k, ∀ e ∈ edges k, e.1 ∈ ids) :
    ∀ k, ∀ t ∈ targets edges k, t ∈ ids := by
  intro k t listed
  have ⟨e, held, same⟩ := List.mem_map.mp listed
  exact same ▸ closed k e held

theorem prerequisiteChain_exact (k d : Nat) :
    ExactSearch (load db kbVersionId).prereq (Function.swap (Requires db kbVersionId)) k d
      ((load db kbVersionId).points.length + 1) ((load db kbVersionId).prerequisiteChain k d) := by
  have found := exactSearch (targets_inside (load db kbVersionId).prereq_closed) k d
  rw [List.length_map, steps_prereq] at found
  exact found

theorem descendants_exact (k d : Nat) :
    ExactSearch (load db kbVersionId).succ (Requires db kbVersionId) k d ((load db kbVersionId).points.length + 1)
      ((load db kbVersionId).descendants k d) := by
  have found := exactSearch (targets_inside (load db kbVersionId).succ_closed) k d
  rw [List.length_map, steps_succ] at found
  exact found

/-- Both searches are exact, on any graph, and each is the dual of the other. -/
theorem bounded_search_exact (k d : Nat) :
    ExactSearch (load db kbVersionId).prereq (Function.swap (Requires db kbVersionId)) k d
        ((load db kbVersionId).points.length + 1) ((load db kbVersionId).prerequisiteChain k d) ∧
      ExactSearch (load db kbVersionId).succ (Requires db kbVersionId) k d ((load db kbVersionId).points.length + 1)
        ((load db kbVersionId).descendants k d) ∧
      ∀ a n, (∃ e ∈ (load db kbVersionId).prerequisiteChain k d, e.kpId = a ∧ e.depth = n) ↔
        ∃ e ∈ (load db kbVersionId).descendants a d, e.kpId = k ∧ e.depth = n := by
  refine ⟨prerequisiteChain_exact db kbVersionId k d, descendants_exact db kbVersionId k d, ?_⟩
  intro a n
  rw [(prerequisiteChain_exact db kbVersionId k d).lists, (descendants_exact db kbVersionId a d).lists, shortest_swap_iff]

end

end KpGraph

end KnowledgeGap
