import KnowledgeGap.Intervention.Regenerate
import KnowledgeGap.Intervention.View

namespace KnowledgeGap

open Relational

def leads (pendingCodes : List String) (ref : String) (s : ViewRow) : Bool :=
  decide (s.scope = .group ∧ s.status = .suggested ∧ s.groupRef = some ref) && standalone pendingCodes s

theorem leads_iff {pendingCodes : List String} {ref : String} {s : ViewRow} :
    leads pendingCodes ref s = true ↔
      s.scope = .group ∧ s.status = .suggested ∧ s.groupRef = some ref ∧ standalone pendingCodes s = true := by
  simp [leads, and_assoc]

/-- What makes a row a candidate, given the rows that come before it. -/
def Admissible (pendingCodes : List String) (earlier : List ViewRow) (s : ViewRow) : Prop :=
  s.status = .suggested ∧
    match s.scope with
    | .wholeClass => True
    | .student => standalone pendingCodes s = true
    | .group => ∃ ref, leads pendingCodes ref s = true ∧ earlier.find? (leads pendingCodes ref) = none

theorem dedupeStep_spec (pendingCodes : List String) {earlier : List ViewRow} {state : List String × List ViewRow}
    (seen : ∀ ref, ref ∈ state.1 ↔ (earlier.find? (leads pendingCodes ref)).isSome) (s : ViewRow) :
    (∀ ref, ref ∈ (dedupeStep pendingCodes state s).1 ↔
      ((earlier ++ [s]).find? (leads pendingCodes ref)).isSome) ∧
    ∀ x, x ∈ (dedupeStep pendingCodes state s).2 ↔
      x ∈ state.2 ∨ x = s ∧ Admissible pendingCodes earlier s := by
  have later : ∀ ref, ((earlier ++ [s]).find? (leads pendingCodes ref)).isSome = true ↔
      ref ∈ state.1 ∨ leads pendingCodes ref s = true := by
    intro ref
    rw [seen ref, List.find?_append, Option.isSome_or, Bool.or_eq_true]
    simp
  by_cases leading : ∃ ref, leads pendingCodes ref s = true
  · obtain ⟨ref, lead⟩ := leading
    obtain ⟨scope, status, group, alone⟩ := leads_iff.mp lead
    have only : ∀ other, leads pendingCodes other s = true ↔ other = ref := by
      intro other
      rw [leads_iff]
      simp [scope, status, group, alone, eq_comm]
    have fresh : Admissible pendingCodes earlier s ↔ ref ∉ state.1 := by
      rw [seen ref]
      simp only [Admissible, status, scope, only, true_and, exists_eq_left]
      simp
    rw [fresh]
    simp only [later, only]
    unfold dedupeStep
    simp only [status, scope, group, alone, ne_eq, not_true_eq_false, ↓reduceIte]
    split
    · rename_i known
      refine ⟨?_, ?_⟩
      · intro other
        constructor
        · exact Or.inl
        · intro held
          rcases held with member | rfl
          · exact member
          · exact known
      · intro x
        simp [known]
    · rename_i unknown
      refine ⟨?_, ?_⟩
      · intro other
        simp
      · intro x
        simp [unknown]
  · have none_leads : ∀ ref, ¬ leads pendingCodes ref s = true := fun ref lead => leading ⟨ref, lead⟩
    simp only [later, none_leads]
    cases status : s.status with
    | done => simp [dedupeStep, Admissible, status]
    | skipped => simp [dedupeStep, Admissible, status]
    | suggested =>
      cases scope : s.scope with
      | wholeClass => simp [dedupeStep, Admissible, status, scope]
      | student =>
        cases alone : standalone pendingCodes s <;> simp [dedupeStep, Admissible, status, scope, alone]
      | group =>
        have dropped : dedupeStep pendingCodes state s = state := by
          unfold dedupeStep
          simp only [status, scope, ne_eq, not_true_eq_false, ↓reduceIte]
          split
          · rename_i alone
            split
            · rfl
            · rename_i ref group
              exact absurd (leads_iff.mpr ⟨scope, status, group, alone⟩) (none_leads ref)
          · rfl
        simp [dropped, Admissible, scope, none_leads]

/-- The candidates of a whole fold: each row admissible after the rows before it. -/
theorem foldl_dedupeStep (pendingCodes : List String) (rows : List ViewRow) :
    (∀ ref, ref ∈ (rows.foldl (dedupeStep pendingCodes) ([], [])).1 ↔
      (rows.find? (leads pendingCodes ref)).isSome) ∧
    ∀ x, x ∈ (rows.foldl (dedupeStep pendingCodes) ([], [])).2 ↔ x ∈ rows ∧ x.status = .suggested ∧
      match x.scope with
      | .wholeClass => True
      | .student => standalone pendingCodes x = true
      | .group => ∃ ref, rows.find? (leads pendingCodes ref) = some x := by
  induction rows using List.reverseRecOn with
  | nil => simp
  | append_singleton rows s ih =>
    obtain ⟨seen, queued⟩ := ih
    rw [List.foldl_append, List.foldl_cons, List.foldl_nil]
    obtain ⟨seen', added⟩ := dedupeStep_spec pendingCodes seen s
    refine ⟨seen', ?_⟩
    intro x
    rw [added x, queued x]
    unfold Admissible
    have found : ∀ ref, (rows ++ [s]).find? (leads pendingCodes ref) = some x ↔
        rows.find? (leads pendingCodes ref) = some x ∨
          x = s ∧ leads pendingCodes ref s = true ∧ rows.find? (leads pendingCodes ref) = none := by
      intro ref
      rw [List.find?_append]
      cases search : rows.find? (leads pendingCodes ref) with
      | some y => simp
      | none =>
        cases lead : leads pendingCodes ref s with
        | true => simp [lead, eq_comm]
        | false => simp [lead]
    constructor
    · intro held
      rcases held with ⟨member, status, rest⟩ | ⟨rfl, status, rest⟩
      · refine ⟨List.mem_append_left _ member, status, ?_⟩
        cases scope : x.scope with
        | wholeClass => trivial
        | student => simpa [scope] using rest
        | group =>
          rw [scope] at rest
          obtain ⟨ref, first⟩ := rest
          exact ⟨ref, (found ref).mpr (Or.inl first)⟩
      · refine ⟨by simp, status, ?_⟩
        cases scope : x.scope with
        | wholeClass => trivial
        | student => simpa [scope] using rest
        | group =>
          rw [scope] at rest
          obtain ⟨ref, lead, first⟩ := rest
          exact ⟨ref, (found ref).mpr (Or.inr ⟨rfl, lead, first⟩)⟩
    · intro held
      obtain ⟨member, status, rest⟩ := held
      rcases List.mem_append.mp member with earlier | last
      · cases scope : x.scope with
        | wholeClass => exact Or.inl ⟨earlier, status, trivial⟩
        | student => exact Or.inl ⟨earlier, status, by simpa [scope] using rest⟩
        | group =>
          rw [scope] at rest
          obtain ⟨ref, first⟩ := rest
          rcases (found ref).mp first with before | ⟨same, lead, free⟩
          · exact Or.inl ⟨earlier, status, ref, before⟩
          · refine Or.inr ⟨same, same ▸ status, ?_⟩
            rw [← same, scope]
            exact ⟨ref, same ▸ lead, free⟩
      · have same := List.mem_singleton.mp last
        cases scope : x.scope with
        | wholeClass => exact Or.inr ⟨same, same ▸ status, by rw [← same, scope]; trivial⟩
        | student =>
          refine Or.inr ⟨same, same ▸ status, ?_⟩
          rw [← same, scope]
          simpa [scope] using rest
        | group =>
          rw [scope] at rest
          obtain ⟨ref, first⟩ := rest
          rcases (found ref).mp first with before | ⟨_, lead, free⟩
          · exact Or.inl ⟨List.mem_of_find?_eq_some before, status, ref, before⟩
          · refine Or.inr ⟨same, same ▸ status, ?_⟩
            rw [← same, scope]
            exact ⟨ref, same ▸ lead, free⟩

theorem mem_dedupe {rows : List ViewRow}
    (distinct : ∀ x ∈ rows, ∀ y ∈ rows, x.id = y.id → x = y) {s : ViewRow} :
    s ∈ dedupe rows ↔ s ∈ rows ∧ ∀ x ∈ rows, x.queueKey = s.queueKey → x.id ≤ s.id := by
  unfold dedupe
  rw [List.mem_filter, decide_eq_true_eq]
  constructor
  · intro held
    exact ⟨held.1, (Dict.mem_values_newest distinct held.1).mp held.2⟩
  · intro held
    exact ⟨held.1, (Dict.mem_values_newest distinct held.1).mpr held.2⟩

variable {K : Type}

theorem mem_viewRows {db : Db K} {g : KpGraph K} {classId : Nat} {examId : Option Nat}
    {examIds : Option (List Nat)} {r : Intervention} (listed : r ∈ viewRows db g classId examId examIds) :
    r ∈ db.interventions.rows ∧ r.classId = classId ∧ r.kpId ∈ g.kpIds := by
  unfold viewRows Table.select at listed
  rw [List.mem_filter] at listed
  simp only [Bool.and_eq_true, beq_iff_eq, decide_eq_true_eq] at listed
  exact ⟨listed.1, listed.2.1.1.1, listed.2.1.1.2⟩

theorem groupOrder_comparison (sizes : Dict (Option String) Nat) : Comparison (groupOrder sizes) := by
  apply Comparison.lexicographic
  · refine ⟨?_, ?_⟩
    · intro a b
      simpa using le_total (sizes.getD b.groupRef 0) (sizes.getD a.groupRef 0)
    · intro a b c first second
      simp only [decide_eq_true_eq] at first second ⊢
      omega
  · exact Comparison.ofKey (fun r : Intervention => r.groupRef.getD "")

section
variable [Field K] [LinearOrder K]

theorem mem_leverOrder {cfg : Config K} {db : Db K} {g : KpGraph K} {rows : List Intervention}
    {r : Intervention} : r ∈ leverOrder cfg db g rows ↔ r ∈ rows := by
  unfold leverOrder
  simp only [List.mem_append, mem_stableSort, List.mem_filter, decide_eq_true_eq]
  cases r.scope <;> simp

theorem find?_leverOrder (cfg : Config K) (db : Db K) (g : KpGraph K) (rows : List Intervention)
    {ref : Option String} {q : Intervention → Bool}
    (inGroup : ∀ r, q r = true → r.scope = .group ∧ r.groupRef = ref) :
    (leverOrder cfg db g rows).find? q = rows.find? q := by
  have elsewhere : ∀ (le : Intervention → Intervention → Bool) (scope : Scope), scope ≠ .group →
      (stableSort le (rows.filter (fun r => decide (r.scope = scope)))).filter q = [] := by
    intro le scope other
    rw [List.filter_eq_nil_iff]
    intro r member holds
    rw [mem_stableSort, List.mem_filter, decide_eq_true_eq] at member
    exact other (member.2.symm.trans (inGroup r holds).1)
  have group : (rows.filter (fun r => decide (r.scope = .group))).filter q = rows.filter q := by
    rw [List.filter_filter]
    apply List.filter_congr
    intro r _
    cases holds : q r with
    | false => rfl
    | true => simp [(inGroup r holds).1]
  have level : stableSort (groupOrder (groupSizes rows)) (rows.filter q) = rows.filter q := by
    apply stableSort_eq_self
    apply List.pairwise_of_forall_mem_list
    intro a left b right
    have refA := (inGroup a (List.of_mem_filter left)).2
    have refB := (inGroup b (List.of_mem_filter right)).2
    simp [groupOrder, lexicographic, refA, refB]
  rw [← List.head?_filter, ← List.head?_filter, leverOrder, List.filter_append, List.filter_append,
    elsewhere _ .wholeClass (by simp), elsewhere _ .student (by simp),
    filter_stableSort (groupOrder_comparison _), group, level]
  simp

end

def codeOf (g : KpGraph K) (kpId : Nat) : String := ((g.find? kpId).map KnowledgePoint.code).getD ""

theorem codeOf_inj {g : KpGraph K} (codes : (g.points.map KnowledgePoint.code).Nodup) {a b : Nat}
    (left : a ∈ g.kpIds) (right : b ∈ g.kpIds) (same : codeOf g a = codeOf g b) : a = b := by
  obtain ⟨p, inP, rfl⟩ := List.mem_map.mp left
  obtain ⟨q, inQ, rfl⟩ := List.mem_map.mp right
  have equal : p.code = q.code := by
    simpa [codeOf, KpGraph.find?_of_mem inP, KpGraph.find?_of_mem inQ] using same
  rw [List.inj_on_of_nodup_map codes inP inQ equal]

section
variable [Field K] [LinearOrder K] [FloorRing K]

/-- The need a row stands for is still there, and no open row of the whole class covers it. -/
def live (cfg : Config K) (db : Db K) (g : KpGraph K) (classId : Nat) (now : DateTime)
    (rows : List Intervention) (r : Intervention) : Bool :=
  queueInclude (viewLoopState cfg db g classId now r) &&
    !rows.any (fun c => decide (c.scope = .wholeClass ∧ c.status = .suggested ∧ c.kpId = r.kpId))

/-- The rows that stand for their need in the queue: a pupil's own live row, and of a group the first
    live row of the ledger. -/
def Candidate (cfg : Config K) (db : Db K) (g : KpGraph K) (classId : Nat) (now : DateTime)
    (rows : List Intervention) (r : Intervention) : Prop :=
  r ∈ rows ∧ r.status = .suggested ∧ live cfg db g classId now rows r = true ∧
    (r.scope = .student ∨ r.scope = .group ∧ r.groupRef.isSome ∧
      rows.find? (fun m => decide (m.scope = .group ∧ m.status = .suggested ∧ m.groupRef = r.groupRef) &&
        live cfg db g classId now rows m) = some r)

variable (cfg : Config K) (db : Db K) (g : KpGraph K) (classId : Nat) (now : DateTime)
  (examId : Option Nat) (examIds : Option (List Nat))

def serializedRows : List ViewRow :=
  (leverOrder cfg db g (viewRows db g classId examId examIds)).map
    (serialize cfg db g classId now (groupSizes (viewRows db g classId examId examIds)))

variable {cfg db g classId now examId examIds}

theorem standalone_serialize (codes : (g.points.map KnowledgePoint.code).Nodup) {r : Intervention}
    (listed : r ∈ viewRows db g classId examId examIds) (sizes : Dict (Option String) Nat) :
    standalone (classPendingCodes (serializedRows cfg db g classId now examId examIds))
        (serialize cfg db g classId now sizes r) =
      live cfg db g classId now (viewRows db g classId examId examIds) r := by
  have covered : codeOf g r.kpId ∈ classPendingCodes (serializedRows cfg db g classId now examId examIds) ↔
      ∃ c ∈ viewRows db g classId examId examIds,
        c.scope = .wholeClass ∧ c.status = .suggested ∧ c.kpId = r.kpId := by
    unfold classPendingCodes serializedRows
    constructor
    · intro pending
      obtain ⟨s, kept, code⟩ := List.mem_map.mp pending
      obtain ⟨member, holds⟩ := List.mem_filter.mp kept
      obtain ⟨c, ordered, rfl⟩ := List.mem_map.mp member
      have inView := mem_leverOrder.mp ordered
      rw [decide_eq_true_eq] at holds
      exact ⟨c, inView, holds.1, holds.2,
        codeOf_inj codes (mem_viewRows inView).2.2 (mem_viewRows listed).2.2 code⟩
    · intro held
      obtain ⟨c, inView, scope, status, point⟩ := held
      refine List.mem_map.mpr ⟨serialize cfg db g classId now _ c, List.mem_filter.mpr
        ⟨List.mem_map_of_mem (mem_leverOrder.mpr inView), ?_⟩, ?_⟩
      · simp [serialize, scope, status]
      · exact congrArg (codeOf g) point
  unfold standalone live
  congr 1
  rw [Bool.eq_iff_iff, decide_eq_true_eq, Bool.not_eq_true', List.any_eq_false]
  constructor
  · intro absent c inView holds
    exact absent (covered.mpr ⟨c, inView, by simpa using holds⟩)
  · intro absent pending
    obtain ⟨c, inView, holds⟩ := covered.mp pending
    exact absent c inView (by simpa using holds)

theorem serialize_inj {r s : Intervention} (left : r ∈ viewRows db g classId examId examIds)
    (right : s ∈ viewRows db g classId examId examIds) (sizes : Dict (Option String) Nat)
    (same : (serialize cfg db g classId now sizes r).id = (serialize cfg db g classId now sizes s).id) :
    r = s :=
  db.interventions.key_inj (mem_viewRows left).1 (mem_viewRows right).1 same

theorem find?_leads (codes : (g.points.map KnowledgePoint.code).Nodup) (ref : String) {r : Intervention}
    (listed : r ∈ viewRows db g classId examId examIds) :
    (serializedRows cfg db g classId now examId examIds).find?
        (leads (classPendingCodes (serializedRows cfg db g classId now examId examIds)) ref) =
      some (serialize cfg db g classId now (groupSizes (viewRows db g classId examId examIds)) r) ↔
    (viewRows db g classId examId examIds).find? (fun m =>
      decide (m.scope = .group ∧ m.status = .suggested ∧ m.groupRef = some ref) &&
        live cfg db g classId now (viewRows db g classId examId examIds) m) = some r := by
  have inGroup : ∀ m : Intervention,
      (leads (classPendingCodes (serializedRows cfg db g classId now examId examIds)) ref ∘
        serialize cfg db g classId now (groupSizes (viewRows db g classId examId examIds))) m = true →
      m.scope = .group ∧ m.groupRef = some ref := by
    intro m lead
    obtain ⟨scope, _, group, _⟩ := leads_iff.mp lead
    exact ⟨scope, group⟩
  have ledger : (viewRows db g classId examId examIds).filter
      (leads (classPendingCodes (serializedRows cfg db g classId now examId examIds)) ref ∘
        serialize cfg db g classId now (groupSizes (viewRows db g classId examId examIds))) =
      (viewRows db g classId examId examIds).filter (fun m =>
        decide (m.scope = .group ∧ m.status = .suggested ∧ m.groupRef = some ref) &&
          live cfg db g classId now (viewRows db g classId examId examIds) m) := by
    apply List.filter_congr
    intro m inView
    rw [Function.comp_apply, leads, standalone_serialize codes inView]
    rfl
  have search : (serializedRows cfg db g classId now examId examIds).find?
      (leads (classPendingCodes (serializedRows cfg db g classId now examId examIds)) ref) =
      ((viewRows db g classId examId examIds).find? (fun m =>
        decide (m.scope = .group ∧ m.status = .suggested ∧ m.groupRef = some ref) &&
          live cfg db g classId now (viewRows db g classId examId examIds) m)).map
        (serialize cfg db g classId now (groupSizes (viewRows db g classId examId examIds))) := by
    rw [← List.head?_filter (l := viewRows db g classId examId examIds), ← ledger, List.head?_filter,
      ← find?_leverOrder cfg db g _ inGroup, ← List.find?_map]
    rfl
  rw [search, Option.map_eq_some_iff]
  constructor
  · intro held
    obtain ⟨m, found, same⟩ := held
    rw [found, serialize_inj (List.mem_of_find?_eq_some found) listed _ (congrArg ViewRow.id same)]
  · intro found
    exact ⟨r, found, rfl⟩

theorem serialize_mem_candidates (codes : (g.points.map KnowledgePoint.code).Nodup) {r : Intervention}
    (listed : r ∈ viewRows db g classId examId examIds) (personal : r.scope ≠ .wholeClass) :
    serialize cfg db g classId now (groupSizes (viewRows db g classId examId examIds)) r ∈
        candidates (serializedRows cfg db g classId now examId examIds) ↔
      Candidate cfg db g classId now (viewRows db g classId examId examIds) r := by
  have inSerialized : serialize cfg db g classId now (groupSizes (viewRows db g classId examId examIds)) r ∈
      serializedRows cfg db g classId now examId examIds :=
    List.mem_map_of_mem (mem_leverOrder.mpr listed)
  unfold candidates
  rw [(foldl_dedupeStep _ _).2]
  unfold Candidate
  have status : (serialize cfg db g classId now (groupSizes (viewRows db g classId examId examIds)) r).status =
      r.status := rfl
  cases scope : r.scope with
  | wholeClass => exact absurd scope personal
  | student =>
    have width : (serialize cfg db g classId now (groupSizes (viewRows db g classId examId examIds)) r).scope =
        .student := scope
    simp only [status, width, standalone_serialize codes listed, inSerialized, listed, true_and, true_or,
      and_true]
  | group =>
    have width : (serialize cfg db g classId now (groupSizes (viewRows db g classId examId examIds)) r).scope =
        .group := scope
    simp only [status, width, find?_leads codes _ listed, inSerialized, listed, true_and, reduceCtorEq,
      false_or]
    constructor
    · intro held
      obtain ⟨suggested, ref, found⟩ := held
      have holds := List.find?_some found
      rw [Bool.and_eq_true, decide_eq_true_eq] at holds
      obtain ⟨⟨_, _, group⟩, isLive⟩ := holds
      refine ⟨suggested, isLive, by simp [group], ?_⟩
      rw [group]
      exact found
    · intro held
      obtain ⟨suggested, _, named, found⟩ := held
      obtain ⟨ref, group⟩ := Option.isSome_iff_exists.mp named
      rw [group] at found
      exact ⟨suggested, ref, found⟩

theorem candidates_subset {s : ViewRow}
    (member : s ∈ candidates (serializedRows cfg db g classId now examId examIds)) :
    ∃ r ∈ viewRows db g classId examId examIds,
      s = serialize cfg db g classId now (groupSizes (viewRows db g classId examId examIds)) r := by
  unfold candidates at member
  have inSerialized := ((foldl_dedupeStep _ _).2 s).mp member
  obtain ⟨r, ordered, rfl⟩ := List.mem_map.mp inSerialized.1
  exact ⟨r, mem_leverOrder.mp ordered, rfl⟩

/-- No newer candidate stands for the same pupil and point. -/
def Undisplaced (cfg : Config K) (db : Db K) (g : KpGraph K) (classId : Nat) (now : DateTime)
    (rows : List Intervention) (r : Intervention) : Prop :=
  ∀ c, Candidate cfg db g classId now rows c → c.studentId = r.studentId → c.kpId = r.kpId → c.id ≤ r.id

theorem Candidate.personal {rows : List Intervention} {r : Intervention}
    (candidate : Candidate cfg db g classId now rows r) : r.scope ≠ .wholeClass := by
  rcases candidate.2.2.2 with scope | ⟨scope, _⟩ <;> simp [scope]

theorem queueKey_serialize {sizes : Dict (Option String) Nat} {c : Intervention}
    (personal : c.scope ≠ .wholeClass) :
    (serialize cfg db g classId now sizes c).queueKey = .ofStudent c.studentId (codeOf g c.kpId) := by
  cases scope : c.scope with
  | wholeClass => exact absurd scope personal
  | student => simp [ViewRow.queueKey, serialize, scope, codeOf]
  | group => simp [ViewRow.queueKey, serialize, scope, codeOf]

theorem same_queueKey_iff (codes : (g.points.map KnowledgePoint.code).Nodup) {sizes : Dict (Option String) Nat}
    {c r : Intervention} (inView : c ∈ viewRows db g classId examId examIds)
    (listed : r ∈ viewRows db g classId examId examIds) (personal : r.scope ≠ .wholeClass) :
    (serialize cfg db g classId now sizes c).queueKey = (serialize cfg db g classId now sizes r).queueKey ↔
      c.scope ≠ .wholeClass ∧ c.studentId = r.studentId ∧ c.kpId = r.kpId := by
  rw [queueKey_serialize personal]
  constructor
  · intro key
    have own : c.scope ≠ .wholeClass := by
      intro scope
      simp [ViewRow.queueKey, serialize, scope] at key
    rw [queueKey_serialize own] at key
    simp only [QueueKey.ofStudent.injEq] at key
    exact ⟨own, key.1, codeOf_inj codes (mem_viewRows inView).2.2 (mem_viewRows listed).2.2 key.2⟩
  · intro held
    rw [queueKey_serialize held.1, held.2.1, held.2.2]

theorem candidates_distinct : ∀ x ∈ candidates (serializedRows cfg db g classId now examId examIds),
    ∀ y ∈ candidates (serializedRows cfg db g classId now examId examIds), x.id = y.id → x = y := by
  intro x left y right same
  have ⟨a, inA, asA⟩ := candidates_subset left
  have ⟨b, inB, asB⟩ := candidates_subset right
  subst asA asB
  rw [serialize_inj inA inB _ same]

theorem serialize_mem_dedupe (codes : (g.points.map KnowledgePoint.code).Nodup) {r : Intervention}
    (listed : r ∈ viewRows db g classId examId examIds) (personal : r.scope ≠ .wholeClass) :
    serialize cfg db g classId now (groupSizes (viewRows db g classId examId examIds)) r ∈
        dedupe (candidates (serializedRows cfg db g classId now examId examIds)) ↔
      Candidate cfg db g classId now (viewRows db g classId examId examIds) r ∧
        Undisplaced cfg db g classId now (viewRows db g classId examId examIds) r := by
  rw [mem_dedupe candidates_distinct, serialize_mem_candidates codes listed personal]
  constructor
  · intro held
    refine ⟨held.1, ?_⟩
    intro c candidate student point
    exact held.2 _ ((serialize_mem_candidates codes candidate.1 candidate.personal).mpr candidate)
      ((same_queueKey_iff codes candidate.1 listed personal).mpr ⟨candidate.personal, student, point⟩)
  · intro held
    refine ⟨held.1, ?_⟩
    intro x member key
    obtain ⟨c, inView, rfl⟩ := candidates_subset member
    obtain ⟨own, student, point⟩ := (same_queueKey_iff codes inView listed personal).mp key
    exact held.2 c ((serialize_mem_candidates codes inView own).mp member) student point

/-- Whatever stands for a need, the newest row that does is not displaced. -/
theorem exists_undisplaced (codes : (g.points.map KnowledgePoint.code).Nodup) {c : Intervention}
    (candidate : Candidate cfg db g classId now (viewRows db g classId examId examIds) c) :
    ∃ top, Candidate cfg db g classId now (viewRows db g classId examId examIds) top ∧
      Undisplaced cfg db g classId now (viewRows db g classId examId examIds) top ∧
      top.studentId = c.studentId ∧ top.kpId = c.kpId ∧ c.id ≤ top.id := by
  have member := (serialize_mem_candidates codes candidate.1 candidate.personal).mpr candidate
  rcases Dict.get?_newest ViewRow.queueKey ViewRow.id
    (candidates (serializedRows cfg db g classId now examId examIds))
    (serialize cfg db g classId now (groupSizes (viewRows db g classId examId examIds)) c).queueKey with
    ⟨_, free⟩ | ⟨m, _, present, key, bound⟩
  · exact absurd rfl (free _ member)
  · obtain ⟨top, inView, rfl⟩ := candidates_subset present
    obtain ⟨own, student, point⟩ := (same_queueKey_iff codes inView candidate.1 candidate.personal).mp key
    have stands := (serialize_mem_candidates codes inView own).mp present
    refine ⟨top, stands, ?_, student, point, bound _ member rfl⟩
    intro other standing student' point'
    apply bound _ ((serialize_mem_candidates codes standing.1 standing.personal).mpr standing)
    exact (same_queueKey_iff codes standing.1 candidate.1 candidate.personal).mpr
      ⟨standing.personal, student'.trans student, point'.trans point⟩

def Shown (view : ActionPlanView) (r : Intervention) : Prop := ∃ s ∈ view.rows, s.id = r.id

theorem shown_iff (codes : (g.points.map KnowledgePoint.code).Nodup) {r : Intervention}
    (listed : r ∈ viewRows db g classId examId examIds) (personal : r.scope ≠ .wholeClass)
    (room : (actionPlanView cfg db g classId examId examIds now).rows.length ≠ actionQueueMax) :
    Shown (actionPlanView cfg db g classId examId examIds now) r ↔
      Candidate cfg db g classId now (viewRows db g classId examId examIds) r ∧
        Undisplaced cfg db g classId now (viewRows db g classId examId examIds) r := by
  have uncut : (actionPlanView cfg db g classId examId examIds now).rows =
      dedupe (candidates (serializedRows cfg db g classId now examId examIds)) := by
    have cut : (actionPlanView cfg db g classId examId examIds now).rows =
        (dedupe (candidates (serializedRows cfg db g classId now examId examIds))).take actionQueueMax := rfl
    rw [cut, List.length_take] at room
    rw [cut, List.take_of_length_le (by omega)]
  rw [← serialize_mem_dedupe codes listed personal, Shown, uncut]
  constructor
  · intro held
    obtain ⟨s, member, same⟩ := held
    obtain ⟨m, inView, rfl⟩ := candidates_subset (List.mem_of_mem_filter member)
    have equal : m = r := db.interventions.key_inj (mem_viewRows inView).1 (mem_viewRows listed).1 same
    rw [← equal]
    exact member
  · intro member
    exact ⟨_, member, rfl⟩

/-- Nothing was ever executed for the pupil on the point, or his evidence is below the gate. -/
def Unanswered (cfg : Config K) (db : Db K) (g : KpGraph K) (classId : Nat) (now : DateTime)
    (sid kpId : Nat) : Prop :=
  (∃ a ∈ assessStudentKps cfg db g sid classId now none, a.kpId = kpId ∧ a.gate = some .insufficient) ∨
    ∀ x ∈ db.interventions.rows, x.classId = classId → (x.studentId = none ∨ x.studentId = some sid) →
      x.kpId = kpId → ∀ done, ¬ executed x done

omit [FloorRing K] in
theorem loopState_unexecuted {studentId : Nat} {peers : List Nat}
    {eventsFor : Nat → Nat → List (EvidenceEvent K)} {reports : Dict (Nat × Nat) DateTime}
    {rows : List Intervention} {a : KpAssessment K} (gate : a.gate = none) (weak : a.isWeak = true)
    (never : latestDone rows = none)
    (unreported : ∀ marked, reports.get? (studentId, a.kpId) = some marked → currentRound marked rows = false)
    {r : Intervention} (member : r ∈ rows) (status : r.status = .suggested) :
    loopState cfg studentId peers eventsFor reports rows a = .suggested := by
  have filled : rows.isEmpty = false := List.isEmpty_eq_false_iff.mpr (List.ne_nil_of_mem member)
  have pending : rows.any (fun x => decide (x.status = .suggested)) = true :=
    List.any_eq_true.mpr ⟨r, member, by simpa using status⟩
  unfold loopState
  cases reported : reports.get? (studentId, a.kpId) with
  | none => simp [gate, weak, never, filled, pending]
  | some marked => simp [gate, weak, never, filled, pending, unreported marked reported]

omit [FloorRing K] in
theorem loopState_executed {studentId : Nat} {peers : List Nat}
    {eventsFor : Nat → Nat → List (EvidenceEvent K)} {reports : Dict (Nat × Nat) DateTime}
    {rows : List Intervention} {a : KpAssessment K} (gate : a.gate = none) (weak : a.isWeak = true)
    {latest : Intervention × DateTime} (executed_ : latestDone rows = some latest) :
    queueInclude (some (loopState cfg studentId peers eventsFor reports rows a)) = false := by
  have judged : ∀ adjusted : K, queueInclude (some (verdictOfDelta cfg adjusted)) = false := by
    intro adjusted
    unfold verdictOfDelta
    split
    · rfl
    · split <;> rfl
  unfold loopState
  simp only [gate, weak, executed_, Bool.not_true, Bool.false_eq_true, ↓reduceIte]
  split
  · exact judged _
  · split
    · split <;> rfl
    · rfl

theorem queueInclude_iff_unanswered {r : Intervention} {sid : Nat} (stored : r ∈ db.interventions.rows)
    (cls : r.classId = classId) (owner : r.studentId = some sid) (status : r.status = .suggested)
    (assessed : ∃ a ∈ assessStudentKps cfg db g sid classId now none, a.kpId = r.kpId ∧
      (a.isWeak = true ∨ a.gate = some .insufficient))
    (unreported : ∀ marked, (selfReportMap db [sid]).get? (sid, r.kpId) = some marked →
      currentRound marked (rowsOf db classId sid r.kpId) = false) :
    queueInclude (viewLoopState cfg db g classId now r) = true ↔
      Unanswered cfg db g classId now sid r.kpId := by
  obtain ⟨a, member, point, need⟩ := assessed
  have mine : r ∈ rowsOf db classId sid r.kpId := mem_rowsOf.mpr ⟨stored, cls, Or.inr owner, rfl⟩
  have state := loopStatesForStudent_get? member
  rw [point] at state
  unfold viewLoopState
  rw [owner]
  dsimp only
  rw [state]
  rcases need with weak | gated
  · obtain ⟨gate, _⟩ := mem_assessStudentKps_weak member weak
    have single : ∀ b ∈ assessStudentKps cfg db g sid classId now none, b.kpId = r.kpId → b = a := by
      intro b other same
      have distinct : ((assessStudentKps cfg db g sid classId now none).map KpAssessment.kpId).Nodup := by
        rw [assessStudentKps_kpIds]
        exact g.nodup_gradeKpIds _
      exact List.inj_on_of_nodup_map distinct other member (same.trans point.symm)
    have executions : Unanswered cfg db g classId now sid r.kpId ↔
        ∀ x ∈ rowsOf db classId sid r.kpId, ∀ done, ¬ executed x done := by
      unfold Unanswered
      constructor
      · intro held x inRows done
        obtain ⟨present, cls', affects, same⟩ := mem_rowsOf.mp inRows
        rcases held with ⟨b, other, same', gated⟩ | never
        · rw [single b other same', gate] at gated
          cases gated
        · exact never x present cls' affects same done
      · intro never
        right
        intro x present cls' affects same done
        exact never x (mem_rowsOf.mpr ⟨present, cls', affects, same⟩) done
    rw [executions]
    cases last : latestDone (rowsOf db classId sid r.kpId) with
    | none =>
      rw [loopState_unexecuted gate weak last (by rw [point]; exact unreported) mine status]
      exact ⟨fun _ => latestDone_eq_none last, fun _ => rfl⟩
    | some best =>
      obtain ⟨present, execution, _⟩ := latestDone_eq_some last
      rw [loopState_executed gate weak last]
      constructor
      · intro included
        cases included
      · intro never
        exact absurd execution (never best.1 present best.2)
  · simp only [loopState, gated]
    constructor
    · intro _
      exact Or.inl ⟨a, member, point, gated⟩
    · intro _
      rfl

def CoveredByClass (rows : List Intervention) (r : Intervention) : Prop :=
  ∃ c ∈ rows, c.status = .suggested ∧ c.scope = .wholeClass ∧ c.kpId = r.kpId

/-- The ways the queue may account for an open row: the row itself, a row of the whole class, another
    row of its group, a newer row of the same pupil and point, or no room left. -/
def AccountedFor (view : ActionPlanView) (rows : List Intervention) (r : Intervention) : Prop :=
  Shown view r ∨ CoveredByClass rows r ∨
    (r.scope = .group ∧ r.groupRef.isSome ∧ ∃ m ∈ rows, m ≠ r ∧ m.status = .suggested ∧ m.scope = .group ∧
      m.groupRef = r.groupRef ∧ Shown view m) ∨
    (∃ c ∈ rows, c.status = .suggested ∧ c.studentId = r.studentId ∧ c.kpId = r.kpId ∧ r.id < c.id ∧
      Shown view c) ∨
    view.rows.length = actionQueueMax

/-- When a row that is neither covered nor crowded out still reaches the queue: a pupil's own row when
    nothing was executed for its need; a group's row when it stands for its need, or a newer row does,
    or the first live row of its group is not displaced. -/
def Reaches (cfg : Config K) (db : Db K) (g : KpGraph K) (classId : Nat) (now : DateTime)
    (rows : List Intervention) (sid : Nat) (r : Intervention) : Prop :=
  match r.scope with
  | .wholeClass => True
  | .student => Unanswered cfg db g classId now sid r.kpId
  | .group =>
    (∃ c, Candidate cfg db g classId now rows c ∧ c.studentId = r.studentId ∧ c.kpId = r.kpId ∧ r.id ≤ c.id) ∨
      (r.groupRef.isSome ∧ ∃ m, Candidate cfg db g classId now rows m ∧
        Undisplaced cfg db g classId now rows m ∧ m.scope = .group ∧ m.groupRef = r.groupRef)

theorem live_of_uncovered {rows : List Intervention} {r : Intervention} (uncovered : ¬ CoveredByClass rows r) :
    live cfg db g classId now rows r = queueInclude (viewLoopState cfg db g classId now r) := by
  have free : rows.any (fun c => decide (c.scope = .wholeClass ∧ c.status = .suggested ∧ c.kpId = r.kpId)) =
      false := by
    rw [List.any_eq_false]
    intro c inView holds
    rw [decide_eq_true_eq] at holds
    exact uncovered ⟨c, inView, holds.2.1, holds.1, holds.2.2⟩
  rw [live, free, Bool.not_false, Bool.and_true]

theorem viewLoopState_congr {r c : Intervention} {sid : Nat} (owner : r.studentId = some sid)
    (student : c.studentId = r.studentId) (point : c.kpId = r.kpId) :
    viewLoopState cfg db g classId now c = viewLoopState cfg db g classId now r := by
  unfold viewLoopState
  rw [student, owner, point]

theorem accounted_of_candidate (codes : (g.points.map KnowledgePoint.code).Nodup) {r c : Intervention}
    (listed : r ∈ viewRows db g classId examId examIds)
    (room : (actionPlanView cfg db g classId examId examIds now).rows.length ≠ actionQueueMax)
    (candidate : Candidate cfg db g classId now (viewRows db g classId examId examIds) c)
    (student : c.studentId = r.studentId) (point : c.kpId = r.kpId) (newer : r.id ≤ c.id) :
    AccountedFor (actionPlanView cfg db g classId examId examIds now)
      (viewRows db g classId examId examIds) r := by
  obtain ⟨top, stands, undisplaced, student', point', above⟩ := exists_undisplaced codes candidate
  have shown := (shown_iff codes stands.1 stands.personal room).mpr ⟨stands, undisplaced⟩
  rcases Nat.lt_or_ge r.id top.id with later | same
  · exact Or.inr (Or.inr (Or.inr (Or.inl ⟨top, stands.1, stands.2.1, student'.trans student,
      point'.trans point, later, shown⟩)))
  · have equal : top = r := db.interventions.key_inj (mem_viewRows stands.1).1 (mem_viewRows listed).1
      (Nat.le_antisymm same (Nat.le_trans newer above))
    exact Or.inl (equal ▸ shown)

/-- Which open rows of pupils who still need them are accounted for in the teacher's queue. -/
theorem action_queue_reach_iff (cfg : Config K) (db : Db K) (g : KpGraph K) (classId : Nat)
    (examId : Option Nat) (examIds : Option (List Nat)) (now : DateTime) (r : Intervention) (sid : Nat)
    (codes : (g.points.map KnowledgePoint.code).Nodup)
    (listed : r ∈ viewRows db g classId examId examIds) (status : r.status = .suggested)
    (owner : r.studentId = some sid)
    (assessed : ∃ a ∈ assessStudentKps cfg db g sid classId now none, a.kpId = r.kpId ∧
      (a.isWeak = true ∨ a.gate = some .insufficient))
    (unreported : ∀ marked, (selfReportMap db [sid]).get? (sid, r.kpId) = some marked →
      currentRound marked (rowsOf db classId sid r.kpId) = false) :
    AccountedFor (actionPlanView cfg db g classId examId examIds now)
        (viewRows db g classId examId examIds) r ↔
      CoveredByClass (viewRows db g classId examId examIds) r ∨
        (actionPlanView cfg db g classId examId examIds now).rows.length = actionQueueMax ∨
        Reaches cfg db g classId now (viewRows db g classId examId examIds) sid r := by
  by_cases covered : CoveredByClass (viewRows db g classId examId examIds) r
  · exact ⟨fun _ => Or.inl covered, fun _ => Or.inr (Or.inl covered)⟩
  by_cases full : (actionPlanView cfg db g classId examId examIds now).rows.length = actionQueueMax
  · exact ⟨fun _ => Or.inr (Or.inl full), fun _ => Or.inr (Or.inr (Or.inr (Or.inr full)))⟩
  obtain ⟨stored, cls, _⟩ := mem_viewRows listed
  have personal : ∀ c, c ∈ viewRows db g classId examId examIds → c.status = .suggested → c.kpId = r.kpId →
      c.scope ≠ .wholeClass :=
    fun c inView open_ point scope => covered ⟨c, inView, open_, scope, point⟩
  have isLive : live cfg db g classId now (viewRows db g classId examId examIds) r = true ↔
      Unanswered cfg db g classId now sid r.kpId := by
    rw [live_of_uncovered covered]
    exact queueInclude_iff_unanswered stored cls owner status assessed unreported
  have sameNeed : ∀ c, Candidate cfg db g classId now (viewRows db g classId examId examIds) c →
      c.studentId = r.studentId → c.kpId = r.kpId →
        live cfg db g classId now (viewRows db g classId examId examIds) r = true := by
    intro c candidate student point
    have uncovered : ¬ CoveredByClass (viewRows db g classId examId examIds) c := by
      intro held
      obtain ⟨b, inView, open_, scope, same⟩ := held
      exact covered ⟨b, inView, open_, scope, same.trans point⟩
    have alive := candidate.2.2.1
    rw [live_of_uncovered uncovered] at alive
    rw [live_of_uncovered covered, ← viewLoopState_congr owner student point]
    exact alive
  constructor
  · intro accounted
    refine Or.inr (Or.inr ?_)
    have standing : (∃ c, Candidate cfg db g classId now (viewRows db g classId examId examIds) c ∧
        c.studentId = r.studentId ∧ c.kpId = r.kpId ∧ r.id ≤ c.id) ∨
        (r.scope = .group ∧ r.groupRef.isSome ∧ ∃ m,
          Candidate cfg db g classId now (viewRows db g classId examId examIds) m ∧
          Undisplaced cfg db g classId now (viewRows db g classId examId examIds) m ∧ m.scope = .group ∧
          m.groupRef = r.groupRef) := by
      rcases accounted with shown | shared | ⟨scope, named, m, inView, _, _, group, same, shown⟩ |
        ⟨c, inView, open_, student, point, newer, shown⟩ | crowded
      · have stands := (shown_iff codes listed (personal r listed status rfl) full).mp shown
        exact Or.inl ⟨r, stands.1, rfl, rfl, Nat.le_refl _⟩
      · exact absurd shared covered
      · have stands := (shown_iff codes inView (by simp [group]) full).mp shown
        exact Or.inr ⟨scope, named, m, stands.1, stands.2, group, same⟩
      · have stands := (shown_iff codes inView (personal c inView open_ point) full).mp shown
        exact Or.inl ⟨c, stands.1, student, point, Nat.le_of_lt newer⟩
      · exact absurd crowded full
    unfold Reaches
    cases scope : r.scope with
    | wholeClass => trivial
    | student =>
      rcases standing with ⟨c, candidate, student, point, _⟩ | ⟨group, _⟩
      · exact isLive.mp (sameNeed c candidate student point)
      · rw [scope] at group
        cases group
    | group =>
      rcases standing with own | ⟨_, named, leader⟩
      · exact Or.inl own
      · exact Or.inr ⟨named, leader⟩
  · intro held
    rcases held with shared | crowded | reaches
    · exact absurd shared covered
    · exact absurd crowded full
    · unfold Reaches at reaches
      cases scope : r.scope with
      | wholeClass => exact absurd scope (personal r listed status rfl)
      | student =>
        rw [scope] at reaches
        exact accounted_of_candidate codes listed full ⟨listed, status, isLive.mpr reaches, Or.inl scope⟩ rfl
          rfl (Nat.le_refl _)
      | group =>
        rw [scope] at reaches
        rcases reaches with ⟨c, candidate, student, point, newer⟩ | ⟨named, m, stands, undisplaced, group, same⟩
        · exact accounted_of_candidate codes listed full candidate student point newer
        · have shown := (shown_iff codes stands.1 stands.personal full).mpr ⟨stands, undisplaced⟩
          by_cases equal : m = r
          · exact Or.inl (equal ▸ shown)
          · exact Or.inr (Or.inr (Or.inl ⟨scope, named, m, stands.1, equal, stands.2.1, group, same, shown⟩))

end

def answeredRow : Intervention :=
  { id := 1, classId := 1, studentId := some 1, kpId := 9, examId := 3, attributionId := none,
    sourceReportId := none, retestExamId := none, retestDueDate := none, kind := .tierDrill,
    scope := .student, groupRef := none, baselineAsOf := noon (-7), status := .done,
    suggestedAt := noon (-7), doneAt := some (noon (-1)), note := none }

def answeredDb : Db ℚ :=
  { drilledDb with interventions := .ofList [answeredRow] }

def secondRound : Table Intervention :=
  (generateInterventions Config.rational answeredDb drilledGraph 1 5 (noon 0) none (noon 0) none).1

def secondRoundDb : Db ℚ := { answeredDb with interventions := secondRound }

def secondRoundRow : Intervention :=
  { id := 2, classId := 1, studentId := some 1, kpId := 9, examId := 5, attributionId := none,
    sourceReportId := none, retestExamId := none, retestDueDate := none, kind := .tierDrill,
    scope := .student, groupRef := none, baselineAsOf := noon 0, status := .suggested,
    suggestedAt := noon 0, doneAt := none, note := some secondRoundNote }

theorem second_round_misses_queue :
    secondRoundRow ∈ viewRows secondRoundDb drilledGraph 1 none none ∧
    ((assessStudentKps Config.rational secondRoundDb drilledGraph 1 1 (noon 0) none).map
      (fun a => (a.kpId, a.isWeak))) = [(9, true)] ∧
    (selfReportMap secondRoundDb [1]).get? (1, 9) = none ∧
    (actionPlanView Config.rational secondRoundDb drilledGraph 1 none none (noon 0)).rows = [] ∧
    ¬ AccountedFor (actionPlanView Config.rational secondRoundDb drilledGraph 1 none none (noon 0))
      (viewRows secondRoundDb drilledGraph 1 none none) secondRoundRow := by
  unfold AccountedFor CoveredByClass Shown
  decide +kernel

def firstRoundDb : Db ℚ := { drilledDb with interventions := drilledOnce }

def firstRoundRow : Intervention :=
  { secondRoundRow with id := 1, suggestedAt := noon 0 + seconds 3600, note := none }

theorem first_round_reaches_queue :
    firstRoundRow ∈ viewRows firstRoundDb drilledGraph 1 none none ∧
    AccountedFor (actionPlanView Config.rational firstRoundDb drilledGraph 1 none none (noon 0))
      (viewRows firstRoundDb drilledGraph 1 none none) firstRoundRow := by
  have listed : firstRoundRow ∈ viewRows firstRoundDb drilledGraph 1 none none := by
    decide +kernel
  have assessed : ∃ a ∈ assessStudentKps Config.rational firstRoundDb drilledGraph 1 1 (noon 0) none,
      a.kpId = firstRoundRow.kpId ∧ (a.isWeak = true ∨ a.gate = some .insufficient) := by
    decide +kernel
  have silent : (selfReportMap firstRoundDb [1]).get? (1, 9) = none := by
    decide +kernel
  have unexecuted : ∀ x ∈ firstRoundDb.interventions.rows, x.status ≠ .done := by
    decide +kernel
  refine ⟨listed, (action_queue_reach_iff Config.rational firstRoundDb drilledGraph 1 none none (noon 0)
    firstRoundRow 1 (by decide) listed rfl rfl assessed ?_).mpr (Or.inr (Or.inr (Or.inr ?_)))⟩
  · intro marked reported
    exact absurd (silent.symm.trans reported) (by simp)
  · intro x stored _ _ _ done execution
    exact unexecuted x stored execution.1

end KnowledgeGap
