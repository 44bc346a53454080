import KnowledgeGap.Intervention.Reach

namespace KnowledgeGap

open Relational

def leverRank : Scope → Nat
  | .wholeClass => 0
  | .group => 1
  | .student => 2

theorem dedupeStep_queued (pendingCodes : List String) (state : List String × List ViewRow) (s : ViewRow) :
    (dedupeStep pendingCodes state s).2 = state.2 ∨ (dedupeStep pendingCodes state s).2 = state.2 ++ [s] := by
  unfold dedupeStep
  cases s.status with
  | done => exact Or.inl rfl
  | skipped => exact Or.inl rfl
  | suggested =>
    cases s.scope with
    | wholeClass => exact Or.inr rfl
    | student => cases standalone pendingCodes s <;> simp
    | group =>
      cases standalone pendingCodes s with
      | false => simp
      | true =>
        cases s.groupRef with
        | none => simp
        | some ref => by_cases known : ref ∈ state.1 <;> simp [known]

/-- A fold only leaves rows out. -/
theorem candidates_sublist (rows : List ViewRow) : (candidates rows).Sublist rows := by
  unfold candidates
  generalize classPendingCodes rows = pendingCodes
  induction rows using List.reverseRecOn with
  | nil => exact List.Sublist.refl _
  | append_singleton rows s ih =>
    rw [List.foldl_append, List.foldl_cons, List.foldl_nil]
    rcases dedupeStep_queued pendingCodes (rows.foldl (dedupeStep pendingCodes) ([], [])) s with same | longer
    · rw [same]
      exact ih.trans (List.sublist_append_left rows [s])
    · rw [longer]
      exact ih.append_right [s]

theorem candidate_open {rows : List ViewRow} {s : ViewRow} (queued : s ∈ candidates rows) : s.status = .suggested :=
  (((foldl_dedupeStep _ rows).2 s).mp queued).2.1

theorem candidate_standalone {rows : List ViewRow} {s : ViewRow} (queued : s ∈ candidates rows)
    (personal : s.scope ≠ .wholeClass) : standalone (classPendingCodes rows) s = true := by
  have ⟨_, _, admitted⟩ := ((foldl_dedupeStep _ rows).2 s).mp queued
  cases scope : s.scope with
  | wholeClass => exact absurd scope personal
  | student =>
    rw [scope] at admitted
    exact admitted
  | group =>
    rw [scope] at admitted
    have ⟨ref, first⟩ := admitted
    exact (leads_iff.mp (List.find?_some first)).2.2.2

/-- A group's row is the first of the group that may lead it. -/
theorem candidate_leads {rows : List ViewRow} {s : ViewRow} (queued : s ∈ candidates rows) (grouped : s.scope = .group) :
    ∃ ref, s.groupRef = some ref ∧ rows.find? (leads (classPendingCodes rows) ref) = some s := by
  have ⟨_, _, admitted⟩ := ((foldl_dedupeStep _ rows).2 s).mp queued
  rw [grouped] at admitted
  have ⟨ref, first⟩ := admitted
  exact ⟨ref, (leads_iff.mp (List.find?_some first)).2.2.1, first⟩

theorem candidate_only {rows : List ViewRow} {s t : ViewRow} (left : s ∈ candidates rows) (right : t ∈ candidates rows)
    (grouped : s.scope = .group) (grouped' : t.scope = .group) (same : s.groupRef = t.groupRef) : s = t := by
  have ⟨ref, label, first⟩ := candidate_leads left grouped
  have ⟨ref', label', first'⟩ := candidate_leads right grouped'
  have equal : ref = ref' := by
    rw [label, label'] at same
    exact Option.some.inj same
  subst equal
  exact Option.some.inj (first.symm.trans first')

variable {K : Type} [Field K] [LinearOrder K]

/-- What is missing to full mastery at a row's baseline; nothing, where there is no evidence. -/
def masteryGap (cfg : Config K) (db : Db K) (r : Intervention) : K :=
  match r.studentId with
  | none => 0
  | some sid => 1 - (masteryAt cfg db sid r.kpId r.baselineAsOf).getD 1

theorem gapKey_eq (cfg : Config K) (db : Db K) (r : Intervention) : gapKey cfg db r = -masteryGap cfg db r := by
  unfold gapKey masteryGap
  cases r.studentId with
  | none => exact neg_zero.symm
  | some sid => rfl

/-- The order of the levers, and within groups and pupils of their rows. -/
structure Precedes (cfg : Config K) (db : Db K) (g : KpGraph K) (rows : List Intervention) (a b : Intervention) : Prop where
  levers : leverRank a.scope ≤ leverRank b.scope
  groups : a.scope = .group → b.scope = .group →
    (groupSizes rows).getD b.groupRef 0 ≤ (groupSizes rows).getD a.groupRef 0
  students : a.scope = .student → b.scope = .student → kpImportance g a.kpId < kpImportance g b.kpId ∨
    kpImportance g a.kpId = kpImportance g b.kpId ∧ masteryGap cfg db b ≤ masteryGap cfg db a

theorem lexicographic_major {α : Type} {first second : α → α → Bool} {a b : α}
    (before : lexicographic first second a b = true) : first a b = true ∧ (first b a = true → second a b = true) := by
  simp only [lexicographic, Bool.and_eq_true, Bool.or_eq_true, Bool.not_eq_true'] at before
  refine ⟨before.1, ?_⟩
  intro back
  exact before.2.resolve_left (by simp [back])

theorem precedes_of_ranked {cfg : Config K} {db : Db K} {g : KpGraph K} {rows : List Intervention} {a b : Intervention}
    (ranked : leverRank a.scope < leverRank b.scope) : Precedes cfg db g rows a b where
  levers := ranked.le
  groups := by
    intro left right
    rw [left, right] at ranked
    exact absurd ranked (Nat.lt_irrefl _)
  students := by
    intro left right
    rw [left, right] at ranked
    exact absurd ranked (Nat.lt_irrefl _)

theorem studentOrder_comparison (cfg : Config K) (db : Db K) (g : KpGraph K) : Comparison (studentOrder cfg db g) :=
  Comparison.lexicographic (Comparison.ofKey (fun r : Intervention => kpImportance g r.kpId))
    (Comparison.ofKey (gapKey cfg db))

omit [Field K] [LinearOrder K] in
theorem classOrder_comparison (g : KpGraph K) : Comparison (classOrder g) :=
  Comparison.lexicographic (Comparison.ofKey (fun r : Intervention => kpImportance g r.kpId))
    (Comparison.ofKey Intervention.id)

theorem precedes_of_studentOrder [IsStrictOrderedRing K] {cfg : Config K} {db : Db K} {g : KpGraph K}
    {rows : List Intervention} {a b : Intervention} (left : a.scope = .student) (right : b.scope = .student)
    (before : studentOrder cfg db g a b = true) : Precedes cfg db g rows a b where
  levers := by rw [left, right]
  groups := by
    intro grouped
    rw [left] at grouped
    cases grouped
  students := by
    intro _ _
    have ⟨major, minor⟩ := lexicographic_major before
    simp only [decide_eq_true_eq] at major minor
    rcases Nat.lt_or_eq_of_le major with less | equal
    · exact Or.inl less
    · refine Or.inr ⟨equal, ?_⟩
      have gap := minor (Nat.le_of_eq equal.symm)
      rw [gapKey_eq, gapKey_eq] at gap
      exact neg_le_neg_iff.mp gap

theorem precedes_of_groupOrder {cfg : Config K} {db : Db K} {g : KpGraph K} {rows : List Intervention}
    {a b : Intervention} (left : a.scope = .group) (right : b.scope = .group)
    (before : groupOrder (groupSizes rows) a b = true) : Precedes cfg db g rows a b where
  levers := by rw [left, right]
  groups := by
    intro _ _
    have ⟨major, _⟩ := lexicographic_major before
    exact of_decide_eq_true major
  students := by
    intro single
    rw [left] at single
    cases single

theorem precedes_of_class {cfg : Config K} {db : Db K} {g : KpGraph K} {rows : List Intervention}
    {a b : Intervention} (left : a.scope = .wholeClass) : Precedes cfg db g rows a b where
  levers := by
    rw [left]
    exact Nat.zero_le _
  groups := by
    intro grouped
    rw [left] at grouped
    cases grouped
  students := by
    intro single
    rw [left] at single
    cases single

theorem mem_scoped {le : Intervention → Intervention → Bool} {rows : List Intervention} {scope : Scope}
    {r : Intervention} (listed : r ∈ stableSort le (rows.filter (fun r => decide (r.scope = scope)))) :
    r.scope = scope := by
  rw [mem_stableSort, List.mem_filter] at listed
  exact of_decide_eq_true listed.2

theorem pairwise_leverOrder [IsStrictOrderedRing K] (cfg : Config K) (db : Db K) (g : KpGraph K)
    (rows : List Intervention) : (leverOrder cfg db g rows).Pairwise (Precedes cfg db g rows) := by
  unfold leverOrder
  rw [List.append_assoc, List.pairwise_append, List.pairwise_append]
  refine ⟨?_, ⟨?_, ?_, ?_⟩, ?_⟩
  · refine (pairwise_stableSort (classOrder_comparison g) _).imp_of_mem ?_
    intro a b left _ _
    exact precedes_of_class (mem_scoped left)
  · refine (pairwise_stableSort (groupOrder_comparison _) _).imp_of_mem ?_
    intro a b left right before
    exact precedes_of_groupOrder (mem_scoped left) (mem_scoped right) before
  · refine (pairwise_stableSort (studentOrder_comparison cfg db g) _).imp_of_mem ?_
    intro a b left right before
    exact precedes_of_studentOrder (mem_scoped left) (mem_scoped right) before
  · intro a left b right
    apply precedes_of_ranked
    rw [mem_scoped left, mem_scoped right]
    decide
  · intro a left b _
    exact precedes_of_class (mem_scoped left)

theorem leverOrder_nodup {cfg : Config K} {db : Db K} {g : KpGraph K} {rows : List Intervention} (nodup : rows.Nodup) :
    (leverOrder cfg db g rows).Nodup := by
  have part : ∀ (le : Intervention → Intervention → Bool) (scope : Scope),
      (stableSort le (rows.filter (fun r => decide (r.scope = scope)))).Nodup := by
    intro le scope
    exact (perm_stableSort le _).nodup_iff.mpr (nodup.filter _)
  have apart : ∀ {le le' : Intervention → Intervention → Bool} {scope scope' : Scope}, scope ≠ scope' →
      ∀ a ∈ stableSort le (rows.filter (fun r => decide (r.scope = scope))),
      ∀ b ∈ stableSort le' (rows.filter (fun r => decide (r.scope = scope'))), a ≠ b := by
    intro le le' scope scope' other a left b right same
    subst same
    exact other ((mem_scoped left).symm.trans (mem_scoped right))
  unfold leverOrder
  rw [List.append_assoc, List.nodup_append, List.nodup_append]
  refine ⟨part _ _, ⟨part _ _, part _ _, apart (by decide)⟩, ?_⟩
  intro a left b right
  rcases List.mem_append.mp right with group | single
  · exact apart (by decide) a left b group
  · exact apart (by decide) a left b single

omit [Field K] [LinearOrder K] in
theorem viewRows_nodup (db : Db K) (g : KpGraph K) (classId : Nat) (examId : Option Nat) (examIds : Option (List Nat)) :
    (viewRows db g classId examId examIds).Nodup :=
  (List.Nodup.of_map _ db.interventions.nodup).filter _

variable [FloorRing K]

/-- What a queue of a class promises; `rows` are the suggestions the filter leaves. -/
structure WellFormedQueue (cfg : Config K) (db : Db K) (g : KpGraph K) (classId : Nat) (now : DateTime)
    (rows queue : List Intervention) : Prop where
  listed : ∀ r ∈ queue, r ∈ rows
  open_ : ∀ r ∈ queue, r.status = .suggested
  short : queue.length ≤ actionQueueMax
  apart : queue.Pairwise (fun a b => ¬ (a.studentId = b.studentId ∧ a.kpId = b.kpId))
  classPoints : queue.Pairwise (fun a b => a.scope = .wholeClass → b.scope = .wholeClass → a.kpId ≠ b.kpId)
  labelled : ∀ r ∈ queue, r.scope = .group → r.groupRef ≠ none
  groups : queue.Pairwise (fun a b => a.scope = .group → b.scope = .group → a.groupRef ≠ b.groupRef)
  uncovered : ∀ r ∈ queue, r.scope ≠ .wholeClass → ∀ c ∈ rows, c.scope = .wholeClass → c.status = .suggested →
    c.kpId ≠ r.kpId
  standing : ∀ r ∈ queue, r.scope ≠ .wholeClass → viewLoopState cfg db g classId now r = some .suggested ∨
    viewLoopState cfg db g classId now r = some .insufficient
  ordered : queue.Pairwise (Precedes cfg db g rows)

variable {cfg : Config K} {db : Db K} {g : KpGraph K} {classId : Nat} {examId : Option Nat} {examIds : Option (List Nat)}
  {now : DateTime}

variable (cfg db g classId examId examIds now) in
theorem queue_sublist : ((dedupe (candidates (serializedRows cfg db g classId now examId examIds))).take
    actionQueueMax).Sublist (serializedRows cfg db g classId now examId examIds) :=
  (List.take_sublist _ _).trans (List.filter_sublist.trans (candidates_sublist _))

/-- Of two rows for one need, only the newer is left. -/
theorem dedupe_only {x y : ViewRow}
    (left : x ∈ dedupe (candidates (serializedRows cfg db g classId now examId examIds)))
    (right : y ∈ dedupe (candidates (serializedRows cfg db g classId now examId examIds)))
    (same : x.queueKey = y.queueKey) : x.id = y.id := by
  have ⟨queued, newest⟩ := (mem_dedupe candidates_distinct).mp left
  have ⟨queued', newest'⟩ := (mem_dedupe candidates_distinct).mp right
  exact Nat.le_antisymm (newest' x queued same) (newest y queued' same.symm)

section
variable {queue : List Intervention}
  (shown : (dedupe (candidates (serializedRows cfg db g classId now examId examIds))).take actionQueueMax =
    queue.map (serialize cfg db g classId now (groupSizes (viewRows db g classId examId examIds))))
include shown

theorem queued_dedupe {r : Intervention} (queued : r ∈ queue) :
    serialize cfg db g classId now (groupSizes (viewRows db g classId examId examIds)) r ∈
      dedupe (candidates (serializedRows cfg db g classId now examId examIds)) := by
  apply List.mem_of_mem_take (i := actionQueueMax)
  rw [shown]
  exact List.mem_map_of_mem queued

theorem queued_candidate {r : Intervention} (queued : r ∈ queue) :
    serialize cfg db g classId now (groupSizes (viewRows db g classId examId examIds)) r ∈
      candidates (serializedRows cfg db g classId now examId examIds) :=
  List.mem_of_mem_filter (queued_dedupe shown queued)

theorem queued_uncovered {r c : Intervention} (queued : r ∈ queue) (personal : r.scope ≠ .wholeClass)
    (present : c ∈ viewRows db g classId examId examIds) (whole : c.scope = .wholeClass)
    (status : c.status = .suggested) : c.kpId ≠ r.kpId := by
  intro same
  have alone := candidate_standalone (queued_candidate shown queued) personal
  unfold standalone at alone
  rw [Bool.and_eq_true, decide_eq_true_eq] at alone
  apply alone.2
  unfold classPendingCodes
  refine List.mem_map.mpr ⟨serialize cfg db g classId now (groupSizes (viewRows db g classId examId examIds)) c,
    List.mem_filter.mpr ⟨List.mem_map_of_mem (mem_leverOrder.mpr present), ?_⟩, ?_⟩
  · exact decide_eq_true ⟨whole, status⟩
  · exact congrArg (codeOf g) same

theorem queued_same {a b : Intervention} (left : a ∈ queue) (right : b ∈ queue)
    (listed : ∀ r ∈ queue, r ∈ viewRows db g classId examId examIds)
    (same : (serialize cfg db g classId now (groupSizes (viewRows db g classId examId examIds)) a).queueKey =
      (serialize cfg db g classId now (groupSizes (viewRows db g classId examId examIds)) b).queueKey) : a = b :=
  serialize_inj (listed a left) (listed b right) _
    (dedupe_only (queued_dedupe shown left) (queued_dedupe shown right) same)

omit shown in
theorem queueKey_class {sizes : Dict (Option String) Nat} {r : Intervention} (whole : r.scope = .wholeClass) :
    (serialize cfg db g classId now sizes r).queueKey = .ofClass (codeOf g r.kpId) := by
  simp [ViewRow.queueKey, serialize, whole, codeOf]

theorem queue_well_formed [IsStrictOrderedRing K]
    (within : queue.Sublist (leverOrder cfg db g (viewRows db g classId examId examIds))) :
    WellFormedQueue cfg db g classId now (viewRows db g classId examId examIds) queue := by
  have listed : ∀ r ∈ queue, r ∈ viewRows db g classId examId examIds := by
    intro r queued
    exact mem_leverOrder.mp (within.subset queued)
  have nodup : queue.Nodup := within.nodup (leverOrder_nodup (viewRows_nodup db g classId examId examIds))
  have opened : ∀ r ∈ queue, r.status = .suggested := fun r queued => candidate_open (queued_candidate shown queued)
  have onePoint : ∀ a ∈ queue, ∀ b ∈ queue, a ≠ b → a.scope = .wholeClass → b.scope = .wholeClass →
      a.kpId ≠ b.kpId := by
    intro a left b right different whole whole' same
    apply different
    apply queued_same shown left right listed
    rw [queueKey_class whole, queueKey_class whole', same]
  have apart : ∀ a ∈ queue, ∀ b ∈ queue, a ≠ b → ¬ (a.studentId = b.studentId ∧ a.kpId = b.kpId) := by
    intro a left b right different same
    by_cases whole : a.scope = .wholeClass
    · by_cases whole' : b.scope = .wholeClass
      · exact onePoint a left b right different whole whole' same.2
      · exact queued_uncovered shown right whole' (listed a left) whole (opened a left) same.2
    · by_cases whole' : b.scope = .wholeClass
      · exact queued_uncovered shown left whole (listed b right) whole' (opened b right) same.2.symm
      · apply different
        apply queued_same shown left right listed
        rw [queueKey_serialize whole, queueKey_serialize whole', same.1, same.2]
  refine { listed := listed, open_ := opened, short := ?short, apart := nodup.pairwise_of_forall_ne apart,
           classPoints := nodup.pairwise_of_forall_ne onePoint, labelled := ?labelled, groups := ?groups,
           uncovered := ?uncovered, standing := ?standing, ordered := (pairwise_leverOrder cfg db g _).sublist within }
  case short =>
    have lengths := congrArg List.length shown
    rw [List.length_map, List.length_take] at lengths
    rw [← lengths]
    exact Nat.min_le_left _ _
  case labelled =>
    intro r queued grouped unlabelled
    have ⟨ref, label, _⟩ := candidate_leads (queued_candidate shown queued) grouped
    have none_ : (none : Option String) = some ref := unlabelled.symm.trans label
    cases none_
  case groups =>
    apply nodup.pairwise_of_forall_ne
    intro a left b right different grouped grouped' same
    apply different
    have equal := candidate_only (queued_candidate shown left) (queued_candidate shown right) grouped grouped' same
    exact serialize_inj (listed a left) (listed b right) _ (congrArg ViewRow.id equal)
  case uncovered =>
    intro r queued personal c present whole status
    exact queued_uncovered shown queued personal present whole status
  case standing =>
    intro r queued personal
    have alone := candidate_standalone (queued_candidate shown queued) personal
    unfold standalone at alone
    rw [Bool.and_eq_true] at alone
    exact of_decide_eq_true alone.1

end

/-- Only a group's row carries a label. -/
def Labelled (rows : List Intervention) : Prop := ∀ r ∈ rows, r.groupRef ≠ none → r.scope = .group

omit [Field K] [LinearOrder K] [FloorRing K] in
theorem outcome_labelled {t : Table Intervention} {examId : Nat} {sourceReportId : Option Nat} {asOf : DateTime}
    {plan : Plan} {r : Intervention} (labelled : r.groupRef ≠ none → r.scope = .group) :
    (outcome t g classId examId sourceReportId asOf plan r).groupRef ≠ none →
      (outcome t g classId examId sourceReportId asOf plan r).scope = .group := by
  have filed : ∀ row : ActionRow, groupRef sourceReportId row ≠ none → row.scope = .group := by
    intro row label
    by_contra single
    exact label (if_neg single)
  have kept : (refreshed examId sourceReportId asOf plan r).groupRef ≠ none →
      (refreshed examId sourceReportId asOf plan r).scope = .group := by
    unfold refreshed
    cases plan.rows.find? (fun row => decide (row.key = r.key)) with
    | none => exact labelled
    | some row => exact filed row
  unfold outcome archive
  split
  · split
    · exact labelled
    · split
      · split <;> exact kept
      · exact kept
  · exact labelled

/-- A run labels none but the rows of groups. -/
theorem generate_labelled {exam : Nat} {asOf : DateTime} {sourceReportId : Option Nat}
    {eventsBySk : Option (Batch K)} (labelled : Labelled db.interventions.rows) :
    Labelled (generateInterventions cfg db g classId exam asOf sourceReportId now eventsBySk).1.rows := by
  by_cases active : cfg.actionPlanEnable = true ∧ committedIds db exam ≠ []
  · rw [generate_eq cfg db g classId exam asOf eventsBySk sourceReportId now active.1 active.2,
      rows_applyPlan (makePlan_distinct _ _ _ _ _ _ _ _)]
    intro r written
    rcases List.mem_append.mp written with kept | added
    · have ⟨old, stored, same⟩ := List.mem_map.mp kept
      rw [← same]
      exact outcome_labelled (labelled old (mem_purge.mp stored).1)
    · have ⟨row, _, _, n, _, same⟩ := mem_addedSuggestions added
      rw [same]
      intro label
      by_contra single
      exact label (if_neg single)
  · rw [generate_idle cfg db g classId exam asOf eventsBySk sourceReportId now]
    · exact labelled
    · rw [not_and_or, Bool.not_eq_true, not_not] at active
      exact active

theorem reported_size {sizes : Dict (Option String) Nat} {r : Intervention} {n : Nat}
    (reported : (serialize cfg db g classId now sizes r).groupSize = some n) :
    r.scope = .group ∧ sizes.getD r.groupRef 0 = n := by
  unfold serialize at reported
  by_cases grouped : r.scope = .group
  · rw [if_pos grouped] at reported
    exact ⟨grouped, Option.some.inj reported⟩
  · rw [if_neg grouped] at reported
    cases reported

/-- The queue is well formed whatever the tables hold, and the rows that wait are those of the filter. -/
theorem action_queue_well_formed [IsStrictOrderedRing K] (cfg : Config K) (db : Db K) (g : KpGraph K) (classId : Nat)
    (examId : Option Nat) (examIds : Option (List Nat)) (now : DateTime) :
    let rows := viewRows db g classId examId examIds
    let view := actionPlanView cfg db g classId examId examIds now
    (∃ queue, view.rows = queue.map (serialize cfg db g classId now (groupSizes rows)) ∧
      WellFormedQueue cfg db g classId now rows queue) ∧
    view.rows.Pairwise (fun a b => ∀ m n, a.groupSize = some m → b.groupSize = some n → n ≤ m) ∧
    (Labelled rows → view.rows.Pairwise (fun a b => a.groupRef = b.groupRef → a.groupRef = none)) ∧
    view.pendingConfirm = rows.countP (fun r => decide (r.status = .suggested)) := by
  intro rows view
  have ⟨queue, within, shown⟩ := List.sublist_map_iff.mp
    (queue_sublist cfg db g classId examId examIds now)
  have formed := queue_well_formed shown within
  have listed : view.rows = queue.map (serialize cfg db g classId now (groupSizes rows)) := shown
  refine ⟨⟨queue, listed, formed⟩, ?_, ?_, ?_⟩
  · rw [listed, List.pairwise_map]
    refine formed.ordered.imp ?_
    intro a b before m n reported reported'
    have ⟨grouped, size⟩ := reported_size reported
    have ⟨grouped', size'⟩ := reported_size reported'
    rw [← size, ← size']
    exact before.groups grouped grouped'
  · intro labelled
    rw [listed, List.pairwise_map]
    refine List.Pairwise.imp_of_mem ?_ formed.groups
    intro a b left right apart same
    by_contra label
    exact apart (labelled a (formed.listed a left) label)
      (labelled b (formed.listed b right) (fun none_ => label (same.trans none_))) same
  · have perm : (leverOrder cfg db g rows).Perm rows :=
      (List.perm_ext_iff_of_nodup (leverOrder_nodup (viewRows_nodup ..)) (viewRows_nodup ..)).mpr (fun _ => mem_leverOrder)
    rw [← perm.countP_eq]
    exact List.countP_map ..

/-- The one row that the first round leaves waits in the queue. -/
theorem first_round_queue : ∃ queue,
    (actionPlanView Config.rational firstRoundDb drilledGraph 1 none none (noon 0)).rows = queue.map
      (serialize Config.rational firstRoundDb drilledGraph 1 (noon 0)
        (groupSizes (viewRows firstRoundDb drilledGraph 1 none none))) ∧
    WellFormedQueue Config.rational firstRoundDb drilledGraph 1 (noon 0) (viewRows firstRoundDb drilledGraph 1 none none)
      queue ∧
    queue.length = 1 ∧
    (actionPlanView Config.rational firstRoundDb drilledGraph 1 none none (noon 0)).pendingConfirm = 1 := by
  have ⟨⟨queue, listed, formed⟩, _, _, pending⟩ :=
    action_queue_well_formed Config.rational firstRoundDb drilledGraph 1 none none (noon 0)
  refine ⟨queue, listed, formed, ?_, ?_⟩
  · have length := congrArg List.length listed
    rw [List.length_map] at length
    rw [← length]
    decide +kernel
  · rw [pending]
    decide +kernel

end KnowledgeGap
