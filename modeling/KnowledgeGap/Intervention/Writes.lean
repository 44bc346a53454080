import KnowledgeGap.Intervention.Generate

namespace KnowledgeGap

open Relational

variable {K : Type} {t : Table Intervention} {g : KpGraph K} {classId : Nat}

theorem pendingIn_iff {iv : Intervention} :
    pendingIn g classId iv = true ↔ iv.classId = classId ∧ iv.kpId ∈ g.kpIds ∧ iv.status = .suggested := by
  simp [pendingIn, and_assoc]

theorem mem_purge {examId : Nat} {iv : Intervention} :
    iv ∈ (purge t g classId examId).rows ↔
      iv ∈ t.rows ∧ ¬ (iv.examId = examId ∧ pendingIn g classId iv = true) := by
  rw [purge, Table.rows_deleteWhere, List.mem_filter]
  simp only [Bool.not_eq_true', Bool.and_eq_false_iff, beq_eq_false_iff_ne, ne_eq, not_and_or,
    Bool.not_eq_true]

def superseded (t : Table Intervention) (g : KpGraph K) (classId : Nat) (iv : Intervention) : Bool :=
  t.rows.any (fun newer =>
    pendingIn g classId newer && decide (newer.key = iv.key) && decide (iv.id < newer.id))

theorem superseded_iff {iv : Intervention} :
    superseded t g classId iv = true ↔
      ∃ newer ∈ t.rows, pendingIn g classId newer = true ∧ newer.key = iv.key ∧ iv.id < newer.id := by
  simp [superseded, and_assoc]

theorem superseded_eq_false_iff {iv : Intervention} :
    superseded t g classId iv = false ↔
      ∀ other ∈ t.rows, pendingIn g classId other = true → other.key = iv.key → other.id ≤ iv.id := by
  rw [Bool.eq_false_iff, ne_eq, superseded_iff]
  constructor
  · intro newest other stored pending key
    by_contra newer
    exact newest ⟨other, stored, pending, key, Nat.lt_of_not_le newer⟩
  · intro bound held
    obtain ⟨newer, stored, pending, key, above⟩ := held
    have below := bound newer stored pending key
    omega

def pendingOf (t : Table Intervention) (g : KpGraph K) (classId : Nat) (key : Option Nat × Nat) :
    List Intervention :=
  (t.select (pendingIn g classId)).filter (fun iv => decide (iv.key = key))

theorem mem_pendingOf {key : Option Nat × Nat} {iv : Intervention} :
    iv ∈ pendingOf t g classId key ↔ iv ∈ t.rows ∧ pendingIn g classId iv = true ∧ iv.key = key := by
  unfold pendingOf Table.select
  rw [List.mem_filter, List.mem_filter, decide_eq_true_eq, and_assoc]

theorem pendingOf_distinct (t : Table Intervention) (g : KpGraph K) (classId : Nat)
    (key : Option Nat × Nat) : ∀ x ∈ pendingOf t g classId key, ∀ y ∈ pendingOf t g classId key,
      x.id = y.id → x = y := by
  intro x left y right same
  exact t.key_inj (mem_pendingOf.mp left).1 (mem_pendingOf.mp right).1 same

theorem pendingOf_nodup (t : Table Intervention) (g : KpGraph K) (classId : Nat)
    (key : Option Nat × Nat) : (pendingOf t g classId key).Nodup :=
  ((List.Nodup.of_map _ t.nodup).filter _).filter _

theorem pendingByKey_get? (t : Table Intervention) (g : KpGraph K) (classId : Nat)
    (key : Option Nat × Nat) (id : Nat) :
    (pendingByKey t g classId).get? key = some id ↔
      ∃ iv ∈ t.rows, pendingIn g classId iv = true ∧ iv.key = key ∧ iv.id = id ∧
        superseded t g classId iv = false := by
  have newest := fun m => getLast?_stableSort_key (pendingOf_distinct t g classId key) m
  unfold pendingByKey
  rw [Dict.get?_filterMapValues, Option.bind_eq_some_iff]
  constructor
  · intro held
    obtain ⟨rows, found, last⟩ := held
    obtain ⟨_, rfl⟩ := (Dict.mem_entries_group _ _ key rows).mp ((Dict.get?_eq_some_iff _ _ _).mp found)
    obtain ⟨iv, final, rfl⟩ := Option.map_eq_some_iff.mp last
    obtain ⟨member, bound⟩ := (newest iv).mp final
    obtain ⟨stored, pending, same⟩ := mem_pendingOf.mp member
    refine ⟨iv, stored, pending, same, rfl, superseded_eq_false_iff.mpr ?_⟩
    intro other present open_ key'
    exact bound other (mem_pendingOf.mpr ⟨present, open_, key'.trans same⟩)
  · intro held
    obtain ⟨iv, stored, pending, rfl, rfl, latest⟩ := held
    have member : iv ∈ pendingOf t g classId iv.key := mem_pendingOf.mpr ⟨stored, pending, rfl⟩
    refine ⟨pendingOf t g classId iv.key, ?_, ?_⟩
    · rw [Dict.get?_eq_some_iff]
      exact (Dict.mem_entries_group _ _ _ _).mpr ⟨List.ne_nil_of_mem member, rfl⟩
    · rw [Option.map_eq_some_iff]
      refine ⟨iv, (newest iv).mpr ⟨member, ?_⟩, rfl⟩
      intro other present
      obtain ⟨held, open_, key⟩ := mem_pendingOf.mp present
      exact superseded_eq_false_iff.mp latest other held open_ key

theorem mem_duplicates (t : Table Intervention) (g : KpGraph K) (classId : Nat) (id : Nat) :
    id ∈ duplicates t g classId ↔
      ∃ iv ∈ t.rows, pendingIn g classId iv = true ∧ iv.id = id ∧ superseded t g classId iv = true := by
  unfold duplicates
  rw [List.mem_flatMap]
  constructor
  · intro held
    obtain ⟨⟨key, rows⟩, entry, dropped⟩ := held
    obtain ⟨_, rfl⟩ := (Dict.mem_entries_group _ _ key rows).mp entry
    obtain ⟨iv, older, rfl⟩ := List.mem_map.mp dropped
    obtain ⟨member, newer, later, above⟩ := (mem_dropLast_stableSort_key
      (pendingOf_nodup t g classId key) (pendingOf_distinct t g classId key) iv).mp older
    obtain ⟨stored, pending, same⟩ := mem_pendingOf.mp member
    obtain ⟨present, open_, key'⟩ := mem_pendingOf.mp later
    exact ⟨iv, stored, pending, rfl,
      superseded_iff.mpr ⟨newer, present, open_, key'.trans same.symm, above⟩⟩
  · intro held
    obtain ⟨iv, stored, pending, rfl, older⟩ := held
    obtain ⟨newer, present, open_, key, above⟩ := superseded_iff.mp older
    have member : iv ∈ pendingOf t g classId iv.key := mem_pendingOf.mpr ⟨stored, pending, rfl⟩
    refine ⟨(iv.key, pendingOf t g classId iv.key), ?_, ?_⟩
    · exact (Dict.mem_entries_group _ _ _ _).mpr ⟨List.ne_nil_of_mem member, rfl⟩
    · refine List.mem_map.mpr ⟨iv, ?_, rfl⟩
      exact (mem_dropLast_stableSort_key (pendingOf_nodup t g classId iv.key)
        (pendingOf_distinct t g classId iv.key) iv).mpr
          ⟨member, newer, mem_pendingOf.mpr ⟨present, open_, key⟩, above⟩

variable {examId : Nat} {sourceReportId : Option Nat} {asOf now : DateTime} {plan : Plan}

/-- The newest suggestion of a need, refreshed when the plan still asks for it. -/
def refreshed (examId : Nat) (sourceReportId : Option Nat) (asOf : DateTime) (plan : Plan)
    (iv : Intervention) : Intervention :=
  match plan.rows.find? (fun row => decide (row.key = iv.key)) with
  | some row => refreshSuggestion examId sourceReportId asOf row iv
  | none => iv

/-- What the writes of a run leave of a stored row. -/
def outcome (t : Table Intervention) (g : KpGraph K) (classId examId : Nat)
    (sourceReportId : Option Nat) (asOf : DateTime) (plan : Plan) (iv : Intervention) : Intervention :=
  if pendingIn g classId iv then
    if superseded t g classId iv then mergeOut iv
    else if plan.gone iv.key then archive (refreshed examId sourceReportId asOf plan iv)
    else refreshed examId sourceReportId asOf plan iv
  else iv

theorem refreshed_id (iv : Intervention) : (refreshed examId sourceReportId asOf plan iv).id = iv.id := by
  unfold refreshed
  split <;> rfl

theorem archive_archive (iv : Intervention) : archive (archive iv) = archive iv := by
  unfold archive
  split
  · rfl
  · rfl

theorem merge_refreshAll {iv : Intervention} (stored : iv ∈ t.rows) :
    mergePatch.refreshAll (duplicates t g classId) iv =
      if pendingIn g classId iv && superseded t g classId iv then mergeOut iv else iv := by
  by_cases older : pendingIn g classId iv = true ∧ superseded t g classId iv = true
  · rw [if_pos (by simp [older])]
    apply Table.Patch.refreshAll_const
    · intro _ _
      rfl
    · rfl
    · exact ⟨iv.id, (mem_duplicates t g classId iv.id).mpr ⟨iv, stored, older.1, rfl, older.2⟩, rfl⟩
  · rw [if_neg (by simpa using older)]
    apply Table.Patch.refreshAll_of_missed
    intro id dropped aimed
    obtain ⟨other, present, pending, same, duplicate⟩ := (mem_duplicates t g classId id).mp dropped
    have named : id = iv.id := Option.some.inj aimed
    have equal := t.key_inj present stored (same.trans named)
    subst equal
    exact older ⟨pending, duplicate⟩

theorem pendingByKey_target {iv : Intervention} (stored : iv ∈ t.rows) {key : Option Nat × Nat}
    (found : (pendingByKey t g classId).get? key = some iv.id) :
    pendingIn g classId iv = true ∧ iv.key = key ∧ superseded t g classId iv = false := by
  obtain ⟨other, present, pending, same, id, latest⟩ := (pendingByKey_get? t g classId key iv.id).mp found
  have equal := t.key_inj present stored id
  subst equal
  exact ⟨pending, same, latest⟩

theorem upsert_refreshAll (distinct : (plan.rows.map ActionRow.key).Nodup) {iv : Intervention}
    (stored : iv ∈ t.rows) (base : Intervention) (same : base.id = iv.id) (sameKey : base.key = iv.key) :
    (suggestionWriter (pendingByKey t g classId) classId examId sourceReportId asOf now).refreshAll
        plan.rows base =
      if pendingIn g classId iv && !superseded t g classId iv then
        refreshed examId sourceReportId asOf plan base else base := by
  have named : Keyed.key base = iv.id := same
  by_cases latest : pendingIn g classId iv = true ∧ superseded t g classId iv = false
  · rw [if_pos (by simp [latest])]
    have held : (pendingByKey t g classId).get? iv.key = some iv.id :=
      (pendingByKey_get? t g classId iv.key iv.id).mpr ⟨iv, stored, latest.1, rfl, rfl, latest.2⟩
    unfold refreshed
    cases search : plan.rows.find? (fun row => decide (row.key = base.key)) with
    | some row =>
      have listed := List.mem_of_find?_eq_some search
      have key : row.key = base.key := by simpa using List.find?_some search
      apply Table.Patch.refreshAll_of_target
      · exact listed
      · rw [named]
        exact (congrArg _ (key.trans sameKey)).trans held
      · exact List.Nodup.of_map _ distinct
      · intro other member aimed
        rw [named] at aimed
        have otherKey := (pendingByKey_target stored aimed).2.1
        exact List.inj_on_of_nodup_map distinct member listed
          (otherKey.symm.trans (sameKey.symm.trans key.symm))
    | none =>
      apply Table.Patch.refreshAll_of_missed
      intro row listed aimed
      rw [named] at aimed
      have key := (pendingByKey_target stored aimed).2.1
      have absent := List.find?_eq_none.mp search row listed
      simp only [decide_eq_true_eq] at absent
      exact absent (key.symm.trans sameKey.symm)
  · rw [if_neg (by simpa using latest)]
    apply Table.Patch.refreshAll_of_missed
    intro row listed aimed
    rw [named] at aimed
    obtain ⟨pending, _, newest⟩ := pendingByKey_target stored aimed
    exact latest ⟨pending, newest⟩

theorem archive_refreshAll {iv : Intervention} (stored : iv ∈ t.rows) (base : Intervention)
    (same : base.id = iv.id) :
    (archivePatch plan).refreshAll (pendingByKey t g classId).entries base =
      if pendingIn g classId iv && !superseded t g classId iv && plan.gone iv.key then archive base
      else base := by
  have named : Keyed.key base = iv.id := same
  by_cases ended : pendingIn g classId iv = true ∧ superseded t g classId iv = false ∧
      plan.gone iv.key = true
  · rw [if_pos (by simp [ended])]
    apply Table.Patch.refreshAll_const
    · intro _ _
      rfl
    · exact archive_archive base
    · have held : (pendingByKey t g classId).get? iv.key = some iv.id :=
        (pendingByKey_get? t g classId iv.key iv.id).mpr ⟨iv, stored, ended.1, rfl, rfl, ended.2.1⟩
      refine ⟨(iv.key, iv.id), (Dict.get?_eq_some_iff _ _ _).mp held, ?_⟩
      rw [named]
      exact if_pos ended.2.2
  · rw [if_neg (by simpa [and_assoc] using ended)]
    apply Table.Patch.refreshAll_of_missed
    intro e entry aimed
    obtain ⟨key, id⟩ := e
    rw [named] at aimed
    simp only [archivePatch] at aimed
    split at aimed
    · rename_i gone
      have id_eq : id = iv.id := Option.some.inj aimed
      subst id_eq
      obtain ⟨pending, same', newest⟩ :=
        pendingByKey_target stored ((Dict.get?_eq_some_iff _ _ _).mpr entry)
      exact ended ⟨pending, newest, same' ▸ gone⟩
    · cases aimed

def addedSuggestions (t : Table Intervention) (g : KpGraph K) (classId examId : Nat)
    (sourceReportId : Option Nat) (asOf now : DateTime) (plan : Plan) : List Intervention :=
  (suggestionWriter (pendingByKey t g classId) classId examId sourceReportId asOf now).added
    plan.rows t.nextId

theorem mem_addedSuggestions {iv : Intervention}
    (added : iv ∈ addedSuggestions t g classId examId sourceReportId asOf now plan) :
    ∃ row ∈ plan.rows, (pendingByKey t g classId).get? row.key = none ∧
      ∃ n, t.nextId ≤ n ∧ iv = newSuggestion classId examId sourceReportId asOf now row n :=
  Table.Writer.mem_added _ added

/-- Merging, refreshing and archiving act on each stored row alone; the rest is appended. -/
theorem rows_applyPlan (distinct : (plan.rows.map ActionRow.key).Nodup) :
    (applyPlan t g classId examId sourceReportId asOf now plan).rows =
      t.rows.map (outcome t g classId examId sourceReportId asOf plan) ++
        addedSuggestions t g classId examId sourceReportId asOf now plan := by
  have known : ∀ row ∈ plan.rows, ∀ k,
      (suggestionWriter (pendingByKey t g classId) classId examId sourceReportId asOf now).target row = some k →
        k < (mergeDuplicates t g classId).nextId := by
    intro row _ k aimed
    obtain ⟨iv, stored, _, _, rfl, _⟩ := (pendingByKey_get? t g classId row.key k).mp aimed
    rw [mergeDuplicates, Table.nextId_patchAll]
    exact t.issued iv stored
  unfold applyPlan
  dsimp only
  rw [Table.rows_patchAll, Table.rows_upsertAll _ _ _ known, List.map_append]
  congr 1
  · rw [mergeDuplicates, Table.rows_patchAll, List.map_map, List.map_map]
    apply List.map_congr_left
    intro iv stored
    simp only [Function.comp_apply]
    rw [merge_refreshAll stored]
    have mergedId : (if pendingIn g classId iv && superseded t g classId iv then mergeOut iv else iv).id =
        iv.id := by
      split <;> rfl
    have mergedKey : (if pendingIn g classId iv && superseded t g classId iv then mergeOut iv else iv).key =
        iv.key := by
      split <;> rfl
    rw [upsert_refreshAll distinct stored _ mergedId mergedKey]
    have writtenId : (if pendingIn g classId iv && !superseded t g classId iv then
        refreshed examId sourceReportId asOf plan
          (if pendingIn g classId iv && superseded t g classId iv then mergeOut iv else iv)
        else if pendingIn g classId iv && superseded t g classId iv then mergeOut iv else iv).id = iv.id := by
      split
      · rw [refreshed_id, mergedId]
      · exact mergedId
    rw [archive_refreshAll stored _ writtenId, outcome]
    cases pendingIn g classId iv <;> cases superseded t g classId iv <;> cases plan.gone iv.key <;> rfl
  · have next : (mergeDuplicates t g classId).nextId = t.nextId := Table.nextId_patchAll _ _ _
    rw [next]
    have spared : ∀ iv ∈ addedSuggestions t g classId examId sourceReportId asOf now plan,
        (archivePatch plan).refreshAll (pendingByKey t g classId).entries iv = id iv := by
      intro iv added
      obtain ⟨row, _, _, n, issued, rfl⟩ := mem_addedSuggestions added
      apply Table.Patch.refreshAll_of_missed
      intro e entry aimed
      obtain ⟨key, id⟩ := e
      simp only [archivePatch] at aimed
      split at aimed
      · have named : id = n := Option.some.inj aimed
        obtain ⟨other, stored, _, _, same, _⟩ :=
          (pendingByKey_get? t g classId key id).mp ((Dict.get?_eq_some_iff _ _ _).mpr entry)
        have bound : other.id < t.nextId := t.issued other stored
        omega
      · cases aimed
    exact (List.map_congr_left spared).trans (List.map_id _)

variable (examId sourceReportId asOf plan) in
theorem refreshed_frame (iv : Intervention) :
    (refreshed examId sourceReportId asOf plan iv).id = iv.id ∧
      (refreshed examId sourceReportId asOf plan iv).classId = iv.classId ∧
      (refreshed examId sourceReportId asOf plan iv).key = iv.key ∧
      (refreshed examId sourceReportId asOf plan iv).status = iv.status := by
  unfold refreshed
  split <;> exact ⟨rfl, rfl, rfl, rfl⟩

theorem archive_frame (iv : Intervention) :
    (archive iv).id = iv.id ∧ (archive iv).classId = iv.classId ∧ (archive iv).key = iv.key ∧
      (archive iv).status ≠ .suggested := by
  unfold archive
  split
  · exact ⟨rfl, rfl, rfl, fun h => nomatch h⟩
  · rename_i closed
    exact ⟨rfl, rfl, rfl, closed⟩

variable (t g classId examId sourceReportId asOf plan) in
theorem outcome_frame (iv : Intervention) :
    (outcome t g classId examId sourceReportId asOf plan iv).id = iv.id ∧
      (outcome t g classId examId sourceReportId asOf plan iv).classId = iv.classId ∧
      (outcome t g classId examId sourceReportId asOf plan iv).key = iv.key := by
  obtain ⟨id, cls, key, _⟩ := refreshed_frame examId sourceReportId asOf plan iv
  obtain ⟨archivedId, archivedClass, archivedKey, _⟩ := archive_frame
    (refreshed examId sourceReportId asOf plan iv)
  unfold outcome
  split
  · split
    · exact ⟨rfl, rfl, rfl⟩
    · split
      · exact ⟨archivedId.trans id, archivedClass.trans cls, archivedKey.trans key⟩
      · exact ⟨id, cls, key⟩
  · exact ⟨rfl, rfl, rfl⟩

theorem outcome_of_not_pending {iv : Intervention} (settled : pendingIn g classId iv = false) :
    outcome t g classId examId sourceReportId asOf plan iv = iv := by
  rw [outcome, settled]
  rfl

theorem outcome_suggested {iv after : Intervention}
    (written : outcome t g classId examId sourceReportId asOf plan iv = after)
    (cls : after.classId = classId) (inside : after.kpId ∈ g.kpIds) (open_ : after.status = .suggested) :
    pendingIn g classId iv = true ∧ superseded t g classId iv = false ∧ plan.gone iv.key = false ∧
      iv.key = after.key := by
  subst written
  obtain ⟨_, sameClass, sameKey⟩ := outcome_frame t g classId examId sourceReportId asOf plan iv
  have point : (outcome t g classId examId sourceReportId asOf plan iv).kpId = iv.kpId :=
    congrArg Prod.snd sameKey
  rw [sameClass] at cls
  rw [point] at inside
  unfold outcome at open_
  split at open_
  · rename_i pending
    split at open_
    · cases open_
    · rename_i latest
      split at open_
      · exact absurd open_ (archive_frame _).2.2.2
      · rename_i asked
        exact ⟨pending, by simpa using latest, by simpa using asked, sameKey.symm⟩
  · rename_i settled
    exact absurd (pendingIn_iff.mpr ⟨cls, inside, open_⟩) settled

theorem addedSuggestions_key_inj (distinct : (plan.rows.map ActionRow.key).Nodup) {a b : Intervention}
    (left : a ∈ addedSuggestions t g classId examId sourceReportId asOf now plan)
    (right : b ∈ addedSuggestions t g classId examId sourceReportId asOf now plan)
    (same : a.key = b.key) : a = b := by
  have keys : ((addedSuggestions t g classId examId sourceReportId asOf now plan).map
      Intervention.key).Nodup := by
    unfold addedSuggestions
    rw [Table.Writer.map_added _ plan.rows t.nextId Intervention.key ActionRow.key (fun _ _ => rfl)]
    exact (List.Sublist.map ActionRow.key List.filter_sublist).nodup distinct
  exact List.inj_on_of_nodup_map keys left right same

theorem addedSuggestions_unheld {a b : Intervention} (stored : a ∈ t.rows)
    (pending : pendingIn g classId a = true) (latest : superseded t g classId a = false)
    (added : b ∈ addedSuggestions t g classId examId sourceReportId asOf now plan) : a.key ≠ b.key := by
  intro key
  obtain ⟨row, _, free, n, _, rfl⟩ := mem_addedSuggestions added
  have held := (pendingByKey_get? t g classId row.key a.id).mpr ⟨a, stored, pending, key, rfl, latest⟩
  rw [free] at held
  cases held

theorem applyPlan_unique (distinct : (plan.rows.map ActionRow.key).Nodup) {a b : Intervention}
    (left : a ∈ (applyPlan t g classId examId sourceReportId asOf now plan).rows)
    (right : b ∈ (applyPlan t g classId examId sourceReportId asOf now plan).rows)
    (classA : a.classId = classId) (classB : b.classId = classId) (inside : a.kpId ∈ g.kpIds)
    (openA : a.status = .suggested) (openB : b.status = .suggested) (same : a.key = b.key) : a = b := by
  have insideB : b.kpId ∈ g.kpIds := by
    have point : a.kpId = b.kpId := congrArg Prod.snd same
    exact point ▸ inside
  rw [rows_applyPlan distinct, List.mem_append] at left right
  rcases left with left | left <;> rcases right with right | right
  · obtain ⟨r, storedR, writtenR⟩ := List.mem_map.mp left
    obtain ⟨s, storedS, writtenS⟩ := List.mem_map.mp right
    obtain ⟨pendingR, latestR, _, keyR⟩ := outcome_suggested writtenR classA inside openA
    obtain ⟨pendingS, latestS, _, keyS⟩ := outcome_suggested writtenS classB insideB openB
    have key : r.key = s.key := keyR.trans (same.trans keyS.symm)
    have below := superseded_eq_false_iff.mp latestS r storedR pendingR key
    have above := superseded_eq_false_iff.mp latestR s storedS pendingS key.symm
    have equal : r = s := t.key_inj storedR storedS (le_antisymm below above)
    rw [← writtenR, ← writtenS, equal]
  · obtain ⟨r, stored, written⟩ := List.mem_map.mp left
    obtain ⟨pending, latest, _, key⟩ := outcome_suggested written classA inside openA
    exact absurd (key.trans same) (addedSuggestions_unheld stored pending latest right)
  · obtain ⟨s, stored, written⟩ := List.mem_map.mp right
    obtain ⟨pending, latest, _, key⟩ := outcome_suggested written classB insideB openB
    exact absurd (key.trans same.symm) (addedSuggestions_unheld stored pending latest left)
  · exact addedSuggestions_key_inj distinct left right same

theorem pendingIn_of_closed {iv : Intervention} (closed : iv.status = .done ∨ iv.status = .skipped) :
    pendingIn g classId iv = false := by
  rcases closed with closed | closed <;> simp [pendingIn, closed]

theorem pendingIn_of_outside {iv : Intervention} (outside : iv.classId ≠ classId ∨ iv.kpId ∉ g.kpIds) :
    pendingIn g classId iv = false := by
  rw [Bool.eq_false_iff]
  intro pending
  obtain ⟨cls, inside, _⟩ := pendingIn_iff.mp pending
  rcases outside with apart | beyond
  · exact apart cls
  · exact beyond inside

section
variable {p : Intervention → Bool} (settled : ∀ iv, p iv = true → pendingIn g classId iv = false)
include settled

theorem purge_select : (purge t g classId examId).select p = t.select p := by
  unfold Table.select
  rw [purge, Table.rows_deleteWhere, List.filter_filter]
  apply List.filter_congr
  intro iv _
  cases holds : p iv with
  | false => rfl
  | true => simp [settled iv holds]

theorem applyPlan_select (distinct : (plan.rows.map ActionRow.key).Nodup)
    (framed : ∀ iv, p (outcome t g classId examId sourceReportId asOf plan iv) = p iv)
    (unadded : ∀ iv ∈ addedSuggestions t g classId examId sourceReportId asOf now plan, p iv = false) :
    (applyPlan t g classId examId sourceReportId asOf now plan).select p = t.select p := by
  have none_added : (addedSuggestions t g classId examId sourceReportId asOf now plan).filter p = [] := by
    rw [List.filter_eq_nil_iff]
    intro iv added holds
    rw [unadded iv added] at holds
    cases holds
  unfold Table.select
  rw [rows_applyPlan distinct, List.filter_append, none_added, List.append_nil]
  apply filter_map_of_fixed
  · intro iv _
    exact framed iv
  · intro iv _ holds
    exact outcome_of_not_pending (settled iv holds)

end

def isDone (iv : Intervention) : Bool := decide (iv.status = .done)

theorem isDone_settled (iv : Intervention) (done : isDone iv = true) : pendingIn g classId iv = false :=
  pendingIn_of_closed (Or.inl (by simpa [isDone] using done))

theorem keptDone_congr {u : Table Intervention} (same : t.select isDone = u.select isDone) :
    keptDone t g classId = keptDone u g classId := by
  have chosen : ∀ v : Table Intervention,
      v.select (fun iv => iv.classId == classId && decide (iv.kpId ∈ g.kpIds) && decide (iv.status = .done)) =
        (v.select isDone).filter (fun iv => iv.classId == classId && decide (iv.kpId ∈ g.kpIds)) := by
    intro v
    unfold Table.select
    rw [List.filter_filter]
    rfl
  unfold keptDone
  rw [chosen t, chosen u, same]

theorem mergeDuplicates_done : (mergeDuplicates t g classId).select isDone = t.select isDone := by
  unfold Table.select
  rw [mergeDuplicates, Table.rows_patchAll]
  apply filter_map_of_fixed
  · intro iv stored
    rw [merge_refreshAll stored]
    split
    · rename_i older
      have pending : pendingIn g classId iv = true := by
        rw [Bool.and_eq_true] at older
        exact older.1
      have suggested := (pendingIn_iff.mp pending).2.2
      simp [isDone, mergeOut, suggested]
    · rfl
  · intro iv stored done
    rw [merge_refreshAll stored, isDone_settled iv done]
    rfl

theorem outcome_done (iv : Intervention) :
    isDone (outcome t g classId examId sourceReportId asOf plan iv) = isDone iv := by
  cases pending : pendingIn g classId iv with
  | false => rw [outcome_of_not_pending pending]
  | true =>
    have suggested := (pendingIn_iff.mp pending).2.2
    have kept := (refreshed_frame examId sourceReportId asOf plan iv).2.2.2
    rw [suggested] at kept
    unfold outcome
    rw [if_pos pending]
    split
    · simp [isDone, mergeOut, suggested]
    · split
      · simp [isDone, archive, kept, suggested]
      · simp [isDone, kept, suggested]

theorem applyPlan_done (distinct : (plan.rows.map ActionRow.key).Nodup) :
    (applyPlan t g classId examId sourceReportId asOf now plan).select isDone = t.select isDone := by
  refine applyPlan_select isDone_settled distinct outcome_done ?_
  intro iv added
  obtain ⟨row, _, _, n, _, rfl⟩ := mem_addedSuggestions added
  simp [isDone, newSuggestion]

/-- The rows of other classes and of points outside the graph, which no run touches. -/
def isOutside (g : KpGraph K) (classId : Nat) (iv : Intervention) : Bool :=
  decide (iv.classId ≠ classId ∨ iv.kpId ∉ g.kpIds)

theorem isOutside_settled (iv : Intervention) (outside : isOutside g classId iv = true) :
    pendingIn g classId iv = false :=
  pendingIn_of_outside (by simpa [isOutside] using outside)

theorem applyPlan_outside (distinct : (plan.rows.map ActionRow.key).Nodup)
    (inside : ∀ row ∈ plan.rows, row.kpId ∈ g.kpIds) :
    (applyPlan t g classId examId sourceReportId asOf now plan).select (isOutside g classId) =
      t.select (isOutside g classId) := by
  refine applyPlan_select isOutside_settled distinct ?_ ?_
  · intro iv
    obtain ⟨_, cls, key⟩ := outcome_frame t g classId examId sourceReportId asOf plan iv
    have point : (outcome t g classId examId sourceReportId asOf plan iv).kpId = iv.kpId :=
      congrArg Prod.snd key
    unfold isOutside
    rw [cls, point]
  · intro iv added
    obtain ⟨row, listed, _, n, _, rfl⟩ := mem_addedSuggestions added
    simp [isOutside, newSuggestion, inside row listed]

variable (g classId examId sourceReportId asOf now) in
theorem applyPlan_kept (distinct : (plan.rows.map ActionRow.key).Nodup) {iv : Intervention}
    (stored : iv ∈ t.rows) :
    outcome t g classId examId sourceReportId asOf plan iv ∈
      (applyPlan t g classId examId sourceReportId asOf now plan).rows := by
  rw [rows_applyPlan distinct]
  exact List.mem_append_left _ (List.mem_map_of_mem stored)

end KnowledgeGap
