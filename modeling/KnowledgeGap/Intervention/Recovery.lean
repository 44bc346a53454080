import KnowledgeGap.Intervention.Sharing

namespace KnowledgeGap

open Relational

variable {K : Type} [Field K] [LinearOrder K] [FloorRing K]

section
variable (cfg : Config K) (db : Db K) (g : KpGraph K) (classId examId : Nat) (asOf : DateTime)
  (sourceReportId : Option Nat) (now : DateTime) (eventsBySk : Option (Batch K))

/-- How many pupils who submitted the exam are assessed on a point. -/
def assessedOn (kpId : Nat) : Nat :=
  (judged cfg db g classId examId asOf eventsBySk).countP (fun a => decide (a.kpId = kpId))

/-- How many of them are weak there. -/
def weakOn (kpId : Nat) : Nat :=
  ((judged cfg db g classId examId asOf eventsBySk).filter KpAssessment.isWeak).countP (fun a => decide (a.kpId = kpId))

def weakShare (kpId : Nat) : K :=
  (weakOn cfg db g classId examId asOf eventsBySk kpId : K) / assessedOn cfg db g classId examId asOf eventsBySk kpId

/-- What a new exam makes of a suggestion to the class: one that the exam speaks against is archived, one that it says
    too little of stays, and one that it bears out is refreshed to it. -/
structure FollowsClass (r : Intervention) : Prop where
  recovered : 4 ≤ assessedOn cfg db g classId examId asOf eventsBySk r.kpId →
    weakShare cfg db g classId examId asOf eventsBySk r.kpId < classCommonWeakRatio K →
      ∃ after ∈ (generateInterventions cfg db g classId examId asOf sourceReportId now eventsBySk).1.rows,
        after.id = r.id ∧ after.status = .skipped ∧ after.note = some archivedNote
  few : assessedOn cfg db g classId examId asOf eventsBySk r.kpId < 4 →
    ∃ after ∈ (generateInterventions cfg db g classId examId asOf sourceReportId now eventsBySk).1.rows,
      after.id = r.id ∧ after.status = .suggested
  common : 4 ≤ assessedOn cfg db g classId examId asOf eventsBySk r.kpId →
    classCommonWeakRatio K ≤ weakShare cfg db g classId examId asOf eventsBySk r.kpId →
      ∃ after ∈ (generateInterventions cfg db g classId examId asOf sourceReportId now eventsBySk).1.rows,
        after.id = r.id ∧ after.status = .suggested ∧ after.examId = examId ∧ after.baselineAsOf = asOf ∧
          after.sourceReportId = sourceReportId

/-- No open suggestion of the same need that the exam leaves is newer. -/
def NewestOpen (r : Intervention) : Prop :=
  ∀ s ∈ db.interventions.rows, pendingIn g classId s = true → s.examId ≠ examId → s.key = r.key → s.id ≤ r.id

variable {r : Intervention}

variable {db g classId examId} in
omit [Field K] [LinearOrder K] [FloorRing K] in
theorem superseded_purge_iff : superseded (purge db.interventions g classId examId) g classId r = false ↔
    NewestOpen db g classId examId r := by
  rw [superseded_eq_false_iff]
  constructor
  · intro newest s stored pending other key
    exact newest s (mem_purge.mpr ⟨stored, fun purged => other purged.1⟩) pending key
  · intro newest s remaining pending key
    have ⟨stored, spared⟩ := mem_purge.mp remaining
    exact newest s stored pending (fun same => spared ⟨same, pending⟩) key

theorem assessedOn_outside {kpId : Nat} (outside : kpId ∉ g.kpIds) :
    assessedOn cfg db g classId examId asOf eventsBySk kpId = 0 := by
  unfold assessedOn
  rw [List.countP_eq_zero]
  intro a listed
  have ⟨sid, _, valid⟩ := List.mem_flatMap.mp listed
  have inside := KpGraph.mem_kpIds_of_mem_gradeKpIds (mem_assessStudentKps (List.mem_of_mem_filter valid))
  have differs : a.kpId ≠ kpId := fun same => outside (same ▸ inside)
  simpa using differs

/-- The suggestion of a plan to the class, on a point with so many of the pupils weak. -/
def commonRow (weak assessed kpId : Nat) : ActionRow :=
  { studentId := none, kpId := kpId, kind := .reteach, scope := .wholeClass, attributionId := none, rootKpId := none,
    note := some (toString weak ++ "/" ++ toString assessed ++ " 人待加强") }

/-- A plan suggests to the class the points that the exam bears out, and nothing else. -/
theorem mem_makePlan_class (done : Dict (Nat × Nat × InterventionKind) Intervention) {row : ActionRow} :
    row ∈ (makePlan cfg db g done classId examId asOf eventsBySk).rows ∧ row.scope = .wholeClass ↔
      ∃ kpId, CommonNeed (judged cfg db g classId examId asOf eventsBySk) kpId ∧
        row = commonRow (weakOn cfg db g classId examId asOf eventsBySk kpId)
          (assessedOn cfg db g classId examId asOf eventsBySk kpId) kpId := by
  have made : ∀ kpId weak, weak = weakOn cfg db g classId examId asOf eventsBySk kpId →
      classRow (K := K) (Dict.count KpAssessment.kpId (judged cfg db g classId examId asOf eventsBySk)) (kpId, weak) =
        if 4 ≤ assessedOn cfg db g classId examId asOf eventsBySk kpId ∧
            classCommonWeakRatio K ≤ weakShare cfg db g classId examId asOf eventsBySk kpId then
          some (commonRow (weakOn cfg db g classId examId asOf eventsBySk kpId)
            (assessedOn cfg db g classId examId asOf eventsBySk kpId) kpId)
        else none := by
    intro kpId weak counted
    unfold classRow
    dsimp only
    rw [Dict.getD_count, counted]
    rfl
  constructor
  · intro planned
    have ⟨listed, whole⟩ := planned
    rcases List.mem_append.mp listed with shared | own
    · have ⟨e, entry, filed⟩ := List.mem_filterMap.mp shared
      have ⟨positive, counted⟩ := (Dict.mem_entries_count _ _ _ _).mp ((perm_stableSort byKpCount _).mem_iff.mp entry)
      have named := (made e.1 e.2 counted).symm.trans filed
      split at named
      · rename_i common
        exact ⟨e.1, ⟨counted ▸ positive, common.1, common.2⟩, (Option.some.inj named).symm⟩
      · cases named
    · have ⟨sid, committed, mine⟩ := List.mem_flatMap.mp own
      rw [getD_clustered cfg db g done classId examId asOf eventsBySk committed] at mine
      rcases mem_joinAll mine with kept | grouped
      · rw [keptRows_scope cfg db g classId kept] at whole
        cases whole
      · rw [grouped] at whole
        cases whole
  · intro common
    have ⟨kpId, need, same⟩ := common
    refine ⟨?_, same ▸ rfl⟩
    apply List.mem_append_left
    have entry := (Dict.mem_entries_count KpAssessment.kpId
      ((judged cfg db g classId examId asOf eventsBySk).filter KpAssessment.isWeak) kpId _).mpr ⟨need.1, rfl⟩
    refine List.mem_filterMap.mpr ⟨_, (perm_stableSort byKpCount _).mem_iff.mpr entry, ?_⟩
    rw [same]
    exact (made kpId _ rfl).trans (if_pos need.2)

theorem makePlan_needs_class (kpId : Nat) :
    (none, kpId) ∈ (makePlan cfg db g (keptDone db.interventions g classId) classId examId asOf
        eventsBySk).rows.map ActionRow.key ↔
      0 < weakOn cfg db g classId examId asOf eventsBySk kpId ∧
        4 ≤ assessedOn cfg db g classId examId asOf eventsBySk kpId ∧
          classCommonWeakRatio K ≤ weakShare cfg db g classId examId asOf eventsBySk kpId :=
  mem_makePlan_keys cfg db g classId examId asOf eventsBySk (none, kpId)

theorem makePlan_gone_class (kpId : Nat) :
    (makePlan cfg db g (keptDone db.interventions g classId) classId examId asOf eventsBySk).gone (none, kpId) = true ↔
      0 < weakOn cfg db g classId examId asOf eventsBySk kpId ∧
        4 ≤ assessedOn cfg db g classId examId asOf eventsBySk kpId ∧
          weakShare cfg db g classId examId asOf eventsBySk kpId < classCommonWeakRatio K := by
  have ended := mem_disproven_iff cfg db g classId ⟨examId, asOf, none, eventsBySk⟩ kpId
  have gone : (makePlan cfg db g (keptDone db.interventions g classId) classId examId asOf eventsBySk).gone
      (none, kpId) = true ↔ kpId ∈ (planOf cfg db g classId ⟨examId, asOf, none, eventsBySk⟩).disproven :=
    decide_eq_true_iff
  rw [gone, ended]
  constructor
  · intro disproven
    have ⟨⟨weak, enough⟩, unneeded⟩ := disproven
    refine ⟨weak, enough, ?_⟩
    by_contra reached
    exact unneeded ⟨weak, enough, not_lt.mp reached⟩
  · intro below
    have ⟨weak, enough, low⟩ := below
    refine ⟨⟨weak, enough⟩, ?_⟩
    intro need
    exact absurd need.2.2 (not_le.mpr low)

section
variable (enabled : cfg.actionPlanEnable = true) (submitted : committedIds db examId ≠ [])
include enabled submitted

/-- The row that a run leaves of one that another exam has left. -/
theorem generate_leaves (stored : r ∈ db.interventions.rows) (earlier : r.examId ≠ examId)
    (P : Intervention → Prop) :
    (∃ after ∈ (generateInterventions cfg db g classId examId asOf sourceReportId now eventsBySk).1.rows,
      after.id = r.id ∧ P after) ↔
      P (outcome (purge db.interventions g classId examId) g classId examId sourceReportId asOf
        (makePlan cfg db g (keptDone db.interventions g classId) classId examId asOf eventsBySk) r) := by
  rw [generate_eq cfg db g classId examId asOf eventsBySk sourceReportId now enabled submitted]
  have distinct := makePlan_distinct cfg db g (keptDone db.interventions g classId) classId examId asOf eventsBySk
  have remaining : r ∈ (purge db.interventions g classId examId).rows :=
    mem_purge.mpr ⟨stored, fun purged => earlier purged.1⟩
  have kept := applyPlan_kept g classId examId sourceReportId asOf now distinct remaining
  have id := (outcome_frame (purge db.interventions g classId examId) g classId examId sourceReportId asOf
    (makePlan cfg db g (keptDone db.interventions g classId) classId examId asOf eventsBySk) r).1
  constructor
  · intro left
    have ⟨after, listed, same, holds⟩ := left
    rw [Table.key_inj _ listed kept (same.trans id.symm)] at holds
    exact holds
  · intro holds
    exact ⟨_, kept, id, holds⟩

end

section
variable (shared : r.studentId = none) (pending : pendingIn g classId r = true)
  (newest : NewestOpen db g classId examId r)
include shared pending newest

/-- An exam that says too little of a point leaves the newest suggestion on it to the class as it is. -/
theorem outcome_unjudged (unjudged : ¬ (0 < weakOn cfg db g classId examId asOf eventsBySk r.kpId ∧
      4 ≤ assessedOn cfg db g classId examId asOf eventsBySk r.kpId)) :
    outcome (purge db.interventions g classId examId) g classId examId sourceReportId asOf
      (makePlan cfg db g (keptDone db.interventions g classId) classId examId asOf eventsBySk) r = r := by
  have key : r.key = (none, r.kpId) := Prod.ext shared rfl
  have unneeded := makePlan_needs_class cfg db g classId examId asOf eventsBySk r.kpId
  have kept := makePlan_gone_class cfg db g classId examId asOf eventsBySk r.kpId
  rw [← key] at unneeded kept
  have unplanned : ∀ row ∈ (makePlan cfg db g (keptDone db.interventions g classId) classId examId asOf
      eventsBySk).rows, row.key ≠ r.key := by
    intro row listed same
    have need := unneeded.mp (List.mem_map.mpr ⟨row, listed, same⟩)
    exact unjudged ⟨need.1, need.2.1⟩
  have asked : (makePlan cfg db g (keptDone db.interventions g classId) classId examId asOf eventsBySk).gone
      r.key = false := by
    rw [Bool.eq_false_iff]
    intro gone
    have ended := kept.mp gone
    exact unjudged ⟨ended.1, ended.2.1⟩
  rw [outcome, pending, superseded_purge_iff.mpr newest, asked, refreshed_of_unplanned unplanned]
  rfl

theorem outcome_recovered (weak : 0 < weakOn cfg db g classId examId asOf eventsBySk r.kpId)
    (enough : 4 ≤ assessedOn cfg db g classId examId asOf eventsBySk r.kpId)
    (below : weakShare cfg db g classId examId asOf eventsBySk r.kpId < classCommonWeakRatio K) :
    outcome (purge db.interventions g classId examId) g classId examId sourceReportId asOf
        (makePlan cfg db g (keptDone db.interventions g classId) classId examId asOf eventsBySk) r =
      { r with status := .skipped, note := some archivedNote } := by
  have key : r.key = (none, r.kpId) := Prod.ext shared rfl
  have unplanned : ∀ row ∈ (makePlan cfg db g (keptDone db.interventions g classId) classId examId asOf
      eventsBySk).rows, row.key ≠ r.key := by
    intro row listed same
    have need := (makePlan_needs_class cfg db g classId examId asOf eventsBySk r.kpId).mp
      (key ▸ List.mem_map.mpr ⟨row, listed, same⟩)
    exact absurd need.2.2 (not_le.mpr below)
  have gone := (makePlan_gone_class cfg db g classId examId asOf eventsBySk r.kpId).mpr ⟨weak, enough, below⟩
  rw [← key] at gone
  rw [outcome, pending, superseded_purge_iff.mpr newest, gone, refreshed_of_unplanned unplanned]
  exact if_pos (pendingIn_iff.mp pending).2.2

theorem outcome_common (weak : 0 < weakOn cfg db g classId examId asOf eventsBySk r.kpId)
    (enough : 4 ≤ assessedOn cfg db g classId examId asOf eventsBySk r.kpId)
    (reached : classCommonWeakRatio K ≤ weakShare cfg db g classId examId asOf eventsBySk r.kpId) :
    ∃ row, outcome (purge db.interventions g classId examId) g classId examId sourceReportId asOf
        (makePlan cfg db g (keptDone db.interventions g classId) classId examId asOf eventsBySk) r =
      refreshSuggestion examId sourceReportId asOf row r := by
  have key : r.key = (none, r.kpId) := Prod.ext shared rfl
  have planned := (makePlan_needs_class cfg db g classId examId asOf eventsBySk r.kpId).mpr ⟨weak, enough, reached⟩
  have ⟨row, listed, same⟩ := List.mem_map.mp planned
  have asked : (makePlan cfg db g (keptDone db.interventions g classId) classId examId asOf eventsBySk).gone
      r.key = false := by
    rw [Bool.eq_false_iff, key]
    intro gone
    have low := ((makePlan_gone_class cfg db g classId examId asOf eventsBySk r.kpId).mp gone).2.2
    exact absurd reached (not_le.mpr low)
  have distinct := makePlan_distinct cfg db g (keptDone db.interventions g classId) classId examId asOf eventsBySk
  refine ⟨row, ?_⟩
  rw [outcome, pending, superseded_purge_iff.mpr newest, asked,
    refreshed_of_planned distinct listed (key.trans same.symm)]
  rfl

end

end

section
variable {cfg : Config K} {db : Db K} {g : KpGraph K} {classId examId : Nat} {asOf : DateTime}
  {sourceReportId : Option Nat} {now : DateTime} {eventsBySk : Option (Batch K)} {r : Intervention}
  (stored : r ∈ db.interventions.rows) (open_ : r.status = .suggested) (earlier : r.examId ≠ examId)
include stored open_ earlier

theorem followsClass_idle (idle : cfg.actionPlanEnable = false ∨ committedIds db examId = []) :
    FollowsClass cfg db g classId examId asOf sourceReportId now eventsBySk r ↔
      assessedOn cfg db g classId examId asOf eventsBySk r.kpId < 4 := by
  have still := generate_idle cfg db g classId examId asOf eventsBySk sourceReportId now idle
  have same : ∀ after ∈ db.interventions.rows, after.id = r.id → after = r :=
    fun after listed id => Table.key_inj _ listed stored id
  constructor
  · intro follows
    by_contra many
    rcases lt_or_ge (weakShare cfg db g classId examId asOf eventsBySk r.kpId) (classCommonWeakRatio K) with
      below | reached
    · have ⟨after, listed, id, archived, _⟩ := follows.recovered (not_lt.mp many) below
      rw [still] at listed
      rw [same after listed id, open_] at archived
      cases archived
    · have ⟨after, listed, id, _, exam, _⟩ := follows.common (not_lt.mp many) reached
      rw [still] at listed
      rw [same after listed id] at exam
      exact earlier exam
  · intro few
    refine ⟨fun many => absurd many (not_le.mpr few), fun _ => ?_, fun many => absurd many (not_le.mpr few)⟩
    rw [still]
    exact ⟨r, stored, rfl, open_⟩

section
variable (enabled : cfg.actionPlanEnable = true) (submitted : committedIds db examId ≠ [])
include enabled submitted

omit open_ in
/-- What a run makes of a suggestion can be read off the row it leaves of it. -/
theorem followsClass_left {left : Intervention}
    (written : outcome (purge db.interventions g classId examId) g classId examId sourceReportId asOf
      (makePlan cfg db g (keptDone db.interventions g classId) classId examId asOf eventsBySk) r = left) :
    FollowsClass cfg db g classId examId asOf sourceReportId now eventsBySk r ↔
      (4 ≤ assessedOn cfg db g classId examId asOf eventsBySk r.kpId →
        weakShare cfg db g classId examId asOf eventsBySk r.kpId < classCommonWeakRatio K →
          left.status = .skipped ∧ left.note = some archivedNote) ∧
      (assessedOn cfg db g classId examId asOf eventsBySk r.kpId < 4 → left.status = .suggested) ∧
      (4 ≤ assessedOn cfg db g classId examId asOf eventsBySk r.kpId →
        classCommonWeakRatio K ≤ weakShare cfg db g classId examId asOf eventsBySk r.kpId →
          left.status = .suggested ∧ left.examId = examId ∧ left.baselineAsOf = asOf ∧
            left.sourceReportId = sourceReportId) := by
  have leaves := generate_leaves cfg db g classId examId asOf sourceReportId now eventsBySk enabled submitted stored
    earlier
  have meets : FollowsClass cfg db g classId examId asOf sourceReportId now eventsBySk r ↔ _ :=
    ⟨fun follows => And.intro follows.recovered (And.intro follows.few follows.common),
      fun parts => ⟨parts.1, parts.2.1, parts.2.2⟩⟩
  rw [meets]
  simp only [leaves, written]

section
variable (shared : r.studentId = none) (pending : pendingIn g classId r = true)
include shared pending

theorem followsClass_judged (newest : NewestOpen db g classId examId r)
    (weak : 0 < weakOn cfg db g classId examId asOf eventsBySk r.kpId)
    (enough : 4 ≤ assessedOn cfg db g classId examId asOf eventsBySk r.kpId) :
    FollowsClass cfg db g classId examId asOf sourceReportId now eventsBySk r := by
  rcases lt_or_ge (weakShare cfg db g classId examId asOf eventsBySk r.kpId) (classCommonWeakRatio K) with
    below | reached
  · have archived := outcome_recovered cfg db g classId examId asOf sourceReportId eventsBySk shared pending newest weak
      enough below
    rw [followsClass_left stored earlier enabled submitted archived]
    exact ⟨fun _ _ => ⟨rfl, rfl⟩, fun few => absurd enough (not_le.mpr few),
      fun _ reached => absurd reached (not_le.mpr below)⟩
  · have ⟨row, refreshed⟩ := outcome_common cfg db g classId examId asOf sourceReportId eventsBySk shared pending newest
      weak enough reached
    rw [followsClass_left stored earlier enabled submitted refreshed]
    exact ⟨fun _ below => absurd reached (not_le.mpr below), fun few => absurd enough (not_le.mpr few),
      fun _ _ => ⟨open_, rfl, rfl, rfl⟩⟩

/-- A row that is left as it is follows only an exam that assesses too few. -/
theorem followsClass_unjudged (newest : NewestOpen db g classId examId r)
    (unjudged : ¬ (0 < weakOn cfg db g classId examId asOf eventsBySk r.kpId ∧
      4 ≤ assessedOn cfg db g classId examId asOf eventsBySk r.kpId)) :
    FollowsClass cfg db g classId examId asOf sourceReportId now eventsBySk r ↔
      assessedOn cfg db g classId examId asOf eventsBySk r.kpId < 4 := by
  rw [followsClass_left stored earlier enabled submitted
    (outcome_unjudged cfg db g classId examId asOf sourceReportId eventsBySk shared pending newest unjudged)]
  constructor
  · intro follows
    by_contra many
    rcases lt_or_ge (weakShare cfg db g classId examId asOf eventsBySk r.kpId) (classCommonWeakRatio K) with
      below | reached
    · have archived := (follows.1 (not_lt.mp many) below).1
      rw [open_] at archived
      cases archived
    · exact earlier (follows.2.2 (not_lt.mp many) reached).2.1
  · intro few
    exact ⟨fun many => absurd many (not_le.mpr few), fun _ => open_, fun many => absurd many (not_le.mpr few)⟩

omit open_ shared in
/-- A duplicate is put away as such, whatever the exam says. -/
theorem not_followsClass_older (older : ¬ NewestOpen db g classId examId r) :
    ¬ FollowsClass cfg db g classId examId asOf sourceReportId now eventsBySk r := by
  have superseded_ : superseded (purge db.interventions g classId examId) g classId r = true := by
    rw [← Bool.not_eq_false, superseded_purge_iff]
    exact older
  have merged : outcome (purge db.interventions g classId examId) g classId examId sourceReportId asOf
      (makePlan cfg db g (keptDone db.interventions g classId) classId examId asOf eventsBySk) r = mergeOut r := by
    rw [outcome, pending, superseded_]
    rfl
  rw [followsClass_left stored earlier enabled submitted merged]
  intro follows
  rcases Nat.lt_or_ge (assessedOn cfg db g classId examId asOf eventsBySk r.kpId) 4 with few | many
  · exact absurd (follows.2.1 few) (by simp [mergeOut])
  · rcases lt_or_ge (weakShare cfg db g classId examId asOf eventsBySk r.kpId) (classCommonWeakRatio K) with
      below | reached
    · exact absurd (follows.1 many below).2 (by simp [mergeOut, mergedNote, archivedNote])
    · exact absurd (follows.2.2 many reached).1 (by simp [mergeOut])

end

/-- On a point outside the graph nobody is assessed, and a run leaves the row as it is. -/
theorem followsClass_outside (unreached : pendingIn g classId r ≠ true) (outside : r.kpId ∉ g.kpIds) :
    FollowsClass cfg db g classId examId asOf sourceReportId now eventsBySk r := by
  have nobody := assessedOn_outside cfg db g classId examId asOf eventsBySk outside
  rw [followsClass_left stored earlier enabled submitted (outcome_of_not_pending (by simpa using unreached)), nobody]
  exact ⟨fun many => absurd many (by decide), fun _ => open_, fun many => absurd many (by decide)⟩

theorem followsClass_active (own : r.classId = classId) (shared : r.studentId = none) :
    FollowsClass cfg db g classId examId asOf sourceReportId now eventsBySk r ↔
      NewestOpen db g classId examId r ∧ (4 ≤ assessedOn cfg db g classId examId asOf eventsBySk r.kpId →
        0 < weakOn cfg db g classId examId asOf eventsBySk r.kpId) := by
  by_cases pending : pendingIn g classId r = true
  · by_cases newest : NewestOpen db g classId examId r
    · by_cases judged : 0 < weakOn cfg db g classId examId asOf eventsBySk r.kpId ∧
          4 ≤ assessedOn cfg db g classId examId asOf eventsBySk r.kpId
      · exact iff_of_true (followsClass_judged stored open_ earlier enabled submitted shared pending newest judged.1
          judged.2) ⟨newest, fun _ => judged.1⟩
      · rw [followsClass_unjudged stored open_ earlier enabled submitted shared pending newest judged, ← not_le]
        constructor
        · intro few
          exact ⟨newest, fun many => absurd many few⟩
        · intro condition many
          exact judged ⟨condition.2 many, many⟩
    · exact iff_of_false (not_followsClass_older stored earlier enabled submitted pending newest)
        (fun condition => newest condition.1)
  · have outside : r.kpId ∉ g.kpIds := fun inside => pending (pendingIn_iff.mpr ⟨own, inside, open_⟩)
    refine iff_of_true (followsClass_outside stored open_ earlier enabled submitted pending outside) ⟨?_, ?_⟩
    · intro s _ waiting _ same
      have point : s.kpId = r.kpId := congrArg Prod.snd same
      exact absurd (point ▸ (pendingIn_iff.mp waiting).2.1) outside
    · intro many
      rw [assessedOn_outside cfg db g classId examId asOf eventsBySk outside] at many
      exact absurd many (by decide)

end

end

/-- A new exam does to a suggestion to the class what it should exactly when the suggestion is the newest of its need
    and not all of the four pupils or more who are assessed on its point have recovered: points without a weak pupil
    are not among those that the class is told to have recovered on. -/
theorem follows_class_iff (cfg : Config K) (db : Db K) (g : KpGraph K) (classId examId : Nat) (asOf : DateTime)
    (sourceReportId : Option Nat) (now : DateTime) (eventsBySk : Option (Batch K)) {r : Intervention}
    (stored : r ∈ db.interventions.rows) (own : r.classId = classId) (shared : r.studentId = none)
    (open_ : r.status = .suggested) (earlier : r.examId ≠ examId) :
    FollowsClass cfg db g classId examId asOf sourceReportId now eventsBySk r ↔
      if cfg.actionPlanEnable = true ∧ committedIds db examId ≠ [] then
        NewestOpen db g classId examId r ∧ (4 ≤ assessedOn cfg db g classId examId asOf eventsBySk r.kpId →
          0 < weakOn cfg db g classId examId asOf eventsBySk r.kpId)
      else assessedOn cfg db g classId examId asOf eventsBySk r.kpId < 4 := by
  by_cases active : cfg.actionPlanEnable = true ∧ committedIds db examId ≠ []
  · rw [if_pos active]
    exact followsClass_active stored open_ earlier active.1 active.2 own shared
  · rw [if_neg active]
    rw [not_and_or, Bool.not_eq_true, not_not] at active
    exact followsClass_idle stored open_ earlier active

/-- After the exam of day 0 a point was suggested to the class; in that of day 5 three of four pupils have full marks on
    it, and the first pupil the rate that is given. -/
def retaken (rate : ℚ) : Db ℚ :=
  { Db.empty ℚ with
    classes := .ofList [⟨1, 7⟩]
    students := .ofList [⟨1, 1, "甲"⟩, ⟨2, 1, "乙"⟩, ⟨3, 1, "丙"⟩, ⟨4, 1, "丁"⟩]
    progress := .ofList [⟨1, 1, 9, 0⟩]
    templates := .ofList [examOn 4 0, examOn 5 5]
    questions := .ofList ((List.range 3).map (fun n =>
      ⟨n + 1, 5, (n + 1 : Nat), "", .other "解答", 5, .apply, 1 / 2, none⟩))
    questionKps := .ofList ((List.range 3).map (fun n => ⟨n + 1, n + 1, 9, 1⟩))
    responses := .ofList ((List.range 4).map (fun n => ⟨n + 1, 5, n + 1, 0, .submitted⟩))
    answers := .ofList ((List.range 12).map (fun n =>
      ⟨n + 1, n / 3 + 1, n % 3 + 1, if n / 3 = 0 then rate * 5 else 5, false⟩))
    events := .ofList ((List.range 12).map (fun n =>
      { id := n + 1, studentId := n / 3 + 1, kpId := 9, responseAnswerId := n + 1, sourceType := .unit,
        value := if n / 3 = 0 then rate else 1, weight := 1, cogLevel := .apply, classAvgRate := none,
        occurredAt := noon 5 }))
    interventions := .ofList [{ openRow 1 4 .suggested with studentId := none, kind := .reteach, scope := .wholeClass }] }

/-- One weak pupil of four: the suggestion is archived. -/
theorem one_of_four_follows :
    (generateInterventions Config.rational (retaken 0) crowdedGraph 1 5 (noon 6) none (noon 6) none).1.rows.map
        (fun r => (r.status, r.note)) = [(.skipped, some archivedNote)] ∧
      ∀ r ∈ (retaken 0).interventions.rows,
        FollowsClass Config.rational (retaken 0) crowdedGraph 1 5 (noon 6) none (noon 6) none r := by
  refine ⟨by decide +kernel, ?_⟩
  intro r stored
  have only : r = { openRow 1 4 .suggested with studentId := none, kind := .reteach, scope := .wholeClass } :=
    List.mem_singleton.mp stored
  subst only
  apply (follows_class_iff Config.rational (retaken 0) crowdedGraph 1 5 (noon 6) none (noon 6) none stored rfl rfl rfl
    (by decide)).mpr
  rw [if_pos ⟨rfl, by decide⟩]
  refine ⟨?_, fun _ => by decide +kernel⟩
  intro s listed
  rw [show s = _ from List.mem_singleton.mp listed]
  intro _ _ _
  exact Nat.le_refl _

/-- None of the four: the suggestion stays. -/
theorem none_of_four_stays :
    assessedOn Config.rational (retaken 1) crowdedGraph 1 5 (noon 6) none 9 = 4 ∧
      weakShare Config.rational (retaken 1) crowdedGraph 1 5 (noon 6) none 9 = 0 ∧
      (generateInterventions Config.rational (retaken 1) crowdedGraph 1 5 (noon 6) none (noon 6) none).1.rows =
        (retaken 1).interventions.rows ∧
      ∃ r ∈ (retaken 1).interventions.rows, r.status = .suggested ∧
        ¬ FollowsClass Config.rational (retaken 1) crowdedGraph 1 5 (noon 6) none (noon 6) none r := by
  have assessed : assessedOn Config.rational (retaken 1) crowdedGraph 1 5 (noon 6) none 9 = 4 := by decide +kernel
  have share : weakShare Config.rational (retaken 1) crowdedGraph 1 5 (noon 6) none 9 = 0 := by decide +kernel
  have still : (generateInterventions Config.rational (retaken 1) crowdedGraph 1 5 (noon 6) none (noon 6) none).1.rows =
      (retaken 1).interventions.rows := by decide +kernel
  refine ⟨assessed, share, still, _, List.mem_singleton.mpr rfl, rfl, ?_⟩
  intro follows
  have below : weakShare Config.rational (retaken 1) crowdedGraph 1 5 (noon 6) none 9 < classCommonWeakRatio ℚ := by
    rw [share]
    decide +kernel
  have ⟨after, listed, _, archived, _⟩ := follows.recovered (Nat.le_of_eq assessed.symm) below
  rw [still] at listed
  rw [List.mem_singleton.mp listed] at archived
  cases archived

end KnowledgeGap
