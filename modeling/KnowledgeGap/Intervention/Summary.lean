import KnowledgeGap.Data.Arithmetic
import KnowledgeGap.Data.Outcome
import KnowledgeGap.Intervention.Effect
import KnowledgeGap.Intervention.Recovery

namespace KnowledgeGap

open Relational

/-- How many judged suggestions came out how. -/
structure EffectCounts where
  awaitingRetest : Nat
  improved : Nat
  flat : Nat
  declined : Nat
  deriving DecidableEq, Repr

def EffectCounts.none : EffectCounts := ⟨0, 0, 0, 0⟩

def EffectCounts.add (counts : EffectCounts) : EffectStatus → EffectCounts
  | .awaitingRetest => { counts with awaitingRetest := counts.awaitingRetest + 1 }
  | .improved => { counts with improved := counts.improved + 1 }
  | .flat => { counts with flat := counts.flat + 1 }
  | .declined => { counts with declined := counts.declined + 1 }
  | .notExecuted => counts

structure InterventionSummary (K : Type) where
  total : Nat
  byStatus : Dict InterventionStatus Nat
  byKind : Dict InterventionKind Nat
  adoptionRate : Option K
  effects : EffectCounts
  liftRate : Option K
  evaluableCount : Nat
  byKindEffect : Dict InterventionKind EffectCounts
  selfReported : Nat

/-- The rows a summary is on. -/
def inSummary {K : Type} (g : KpGraph K) (classId : Nat) (examIds : Option (List Nat)) (r : Intervention) : Bool :=
  r.classId == classId && decide (r.kpId ∈ g.kpIds) && examIds.all (fun ids => decide (r.examId ∈ ids))

def isSkipped (r : Intervention) : Bool := decide (r.status = .skipped)

def countStatuses (rows : List Intervention) : Dict InterventionStatus Nat :=
  Dict.countFrom (Dict.ofList [(.suggested, 0), (.done, 0), (.skipped, 0)]) Intervention.status rows

section
variable {K : Type} [Field K] [LinearOrder K] [FloorRing K]

/-- `round(part / whole, 3)`, where there is something to divide by: the quotient that is rounded is the float. -/
def rateOf (part whole : Nat) : Option K :=
  if 0 < whole then some ((roundTo 3 (nearest ((part : ℚ) / whole)) : ℚ) : K) else none

/-- A tie of the quotients is none of the floats. -/
example : rateOf 1 80 = some (13 / 1000 : ℚ) ∧ rateOf 1 81 = some (12 / 1000 : ℚ) := by decide +kernel

def selfReportedCount (cfg : Config K) (db : Db K) (g : KpGraph K) (classId : Nat) (now : DateTime) : Nat :=
  let reporters := ((db.studyRecords.select (fun r => r.classId == classId && decide (r.kpId ∈ g.kpIds) &&
    r.selfMarkedAt.isSome)).map StudyRecord.studentId).dedup
  (reporters.map (fun sid => (loopStatesForStudent cfg db g sid classId now).entries.countP
    (fun e => decide (e.2 = .selfReported)))).sum

/-- `now` is the local time that the effects and the reports are judged at. -/
def interventionSummary (cfg : Config K) (db : Db K) (g : KpGraph K) (classId : Nat) (examIds : Option (List Nat))
    (now : DateTime) : Except EffectError (InterventionSummary K) := do
  let rows := db.interventions.select (inSummary g classId examIds)
  let byStatus := countStatuses rows
  let doneRows := rows.filter isDone
  let effects ← doneRows.mapM (fun r => interventionEffect cfg db g r.id now)
  let dist := effects.foldl (fun counts e => counts.add e.effectStatus) EffectCounts.none
  let evaluable := dist.improved + dist.flat + dist.declined
  return { total := rows.length
           byStatus := byStatus
           byKind := Dict.count Intervention.kind rows
           adoptionRate := rateOf doneRows.length (doneRows.length + byStatus.getD .skipped 0)
           effects := dist
           liftRate := rateOf dist.improved evaluable
           evaluableCount := evaluable
           byKindEffect := Dict.accumulate Effect.kind (fun _ => EffectCounts.none)
             (fun counts e => counts.add e.effectStatus) effects
           selfReported := selfReportedCount cfg db g classId now }

end

theorem getD_countStatuses (rows : List Intervention) (status : InterventionStatus) :
    (countStatuses rows).getD status 0 = rows.countP (fun r => decide (r.status = status)) := by
  have start : (Dict.ofList [(InterventionStatus.suggested, 0), (.done, 0), (.skipped, 0)]).getD status 0 = 0 := by
    cases status <;> decide
  rw [countStatuses, Dict.getD_countFrom, start, Nat.zero_add]

section
variable {K : Type} [Field K] [LinearOrder K] [FloorRing K]

instance (assessed : List (KpAssessment K)) (kpId : Nat) : Decidable (CommonNeed assessed kpId) :=
  inferInstanceAs (Decidable (_ ∧ _ ∧ _))

instance (cfg : Config K) (db : Db K) (g : KpGraph K) (classId : Nat) (round : Round K) :
    DecidablePred (Needs cfg db g classId round)
  | (none, kpId) => inferInstanceAs (Decidable (CommonNeed _ kpId))
  | (some sid, kpId) => inferInstanceAs (Decidable (sid ∈ _ ∧ ∃ row ∈ _, ActionRow.kpId row = kpId ∧ _))

instance (cfg : Config K) (db : Db K) (g : KpGraph K) (classId : Nat) (round : Round K) :
    DecidablePred (Judges cfg db g classId round)
  | (none, _) => inferInstanceAs (Decidable (_ ∧ _))
  | (some sid, _) => inferInstanceAs (Decidable (sid ∈ _))

instance (db : Db K) (g : KpGraph K) (classId examId : Nat) (r : Intervention) :
    Decidable (NewestOpen db g classId examId r) :=
  inferInstanceAs (Decidable (∀ s ∈ db.interventions.rows, _))

variable (cfg : Config K) (db : Db K) (g : KpGraph K) (classId : Nat) (round : Round K)

/-- A run puts an open suggestion of another exam away: a newer one of its need is open, or its own exam tells of the
    need and does not bear it out. -/
def Closes (r : Intervention) : Prop :=
  Active cfg db round ∧ pendingIn g classId r = true ∧ r.examId ≠ round.examId ∧
    (¬ NewestOpen db g classId round.examId r ∨
      Judges cfg db g classId round r.key ∧ ¬ Needs cfg db g classId round r.key)

instance : DecidablePred (Closes cfg db g classId round) := fun _ => inferInstanceAs (Decidable (_ ∧ _ ∧ _ ∧ _))

theorem planOf_gone_iff (key : Option Nat × Nat) : (planOf cfg db g classId round).gone key = true ↔
    Judges cfg db g classId round key ∧ ¬ Needs cfg db g classId round key := by
  have judges := planOf_judges_iff cfg db g classId round key
  have needs := mem_planOf_keys cfg db g classId round key
  constructor
  · intro gone
    refine ⟨judges.mp (Or.inr gone), ?_⟩
    intro need
    have ⟨row, listed, same⟩ := List.mem_map.mp (needs.mpr need)
    have asked := (planOf_planned cfg db g classId round).asked row listed
    rw [same, gone] at asked
    cases asked
  · intro ended
    rcases judges.mpr ended.1 with planned | gone
    · exact absurd (needs.mp planned) ended.2
    · exact gone

variable {cfg db g classId round}

/-- What a run makes of a stored row of another exam, as a summary sees it. -/
theorem outcome_closed (active : Active cfg db round) {r : Intervention}
    (stored : r ∈ (purge db.interventions g classId round.examId).rows) (g' : KpGraph K) (classId' : Nat)
    (examIds : Option (List Nat)) :
    let left := outcome (purge db.interventions g classId round.examId) g classId round.examId round.sourceReportId
      round.asOf (planOf cfg db g classId round) r
    (inSummary g' classId' examIds left && isSkipped left) =
      (inSummary g' classId' examIds r && (isSkipped r || decide (Closes cfg db g classId round r))) := by
  intro left
  have ⟨_, spared⟩ := mem_purge.mp stored
  cases pending : pendingIn g classId r with
  | false =>
    have open_ : ¬ Closes cfg db g classId round r := by
      intro closes
      rw [closes.2.1] at pending
      cases pending
    have same : left = r := outcome_of_not_pending pending
    rw [same, decide_eq_false open_, Bool.or_false]
  | true =>
    have other : r.examId ≠ round.examId := fun own => spared ⟨own, pending⟩
    have unskipped : isSkipped r = false := by
      simp [isSkipped, (pendingIn_iff.mp pending).2.2]
    have shape : left = if superseded (purge db.interventions g classId round.examId) g classId r then mergeOut r
        else if (planOf cfg db g classId round).gone r.key then
          archive (refreshed round.examId round.sourceReportId round.asOf (planOf cfg db g classId round) r)
        else refreshed round.examId round.sourceReportId round.asOf (planOf cfg db g classId round) r := if_pos pending
    rw [unskipped, Bool.false_or]
    cases older : superseded (purge db.interventions g classId round.examId) g classId r with
    | true =>
      have newest : ¬ NewestOpen db g classId round.examId r := by
        rw [← superseded_purge_iff, older]
        simp
      have closes : Closes cfg db g classId round r := ⟨active, pending, other, Or.inl newest⟩
      rw [shape, older, if_pos rfl, decide_eq_true closes]
      rfl
    | false =>
      have newest := superseded_purge_iff.mp older
      cases gone : (planOf cfg db g classId round).gone r.key with
      | true =>
        have ended := (planOf_gone_iff cfg db g classId round r.key).mp gone
        have closes : Closes cfg db g classId round r := ⟨active, pending, other, Or.inr ended⟩
        have unplanned : ∀ row ∈ (planOf cfg db g classId round).rows, row.key ≠ r.key := by
          intro row listed same
          exact ended.2 ((mem_planOf_keys cfg db g classId round r.key).mp (List.mem_map.mpr ⟨row, listed, same⟩))
        have archived : archive r = { r with status := .skipped, note := some archivedNote } :=
          if_pos (pendingIn_iff.mp pending).2.2
        rw [shape, older, gone, refreshed_of_unplanned unplanned, archived, decide_eq_true closes]
        rfl
      | false =>
        have open_ : ¬ Closes cfg db g classId round r := by
          intro closes
          rcases closes.2.2.2 with beaten | ended
          · exact beaten newest
          · rw [(planOf_gone_iff cfg db g classId round r.key).mpr ended] at gone
            cases gone
        have kept := (refreshed_frame round.examId round.sourceReportId round.asOf (planOf cfg db g classId round) r).2.2.2
        have waiting : isSkipped left = false := by
          rw [shape, older, gone]
          simp [isSkipped, kept, (pendingIn_iff.mp pending).2.2]
        rw [waiting, decide_eq_false open_, Bool.and_false, Bool.and_false]

variable (cfg db g classId round)

/-- The rows that count as skipped after a run: those that did before, and those the run has closed. -/
theorem countP_skipped (now : DateTime) (g' : KpGraph K) (classId' : Nat) (examIds : Option (List Nat))
    (seen : Nat → Bool) :
    (generateInterventions cfg db g classId round.examId round.asOf round.sourceReportId now round.eventsBySk).1.rows.countP
        (fun r => inSummary g' classId' examIds r && seen r.id && isSkipped r) =
      db.interventions.rows.countP (fun r => inSummary g' classId' examIds r && seen r.id && isSkipped r) +
        db.interventions.rows.countP (fun r =>
          inSummary g' classId' examIds r && seen r.id && decide (Closes cfg db g classId round r)) := by
  have apart : ∀ r ∈ db.interventions.rows, (inSummary g' classId' examIds r && seen r.id && isSkipped r) = true →
      (inSummary g' classId' examIds r && seen r.id && decide (Closes cfg db g classId round r)) = false := by
    intro r _ skipped
    rw [Bool.and_eq_true] at skipped
    have open_ : ¬ Closes cfg db g classId round r := by
      intro closes
      simp [isSkipped, (pendingIn_iff.mp closes.2.1).2.2] at skipped
    rw [decide_eq_false open_, Bool.and_false]
  rw [← Dict.countP_or _ apart]
  simp only [← Bool.and_or_distrib_left]
  by_cases active : Active cfg db round
  · have planned := planOf_planned cfg db g classId round
    have generated : (generateInterventions cfg db g classId round.examId round.asOf round.sourceReportId now
        round.eventsBySk).1 = applyPlan (purge db.interventions g classId round.examId) g classId round.examId
          round.sourceReportId round.asOf now (planOf cfg db g classId round) :=
      generate_eq cfg db g classId round.examId round.asOf round.eventsBySk round.sourceReportId now active.1 active.2
    have added : (addedSuggestions (purge db.interventions g classId round.examId) g classId round.examId
        round.sourceReportId round.asOf now (planOf cfg db g classId round)).countP
          (fun r => inSummary g' classId' examIds r && seen r.id && isSkipped r) = 0 := by
      rw [List.countP_eq_zero]
      intro r made
      have ⟨_, _, _, n, _, same⟩ := mem_addedSuggestions made
      rw [same]
      simp [isSkipped, newSuggestion]
    have removed : ∀ r, ¬ (r.examId = round.examId ∧ pendingIn g classId r = true) ∨
        (inSummary g' classId' examIds r && seen r.id && (isSkipped r || decide (Closes cfg db g classId round r))) = false := by
      intro r
      by_cases own : r.examId = round.examId ∧ pendingIn g classId r = true
      · right
        have unskipped : isSkipped r = false := by simp [isSkipped, (pendingIn_iff.mp own.2).2.2]
        have open_ : ¬ Closes cfg db g classId round r := fun closes => closes.2.2.1 own.1
        rw [unskipped, decide_eq_false open_, Bool.or_false, Bool.and_false]
      · exact Or.inl own
    calc
      _ = ((purge db.interventions g classId round.examId).rows.map (outcome
            (purge db.interventions g classId round.examId) g classId round.examId round.sourceReportId round.asOf
              (planOf cfg db g classId round))).countP (fun r => inSummary g' classId' examIds r && seen r.id && isSkipped r) := by
        rw [generated, rows_applyPlan planned.distinct, List.countP_append, added, Nat.add_zero]
      _ = (purge db.interventions g classId round.examId).rows.countP (fun r =>
            inSummary g' classId' examIds r && seen r.id && (isSkipped r || decide (Closes cfg db g classId round r))) := by
        rw [List.countP_map]
        apply List.countP_congr
        intro r stored
        have id := (outcome_frame (purge db.interventions g classId round.examId) g classId round.examId
          round.sourceReportId round.asOf (planOf cfg db g classId round) r).1
        rw [Function.comp_apply, id, Bool.and_right_comm, outcome_closed active stored g' classId' examIds,
          Bool.and_right_comm]
      _ = _ := by
        rw [purge, Table.rows_deleteWhere, List.countP_filter]
        apply List.countP_congr
        intro r _
        rcases removed r with kept | uncounted
        · rw [not_and_or, Bool.not_eq_true] at kept
          rcases kept with other | settled
          · simp [other]
          · simp [settled]
        · rw [uncounted, Bool.false_and]
  · have idle : cfg.actionPlanEnable = false ∨ committedIds db round.examId = [] := by
      unfold Active at active
      rw [not_and_or, Bool.not_eq_true, not_not] at active
      exact active
    rw [generate_idle cfg db g classId round.examId round.asOf round.eventsBySk round.sourceReportId now idle]
    apply List.countP_congr
    intro r _
    have open_ : ¬ Closes cfg db g classId round r := fun closes => active closes.1
    rw [decide_eq_false open_, Bool.or_false]

variable {cfg db g classId} {examIds : Option (List Nat)} {clock : DateTime}

variable (g classId examIds) in
/-- How many suggestions were carried out, of those a summary is on. -/
def doneIn (t : Table Intervention) : Nat := t.rows.countP (fun r => inSummary g classId examIds r && isDone r)

variable (g classId examIds) in
def skippedIn (t : Table Intervention) : Nat := t.rows.countP (fun r => inSummary g classId examIds r && isSkipped r)

omit [Field K] [LinearOrder K] [FloorRing K] in
theorem length_done (t : Table Intervention) :
    ((t.select (inSummary g classId examIds)).filter isDone).length = doneIn g classId examIds t := by
  unfold doneIn Table.select
  rw [List.filter_filter, List.countP_eq_length_filter]
  congr 2
  funext r
  exact Bool.and_comm ..

omit [Field K] [LinearOrder K] [FloorRing K] in
theorem count_skipped (t : Table Intervention) :
    (countStatuses (t.select (inSummary g classId examIds))).getD .skipped 0 = skippedIn g classId examIds t := by
  unfold skippedIn Table.select
  rw [getD_countStatuses, List.countP_filter]
  congr 1
  funext r
  exact Bool.and_comm ..

omit [Field K] [LinearOrder K] [FloorRing K] in
theorem done_same {t : Table Intervention} (same : t.select isDone = db.interventions.select isDone) :
    (t.select (inSummary g classId examIds)).filter isDone =
      (db.interventions.select (inSummary g classId examIds)).filter isDone := by
  have order : ∀ u : Table Intervention, (u.select (inSummary g classId examIds)).filter isDone =
      (u.select isDone).filter (inSummary g classId examIds) := by
    intro u
    unfold Table.select
    rw [List.filter_filter, List.filter_filter]
    congr 1
    funext r
    exact Bool.and_comm ..
  rw [order, order, same]

/-- An effect is judged on the stored row and on tables that no run of suggestions writes. -/
theorem effect_same {t : Table Intervention} {r : Intervention} (left : r ∈ t.rows) (right : r ∈ db.interventions.rows) :
    interventionEffect cfg { db with interventions := t } g r.id clock = interventionEffect cfg db g r.id clock := by
  have found : t.get? r.id = some r := Table.get?_of_mem left
  have found' : db.interventions.get? r.id = some r := Table.get?_of_mem right
  unfold interventionEffect
  rw [found']
  dsimp only
  rw [found]
  rfl

/-- The rate of a summary that could be made, and of the same summary over a table with the same executions. -/
theorem summary_adoption {before : InterventionSummary K} {t : Table Intervention}
    (same : t.select isDone = db.interventions.select isDone)
    (read : interventionSummary cfg db g classId examIds clock = .ok before) :
    before.adoptionRate = rateOf (doneIn g classId examIds db.interventions)
        (doneIn g classId examIds db.interventions + skippedIn g classId examIds db.interventions) ∧
      ∃ after, interventionSummary cfg { db with interventions := t } g classId examIds clock = .ok after ∧
        after.adoptionRate = rateOf (doneIn g classId examIds db.interventions)
          (doneIn g classId examIds db.interventions + skippedIn g classId examIds t) := by
  have judged : ((db.interventions.select (inSummary g classId examIds)).filter isDone).mapM
        (fun r => interventionEffect cfg { db with interventions := t } g r.id clock) =
      ((db.interventions.select (inSummary g classId examIds)).filter isDone).mapM
        (fun r => interventionEffect cfg db g r.id clock) := by
    apply mapM_congr
    intro r listed
    have present := List.mem_of_mem_filter (List.mem_of_mem_filter listed)
    rw [← done_same same] at listed
    exact effect_same (List.mem_of_mem_filter (List.mem_of_mem_filter listed)) present
  unfold interventionSummary at read ⊢
  dsimp only at read ⊢
  rw [done_same same, judged]
  cases effects : ((db.interventions.select (inSummary g classId examIds)).filter isDone).mapM
      (fun r => interventionEffect cfg db g r.id clock) with
  | error e =>
    rw [effects] at read
    cases read
  | ok results =>
    rw [effects] at read
    have made := Except.ok.inj read
    refine ⟨?_, _, rfl, ?_⟩
    · rw [← made]
      dsimp only
      rw [length_done, count_skipped]
    · dsimp only
      rw [length_done, count_skipped]

end

end KnowledgeGap
