import KnowledgeGap.Intervention.Agreement
import KnowledgeGap.Intervention.Regenerate
import KnowledgeGap.Pipeline.Evidence

namespace KnowledgeGap

open Relational

inductive RetestStatus
  | verified
  | overdue
  | scheduled
  deriving DecidableEq, Repr

structure RetestProgress where
  retestDueDate : Option String
  retestStatus : Option RetestStatus
  retestedStudents : Nat
  targetStudents : Nat
  deriving DecidableEq, Repr

variable {K : Type}

def retestTargets (db : Db K) (iv : Intervention) : List Nat :=
  (db.classStudentIds iv.classId).filter (fun sid => decide (iv.studentId = none ∨ iv.studentId = some sid))

section
variable [Field K] [LinearOrder K]

/-- The evidence that counts as a retest of a row executed at `doneAt`. -/
def countsAsRetest (db : Db K) (iv : Intervention) (doneAt now : DateTime) (ev : EvidenceEvent K) : Bool :=
  decide (ev.studentId ∈ retestTargets db iv) && ev.kpId == iv.kpId && decide (doneAt < ev.occurredAt) &&
    decide (ev.occurredAt ≤ now) && decide (0 < ev.weight) &&
    match db.answers.get? ev.responseAnswerId with
    | none => false
    | some answer =>
      match db.responses.get? answer.examResponseId with
      | none => false
      | some response => decide (response.status = .submitted) && response.studentId == ev.studentId &&
          response.examTemplateId != iv.examId

def retestProgress (db : Db K) (iv : Intervention) (now : DateTime) : RetestProgress :=
  let base : RetestProgress := ⟨iv.retestDueDate.map isoDate, none, 0, 0⟩
  match iv.status, iv.doneAt, iv.retestDueDate with
  | .done, some doneAt, some due =>
    let count := (retestTargets db iv).length
    let covered :=
      ((db.events.select (countsAsRetest db iv doneAt now)).map EvidenceEvent.studentId).dedup.length
    let state := if 0 < count ∧ count ≤ covered then .verified
      else if due < dateOf now then .overdue
      else .scheduled
    { base with retestStatus := some state, retestedStudents := covered, targetStudents := count }
  | _, _, _ => base

end

/-- No exam but this one brought evidence on the point. -/
def OnlyFrom (db : Db K) (template : ExamTemplate) (kpId : Nat) : Prop :=
  ∀ ev ∈ db.events.rows, ev.kpId = kpId → examOf? db ev = some template

theorem OnlyFrom.occurredAt {db : Db K} {template : ExamTemplate} {sid kpId : Nat} {asOf : DateTime}
    (only : OnlyFrom db template kpId) (dated : Dated db) {ev : EvidenceEvent K}
    (member : ev ∈ getEvents db sid kpId asOf) :
    ev.occurredAt = noon template.examDate ∧ noon template.examDate ≤ asOf := by
  obtain ⟨stored, _, point, within⟩ := mem_getEvents.mp member
  have stamped := dated ev stored template (only ev stored point)
  exact ⟨stamped, stamped ▸ within⟩

theorem lastAfter_eq_none {events : List (EvidenceEvent K)} {since : DateTime} :
    lastAfter events since = none ↔ ∀ ev ∈ events, ev.occurredAt ≤ since := by
  unfold lastAfter
  rw [List.max?_eq_none_iff, List.map_eq_nil_iff, List.filter_eq_nil_iff]
  simp

theorem OnlyFrom.lastAfter_iff {db : Db K} {template : ExamTemplate} {sid kpId : Nat} {asOf done : DateTime}
    (only : OnlyFrom db template kpId) (dated : Dated db) :
    lastAfter (getEvents db sid kpId asOf) done = none ↔
      noon template.examDate ≤ done ∨ getEvents db sid kpId asOf = [] := by
  rw [lastAfter_eq_none]
  constructor
  · intro quiet
    by_cases empty : getEvents db sid kpId asOf = []
    · exact Or.inr empty
    · obtain ⟨ev, member⟩ := List.exists_mem_of_ne_nil _ empty
      exact Or.inl ((only.occurredAt dated member).1 ▸ quiet ev member)
  · intro held ev member
    rcases held with after | empty
    · rw [(only.occurredAt dated member).1]
      exact after
    · rw [empty] at member
      cases member

section
variable [Field K] [LinearOrder K]

theorem countsAsRetest_other {db : Db K} {iv : Intervention} {template : ExamTemplate} {doneAt now : DateTime}
    (exam : template.id = iv.examId) (only : OnlyFrom db template iv.kpId) {ev : EvidenceEvent K}
    (stored : ev ∈ db.events.rows) : countsAsRetest db iv doneAt now ev = false := by
  rw [Bool.eq_false_iff]
  intro counts
  unfold countsAsRetest at counts
  simp only [Bool.and_eq_true] at counts
  obtain ⟨⟨⟨⟨⟨_, point⟩, _⟩, _⟩, _⟩, sat⟩ := counts
  have source := only ev stored (by simpa using point)
  unfold examOf? at source
  split at sat
  · cases sat
  · rename_i answer given
    simp only [given] at source
    split at sat
    · cases sat
    · rename_i response answered
      simp only [answered] at source
      have named : template.id = response.examTemplateId := Table.get?_key source
      simp [← named, exam] at sat

theorem retestProgress_own_exam {db : Db K} {iv : Intervention} {template : ExamTemplate} (now : DateTime)
    (exam : template.id = iv.examId) (only : OnlyFrom db template iv.kpId) :
    (retestProgress db iv now).retestedStudents = 0 ∧
      (retestProgress db iv now).retestStatus ≠ some .verified := by
  have none_counts : ∀ doneAt, db.events.select (countsAsRetest db iv doneAt now) = [] := by
    intro doneAt
    unfold Table.select
    rw [List.filter_eq_nil_iff]
    intro ev stored
    simp [countsAsRetest_other exam only stored]
  unfold retestProgress
  dsimp only
  split
  · rename_i doneAt due _ _ _
    rw [none_counts doneAt]
    refine ⟨rfl, ?_⟩
    simp only [List.map_nil, List.dedup_nil, List.length_nil, nonpos_iff_eq_zero]
    rw [if_neg (by omega)]
    split <;> simp
  · exact ⟨rfl, by simp⟩

omit [Field K] in
theorem verdictOfDelta_judged (cfg : Config K) (adjusted : K) :
    verdictOfDelta cfg adjusted ≠ .awaiting ∧ verdictOfDelta cfg adjusted ≠ .selfReported := by
  unfold verdictOfDelta
  split
  · exact ⟨by simp, by simp⟩
  · split <;> exact ⟨by simp, by simp⟩

omit [Field K] in
theorem effectOfDelta_judged (cfg : Config K) (adjusted : K) :
    effectOfDelta cfg adjusted ≠ .awaitingRetest := by
  unfold effectOfDelta
  split
  · simp
  · split <;> simp

end

section
variable [Field K] [LinearOrder K] [FloorRing K]

theorem keptRows_unrepeated {cfg : Config K} {db : Db K} {g : KpGraph K}
    {executions : Dict (Nat × Nat × InterventionKind) Intervention} {classId : Nat} {asOf done : DateTime}
    {eventsBySk : Option (Batch K)} {sid : Nat} {iv : Intervention}
    (consulted : executions.get? (sid, iv.kpId, iv.kind) = some iv) (dated : iv.doneAt = some done)
    (quiet : ∀ ev ∈ getEvents db sid iv.kpId asOf, ev.occurredAt ≤ done) {kept : ActionRow}
    (listed : kept ∈ keptRows cfg db g executions classId asOf eventsBySk sid)
    (point : kept.kpId = iv.kpId) : kept.kind ≠ iv.kind := by
  intro kind
  obtain ⟨row, _, keeps⟩ := List.mem_filterMap.mp listed
  have same : row.kpId = kept.kpId ∧ row.kind = kept.kind := by
    unfold keepRow at keeps
    split at keeps
    · cases keeps
      exact ⟨rfl, rfl⟩
    · split at keeps
      · cases keeps
        exact ⟨rfl, rfl⟩
      · cases keeps
  have silent : (getEvents db sid iv.kpId asOf).any (fun e => decide (done < e.occurredAt)) = false := by
    rw [List.any_eq_false]
    intro ev member
    simpa using quiet ev member
  unfold keepRow at keeps
  rw [same.1, same.2, point, kind, consulted] at keeps
  simp only [Option.bind_some, dated, silent] at keeps
  cases keeps

theorem generate_unrepeated {cfg : Config K} {db : Db K} {g : KpGraph K} {classId examId : Nat}
    {asOf done now : DateTime} {sourceReportId : Option Nat} {eventsBySk : Option (Batch K)} {sid : Nat}
    {iv : Intervention}
    (consulted : (keptDone db.interventions g classId).get? (sid, iv.kpId, iv.kind) = some iv)
    (dated : iv.doneAt = some done)
    (quiet : ∀ ev ∈ getEvents db sid iv.kpId asOf, ev.occurredAt ≤ done) {r : Intervention}
    (stored : r ∈ (generateInterventions cfg db g classId examId asOf sourceReportId now eventsBySk).1.rows)
    (cls : r.classId = classId) (owner : r.studentId = some sid) (point : r.kpId = iv.kpId)
    (kind : r.kind = iv.kind) (open_ : r.status = .suggested) : r ∈ db.interventions.rows := by
  by_cases idle : cfg.actionPlanEnable = false ∨ committedIds db examId = []
  · rwa [generate_idle cfg db g classId examId asOf eventsBySk sourceReportId now idle] at stored
  · rw [not_or] at idle
    rw [generate_eq cfg db g classId examId asOf eventsBySk sourceReportId now (by simpa using idle.1)
      idle.2] at stored
    have planned := makePlan_planned cfg db g classId examId asOf eventsBySk
      (keptDone db.interventions g classId)
    have inside : r.kpId ∈ g.kpIds := by
      obtain ⟨done_, chosen, same⟩ := List.mem_filterMap.mp (Dict.mem_of_get?_ofList consulted)
      obtain ⟨s, _, pair⟩ := Option.map_eq_some_iff.mp same
      have equal : done_ = iv := congrArg Prod.snd pair
      have kept := (List.mem_filter.mp chosen).2
      rw [equal] at kept
      simp only [Bool.and_eq_true, decide_eq_true_eq] at kept
      rw [point]
      exact kept.1.2
    rcases applyPlan_open planned.distinct stored (pendingIn_iff.mpr ⟨cls, inside, open_⟩) with
      ⟨before, _, _⟩ | ⟨row, listed, filed⟩
    · exact (mem_purge.mp before).1
    · have key := (filed.frame (planned.inside row listed)).2.1
      have rowOwner : row.studentId = some sid := (congrArg Prod.fst key).symm.trans owner
      have rowPoint : row.kpId = iv.kpId := (congrArg Prod.snd key).symm.trans point
      have rowKind : row.kind = r.kind := by
        rcases filed with ⟨_, _, _, _, _, rfl⟩ | ⟨_, _, rfl⟩ <;> rfl
      obtain ⟨kept, own, keptPoint, keptKind⟩ := makePlan_own listed rowOwner
      exact absurd (keptKind.trans (rowKind.trans kind))
        (keptRows_unrepeated consulted dated quiet own (keptPoint.trans rowPoint))

/-- The row can be judged: its pupil has evidence on the point, or it is a row of the whole class and
    the last one executed for some pupil who is weak there. -/
def Judgeable (cfg : Config K) (db : Db K) (g : KpGraph K) (iv : Intervention) (done asOf : DateTime) : Prop :=
  match iv.studentId with
  | some sid => getEvents db sid iv.kpId asOf ≠ []
  | none => ∃ sid, LatestExecuted db iv sid done ∧ AssessedWeak cfg db g iv.classId sid iv.kpId asOf

/-- What the four readers have to say of a row when the exam it came from is all the evidence. -/
structure Unretested (cfg : Config K) (db : Db K) (g : KpGraph K) (iv : Intervention)
    (done asOf : DateTime) : Prop where
  effect : ∃ effect, interventionEffect cfg db g iv.id asOf = .ok effect ∧
    effect.effectStatus = .awaitingRetest
  state : ∀ sid, (iv.studentId = none ∨ iv.studentId = some sid) → LatestExecuted db iv sid done →
    AssessedWeak cfg db g iv.classId sid iv.kpId asOf →
    ∃ state, (loopStatesForStudent cfg db g sid iv.classId asOf).get? iv.kpId = some state ∧
      (state = .awaiting ∨ state = .selfReported)
  repeated : ∀ sid, iv.studentId = some sid →
    (keptDone db.interventions g iv.classId).get? (sid, iv.kpId, iv.kind) = some iv →
    ∀ (examId : Nat) (sourceReportId : Option Nat) (now : DateTime) (eventsBySk : Option (Batch K)),
      ∀ r ∈ (generateInterventions cfg db g iv.classId examId asOf sourceReportId now eventsBySk).1.rows,
        r.classId = iv.classId → r.studentId = some sid → r.kpId = iv.kpId → r.kind = iv.kind →
          r.status = .suggested → r ∈ db.interventions.rows
  retest : (retestProgress db iv asOf).retestedStudents = 0 ∧
    (retestProgress db iv asOf).retestStatus ≠ some .verified

theorem unretested_of_quiet {cfg : Config K} {db : Db K} {g : KpGraph K} {iv : Intervention}
    {done asOf : DateTime} {template : ExamTemplate} (stored : iv ∈ db.interventions.rows)
    (known : (g.kp? db iv.kpId).isSome) (carried : iv.status = .done ∧ iv.doneAt = some done)
    (exam : template.id = iv.examId) (only : OnlyFrom db template iv.kpId)
    (own : ∀ sid, iv.studentId = some sid → lastAfter (getEvents db sid iv.kpId asOf) done = none)
    (shared : iv.studentId = none → ∀ sid, LatestExecuted db iv sid done →
      AssessedWeak cfg db g iv.classId sid iv.kpId asOf →
        lastAfter (getEvents db sid iv.kpId asOf) done = none) :
    Unretested cfg db g iv done asOf := by
  obtain ⟨kp, found⟩ := Option.isSome_iff_exists.mp known
  obtain ⟨effect, computed, status⟩ := interventionEffect_done asOf stored found carried.1 carried.2
  refine ⟨⟨effect, computed, ?_⟩, ?_, ?_, retestProgress_own_exam asOf exam only⟩
  · rw [status, judgedEffect]
    cases owner : iv.studentId with
    | none => rfl
    | some sid =>
      simp only [eventsOf, own sid owner]
  · intro sid affects latest weak
    have quiet : lastAfter (getEvents db sid iv.kpId asOf) done = none := by
      rcases affects with everyone | owner
      · exact shared everyone sid latest weak
      · exact own sid owner
    obtain ⟨state, folded, verdict⟩ := loopState_of_latest stored affects carried latest weak
    rw [quiet] at verdict
    exact ⟨state, folded, verdict⟩
  · intro sid owner consulted examId sourceReportId now eventsBySk r present cls student point kind open_
    exact generate_unrepeated consulted carried.2 (lastAfter_eq_none.mp (own sid owner)) present cls student
      point kind open_

/-- With the evidence of its own exam alone, a row goes unjudged exactly when it was executed from noon
    of the exam on, or cannot be judged at all. -/
theorem own_exam_unjudged_iff (cfg : Config K) (db : Db K) (g : KpGraph K) (iv : Intervention)
    (done asOf : DateTime) (template : ExamTemplate) (stored : iv ∈ db.interventions.rows)
    (known : (g.kp? db iv.kpId).isSome) (carried : iv.status = .done ∧ iv.doneAt = some done)
    (exam : template.id = iv.examId) (dated : Dated db) (only : OnlyFrom db template iv.kpId) :
    Unretested cfg db g iv done asOf ↔
      noon template.examDate ≤ done ∨ ¬ Judgeable cfg db g iv done asOf := by
  constructor
  · intro unretested
    by_cases judgeable : Judgeable cfg db g iv done asOf
    · left
      unfold Judgeable at judgeable
      cases owner : iv.studentId with
      | some sid =>
        rw [owner] at judgeable
        obtain ⟨kp, found⟩ := Option.isSome_iff_exists.mp known
        obtain ⟨effect, computed, awaiting⟩ := unretested.effect
        obtain ⟨other, same, status⟩ := interventionEffect_done asOf stored found carried.1 carried.2
        rw [computed] at same
        cases same
        rw [status, judgedEffect, owner] at awaiting
        simp only [eventsOf] at awaiting
        cases window : lastAfter (getEvents db sid iv.kpId asOf) done with
        | none =>
          rcases (only.lastAfter_iff dated).mp window with after | empty
          · exact after
          · exact absurd empty judgeable
        | some lastT =>
          rw [window] at awaiting
          exact absurd awaiting (effectOfDelta_judged cfg _)
      | none =>
        rw [owner] at judgeable
        obtain ⟨sid, latest, weak⟩ := judgeable
        obtain ⟨state, folded, unjudged⟩ := unretested.state sid (Or.inl owner) latest weak
        obtain ⟨other, same, verdict⟩ := loopState_of_latest stored (Or.inl owner) carried latest weak
        have equal : state = other := Option.some.inj (folded.symm.trans same)
        subst equal
        cases window : lastAfter (getEvents db sid iv.kpId asOf) done with
        | none =>
          rcases (only.lastAfter_iff dated).mp window with after | empty
          · exact after
          · exact absurd empty weak.listed.2.2
        | some lastT =>
          rw [window] at verdict
          have judged := verdictOfDelta_judged cfg
          rw [verdict] at unjudged
          rcases unjudged with waits | waits
          · exact absurd waits (judged _).1
          · exact absurd waits (judged _).2
    · exact Or.inr judgeable
  · intro held
    apply unretested_of_quiet stored known carried exam only
    · intro sid owner
      rw [only.lastAfter_iff dated]
      rcases held with after | spared
      · exact Or.inl after
      · right
        simpa [Judgeable, owner] using spared
    · intro everyone sid latest weak
      rw [only.lastAfter_iff dated]
      rcases held with after | spared
      · exact Or.inl after
      · refine absurd ?_ spared
        simp only [Judgeable, everyone]
        exact ⟨sid, latest, weak⟩

end

def ownExam : ExamTemplate := ⟨5, 1, 0, .unit, .other "upload"⟩

def ownRow (doneAt : DateTime) : Intervention :=
  { id := 1, classId := 1, studentId := some 1, kpId := 9, examId := 5, attributionId := none,
    sourceReportId := none, retestExamId := none, retestDueDate := some 7, kind := .tierDrill,
    scope := .student, groupRef := none, baselineAsOf := dayEnd 0, status := .done,
    suggestedAt := doneAt - seconds 3600, doneAt := some doneAt, note := none }

def ownDb (doneAt : DateTime) : Db ℚ :=
  { drilledDb with
    templates := .ofList [ownExam]
    answers := .ofList [⟨1, 1, 1, 7 / 10, false⟩, ⟨2, 1, 2, 7 / 10, false⟩, ⟨3, 1, 3, 2 / 10, false⟩,
      ⟨4, 1, 4, 2 / 10, false⟩]
    interventions := .ofList [ownRow doneAt] }

theorem ownDb_events (doneAt : DateTime) :
    ∀ ev ∈ (ownDb doneAt).events.rows, examOf? (ownDb doneAt) ev = some ownExam ∧
      ev.occurredAt = noon ownExam.examDate := by
  have derived : ∀ ev ∈ (ownDb 0).events.rows, examOf? (ownDb 0) ev = some ownExam ∧
      ev.occurredAt = noon ownExam.examDate := by
    decide +kernel
  exact derived

/-- Confirmed at nine on the morning of the exam and read at three in the afternoon. -/
theorem own_exam_judges_morning_confirmation :
    let db := ownDb (noon 0 - seconds 10800)
    (∀ ev ∈ db.events.rows, examOf? db ev = some ownExam ∧ ev.occurredAt = noon ownExam.examDate) ∧
    ((interventionEffect Config.rational db drilledGraph 1 (noon 0 + seconds 10800)).toOption.map
      Effect.effectStatus = some .flat) ∧
    (loopStatesForStudent Config.rational db drilledGraph 1 1 (noon 0 + seconds 10800)).get? 9 = some .flat ∧
    ((generateInterventions Config.rational db drilledGraph 1 5 (noon 0 + seconds 10800) none
      (noon 0 + seconds 10800) none).1.rows.map (fun r => (r.kpId, r.kind, r.status, r.note)) =
        [(9, .tierDrill, .done, none), (9, .tierDrill, .suggested, some secondRoundNote)]) ∧
    retestProgress db (ownRow (noon 0 - seconds 10800)) (noon 0 + seconds 10800) =
      ⟨some "1970-01-08", some .scheduled, 0, 1⟩ := by
  decide +kernel

theorem own_exam_unjudged_afternoon :
    noon ownExam.examDate ≤ noon 0 + seconds 3600 ∧
      Unretested Config.rational (ownDb (noon 0 + seconds 3600)) drilledGraph (ownRow (noon 0 + seconds 3600))
        (noon 0 + seconds 3600) (noon 0 + seconds 10800) := by
  have events := ownDb_events (noon 0 + seconds 3600)
  refine ⟨by decide, (own_exam_unjudged_iff Config.rational (ownDb (noon 0 + seconds 3600)) drilledGraph
    (ownRow (noon 0 + seconds 3600)) (noon 0 + seconds 3600) (noon 0 + seconds 10800) ownExam (by decide +kernel)
    (by decide) ⟨rfl, rfl⟩ rfl ?_ ?_).mpr (Or.inl (by decide))⟩
  · intro ev stored template source
    have same : ownExam = template := Option.some.inj ((events ev stored).1.symm.trans source)
    rw [← same]
    exact (events ev stored).2
  · intro ev stored _
    exact (events ev stored).1

end KnowledgeGap
