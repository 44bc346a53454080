import KnowledgeGap.Intervention.Regenerate
import KnowledgeGap.Intervention.Study
import KnowledgeGap.Protocol.Runs

namespace KnowledgeGap

open Relational Protocol
open Kb (AccessContext)

variable {K : Type}

/-- What someone with a true clock writes down, by the ids of the rows: when a suggestion was made, when a plan was
    (and the date its request named), and when it was reported learned. -/
structure History where
  created : Nat → DateTime
  planned : Nat → DateTime × Option Date
  reported : Nat → DateTime

structure Chronicle (K : Type) where
  db : Db K
  history : History

/-- True time counts as UTC does; `datetime.now` reads the wall of the server. -/
def wallClock (offset : Int) (t : DateTime) : DateTime := t + offset

/-- The date a plan is stamped with: the end of the day its request named, or the wall clock. -/
def planStamp (offset : Int) (planned : DateTime × Option Date) : DateTime :=
  match planned.2 with
  | some asOf => dayEnd asOf
  | none => wallClock offset planned.1

/-- A write that makes no suggestion, no plan and no report. -/
structure Unrelated (K : Type) where
  run : Db K → Db K
  suggestions : ∀ db, ∀ r ∈ (run db).interventions.rows, ∃ s ∈ db.interventions.rows,
    s.id = r.id ∧ s.suggestedAt = r.suggestedAt
  records : ∀ db, ∀ r ∈ (run db).studyRecords.rows, r ∈ db.studyRecords.rows

inductive Deed (K : Type)
  | generate (g : KpGraph K) (classId examId : Nat) (asOf : DateTime) (sourceReportId : Option Nat)
      (eventsBySk : Option (Batch K))
  | recordIntervention (dir : Directory) (ctx : AccessContext) (g : KpGraph K) (studentId : Nat) (kpCode kind : String)
      (examId : Nat) (note : Option String)
  | studyPlan (g : KpGraph K) (student : Student) (kpCode : String) (asOf : Option Date)
  | selfMark (g : KpGraph K) (student : Student) (recordId : Nat)
  | operate (dir : Directory) (ctx : AccessContext) (id : Nat) (withGroup : Bool) (op : Operation)
  | other (change : Unrelated K)

def Deed.asOf : Deed K → Option Date
  | .studyPlan _ _ _ asOf => asOf
  | _ => none

section
variable [Field K] [LinearOrder K] [FloorRing K] (cfg : Config K) (quoted : String → String) (offset : Int)

/-- `_study_plan_payload`, as far as it writes. -/
def studyPlan (db : Db K) (g : KpGraph K) (student : Student) (kpCode : String) (now : DateTime) : Db K :=
  match (g.gradeKps (classGrade db student.classId)).find? (fun p => p.code == kpCode) with
  | none => db
  | some p =>
    match getOrGenerateStudyRecord cfg db g student p.id true now with
    | .ok (_, records) => { db with studyRecords := records }
    | .error _ => db

/-- What is done at a moment of true time; a refused request changes nothing. -/
def Deed.perform (db : Db K) (t : DateTime) : Deed K → Db K
  | .generate g classId examId asOf sourceReportId eventsBySk =>
    { db with interventions := (generateInterventions cfg db g classId examId asOf sourceReportId t eventsBySk).1 }
  | .recordIntervention dir ctx g studentId kpCode kind examId note =>
    match KnowledgeGap.recordIntervention quoted dir ctx db g studentId kpCode kind examId note t with
    | .ok (after, _) => { db with interventions := after }
    | .error _ => db
  | .studyPlan g student kpCode asOf => KnowledgeGap.studyPlan cfg db g student kpCode (planStamp offset (t, asOf))
  | .selfMark g student recordId =>
    match selfMarkLearned db g student recordId (wallClock offset t) with
    | .ok (after, _) => after
    | .error _ => db
  | .operate dir ctx id withGroup op =>
    match KnowledgeGap.operate dir ctx db.interventions id withGroup (wallClock offset t) op with
    | .ok (after, _) => { db with interventions := after }
    | .error _ => db
  | .other change => change.run db

/-- What is new to the tables happened now. -/
def History.note (h : History) (db : Db K) (t : DateTime) (asOf : Option Date) : History where
  created id := if (db.interventions.get? id).isSome then h.created id else t
  planned id := if (db.studyRecords.get? id).isSome then h.planned id else (t, asOf)
  reported id := if (db.studyRecords.get? id).any (fun r => r.selfMarkedAt.isSome) then h.reported id else t

def Chronicle.step (c : Chronicle K) (deed : DateTime × Deed K) : Chronicle K :=
  ⟨deed.2.perform cfg quoted offset c.db deed.1, c.history.note c.db deed.1 deed.2.asOf⟩

/-- Before the first suggestion and the first plan. -/
def Chronicle.opened (db : Db K) : Chronicle K :=
  ⟨{ db with interventions := .empty, studyRecords := .empty }, ⟨fun _ => 0, fun _ => (0, none), fun _ => 0⟩⟩

/-- How the stamps stored go with the history. -/
structure Stamped (c : Chronicle K) : Prop where
  created : ∀ r ∈ c.db.interventions.rows, r.suggestedAt = c.history.created r.id
  planned : ∀ r ∈ c.db.studyRecords.rows, r.generatedAt = planStamp offset (c.history.planned r.id)
  reported : ∀ r ∈ c.db.studyRecords.rows, ∀ stamp, r.selfMarkedAt = some stamp →
    stamp = wallClock offset (c.history.reported r.id)

/-- What one deed may do to the tables. -/
structure Follows (t : DateTime) (asOf : Option Date) (before after : Db K) : Prop where
  suggestions : ∀ r ∈ after.interventions.rows,
    (∃ s ∈ before.interventions.rows, s.id = r.id ∧ s.suggestedAt = r.suggestedAt) ∨
      (before.interventions.get? r.id = none ∧ r.suggestedAt = t)
  records : ∀ r ∈ after.studyRecords.rows,
    (∃ s ∈ before.studyRecords.rows, s.id = r.id ∧ s.generatedAt = r.generatedAt ∧
        (r.selfMarkedAt = s.selfMarkedAt ∨ (s.selfMarkedAt = none ∧ r.selfMarkedAt = some (wallClock offset t)))) ∨
      (before.studyRecords.get? r.id = none ∧ r.generatedAt = planStamp offset (t, asOf) ∧ r.selfMarkedAt = none)

/-- Every suggestion of `after` keeps its date, or was filed at `t` under a key of its own. -/
def FiledAt (t : DateTime) (before after : Table Intervention) : Prop :=
  ∀ r ∈ after.rows, (∃ s ∈ before.rows, s.id = r.id ∧ s.suggestedAt = r.suggestedAt) ∨
    (before.nextId ≤ r.id ∧ r.suggestedAt = t)

omit [Field K] [LinearOrder K] [FloorRing K] in
theorem FiledAt.refl (t : DateTime) (before : Table Intervention) : FiledAt t before before :=
  fun r stored => Or.inl ⟨r, stored, rfl, rfl⟩

omit [Field K] [LinearOrder K] [FloorRing K] in
theorem FiledAt.of_map {t : DateTime} {before after : Table Intervention} {f : Intervention → Intervention}
    (rows : after.rows = before.rows.map f) (keeps : ∀ r, (f r).id = r.id ∧ (f r).suggestedAt = r.suggestedAt) :
    FiledAt t before after := by
  intro r stored
  rw [rows] at stored
  rcases List.mem_map.mp stored with ⟨s, listed, made⟩
  rw [← made]
  exact Or.inl ⟨s, listed, (keeps s).1.symm, (keeps s).2.symm⟩

theorem studyPlan_interventions (db : Db K) (g : KpGraph K) (student : Student) (kpCode : String) (now : DateTime) :
    (studyPlan cfg db g student kpCode now).interventions = db.interventions := by
  unfold studyPlan
  split
  · rfl
  · split <;> rfl

omit [Field K] [LinearOrder K] [FloorRing K] in
theorem outcome_suggestedAt (t : Table Intervention) (g : KpGraph K) (classId examId : Nat) (sourceReportId : Option Nat)
    (asOf : DateTime) (plan : Plan) (r : Intervention) :
    (outcome t g classId examId sourceReportId asOf plan r).suggestedAt = r.suggestedAt := by
  have kept : (refreshed examId sourceReportId asOf plan r).suggestedAt = r.suggestedAt := by
    unfold refreshed
    split <;> rfl
  unfold outcome
  split
  · split
    · rfl
    · split
      · unfold archive
        split <;> exact kept
      · exact kept
  · rfl

/-- A run keeps the date of every suggestion it keeps, and files new ones under new keys. -/
theorem generate_dates (db : Db K) (g : KpGraph K) (classId examId : Nat) (asOf : DateTime) (sourceReportId : Option Nat)
    (now : DateTime) (eventsBySk : Option (Batch K)) :
    FiledAt now db.interventions
      (generateInterventions cfg db g classId examId asOf sourceReportId now eventsBySk).1 := by
  intro r listed
  by_cases idle : cfg.actionPlanEnable = false ∨ committedIds db examId = []
  · rw [generate_idle cfg db g classId examId asOf eventsBySk sourceReportId now idle] at listed
    exact Or.inl ⟨r, listed, rfl, rfl⟩
  · rw [not_or, Bool.not_eq_false] at idle
    have distinct := makePlan_distinct cfg db g (keptDone db.interventions g classId) classId examId asOf eventsBySk
    rw [generate_eq cfg db g classId examId asOf eventsBySk sourceReportId now idle.1 idle.2,
      rows_applyPlan distinct] at listed
    rcases List.mem_append.mp listed with old | new
    · rcases List.mem_map.mp old with ⟨s, stored, same⟩
      refine Or.inl ⟨s, (mem_purge.mp stored).1, ?_, ?_⟩
      · rw [← same, (outcome_frame _ g classId examId sourceReportId asOf _ s).1]
      · rw [← same, outcome_suggestedAt]
    · have ⟨row, _, _, n, beyond, same⟩ := mem_addedSuggestions new
      rw [same]
      exact Or.inr ⟨beyond, rfl⟩

omit [Field K] [LinearOrder K] [FloorRing K] in
theorem selfMark_dates {db after : Db K} {g : KpGraph K} {student : Student} {recordId : Nat} {now : DateTime}
    {mark : SelfMark} (reported : selfMarkLearned db g student recordId now = .ok (after, mark)) (t : DateTime) :
    FiledAt t db.interventions after.interventions := by
  rcases selfMarkLearned_ok reported with same | ⟨_, _, same | ⟨row, _, _, name, settled⟩⟩
  · rw [same]
    exact FiledAt.refl t db.interventions
  · rw [same]
    exact FiledAt.refl t db.interventions
  · rw [settled]
    apply FiledAt.of_map (Table.rows_modify _ _ _ _)
    intro r
    split <;> exact ⟨rfl, rfl⟩

theorem perform_dates (db : Db K) (t : DateTime) (deed : Deed K) :
    FiledAt t db.interventions (deed.perform cfg quoted offset db t).interventions := by
  cases deed with
  | generate g classId examId asOf sourceReportId eventsBySk =>
    exact generate_dates cfg db g classId examId asOf sourceReportId t eventsBySk
  | recordIntervention dir ctx g studentId kpCode kind examId note =>
    simp only [Deed.perform]
    split
    · rename_i after registered accepted
      have ⟨student, kpId, kind, added⟩ := recordIntervention_ok accepted
      intro r stored
      rw [added, Table.rows_insert, List.mem_append, List.mem_singleton] at stored
      rcases stored with old | new
      · exact Or.inl ⟨r, old, rfl, rfl⟩
      · rw [new]
        exact Or.inr ⟨Nat.le_refl _, rfl⟩
    · exact FiledAt.refl t db.interventions
  | studyPlan g student kpCode asOf =>
    rw [show (Deed.perform cfg quoted offset db t (.studyPlan g student kpCode asOf)).interventions = db.interventions from
      studyPlan_interventions cfg db g student kpCode _]
    exact FiledAt.refl t db.interventions
  | selfMark g student recordId =>
    simp only [Deed.perform]
    split
    · rename_i after mark reported
      exact selfMark_dates reported t
    · exact FiledAt.refl t db.interventions
  | operate dir ctx id withGroup op =>
    simp only [Deed.perform]
    split
    · rename_i after count accepted
      have ⟨iv, _, _, _, rows⟩ := operate_ok accepted
      apply FiledAt.of_map rows
      intro r
      split
      · cases op <;> exact ⟨rfl, rfl⟩
      · exact ⟨rfl, rfl⟩
    · exact FiledAt.refl t db.interventions
  | other change => exact fun r stored => Or.inl (change.suggestions db r stored)

/-- Every plan of `after` is one of `before` as it was dated, with a report at most, or was made now. -/
def PlannedAt (offset : Int) (t : DateTime) (asOf : Option Date) (before after : Table StudyRecord) : Prop :=
  ∀ r ∈ after.rows,
    (∃ s ∈ before.rows, s.id = r.id ∧ s.generatedAt = r.generatedAt ∧
        (r.selfMarkedAt = s.selfMarkedAt ∨ (s.selfMarkedAt = none ∧ r.selfMarkedAt = some (wallClock offset t)))) ∨
      (before.get? r.id = none ∧ r.generatedAt = planStamp offset (t, asOf) ∧ r.selfMarkedAt = none)

omit [Field K] [LinearOrder K] [FloorRing K] in
theorem PlannedAt.refl (t : DateTime) (asOf : Option Date) (before : Table StudyRecord) :
    PlannedAt offset t asOf before before :=
  fun r stored => Or.inl ⟨r, stored, rfl, rfl, Or.inl rfl⟩

theorem studyPlan_plans (db : Db K) (g : KpGraph K) (student : Student) (kpCode : String) (t : DateTime)
    (asOf : Option Date) :
    PlannedAt offset t asOf db.studyRecords
      (studyPlan cfg db g student kpCode (planStamp offset (t, asOf))).studyRecords := by
  unfold studyPlan
  split
  · exact PlannedAt.refl offset t asOf db.studyRecords
  · split
    · rename_i rec records shown
      rcases getOrGenerateStudyRecord_ok shown with same | ⟨_, added⟩
      · rw [same]
        exact PlannedAt.refl offset t asOf db.studyRecords
      · intro r stored
        rw [added, Table.rows_insert, List.mem_append, List.mem_singleton] at stored
        rcases stored with old | new
        · exact Or.inl ⟨r, old, rfl, rfl, Or.inl rfl⟩
        · refine Or.inr ⟨?_, by rw [new]; rfl, by rw [new]; rfl⟩
          rw [new]
          exact db.studyRecords.get?_none_of_nextId_le (Nat.le_refl _)
    · exact PlannedAt.refl offset t asOf db.studyRecords

omit [Field K] [LinearOrder K] [FloorRing K] in
theorem selfMark_plans {db after : Db K} {g : KpGraph K} {student : Student} {recordId : Nat} {t : DateTime}
    {mark : SelfMark} (reported : selfMarkLearned db g student recordId (wallClock offset t) = .ok (after, mark)) :
    PlannedAt offset t none db.studyRecords after.studyRecords := by
  rcases selfMarkLearned_ok reported with same | ⟨unmarked, records, _⟩
  · rw [same]
    exact PlannedAt.refl offset t none db.studyRecords
  · intro r stored
    rw [records, Table.rows_modify] at stored
    rcases List.mem_map.mp stored with ⟨s, before, made⟩
    refine Or.inl ⟨s, before, ?_⟩
    split at made
    · rename_i named
      have found : db.studyRecords.get? recordId = some s := by
        rw [← eq_of_beq named]
        exact Table.get?_of_mem before
      rw [← made]
      exact ⟨rfl, rfl, Or.inr ⟨unmarked s found, rfl⟩⟩
    · rw [← made]
      exact ⟨rfl, rfl, Or.inl rfl⟩

theorem perform_plans (db : Db K) (t : DateTime) (deed : Deed K) :
    PlannedAt offset t deed.asOf db.studyRecords (deed.perform cfg quoted offset db t).studyRecords := by
  cases deed with
  | generate g classId examId asOf sourceReportId eventsBySk => exact PlannedAt.refl offset t none db.studyRecords
  | recordIntervention dir ctx g studentId kpCode kind examId note =>
    simp only [Deed.perform]
    split <;> exact PlannedAt.refl offset t none db.studyRecords
  | studyPlan g student kpCode asOf => exact studyPlan_plans cfg offset db g student kpCode t asOf
  | selfMark g student recordId =>
    simp only [Deed.perform]
    split
    · rename_i after mark reported
      exact selfMark_plans offset reported
    · exact PlannedAt.refl offset t none db.studyRecords
  | operate dir ctx id withGroup op =>
    simp only [Deed.perform]
    split <;> exact PlannedAt.refl offset t none db.studyRecords
  | other change => exact fun r stored => Or.inl ⟨r, change.records db r stored, rfl, rfl, Or.inl rfl⟩

theorem follows_perform (db : Db K) (t : DateTime) (deed : Deed K) :
    Follows offset t deed.asOf db (deed.perform cfg quoted offset db t) where
  suggestions r stored := by
    rcases perform_dates cfg quoted offset db t deed r stored with kept | ⟨beyond, date⟩
    · exact Or.inl kept
    · exact Or.inr ⟨db.interventions.get?_none_of_nextId_le beyond, date⟩
  records := perform_plans cfg quoted offset db t deed

omit [Field K] [LinearOrder K] [FloorRing K] in
theorem Stamped.follow {c : Chronicle K} {after : Db K} {t : DateTime} {asOf : Option Date} (stamped : Stamped offset c)
    (follows : Follows offset t asOf c.db after) : Stamped offset ⟨after, c.history.note c.db t asOf⟩ where
  created r stored := by
    rcases follows.suggestions r stored with ⟨s, before, id, date⟩ | ⟨absent, date⟩
    · have found : c.db.interventions.get? r.id = some s := by
        rw [← id]
        exact Table.get?_of_mem before
      rw [← date, stamped.created s before, id]
      simp [History.note, found]
    · rw [date]
      simp [History.note, absent]
  planned r stored := by
    rcases follows.records r stored with ⟨s, before, id, date, _⟩ | ⟨absent, date, _⟩
    · have found : c.db.studyRecords.get? r.id = some s := by
        rw [← id]
        exact Table.get?_of_mem before
      rw [← date, stamped.planned s before, id]
      simp [History.note, found]
    · rw [date]
      simp [History.note, absent]
  reported r stored stamp mark := by
    rcases follows.records r stored with ⟨s, before, id, _, marks⟩ | ⟨_, _, unmarked⟩
    · have found : c.db.studyRecords.get? r.id = some s := by
        rw [← id]
        exact Table.get?_of_mem before
      rcases marks with same | ⟨fresh, now⟩
      · have marked : s.selfMarkedAt = some stamp := by rw [← same, mark]
        rw [stamped.reported s before stamp marked, id]
        simp [History.note, found, marked]
      · rw [now] at mark
        cases mark
        simp [History.note, found, fresh]
    · rw [unmarked] at mark
      cases mark

theorem stamped_run (db : Db K) (deeds : List (DateTime × Deed K)) :
    Stamped offset (run (Chronicle.step cfg quoted offset) (Chronicle.opened db) deeds) := by
  apply run_invariant
  · intro c deed stamped
    exact stamped.follow offset (follows_perform cfg quoted offset c.db deed.1 deed.2)
  · exact ⟨by simp [Chronicle.opened, Table.empty], by simp [Chronicle.opened, Table.empty],
      by simp [Chronicle.opened, Table.empty]⟩

/-- The last report of a pupil on a point, in true time. -/
def latestReport (c : Chronicle K) (studentId kpId : Nat) : Option DateTime :=
  ((c.db.studyRecords.select (fun r => r.studentId == studentId && r.kpId == kpId && r.selfMarkedAt.isSome)).map
    (fun r => c.history.reported r.id)).max?

/-- The last suggestion that affects a pupil on a point, in true time. -/
def latestSuggestion (c : Chronicle K) (classId studentId kpId : Nat) : Option DateTime :=
  ((rowsOf c.db classId studentId kpId).map (fun r => c.history.created r.id)).max?

/-- Evidence has come in that a report may no longer hide. -/
def ReportOvertaken (events : List (EvidenceEvent K)) (rows : List Intervention) (report : DateTime) : Prop :=
  match latestDone rows with
  | some (_, done) => lastAfter events done ≠ none
  | none => ∃ e ∈ events, report < e.occurredAt

/-- The fold of a point turns on whether the report at `actual` belongs to the current round. -/
structure TurnsOn (c : Chronicle K) (g : KpGraph K) (studentId classId : Nat) (asOf : DateTime) (a : KpAssessment K)
    (actual : DateTime) : Prop where
  assessed : a ∈ assessStudentKps cfg c.db g studentId classId asOf none
  taught : a.gate = none
  weak : a.isWeak = true
  reported : latestReport c studentId a.kpId = some actual
  standing : ¬ ReportOvertaken ((getEventsBatch c.db (c.db.classStudentIds classId)
    (g.gradeKpIds (classGrade c.db classId)) asOf).getD (studentId, a.kpId) [])
      (rowsOf c.db classId studentId a.kpId) (wallClock offset actual)

/-- A plan is there, and a suggestion is open. -/
structure Compares (c : Chronicle K) (g : KpGraph K) (student : Student) (kpId : Nat) (existing : StudyRecord)
    (pending : Intervention) : Prop where
  inside : kpId ∈ g.gradeKpIds (classGrade c.db student.classId)
  stored : existingRecord c.db student kpId = some existing
  open_ : pendingRow c.db student kpId = some pending

/-- A report counts, and a plan is shown again, exactly when no suggestion has truly come after it. -/
structure OnOneClock (c : Chronicle K) : Prop where
  reports : ∀ g studentId classId asOf a actual, TurnsOn cfg offset c g studentId classId asOf a actual →
    ((loopStatesForStudent cfg c.db g studentId classId asOf).get? a.kpId = some .selfReported ↔
      ∀ suggested ∈ latestSuggestion c classId studentId a.kpId, suggested ≤ actual)
  plans : ∀ g student kpId existing pending allowGenerate now, Compares c g student kpId existing pending →
    (getOrGenerateStudyRecord cfg c.db g student kpId allowGenerate now = .ok (existing, c.db.studyRecords) ↔
      c.history.created pending.id ≤ (c.history.planned existing.id).1)

/-- The suggestion falls between an event and its stamp. -/
def Straddled (actual stamp suggested : Int) : Prop :=
  (actual < suggested ∧ suggested ≤ stamp) ∨ (stamp < suggested ∧ suggested ≤ actual)

/-- No suggestion falls between the last report it meets, or the plan it meets, and its stamp. -/
structure Unstraddled (c : Chronicle K) : Prop where
  reports : ∀ g studentId classId asOf a actual, TurnsOn cfg offset c g studentId classId asOf a actual →
    ∀ suggested ∈ latestSuggestion c classId studentId a.kpId, ¬ Straddled actual (wallClock offset actual) suggested
  plans : ∀ g student kpId existing pending, Compares c g student kpId existing pending →
    ¬ Straddled (c.history.planned existing.id).1 (planStamp offset (c.history.planned existing.id))
      (c.history.created pending.id)

omit [Field K] [LinearOrder K] [FloorRing K] in
theorem straddled_iff {actual stamp suggested : Int} :
    ¬ Straddled actual stamp suggested ↔ (suggested ≤ stamp ↔ suggested ≤ actual) := by
  unfold Straddled
  omega

end

/-- The stamps of the reports of a pupil on a point. -/
def reportStamps (db : Db K) (studentId kpId : Nat) : List DateTime :=
  (db.studyRecords.select (fun r => r.studentId == studentId && r.kpId == kpId && r.selfMarkedAt.isSome)).filterMap
    StudyRecord.selfMarkedAt

def keepLatest (out : Dict (Nat × Nat) DateTime) (r : StudyRecord) : Dict (Nat × Nat) DateTime :=
  match r.selfMarkedAt, out.get? (r.studentId, r.kpId) with
  | some marked, none => out.set (r.studentId, r.kpId) marked
  | some marked, some current => if current < marked then out.set (r.studentId, r.kpId) marked else out
  | none, _ => out

theorem get?_keepLatest (out : Dict (Nat × Nat) DateTime) (r : StudyRecord) (key : Nat × Nat) :
    (keepLatest out r).get? key =
      if (r.studentId, r.kpId) = key then ((out.get? key).toList ++ r.selfMarkedAt.toList).max? else out.get? key := by
  unfold keepLatest
  by_cases same : (r.studentId, r.kpId) = key
  · rw [if_pos same, ← same]
    cases marked : r.selfMarkedAt with
    | none => cases out.get? (r.studentId, r.kpId) <;> simp
    | some stamp =>
      cases held : out.get? (r.studentId, r.kpId) with
      | none => simp [Dict.get?_set]
      | some current =>
        by_cases later : current < stamp
        · simp [later, Dict.get?_set, max_eq_right (le_of_lt later)]
        · simp [later, held, max_eq_left (not_lt.mp later)]
  · rw [if_neg same]
    have other : ¬ key = (r.studentId, r.kpId) := fun equal => same equal.symm
    cases marked : r.selfMarkedAt with
    | none => rfl
    | some stamp =>
      cases held : out.get? (r.studentId, r.kpId) with
      | none => simp [Dict.get?_set, other]
      | some current =>
        dsimp only
        split
        · rw [Dict.get?_set, if_neg other]
        · rfl

theorem max?_toList_append (xs ys : List Int) : (xs.max?.toList ++ ys).max? = (xs ++ ys).max? := by
  cases xs with
  | nil => rfl
  | cons x xs => simp only [List.max?_cons', Option.toList_some, List.cons_append, List.nil_append, List.foldl_append]

theorem get?_foldl_keepLatest (rows : List StudyRecord) (out : Dict (Nat × Nat) DateTime) (key : Nat × Nat) :
    (rows.foldl keepLatest out).get? key = ((out.get? key).toList ++
      (rows.filter (fun r => decide ((r.studentId, r.kpId) = key))).filterMap StudyRecord.selfMarkedAt).max? := by
  induction rows generalizing out with
  | nil => cases held : out.get? key <;> simp [held]
  | cons r rows ih =>
    rw [List.foldl_cons, ih, get?_keepLatest, List.filter_cons]
    by_cases same : (r.studentId, r.kpId) = key
    · rw [if_pos same, if_pos (decide_eq_true same), max?_toList_append, List.append_assoc]
      congr 2
      cases marked : r.selfMarkedAt <;> simp [marked]
    · rw [if_neg same, if_neg (by simpa using same)]

/-- The report a pupil is judged by is the one stamped last. -/
theorem selfReportMap_get? (db : Db K) (studentId kpId : Nat) :
    (selfReportMap db [studentId]).get? (studentId, kpId) = (reportStamps db studentId kpId).max? := by
  have folded : selfReportMap db [studentId] = (db.studyRecords.select (fun r =>
      decide (r.studentId ∈ [studentId]) && r.selfMarkedAt.isSome)).foldl keepLatest Dict.empty := rfl
  rw [folded, get?_foldl_keepLatest]
  unfold reportStamps Table.select
  rw [List.filter_filter]
  have empty : (Dict.empty : Dict (Nat × Nat) DateTime).get? (studentId, kpId) = none := rfl
  rw [empty, Option.toList_none, List.nil_append]
  congr 2
  apply List.filter_congr
  intro r _
  rw [Bool.eq_iff_iff]
  simp only [Bool.and_eq_true, decide_eq_true_eq, beq_iff_eq, List.mem_singleton, Prod.mk.injEq]
  tauto

section
variable [Field K] [LinearOrder K] [FloorRing K] {cfg : Config K} {quoted : String → String} {offset : Int}

omit [Field K] [LinearOrder K] [FloorRing K] in
theorem report_of_latest {c : Chronicle K} (stamped : Stamped offset c) {studentId kpId : Nat} {actual : DateTime}
    (reported : latestReport c studentId kpId = some actual) :
    (selfReportMap c.db [studentId]).get? (studentId, kpId) = some (wallClock offset actual) := by
  rw [selfReportMap_get?, List.max?_eq_some_iff]
  have ⟨listed, bound⟩ := List.max?_eq_some_iff.mp reported
  constructor
  · rcases List.mem_map.mp listed with ⟨r, chosen, moment⟩
    have kept := List.mem_filter.mp chosen
    have ⟨stamp, marked⟩ := Option.isSome_iff_exists.mp (Bool.and_eq_true_iff.mp kept.2).2
    rw [← moment, ← stamped.reported r kept.1 stamp marked]
    exact List.mem_filterMap.mpr ⟨r, chosen, marked⟩
  · intro stamp given
    rcases List.mem_filterMap.mp given with ⟨r, chosen, marked⟩
    rw [stamped.reported r (List.mem_of_mem_filter chosen) stamp marked]
    have upto := bound _ (List.mem_map.mpr ⟨r, chosen, rfl⟩)
    exact Int.add_le_add_right upto offset

omit [FloorRing K] in
/-- Where the fold turns on the report, it shows the report exactly when the report belongs to the current round. -/
theorem loopState_selfReported_iff {studentId : Nat} {peers : List Nat}
    {eventsFor : Nat → Nat → List (EvidenceEvent K)} {reports : Dict (Nat × Nat) DateTime} {rows : List Intervention}
    {a : KpAssessment K} {report : DateTime} (taught : a.gate = none) (weak : a.isWeak = true)
    (reported : reports.get? (studentId, a.kpId) = some report)
    (standing : ¬ ReportOvertaken (eventsFor studentId a.kpId) rows report) :
    loopState cfg studentId peers eventsFor reports rows a = .selfReported ↔ currentRound report rows = true := by
  unfold loopState
  rw [taught]
  simp only [weak, Bool.not_true, Bool.false_eq_true, ↓reduceIte, reported]
  unfold ReportOvertaken at standing
  cases executed : latestDone rows with
  | some best =>
    rw [executed] at standing
    have quiet := not_not.mp standing
    dsimp only at quiet ⊢
    rw [quiet]
    cases currentRound report rows <;> simp
  | none =>
    rw [executed] at standing
    have quiet : (eventsFor studentId a.kpId).any (fun e => decide (report < e.occurredAt)) = false := by
      rw [List.any_eq_false]
      intro e listed later
      exact standing ⟨e, listed, of_decide_eq_true later⟩
    rw [quiet]
    cases currentRound report rows with
    | true => simp
    | false =>
      simp only [Bool.not_false, Bool.true_and, Bool.false_eq_true, ↓reduceIte, iff_false]
      split
      · intro same
        cases same
      · split
        · intro same
          cases same
        · intro same
          cases same

omit [Field K] [LinearOrder K] [FloorRing K] in
theorem currentRound_iff_latest {c : Chronicle K} (stamped : Stamped offset c) {classId studentId kpId : Nat}
    {report : DateTime} : currentRound report (rowsOf c.db classId studentId kpId) = true ↔
      ∀ suggested ∈ latestSuggestion c classId studentId kpId, suggested ≤ report := by
  have dates : (rowsOf c.db classId studentId kpId).map (fun r => c.history.created r.id) =
      (rowsOf c.db classId studentId kpId).map Intervention.suggestedAt := by
    apply List.map_congr_left
    intro r listed
    exact (stamped.created r (mem_rowsOf.mp listed).1).symm
  unfold currentRound latestSuggestion
  rw [dates]
  cases ((rowsOf c.db classId studentId kpId).map Intervention.suggestedAt).max? <;> simp

/-- In any state the stamps go with, the two clocks agree exactly when nothing is straddled. -/
theorem onOneClock_iff {c : Chronicle K} (stamped : Stamped offset c) : OnOneClock cfg offset c ↔ Unstraddled cfg offset c := by
  have report : ∀ g studentId classId asOf a actual, TurnsOn cfg offset c g studentId classId asOf a actual →
      ((loopStatesForStudent cfg c.db g studentId classId asOf).get? a.kpId = some .selfReported ↔
        ∀ suggested ∈ latestSuggestion c classId studentId a.kpId, suggested ≤ wallClock offset actual) := by
    intro g studentId classId asOf a actual turns
    rw [loopStatesForStudent_get? turns.assessed, Option.some.injEq, loopState_selfReported_iff turns.taught turns.weak
      (report_of_latest stamped turns.reported) turns.standing, currentRound_iff_latest stamped]
  have plan : ∀ g student kpId existing pending allowGenerate now, Compares c g student kpId existing pending →
      (getOrGenerateStudyRecord cfg c.db g student kpId allowGenerate now = .ok (existing, c.db.studyRecords) ↔
        c.history.created pending.id ≤ planStamp offset (c.history.planned existing.id)) := by
    intro g student kpId existing pending allowGenerate now compares
    rw [reuse_iff compares.inside compares.stored compares.open_,
      stamped.created pending (pendingRow_mem compares.open_), stamped.planned existing (existingRecord_mem compares.stored)]
  constructor
  · intro clock
    constructor
    · intro g studentId classId asOf a actual turns suggested latest
      have agree := (report g studentId classId asOf a actual turns).symm.trans
        (clock.reports g studentId classId asOf a actual turns)
      rw [straddled_iff]
      simpa [Option.mem_def.mp latest] using agree
    · intro g student kpId existing pending compares
      rw [straddled_iff]
      exact (plan g student kpId existing pending true 0 compares).symm.trans
        (clock.plans g student kpId existing pending true 0 compares)
  · intro apart
    constructor
    · intro g studentId classId asOf a actual turns
      rw [report g studentId classId asOf a actual turns]
      apply forall₂_congr
      intro suggested latest
      exact straddled_iff.mp (apart.reports g studentId classId asOf a actual turns suggested latest)
    · intro g student kpId existing pending allowGenerate now compares
      rw [plan g student kpId existing pending allowGenerate now compares]
      exact straddled_iff.mp (apart.plans g student kpId existing pending compares)

/-- Rounds are decided as they truly went, in every state of a run, exactly when in none of them a suggestion falls
    between an event it is compared with and its stamp. -/
theorem rounds_on_one_clock_iff (cfg : Config K) (quoted : String → String) (offset : Int) (db : Db K)
    (deeds : List (DateTime × Deed K)) :
    (∀ first rest, deeds = first ++ rest →
        OnOneClock cfg offset (run (Chronicle.step cfg quoted offset) (Chronicle.opened db) first)) ↔
      ∀ first rest, deeds = first ++ rest →
        Unstraddled cfg offset (run (Chronicle.step cfg quoted offset) (Chronicle.opened db) first) := by
  apply forall₃_congr
  intro first _ _
  exact onOneClock_iff (stamped_run cfg quoted offset db first)

theorem undated_run (db : Db K) (deeds : List (DateTime × Deed K)) (undated : ∀ deed ∈ deeds, deed.2.asOf = none) (id : Nat) :
    ((run (Chronicle.step cfg quoted offset) (Chronicle.opened db) deeds).history.planned id).2 = none := by
  induction deeds using List.reverseRecOn with
  | nil => rfl
  | append_singleton deeds deed ih =>
    have last := undated deed (List.mem_append_right _ (List.mem_singleton_self deed))
    have before := ih (fun earlier listed => undated earlier (List.mem_append_left _ listed))
    rw [run_append, run_cons, run_nil]
    simp only [Chronicle.step, History.note]
    split
    · exact before
    · exact last

/-- A server on UTC whose pupils name no date decides every round as it truly went. -/
theorem onOneClock_utc (db : Db K) (deeds : List (DateTime × Deed K)) (undated : ∀ deed ∈ deeds, deed.2.asOf = none) :
    OnOneClock cfg 0 (run (Chronicle.step cfg quoted 0) (Chronicle.opened db) deeds) := by
  rw [onOneClock_iff (stamped_run cfg quoted 0 db deeds)]
  have still : ∀ t : DateTime, wallClock 0 t = t := Int.add_zero
  constructor
  · intro g studentId classId asOf a actual _ suggested _
    rw [still, straddled_iff]
  · intro g student kpId existing pending _
    have now : planStamp 0 ((run (Chronicle.step cfg quoted 0) (Chronicle.opened db) deeds).history.planned existing.id) =
        ((run (Chronicle.step cfg quoted 0) (Chronicle.opened db) deeds).history.planned existing.id).1 := by
      rw [planStamp, undated_run db deeds undated existing.id]
      exact still _
    rw [now, straddled_iff]

end

def drillPupil : Student := ⟨1, 1, "甲"⟩

/-- Suggested at noon; a plan one hour later, reported learned after another; suggested anew one hour after that. -/
def suggestedAnew : List (DateTime × Deed ℚ) :=
  [(noon 0, .generate drilledGraph 1 5 (noon 0) none none),
    (noon 0 + seconds 3600, .studyPlan drilledGraph drillPupil "N1" none),
    (noon 0 + seconds 7200, .selfMark drilledGraph drillPupil 1),
    (noon 0 + seconds 10800, .recordIntervention
      ⟨fun _ => "", fun _ => some ⟨"七年级1班", "数学", none⟩, [], .empty, fun _ => none, false⟩ ⟨none⟩ drilledGraph 1 "N1"
      "tier_drill" 5 none)]

def suggestedAnewDb : Db ℚ := { drilledDb with templates := .ofList [⟨5, 1, 0, .unit, .other "school"⟩] }

def suggestedAnewEnd (offset : Int) : Chronicle ℚ :=
  run (Chronicle.step Config.rational id offset) (Chronicle.opened suggestedAnewDb) suggestedAnew

/-- Eight hours east of UTC the old plan and the old report pass for those of the second round. -/
theorem second_round_missed :
    (¬ ∀ first rest, suggestedAnew = first ++ rest → OnOneClock Config.rational (seconds 28800)
      (run (Chronicle.step Config.rational id (seconds 28800)) (Chronicle.opened suggestedAnewDb) first)) ∧
    latestReport (suggestedAnewEnd (seconds 28800)) 1 9 = some (noon 0 + seconds 7200) ∧
    latestSuggestion (suggestedAnewEnd (seconds 28800)) 1 1 9 = some (noon 0 + seconds 10800) ∧
    (loopStatesForStudent Config.rational (suggestedAnewEnd (seconds 28800)).db drilledGraph 1 1
      (noon 0 + seconds 50000)).get? 9 = some .selfReported := by
  have found : (existingRecord (suggestedAnewEnd (seconds 28800)).db drillPupil 9).isSome ∧
      (pendingRow (suggestedAnewEnd (seconds 28800)).db drillPupil 9).isSome ∧
      ∀ existing ∈ existingRecord (suggestedAnewEnd (seconds 28800)).db drillPupil 9,
        ∀ pending ∈ pendingRow (suggestedAnewEnd (seconds 28800)).db drillPupil 9,
          pending.suggestedAt ≤ existing.generatedAt ∧
            ¬ (suggestedAnewEnd (seconds 28800)).history.created pending.id ≤
              ((suggestedAnewEnd (seconds 28800)).history.planned existing.id).1 := by
    decide +kernel
  refine ⟨?_, by decide +kernel⟩
  intro always
  have clock : OnOneClock Config.rational (seconds 28800) (suggestedAnewEnd (seconds 28800)) :=
    always suggestedAnew [] (List.append_nil _).symm
  have ⟨existing, stored⟩ := Option.isSome_iff_exists.mp found.1
  have ⟨pending, open_⟩ := Option.isSome_iff_exists.mp found.2.1
  have inside : 9 ∈ drilledGraph.gradeKpIds (classGrade (suggestedAnewEnd (seconds 28800)).db drillPupil.classId) := by
    decide +kernel
  have ⟨stamps, truth⟩ := found.2.2 existing stored pending open_
  have agree := clock.plans drilledGraph drillPupil 9 existing pending true 0 ⟨inside, stored, open_⟩
  exact truth (agree.mp ((reuse_iff inside stored open_).mpr stamps))

end KnowledgeGap
