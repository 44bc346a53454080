import KnowledgeGap.Reports.Generation

namespace KnowledgeGap.Reports

open Relational Protocol

variable {K : Type}

/-- The mark that `create_report_draft` leaves on what it files. -/
def FiledReport.byAgent (r : FiledReport) : Bool := r.snapshot.origin == some "mcp_tool"

/-- What generation adds: rows of its own on top of those that stood, and verdicts and suggestions. -/
structure Grown (s t : Office K) : Prop where
  evidence : t.db = { s.db with attributions := t.db.attributions, interventions := t.db.interventions }
  next : s.reports.nextId ≤ t.reports.nextId
  rows : ∃ added, t.reports.rows = s.reports.rows ++ added ∧ ∀ r ∈ added, s.reports.nextId ≤ r.id ∧ r.byAgent = false

theorem Grown.refl (s : Office K) : Grown s s where
  evidence := rfl
  next := Nat.le_refl _
  rows := ⟨[], by simp⟩

theorem Grown.trans (s t u : Office K) (first : Grown s t) (second : Grown t u) : Grown s u where
  evidence := by rw [second.evidence, first.evidence]
  next := first.next.trans second.next
  rows := by
    obtain ⟨added, left, fresh⟩ := first.rows
    obtain ⟨more, right, fresher⟩ := second.rows
    refine ⟨added ++ more, by rw [right, left, List.append_assoc], ?_⟩
    intro r member
    rcases List.mem_append.mp member with early | late
    · exact fresh r early
    · exact ⟨first.next.trans (fresher r late).1, (fresher r late).2⟩

theorem Grown.kept {s t : Office K} (grown : Grown s t) {r : FiledReport} (stored : r ∈ s.reports.rows) : r ∈ t.reports.rows := by
  obtain ⟨added, rows, _⟩ := grown.rows
  rw [rows]
  exact List.mem_append_left _ stored

/-- A row with an identifier of old was there before. -/
theorem Grown.old {s t : Office K} (grown : Grown s t) {r : FiledReport} (stored : r ∈ t.reports.rows)
    (issued : r.id < s.reports.nextId) : r ∈ s.reports.rows := by
  obtain ⟨added, rows, fresh⟩ := grown.rows
  rw [rows] at stored
  rcases List.mem_append.mp stored with early | late
  · exact early
  · exact absurd issued (Nat.not_lt.mpr (fresh r late).1)

theorem Grown.marked {s t : Office K} (grown : Grown s t) {r : FiledReport} (stored : r ∈ t.reports.rows)
    (drafted : r.byAgent = true) : r ∈ s.reports.rows := by
  obtain ⟨added, rows, fresh⟩ := grown.rows
  rw [rows] at stored
  rcases List.mem_append.mp stored with early | late
  · exact early
  · rw [(fresh r late).2] at drafted
    cases drafted

theorem addGenerated_grown (type : ReportType) (classId studentId examId : Option Nat) (now : DateTime) (w : Writing) :
    Session.Keeps (Grown (K := K)) (addGenerated type classId studentId examId now w) := by
  constructor
  intro s
  exact ⟨rfl, Nat.le_succ _, [generatedReport type classId studentId examId now w s.reports.nextId], rfl, by simp [generatedReport, FiledReport.byAgent]⟩

theorem withAttributions_grown (f : Office K → Table (Attribution K)) :
    Session.Keeps (Grown (K := K)) (Session.update (ε := Failure) fun s => s.withAttributions (f s)) := by
  constructor
  intro s
  exact ⟨rfl, Nat.le_refl _, [], by simp [Office.withAttributions], by simp⟩

theorem withInterventions_grown (f : Office K → Table Intervention) :
    Session.Keeps (Grown (K := K)) (Session.update (ε := Failure) fun s => s.withInterventions (f s)) := by
  constructor
  intro s
  exact ⟨rfl, Nat.le_refl _, [], by simp [Office.withInterventions], by simp⟩

theorem generateForStudent_grown (type : ReportType) (write : Writer K) (g : KpGraph K) (studentId : Nat) (asOf : DateTime)
    (batch : Option (Batch K)) (examId : Option Nat) (now : DateTime) :
    Session.Keeps Grown (generateForStudent type write g studentId asOf batch examId now) := by
  apply Session.Keeps.bind Grown.trans (Session.Keeps.current Grown.refl)
  intro s
  split
  · exact Session.Keeps.fail Grown.refl _
  · exact Session.Keeps.bind Grown.trans (Session.Keeps.lift Grown.refl _) (fun w => addGenerated_grown ..)

theorem generateForClass_grown (type : ReportType) (write : Writer K) (g : KpGraph K) (classId examId : Nat)
    (batch : Option (Batch K)) (now : DateTime) :
    Session.Keeps Grown (generateForClass type write g classId examId batch now) := by
  apply Session.Keeps.bind Grown.trans (Session.Keeps.current Grown.refl)
  intro s
  split
  · exact Session.Keeps.fail Grown.refl _
  · exact Session.Keeps.bind Grown.trans (Session.Keeps.lift Grown.refl _) (fun w => addGenerated_grown ..)

/-! ### When the texts can be had -/

/-- A text for a report of the exam can be had. -/
def canWrite (write : Writer K) (g : KpGraph K) (template : ExamTemplate) (batch : Batch K) (db : Db K) (type : ReportType)
    (studentId : Option Nat) : Bool :=
  (write db g type studentId (some template.id) (examAsOf template) (some batch)).isOk

section
variable (write : Writer K) (g : KpGraph K) (type : ReportType) (now : DateTime) {s : Office K}

theorem generateForStudent_eq {studentId : Nat} (asOf : DateTime) (batch : Option (Batch K)) (examId : Option Nat)
    {student : Student} (known : s.db.students.get? studentId = some student) :
    generateForStudent type write g studentId asOf batch examId now s =
      (Session.lift (write s.db g type (some studentId) examId asOf batch) >>=
        addGenerated type (some student.classId) (some studentId) examId now) s := by
  unfold generateForStudent
  rw [Session.current_bind, known]

/-- Filing a text on a pupil leaves the evidence alone. -/
theorem generateForStudent_db (studentId : Nat) (asOf : DateTime) (batch : Option (Batch K)) (examId : Option Nat) (s : Office K) :
    (generateForStudent type write g studentId asOf batch examId now s).2.db = s.db := by
  cases known : s.db.students.get? studentId with
  | none =>
    unfold generateForStudent
    rw [Session.current_bind, known]
    rfl
  | some student =>
    rw [generateForStudent_eq write g type now asOf batch examId known]
    cases write s.db g type (some studentId) examId asOf batch with
    | ok w => rfl
    | error e => rfl

theorem generateForClass_eq (classId : Nat) (batch : Option (Batch K)) {examId : Nat} {template : ExamTemplate}
    (known : s.db.templates.get? examId = some template) :
    generateForClass type write g classId examId batch now s =
      (Session.lift (write s.db g type none (some examId) (examAsOf template) batch) >>=
        addGenerated type (some classId) none (some examId) now) s := by
  unfold generateForClass
  rw [Session.current_bind, known]

theorem generateForClass_db (classId examId : Nat) (batch : Option (Batch K)) (s : Office K) :
    (generateForClass type write g classId examId batch now s).2.db = s.db := by
  cases known : s.db.templates.get? examId with
  | none =>
    unfold generateForClass
    rw [Session.current_bind, known]
    rfl
  | some template =>
    rw [generateForClass_eq write g type now classId batch known]
    cases write s.db g type none (some examId) (examAsOf template) batch with
    | ok w => rfl
    | error e => rfl

variable (template : ExamTemplate) (batch : Batch K)

theorem generateForStudent_isOk {studentId : Nat} (known : (s.db.students.get? studentId).isSome) :
    (generateForStudent type write g studentId (examAsOf template) (some batch) (some template.id) now s).1.isOk =
      canWrite write g template batch s.db type (some studentId) := by
  obtain ⟨student, found⟩ := Option.isSome_iff_exists.mp known
  rw [generateForStudent_eq write g type now _ _ _ found, canWrite]
  cases write s.db g type (some studentId) (some template.id) (examAsOf template) (some batch) with
  | ok w => rfl
  | error e => rfl

theorem generateForClass_isOk (classId : Nat) (known : s.db.templates.get? template.id = some template) :
    (generateForClass type write g classId template.id (some batch) now s).1.isOk =
      canWrite write g template batch s.db type none := by
  rw [generateForClass_eq write g type now classId _ known, canWrite]
  cases write s.db g type none (some template.id) (examAsOf template) (some batch) with
  | ok w => rfl
  | error e => rfl

end

section
variable [Field K] [LinearOrder K] [FloorRing K] (env : Setting K) (write : Writer K) (g : KpGraph K)
  (template : ExamTemplate) (batch : Batch K) (now : DateTime)

theorem reportStudent_grown (studentId : Nat) : Session.Keeps Grown (reportStudent env write g template batch now studentId) := by
  apply Session.Keeps.bind Grown.trans (generateForStudent_grown ..)
  intro _
  apply Session.Keeps.bind Grown.trans (generateForStudent_grown ..)
  intro _
  exact withAttributions_grown _

theorem reportClass_grown : Session.Keeps Grown (reportClass env write g template batch now) := by
  apply Session.Keeps.bind Grown.trans (Session.Keeps.current Grown.refl)
  intro s
  apply Session.Keeps.bind Grown.trans (withInterventions_grown _)
  intro _
  apply Session.Keeps.bind Grown.trans (generateForClass_grown ..)
  intro _
  apply Session.Keeps.bind Grown.trans (generateForClass_grown ..)
  intro _
  exact Session.Keeps.pure Grown.refl _

/-- The evidence after a pupil's verdicts are written. -/
def materialized (db : Db K) (studentId : Nat) : Db K :=
  { db with attributions := (materializeAttributionVerdicts env.cfg db g studentId template.classId (examAsOf template) (some batch)).1 }

/-- The evidence after the suggestions of an exam are written. -/
def suggested (db : Db K) : Db K :=
  { db with interventions := (generateInterventions env.cfg db g template.classId template.id (examAsOf template) none now (some batch)).1 }

/-- Both texts on every pupil can be had, each over the verdicts on the pupils before. -/
def StudentsWritable (db : Db K) : List Nat → Prop
  | [] => True
  | id :: rest =>
    (canWrite write g template batch db .studentDiagnosis (some id) = true ∧
      canWrite write g template batch db .studentActionPlan (some id) = true) ∧
        StudentsWritable (materialized env g template batch db id) rest

def ClassWritable (db : Db K) : Prop :=
  canWrite write g template batch (suggested env g template batch now db) .qualityAnalysis none = true ∧
    canWrite write g template batch (suggested env g template batch now db) .classImprovementAdvice none = true

variable {s : Office K}

theorem reportStudent_isOk_iff {studentId : Nat} (known : (s.db.students.get? studentId).isSome) :
    (reportStudent env write g template batch now studentId s).1.isOk = true ↔
      canWrite write g template batch s.db .studentDiagnosis (some studentId) = true ∧
        canWrite write g template batch s.db .studentActionPlan (some studentId) = true := by
  unfold reportStudent generateStudentDiagnosis generateStudentActionPlan
  apply Session.bind_isOk_iff (by rw [generateForStudent_isOk write g _ now template batch known])
  intro _ _
  have same := generateForStudent_db write g .studentDiagnosis now studentId (examAsOf template) (some batch) (some template.id) s
  rw [← and_true (canWrite ..  = true)]
  apply Session.bind_isOk_iff
  · rw [generateForStudent_isOk write g _ now template batch (by rw [same]; exact known), same]
  · exact fun _ _ => ⟨fun _ => trivial, fun _ => rfl⟩

theorem reportStudent_db {studentId : Nat} {t : Office K}
    (through : reportStudent env write g template batch now studentId s = (.ok (), t)) :
    t.db = materialized env g template batch s.db studentId := by
  obtain ⟨_, u, diagnosis, rest⟩ := Session.bind_ok through
  obtain ⟨_, v, plan, rest⟩ := Session.bind_ok rest
  have left := generateForStudent_db write g .studentDiagnosis now studentId (examAsOf template) (some batch) (some template.id) s
  have right := generateForStudent_db write g .studentActionPlan now studentId (examAsOf template) (some batch) (some template.id) u
  change generateForStudent .studentDiagnosis write g studentId _ _ _ now s = _ at diagnosis
  change generateForStudent .studentActionPlan write g studentId _ _ _ now u = _ at plan
  rw [diagnosis] at left
  rw [plan] at right
  cases rest
  change materialized env g template batch v.db studentId = _
  rw [right, left]

/-- The loop over the pupils: it comes through when all their texts can be had, and leaves their verdicts. -/
theorem students_isOk_iff {ids : List Nat} (known : ∀ id ∈ ids, (s.db.students.get? id).isSome) :
    (Session.forEach ids (reportStudent env write g template batch now) s).1.isOk = true ↔
      StudentsWritable env write g template batch s.db ids := by
  induction ids generalizing s with
  | nil => exact ⟨fun _ => trivial, fun _ => rfl⟩
  | cons id ids ih =>
    apply Session.bind_isOk_iff (reportStudent_isOk_iff env write g template batch now (known id List.mem_cons_self))
    intro _ through
    have db := reportStudent_db env write g template batch now through
    rw [← db]
    apply ih
    intro other member
    rw [db]
    exact known other (List.mem_cons_of_mem _ member)

theorem students_db {ids : List Nat} {t : Office K}
    (through : Session.forEach ids (reportStudent env write g template batch now) s = (.ok (), t)) :
    t.db = ids.foldl (materialized env g template batch) s.db := by
  induction ids generalizing s with
  | nil =>
    cases through
    rfl
  | cons id ids ih =>
    obtain ⟨_, u, here, rest⟩ := Session.bind_ok through
    rw [ih rest, reportStudent_db env write g template batch now here]
    rfl

theorem reportClass_isOk_iff (known : s.db.templates.get? template.id = some template) :
    (reportClass env write g template batch now s).1.isOk = true ↔ ClassWritable env write g template batch now s.db := by
  have filed : (s.withInterventions (suggested env g template batch now s.db).interventions).db.templates.get? template.id =
    some template := known
  unfold reportClass generateQualityAnalysis generateClassImprovementAdvice
  rw [Session.current_bind, Session.update_bind]
  apply Session.bind_isOk_iff
  · exact iff_of_eq (congrArg (· = true) (generateForClass_isOk write g .qualityAnalysis now template batch _ filed))
  · intro _ _
    have same := generateForClass_db write g .qualityAnalysis now template.classId template.id (some batch)
      (s.withInterventions (suggested env g template batch now s.db).interventions)
    rw [← and_true (canWrite .. = true)]
    apply Session.bind_isOk_iff
    · have advice := generateForClass_isOk write g .classImprovementAdvice now template batch template.classId (same ▸ filed)
      rw [same] at advice
      exact iff_of_eq (congrArg (· = true) advice)
    · exact fun _ _ => ⟨fun _ => trivial, fun _ => rfl⟩

/-! ### The whole run -/

def submittedSheets (db : Db K) (examId : Nat) : List (ExamResponse K) :=
  db.responses.select (fun r => r.examTemplateId == examId && decide (r.status = .submitted))

/-- All texts of an exam can be had. -/
def ExamWritable (db : Db K) : Prop :=
  StudentsWritable env write g template (examBatch db g template) db (reportStudentIds db template.id) ∧
    (template.source ≠ .diagnosticTask →
      ClassWritable env write g template (examBatch db g template) now
        ((reportStudentIds db template.id).foldl (materialized env g template (examBatch db g template)) db))

def Office.purged (s : Office K) (examId : Nat) : Office K :=
  s.withReports (s.reports.deleteWhere (FiledReport.purgedBy examId))

omit [Field K] [LinearOrder K] [FloorRing K] in
theorem purgeReports_eq (s : Office K) (examId : Nat) : purgeReports examId s =
    if s.holdsBack examId then (.error (.other "FOREIGN KEY constraint failed"), s) else (.ok (), s.purged examId) := by
  unfold purgeReports
  rw [Session.current_bind]
  split <;> rfl

omit [Field K] [LinearOrder K] [FloorRing K] in
theorem known_reportStudentIds (db : Db K) (examId : Nat) : ∀ id ∈ reportStudentIds db examId, (db.students.get? id).isSome := by
  intro id listed
  obtain ⟨student, found, same⟩ := List.mem_map.mp listed
  rw [← same, show student.id = Keyed.key student from rfl, Table.get?_of_mem (List.mem_of_mem_filter found)]
  rfl

theorem materialized_templates (batch : Batch K) (db : Db K) (ids : List Nat) :
    (ids.foldl (materialized env g template batch) db).templates = db.templates := by
  induction ids generalizing db with
  | nil => rfl
  | cons id ids ih => exact ih (materialized env g template batch db id)

theorem writeExamReports_idle (none_ : submittedSheets s.db template.id = []) :
    writeExamReports env write g template now s = (.ok noReports, s) := by
  unfold writeExamReports
  rw [Session.current_bind]
  exact congrFun (if_pos (by rw [submittedSheets] at none_; rw [none_]; rfl)) s

/-- What is left to do once an exam turns out to have answer sheets. -/
def rewriteReports (students : List Nat) (batch : Batch K) : Work K ExamReportResult := do
  Session.forEach students (reportStudent env write g template batch now)
  if template.source = .diagnosticTask then
    return ⟨false, students.length, students.length, 0⟩
  else
    let suggested ← reportClass env write g template batch now
    return ⟨true, students.length, students.length, suggested⟩

theorem writeExamReports_busy (some_ : submittedSheets s.db template.id ≠ []) :
    writeExamReports env write g template now s =
      (purgeReports template.id >>= fun _ =>
        rewriteReports env write g template now (reportStudentIds s.db template.id) (examBatch s.db g template)) s := by
  unfold writeExamReports
  rw [Session.current_bind]
  exact congrFun (if_neg (by rw [submittedSheets] at some_; simpa using some_)) s

theorem rewriteReports_isOk_iff (known : s.db.templates.get? template.id = some template) :
    (rewriteReports env write g template now (reportStudentIds s.db template.id) (examBatch s.db g template) s).1.isOk = true ↔
      ExamWritable env write g template now s.db := by
  unfold rewriteReports
  apply Session.bind_isOk_iff (students_isOk_iff env write g template _ now (known_reportStudentIds s.db template.id))
  intro _ through
  have db := students_db env write g template _ now through
  by_cases individual : template.source = .diagnosticTask
  · rw [if_pos individual]
    exact ⟨fun _ whole => absurd individual whole, fun _ => rfl⟩
  · rw [if_neg individual, forall_prop_of_true individual, ← db, ← and_true (ClassWritable ..)]
    apply Session.bind_isOk_iff (reportClass_isOk_iff env write g template _ now (by rw [db, materialized_templates]; exact known))
    exact fun _ _ => ⟨fun _ => trivial, fun _ => rfl⟩

theorem rewriteReports_grown (students : List Nat) (batch : Batch K) :
    Session.Keeps Grown (rewriteReports env write g template now students batch) := by
  apply Session.Keeps.bind Grown.trans (Session.Keeps.forEach Grown.refl Grown.trans (reportStudent_grown env write g template batch now) _)
  intro _
  split
  · exact Session.Keeps.pure Grown.refl _
  · exact Session.Keeps.bind Grown.trans (reportClass_grown env write g template batch now) (fun _ => Session.Keeps.pure Grown.refl _)

theorem writeExamReports_isOk_iff (known : s.db.templates.get? template.id = some template)
    (some_ : submittedSheets s.db template.id ≠ []) :
    (writeExamReports env write g template now s).1.isOk = true ↔
      s.holdsBack template.id = false ∧ ExamWritable env write g template now s.db := by
  rw [writeExamReports_busy env write g template now some_]
  apply Session.bind_isOk_iff
  · rw [purgeReports_eq]
    cases s.holdsBack template.id with
    | true => exact ⟨nofun, nofun⟩
    | false => exact ⟨fun _ => rfl, fun _ => rfl⟩
  · intro _ through
    rw [purgeReports_eq] at through ⊢
    cases held : s.holdsBack template.id with
    | true =>
      rw [held] at through
      cases through
    | false => exact rewriteReports_isOk_iff (s := s.purged template.id) env write g template now known

/-- The exam has a knowledge base and answer sheets, nothing holds its old reports back and all texts can be had. -/
def Regenerates (s : Office K) (examId : Nat) : Prop :=
  ∃ template g, s.examGraph env examId = some (template, g) ∧ submittedSheets s.db examId ≠ [] ∧
    s.holdsBack examId = false ∧ ExamWritable env write g template now s.db

variable {env} in
omit [Field K] [LinearOrder K] [FloorRing K] in
theorem examGraph_template {examId : Nat} (found : s.examGraph env examId = some (template, g)) :
    s.db.templates.get? examId = some template ∧ template.id = examId := by
  obtain ⟨stored, known, rest⟩ := Option.bind_eq_some_iff.mp found
  obtain ⟨exam, _, resolved⟩ := Option.bind_eq_some_iff.mp rest
  have same : stored = template := by
    split at resolved
    · cases resolved
    · obtain ⟨kb, _, pair⟩ := Option.map_eq_some_iff.mp resolved
      exact congrArg Prod.fst pair
  rw [same] at known
  exact ⟨known, Table.get?_key known⟩

/-- A run that does not come to an end changes nothing. -/
theorem generateExamReports_rolled_back {examId : Nat} (found : s.examGraph env examId = some (template, g)) {e : Failure}
    {t : Office K} (failed : writeExamReports env write g template now s = (.error e, t)) :
    generateExamReports env write examId now s = (noReports, s) := by
  unfold generateExamReports
  rw [found]
  dsimp only
  rw [Session.savepoint_of_error failed]

theorem generateExamReports_idle {examId : Nat} (idle : ¬ Regenerates env write now s examId) :
    (generateExamReports env write examId now s).2 = s := by
  cases found : s.examGraph env examId with
  | none =>
    unfold generateExamReports
    rw [found]
  | some pair =>
    obtain ⟨template, g⟩ := pair
    obtain ⟨known, same⟩ := examGraph_template g template found
    rw [← same] at known
    by_cases none_ : submittedSheets s.db template.id = []
    · unfold generateExamReports
      rw [found]
      dsimp only
      rw [Session.savepoint_of_ok (writeExamReports_idle env write g template now none_)]
    · cases outcome : writeExamReports env write g template now s with
      | mk result t =>
        cases result with
        | error e => rw [generateExamReports_rolled_back env write g template now found outcome]
        | ok result =>
          have came : (writeExamReports env write g template now s).1.isOk = true := by
            rw [outcome]
            rfl
          have writable := (writeExamReports_isOk_iff env write g template now known none_).mp came
          rw [same] at none_ writable
          exact absurd ⟨template, g, found, none_, writable⟩ idle

theorem generateExamReports_grown {examId : Nat} (regenerates : Regenerates env write now s examId) :
    Grown (s.purged examId) (generateExamReports env write examId now s).2 := by
  obtain ⟨template, g, found, some_, held, writable⟩ := regenerates
  obtain ⟨known, same⟩ := examGraph_template g template found
  rw [← same] at known some_ held
  obtain ⟨result, through⟩ := Session.ok_of_isOk ((writeExamReports_isOk_iff env write g template now known some_).mpr ⟨held, writable⟩)
  unfold generateExamReports
  rw [found]
  dsimp only
  rw [Session.savepoint_of_ok through, writeExamReports_busy env write g template now some_,
    Session.bind_of_ok (t := s.purged template.id) (a := ()) (by rw [purgeReports_eq, held]; rfl), same]
  exact (rewriteReports_grown env write g template now _ _).inside _

omit [Field K] [LinearOrder K] [FloorRing K] in
theorem mem_purged {r : FiledReport} {examId : Nat} :
    r ∈ (s.purged examId).reports.rows ↔ r ∈ s.reports.rows ∧ r.purgedBy examId = false := by
  change r ∈ s.reports.rows.filter _ ↔ _
  rw [List.mem_filter, Bool.not_eq_true']

/-- A new run over an exam leaves the agent's documents alone exactly when it replaces nothing or finds none of them
    among the reports of the exam; and a run that fails midway leaves everything as it was. -/
theorem regeneration_frames_iff (env : Setting K) (write : Writer K) (now : DateTime) (s : Office K) (examId : Nat) :
    ((∀ r ∈ s.reports.rows, r.byAgent = true → r ∈ (generateExamReports env write examId now s).2.reports.rows) ∧
      ∀ template g e t, s.examGraph env examId = some (template, g) →
        writeExamReports env write g template now s = (.error e, t) →
          generateExamReports env write examId now s = (noReports, s)) ↔
    (Regenerates env write now s examId → ∀ r ∈ s.reports.rows, r.purgedBy examId = true → r.byAgent = false) := by
  constructor
  · intro frames regenerates r stored selected
    rw [Bool.eq_false_iff]
    intro drafted
    have left := (generateExamReports_grown env write now regenerates).old (frames.1 r stored drafted) (s.reports.issued r stored)
    rw [(mem_purged.mp left).2] at selected
    cases selected
  · intro spared
    refine ⟨?_, fun template g _ _ found failed => generateExamReports_rolled_back env write g template now found failed⟩
    intro r stored drafted
    by_cases regenerates : Regenerates env write now s examId
    · apply (generateExamReports_grown env write now regenerates).kept
      refine mem_purged.mpr ⟨stored, Bool.eq_false_iff.mpr ?_⟩
      intro selected
      rw [spared regenerates r stored selected] at drafted
      cases drafted
    · rw [generateExamReports_idle env write now regenerates]
      exact stored

end

def fileThree : Work ℚ Unit := do
  let draft := createReportDraft securedSetting ⟨some admin⟩ ⟨.studentDiagnosis, none, some 1, some 1, "# 诊断"⟩ 5
  let _ ← draft
  let _ ← draft
  let _ ← draft
  let _ ← transition securedSetting 2 .issue none 10
  let _ ← transition securedSetting 3 .reject (some "证据不足") 11

/-- Three drafts of the agent on the pupil and the exam: one waits, one is signed, one is sent back. -/
def threeDrafts : Office ℚ := (fileThree newOffice).2

theorem plainWriter_writes (env : Setting ℚ) (g : KpGraph ℚ) (template : ExamTemplate) (batch : Batch ℚ) (db : Db ℚ) (ids : List Nat) :
    StudentsWritable env plainWriter g template batch db ids := by
  induction ids generalizing db with
  | nil => trivial
  | cons id ids ih => exact ⟨⟨rfl, rfl⟩, ih _⟩

theorem drafts_purged :
    threeDrafts.reports.rows.map (fun r => (r.id, r.byAgent, r.status)) =
      [(1, true, .draft), (2, true, .issued), (3, true, .archived)] ∧
    ∀ r ∈ threeDrafts.reports.rows, r ∉ (generateExamReports securedSetting plainWriter 1 20 threeDrafts).2.reports.rows := by
  refine ⟨by decide +kernel, ?_⟩
  intro r stored survives
  have regenerates : Regenerates securedSetting plainWriter 20 threeDrafts 1 :=
    ⟨_, _, rfl, by decide +kernel, by decide +kernel, plainWriter_writes .., fun _ => ⟨rfl, rfl⟩⟩
  have left := (generateExamReports_grown securedSetting plainWriter 20 regenerates).old survives (threeDrafts.reports.issued r stored)
  have selected : ∀ r ∈ threeDrafts.reports.rows, r.purgedBy 1 = true := by decide +kernel
  exact absurd ((mem_purged.mp left).2.symm.trans (selected r stored)) Bool.false_ne_true

end KnowledgeGap.Reports
