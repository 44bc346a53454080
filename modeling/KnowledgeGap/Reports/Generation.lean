import KnowledgeGap.Reports.Office

namespace KnowledgeGap.Reports

open Relational Protocol Auth

variable {K : Type}

def Failure.text : Failure → String
  | .lookup text | .value text | .permission text | .other text => text

/-! ### What is on file -/

def idOrder (a b : FiledReport) : Bool := decide (a.id ≤ b.id)

def storedDiagnoses (s : Office K) (studentId examId : Nat) : List FiledReport :=
  s.reports.select (fun r => r.examId == some examId && decide (r.type = .studentDiagnosis) && r.studentId == some studentId)

/-- Reports joined with the dates of their exams. -/
def joinExams (s : Office K) (rows : List FiledReport) : List (Date × FiledReport) :=
  rows.filterMap (fun r => (r.examId.bind s.db.templates.get?).map (fun exam => (exam.examDate, r)))

/-- `ORDER BY exam_date DESC, report.id DESC` -/
def newestExam (a b : Date × FiledReport) : Bool :=
  lexicographic (fun a b => decide (b.1 ≤ a.1)) (fun a b => decide (b.2.id ≤ a.2.id)) a b

/-- `ORDER BY generated_at DESC, id DESC` -/
def newestReport (a b : FiledReport) : Bool :=
  lexicographic (fun a b => decide (b.generatedAt ≤ a.generatedAt)) (fun a b => decide (b.id ≤ a.id)) a b

def datedDiagnoses (s : Office K) (studentId : Nat) : List (Date × FiledReport) :=
  joinExams s (s.reports.select (fun r => r.studentId == some studentId && decide (r.type = .studentDiagnosis)))

def latestStoredDiagnosis (s : Office K) (studentId : Nat) : Option FiledReport :=
  (first newestExam (datedDiagnoses s studentId)).map Prod.snd

def adviceOf (s : Office K) (classId : Nat) : List FiledReport :=
  s.reports.select (fun r => r.classId == some classId && decide (r.type = .classImprovementAdvice))

/-- The exams of a class with a submitted answer sheet. -/
def submittedExams (s : Office K) (classId : Nat) : List ExamTemplate :=
  s.db.templates.select fun t => t.classId == classId &&
    s.db.responses.rows.any (fun r => r.examTemplateId == t.id && decide (r.status = .submitted))

/-- The `improvement_advice` of `class_diagnosis_sheet`. -/
def latestAdvice (s : Office K) (classId : Nat) : Option FiledReport :=
  if (submittedExams s classId).isEmpty then first newestReport (adviceOf s classId)
  else (first newestExam (joinExams s (adviceOf s classId))).map Prod.snd

/-! ### Generating and filing -/

/-- A report on a pupil; `class_id` is the pupil's. -/
def generateForStudent (type : ReportType) (write : Writer K) (g : KpGraph K) (studentId : Nat) (asOf : DateTime)
    (eventsBySk : Option (Batch K)) (examId : Option Nat) (now : DateTime) : Work K FiledReport := do
  let s ← Session.current
  match s.db.students.get? studentId with
  | none => Session.fail (.other "'NoneType' object has no attribute 'class_id'")
  | some student =>
    let w ← Session.lift (write s.db g type (some studentId) examId asOf eventsBySk)
    addGenerated type (some student.classId) (some studentId) examId now w

def generateStudentDiagnosis : Writer K → KpGraph K → Nat → DateTime → Option (Batch K) → Option Nat → DateTime →
    Work K FiledReport := generateForStudent .studentDiagnosis

def generateStudentActionPlan : Writer K → KpGraph K → Nat → DateTime → Option (Batch K) → Option Nat → DateTime →
    Work K FiledReport := generateForStudent .studentActionPlan

/-- A report on a class and an exam. -/
def generateForClass (type : ReportType) (write : Writer K) (g : KpGraph K) (classId examId : Nat)
    (eventsBySk : Option (Batch K)) (now : DateTime) : Work K FiledReport := do
  let s ← Session.current
  match s.db.templates.get? examId with
  | none => Session.fail (.other "'NoneType' object has no attribute 'exam_date'")
  | some template =>
    let w ← Session.lift (write s.db g type none (some examId) (examAsOf template) eventsBySk)
    addGenerated type (some classId) none (some examId) now w

def generateQualityAnalysis : Writer K → KpGraph K → Nat → Nat → Option (Batch K) → DateTime → Work K FiledReport :=
  generateForClass .qualityAnalysis

def generateClassImprovementAdvice : Writer K → KpGraph K → Nat → Nat → Option (Batch K) → DateTime → Work K FiledReport :=
  generateForClass .classImprovementAdvice

section
variable [Field K] [LinearOrder K] [FloorRing K] (env : Setting K)

/-- `_materialize_verdicts` -/
def materializeVerdicts (g : KpGraph K) (studentId : Nat) (cutoff : DateTime) : Work K Unit := do
  let s ← Session.current
  match s.db.students.get? studentId with
  | none => Session.fail (.value ("学生不存在: " ++ toString studentId))
  | some student =>
    Session.update (fun s => s.withAttributions
      (materializeAttributionVerdicts env.cfg s.db g studentId student.classId cutoff none).1)

def diagnose (write : Writer K) (g : KpGraph K) (studentId : Nat) (examId : Option Nat) (cutoff now : DateTime) :
    Work K (FiledReport × Bool) := do
  let report ← generateStudentDiagnosis write g studentId cutoff none examId now
  materializeVerdicts env g studentId cutoff
  return (report, true)

/-- `today` is the local date of the call, `now` the clock of the columns. -/
def getOrGenerateDiagnosis (write : Writer K) (g : KpGraph K) (studentId : Nat) (examId : Option Nat) (asOf : Option Date)
    (today : Date) (now : DateTime) : Work K (FiledReport × Bool) := do
  let s ← Session.current
  match examId with
  | some examId =>
    match first idOrder (storedDiagnoses s studentId examId) with
    | some report => return (report, false)
    | none =>
      match s.db.templates.get? examId with
      | none => Session.fail (.value ("考试不存在: " ++ toString examId))
      | some exam => diagnose env write g studentId (some examId) (examAsOf exam) now
  | none =>
    match asOf with
    | some date => diagnose env write g studentId none (dayEnd date) now
    | none =>
      match latestStoredDiagnosis s studentId with
      | some report => return (report, false)
      | none => diagnose env write g studentId none (dayEnd today) now

/-! ### The reports of an exam -/

structure ExamReportResult where
  quality : Bool
  diagnoses : Nat
  actionPlans : Nat
  interventions : Nat
  deriving DecidableEq, Repr

def noReports : ExamReportResult := ⟨false, 0, 0, 0⟩

/-- The rows the purge of an exam selects. -/
def FiledReport.purgedBy (examId : Nat) (r : FiledReport) : Bool := r.examId == some examId && r.type.ofExam

/-- A suggestion refers to a report that would go. -/
def Office.holdsBack (s : Office K) (examId : Nat) : Bool :=
  s.db.interventions.rows.any fun iv => iv.sourceReportId.any fun id => (s.reports.get? id).any (FiledReport.purgedBy examId)

/-- Foreign keys are enforced when the rows are deleted. -/
def purgeReports (examId : Nat) : Work K Unit := do
  let s ← Session.current
  if s.holdsBack examId then Session.fail (.other "FOREIGN KEY constraint failed")
  else Session.update (fun s => s.withReports (s.reports.deleteWhere (FiledReport.purgedBy examId)))

def reportStudent (write : Writer K) (g : KpGraph K) (template : ExamTemplate) (eventsBySk : Batch K) (now : DateTime)
    (studentId : Nat) : Work K Unit := do
  let _ ← generateStudentDiagnosis write g studentId (examAsOf template) (some eventsBySk) (some template.id) now
  let _ ← generateStudentActionPlan write g studentId (examAsOf template) (some eventsBySk) (some template.id) now
  Session.update (fun s => s.withAttributions
    (materializeAttributionVerdicts env.cfg s.db g studentId template.classId (examAsOf template) (some eventsBySk)).1)

/-- The suggestions and the two reports on the class; the number of suggestions is returned. -/
def reportClass (write : Writer K) (g : KpGraph K) (template : ExamTemplate) (eventsBySk : Batch K) (now : DateTime) :
    Work K Nat := do
  let s ← Session.current
  let suggested := generateInterventions env.cfg s.db g template.classId template.id (examAsOf template) none now (some eventsBySk)
  Session.update (fun s => s.withInterventions suggested.1)
  let _ ← generateQualityAnalysis write g template.classId template.id (some eventsBySk) now
  let _ ← generateClassImprovementAdvice write g template.classId template.id (some eventsBySk) now
  return suggested.2.suggested

/-- `_generate_exam_reports` -/
def writeExamReports (write : Writer K) (g : KpGraph K) (template : ExamTemplate) (now : DateTime) :
    Work K ExamReportResult := do
  let s ← Session.current
  if (s.db.responses.select (fun r => r.examTemplateId == template.id && decide (r.status = .submitted))).isEmpty then
    return noReports
  else
    purgeReports template.id
    let students := reportStudentIds s.db template.id
    let eventsBySk := examBatch s.db g template
    Session.forEach students (reportStudent env write g template eventsBySk now)
    if template.source = .diagnosticTask then
      return ⟨false, students.length, students.length, 0⟩
    else
      let suggested ← reportClass env write g template eventsBySk now
      return ⟨true, students.length, students.length, suggested⟩

/-- `template.subject or clazz.subject` and the grade of the class, for the knowledge base of an exam. -/
def Office.examKb (s : Office K) (exam : Exam) : Except Kb.KbNotActiveError (Option KbVersion) :=
  match if exam.classId = 0 then none else s.access.classes.get? exam.classId with
  | none => Kb.activeKb env.deployment s.db.kbVersions (exam.subject.filter (fun subject => subject != "")) none
  | some clazz => Kb.activeKb env.deployment s.db.kbVersions (some (examSubject exam clazz)) (some clazz.grade)

/-- The exam and the graph the reports of an exam are written with. -/
def Office.examGraph (s : Office K) (examId : Nat) : Option (ExamTemplate × KpGraph K) :=
  (s.db.templates.get? examId).bind fun template =>
    (s.access.exams.get? examId).bind fun exam =>
      match s.examKb env exam with
      | .error _ => none
      | .ok kb => kb.map fun kb => (template, KpGraph.load s.db kb.id)

/-- Nothing of a failed generation reaches the caller. -/
def generateExamReports (write : Writer K) (examId : Nat) (now : DateTime) (s : Office K) : ExamReportResult × Office K :=
  match s.examGraph env examId with
  | none => (noReports, s)
  | some (template, g) =>
    match Session.savepoint (writeExamReports env write g template now) s with
    | (.ok result, after) => (result, after)
    | (.error _, after) => (noReports, after)

end

/-! A class in mathematics with one pupil and two exams, the second in physics, to which teacher 7 is bound; both exams
are handed in, and nothing is written about them yet. -/

def newOffice : Office ℚ where
  db := { Db.empty ℚ with
    classes := Table.ofList [⟨1, 8⟩]
    students := Table.ofList [⟨1, 1, "甲"⟩]
    kbVersions := Table.ofList [⟨1, "数学", some 8, "人教版", "v1", .active⟩]
    templates := Table.ofList [⟨1, 1, 0, .midterm, .other "excel"⟩, ⟨2, 1, 0, .midterm, .other "excel"⟩]
    responses := Table.ofList [⟨1, 1, 1, 8, .submitted⟩, ⟨2, 2, 1, 8, .submitted⟩] }
  access :=
    { classes := Table.ofList [⟨1, "一班", 8, "数学", none⟩]
      exams := Table.ofList [⟨1, 1, none, "期中", 0, .other "excel"⟩, ⟨2, 1, some "物理", "期中", 0, .other "excel"⟩]
      grants := Table.ofList [⟨2, 7, 1, some "物理"⟩]
      unique := by decide +kernel
      refers := by decide +kernel }
  reports := .empty
  exams_agree := by
    intro id
    rcases id with _ | _ | _ | id <;> rfl
  classes_agree := by
    intro id
    rcases id with _ | _ | id <;> rfl

/-- The security mode, and quotes around what is shown of a string. -/
def securedSetting : Setting ℚ := ⟨Config.rational, ⟨true, true⟩, fun text => "'" ++ text ++ "'"⟩

/-- The same words on everything. -/
def plainWriter : Writer ℚ := fun _ _ _ _ _ _ _ => .ok ⟨none, "", "暂无数据"⟩

def admin : Account := ⟨2, "赵", true⟩

end KnowledgeGap.Reports
