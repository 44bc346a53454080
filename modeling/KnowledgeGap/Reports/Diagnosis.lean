import KnowledgeGap.Intervention.Generate
import KnowledgeGap.Reports.Prefetch
import KnowledgeGap.Verdicts.Materialize

namespace KnowledgeGap

open Relational

inductive ReportType
  | qualityAnalysis
  | studentDiagnosis
  | classImprovementAdvice
  | studentActionPlan
  | other (name : String)
  deriving DecidableEq, Repr

structure Report where
  id : Nat
  type : ReportType
  studentId : Option Nat
  examId : Option Nat
  deriving DecidableEq, Repr

instance : Keyed Report := ⟨Report.id⟩

/-- The database together with the reports on file. -/
structure Archive (K : Type) where
  db : Db K
  reports : Table Report

def reportRow (type : ReportType) (studentId examId : Option Nat) (id : Nat) : Report := ⟨id, type, studentId, examId⟩

theorem key_reportRow (type : ReportType) (studentId examId : Option Nat) (id : Nat) :
    Keyed.key (reportRow type studentId examId id) = id := rfl

def fileReport (type : ReportType) (studentId examId : Option Nat) (reports : Table Report) : Table Report :=
  reports.insert (reportRow type studentId examId) (key_reportRow type studentId examId)

/-- The `_REPORT_TYPES` that a new run over an exam replaces. -/
def ReportType.ofExam : ReportType → Bool
  | .qualityAnalysis | .studentDiagnosis | .classImprovementAdvice | .studentActionPlan => true
  | .other _ => false

inductive DiagnosisError
  | noStudent (studentId : Nat)
  | noExam (examId : Nat)
  deriving DecidableEq, Repr

variable {K : Type}

def storedDiagnosis (a : Archive K) (studentId examId : Nat) : Option Report :=
  (a.reports.select (fun r => r.examId == some examId && decide (r.type = .studentDiagnosis) &&
    r.studentId == some studentId)).head?

/-- `ORDER BY exam_date DESC, report.id DESC`. -/
def newestFirst (a b : Date × Report) : Bool :=
  lexicographic (fun a b => decide (b.1 ≤ a.1)) (fun a b => decide (b.2.id ≤ a.2.id)) a b

def latestStoredDiagnosis (a : Archive K) (studentId : Nat) : Option Report :=
  let rows := a.reports.select (fun r => r.studentId == some studentId && decide (r.type = .studentDiagnosis))
  let dated := rows.filterMap (fun r => (r.examId.bind a.db.templates.get?).map (fun exam => (exam.examDate, r)))
  (stableSort newestFirst dated).head?.map Prod.snd

section
variable [Field K] [LinearOrder K] [FloorRing K] (cfg : Config K)

/-- A new diagnosis as of a moment, with the verdicts written behind it. -/
def diagnose (a : Archive K) (g : KpGraph K) (studentId : Nat) (examId : Option Nat) (cutoff : DateTime) :
    Except DiagnosisError (Archive K × Nat × Bool) :=
  match a.db.students.get? studentId with
  | none => .error (.noStudent studentId)
  | some student =>
    let verdicts := materializeAttributionVerdicts cfg a.db g studentId student.classId cutoff none
    .ok (⟨{ a.db with attributions := verdicts.1 }, fileReport .studentDiagnosis (some studentId) examId a.reports⟩,
      a.reports.nextId, true)

/-- `today` is the local date of the call. -/
def getOrGenerateDiagnosis (a : Archive K) (g : KpGraph K) (studentId : Nat) (examId : Option Nat)
    (asOf : Option Date) (today : Date) : Except DiagnosisError (Archive K × Nat × Bool) :=
  match examId with
  | some exam =>
    match storedDiagnosis a studentId exam with
    | some report => .ok (a, report.id, false)
    | none =>
      match a.db.templates.get? exam with
      | none => .error (.noExam exam)
      | some template => diagnose cfg a g studentId (some exam) (examAsOf template)
  | none =>
    match asOf with
    | some date => diagnose cfg a g studentId none (dayEnd date)
    | none =>
      match latestStoredDiagnosis a studentId with
      | some report => .ok (a, report.id, false)
      | none => diagnose cfg a g studentId none (dayEnd today)

/-- One pupil's turn in `_generate_exam_reports`. -/
def reportStudent (g : KpGraph K) (template : ExamTemplate) (eventsBySk : Batch K) (a : Archive K) (studentId : Nat) :
    Archive K where
  db := { a.db with
    attributions := (materializeAttributionVerdicts cfg a.db g studentId template.classId (examAsOf template)
      (some eventsBySk)).1 }
  reports := fileReport .studentActionPlan (some studentId) (some template.id)
    (fileReport .studentDiagnosis (some studentId) (some template.id) a.reports)

/-- What an exam of the whole class adds: the suggestions and the two reports on the class. -/
def reportClass (g : KpGraph K) (template : ExamTemplate) (eventsBySk : Batch K) (now : DateTime) (a : Archive K) :
    Archive K where
  db := { a.db with
    interventions := (generateInterventions cfg a.db g template.classId template.id (examAsOf template) none now
      (some eventsBySk)).1 }
  reports := fileReport .classImprovementAdvice none (some template.id)
    (fileReport .qualityAnalysis none (some template.id) a.reports)

/-- `_generate_exam_reports`; `now` is the reading of `utcnow` that dates the suggestions. -/
def generateExamReports (a : Archive K) (g : KpGraph K) (examId : Nat) (now : DateTime) : Archive K :=
  match a.db.templates.get? examId with
  | none => a
  | some template =>
    if (a.db.responses.select (fun r => r.examTemplateId == examId && decide (r.status = .submitted))).isEmpty then a
    else
      let cleared : Archive K :=
        { a with reports := a.reports.deleteWhere (fun r => r.examId == some examId && r.type.ofExam) }
      let eventsBySk := examBatch a.db g template
      let reported := (reportStudentIds a.db examId).foldl (reportStudent cfg g template eventsBySk) cleared
      if template.source = .diagnosticTask then reported
      else reportClass cfg g template eventsBySk now reported

end

end KnowledgeGap
