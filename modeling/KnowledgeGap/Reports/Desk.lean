import KnowledgeGap.Reports.Generation
import Mathlib.Data.List.Infix

namespace KnowledgeGap.Reports

open Relational Protocol Auth

variable {K : Type}

/-- How a call is turned down: over HTTP, or as a tool's error. -/
inductive Refusal
  | http (status : Nat) (detail : String)
  | tool (text : String)
  deriving DecidableEq, Repr

def crashed : Refusal := .http 500 "Internal Server Error"

abbrev Endpoint (K α : Type) : Type := Session Refusal (Office K) α

/-! ### The list -/

structure ReportItem where
  reportId : Nat
  type : ReportType
  classId : Option Nat
  studentId : Option Nat
  examId : Option Nat
  generatedAt : DateTime
  deriving DecidableEq, Repr

structure ReportPage where
  reports : List ReportItem
  total : Nat
  offset : Int
  limit : Int
  hasMore : Bool
  deriving DecidableEq, Repr

def reportItem (r : FiledReport) : ReportItem := ⟨r.id, r.type, r.classId, r.studentId, r.examId, r.generatedAt⟩

def maxReportPage : Int := 200

def guardClass (env : Setting K) (ctx : AccessContext) (s : Office K) (classId : Nat) : Except Refusal Unit :=
  match Auth.assertClassAccess s.access env.deployment.securityMode ctx classId with
  | .ok _ => .ok ()
  | .error (.permission text) => .error (.http 403 text)
  | .error (.lookup _) => .error crashed

def guardStudent (env : Setting K) (ctx : AccessContext) (s : Office K) : Option Nat → Except Refusal Unit
  | none => .ok ()
  | some studentId =>
    match s.db.students.get? studentId with
    | none => .error (.http 404 "学生不存在")
    | some stu => guardClass env ctx s stu.classId

/-- The classes a list is confined to. -/
def listsClass (ctx : AccessContext) (s : Office K) (classId : Option Nat) (r : FiledReport) : Bool :=
  match classId with
  | some classId => r.classId == some classId
  | none =>
    match allowedClassIds s.access ctx with
    | none => true
    | some allowed => r.classId.any (fun classId => decide (classId ∈ allowed))

def listFilter (ctx : AccessContext) (s : Office K) (classId studentId examId : Option Nat) (r : FiledReport) : Bool :=
  listsClass ctx s classId r && studentId.all (fun id => r.studentId == some id) && examId.all (fun id => r.examId == some id)

/-- A page of the rows that match, newest first. -/
def pageOf (rows : List FiledReport) (offset limit : Int) : ReportPage where
  reports := (((stableSort newestReport rows).drop offset.toNat).take limit.toNat).map reportItem
  total := rows.length
  offset := offset
  limit := limit
  hasMore := decide (offset + limit < rows.length)

def listReports (env : Setting K) (ctx : AccessContext) (classId studentId examId : Option Nat) (offset limit : Int)
    (s : Office K) : Except Refusal ReportPage :=
  if offset < 0 then .error (.http 400 "offset 不能小于 0")
  else if ¬ (1 ≤ limit ∧ limit ≤ maxReportPage) then .error (.http 400 "limit 必须在 1 到 200 之间")
  else if classId.any (fun id => (s.access.classes.get? id).isNone) then .ok ⟨[], 0, offset, limit, false⟩
  else
    (match classId with
      | none => Except.ok ()
      | some classId => guardClass env ctx s classId).bind fun _ =>
    (guardStudent env ctx s studentId).bind fun _ =>
    .ok (pageOf (s.reports.select (listFilter ctx s classId studentId examId)) offset limit)

/-! ### One report -/

/-- `_guard_report` -/
def guardReport (env : Setting K) (ctx : AccessContext) (s : Office K) (report : FiledReport) : Except Refusal Unit :=
  match report.studentId with
  | some studentId =>
    match s.db.students.get? studentId with
    | none => .ok ()
    | some stu => guardClass env ctx s stu.classId
  | none =>
    match report.classId with
    | none => .ok ()
    | some classId => guardClass env ctx s classId

/-- `report_detail` and `report_full` return the row, with a label and the note on its status in the latter. -/
structure ReportView where
  reportId : Nat
  type : ReportType
  label : Option String
  classId : Option Nat
  studentId : Option Nat
  examId : Option Nat
  generatedAt : DateTime
  status : SigningStatus
  statusNote : Option String
  markdown : String
  snapshot : Snapshot
  deriving DecidableEq, Repr

def detailView (r : FiledReport) : ReportView :=
  ⟨r.id, r.type, none, r.classId, r.studentId, r.examId, r.generatedAt, r.status, none, r.contentMarkdown, r.snapshot⟩

def fullView (r : FiledReport) : ReportView :=
  ⟨r.id, r.type, some (typeLabel r.type), r.classId, r.studentId, r.examId, r.generatedAt, r.status, r.statusNote, r.contentMarkdown,
    r.snapshot⟩

/-- The report a page is opened on. -/
def openReport (env : Setting K) (ctx : AccessContext) (missing : String) (reportId : Nat) (s : Office K) :
    Except Refusal FiledReport :=
  match s.reports.get? reportId with
  | none => .error (.http 404 missing)
  | some report => (guardReport env ctx s report).map fun _ => report

def reportDetail (env : Setting K) (ctx : AccessContext) (reportId : Nat) (s : Office K) : Except Refusal ReportView :=
  (openReport env ctx "报告不存在" reportId s).map detailView

def reportFull (env : Setting K) (ctx : AccessContext) (reportId : Nat) (s : Office K) : Except Refusal ReportView :=
  (openReport env ctx ("报告 " ++ toString reportId ++ " 不存在") reportId s).map fullView

def actionRefusal : Failure → Refusal
  | .lookup text => .http 404 text
  | .value text => .http 400 text
  | .permission _ | .other _ => crashed

/-- `_do_action` -/
def doAction (env : Setting K) (ctx : AccessContext) (reportId : Nat) (action : SigningAction) (note : Option String)
    (now : DateTime) : Endpoint K TransitionReceipt := do
  let s ← Session.current
  let _ ← Session.lift (openReport env ctx ("报告 " ++ toString reportId ++ " 不存在") reportId s)
  Session.mapError actionRefusal (transition env reportId action note now)

/-! ### The diagnosis of a pupil -/

/-- The subject of the knowledge base a teacher sees a class through. -/
def classSubject (ctx : AccessContext) (s : Office K) (clazz : SchoolClass) : String :=
  match ctx.teacher with
  | none => clazz.subject
  | some teacher =>
    if teacher.admin then clazz.subject
    else (((s.access.bound teacher.id clazz.id).head?).filter (fun subject => subject != "")).getD clazz.subject

def notActiveText (e : Kb.KbNotActiveError) : String :=
  let scope := (e.subject.filter (fun subject => subject != "")).toList.map (fun subject => "学科：" ++ subject) ++
    e.grade.toList.map (fun grade => "年级：" ++ toString grade)
  "无审核通过(active)的知识库版本" ++ (if scope.isEmpty then "" else "（" ++ "，".intercalate scope ++ "）") ++
    "，请先审核并激活（SC_KB_STRICT_ACTIVE 已开启）"

/-- `_active_kb` of the routes. -/
def routeKb (env : Setting K) (s : Office K) (subject : Option String) (grade : Option Int) : Except Refusal KbVersion :=
  match Kb.activeKb env.deployment s.db.kbVersions subject grade with
  | .error e => .error (.http 400 (notActiveText e))
  | .ok (some kb) => .ok kb
  | .ok none =>
    .error (.http 400 (match subject.filter (fun subject => subject != "") with
      | some subject => "学科「" ++ subject ++ "」尚未导入知识库"
      | none => "尚未导入知识库，请先 POST /kb/import"))

/-- The graph for a class, if there is one. -/
def classKb (env : Setting K) (ctx : AccessContext) (s : Office K) (classId : Nat) : Except Refusal KbVersion :=
  match s.access.classes.get? classId with
  | none => routeKb env s none none
  | some clazz => routeKb env s (some (classSubject ctx s clazz)) (some clazz.grade)

/-- What the language model adds to a text of a type. -/
abbrev Narrator : Type := String → ReportType → Option String

/-- `prompt <version>；`, by which a cached section is known to be current. -/
def cacheSignature (version : String) : String := "prompt " ++ version ++ "；"

def narrated (text : String) (r : FiledReport) : FiledReport := { r with narrativeMarkdown := some text }

theorem key_narrated (text : String) (r : FiledReport) : Keyed.key (narrated text r) = Keyed.key r := rfl

def getOrCreateNarrative (version : String) (narrator : Narrator) (report : FiledReport) : Endpoint K String :=
  let cached := report.narrativeMarkdown.getD ""
  if cached ≠ "" ∧ (cacheSignature version).toList <:+: cached.toList then Session.done cached
  else
    match (narrator report.contentMarkdown report.type).filter (fun text => text != "") with
    | none => Session.done cached
    | some text => do
      Session.update (fun s => s.withReports (s.reports.modify report.id (narrated text) (key_narrated text)))
      return text

structure DiagnosisView where
  reportId : Nat
  markdown : String
  asOf : Option String
  deriving DecidableEq, Repr

def diagnosisRefusal : Failure → Refusal
  | .value text => .http 404 text
  | .lookup _ | .permission _ | .other _ => crashed

section
variable [Field K] [LinearOrder K] [FloorRing K] (env : Setting K) (ctx : AccessContext) (write : Writer K)

/-- The endpoint of `GET /students/{id}/diagnosis`; `narrate` holds the prompt version and the model if a section is
    asked for. -/
def diagnosis (studentId : Nat) (examId : Option Nat) (asOf : Option Date) (narrate : Option (String × Narrator))
    (today : Date) (now : DateTime) : Endpoint K DiagnosisView := do
  let s ← Session.current
  match s.db.students.get? studentId with
  | none => Session.fail (.http 404 "学生不存在")
  | some stu =>
    Session.lift (guardClass env ctx s stu.classId)
    let kb ← Session.lift (classKb env ctx s stu.classId)
    let found ← Session.mapError diagnosisRefusal
      (getOrGenerateDiagnosis env write (KpGraph.load s.db kb.id) studentId examId asOf today now)
    let section_ ← match narrate with
      | none => Session.done ""
      | some (version, narrator) => getOrCreateNarrative version narrator found.1
    return ⟨found.1.id, found.1.contentMarkdown ++ section_, found.1.snapshot.asOf⟩

end

/-! ### The summary of an exam -/

structure ExamSummary where
  examId : Nat
  classId : Nat
  reportId : Nat
  summaryMarkdown : String
  snapshot : Snapshot
  deriving DecidableEq, Repr

def toolRefusal (e : Failure) : Refusal := .tool e.text

/-- `resolve_graph` -/
def resolveKb (env : Setting K) (ctx : AccessContext) (s : Office K) (classId : Nat) : Except Failure KbVersion :=
  let scope := s.access.classes.get? classId
  match Kb.activeKb env.deployment s.db.kbVersions (scope.map (classSubject ctx s)) (scope.map SchoolClass.grade) with
  | .error e => .error (.value (notActiveText e))
  | .ok none => .error (.value "尚未导入知识库")
  | .ok (some kb) => .ok kb

def latestExam (a b : ExamTemplate) : Bool :=
  lexicographic (fun a b => decide (b.examDate ≤ a.examDate)) (fun a b => decide (b.id ≤ a.id)) a b

/-- `latest_exam_id`, or the exam asked for if it is one of the class. -/
def summaryExam (s : Office K) (classId : Nat) : Option Nat → Except Failure Nat
  | none =>
    match first latestExam (s.db.templates.select (fun t => t.classId == classId)) with
    | none => .error (.lookup ("班级 " ++ toString classId ++ " 暂无考试"))
    | some exam => .ok exam.id
  | some examId =>
    if (s.db.templates.get? examId).any (fun t => t.classId == classId) then .ok examId
    else .error (.value ("考试 " ++ toString examId ++ " 不属于班级 " ++ toString classId))

def storedQuality (s : Office K) (examId : Nat) : List FiledReport :=
  s.reports.select (fun r => r.examId == some examId && decide (r.type = .qualityAnalysis))

/-- Failures of the writing come out as failures of the value. -/
def asValue (e : Failure) : Failure := .value e.text

def getOrGenerateQualityReport (write : Writer K) (g : KpGraph K) (classId examId : Nat) (now : DateTime) :
    Work K FiledReport := do
  let s ← Session.current
  match (s.db.templates.get? examId).filter (fun t => t.classId == classId) with
  | none => Session.fail (.value "考试不存在或不属于该班级")
  | some exam =>
    if exam.source = .diagnosticTask then Session.fail (.value "个体诊断任务请查看指定学生的诊断单")
    else
      match first idOrder (storedQuality s examId) with
      | some report => return report
      | none => Session.mapError asValue (generateQualityAnalysis write g classId examId none now)

def getExamSummary (env : Setting K) (ctx : AccessContext) (write : Writer K) (classId : Nat) (examId : Option Nat)
    (now : DateTime) : Work K ExamSummary := do
  let s ← Session.current
  Session.lift (mcpGuard env ctx s classId)
  let kb ← Session.lift (resolveKb env ctx s classId)
  let _ ← Session.lift (requireClass s classId)
  let examId ← Session.lift (summaryExam s classId examId)
  let report ← getOrGenerateQualityReport write (KpGraph.load s.db kb.id) classId examId now
  return ⟨examId, classId, report.id, report.contentMarkdown, report.snapshot⟩

end KnowledgeGap.Reports
