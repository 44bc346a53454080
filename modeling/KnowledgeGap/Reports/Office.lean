import KnowledgeGap.Auth.Access
import KnowledgeGap.Kb.Requests
import KnowledgeGap.Protocol.Session
import KnowledgeGap.Reports.Diagnosis

namespace KnowledgeGap.Reports

open Relational Protocol Auth

inductive SigningStatus
  | draft
  | issued
  | archived
  deriving DecidableEq, Repr

def SigningStatus.text : SigningStatus → String
  | .draft => "draft"
  | .issued => "issued"
  | .archived => "archived"

/-- `snapshot_json`; `facts` is all of it that no code here looks into. -/
structure Snapshot where
  origin : Option String
  asOf : Option String
  facts : String
  deriving DecidableEq, Repr

/-- A whole row of `report`. -/
structure FiledReport where
  id : Nat
  type : ReportType
  classId : Option Nat
  studentId : Option Nat
  examId : Option Nat
  generatedAt : DateTime
  snapshot : Snapshot
  contentMarkdown : String
  narrativeMarkdown : Option String
  status : SigningStatus
  statusChangedAt : Option DateTime
  statusNote : Option String
  deriving DecidableEq, Repr

instance : Keyed FiledReport := ⟨FiledReport.id⟩

/-- The database, the tables authorization reads and the reports. Exams and classes have columns in both of the
    first, and these agree. -/
structure Office (K : Type) where
  db : Db K
  access : AccessDb
  reports : Table FiledReport
  exams_agree : ∀ id, (db.templates.get? id).map (fun t => (t.classId, t.examDate, t.source)) =
    (access.exams.get? id).map (fun e => (e.classId, e.examDate, e.source))
  classes_agree : ∀ id, (db.classes.get? id).map Class.grade = (access.classes.get? id).map SchoolClass.grade

inductive Failure
  | lookup (text : String)
  | value (text : String)
  | permission (text : String)
  | other (text : String)
  deriving DecidableEq, Repr

def Failure.ofAccess : AccessError → Failure
  | .lookup text => .lookup text
  | .permission text => .permission text

/-- What the renderers and the language model make of the evidence. -/
structure Writing where
  asOf : Option String
  facts : String
  markdown : String
  deriving DecidableEq, Repr

/-- The writing of a report of a type on a pupil and an exam, as of a moment, over prefetched evidence. -/
abbrev Writer (K : Type) : Type :=
  Db K → KpGraph K → ReportType → Option Nat → Option Nat → DateTime → Option (Batch K) → Except Failure Writing

structure Setting (K : Type) where
  cfg : Config K
  deployment : Kb.Deployment
  /-- Python's `repr` of a string. -/
  repr : String → String

variable {K : Type}

abbrev Work (K α : Type) : Type := Session Failure (Office K) α

def Office.withReports (s : Office K) (reports : Table FiledReport) : Office K := { s with reports := reports }

def Office.withAttributions (s : Office K) (attributions : Table (Attribution K)) : Office K :=
  { s with db := { s.db with attributions := attributions } }

def Office.withInterventions (s : Office K) (interventions : Table Intervention) : Office K :=
  { s with db := { s.db with interventions := interventions } }

def generatedReport (type : ReportType) (classId studentId examId : Option Nat) (now : DateTime) (w : Writing) (id : Nat) :
    FiledReport where
  id := id
  type := type
  classId := classId
  studentId := studentId
  examId := examId
  generatedAt := now
  snapshot := ⟨none, w.asOf, w.facts⟩
  contentMarkdown := w.markdown
  narrativeMarkdown := none
  status := .issued
  statusChangedAt := none
  statusNote := none

/-- `session.add` and `flush` of a report. -/
def addReport (mk : Nat → FiledReport) (keyed : ∀ n, Keyed.key (mk n) = n) : Work K FiledReport :=
  fun s => (.ok (mk s.reports.nextId), s.withReports (s.reports.insert mk keyed))

def addGenerated (type : ReportType) (classId studentId examId : Option Nat) (now : DateTime) (w : Writing) :
    Work K FiledReport :=
  addReport (generatedReport type classId studentId examId now w) (fun _ => rfl)

/-! ### Drafts and their signing -/

structure DraftRequest where
  reportType : ReportType
  classId : Option Nat
  studentId : Option Nat
  examId : Option Nat
  markdown : String
  deriving DecidableEq, Repr

structure DraftReceipt where
  reportId : Nat
  status : SigningStatus
  type : ReportType
  classId : Nat
  studentAlias : Option String
  chars : Nat
  next : String
  deriving DecidableEq, Repr

def typeText : ReportType → String
  | .qualityAnalysis => "quality_analysis"
  | .studentDiagnosis => "student_diagnosis"
  | .classImprovementAdvice => "class_improvement_advice"
  | .studentActionPlan => "student_action_plan"
  | .other name => name

/-- `TYPE_LABELS.get(report_type, report_type)` -/
def typeLabel : ReportType → String
  | .qualityAnalysis => "班级质量分析"
  | .studentDiagnosis => "学生诊断单"
  | .classImprovementAdvice => "班级改进意见"
  | .studentActionPlan => "学生改进单"
  | .other name => name

/-- `WRITE_REPORT_TYPES` -/
def writeReportTypes : List ReportType := [.studentDiagnosis, .classImprovementAdvice]

def requireClass (s : Office K) (classId : Nat) : Except Failure SchoolClass :=
  match s.access.classes.get? classId with
  | none => .error (.lookup ("班级 " ++ toString classId ++ " 不存在"))
  | some clazz => .ok clazz

/-- `_guard_class` of the tools, and `_mcp_guard`. -/
def mcpGuard (env : Setting K) (ctx : AccessContext) (s : Office K) (classId : Nat) : Except Failure Unit :=
  match Auth.assertClassAccess s.access env.deployment.securityMode ctx classId with
  | .ok _ => .ok ()
  | .error (.permission text) => .error (.value ("无权访问该班级：" ++ text))
  | .error (.lookup text) => .error (.lookup text)

def draftClass (s : Office K) : Option Nat → Except Failure (Option SchoolClass)
  | none => .ok none
  | some classId => (requireClass s classId).map some

/-- The class and the pupil a draft is about. -/
def draftTarget (s : Office K) (clazz : Option SchoolClass) : Option Nat → Except Failure (SchoolClass × Option Student)
  | none =>
    match clazz with
    | none => .error (.value "必须提供 class_id 或 student_id 之一")
    | some clazz => .ok (clazz, none)
  | some studentId =>
    match s.db.students.get? studentId with
    | none => .error (.lookup ("学生 " ++ toString studentId ++ " 不存在"))
    | some stu =>
      match clazz.filter (fun clazz => stu.classId != clazz.id) with
      | some other => .error (.value ("学生 " ++ toString studentId ++ " 不属于班级 " ++ toString other.id))
      | none =>
        match s.access.classes.get? stu.classId with
        | none => .error (.value "必须提供 class_id 或 student_id 之一")
        | some clazz => .ok (clazz, some stu)

/-- The exam of a draft is one of the class. -/
def draftExam (s : Office K) (clazz : SchoolClass) : Option Nat → Except Failure Unit
  | none => .ok ()
  | some examId =>
    if (s.access.exams.get? examId).any (fun exam => exam.classId == clazz.id) then .ok ()
    else .error (.value ("考试 " ++ toString examId ++ " 不属于班级 " ++ toString clazz.id))

def draftText (env : Setting K) (req : DraftRequest) : Except Failure String :=
  if req.reportType ∉ writeReportTypes then
    .error (.value ("report_type 必须是 student_diagnosis/class_improvement_advice，收到 " ++ env.repr (typeText req.reportType)))
  else if Kb.strip req.markdown = "" then .error (.value "markdown 正文为空")
  else if 20000 < (Kb.strip req.markdown).length then
    .error (.value ("markdown 过长（" ++ toString (Kb.strip req.markdown).length ++ " 字符 > 20000 上限），请精简"))
  else .ok (Kb.strip req.markdown)

def agentWriter : String :=
  "\x7b\"writer\": \x7b\"model\": \"agent-draft\", \"prompt_version\": \"agent-draft-v0\"\x7d\x7d"

def agentDraft (reportType : ReportType) (classId : Nat) (studentId examId : Option Nat) (now : DateTime) (md : String)
    (id : Nat) : FiledReport where
  id := id
  type := reportType
  classId := some classId
  studentId := studentId
  examId := examId
  generatedAt := now
  snapshot := ⟨some "mcp_tool", none, agentWriter⟩
  contentMarkdown := md
  narrativeMarkdown := none
  status := .draft
  statusChangedAt := none
  statusNote := some "Agent 起草，待教师签发"

def createReportDraft (env : Setting K) (ctx : AccessContext) (req : DraftRequest) (now : DateTime) : Work K DraftReceipt := do
  let md ← Session.lift (draftText env req)
  let s ← Session.current
  let clazz ← Session.lift (draftClass s req.classId)
  let target ← Session.lift (draftTarget s clazz req.studentId)
  Session.lift (mcpGuard env ctx s target.1.id)
  Session.lift (draftExam s target.1 req.examId)
  let report ← addReport (agentDraft req.reportType target.1.id (target.2.map Student.id) req.examId now md) (fun _ => rfl)
  return ⟨report.id, report.status, report.type, target.1.id, target.2.map Student.nameOrAlias, md.length,
    "草稿已入收件箱，等待教师在收件箱中签发或打回"⟩

inductive SigningAction
  | issue
  | reject
  | archive
  | other (name : String)
  deriving DecidableEq, Repr

def SigningAction.text : SigningAction → String
  | .issue => "issue"
  | .reject => "reject"
  | .archive => "archive"
  | .other name => name

def SigningAction.target : SigningAction → Option SigningStatus
  | .issue => some .issued
  | .reject | .archive => some .archived
  | .other _ => none

/-- `_TRANSITIONS` -/
def SigningStatus.next : SigningStatus → List SigningStatus
  | .draft => [.issued, .archived]
  | .issued | .archived => []

structure TransitionReceipt where
  reportId : Nat
  status : SigningStatus
  statusChangedAt : DateTime
  statusNote : Option String
  typeLabel : String
  deriving DecidableEq, Repr

/-- `note.strip() if note and note.strip() else None` -/
def noteText (note : Option String) : Option String := (note.map Kb.strip).filter (fun text => text != "")

def signed (target : SigningStatus) (note : Option String) (now : DateTime) (r : FiledReport) : FiledReport :=
  { r with status := target, statusChangedAt := some now, statusNote := noteText note }

theorem key_signed (target : SigningStatus) (note : Option String) (now : DateTime) (r : FiledReport) :
    Keyed.key (signed target note now r) = Keyed.key r := rfl

def getReportChecked (s : Office K) (reportId : Nat) : Except Failure FiledReport :=
  match s.reports.get? reportId with
  | none => .error (.lookup ("报告 " ++ toString reportId ++ " 不存在"))
  | some report => .ok report

/-- The status an action leads a report to. -/
def transitionTarget (env : Setting K) (report : FiledReport) (action : SigningAction) (note : Option String) :
    Except Failure SigningStatus :=
  match action.target with
  | none => .error (.value ("未知操作 " ++ env.repr action.text ++ "，应为 issue/reject/archive"))
  | some target =>
    if action = .reject ∧ noteText note = none then .error (.value "打回必须附理由")
    else if target ∉ report.status.next then
      .error (.value ("报告当前状态为 " ++ report.status.text ++ "，不能执行 " ++ action.text))
    else .ok target

def transition (env : Setting K) (reportId : Nat) (action : SigningAction) (note : Option String) (now : DateTime) :
    Work K TransitionReceipt := do
  let s ← Session.current
  let report ← Session.lift (getReportChecked s reportId)
  let target ← Session.lift (transitionTarget env report action note)
  Session.update (fun s => s.withReports (s.reports.modify reportId (signed target note now) (key_signed target note now)))
  return ⟨report.id, target, now, noteText note, typeLabel report.type⟩

end KnowledgeGap.Reports
