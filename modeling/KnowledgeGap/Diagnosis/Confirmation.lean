import KnowledgeGap.Diagnosis.Blueprint

namespace KnowledgeGap.Diagnosis

open Relational Ingestion

variable {K : Type}

def newExam (classId : Nat) (examDate : Date) (id : Nat) : ExamTemplate := ⟨id, classId, examDate, .diagnostic, .diagnosticTask⟩

theorem key_newExam (classId : Nat) (examDate : Date) (id : Nat) : Keyed.key (newExam classId examDate id) = id := rfl

def newTask (examId studentId kpId : Nat) (mode : DiagnosticMode) (attributionId : Option Nat) (questionIds : List Nat)
    (previewToken : String) (id : Nat) : DiagnosticTask :=
  ⟨id, examId, studentId, kpId, mode, attributionId, questionIds, previewToken⟩

theorem key_newTask (examId studentId kpId : Nat) (mode : DiagnosticMode) (attributionId : Option Nat) (questionIds : List Nat)
    (previewToken : String) (id : Nat) :
    Keyed.key (newTask examId studentId kpId mode attributionId questionIds previewToken id) = id := rfl

/-- The copy of a question; its key comes last. -/
def copiedQuestion (examId : Nat) (idx : Int) (original : TemplateQuestion K) (id : Nat) : TemplateQuestion K :=
  { original with id, examTemplateId := examId, idx }

theorem key_copiedQuestion (examId : Nat) (idx : Int) (original : TemplateQuestion K) (id : Nat) :
    Keyed.key (copiedQuestion examId idx original id) = id := rfl

def copiedTag (questionId : Nat) (tag : QuestionKp K) (id : Nat) : QuestionKp K :=
  ⟨id, questionId, tag.kpId, tag.weight⟩

theorem key_copiedTag (questionId : Nat) (tag : QuestionKp K) (id : Nat) : Keyed.key (copiedTag questionId tag id) = id := rfl

/-- A question and its tag are copied; nobody has reviewed the copy of the tag. -/
def copyQuestion (papers : Papers K) (examId : Nat) (idx : Int) (original : TemplateQuestion K) (tag : QuestionKp K) : Papers K where
  db := { papers.db with
    questions := papers.db.questions.insert (copiedQuestion examId idx original) (key_copiedQuestion _ _ _)
    questionKps := papers.db.questionKps.insert (copiedTag papers.db.questions.nextId tag) (key_copiedTag _ _) }
  columns := { papers.columns with
    scoreFinite := Function.update papers.columns.scoreFinite papers.db.questions.nextId (papers.columns.scoreFinite original.id)
    subItems := Function.update papers.columns.subItems papers.db.questions.nextId (papers.columns.subItems original.id)
    weightFinite := Function.update papers.columns.weightFinite papers.db.questionKps.nextId (papers.columns.weightFinite tag.id)
    reviewedAt := Function.update papers.columns.reviewedAt papers.db.questionKps.nextId none }

def copySlots (examId : Nat) : Papers K → Int → List (SlotView K) → Except DiagnosisError (Papers K)
  | papers, _, [] => .ok papers
  | papers, idx, slot :: slots =>
    match slot.question.bind (fun view => papers.db.questions.get? view.id) with
    | none => .error .keyError
    | some original =>
      match questionTags papers.db original.id with
      | [] => .error .keyError
      | tag :: _ => copySlots examId (copyQuestion papers examId idx original tag) (idx + 1) slots

def examName (student : Student) (preview : Preview K) : String :=
  let purpose := match preview.mode with
    | .evidence => "补证据"
    | .attribution => "归因验证"
  String.ofList ((student.nameOrAlias ++ "·" ++ preview.kpName ++ "·" ++ purpose).toList.take 120)

def expectedIds (preview : Preview K) : List Nat := preview.slots.filterMap (fun slot => slot.question.map QuestionView.id)

def createDiagnosticExam (papers : Papers K) (student : Student) (blueprint : Blueprint K) (questionIds : List Nat)
    (today examDate : Date) (previewToken : String) : Except DiagnosisError (Papers K × ExamTemplate) :=
  let preview := blueprint.preview
  if ¬ (today ≤ examDate ∧ examDate ≤ today + 90) then .error .badDate
  else if preview.ready = false ∨ questionIds ≠ expectedIds preview ∨ previewToken ≠ blueprint.previewToken then .error .changed
  else
    let examId := papers.db.templates.nextId
    let filed : Papers K := {
      db := { papers.db with
        templates := papers.db.templates.insert (newExam student.classId examDate) (key_newExam _ _)
        diagnosticTasks := papers.db.diagnosticTasks.insert
          (newTask examId student.id preview.kpId preview.mode preview.attributionId questionIds previewToken)
          (key_newTask _ _ _ _ _ _ _) }
      columns := { papers.columns with
        examSubject := Function.update papers.columns.examSubject examId (some preview.subject)
        examName := Function.update papers.columns.examName examId (examName student preview) } }
    match copySlots examId filed 1 preview.slots with
    | .error e => .error e
    | .ok after => .ok (after, newExam student.classId examDate examId)

section
variable [Field K] [LinearOrder K] [FloorRing K]

/-- What a teacher sends to confirm a preview. -/
structure Confirmation where
  kpId : Nat
  mode : DiagnosticMode
  attributionId : Option Nat
  questionIds : List Nat
  examDate : Date
  previewToken : String
  deriving DecidableEq, Repr

/-- The blueprint is made anew from what is on file by now. -/
def confirm (digest : Preview K × List (Option (Content K)) → String) (cfg : Config K) (papers : Papers K) (g : KpGraph K)
    (kbVersion : KbVersion) (student : Student) (req : Confirmation) (asOf : DateTime) (today : Date) :
    Except DiagnosisError (Blueprint K × Papers K × ExamTemplate) :=
  match diagnosticBlueprint digest cfg papers g kbVersion student req.kpId req.mode req.attributionId asOf with
  | .error e => .error e
  | .ok blueprint =>
    match createDiagnosticExam papers student blueprint req.questionIds today req.examDate req.previewToken with
    | .error e => .error e
    | .ok (after, exam) => .ok (blueprint, after, exam)

end

/-- The questions of a blueprint, in slot order. -/
def Preview.chosen (preview : Preview K) : List (QuestionView K) := preview.slots.filterMap SlotView.question

/-- The question alone tests its target: one tag, which somebody has reviewed. -/
structure Isolates (papers : Papers K) (target : Nat) (view : QuestionView K) : Prop where
  stored : ∃ q, papers.db.questions.get? view.id = some q ∧ view.stem = q.stem ∧ view.fullScore = q.fullScore ∧
    view.cogLevel = q.cogLevel
  tagged : ∃ tag, questionTags papers.db view.id = [tag] ∧ tag.kpId = target ∧ (papers.columns.reviewedAt tag.id).isSome

/-- The target is taught in the class by the day, and in use. -/
structure Assignable (papers : Papers K) (g : KpGraph K) (classId : Nat) (asOf : DateTime) (target : Nat) : Prop where
  taught : ∃ p ∈ papers.db.progress.rows, p.classId = classId ∧ p.kpId = target ∧ p.taughtAt ≤ dateOf asOf
  current : ∃ kp, g.kp? papers.db target = some kp ∧ kp.archived = false

/-- What a diagnostic paper measures is what it says. -/
structure Measures (papers : Papers K) (g : KpGraph K) (student : Student) (asOf : DateTime) (preview : Preview K) : Prop where
  distinct : (preview.chosen.map (fun view => strip view.stem)).Nodup
  unanswered : ∀ view ∈ preview.chosen, ∀ r ∈ papers.db.responses.rows, r.studentId = student.id → ∀ a ∈ papers.db.answers.rows,
    a.examResponseId = r.id → ∀ q ∈ papers.db.questions.rows, q.id = a.templateQuestionId → strip q.stem ≠ strip view.stem
  isolates : ∀ slot ∈ preview.slots, ∀ view, slot.question = some view → Isolates papers slot.kpId view
  assignable : ∀ slot ∈ preview.slots, ∀ view, slot.question = some view → Assignable papers g student.classId asOf slot.kpId

/-- The rows the contents are copied to. -/
structure Copied (before after : Papers K) (student : Student) (exam : ExamTemplate) (contents : List (Content K)) : Prop where
  identity : exam.id = before.db.templates.nextId ∧ exam.classId = student.classId ∧ exam.source = .diagnosticTask
  templates : after.db.templates.rows = before.db.templates.rows ++ [exam]
  questions : after.db.questions.rows = before.db.questions.rows ++ contents.mapIdx (fun i c =>
    ⟨before.db.questions.nextId + i, exam.id, i + 1, c.stem, c.qType, c.fullScore, c.cogLevel, c.difficultyEst, c.nOptions⟩)
  tags : after.db.questionKps.rows = before.db.questionKps.rows ++ contents.mapIdx (fun i c =>
    ⟨before.db.questionKps.nextId + i, before.db.questions.nextId + i, c.kpId, c.weight⟩)
  subItems : ∀ i c, contents[i]? = some c → after.columns.subItems (before.db.questions.nextId + i) = c.subItems

end KnowledgeGap.Diagnosis
