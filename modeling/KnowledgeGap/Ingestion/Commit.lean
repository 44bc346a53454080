import KnowledgeGap.Ingestion.Photo
import KnowledgeGap.Pipeline.Evidence
import KnowledgeGap.Protocol.Runs

namespace KnowledgeGap.Ingestion

open Relational Protocol

inductive Skip
  | noResponses
  | submitted (studentId : Nat)
  | abnormal (studentId : Nat) (status : ResponseStatus)
  deriving DecidableEq, Repr

structure CommitResult where
  committedResponses : Nat := 0
  evidenceEvents : Nat := 0
  bankQuestions : Nat := 0
  skipped : List Skip := []
  deriving DecidableEq, Repr

inductive CommitError
  | noTemplate (templateId : Nat)
  | scope (error : ScopeError)
  | derive (error : DeriveError)
  deriving DecidableEq, Repr

variable {K : Type}

def responsesOf (db : Db K) (templateId : Nat) : List (ExamResponse K) :=
  db.responses.select (fun r => r.examTemplateId == templateId)

def submit (r : ExamResponse K) : ExamResponse K := { r with status := .submitted }

theorem key_submit (r : ExamResponse K) : Keyed.key (submit r) = Keyed.key r := rfl

def questionKpsOf (db : Db K) (questionId : Nat) : List (QuestionKp K) :=
  db.questionKps.select (fun qkp => qkp.templateQuestionId == questionId)

def bankRow (entry : TemplateQuestion K × Option Nat) (id : Nat) : BankQuestion K where
  id := id
  kbVersionId := entry.2
  stem := entry.1.stem
  qType := entry.1.qType
  fullScore := entry.1.fullScore
  difficulty := entry.1.difficultyEst
  sourceTemplateQuestionId := some entry.1.id

theorem key_bankRow (entry : TemplateQuestion K × Option Nat) (id : Nat) : Keyed.key (bankRow entry id) = id := rfl

/-- The tagged questions of the exam that the bank does not hold yet, each with the version of its first tag. -/
def bankEntries (db : Db K) (templateId : Nat) : List (TemplateQuestion K × Option Nat) :=
  let already := db.bank.rows.filterMap BankQuestion.sourceTemplateQuestionId
  (db.questions.select (fun q => q.examTemplateId == templateId)).filterMap (fun q =>
    if q.id ∈ already then none
    else
      match questionKpsOf db q.id with
      | [] => none
      | first :: _ => some (q, (db.knowledgePoints.get? first.kpId).map KnowledgePoint.kbVersionId))

def seedBankFromTemplate (db : Db K) (templateId : Nat) : Db K × Nat :=
  ({ db with bank := db.bank.insertAll bankRow key_bankRow (bankEntries db templateId) },
    (bankEntries db templateId).length)

section
variable [Field K] [LinearOrder K] [FloorRing K] (cfg : Config K)

/-- One turn of the loop of `commit_exam`. -/
def commitRow (state : Db K × CommitResult) (response : ExamResponse K) :
    Except CommitError (Db K × CommitResult) :=
  let (db, result) := state
  match response.status with
  | .submitted => .ok (db, { result with skipped := result.skipped ++ [.submitted response.studentId] })
  | .uploaded =>
    .ok (db, { result with skipped := result.skipped ++ [.abnormal response.studentId response.status] })
  | .pendingReview | .parsing =>
    let db := { db with responses := db.responses.modify response.id submit key_submit }
    match deriveEventsForResponse cfg db response.id with
    | .error e => .error (.derive e)
    | .ok (events, n) =>
      .ok ({ db with events := events },
        { result with
          committedResponses := result.committedResponses + 1
          evidenceEvents := result.evidenceEvents + n })

/-- `rows` are the responses of the exam in the order in which the query returns them. -/
def commitExam (db : Db K) (templateId : Nat) (rows : List (ExamResponse K)) :
    Except CommitError (Db K × CommitResult) :=
  match db.templates.get? templateId with
  | none => .error (.noTemplate templateId)
  | some template =>
    if rows.isEmpty then .ok (db, { skipped := [.noResponses] })
    else
      match rows.forM (fun r => assertExamStudent db template r.studentId) with
      | .error e => .error (.scope e)
      | .ok _ =>
        match rows.foldlM (commitRow cfg) (db, {}) with
        | .error e => .error e
        | .ok (db, result) =>
          let (db, n) := seedBankFromTemplate db templateId
          .ok (db, { result with bankQuestions := n })

end

/-- What blocks a commit, a constructor for each `code`. -/
inductive Issue
  | missingTaskTarget
  | noQuestions
  | invalidFullScore (idx : Int)
  | studentMismatch (responseId : Nat)
  | duplicateResponse (responseId : Nat)
  | notReady (responseId : Nat)
  | missingAnswer (responseId : Nat) (idx : Int)
  | duplicateAnswer (responseId : Nat) (idx : Int)
  | foreignQuestion (responseId : Nat)
  | scoreOutOfRange (responseId : Nat) (idx : Int)
  | lowConfidence (responseId : Nat) (idx : Int)
  | totalMismatch (responseId : Nat)
  deriving DecidableEq, Repr

def questionsOf (db : Db K) (templateId : Nat) : List (TemplateQuestion K) :=
  stableSort byIdx (db.questions.select (fun q => q.examTemplateId == templateId))

section
variable [Field K] [LinearOrder K] (confidence : Nat → K)

/-- The first loop over a response's answers: every question answered once. -/
def coverageIssues (answers : List (ResponseAnswer K)) (responseId : Nat) (q : TemplateQuestion K) : List Issue :=
  match answers.countP (fun a => a.templateQuestionId == q.id) with
  | 0 => [.missingAnswer responseId q.idx]
  | 1 => []
  | _ => [.duplicateAnswer responseId q.idx]

def inRange (q : TemplateQuestion K) (score : K) : Bool := decide (0 ≤ score) && decide (score ≤ q.fullScore)

/-- The second one; `confidence` is `response_answer.parse_confidence`. -/
def answerIssues (questions : List (TemplateQuestion K)) (responseId : Nat) (a : ResponseAnswer K) : List Issue :=
  match questions.find? (fun q => q.id == a.templateQuestionId) with
  | none => [.foreignQuestion responseId]
  | some q =>
    (if inRange q a.score then [] else [.scoreOutOfRange responseId q.idx]) ++
      if confidence a.id < ratio 6 10 then [.lowConfidence responseId q.idx] else []

def soundAnswer (questions : List (TemplateQuestion K)) (a : ResponseAnswer K) : Bool :=
  (questions.find? (fun q => q.id == a.templateQuestionId)).any (fun q => inRange q a.score)

def responseIssues (db : Db K) (template : ExamTemplate) (r : ExamResponse K) : List Issue :=
  let questions := questionsOf db template.id
  let answers := answersOf db r.id
  let off := r.totalScore - pySum (answers.map ResponseAnswer.score)
  (if r.studentId ∈ (examStudents db template).map Student.id then [] else [.studentMismatch r.id]) ++
    (if 1 < (responsesOf db template.id).countP (fun s => s.studentId == r.studentId) then [.duplicateResponse r.id]
      else []) ++
    (if r.status = .pendingReview then [] else [.notReady r.id]) ++
    questions.flatMap (coverageIssues answers r.id) ++
    answers.flatMap (answerIssues confidence questions r.id) ++
    if answers.all (soundAnswer questions) ∧ ratio 11 1000 < max off (-off) then [.totalMismatch r.id] else []

/-- The issues of `exam_preflight` that keep an exam from being committed. -/
def blockingIssues (db : Db K) (template : ExamTemplate) : List Issue :=
  let questions := questionsOf db template.id
  (if template.source = .diagnosticTask ∧ (diagnosticTask db template).isNone then [.missingTaskTarget] else []) ++
    (if questions.isEmpty then [.noQuestions] else []) ++
    questions.filterMap (fun q => if q.fullScore ≤ 0 then some (.invalidFullScore q.idx) else none) ++
    ((responsesOf db template.id).filter (fun r => decide (r.status ≠ .submitted))).flatMap
      (responseIssues confidence db template)

end

structure SheetAnswer (K : Type) where
  questionId : Nat
  score : K
  cascadeFlag : Bool
  deriving DecidableEq, Repr

/-- A response before it is on file. -/
structure Sheet (K : Type) where
  studentId : Nat
  totalScore : K
  answers : List (SheetAnswer K)
  deriving DecidableEq, Repr

def filedAnswer (responseId : Nat) (a : SheetAnswer K) (id : Nat) : ResponseAnswer K :=
  ⟨id, responseId, a.questionId, a.score, a.cascadeFlag⟩

theorem key_filedAnswer (responseId : Nat) (a : SheetAnswer K) (id : Nat) :
    Keyed.key (filedAnswer responseId a id) = id := rfl

/-- A response as every way of entry files it, awaiting review. -/
def enter (db : Db K) (templateId : Nat) (sheet : Sheet K) : Db K :=
  { db with
    responses := db.responses.insert (responseRow templateId sheet.studentId sheet.totalScore) (key_responseRow _ _ _)
    answers := db.answers.insertAll (filedAnswer db.responses.nextId) (key_filedAnswer _) sheet.answers }

/-- The work on one exam: sheets come in, and commits take what has come in, in the order given. -/
inductive Desk (K : Type)
  | enter (sheet : Sheet K)
  | commit (order : List Nat)

def Desk.sheet? : Desk K → Option (Sheet K)
  | .enter sheet => some sheet
  | .commit _ => none

def deskStep [Field K] [LinearOrder K] [FloorRing K] (cfg : Config K) (templateId : Nat) (db : Db K) : Desk K → Db K
  | .enter sheet => enter db templateId sheet
  | .commit order =>
    match commitExam cfg db templateId (order.filterMap db.responses.get?) with
    | .ok (after, _) => after
    | .error _ => db

/-- A commit goes over every response of the exam once. -/
def InOrder (templateId : Nat) (db : Db K) : Desk K → Prop
  | .enter _ => True
  | .commit order => order.Perm ((responsesOf db templateId).map ExamResponse.id)

/-- A plan that enters these sheets, in some order, and commits in some order and in so many calls, the last of
    them at the end. -/
structure Covers [Field K] [LinearOrder K] [FloorRing K] (cfg : Config K) (db : Db K) (templateId : Nat)
    (sheets : List (Sheet K)) (plan : List (Desk K)) : Prop where
  entered : (plan.filterMap Desk.sheet?).Perm sheets
  ordered : Along (deskStep cfg templateId) (InOrder templateId) db plan
  closed : ∃ before order, plan = before ++ [.commit order]

/-- What is compared of an event. -/
structure Produced (K : Type) where
  studentId : Nat
  kpId : Nat
  questionId : Nat
  value : K
  weight : K
  classAvgRate : Option K
  occurredAt : DateTime
  deriving DecidableEq, Repr

/-- The answer an event was derived from, when it is one of the exam. -/
def originOf (db : Db K) (templateId : Nat) (ev : EvidenceEvent K) : Option (ResponseAnswer K) :=
  match db.answers.get? ev.responseAnswerId with
  | none => none
  | some a =>
    match db.responses.get? a.examResponseId with
    | none => none
    | some r => if r.examTemplateId = templateId then some a else none

def produced (db : Db K) (templateId : Nat) : List (Produced K) :=
  db.events.rows.filterMap (fun ev => (originOf db templateId ev).map (fun a =>
    ⟨ev.studentId, ev.kpId, a.templateQuestionId, ev.value, ev.weight, ev.classAvgRate, ev.occurredAt⟩))

end KnowledgeGap.Ingestion
