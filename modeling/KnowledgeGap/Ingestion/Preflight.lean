import KnowledgeGap.Data.Arithmetic
import KnowledgeGap.Ingestion.Photo

namespace KnowledgeGap.Ingestion

open Relational

inductive ResponseSource
  | excel
  | manual
  | photo
  deriving DecidableEq, Repr

inductive Severity
  | blocking
  | warning
  deriving DecidableEq, Repr

inductive IssueCode
  | missingTaskTarget
  | noQuestions
  | invalidFullScore
  | untaggedQuestion
  | unreviewedTags
  | studentMismatch
  | duplicateResponse
  | notReady
  | sourceWarning
  | missingAnswer
  | duplicateAnswer
  | foreignQuestion
  | scoreOutOfRange
  | lowConfidence
  | totalMismatch
  | uncollected
  deriving DecidableEq, Repr

structure PreflightIssue where
  code : IssueCode
  severity : Severity
  message : String
  responseId : Option Nat
  studentId : Option Nat
  studentAlias : Option String
  questionIdx : Option Int
  deriving DecidableEq, Repr

structure PreflightReport where
  examId : Nat
  ready : Bool
  pendingResponses : Nat
  blockingCount : Nat
  warningCount : Nat
  issues : List PreflightIssue
  deriving DecidableEq, Repr

section
variable (K : Type)

/-- A question of the template; `tags` says of each of its tags whether somebody has reviewed it. -/
structure QuestionRow where
  id : Nat
  idx : Int
  qType : QuestionType
  fullScore : PyFloat K
  tags : List Bool
  deriving DecidableEq, Repr

structure AnswerRow where
  id : Nat
  examResponseId : Nat
  templateQuestionId : Nat
  score : PyFloat K
  chosenOption : Option String
  parseConfidence : PyFloat K
  deriving DecidableEq, Repr

structure ResponseRow where
  id : Nat
  studentId : Nat
  totalScore : PyFloat K
  source : ResponseSource
  status : ResponseStatus
  sourceWarnings : Option (List String)
  deriving DecidableEq, Repr

instance : Keyed (QuestionRow K) := ⟨QuestionRow.id⟩
instance : Keyed (AnswerRow K) := ⟨AnswerRow.id⟩
instance : Keyed (ResponseRow K) := ⟨ResponseRow.id⟩

/-- What the tables hold of one exam while its scores come in: `roster` is `exam_students`, and `targeted` says
    whether a diagnostic task names its student. -/
structure Intake where
  examId : Nat
  source : ExamSource
  targeted : Bool
  roster : List Student
  questions : Table (QuestionRow K)
  responses : Table (ResponseRow K)
  answers : Table (AnswerRow K)

end

variable {K : Type}

def statusText : ResponseStatus → String
  | .uploaded => "上传"
  | .parsing => "解析中"
  | .pendingReview => "待审核"
  | .submitted => "已提交"

def byQuestionIdx (a b : QuestionRow K) : Bool := decide (a.idx ≤ b.idx)

def byResponseId (a b : ResponseRow K) : Bool := decide (a.id ≤ b.id)

def Intake.orderedQuestions (e : Intake K) : List (QuestionRow K) := stableSort byQuestionIdx e.questions.rows

def Intake.orderedResponses (e : Intake K) : List (ResponseRow K) := stableSort byResponseId e.responses.rows

def Intake.answersOf (e : Intake K) (responseId : Nat) : List (AnswerRow K) :=
  e.answers.select (fun a => a.examResponseId == responseId)

/-- `issue` without a response. -/
def examIssue (code : IssueCode) (severity : Severity) (message : String) (question : Option (QuestionRow K)) :
    PreflightIssue :=
  ⟨code, severity, message, none, none, none, question.map QuestionRow.idx⟩

def aliasOf (roster : List Student) (studentId : Nat) : Option String :=
  (roster.find? (fun s => s.id == studentId)).map Student.nameOrAlias

def responseIssue (roster : List Student) (r : ResponseRow K) (code : IssueCode) (severity : Severity) (message : String)
    (question : Option (QuestionRow K)) : PreflightIssue :=
  ⟨code, severity, message, some r.id, some r.studentId, aliasOf roster r.studentId, question.map QuestionRow.idx⟩

def tagIssues (q : QuestionRow K) : List PreflightIssue :=
  if q.tags.isEmpty then
    [examIssue .untaggedQuestion .warning ("第 " ++ toString q.idx ++ " 题未标知识点，不会进入知识点分析") (some q)]
  else if q.tags.any (fun reviewed => !reviewed) then
    [examIssue .unreviewedTags .warning ("第 " ++ toString q.idx ++ " 题知识点标注尚未审核") (some q)]
  else []

/-- The loop that asks for one answer to every question. -/
def coverage (e : Intake K) (r : ResponseRow K) (q : QuestionRow K) : List PreflightIssue :=
  match (e.answersOf r.id).countP (fun a => a.templateQuestionId == q.id) with
  | 0 => [responseIssue e.roster r .missingAnswer .blocking ("缺少第 " ++ toString q.idx ++ " 题得分；零分也需明确录入") (some q)]
  | 1 => []
  | _ => [responseIssue e.roster r .duplicateAnswer .blocking ("第 " ++ toString q.idx ++ " 题有重复得分") (some q)]

section
variable [Field K] [LinearOrder K] (render : PyFloat K → String)

def questionIssues (q : QuestionRow K) : List PreflightIssue :=
  (if q.fullScore.isFinite = false ∨ q.fullScore.le (.fin 0) = true then
    [examIssue .invalidFullScore .blocking ("第 " ++ toString q.idx ++ " 题满分必须为正数") (some q)] else []) ++ tagIssues q

def scoreInRange (q : QuestionRow K) (a : AnswerRow K) : Bool :=
  a.score.isFinite && (PyFloat.fin 0).le a.score && a.score.le q.fullScore

/-- The loop over the answers on file; `render` is how the language writes a float. -/
def answerCheck (e : Intake K) (r : ResponseRow K) (a : AnswerRow K) : List PreflightIssue :=
  match e.questions.get? a.templateQuestionId with
  | none => [responseIssue e.roster r .foreignQuestion .blocking "作答引用了其他试卷的题目" none]
  | some q =>
    (if scoreInRange q a then []
      else [responseIssue e.roster r .scoreOutOfRange .blocking
        ("第 " ++ toString q.idx ++ " 题得分越界（满分 " ++ render q.fullScore ++ "）") (some q)]) ++
      if a.parseConfidence.lt (.fin (ratio 9 10)) then
        [responseIssue e.roster r .lowConfidence (if a.parseConfidence.lt (.fin (ratio 6 10)) then .blocking else .warning)
          ("第 " ++ toString q.idx ++ " 题得分尚需人工核对，请在审核页确认") (some q)]
      else []

/-- `valid` at the end of that loop. -/
def answerValid (e : Intake K) (a : AnswerRow K) : Bool := (e.questions.get? a.templateQuestionId).any (scoreInRange · a)

def totalOffIn (arith : Arithmetic K) (e : Intake K) (r : ResponseRow K) : Bool :=
  !r.totalScore.isFinite ||
    (arith.fit (ratio 11 1000)).lt (arith.sub r.totalScore (arith.sum ((e.answersOf r.id).map AnswerRow.score))).abs

def totalOff (e : Intake K) (r : ResponseRow K) : Bool := totalOffIn .exact e r

theorem totalOff_eq (e : Intake K) (r : ResponseRow K) : totalOff e r = (!r.totalScore.isFinite ||
    (PyFloat.fin (ratio 11 1000)).lt (r.totalScore.sub (.sum ((e.answersOf r.id).map AnswerRow.score))).abs) := by
  rw [totalOff, totalOffIn, Arithmetic.exact_sum, Arithmetic.exact_sub]
  rfl

/-- `off` tells whether the total is off. -/
def responseCheckBy (off : Intake K → ResponseRow K → Bool) (e : Intake K) (r : ResponseRow K) : List PreflightIssue :=
  (if r.studentId ∈ e.roster.map Student.id then []
    else [responseIssue e.roster r .studentMismatch .blocking "作答学生不属于本场考试的参与范围，请核对学生匹配" none]) ++
    (if 1 < e.responses.rows.countP (fun s => s.studentId == r.studentId) then
      [responseIssue e.roster r .duplicateResponse .blocking "该生有重复作答记录" none] else []) ++
    (if r.status = .pendingReview then []
      else [responseIssue e.roster r .notReady .blocking
        ("作答仍处于「" ++ statusText r.status ++ "」，请等待解析完成或处理失败记录") none]) ++
    (r.sourceWarnings.getD []).map (fun w => responseIssue e.roster r .sourceWarning .warning w none) ++
    e.orderedQuestions.flatMap (coverage e r) ++
    (e.answersOf r.id).flatMap (answerCheck render e r) ++
    if (e.answersOf r.id).all (answerValid e) && off e r then
      [responseIssue e.roster r .totalMismatch .blocking
        "总分与逐题得分之和不一致，请核对并重新确认一道题的得分以重算总分" e.orderedQuestions.head?]
    else []

def responseCheck (e : Intake K) (r : ResponseRow K) : List PreflightIssue := responseCheckBy render totalOff e r

def Intake.pending (e : Intake K) : List (ResponseRow K) :=
  e.orderedResponses.filter (fun r => decide (r.status ≠ .submitted))

def Intake.uncollected (e : Intake K) : Nat :=
  e.roster.countP (fun s => decide (s.id ∉ e.responses.rows.map ResponseRow.studentId))

def preflightIssuesBy (off : Intake K → ResponseRow K → Bool) (e : Intake K) : List PreflightIssue :=
  (if e.source = .diagnosticTask ∧ e.targeted = false then
    [examIssue .missingTaskTarget .blocking "该历史诊断任务缺少目标信息，请重新预览建卷" (none : Option (QuestionRow K))] else []) ++
    (if e.orderedQuestions.isEmpty then
      [examIssue .noQuestions .blocking "试卷尚无题目，请先完善模板" (none : Option (QuestionRow K))] else []) ++
    e.orderedQuestions.flatMap questionIssues ++
    e.pending.flatMap (responseCheckBy render off e) ++
    if e.uncollected = 0 then []
    else [examIssue .uncollected .warning
      ("还有 " ++ toString e.uncollected ++ " 名学生未采集，本次仅提交已录入作答") (none : Option (QuestionRow K))]

def preflightIssues (e : Intake K) : List PreflightIssue := preflightIssuesBy render totalOff e

def examPreflightBy (off : Intake K → ResponseRow K → Bool) (e : Intake K) : PreflightReport :=
  let issues := preflightIssuesBy render off e
  let blocking := issues.countP (fun i => i.severity == .blocking)
  { examId := e.examId
    ready := blocking == 0
    pendingResponses := e.pending.countP (fun r => r.status == .pendingReview)
    blockingCount := blocking
    warningCount := issues.length - blocking
    issues := issues }

def examPreflight (e : Intake K) : PreflightReport := examPreflightBy render totalOff e

/-- The report where sums are those of some arithmetic. -/
def examPreflightIn (arith : Arithmetic K) (e : Intake K) : PreflightReport := examPreflightBy render (totalOffIn arith) e

/-- The report holds this response back. -/
def Blocked (report : PreflightReport) (responseId : Nat) : Prop :=
  ∃ i ∈ report.issues, i.severity = .blocking ∧ i.responseId = some responseId

instance decidableBlocked (report : PreflightReport) (responseId : Nat) : Decidable (Blocked report responseId) :=
  inferInstanceAs (Decidable (∃ i ∈ report.issues, i.severity = .blocking ∧ i.responseId = some responseId))

omit [Field K] [LinearOrder K] in
theorem mem_pending {e : Intake K} {r : ResponseRow K} :
    r ∈ e.pending ↔ r ∈ e.responses.rows ∧ r.status ≠ .submitted := by
  rw [Intake.pending, List.mem_filter, Intake.orderedResponses, mem_stableSort]
  simp

omit [Field K] [LinearOrder K] in
theorem mem_orderedQuestions {e : Intake K} {q : QuestionRow K} : q ∈ e.orderedQuestions ↔ q ∈ e.questions.rows := by
  rw [Intake.orderedQuestions, mem_stableSort]

omit [Field K] [LinearOrder K] in
theorem mem_answersOf {e : Intake K} {responseId : Nat} {b : AnswerRow K} :
    b ∈ e.answersOf responseId ↔ b ∈ e.answers.rows ∧ b.examResponseId = responseId := by
  rw [Intake.answersOf, Table.select, List.mem_filter, beq_iff_eq]

omit [Field K] [LinearOrder K] in
theorem coverage_responseId {e : Intake K} {r : ResponseRow K} {q : QuestionRow K} {i : PreflightIssue}
    (raised : i ∈ coverage e r q) : i.responseId = some r.id := by
  unfold coverage at raised
  split at raised
  · rw [List.mem_singleton.mp raised]
    rfl
  · cases raised
  · rw [List.mem_singleton.mp raised]
    rfl

theorem answerCheck_responseId {e : Intake K} {r : ResponseRow K} {a : AnswerRow K} {i : PreflightIssue}
    (raised : i ∈ answerCheck render e r a) : i.responseId = some r.id := by
  unfold answerCheck at raised
  split at raised
  · rw [List.mem_singleton.mp raised]
    rfl
  · simp only [List.mem_append, List.mem_ite_nil_left, List.mem_ite_nil_right, List.mem_singleton] at raised
    rcases raised with ⟨_, rfl⟩ | ⟨_, rfl⟩
    · rfl
    · rfl

/-- Everything the check of a response raises names that response. -/
theorem responseCheck_responseId {e : Intake K} {r : ResponseRow K} {i : PreflightIssue}
    (raised : i ∈ responseCheck render e r) : i.responseId = some r.id := by
  simp only [responseCheck, responseCheckBy, List.mem_append, List.mem_ite_nil_left, List.mem_ite_nil_right, List.mem_singleton,
    List.mem_map, List.mem_flatMap] at raised
  rcases raised with (((((⟨_, rfl⟩ | ⟨_, rfl⟩) | ⟨_, rfl⟩) | ⟨_, _, rfl⟩) | ⟨_, _, covered⟩) | ⟨_, _, answer⟩) | ⟨_, rfl⟩
  · rfl
  · rfl
  · rfl
  · rfl
  · exact coverage_responseId covered
  · exact answerCheck_responseId render answer
  · rfl

theorem questionIssues_responseId {q : QuestionRow K} {i : PreflightIssue} (raised : i ∈ questionIssues q) :
    i.responseId = none := by
  unfold questionIssues tagIssues at raised
  rcases List.mem_append.mp raised with full | tags
  · rw [List.mem_ite_nil_right, List.mem_singleton] at full
    rw [full.2]
    rfl
  · split at tags
    · rw [List.mem_singleton.mp tags]
      rfl
    · rw [List.mem_ite_nil_right, List.mem_singleton] at tags
      rw [tags.2]
      rfl

/-- A response is held back by what its own check raises, and by nothing else. -/
theorem blocked_iff {e : Intake K} {r : ResponseRow K} (stored : r ∈ e.responses.rows) :
    Blocked (examPreflight render e) r.id ↔
      r.status ≠ .submitted ∧ ∃ i ∈ responseCheck render e r, i.severity = .blocking := by
  constructor
  · intro blocked
    obtain ⟨i, raised, severity, names⟩ := blocked
    simp only [examPreflight, examPreflightBy, preflightIssuesBy, List.mem_append, List.mem_ite_nil_left, List.mem_ite_nil_right,
      List.mem_singleton, List.mem_flatMap] at raised
    rcases raised with (((⟨_, rfl⟩ | ⟨_, rfl⟩) | ⟨_, _, question⟩) | ⟨other, waits, here⟩) | ⟨_, rfl⟩
    · cases names
    · cases names
    · rw [questionIssues_responseId question] at names
      cases names
    · obtain ⟨listed, open_⟩ := mem_pending.mp waits
      rw [responseCheck_responseId render here, Option.some.injEq] at names
      have same : other = r := e.responses.key_inj listed stored names
      rw [same] at here open_
      exact ⟨open_, i, here, severity⟩
    · cases names
  · intro raised
    obtain ⟨open_, i, here, severity⟩ := raised
    refine ⟨i, ?_, severity, responseCheck_responseId render here⟩
    simp only [examPreflight, examPreflightBy, preflightIssuesBy, List.mem_append]
    exact Or.inl (Or.inr (List.mem_flatMap.mpr ⟨r, mem_pending.mpr ⟨stored, open_⟩, here⟩))

/-- An answer that holds nothing back. -/
def Checked (e : Intake K) (a : AnswerRow K) : Prop :=
  (e.questions.get? a.templateQuestionId).any (scoreInRange · a) = true ∧ a.parseConfidence.lt (.fin (ratio 6 10)) = false

/-- What a response needs to pass. -/
structure Clear (e : Intake K) (r : ResponseRow K) : Prop where
  member : r.studentId ∈ e.roster.map Student.id
  single : e.responses.rows.countP (fun s => s.studentId == r.studentId) ≤ 1
  awaiting : r.status = .pendingReview
  covered : ∀ q ∈ e.questions.rows, (e.answersOf r.id).countP (fun a => a.templateQuestionId == q.id) = 1
  answers : ∀ a ∈ e.answersOf r.id, Checked e a
  total : totalOff e r = false

omit [Field K] [LinearOrder K] in
theorem coverage_quiet {e : Intake K} {r : ResponseRow K} {q : QuestionRow K} :
    (∀ i ∈ coverage e r q, i.severity ≠ .blocking) ↔
      (e.answersOf r.id).countP (fun a => a.templateQuestionId == q.id) = 1 := by
  unfold coverage
  split
  · rename_i none
    simp [responseIssue, none]
  · rename_i one
    simp [one]
  · rename_i zero one
    simpa [responseIssue] using one

theorem answerCheck_quiet [IsStrictOrderedRing K] {e : Intake K} {r : ResponseRow K} {a : AnswerRow K} :
    (∀ i ∈ answerCheck render e r a, i.severity ≠ .blocking) ↔ Checked e a := by
  have narrow : (ratio 6 10 : K) ≤ ratio 9 10 := by
    unfold ratio
    norm_num
  unfold answerCheck Checked
  cases found : e.questions.get? a.templateQuestionId with
  | none => simp [responseIssue]
  | some q =>
    have lower : a.parseConfidence.lt (.fin (ratio 6 10)) = true → a.parseConfidence.lt (.fin (ratio 9 10)) = true := by
      cases a.parseConfidence with
      | fin x => simpa using fun low => lt_of_lt_of_le low narrow
      | nan | posInf => simp [PyFloat.lt]
      | negInf => simp [PyFloat.lt]
    cases range : scoreInRange q a with
    | false => simp [range, responseIssue]
    | true =>
      cases low : a.parseConfidence.lt (.fin (ratio 6 10)) with
      | true => simp [range, responseIssue, lower low]
      | false => simp [range, responseIssue]

/-- Nothing in the check of a response blocks exactly when the response is clear. -/
theorem clear_iff [IsStrictOrderedRing K] {e : Intake K} {r : ResponseRow K} :
    (∀ i ∈ responseCheck render e r, i.severity ≠ .blocking) ↔ Clear e r := by
  have sourced : ∀ i ∈ (r.sourceWarnings.getD []).map (fun w => responseIssue e.roster r .sourceWarning .warning w none),
      i.severity ≠ .blocking := by
    intro i raised
    obtain ⟨w, _, rfl⟩ := List.mem_map.mp raised
    simp [responseIssue]
  unfold responseCheck responseCheckBy
  simp only [List.forall_mem_append, List.forall_mem_flatMap]
  constructor
  · intro quiet
    obtain ⟨⟨⟨⟨⟨⟨member, single⟩, awaiting⟩, _⟩, covered⟩, answers⟩, total⟩ := quiet
    have checked : ∀ a ∈ e.answersOf r.id, Checked e a := fun a stored => (answerCheck_quiet render).mp (answers a stored)
    refine ⟨?_, ?_, ?_, ?_, checked, ?_⟩
    · by_contra outside
      simp [outside, responseIssue] at member
    · by_contra several
      simp [not_le.mp several, responseIssue] at single
    · by_contra other
      simp [other, responseIssue] at awaiting
    · intro q stored
      exact coverage_quiet.mp (covered q (mem_orderedQuestions.mpr stored))
    · by_contra off
      have valid : (e.answersOf r.id).all (answerValid e) = true := by
        rw [List.all_eq_true]
        exact fun a stored => (checked a stored).1
      simp [valid, Bool.eq_true_of_not_eq_false off, responseIssue] at total
  · intro clear
    refine ⟨⟨⟨⟨⟨⟨?_, ?_⟩, ?_⟩, sourced⟩, ?_⟩, ?_⟩, ?_⟩
    · simp [clear.member]
    · simp [not_lt.mpr clear.single]
    · simp [clear.awaiting]
    · intro q stored
      exact coverage_quiet.mpr (clear.covered q (mem_orderedQuestions.mp stored))
    · intro a stored
      exact (answerCheck_quiet render).mpr (clear.answers a stored)
    · simp [clear.total]

/-- An open response is held back exactly as long as it is not clear. -/
theorem blocked_iff_not_clear [IsStrictOrderedRing K] {e : Intake K} {r : ResponseRow K} (stored : r ∈ e.responses.rows)
    (open_ : r.status ≠ .submitted) : Blocked (examPreflight render e) r.id ↔ ¬ Clear e r := by
  rw [blocked_iff render stored, ← clear_iff render]
  push Not
  exact ⟨fun blocked => blocked.2, fun raised => ⟨open_, raised⟩⟩

/-- What an exam needs to be committed. -/
structure Ready (e : Intake K) : Prop where
  targeted : e.source = .diagnosticTask → e.targeted = true
  asked : e.questions.rows ≠ []
  worth : ∀ q ∈ e.questions.rows, q.fullScore.isFinite = true ∧ q.fullScore.le (.fin 0) = false
  clear : ∀ r ∈ e.responses.rows, r.status ≠ .submitted → Clear e r

theorem questionIssues_quiet {q : QuestionRow K} :
    (∀ i ∈ questionIssues q, i.severity ≠ .blocking) ↔ q.fullScore.isFinite = true ∧ q.fullScore.le (.fin 0) = false := by
  have tags : ∀ i ∈ tagIssues q, i.severity ≠ .blocking := by
    intro i raised
    unfold tagIssues at raised
    split at raised
    · rw [List.mem_singleton.mp raised]
      simp [examIssue]
    · rw [List.mem_ite_nil_right, List.mem_singleton] at raised
      rw [raised.2]
      simp [examIssue]
  unfold questionIssues
  rw [List.forall_mem_append]
  cases finite : q.fullScore.isFinite with
  | false => simp [examIssue]
  | true =>
    cases low : q.fullScore.le (.fin 0) with
    | true => simp [examIssue]
    | false => simpa using tags

/-- The report says ready exactly when nothing of the exam is in the way. -/
theorem ready_iff [IsStrictOrderedRing K] {e : Intake K} : (examPreflight render e).ready = true ↔ Ready e := by
  have quiet : (examPreflight render e).ready = true ↔ ∀ i ∈ preflightIssues render e, i.severity ≠ .blocking := by
    simp [examPreflight, examPreflightBy, preflightIssues, List.countP_eq_zero]
  have empty : e.orderedQuestions.isEmpty = true ↔ e.questions.rows = [] := by
    rw [List.isEmpty_iff, List.eq_nil_iff_forall_not_mem, List.eq_nil_iff_forall_not_mem]
    simp only [mem_orderedQuestions]
  have collected : ∀ i ∈ (if e.uncollected = 0 then []
      else [examIssue .uncollected .warning
        ("还有 " ++ toString e.uncollected ++ " 名学生未采集，本次仅提交已录入作答") (none : Option (QuestionRow K))]),
      i.severity ≠ .blocking := by
    intro i raised
    rw [List.mem_ite_nil_left, List.mem_singleton] at raised
    rw [raised.2]
    simp [examIssue]
  rw [quiet]
  unfold preflightIssues preflightIssuesBy
  simp only [List.forall_mem_append, List.forall_mem_flatMap]
  constructor
  · intro silent
    obtain ⟨⟨⟨⟨target, some⟩, worth⟩, clear⟩, _⟩ := silent
    refine ⟨?_, ?_, ?_, ?_⟩
    · intro task
      by_contra lost
      simp [task, Bool.eq_false_of_not_eq_true lost, examIssue] at target
    · intro none
      simp [empty.mpr none, examIssue] at some
    · intro q stored
      exact questionIssues_quiet.mp (worth q (mem_orderedQuestions.mpr stored))
    · intro r stored open_
      exact (clear_iff render).mp (clear r (mem_pending.mpr ⟨stored, open_⟩))
  · intro ready
    refine ⟨⟨⟨⟨?_, ?_⟩, ?_⟩, ?_⟩, collected⟩
    · intro i raised
      rw [List.mem_ite_nil_right] at raised
      have lost := raised.1.2
      rw [ready.targeted raised.1.1] at lost
      cases lost
    · intro i raised
      rw [List.mem_ite_nil_right] at raised
      exact absurd (empty.mp raised.1) ready.asked
    · intro q stored
      exact questionIssues_quiet.mpr (ready.worth q (mem_orderedQuestions.mp stored))
    · intro r waits
      obtain ⟨stored, open_⟩ := mem_pending.mp waits
      exact (clear_iff render).mpr (ready.clear r stored open_)

end

end KnowledgeGap.Ingestion
