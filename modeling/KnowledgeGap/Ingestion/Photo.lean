import KnowledgeGap.Data.Config
import KnowledgeGap.Data.Schema
import KnowledgeGap.Relational.Dict
import KnowledgeGap.Relational.StableSort
import KnowledgeGap.Relational.Upsert
import Mathlib.Data.List.Infix

namespace KnowledgeGap.Ingestion

open Relational

variable {K : Type}

def diagnosticTask (db : Db K) (exam : ExamTemplate) : Option DiagnosticTask :=
  (db.diagnosticTasks.select (fun t => t.examId == exam.id)).head?

def byStudentId (a b : Student) : Bool := decide (a.id ≤ b.id)

def examStudents (db : Db K) (exam : ExamTemplate) : List Student :=
  match diagnosticTask db exam with
  | some task =>
    stableSort byStudentId (db.students.select (fun s => s.classId == exam.classId && s.id == task.studentId))
  | none =>
    if exam.source = .diagnosticTask then []
    else stableSort byStudentId (db.students.select (fun s => s.classId == exam.classId))

inductive ScopeError
  | notInClass
  | otherStudent
  | targetMissing
  deriving DecidableEq, Repr

def assertExamStudent (db : Db K) (exam : ExamTemplate) (studentId : Nat) : Except ScopeError Unit :=
  match db.students.get? studentId with
  | none => .error .notInClass
  | some student =>
    if student.classId ≠ exam.classId then .error .notInClass
    else
      match diagnosticTask db exam with
      | some task => if task.studentId ≠ studentId then .error .otherStudent else .ok ()
      | none => if exam.source = .diagnosticTask then .error .targetMissing else .ok ()

/-- One answer the model read off a sheet. `score` is `none` where `float` refuses what it read. -/
structure PayloadAnswer (K : Type) where
  idx : Option Int
  score : Option K
  chosenOption : Option String
  deriving DecidableEq, Repr

/-- The document of one sheet; an entry of `answers` that is no object is `none`. -/
structure Payload (K : Type) where
  studentName : Option String
  answers : List (Option (PayloadAnswer K))
  deriving DecidableEq, Repr

/-- The remarks a teacher finds on an item, a constructor for each text. -/
inductive Warning (K : Type)
  | notReturned (idx : Int)
  | illegalScore (idx : Int)
  | clippedScore (idx : Int) (score full : K)
  | noOption (idx : Int)
  | emptyName
  | containedName
  | ambiguousName
  | unknownName
  | duplicateUpload
  | templateMissing
  | fileLost
  | timedOut
  | crashed (error : String)
  | callFailed (error : String)
  | interrupted
  | restarted
  deriving DecidableEq, Repr

inductive PersistError
  | scope (error : ScopeError)
  | integrity
  deriving DecidableEq, Repr

def byIdx (a b : TemplateQuestion K) : Bool := decide (a.idx ≤ b.idx)

def answerRow (responseId : Nat) (entry : Nat × K) (id : Nat) : ResponseAnswer K :=
  ⟨id, responseId, entry.1, entry.2, false⟩

theorem key_answerRow (responseId : Nat) (entry : Nat × K) (id : Nat) :
    Keyed.key (answerRow responseId entry id) = id := rfl

def responseRow (examTemplateId studentId : Nat) (totalScore : K) (id : Nat) : ExamResponse K :=
  ⟨id, examTemplateId, studentId, totalScore, .pendingReview⟩

theorem key_responseRow (examTemplateId studentId : Nat) (totalScore : K) (id : Nat) :
    Keyed.key (responseRow examTemplateId studentId totalScore id) = id := rfl

/-- `uq_tpl_student`: the student has a response in this exam. -/
def answered (db : Db K) (examTemplateId studentId : Nat) : Option (ExamResponse K) :=
  db.responses.rows.find? (fun r => r.examTemplateId == examTemplateId && r.studentId == studentId)

section
variable [Field K] [LinearOrder K]

def clampScore (raw : Option K) (full : K) (idx : Int) : K × List (Warning K) :=
  match raw with
  | none => (0, [.illegalScore idx])
  | some score =>
    if score < 0 ∨ full < score then (max 0 (min full score), [.clippedScore idx score full])
    else (score, [])

def answerScore (answers : Dict (Option Int) (PayloadAnswer K)) (q : TemplateQuestion K) : K × List (Warning K) :=
  match answers.get? (some q.idx) with
  | none => (0, [.notReturned q.idx])
  | some a =>
    let clamped := clampScore a.score q.fullScore q.idx
    let chosen := (a.chosenOption.getD "").isEmpty
    (clamped.1, clamped.2 ++ if q.qType = .choice ∧ chosen = true then [.noOption q.idx] else [])

/-- The new response's key and the remarks on its scores, or what stopped the write. -/
def persistResponseFromPayload [FloorRing K] (db : Db K) (template : ExamTemplate) (studentId : Nat)
    (payload : Payload K) : Except PersistError (Db K × Nat × List (Warning K)) :=
  match assertExamStudent db template studentId with
  | .error e => .error (.scope e)
  | .ok _ =>
    if (answered db template.id studentId).isSome then .error .integrity
    else
      let questions := stableSort byIdx (db.questions.select (fun q => q.examTemplateId == template.id))
      let answers := Dict.ofList ((payload.answers.filterMap id).map (fun a => (a.idx, a)))
      let scored := questions.map (fun q => (q.id, answerScore answers q))
      let totalScore := roundTo 2 (pySum (scored.map (fun e => e.2.1)))
      .ok ({ db with
          responses := db.responses.insert (responseRow template.id studentId totalScore) (key_responseRow _ _ _)
          answers := db.answers.insertAll (answerRow db.responses.nextId) (key_answerRow _)
            (scored.map (fun e => (e.1, e.2.1))) },
        db.responses.nextId, scored.flatMap (fun e => e.2.2))

/-- The response a persisted payload leaves behind. -/
structure Created (db after : Db K) (examTemplateId studentId responseId : Nat) : Prop where
  key : responseId = db.responses.nextId
  rows : ∃ totalScore, after.responses.rows = db.responses.rows ++ [responseRow examTemplateId studentId totalScore responseId]

theorem persistResponseFromPayload_ok [FloorRing K] {db after : Db K} {template : ExamTemplate} {studentId responseId : Nat}
    {payload : Payload K} {remarks : List (Warning K)}
    (done : persistResponseFromPayload db template studentId payload = .ok (after, responseId, remarks)) :
    Created db after template.id studentId responseId := by
  unfold persistResponseFromPayload at done
  split at done
  · cases done
  · split at done
    · cases done
    · cases done
      exact ⟨rfl, _, rfl⟩

end

/-- What name matching reads beside the roster: Unicode lower-casing and `student.external_code`. -/
structure Roster where
  lower : String → String
  externalCode : Nat → Option String

/-- The characters `\s` matches. -/
def isSpace (c : Char) : Bool :=
  let n := c.toNat
  decide (9 ≤ n ∧ n ≤ 13) || decide (28 ≤ n ∧ n ≤ 32) || decide (n ∈ [133, 160, 5760]) ||
    decide (8192 ≤ n ∧ n ≤ 8202) || decide (n ∈ [8232, 8233, 8239, 8287, 12288])

def strip (text : String) : String :=
  String.ofList ((text.toList.dropWhile isSpace).reverse.dropWhile isSpace).reverse

def normalizeName (roster : Roster) (name : String) : String :=
  roster.lower (String.ofList (name.toList.filter (fun c => !(isSpace c || c == '·' || c == '.' || c == '・'))))

def namesExactly (roster : Roster) (dn : String) (stu : Student) : Bool :=
  dn == normalizeName roster stu.nameOrAlias ||
    (roster.externalCode stu.id).any (fun code => !code.isEmpty && dn == normalizeName roster code)

def namesPartly (roster : Roster) (dn : String) (stu : Student) : Bool :=
  let alias_ := normalizeName roster stu.nameOrAlias
  decide (2 ≤ alias_.length) && decide (2 ≤ dn.length) &&
    (decide (dn.toList <:+: alias_.toList) || decide (alias_.toList <:+: dn.toList))

def matchStudent [Field K] (roster : Roster) (students : List Student) (detectedName : Option String) :
    Option (Nat × K) × List (Warning K) :=
  let dn := normalizeName roster (detectedName.getD "")
  if dn.isEmpty then (none, [.emptyName])
  else
    match students.find? (namesExactly roster dn) with
    | some stu => (some (stu.id, 1), [])
    | none =>
      match students.filter (namesPartly roster dn) with
      | [stu] => (some (stu.id, ratio 8 10), [.containedName])
      | [] => (none, [.unknownName])
      | _ => (none, [.ambiguousName])

end KnowledgeGap.Ingestion
