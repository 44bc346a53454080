import KnowledgeGap.Jobs.Queue
import KnowledgeGap.Data.Schema

namespace KnowledgeGap.Jobs

open Relational

inductive JobPayload
  | examReports (examId : Nat) (teacherId : Option Nat)
  | photoTemplate (objectKey : String) (kbId classId : Nat) (name examDate type : String)
  | photoResponse (objectKey : String) (examId studentId : Nat)
  deriving DecidableEq, Repr

def examReportsKey (examId : Nat) : String := "exam_reports:" ++ Nat.repr examId

section
variable {K R : Type}

def enqueueExamReports (now : DateTime) (examId : Nat) (teacherId : Option Nat)
    (jobs : Table (AsyncJob JobPayload R)) :
    Option (Table (AsyncJob JobPayload R) × AsyncJob JobPayload R) :=
  enqueue now "exam_reports" (.examReports examId teacherId) (some (examReportsKey examId)) 3 jobs

def awaiting (examId : Nat) (r : ExamResponse K) : Bool :=
  r.examTemplateId == examId && (r.status == .pendingReview || r.status == .parsing)

def submittedStudents (examId : Nat) (responses : Table (ExamResponse K)) : List Nat :=
  (responses.select (fun r => r.examTemplateId == examId && r.status == .submitted)).map ExamResponse.studentId

def commitExam (examId : Nat) (responses : Table (ExamResponse K)) : Table (ExamResponse K) :=
  responses.updateWhere (awaiting examId) (fun r => { r with status := .submitted }) (fun _ => rfl)

def gather (responses : Table (ExamResponse K)) : JobPayload → List Nat
  | .examReports examId _ => submittedStudents examId responses
  | .photoTemplate .. | .photoResponse .. => []

end

inductive Handler
  | started (payload : JobPayload)
  | gathered (seen : List Nat)
  | ended
  deriving DecidableEq, Repr

/-- An answer with `reports_queued`: the students newly committed and the row `enqueue` answered with. -/
structure Answer (R : Type) where
  examId : Nat
  committed : List Nat
  job : AsyncJob JobPayload R

/-- The queue, whose domain writes are the students each report run has read, with the responses of
    every exam, the handlers of the threads and the answers given so far. -/
structure Desk (K R : Type) where
  queue : World JobPayload R (List Nat)
  responses : Table (ExamResponse K)
  handlers : Nat → Handler
  answers : List (Answer R)

def Desk.start {K R : Type} (now : DateTime) : Desk K R :=
  ⟨World.start now, Table.empty, fun _ => .ended, []⟩

inductive DeskAction (K R : Type)
  | importResponse (examId studentId : Nat) (totalScore : K)
  | commit (examId : Nat) (teacherId : Option Nat)
  | gather (thread : Nat)
  | work (action : Action JobPayload R (List Nat))

section
variable {K R : Type}

/-- What the code around the queue allows: only the commit endpoint asks for reports, a handler
    publishes what it has read, and it returns only past its `_commit_result`. -/
def Desk.permits (d : Desk K R) : Action JobPayload R (List Nat) → Bool
  | .enqueue kind _ _ _ => kind != "exam_reports"
  | .commitResult i _ seen => d.handlers i == .gathered seen
  | .return i _ => d.handlers i == .ended
  | _ => true

def Desk.advance (d : Desk K R) : Action JobPayload R (List Nat) → Nat → Handler
  | .swap i =>
    match d.queue.threads i with
    | .selected _ k =>
      match d.queue.jobs.get? k.job with
      | some r => Function.update d.handlers i (.started r.payload)
      | none => d.handlers
    | _ => d.handlers
  | .commitResult i _ _ => Function.update d.handlers i .ended
  | _ => d.handlers

def Desk.work [Inhabited R] (worker : Nat → String) (d : Desk K R) (a : Action JobPayload R (List Nat)) :
    Desk K R :=
  { d with queue := step worker d.queue a, handlers := d.advance a }

def Desk.commit (d : Desk K R) (examId : Nat) (teacherId : Option Nat) : Desk K R :=
  let committed := (d.responses.select (awaiting examId)).map ExamResponse.studentId
  if committed.isEmpty then d
  else
    match enqueueExamReports d.queue.now examId teacherId d.queue.jobs with
    | some (jobs, job) =>
      { d with queue := { d.queue with jobs }, responses := commitExam examId d.responses,
               answers := d.answers ++ [⟨examId, committed, job⟩] }
    | none => d

/-- One atomic step of the imports, the commit endpoint or a worker. A second response of the same
    student to the same exam is refused. -/
def Desk.step [Inhabited R] (worker : Nat → String) (d : Desk K R) : DeskAction K R → Desk K R
  | .importResponse examId studentId totalScore =>
    if d.responses.rows.any (fun r => r.examTemplateId == examId && r.studentId == studentId) then d
    else
      { d with
        responses := d.responses.insert
          (fun id => { id, examTemplateId := examId, studentId, totalScore, status := .pendingReview })
          (fun _ => rfl) }
  | .commit examId teacherId => d.commit examId teacherId
  | .gather i =>
    match d.queue.threads i, d.handlers i with
    | .running _, .started payload =>
      { d with handlers := Function.update d.handlers i (.gathered (Jobs.gather d.responses payload)) }
    | _, _ => d
  | .work a => if d.permits a then d.work worker a else d

/-- No report job of the exam has left the queue when a commit request asks for one. -/
def Timely (d : Desk K R) : DeskAction K R → Prop
  | .commit examId _ => d.responses.select (awaiting examId) = [] ∨
      ∀ r ∈ d.queue.jobs.rows, r.kind = "exam_reports" → r.idempotencyKey = some (examReportsKey examId) →
        r.status = .queued
  | _ => True

instance (d : Desk K R) : DecidablePred (Timely d)
  | .commit examId _ =>
    decidable_of_iff ((d.responses.select (awaiting examId)).isEmpty = true ∨
      ∀ r ∈ d.queue.jobs.rows, r.kind = "exam_reports" → r.idempotencyKey = some (examReportsKey examId) →
        r.status = .queued) (by simp [Timely])
  | .importResponse .. => inferInstanceAs (Decidable True)
  | .gather _ => inferInstanceAs (Decidable True)
  | .work _ => inferInstanceAs (Decidable True)

def DeskAction.isWork : DeskAction K R → Bool
  | .gather _ | .work _ => true
  | .importResponse .. | .commit .. => false

end

end KnowledgeGap.Jobs
