import KnowledgeGap.Ingestion.Photo
import KnowledgeGap.Protocol.Runs

namespace KnowledgeGap.Ingestion

open Relational Protocol

/-- `BATCH_STALE_MINUTES` at its default. -/
def batchStale : Int := seconds 240

inductive ItemStatus
  | queued
  | parsing
  | matched
  | unmatched
  | failed
  | duplicate
  | discarded
  deriving DecidableEq, Repr

def ItemStatus.terminal : ItemStatus → Bool
  | .queued | .parsing => false
  | .matched | .unmatched | .failed | .duplicate | .discarded => true

/-- `_TEMPFILE_DELETE_STATES` -/
def ItemStatus.dropsFile : ItemStatus → Bool
  | .matched | .unmatched | .duplicate | .discarded => true
  | .queued | .parsing | .failed => false

structure ParseBatchItem (K : Type) where
  id : Nat
  parseJobId : Nat
  examTemplateId : Nat
  filePath : Option String
  detectedName : Option String
  matchedStudentId : Option Nat
  matchConfidence : Option K
  status : ItemStatus
  responseId : Option Nat
  warnings : List (Warning K)
  payload : Option (Payload K)
  startedAt : Option DateTime
  deriving DecidableEq, Repr

inductive ParseJobStatus
  | running
  | done
  deriving DecidableEq, Repr

structure ParseJob where
  id : Nat
  status : ParseJobStatus
  deriving DecidableEq, Repr

variable {K : Type}

instance : Keyed (ParseBatchItem K) := ⟨ParseBatchItem.id⟩
instance : Keyed ParseJob := ⟨ParseJob.id⟩

/-- What a worker carries from its first session to its last. -/
structure Attempt where
  no : Nat
  itemId : Nat
  examTemplateId : Nat
  jobId : Nat
  deriving DecidableEq, Repr

/-- The tables, the workers between their sessions, and, for the observer only, which attempt last took an
    item up. -/
structure State (K : Type) where
  db : Db K
  jobs : Table ParseJob
  items : Table (ParseBatchItem K)
  inFlight : List Attempt
  started : Nat
  lastStart : Nat → Option Nat

def State.attempt (s : State K) (no : Nat) : Option Attempt := s.inFlight.find? (fun a => a.no == no)

def State.leave (s : State K) (no : Nat) : List Attempt := s.inFlight.filter (fun a => a.no != no)

/-- One session, or one request. The outside decides what the model answers, whether a file can still be
    read, and when the clock is looked at. -/
inductive Event (K : Type)
  | upload (examTemplateId : Nat) (paths : List String)
  | start (itemId : Nat) (now : DateTime)
  | complete (attempt : Nat) (payload : Option (Payload K)) (warnings : List (Warning K))
  | lost (attempt : Nat)
  | crash (attempt : Nat) (error : String)
  | watchdog (now : DateTime)
  | retry (itemId : Nat) (fileExists : Bool)
  | discard (itemId : Nat)
  | assign (itemId studentId : Nat)

def ParseJob.withStatus (status : ParseJobStatus) (j : ParseJob) : ParseJob := { j with status := status }

theorem key_withStatus (status : ParseJobStatus) (j : ParseJob) : Keyed.key (j.withStatus status) = Keyed.key j := rfl

def runningJob (id : Nat) : ParseJob := ⟨id, .running⟩

theorem key_runningJob (id : Nat) : Keyed.key (runningJob id) = id := rfl

def setJobRunning (jobs : Table ParseJob) (jobId : Nat) : Table ParseJob :=
  jobs.modify jobId (ParseJob.withStatus .running) (key_withStatus _)

def finalizeJob (items : Table (ParseBatchItem K)) (jobs : Table ParseJob) (jobId : Nat) : Table ParseJob :=
  let ofJob := items.select (fun it => it.parseJobId == jobId)
  if !ofJob.isEmpty && ofJob.all (fun it => it.status.terminal) then
    jobs.modify jobId (ParseJob.withStatus .done) (key_withStatus _)
  else jobs

/-- The row as a session leaves it. -/
def ParseBatchItem.write (new r : ParseBatchItem K) : ParseBatchItem K := { new with id := r.id }

theorem key_write (new r : ParseBatchItem K) : Keyed.key (new.write r) = Keyed.key r := rfl

def rewrite (items : Table (ParseBatchItem K)) (new : ParseBatchItem K) : Table (ParseBatchItem K) :=
  items.modify new.id new.write (key_write new)

def freshItem (examTemplateId jobId : Nat) (path : String) (id : Nat) : ParseBatchItem K where
  id := id
  parseJobId := jobId
  examTemplateId := examTemplateId
  filePath := some path
  detectedName := none
  matchedStudentId := none
  matchConfidence := none
  status := .queued
  responseId := none
  warnings := []
  payload := none
  startedAt := none

theorem key_freshItem (examTemplateId jobId : Nat) (path : String) (id : Nat) :
    Keyed.key (freshItem (K := K) examTemplateId jobId path id) = id := rfl

def upload (s : State K) (examTemplateId : Nat) (paths : List String) : State K :=
  { s with
    jobs := s.jobs.insert runningJob key_runningJob
    items := s.items.insertAll (freshItem examTemplateId s.jobs.nextId) (key_freshItem _ _) paths }

/-- The first session of `_process_async_impl`. -/
def start (s : State K) (itemId : Nat) (now : DateTime) : State K :=
  match s.items.get? itemId with
  | none => s
  | some item =>
    if item.status ≠ .queued then s
    else
      { s with
        items := rewrite s.items { item with status := .parsing, startedAt := some now }
        jobs := setJobRunning s.jobs item.parseJobId
        inFlight := s.inFlight ++ [⟨s.started, itemId, item.examTemplateId, item.parseJobId⟩]
        started := s.started + 1
        lastStart := Function.update s.lastStart itemId (some s.started) }

def markFailed (warning : Warning K) (item : ParseBatchItem K) : ParseBatchItem K :=
  { item with status := .failed, detectedName := none, warnings := item.warnings ++ [warning] }

/-- The session that finds the file gone. -/
def lost (s : State K) (no : Nat) : State K :=
  match s.attempt no with
  | none => s
  | some a =>
    let items :=
      match s.items.get? a.itemId with
      | none => s.items
      | some item => rewrite s.items (markFailed .fileLost item)
    { s with items := items, jobs := finalizeJob items s.jobs a.jobId, inFlight := s.leave no }

/-- The last resort of `_process_async`. -/
def crash (s : State K) (no : Nat) (error : String) : State K :=
  match s.attempt no with
  | none => s
  | some a =>
    match s.items.get? a.itemId with
    | none => { s with inFlight := s.leave no }
    | some item =>
      let items := if item.status.terminal then s.items else rewrite s.items (markFailed (.crashed error) item)
      { s with items := items, jobs := finalizeJob items s.jobs item.parseJobId, inFlight := s.leave no }

def timedOut (now : DateTime) (it : ParseBatchItem K) : Bool :=
  it.status == .parsing && it.startedAt.any (fun t => decide (t < now - batchStale))

def expire (it : ParseBatchItem K) : ParseBatchItem K :=
  { it with status := .failed, warnings := it.warnings ++ [.timedOut] }

theorem key_expire (it : ParseBatchItem K) : Keyed.key (expire it) = Keyed.key it := rfl

def reconcileStaleRuntime (s : State K) (now : DateTime) : State K :=
  let items := s.items.updateWhere (timedOut now) expire key_expire
  { s with
    items := items
    jobs := ((s.items.select (timedOut now)).map ParseBatchItem.parseJobId).dedup.foldl (finalizeJob items) s.jobs }

def retryItem (s : State K) (itemId : Nat) (fileExists : Bool) : State K :=
  match s.items.get? itemId with
  | none => s
  | some item =>
    if item.status ≠ .failed then s
    else if (item.filePath.getD "").isEmpty ∨ fileExists = false then s
    else { s with items := rewrite s.items { item with status := .queued, warnings := [], detectedName := none } }

def discardItem (s : State K) (itemId : Nat) : State K :=
  match s.items.get? itemId with
  | none => s
  | some item =>
    if item.status ≠ .unmatched ∧ item.status ≠ .failed then s
    else { s with items := rewrite s.items { item with status := .discarded, detectedName := none, filePath := none } }

section
variable [Field K] [LinearOrder K] [FloorRing K] (roster : Roster)

/-- `_persist_batch_result` on the item it reads: the tables and the row it leaves, or the error that
    escapes it. -/
def persistBatchResult (db : Db K) (item : ParseBatchItem K) (examTemplateId : Nat) (payload : Option (Payload K))
    (warnings : List (Warning K)) : Except PersistError (Db K × ParseBatchItem K) :=
  match payload with
  | none =>
    .ok (db, { item with status := .failed, detectedName := none, payload := none, warnings := warnings })
  | some payload =>
    let name := strip (payload.studentName.getD "")
    let detectedName := if name.isEmpty then none else some name
    match db.templates.get? examTemplateId with
    | none =>
      .ok (db, { item with status := .failed, detectedName := none, payload := none,
                           warnings := warnings ++ [.templateMissing] })
    | some template =>
      let (student, matchWarnings) := matchStudent roster (examStudents db template) detectedName
      let base := warnings ++ matchWarnings
      match student with
      | none =>
        .ok (db, { item with status := .unmatched, detectedName := detectedName, payload := some payload,
                             warnings := base, matchedStudentId := none, matchConfidence := none })
      | some (stuId, conf) =>
        match persistResponseFromPayload db template stuId payload with
        | .ok (after, responseId, remarks) =>
          .ok (after, { item with status := .matched, matchedStudentId := some stuId, matchConfidence := some conf,
                                  responseId := some responseId, detectedName := none, payload := none,
                                  warnings := base ++ remarks })
        | .error .integrity =>
          .ok (db, { item with status := .duplicate, matchedStudentId := some stuId, matchConfidence := some conf,
                               responseId := (answered db examTemplateId stuId).map ExamResponse.id,
                               detectedName := none, payload := none, warnings := base ++ [.duplicateUpload] })
        | .error e => .error e

def dropFile (item : ParseBatchItem K) : ParseBatchItem K :=
  if item.status.dropsFile then { item with filePath := none } else item

/-- The last session of `_process_async_impl`. An escaping error rolls it back, and `crash` follows. -/
def complete (s : State K) (no : Nat) (payload : Option (Payload K)) (warnings : List (Warning K)) : State K :=
  match s.attempt no with
  | none => s
  | some a =>
    match s.items.get? a.itemId with
    | none => { s with jobs := finalizeJob s.items s.jobs a.jobId, inFlight := s.leave no }
    | some item =>
      match persistBatchResult roster s.db item a.examTemplateId payload warnings with
      | .error _ => s
      | .ok (db, new) =>
        let items := rewrite s.items (dropFile new)
        { s with db := db, items := items, jobs := finalizeJob items s.jobs a.jobId, inFlight := s.leave no }

/-- What an assignment to a student writes: the tables and the row, or nothing where the request is refused. -/
def assigned (db : Db K) (item : ParseBatchItem K) (studentId : Nat) : Option (Db K × ParseBatchItem K) :=
  match item.payload, db.templates.get? item.examTemplateId, db.students.get? studentId with
  | some payload, some template, some student =>
    if payload.answers = [] ∨ student.classId ≠ template.classId then none
    else
      match persistResponseFromPayload db template studentId payload with
      | .ok (after, responseId, remarks) =>
        some (after, { item with status := .matched, matchedStudentId := some studentId, matchConfidence := none,
                                 responseId := some responseId, detectedName := none,
                                 warnings := item.warnings ++ remarks, filePath := none })
      | .error .integrity =>
        some (db, { item with status := .duplicate, matchedStudentId := some studentId,
                              responseId := (answered db item.examTemplateId studentId).map ExamResponse.id,
                              detectedName := none, warnings := item.warnings ++ [.duplicateUpload],
                              filePath := none })
      | .error _ => none
  | _, _, _ => none

def assignItem (s : State K) (itemId studentId : Nat) : State K :=
  match s.items.get? itemId with
  | none => s
  | some item =>
    if item.status ≠ .unmatched then s
    else
      match assigned s.db item studentId with
      | none => s
      | some (db, new) => { s with db := db, items := rewrite s.items new }

def step (s : State K) : Event K → State K
  | .upload examTemplateId paths => upload s examTemplateId paths
  | .start itemId now => start s itemId now
  | .complete no payload warnings => complete roster s no payload warnings
  | .lost no => lost s no
  | .crash no error => crash s no error
  | .watchdog now => reconcileStaleRuntime s now
  | .retry itemId fileExists => retryItem s itemId fileExists
  | .discard itemId => discardItem s itemId
  | .assign itemId studentId => assignItem s itemId studentId

/-- How the result of a worker is put on file. -/
inductive Persisted (db : Db K) (item : ParseBatchItem K) (examTemplateId : Nat) : Db K → ParseBatchItem K → Prop
  | failed (warnings : List (Warning K)) : Persisted db item examTemplateId db
      { item with status := .failed, detectedName := none, payload := none, warnings := warnings }
  | unmatched (detectedName : Option String) (sheet : Payload K) (warnings : List (Warning K)) :
      Persisted db item examTemplateId db
        { item with status := .unmatched, detectedName := detectedName, payload := some sheet, warnings := warnings,
                    matchedStudentId := none, matchConfidence := none }
  | matched (after : Db K) (template : ExamTemplate) (stuId : Nat) (sheet : Payload K) (conf : K)
      (responseId : Nat) (remarks warnings : List (Warning K)) (known : db.templates.get? examTemplateId = some template)
      (created : persistResponseFromPayload db template stuId sheet = .ok (after, responseId, remarks)) :
      Persisted db item examTemplateId after
        { item with status := .matched, matchedStudentId := some stuId, matchConfidence := some conf,
                    responseId := some responseId, detectedName := none, payload := none, warnings := warnings }
  | duplicate (stuId : Nat) (conf : K) (responseId : Option Nat) (warnings : List (Warning K)) :
      Persisted db item examTemplateId db
        { item with status := .duplicate, matchedStudentId := some stuId, matchConfidence := some conf,
                    responseId := responseId, detectedName := none, payload := none, warnings := warnings }

theorem persistBatchResult_persisted {db after : Db K} {item new : ParseBatchItem K} {examTemplateId : Nat}
    {payload : Option (Payload K)} {warnings : List (Warning K)}
    (result : persistBatchResult roster db item examTemplateId payload warnings = .ok (after, new)) :
    Persisted db item examTemplateId after new := by
  unfold persistBatchResult at result
  split at result
  · cases result
    exact .failed _
  · dsimp only at result
    split at result
    · cases result
      exact .failed _
    · rename_i template known
      split at result
      · cases result
        exact .unmatched _ _ _
      · split at result
        · rename_i created
          cases result
          exact .matched _ template _ _ _ _ _ _ known created
        · cases result
          exact .duplicate _ _ _ _
        · cases result

/-- How a sheet goes to the student it is assigned to. -/
inductive Assigned (db : Db K) (item : ParseBatchItem K) (studentId : Nat) : Db K → ParseBatchItem K → Prop
  | matched (after : Db K) (template : ExamTemplate) (sheet : Payload K) (responseId : Nat)
      (remarks warnings : List (Warning K)) (read : item.payload = some sheet)
      (known : db.templates.get? item.examTemplateId = some template)
      (created : persistResponseFromPayload db template studentId sheet = .ok (after, responseId, remarks)) :
      Assigned db item studentId after
        { item with status := .matched, matchedStudentId := some studentId, matchConfidence := none,
                    responseId := some responseId, detectedName := none, warnings := warnings, filePath := none }
  | duplicate (sheet : Payload K) (responseId : Option Nat) (warnings : List (Warning K))
      (read : item.payload = some sheet) :
      Assigned db item studentId db
        { item with status := .duplicate, matchedStudentId := some studentId, responseId := responseId,
                    detectedName := none, warnings := warnings, filePath := none }

omit roster in
theorem assigned_cases {db after : Db K} {item new : ParseBatchItem K} {studentId : Nat}
    (result : assigned db item studentId = some (after, new)) : Assigned db item studentId after new := by
  unfold assigned at result
  split at result
  · rename_i sheet template student read known _
    split at result
    · cases result
    · split at result
      · rename_i created
        cases result
        exact .matched _ template sheet _ _ _ read known created
      · cases result
        exact .duplicate sheet _ _ read
      · cases result
  · cases result

end

end KnowledgeGap.Ingestion
