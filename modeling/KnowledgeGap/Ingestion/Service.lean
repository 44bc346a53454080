import KnowledgeGap.Ingestion.LateWorkers

namespace KnowledgeGap.Ingestion

open Relational Protocol

variable {K : Type}

/-- What the part of a worker between its sessions brings back: no file, or what the model made of it. -/
inductive Reading (K : Type)
  | lost
  | answered (payload : Option (Payload K)) (warnings : List (Warning K))

/-- All that reaches the tables of the batches. A crash counts together with the start that follows it, and
    whatever the rest of the service writes is `elsewhere`. -/
inductive Request (K : Type)
  | batch (e : Event K)
  | uploadSync (examTemplateId : Nat) (sheets : List (String × Reading K)) (now : DateTime)
  | retrySync (itemId : Nat) (fileExists : Bool) (reading : Reading K) (now : DateTime)
  | poll (jobId : Nat) (now : DateTime)
  | restart
  | elsewhere (db : Db K)

def giveUp (warning : Warning K) (it : ParseBatchItem K) : ParseBatchItem K :=
  { it with status := .failed, warnings := it.warnings ++ [warning] }

theorem key_giveUp (warning : Warning K) (it : ParseBatchItem K) : Keyed.key (giveUp warning it) = Keyed.key it := rfl

/-- `retry_item` raises nothing. -/
def retried (s : State K) (itemId : Nat) (fileExists : Bool) : Bool :=
  (s.items.get? itemId).any (fun it => it.status == .failed && !(it.filePath.getD "").isEmpty && fileExists)

/-- What the page of a job shows of its items. -/
structure BatchJobView (K : Type) where
  jobId : Nat
  status : ParseJobStatus
  items : List (ParseBatchItem K × Option String)
  total : Nat
  done : Nat
  deriving DecidableEq, Repr

def byItemId (a b : ParseBatchItem K) : Bool := decide (a.id ≤ b.id)

def matchedName (db : Db K) (it : ParseBatchItem K) : Option String :=
  (it.matchedStudentId.bind db.students.get?).map Student.nameOrAlias

def batchJobView (s : State K) (job : ParseJob) : BatchJobView K :=
  let ofJob := stableSort byItemId (s.items.select (fun it => it.parseJobId == job.id))
  ⟨job.id, job.status, ofJob.map (fun it => (it, matchedName s.db it)), ofJob.length,
    ofJob.countP (fun it => it.status.terminal)⟩

/-- The repairs of `get_batch_job`: a job whose items are all settled is done, and what a done job still has
    open has failed. -/
def tidyJob (s : State K) (jobId : Nat) : State K :=
  let ofJob := s.items.select (fun it => it.parseJobId == jobId)
  match s.jobs.get? jobId with
  | none => s
  | some job =>
    if ofJob.isEmpty then s
    else if ofJob.all (fun it => it.status.terminal) then
      { s with jobs := s.jobs.modify jobId (ParseJob.withStatus .done) (key_withStatus _) }
    else if job.status = .done then
      { s with items := s.items.updateWhere (fun it => it.parseJobId == jobId && !it.status.terminal)
                          (giveUp .interrupted) (key_giveUp _) }
    else s

/-- `get_batch_job` past its guard; a job it does not know is a 404. -/
def getBatchJob (s : State K) (jobId : Nat) (now : DateTime) : State K × Option (BatchJobView K) :=
  match s.jobs.get? jobId with
  | none => (s, none)
  | some _ =>
    let tidied := tidyJob (reconcileStaleRuntime s now) jobId
    (tidied, (tidied.jobs.get? jobId).map (batchJobView tidied))

/-- What the next start finds: the workers went with the process, and their items with them. -/
def reconcileStale (s : State K) : State K :=
  let jobs := s.jobs.select (fun j => j.status == .running)
  if jobs.isEmpty then s
  else
    { s with
      items := s.items.updateWhere (fun it => (jobs.map ParseJob.id).contains it.parseJobId && !it.status.terminal)
        (giveUp .restarted) (key_giveUp _)
      jobs := s.jobs.updateWhere (fun j => j.status == .running) (ParseJob.withStatus .done) (key_withStatus _) }

def restart (s : State K) : State K := reconcileStale { s with inFlight := [] }

section
variable [Field K] [LinearOrder K] [FloorRing K] (roster : Roster)

/-- Inside the request's own session; an error that escapes it takes the whole request back. -/
def runItemSync (s : State K) (itemId : Nat) (now : DateTime) (reading : Reading K) : Option (State K) :=
  match s.items.get? itemId with
  | none => some s
  | some item =>
    if item.status ≠ .queued then some s
    else
      let parsing : ParseBatchItem K := { item with status := .parsing, startedAt := some now }
      let jobs := setJobRunning s.jobs item.parseJobId
      match reading with
      | .lost =>
        let items := rewrite s.items (markFailed .fileLost parsing)
        some { s with items := items, jobs := finalizeJob items jobs item.parseJobId }
      | .answered payload warnings =>
        match persistBatchResult roster s.db parsing item.examTemplateId payload warnings with
        | .error _ => none
        | .ok (db, new) =>
          let items := rewrite s.items (dropFile new)
          some { s with db := db, items := items, jobs := finalizeJob items jobs item.parseJobId }

def runItemsSync (now : DateTime) : State K → Nat → List (Reading K) → Option (State K)
  | s, _, [] => some s
  | s, itemId, reading :: readings =>
    (runItemSync roster s itemId now reading).bind (fun s => runItemsSync now s (itemId + 1) readings)

def uploadSync (s : State K) (examTemplateId : Nat) (sheets : List (String × Reading K)) (now : DateTime) : State K :=
  (runItemsSync roster now (upload s examTemplateId (sheets.map Prod.fst)) s.items.nextId (sheets.map Prod.snd)).getD s

def retrySync (s : State K) (itemId : Nat) (fileExists : Bool) (reading : Reading K) (now : DateTime) : State K :=
  if retried s itemId fileExists then
    (runItemSync roster (retryItem s itemId fileExists) itemId now reading).getD s
  else s

def serve (s : State K) : Request K → State K
  | .batch e => step roster s e
  | .uploadSync examTemplateId sheets now => uploadSync roster s examTemplateId sheets now
  | .retrySync itemId fileExists reading now => retrySync roster s itemId fileExists reading now
  | .poll jobId now => (getBatchJob s jobId now).1
  | .restart => restart s
  | .elsewhere db => { s with db := db }

end

end KnowledgeGap.Ingestion
