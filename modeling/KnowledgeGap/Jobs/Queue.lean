import KnowledgeGap.Relational.Table
import KnowledgeGap.Data.Time
import Mathlib.Algebra.Order.Ring.Nat
import Mathlib.Algebra.Order.Ring.Int
import Mathlib.Data.List.Sort
import Mathlib.Logic.Function.Basic

namespace KnowledgeGap.Jobs

open Relational

def lease : Int := seconds 600

inductive JobStatus
  | queued
  | running
  | succeeded
  | failed
  deriving DecidableEq, Repr

/-- A row of `async_job`; `P` is the payload and `R` the result document. -/
structure AsyncJob (P R : Type) where
  id : Nat
  kind : String
  idempotencyKey : Option String
  status : JobStatus
  payload : P
  result : Option R
  attempts : Nat
  maxAttempts : Nat
  availableAt : DateTime
  lockedAt : Option DateTime
  lockedBy : Option String
  finishedAt : Option DateTime
  error : Option String
  deriving DecidableEq, Repr

variable {P R W : Type}

instance : Keyed (AsyncJob P R) := ⟨AsyncJob.id⟩

/-- The value of `_current_claim`: the job, the worker id and the attempt number of one claim. -/
structure Claim where
  job : Nat
  worker : String
  attempt : Nat
  deriving DecidableEq, Repr

/-- `_ownership(.., require_live_lease=False)` -/
def ownership (c : Claim) (r : AsyncJob P R) : Bool :=
  r.id == c.job && r.status == .running && r.lockedBy == some c.worker && r.attempts == c.attempt

def liveOwnership (now : DateTime) (c : Claim) (r : AsyncJob P R) : Bool :=
  ownership c r && r.lockedAt.any (fun t => now - lease ≤ t)

def renew (now : DateTime) (c : Claim) (jobs : Table (AsyncJob P R)) : Table (AsyncJob P R) :=
  jobs.updateWhere (liveOwnership now c) (fun r => { r with lockedAt := some now }) (fun _ => rfl)

def complete (now : DateTime) (c : Claim) (result : R) (jobs : Table (AsyncJob P R)) :
    Table (AsyncJob P R) :=
  jobs.updateWhere (ownership c)
    (fun r => { r with status := .succeeded, result := some result, error := none,
                       finishedAt := some now, lockedAt := none, lockedBy := none })
    (fun _ => rfl)

/-- `_fail`, once it has read `max_attempts` and so decided whether to retry -/
def fail (now : DateTime) (c : Claim) (error : String) (retry : Bool) (jobs : Table (AsyncJob P R)) :
    Table (AsyncJob P R) :=
  jobs.updateWhere (liveOwnership now c)
    (fun r => { r with error := some (String.ofList (error.toList.take 2000)),
                       lockedAt := none, lockedBy := none,
                       status := if retry then .queued else .failed,
                       availableAt := now + seconds (min 60 (2 ^ min c.attempt 6)),
                       finishedAt := if retry then none else some now })
    (fun _ => rfl)

def retryJob (now : DateTime) (job : Nat) (jobs : Table (AsyncJob P R)) : Table (AsyncJob P R) :=
  jobs.updateWhere (fun r => r.id == job && r.status == .failed)
    (fun r => { r with status := .queued, availableAt := now, error := none, result := none,
                       finishedAt := none, lockedAt := none, lockedBy := none,
                       maxAttempts := r.attempts + 3 })
    (fun _ => rfl)

/-- `AsyncJob.locked_at < stale_before`; a null timestamp compares to nothing. -/
def stale (now : DateTime) (r : AsyncJob P R) : Bool := r.lockedAt.any (fun t => t < now - lease)

/-- The first statement of `_claim`: attempts out of lease and out of retries become failed. -/
def expire (now : DateTime) (jobs : Table (AsyncJob P R)) : Table (AsyncJob P R) :=
  jobs.updateWhere (fun r => r.status == .running && stale now r && decide (r.maxAttempts ≤ r.attempts))
    (fun r => { r with status := .failed,
                       error := some "worker lease expired after maximum attempts",
                       finishedAt := some now, lockedAt := none, lockedBy := none })
    (fun _ => rfl)

def claimable (now : DateTime) (r : AsyncJob P R) : Bool :=
  (r.status == .queued && decide (r.availableAt ≤ now)) ||
    (r.status == .running && stale now r && decide (r.attempts < r.maxAttempts))

def precedes (a b : AsyncJob P R) : Prop :=
  a.availableAt < b.availableAt ∨ (a.availableAt = b.availableAt ∧ a.id ≤ b.id)

instance : DecidableRel (precedes (P := P) (R := R)) := fun _ _ => inferInstanceAs (Decidable (_ ∨ _))

/-- The `SELECT .. FOR UPDATE SKIP LOCKED LIMIT 1` of `_claim`; `skipped` are the rows that other
    transactions hold locked at that moment. -/
def selectCandidate (now : DateTime) (skipped : List Nat) (jobs : Table (AsyncJob P R)) :
    Option (AsyncJob P R) :=
  (((jobs.select (claimable now)).filter (fun r => !skipped.contains r.id)).insertionSort precedes).head?

/-- What `_claim` remembers of its candidate for the compare-and-swap. -/
structure Candidate where
  job : Nat
  status : JobStatus
  attempts : Nat
  deriving DecidableEq, Repr

def unchanged (now : DateTime) (k : Candidate) (r : AsyncJob P R) : Bool :=
  r.id == k.job && r.status == k.status && r.attempts == k.attempts &&
    (r.status == .queued || stale now r)

/-- The compare-and-swap that ends `_claim`. -/
def swap (now : DateTime) (k : Candidate) (worker : String) (jobs : Table (AsyncJob P R)) :
    Table (AsyncJob P R) :=
  jobs.updateWhere (unchanged now k)
    (fun r => { r with status := .running, lockedBy := some worker, lockedAt := some now,
                       attempts := k.attempts + 1 })
    (fun _ => rfl)

def usableKey : Option String → Bool
  | some k => k != ""
  | none => false

/-- `enqueue`: the table and the row it answers with, `none` when the insertion violates
    `uq_async_job_idempotency` and the error is raised to the caller. -/
def enqueue (now : DateTime) (kind : String) (payload : P) (key : Option String) (maxAttempts : Int)
    (jobs : Table (AsyncJob P R)) : Option (Table (AsyncJob P R) × AsyncJob P R) :=
  match jobs.rows.find? (fun r => r.kind == kind && key.isSome && r.idempotencyKey == key) with
  | some existing => if usableKey key then some (jobs, existing) else none
  | none =>
    let mk : Nat → AsyncJob P R := fun id =>
      { id, kind, idempotencyKey := key, status := .queued, payload, result := none, attempts := 0,
        maxAttempts := (max 1 maxAttempts).toNat, availableAt := now, lockedAt := none,
        lockedBy := none, finishedAt := none, error := none }
    some (jobs.insert mk (fun _ => rfl), mk jobs.nextId)

/-- Where a thread stands inside `run_once`. -/
inductive Phase (R : Type)
  | idle
  | claiming (now : DateTime)
  | selected (now : DateTime) (candidate : Candidate)
  | running (claim : Claim)
  | returned (claim : Claim) (result : Option R)
  | raised (claim : Claim) (error : String)
  | failing (claim : Claim) (error : String) (retry : Bool)

def Phase.claim? : Phase R → Option Claim
  | .running c | .returned c _ | .raised c _ | .failing c _ _ => some c
  | .idle | .claiming _ | .selected _ _ => none

/-- The shared database, the clock, every thread, and two records of what happened: the claims
    handed out and the domain transactions committed, each with its job. -/
structure World (P R W : Type) where
  jobs : Table (AsyncJob P R)
  now : DateTime
  threads : Nat → Phase R
  claims : List Claim
  domain : List (Nat × W)

def World.start (now : DateTime) : World P R W := ⟨Table.empty, now, fun _ => .idle, [], []⟩

/-- One atomic step: a statement or transaction of some session, a thread moving on, the clock. -/
inductive Action (P R W : Type)
  | enqueue (kind : String) (payload : P) (key : Option String) (maxAttempts : Int)
  | expire (thread : Nat)
  | select (thread : Nat) (skipped : List Nat)
  | swap (thread : Nat)
  | renew (claim : Claim)
  | commitResult (thread : Nat) (result : R) (writes : W)
  | return (thread : Nat) (result : Option R)
  | raise (thread : Nat) (error : String)
  | complete (thread : Nat)
  | readForFail (thread : Nat)
  | fail (thread : Nat)
  | retryJob (job : Nat)
  | tick (delta : Nat)
  | crash (thread : Nat)

def World.goto (s : World P R W) (i : Nat) (p : Phase R) : World P R W :=
  { s with threads := Function.update s.threads i p }

/-- `_commit_result`: the domain writes of the transaction and the completion commit together, or
    the transaction rolls back and `LeaseLost` is raised. -/
def commitResult (s : World P R W) (i : Nat) (c : Claim) (result : R) (writes : W) : World P R W :=
  if s.jobs.rowcount (ownership c) = 1 then
    { s with jobs := complete s.now c result s.jobs, domain := s.domain ++ [(c.job, writes)] }
  else
    s.goto i (.raised c "LeaseLost: job ownership changed")

/-- `worker i` is the worker id thread `i` runs under; different threads may share one. -/
def step [Inhabited R] (worker : Nat → String) (s : World P R W) : Action P R W → World P R W
  | .enqueue kind payload key maxAttempts =>
    match Jobs.enqueue s.now kind payload key maxAttempts s.jobs with
    | some (jobs, _) => { s with jobs }
    | none => s
  | .expire i =>
    match s.threads i with
    | .idle => { s with jobs := Jobs.expire s.now s.jobs }.goto i (.claiming s.now)
    | _ => s
  | .select i skipped =>
    match s.threads i with
    | .claiming now =>
      match selectCandidate now skipped s.jobs with
      | some r => s.goto i (.selected now ⟨r.id, r.status, r.attempts⟩)
      | none => s.goto i .idle
    | _ => s
  | .swap i =>
    match s.threads i with
    | .selected now k =>
      if s.jobs.rowcount (unchanged now k) = 1 then
        let c : Claim := ⟨k.job, worker i, k.attempts + 1⟩
        { s with jobs := Jobs.swap now k (worker i) s.jobs, claims := s.claims ++ [c] }.goto i (.running c)
      else s.goto i .idle
    | _ => s
  | .renew c => { s with jobs := Jobs.renew s.now c s.jobs }
  | .commitResult i result writes =>
    match s.threads i with
    | .running c => Jobs.commitResult s i c result writes
    | _ => s
  | .return i result =>
    match s.threads i with
    | .running c => s.goto i (.returned c result)
    | _ => s
  | .raise i error =>
    match s.threads i with
    | .running c => s.goto i (.raised c error)
    | _ => s
  | .complete i =>
    match s.threads i with
    | .returned c result =>
      { s with jobs := Jobs.complete s.now c (result.getD default) s.jobs }.goto i .idle
    | _ => s
  | .readForFail i =>
    match s.threads i with
    | .raised c error =>
      match s.jobs.get? c.job with
      | some r => s.goto i (.failing c error (decide (c.attempt < r.maxAttempts)))
      | none => s.goto i .idle
    | _ => s
  | .fail i =>
    match s.threads i with
    | .failing c error retry => { s with jobs := Jobs.fail s.now c error retry s.jobs }.goto i .idle
    | _ => s
  | .retryJob job => { s with jobs := Jobs.retryJob s.now job s.jobs }
  | .tick delta => { s with now := s.now + delta }
  | .crash i => s.goto i .idle

def Action.claim? (s : World P R W) : Action P R W → Option Claim
  | .renew c => some c
  | .commitResult i _ _ | .return i _ | .raise i _ | .complete i | .readForFail i | .fail i =>
    (s.threads i).claim?
  | _ => none

end KnowledgeGap.Jobs
