import KnowledgeGap.Protocol.Runs
import KnowledgeGap.Router.Counting

namespace KnowledgeGap.Router

open Relational Protocol

/-- An exception that is raised by a call: of the two families that `proxy` catches, or of any other. -/
inductive Failure
  | httpError
  | runtimeError
  | other
  deriving DecidableEq, Repr

inductive Exc
  | cancelled
  | failure (f : Failure)
  deriving DecidableEq, Repr

/-- `except (httpx.HTTPError, RuntimeError)` -/
def Exc.caught : Exc → Bool
  | .failure .httpError | .failure .runtimeError => true
  | _ => false

/-- What `proxy` goes on to build when a release is through. -/
inductive Next
  | lastError
  | response
  | nothing
  | finished
  deriving DecidableEq, Repr

/-- Where a request stands, at an await or at the building of a response; `lease` is the number of its lease. -/
inductive Phase (K : Type)
  | acquiring (attempt : Nat) (deadline : K)
  | calling (attempt lease : Nat)
  | reading (attempt lease : Nat)
  | exiting (attempt lease : Nat)
  | releasing (attempt lease : Nat) (success : Bool) (next : Next)
  | building (attempt lease : Nat) (next : Next)
  | offering (attempt lease status : Nat)
  | offered (lease status : Nat)
  | iterating (lease status : Nat)
  | closing (lease : Nat) (ok : Bool)
  | sleeping (attempt : Nat)
  | ended
  deriving DecidableEq, Repr

structure RequestRow (K : Type) where
  stream : Bool
  capability : Capability
  estimateTokens : Int
  phase : Phase K
  deriving DecidableEq, Repr

/-- A lease that `acquire` returned: whose it is, its `released` flag, and how often the scheduler has taken it back. -/
structure LeaseRow where
  lease : Lease
  owner : Nat
  released : Bool
  returned : Nat
  deriving DecidableEq, Repr

/-- The application: its scheduler, and every request and lease there has been. -/
structure App (K : Type) where
  scheduler : RouterScheduler K
  requests : List (RequestRow K)
  leases : List LeaseRow

/-- What happens to a request next: a turn or the timeout of a wait, an answer of the upstream, the end of the call it
    awaits, an exception there, and what the framework does with the iterator of a streamed response. -/
inductive Happening (K : Type)
  | turn (now : K)
  | timedOut (now : K)
  | answered (status : Nat)
  | done (booked opened : K)
  | raised (e : Exc)
  | started
  | exhausted
  | aclosed
  | abandoned
  deriving DecidableEq, Repr

inductive Action (K : Type)
  | arrive (stream : Bool) (capability : Capability) (estimateTokens : Int) (now : K)
  | happen (request : Nat) (what : Happening K)

/-- What a request does in answer; `release` is the call of `Lease.release` and `settle` the section it waits for. -/
inductive Move (K : Type)
  | stay
  | enter (phase : Phase K)
  | acquire (attempt : Nat) (now deadline : K)
  | reject
  | release (attempt lease : Nat) (success : Bool) (next : Next)
  | settle (attempt lease : Nat) (success : Bool) (next : Next) (booked opened : K)
  deriving DecidableEq, Repr

variable {K : Type}

def retryable (status : Nat) : Bool := [408, 409, 429, 500, 502, 503, 504].contains status

/-- An exception inside the `try` of `proxy`. -/
def handle (attempt lease : Nat) (e : Exc) : Move K :=
  if e.caught then .release attempt lease false .nothing else .enter .ended

def callingMove (stream : Bool) (attempt lease : Nat) : Happening K → Move K
  | .answered status =>
    if stream then
      if retryable status then .enter (.reading attempt lease) else .enter (.offering attempt lease status)
    else .release attempt lease (!retryable status) (if retryable status then .lastError else .response)
  | .raised e => handle attempt lease e
  | _ => .stay

def readingMove (attempt lease : Nat) : Happening K → Move K
  | .done _ _ => .enter (.exiting attempt lease)
  | .raised e => handle attempt lease e
  | _ => .stay

def exitingMove (attempt lease : Nat) : Happening K → Move K
  | .done _ _ => .release attempt lease false .lastError
  | .raised e => handle attempt lease e
  | _ => .stay

def releasingMove (attempt lease : Nat) (success : Bool) (next : Next) : Happening K → Move K
  | .done booked opened => .settle attempt lease success next booked opened
  | .raised .cancelled => .enter .ended
  | _ => .stay

/-- No await stands in the building of a response, so no cancellation reaches it. -/
def offeringMove (attempt lease status : Nat) : Happening K → Move K
  | .done _ _ => .enter (.offered lease status)
  | .raised (.failure f) => handle attempt lease (.failure f)
  | _ => .stay

def offeredMove (lease status : Nat) : Happening K → Move K
  | .started => .enter (.iterating lease status)
  | .abandoned => .enter .ended
  | _ => .stay

def iteratingMove (lease status : Nat) : Happening K → Move K
  | .exhausted => .enter (.closing lease (decide (200 ≤ status ∧ status < 400)))
  | .raised _ | .aclosed => .enter (.closing lease false)
  | .abandoned => .enter .ended
  | _ => .stay

def closingMove (lease : Nat) (ok : Bool) : Happening K → Move K
  | .done _ _ => .release 0 lease ok .finished
  | .raised _ => .enter .ended
  | _ => .stay

/-- What follows a release. -/
def afterRelease (attempt lease : Nat) : Next → Phase K
  | .finished => .ended
  | next => .building attempt lease next

section
variable [Field K] [LinearOrder K] (cfg : RouterConfig K)

def acquiringMove (attempt : Nat) (deadline : K) : Happening K → Move K
  | .turn now => .acquire attempt now deadline
  | .timedOut now => if deadline ≤ now then .reject else .stay
  | .raised .cancelled => .enter .ended
  | _ => .stay

/-- The end of an attempt that brought no answer. -/
def retryOrEnd (attempt : Nat) : Phase K := if attempt < cfg.retries then .sleeping attempt else .ended

def buildingMove (attempt lease : Nat) (next : Next) : Happening K → Move K
  | .done _ _ => .enter (if next = .response then .ended else retryOrEnd cfg attempt)
  | .raised (.failure f) => if next = .nothing then .stay else handle attempt lease (.failure f)
  | _ => .stay

def sleepingMove (attempt : Nat) : Happening K → Move K
  | .turn now => .enter (.acquiring (attempt + 1) (now + cfg.maxQueueWait))
  | .raised .cancelled => .enter .ended
  | _ => .stay

def move (stream : Bool) : Phase K → Happening K → Move K
  | .acquiring attempt deadline => acquiringMove attempt deadline
  | .calling attempt lease => callingMove stream attempt lease
  | .reading attempt lease => readingMove attempt lease
  | .exiting attempt lease => exitingMove attempt lease
  | .releasing attempt lease success next => releasingMove attempt lease success next
  | .building attempt lease next => buildingMove cfg attempt lease next
  | .offering attempt lease status => offeringMove attempt lease status
  | .offered lease status => offeredMove lease status
  | .iterating lease status => iteratingMove lease status
  | .closing lease ok => closingMove lease ok
  | .sleeping attempt => sleepingMove cfg attempt
  | .ended => fun _ => .stay

end

def atPhase (phase : Phase K) (row : RequestRow K) : RequestRow K := { row with phase := phase }

def App.goto (a : App K) (request : Nat) (phase : Phase K) : App K :=
  { a with requests := a.requests.modify request (atPhase phase) }

def flagged (row : LeaseRow) : LeaseRow := { row with released := true }

def returnedOnce (row : LeaseRow) : LeaseRow := { row with returned := row.returned + 1 }

/-- `Lease.release` up to its await: nothing is left to do where the flag is set. -/
def App.callRelease (a : App K) (request attempt lease : Nat) (success : Bool) (next : Next) : App K :=
  match a.leases[lease]? with
  | none => a
  | some row =>
    if row.released then a.goto request (afterRelease attempt lease next)
    else App.goto { a with leases := a.leases.modify lease flagged } request (.releasing attempt lease success next)

section
variable [Field K] [LinearOrder K] (cfg : RouterConfig K)

/-- A turn of `acquire` on behalf of a request. -/
def App.acquire (a : App K) (request attempt : Nat) (row : RequestRow K) (now deadline : K) : App K :=
  if a.scheduler.keys.isEmpty then App.goto { a with scheduler := Router.reject a.scheduler } request .ended
  else
    let turn := acquireTurn cfg a.scheduler row.capability row.estimateTokens now deadline
    match turn.2 with
    | .granted lease =>
      App.goto { a with scheduler := turn.1, leases := a.leases ++ [⟨lease, request, false, 0⟩] } request
        (.calling attempt a.leases.length)
    | .waiting _ => { a with scheduler := turn.1 }
    | .capacityError _ | .indexError => App.goto { a with scheduler := turn.1 } request .ended

/-- The section of `RouterScheduler.release`; `proxy` never says how many tokens were used. -/
def App.settle (a : App K) (request attempt lease : Nat) (success : Bool) (next : Next) (booked opened : K) : App K :=
  match a.leases[lease]? with
  | none => a
  | some row =>
    App.goto { a with
      scheduler := Router.release cfg a.scheduler row.lease success none booked opened
      leases := a.leases.modify lease returnedOnce } request (afterRelease attempt lease next)

def App.apply (a : App K) (request : Nat) (row : RequestRow K) : Move K → App K
  | .stay => a
  | .enter phase => a.goto request phase
  | .acquire attempt now deadline => a.acquire cfg request attempt row now deadline
  | .reject => App.goto { a with scheduler := Router.reject a.scheduler } request .ended
  | .release attempt lease success next => a.callRelease request attempt lease success next
  | .settle attempt lease success next booked opened => a.settle cfg request attempt lease success next booked opened

def App.step (a : App K) : Action K → App K
  | .arrive stream capability estimateTokens now =>
    { a with requests := a.requests ++ [⟨stream, capability, estimateTokens, .acquiring 0 (now + cfg.maxQueueWait)⟩] }
  | .happen request what =>
    match a.requests[request]? with
    | none => a
    | some row => a.apply cfg request row (move cfg row.stream row.phase what)

def App.init : App K := ⟨.init cfg, [], []⟩

end

end KnowledgeGap.Router
