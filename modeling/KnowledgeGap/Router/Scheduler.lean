import KnowledgeGap.Data.Number
import KnowledgeGap.Protocol.Window
import KnowledgeGap.Relational.Dict

namespace KnowledgeGap.Router

open Relational Protocol

/-- `other` holds `text` and every name the scheduler does not know. -/
inductive Capability
  | agent
  | vision
  | other (name : String)
  deriving DecidableEq, Repr

structure RouterConfig (K : Type) where
  providerKeys : List String
  maxConcurrency : Nat
  agentConcurrency : Nat
  visionConcurrency : Nat
  textConcurrency : Nat
  keyConcurrency : Nat
  keyRpm : Nat
  keyTpm : Nat
  maxQueueWait : K
  retries : Nat
  circuitThreshold : Nat
  circuitCooldown : K
  deriving DecidableEq, Repr

structure KeyState (K : Type) where
  key : String
  inFlight : Nat
  failures : Nat
  openedUntil : K
  requestTimes : List K
  tokenEvents : List (K × Int)
  deriving DecidableEq, Repr

structure Lease where
  keyIndex : Nat
  capability : Capability
  estimateTokens : Int
  deriving DecidableEq, Repr

structure RouterScheduler (K : Type) where
  keys : List (KeyState K)
  globalInFlight : Nat
  capInFlight : Dict Capability Nat
  cursor : Nat
  requests : Nat
  failures : Nat
  rejections : Nat

variable {K : Type}

def capLimit (cfg : RouterConfig K) : Capability → Nat
  | .agent => cfg.agentConcurrency
  | .vision => cfg.visionConcurrency
  | .other _ => cfg.textConcurrency

section
variable [Field K]

/-- The sixty seconds of both windows. -/
def minute : K := ((60 : Nat) : K)

def RouterScheduler.init (cfg : RouterConfig K) : RouterScheduler K where
  keys := cfg.providerKeys.map (fun key => ⟨key, 0, 0, 0, [], []⟩)
  globalInFlight := 0
  capInFlight := .empty
  cursor := 0
  requests := 0
  failures := 0
  rejections := 0

variable [LinearOrder K] (cfg : RouterConfig K)

def prune (now : K) (state : KeyState K) : KeyState K :=
  { state with
    requestTimes := drop id minute now state.requestTimes
    tokenEvents := drop Prod.fst minute now state.tokenEvents }

/-- What the scan makes of a key; `skip` carries the wait that the key suggests. -/
inductive Check (K : Type)
  | free
  | skip (wait : Option K)
  | indexError
  deriving DecidableEq, Repr

def oldest {α : Type} (now : K) (time : α → K) : List α → Check K
  | [] => .indexError
  | e :: _ => .skip (some (minute - (now - time e)))

/-- The chain of tests on a pruned key. -/
def checkKey (now : K) (estimateTokens : Int) (state : KeyState K) : Check K :=
  if now < state.openedUntil then .skip (some (state.openedUntil - now))
  else if cfg.keyConcurrency ≤ state.inFlight then .skip none
  else if cfg.keyRpm ≠ 0 ∧ cfg.keyRpm ≤ state.requestTimes.length then oldest now id state.requestTimes
  else if cfg.keyTpm ≠ 0 ∧ (cfg.keyTpm : Int) < (state.tokenEvents.map Prod.snd).sum + estimateTokens then
    oldest now Prod.fst state.tokenEvents
  else .free

inductive Found
  | candidate (index : Nat)
  | nothing
  | indexError
  deriving DecidableEq, Repr

structure Scanned (K : Type) where
  keys : List (KeyState K)
  retryAfter : K
  found : Found

/-- The loop over the keys, in the order given: it prunes as it goes and stops at the first key that is free. -/
def scan (now : K) (estimateTokens : Int) : List Nat → List (KeyState K) → K → Scanned K
  | [], keys, retryAfter => ⟨keys, retryAfter, .nothing⟩
  | index :: rest, keys, retryAfter =>
    match (keys.modify index (prune now))[index]? with
    | none => ⟨keys, retryAfter, .indexError⟩
    | some state =>
      match checkKey cfg now estimateTokens state with
      | .free => ⟨keys.modify index (prune now), retryAfter, .candidate index⟩
      | .indexError => ⟨keys.modify index (prune now), retryAfter, .indexError⟩
      | .skip none => scan now estimateTokens rest (keys.modify index (prune now)) retryAfter
      | .skip (some wait) => scan now estimateTokens rest (keys.modify index (prune now)) (min retryAfter wait)

def RouterScheduler.order (s : RouterScheduler K) : List Nat :=
  (List.range s.keys.length).map (fun offset => (s.cursor + offset) % s.keys.length)

/-- How one turn of the loop in `acquire` ends. -/
inductive Turn (K : Type)
  | granted (lease : Lease)
  | capacityError (retryAfter : K)
  | waiting (timeout : K)
  | indexError
  deriving DecidableEq, Repr

def takeKey (now : K) (estimateTokens : Int) (state : KeyState K) : KeyState K :=
  { state with
    inFlight := state.inFlight + 1
    requestTimes := state.requestTimes ++ [now]
    tokenEvents := if estimateTokens = 0 then state.tokenEvents else state.tokenEvents ++ [(now, estimateTokens)] }

def grant (s : RouterScheduler K) (index : Nat) (capability : Capability) (estimateTokens : Int) (now : K) : RouterScheduler K :=
  { s with
    keys := s.keys.modify index (takeKey now estimateTokens)
    globalInFlight := s.globalInFlight + 1
    capInFlight := s.capInFlight.set capability (s.capInFlight.getD capability 0 + 1)
    cursor := (index + 1) % s.keys.length
    requests := s.requests + 1 }

/-- The end of a turn that grants nothing. -/
def turnAway (s : RouterScheduler K) (now deadline retryAfter : K) : RouterScheduler K × Turn K :=
  if deadline - now ≤ 0 then ({ s with rejections := s.rejections + 1 }, .capacityError (max (ratio 5 100) retryAfter))
  else (s, .waiting (min (deadline - now) retryAfter))

/-- One turn of the loop in `acquire`, under the lock. -/
def acquireTurn (s : RouterScheduler K) (capability : Capability) (estimateTokens : Int) (now deadline : K) :
    RouterScheduler K × Turn K :=
  let scanned := scan cfg now estimateTokens s.order s.keys (max (ratio 5 100) (deadline - now))
  let s := { s with keys := scanned.keys }
  match scanned.found with
  | .indexError => (s, .indexError)
  | .nothing => turnAway s now deadline scanned.retryAfter
  | .candidate index =>
    if s.globalInFlight < cfg.maxConcurrency ∧ s.capInFlight.getD capability 0 < capLimit cfg capability then
      (grant s index capability estimateTokens now, .granted ⟨index, capability, estimateTokens⟩)
    else turnAway s now deadline scanned.retryAfter

/-- The rejections that happen without a turn: there are no keys, or a wait has run past the deadline. -/
def reject (s : RouterScheduler K) : RouterScheduler K := { s with rejections := s.rejections + 1 }

/-- Truncated subtraction is the `max(0, ...)` of the source; the two readings of the clock are taken one after the other. -/
def releaseKey (lease : Lease) (success : Bool) (actualTokens : Option Int) (booked opened : K) (state : KeyState K) : KeyState K :=
  { state with
    inFlight := state.inFlight - 1
    tokenEvents :=
      match actualTokens with
      | none => state.tokenEvents
      | some actual =>
        if lease.estimateTokens ≠ 0 ∧ 0 < actual - lease.estimateTokens then
          state.tokenEvents ++ [(booked, actual - lease.estimateTokens)]
        else state.tokenEvents
    failures := if success ∨ cfg.circuitThreshold ≤ state.failures + 1 then 0 else state.failures + 1
    openedUntil :=
      if success = false ∧ cfg.circuitThreshold ≤ state.failures + 1 then opened + cfg.circuitCooldown else state.openedUntil }

def release (s : RouterScheduler K) (lease : Lease) (success : Bool) (actualTokens : Option Int) (booked opened : K) :
    RouterScheduler K :=
  { s with
    keys := s.keys.modify lease.keyIndex (releaseKey cfg lease success actualTokens booked opened)
    globalInFlight := s.globalInFlight - 1
    capInFlight := s.capInFlight.set lease.capability (s.capInFlight.getD lease.capability 1 - 1)
    failures := if success then s.failures else s.failures + 1 }

/-- `snapshot` prunes every key. -/
def pruneAll (s : RouterScheduler K) (now : K) : RouterScheduler K := { s with keys := s.keys.map (prune now) }

end

end KnowledgeGap.Router
