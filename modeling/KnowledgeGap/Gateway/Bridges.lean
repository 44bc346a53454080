import Mathlib.Data.Finset.Basic
import KnowledgeGap.Protocol.SingleFlight

namespace KnowledgeGap.Gateway

open Relational Protocol

/-- One app-server process. It is closed once its reader has ended, which sends every subscriber the end of its stream
    and forgets them all. -/
structure Bridge where
  subscribers : Finset Nat
  alive : Bool
  closed : Bool
  deriving DecidableEq

inductive Standing
  | calling
  | returned (bridge : Nat)
  | streaming (bridge : Nat)
  | ended (bridge : Nat)
  | failed (error : String)
  | cancelled
  deriving DecidableEq

/-- A call of `_get_or_spawn_bridge`, or one of `thread_events` with the set that holds its queue while it waits. -/
structure Caller where
  key : String
  pending : Option Nat
  standing : Standing
  deriving DecidableEq

/-- Queues, futures and bridges go by the number of the call that made them, and so do the sets of waiting queues: two
    sets can stand under one key one after the other. -/
structure Switchboard where
  bridges : Dict String Nat
  flights : Flights String (Except String Nat)
  pendingSubscribers : Dict String Nat
  sets : Dict Nat (Finset Nat)
  procs : Dict Nat Bridge
  callers : Dict Nat Caller

namespace Switchboard

def init : Switchboard := ⟨.empty, .empty, .empty, .empty, .empty, .empty⟩

variable (s : Switchboard)

def bridge (b : Nat) : Bridge := s.procs.getD b ⟨∅, false, false⟩

def queues (set : Nat) : Finset Nat := s.sets.getD set ∅

/-- The set `setdefault` gives a call. -/
def pendingSet (c : Nat) (key : String) : Nat := (s.pendingSubscribers.getD key c)

def register (c : Nat) (key : String) : Switchboard :=
  match s.pendingSubscribers.get? key with
  | some set => { s with sets := s.sets.set set (insert c (s.queues set)) }
  | none => { s with pendingSubscribers := s.pendingSubscribers.set key c, sets := s.sets.set c {c} }

def unregister (c : Nat) (key : String) (set : Nat) : Switchboard :=
  { s with
    sets := s.sets.set set ((s.queues set).erase c)
    pendingSubscribers :=
      if (s.queues set).erase c = ∅ then s.pendingSubscribers.pop key else s.pendingSubscribers }

def stand (c : Nat) (caller : Caller) (standing : Standing) : Switchboard :=
  { s with callers := s.callers.set c { caller with standing } }

def subscribe (b c : Nat) : Switchboard :=
  { s with procs := s.procs.set b { s.bridge b with subscribers := insert c (s.bridge b).subscribers } }

/-- The rest of a call into which `_get_or_spawn_bridge` raised. -/
def raise (c : Nat) (caller : Caller) (standing : Standing) : Switchboard :=
  match caller.pending with
  | none => s.stand c caller standing
  | some set => (s.unregister c caller.key set).stand c caller standing

/-- The rest of a call to which `_get_or_spawn_bridge` returned. -/
def receive (c : Nat) (caller : Caller) (b : Nat) : Switchboard :=
  match caller.pending with
  | none => s.raise c caller (.returned b)
  | some _ => (s.raise c caller (.streaming b)).subscribe b c

def board (c : Nat) (caller : Caller) : Switchboard :=
  { s with flights := s.flights.board c caller.key }.stand c caller .calling

def vacate (key : String) : Switchboard := { s with bridges := s.bridges.pop key }

def getOrSpawn (c : Nat) (caller : Caller) : Switchboard :=
  match s.bridges.get? caller.key with
  | none => s.board c caller
  | some b =>
    if (s.bridge b).alive then s.receive c caller b
    else (s.vacate caller.key).board c caller

/-- The queues that wait for a bridge under the key. -/
def waitingQueues (key : String) : Finset Nat :=
  match s.pendingSubscribers.get? key with
  | none => ∅
  | some set => s.queues set

def publish (c : Nat) (key : String) : Switchboard :=
  { s with
    pendingSubscribers := s.pendingSubscribers.pop key
    procs := s.procs.set c ⟨s.waitingQueues key, true, false⟩
    bridges := s.bridges.set key c
    flights := s.flights.land c key (.ok c) }

inductive Event
  | call (c : Nat) (key : String) (events : Bool)
  | spawned (c : Nat)
  | spawnFailed (c : Nat) (error : String)
  | resume (c : Nat)
  | cancel (c : Nat)
  | finish (c : Nat)
  | exit (key : String)
  | close (b : Nat)
  | reap (key : String)
  deriving DecidableEq

def call (c : Nat) (key : String) (events : Bool) : Switchboard :=
  if events then (s.register c key).getOrSpawn c ⟨key, some (s.pendingSet c key), .calling⟩
  else s.getOrSpawn c ⟨key, none, .calling⟩

def resumeAt (c : Nat) (caller : Caller) (seat : Seat String (Except String Nat)) : Switchboard :=
  match s.flights.futures.get? seat.flight with
  | none => s
  | some (.ok b) => { s with flights := s.flights.take c seat.key seat.flight (.ok b) }.receive c caller b
  | some (.error e) =>
    { s with flights := s.flights.take c seat.key seat.flight (.error e) }.raise c caller (.failed e)

/-- What a caller that waits for another's spawn goes on with. -/
def waiter (c : Nat) (go : Caller → Seat String (Except String Nat) → Switchboard) : Switchboard :=
  match s.callers.get? c with
  | none => s
  | some caller =>
    match s.flights.seats.get? c with
    | none => s
    | some seat => if seat.place = .aboard ∧ seat.flight ≠ c then go caller seat else s

/-- What a caller that spawns goes on with. -/
def owner (c : Nat) (go : Caller → Switchboard) : Switchboard :=
  match s.callers.get? c with
  | none => s
  | some caller => if s.flights.Flies c caller.key then go caller else s

def unsubscribe (b c : Nat) : Switchboard :=
  { s with procs := s.procs.set b { s.bridge b with subscribers := (s.bridge b).subscribers.erase c } }

/-- The generator of a stream ends. -/
def finish (c : Nat) : Switchboard :=
  match s.callers.get? c with
  | none => s
  | some caller =>
    match caller.standing with
    | .streaming b => (s.unsubscribe b c).stand c caller (.ended b)
    | _ => s

def stop (b : Nat) : Switchboard := { s with procs := s.procs.set b { s.bridge b with alive := false } }

def step : Event → Switchboard
  | .call c key events => if (s.callers.get? c).isSome then s else s.call c key events
  | .spawned c => s.owner c (fun caller => (s.publish c caller.key).receive c caller c)
  | .spawnFailed c e =>
    s.owner c (fun caller => { s with flights := s.flights.land c caller.key (.error e) }.raise c caller (.failed e))
  | .resume c => s.waiter c (s.resumeAt c)
  | .cancel c =>
    s.waiter c (fun caller seat =>
      { s with flights := s.flights.leave c seat.key seat.flight }.raise c caller .cancelled)
  | .finish c => s.finish c
  | .exit key =>
    match s.bridges.get? key with
    | none => s
    | some b => s.stop b
  | .close b => if (s.bridge b).alive then s else { s with procs := s.procs.set b ⟨∅, false, true⟩ }
  -- The reaper also looks at the age of the bridge and at its requests; what it finds there is left open.
  | .reap key =>
    match s.bridges.get? key with
    | none => s
    | some b => if (s.bridge b).subscribers = ∅ then (s.stop b).vacate key else s

end Switchboard

end KnowledgeGap.Gateway
