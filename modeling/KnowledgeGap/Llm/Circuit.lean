import KnowledgeGap.Protocol.Runs
import Mathlib.Algebra.Order.Group.Defs
import Mathlib.Algebra.Order.Group.Int
import Mathlib.Data.List.Induction
import Mathlib.Tactic.Abel

namespace KnowledgeGap.Llm

open Protocol

variable {T : Type}

structure CircuitConfig (T : Type) where
  threshold : Nat
  cooldown : T
  deriving DecidableEq

structure CircuitBreaker (T : Type) where
  failures : Nat
  /-- `none` while closed. -/
  openedAt : Option T
  deriving DecidableEq

structure CircuitOpenError (T : Type) where
  failures : Nat
  cooldown : T
  deriving DecidableEq

inductive CircuitState
  | closed
  | halfOpen
  | opened
  deriving DecidableEq

def newBreaker : CircuitBreaker T := ⟨0, none⟩

inductive Operation
  | beforeCall
  | recordSuccess
  | recordFailure
  deriving DecidableEq

/-- One of the operations by a caller, at a reading of the clock. -/
structure BreakerCall (T : Type) where
  caller : Nat
  time : T
  op : Operation
  deriving DecidableEq

/-- What the breaker is for: a run of failures opens it; from then on a cooldown with no call, then one probe at a time,
    and with each probe that fails the cooldown starts over. -/
structure Watch (T : Type) where
  failures : Nat
  /-- When the run of failures reached the threshold. -/
  outset : Option T
  /-- When the cooldown in course began: at the outset, or as the last probe failed. -/
  since : Option T
  /-- The caller whose probe is out. -/
  probe : Option Nat
  deriving DecidableEq

section
variable [AddCommGroup T] [LinearOrder T] (cfg : CircuitConfig T)

def CircuitBreaker.state (b : CircuitBreaker T) (now : T) : CircuitState :=
  match b.openedAt with
  | none => .closed
  | some opened => if cfg.cooldown ≤ now - opened then .halfOpen else .opened

def beforeCall (b : CircuitBreaker T) (now : T) : Except (CircuitOpenError T) Unit :=
  if b.state cfg now = .opened then .error ⟨b.failures, cfg.cooldown⟩ else .ok ()

def recordSuccess (_ : CircuitBreaker T) : CircuitBreaker T := ⟨0, none⟩

def recordFailure (b : CircuitBreaker T) (now : T) : CircuitBreaker T :=
  ⟨b.failures + 1, if cfg.threshold ≤ b.failures + 1 ∧ b.openedAt = none then some now else b.openedAt⟩

def operate (b : CircuitBreaker T) (call : BreakerCall T) : CircuitBreaker T :=
  match call.op with
  | .beforeCall => b
  | .recordSuccess => recordSuccess b
  | .recordFailure => recordFailure cfg b call.time

/-- Whether a call may go out. -/
def Watch.admits (w : Watch T) (now : T) : Bool :=
  w.since.all fun since => decide (cfg.cooldown ≤ now - since) && w.probe.isNone

def Watch.failed (w : Watch T) (call : BreakerCall T) : Watch T :=
  match w.since with
  | none =>
    let reached := if cfg.threshold ≤ w.failures + 1 then some call.time else none
    ⟨w.failures + 1, reached, reached, none⟩
  | some since =>
    if w.probe = some call.caller then ⟨w.failures + 1, w.outset, some call.time, none⟩
    else ⟨w.failures + 1, w.outset, some since, w.probe⟩

def Watch.observe (w : Watch T) (call : BreakerCall T) : Watch T :=
  match call.op with
  | .beforeCall => if w.since.isSome ∧ w.admits cfg call.time then { w with probe := some call.caller } else w
  | .recordSuccess => ⟨0, none, none, none⟩
  | .recordFailure => w.failed cfg call

/-- The breaker beside what it should be. -/
structure Watched (T : Type) where
  breaker : CircuitBreaker T
  watch : Watch T
  deriving DecidableEq

def unused : Watched T := ⟨newBreaker, ⟨0, none, none, none⟩⟩

def Watched.step (s : Watched T) (call : BreakerCall T) : Watched T := ⟨operate cfg s.breaker call, s.watch.observe cfg call⟩

/-- The call is let through, or turned away, as it should be, and a success leaves the breaker as new. -/
def Obeys (s : Watched T) (call : BreakerCall T) : Prop :=
  match call.op with
  | .beforeCall => (beforeCall cfg s.breaker call.time).isOk = s.watch.admits cfg call.time
  | .recordSuccess => operate cfg s.breaker call = newBreaker
  | .recordFailure => True

/-- A call comes once the first cooldown is over, while a probe is out or less than a cooldown after one failed. -/
def Intrudes (w : Watch T) (call : BreakerCall T) : Prop :=
  call.op = .beforeCall ∧ (∃ outset ∈ w.outset, cfg.cooldown ≤ call.time - outset) ∧
    (w.probe ≠ none ∨ ∃ since ∈ w.since, call.time - since < cfg.cooldown)

instance (w : Watch T) (call : BreakerCall T) : Decidable (Intrudes cfg w call) :=
  inferInstanceAs (Decidable (_ ∧ _))

/-- How the two go together after some calls. -/
structure Together (done : List (BreakerCall T)) (s : Watched T) : Prop where
  failures : s.breaker.failures = s.watch.failures
  opened : s.breaker.openedAt = s.watch.outset
  both : s.watch.outset = none ↔ s.watch.since = none
  recorded : ∀ outset, s.watch.outset = some outset → ∃ call ∈ done, call.time = outset
  later : ∀ outset since, s.watch.outset = some outset → s.watch.since = some since → outset ≤ since

omit [AddCommGroup T] in
theorem together_unused : Together [] (unused : Watched T) where
  failures := rfl
  opened := rfl
  both := ⟨fun _ => rfl, fun _ => rfl⟩
  recorded := nofun
  later := nofun

omit [LinearOrder T] in
/-- A failure moves the outset only from nowhere, and the cooldown only to its own moment. -/
theorem failed_cases (w : Watch T) (call : BreakerCall T) (both : w.outset = none ↔ w.since = none) :
    (w.failed cfg call).failures = w.failures + 1 ∧
      ((w.outset = none ∧ (w.failed cfg call).since = (w.failed cfg call).outset ∧
          (w.failed cfg call).outset = if cfg.threshold ≤ w.failures + 1 then some call.time else none) ∨
        ∃ outset since, w.outset = some outset ∧ w.since = some since ∧ (w.failed cfg call).outset = some outset ∧
          ((w.failed cfg call).since = some call.time ∨ (w.failed cfg call).since = some since)) := by
  cases started : w.since with
  | none =>
    have fresh := both.mpr started
    simp [Watch.failed, started, fresh]
  | some since =>
    cases reached : w.outset with
    | none =>
      rw [both.mp reached] at started
      cases started
    | some outset =>
      by_cases probing : w.probe = some call.caller
      · simp [Watch.failed, started, reached, probing]
      · simp [Watch.failed, started, reached, probing]

theorem together_step {done : List (BreakerCall T)} {s : Watched T} {call : BreakerCall T}
    (together : Together done s) (monotone : ∀ past ∈ done, past.time ≤ call.time) :
    Together (done ++ [call]) (s.step cfg call) := by
  have kept : ∀ outset, s.watch.outset = some outset → ∃ past ∈ done ++ [call], past.time = outset := by
    intro outset reached
    have ⟨past, mem, at_⟩ := together.recorded outset reached
    exact ⟨past, List.mem_append_left _ mem, at_⟩
  cases operation : call.op with
  | beforeCall =>
    by_cases admitted : s.watch.since.isSome ∧ s.watch.admits cfg call.time
    · simp only [Watched.step, operate, Watch.observe, operation, if_pos admitted]
      exact ⟨together.failures, together.opened, together.both, kept, together.later⟩
    · simp only [Watched.step, operate, Watch.observe, operation, if_neg admitted]
      exact ⟨together.failures, together.opened, together.both, kept, together.later⟩
  | recordSuccess =>
    simp only [Watched.step, operate, Watch.observe, operation]
    exact ⟨rfl, rfl, ⟨fun _ => rfl, fun _ => rfl⟩, nofun, nofun⟩
  | recordFailure =>
    have ⟨counted, cases_⟩ := failed_cases cfg s.watch call together.both
    simp only [Watched.step, operate, Watch.observe, operation]
    rcases cases_ with ⟨fresh, same, outset_eq⟩ | ⟨outset, since, reached, started, stays, moved⟩
    · have opens : (recordFailure cfg s.breaker call.time).openedAt = (s.watch.failed cfg call).outset := by
        rw [outset_eq, recordFailure, together.failures, together.opened, fresh]
        simp
      refine ⟨?_, opens, by rw [same], ?_, ?_⟩
      · rw [counted, recordFailure, together.failures]
      · intro outset reached
        rw [outset_eq] at reached
        split at reached
        · cases reached
          exact ⟨call, by simp, rfl⟩
        · cases reached
      · intro outset since reached started
        rw [same, reached] at started
        cases started
        exact le_refl _
    · refine ⟨?_, ?_, ?_, ?_, ?_⟩
      · rw [counted, recordFailure, together.failures]
      · rw [stays, recordFailure, together.opened, reached]
        simp
      · rcases moved with moved | moved <;> simp [stays, moved]
      · intro first first_eq
        rw [stays] at first_eq
        exact kept first (by rw [reached, first_eq])
      · intro first start first_eq start_eq
        rw [stays] at first_eq
        cases first_eq
        rcases moved with moved | moved
        · rw [moved] at start_eq
          cases start_eq
          have ⟨past, mem, at_⟩ := together.recorded outset reached
          exact at_ ▸ monotone past mem
        · rw [moved] at start_eq
          cases start_eq
          exact together.later outset since reached started

theorem together_run {calls : List (BreakerCall T)} (monotone : calls.Pairwise fun a b => a.time ≤ b.time) :
    Together calls (run (Watched.step cfg) unused calls) := by
  induction calls using List.reverseRecOn with
  | nil => exact together_unused
  | append_singleton calls call ih =>
    have ⟨before, _, across⟩ := List.pairwise_append.mp monotone
    rw [run_append]
    exact together_step cfg (ih before) (fun past mem => across past mem call (List.mem_singleton_self call))

theorem beforeCall_isOk_iff {s : Watched T} {call : BreakerCall T} {outset : T} (opened : s.breaker.openedAt = some outset) :
    (beforeCall cfg s.breaker call.time).isOk ↔ cfg.cooldown ≤ call.time - outset := by
  by_cases over_ : cfg.cooldown ≤ call.time - outset
  · simp [beforeCall, CircuitBreaker.state, opened, over_, Except.isOk, Except.toBool]
  · simp [beforeCall, CircuitBreaker.state, opened, over_, Except.isOk, Except.toBool]

theorem obeys_iff [IsOrderedAddMonoid T] {done : List (BreakerCall T)} {s : Watched T} {call : BreakerCall T}
    (together : Together done s) : Obeys cfg s call ↔ ¬ Intrudes cfg s.watch call := by
  cases operation : call.op with
  | recordSuccess => simp [Obeys, Intrudes, operation, operate, recordSuccess, newBreaker]
  | recordFailure => simp [Obeys, Intrudes, operation]
  | beforeCall =>
    cases reached : s.watch.outset with
    | none =>
      have closed : s.breaker.openedAt = none := by rw [together.opened, reached]
      have admitted := together.both.mp reached
      simp [Obeys, Intrudes, operation, reached, Watch.admits, admitted, beforeCall, CircuitBreaker.state, closed,
        Except.isOk, Except.toBool]
    | some outset =>
      cases started : s.watch.since with
      | none =>
        rw [together.both.mpr started] at reached
        cases reached
      | some since =>
        have opened : s.breaker.openedAt = some outset := by rw [together.opened, reached]
        have order := together.later outset since reached started
        -- A cooldown counted from later ends later.
        have longer : cfg.cooldown ≤ call.time - since → cfg.cooldown ≤ call.time - outset := by
          intro over_
          exact over_.trans (sub_le_sub_left order _)
        have admits_iff : s.watch.admits cfg call.time = true ↔ cfg.cooldown ≤ call.time - since ∧ s.watch.probe = none := by
          simp [Watch.admits, started]
        have intrudes_iff : Intrudes cfg s.watch call ↔
            cfg.cooldown ≤ call.time - outset ∧ (s.watch.probe ≠ none ∨ call.time - since < cfg.cooldown) := by
          simp [Intrudes, operation, reached, started]
        have obeys_eq : Obeys cfg s call ↔
            (cfg.cooldown ≤ call.time - outset ↔ cfg.cooldown ≤ call.time - since ∧ s.watch.probe = none) := by
          rw [← beforeCall_isOk_iff cfg opened, ← admits_iff, ← Bool.eq_iff_iff]
          simp [Obeys, operation]
        rw [obeys_eq, intrudes_iff, ← not_le]
        constructor
        · intro same intrudes
          have ⟨over_, probing⟩ := intrudes
          have ⟨late, free⟩ := same.mp over_
          exact probing.elim (fun out => out free) (fun early => early late)
        · intro quiet
          constructor
          · intro over_
            by_contra refused
            exact quiet ⟨over_, (not_and_or.mp refused).symm⟩
          · intro ready
            exact longer ready.1

/-- The breaker does what it is for in a run exactly when, past the first cooldown, no call comes while a probe is out
    or less than a cooldown after one failed. -/
theorem breaker_obeys_iff [IsOrderedAddMonoid T] {calls : List (BreakerCall T)}
    (monotone : calls.Pairwise fun a b => a.time ≤ b.time) :
    (∀ done call rest, calls = done ++ call :: rest → Obeys cfg (run (Watched.step cfg) unused done) call) ↔
      Along (Watched.step cfg) (fun s call => ¬ Intrudes cfg s.watch call) unused calls := by
  rw [along_iff_every]
  have each : ∀ done call rest, calls = done ++ call :: rest →
      (Obeys cfg (run (Watched.step cfg) unused done) call ↔ ¬ Intrudes cfg (run (Watched.step cfg) unused done).watch call) := by
    intro done call rest split
    rw [split] at monotone
    exact obeys_iff cfg (together_run cfg (List.pairwise_append.mp monotone).1)
  constructor
  · intro obeys done call rest split
    exact (each done call rest split).mp (obeys done call rest split)
  · intro along done call rest split
    exact (each done call rest split).mpr (along done call rest split)

end

/-- The settings the vision breaker has unless the environment sets others. -/
def visionBreaker : CircuitConfig Int := ⟨5, 60⟩

def fiveFailures : List (BreakerCall Int) :=
  [⟨1, 0, .recordFailure⟩, ⟨2, 0, .recordFailure⟩, ⟨3, 0, .recordFailure⟩, ⟨1, 1, .recordFailure⟩, ⟨2, 1, .recordFailure⟩]

theorem breaker_obeys_recovering :
    Along (Watched.step visionBreaker) (fun s call => ¬ Intrudes visionBreaker s.watch call) unused
        (fiveFailures ++ [⟨1, 30, .beforeCall⟩, ⟨2, 61, .beforeCall⟩, ⟨2, 63, .recordSuccess⟩, ⟨3, 64, .beforeCall⟩]) ∧
      Obeys visionBreaker (run (Watched.step visionBreaker) unused fiveFailures) ⟨1, 30, .beforeCall⟩ := by
  have along : Along (Watched.step visionBreaker) (fun s call => ¬ Intrudes visionBreaker s.watch call) unused
      (fiveFailures ++ [⟨1, 30, .beforeCall⟩, ⟨2, 61, .beforeCall⟩, ⟨2, 63, .recordSuccess⟩, ⟨3, 64, .beforeCall⟩]) := by
    decide
  exact ⟨along, (breaker_obeys_iff visionBreaker (by decide)).mpr along fiveFailures _ _ rfl⟩

/-- Two callers probe at once, and another right after one of them has failed. -/
theorem two_probes :
    ¬ (∀ done call rest, fiveFailures ++ [⟨1, 61, .beforeCall⟩, ⟨2, 62, .beforeCall⟩] = done ++ call :: rest →
        Obeys visionBreaker (run (Watched.step visionBreaker) unused done) call) ∧
      ¬ ∀ done call rest,
        fiveFailures ++ [⟨1, 61, .beforeCall⟩, ⟨1, 63, .recordFailure⟩, ⟨2, 64, .beforeCall⟩] = done ++ call :: rest →
          Obeys visionBreaker (run (Watched.step visionBreaker) unused done) call := by
  constructor
  · intro obeys
    have same := obeys (fiveFailures ++ [⟨1, 61, .beforeCall⟩]) ⟨2, 62, .beforeCall⟩ [] rfl
    have differ : (beforeCall visionBreaker
        (run (Watched.step visionBreaker) unused (fiveFailures ++ [⟨1, 61, .beforeCall⟩])).breaker 62).isOk ≠
      (run (Watched.step visionBreaker) unused (fiveFailures ++ [⟨1, 61, .beforeCall⟩])).watch.admits visionBreaker 62 := by
      decide
    exact differ same
  · intro obeys
    have same := obeys (fiveFailures ++ [⟨1, 61, .beforeCall⟩, ⟨1, 63, .recordFailure⟩]) ⟨2, 64, .beforeCall⟩ [] rfl
    have differ : (beforeCall visionBreaker (run (Watched.step visionBreaker) unused
        (fiveFailures ++ [⟨1, 61, .beforeCall⟩, ⟨1, 63, .recordFailure⟩])).breaker 64).isOk ≠
      (run (Watched.step visionBreaker) unused
        (fiveFailures ++ [⟨1, 61, .beforeCall⟩, ⟨1, 63, .recordFailure⟩])).watch.admits visionBreaker 64 := by
      decide
    exact differ same

end KnowledgeGap.Llm
