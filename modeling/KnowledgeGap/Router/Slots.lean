import KnowledgeGap.Router.Proxy

namespace KnowledgeGap.Router

open Relational Protocol

variable {K : Type}

/-- How far the release of a lease has come. -/
inductive Stage
  | held
  | flagged
  | settled
  deriving DecidableEq, Repr

/-- The lease a request has to do with. -/
def Phase.holds : Phase K → Option (Nat × Stage)
  | .calling _ lease | .reading _ lease | .exiting _ lease | .offering _ lease _ => some (lease, .held)
  | .offered lease _ | .iterating lease _ | .closing lease _ => some (lease, .held)
  | .releasing _ lease _ _ => some (lease, .flagged)
  | .building _ lease _ => some (lease, .settled)
  | .acquiring _ _ | .sleeping _ | .ended => none

/-- What does not make a request drop its lease: no exception but of the two families while the upstream is asked, none
    while the iterator closes its stream, no cancellation while `Lease.release` waits, and an iterator that is started
    and not left behind. -/
def benign : Phase K → Happening K → Bool
  | .calling _ _, .raised e | .reading _ _, .raised e | .exiting _ _, .raised e => e.caught
  | .offering _ _ _, .raised (.failure .other) => false
  | .releasing _ _ _ _, .raised .cancelled => false
  | .offered _ _, .abandoned => false
  | .iterating _ _, .abandoned => false
  | .closing _ _, .raised _ => false
  | _, _ => true

/-- What a move has to do with the lease of its request; only a move that is not benign drops one that is open. -/
inductive Fits (p : Phase K) : Bool → Move K → Prop
  | stay : Fits p true .stay
  | keep {phase : Phase K} (alive : p ≠ .ended) (same : phase.holds = p.holds) : Fits p true (.enter phase)
  | leave {phase : Phase K} {lease : Nat} (holding : p.holds = some (lease, .settled)) (free : phase.holds = none) :
      Fits p true (.enter phase)
  | lose {lease : Nat} {stage : Stage} (holding : p.holds = some (lease, stage)) (unsettled : stage ≠ .settled) :
      Fits p false (.enter .ended)
  | acquire {attempt : Nat} {now deadline : K} (alive : p ≠ .ended) (free : p.holds = none) :
      Fits p true (.acquire attempt now deadline)
  | reject (alive : p ≠ .ended) (free : p.holds = none) : Fits p true .reject
  | release {attempt lease : Nat} {success : Bool} {next : Next} (holding : p.holds = some (lease, .held)) :
      Fits p true (.release attempt lease success next)
  | again {attempt lease : Nat} {success : Bool} (holding : p.holds = some (lease, .settled)) :
      Fits p true (.release attempt lease success .nothing)
  | settle {attempt lease : Nat} {success : Bool} {next : Next} {booked opened : K} (holding : p.holds = some (lease, .flagged)) :
      Fits p true (.settle attempt lease success next booked opened)

theorem handle_fits {p : Phase K} {attempt lease : Nat} (holding : p.holds = some (lease, .held)) (e : Exc) :
    Fits p e.caught (handle attempt lease e) := by
  unfold handle
  cases caught : e.caught with
  | true => exact .release holding
  | false => exact .lose holding (by simp)

section
variable [Field K] [LinearOrder K] (cfg : RouterConfig K)

theorem move_fits (stream : Bool) (p : Phase K) (what : Happening K) : Fits p (benign p what) (move cfg stream p what) := by
  cases p with
  | acquiring attempt deadline =>
    cases what with
    | turn now => exact .acquire (by simp) rfl
    | timedOut now =>
      show Fits _ true (if deadline ≤ now then Move.reject else Move.stay)
      split
      · exact .reject (by simp) rfl
      · exact .stay
    | raised e =>
      cases e with
      | cancelled => exact .keep (by simp) rfl
      | failure f => exact .stay
    | answered | done | started | exhausted | aclosed | abandoned => exact .stay
  | calling attempt lease =>
    cases what with
    | answered status =>
      show Fits _ true (if stream then if retryable status then Move.enter (.reading attempt lease)
        else Move.enter (.offering attempt lease status) else Move.release attempt lease (!retryable status) _)
      split
      · split
        · exact .keep (by simp) rfl
        · exact .keep (by simp) rfl
      · exact .release rfl
    | raised e => exact handle_fits rfl e
    | turn | timedOut | done | started | exhausted | aclosed | abandoned => exact .stay
  | reading attempt lease =>
    cases what with
    | done => exact .keep (by simp) rfl
    | raised e => exact handle_fits rfl e
    | turn | timedOut | answered | started | exhausted | aclosed | abandoned => exact .stay
  | exiting attempt lease =>
    cases what with
    | done => exact .release rfl
    | raised e => exact handle_fits rfl e
    | turn | timedOut | answered | started | exhausted | aclosed | abandoned => exact .stay
  | releasing attempt lease success next =>
    cases what with
    | done => exact .settle rfl
    | raised e =>
      cases e with
      | cancelled => exact .lose rfl (by simp)
      | failure f => exact .stay
    | turn | timedOut | answered | started | exhausted | aclosed | abandoned => exact .stay
  | building attempt lease next =>
    cases what with
    | done =>
      refine .leave rfl ?_
      split
      · rfl
      · unfold retryOrEnd
        split <;> rfl
    | raised e =>
      cases e with
      | cancelled => exact .stay
      | failure f =>
        show Fits _ true (if next = .nothing then Move.stay else handle attempt lease (.failure f))
        split
        · exact .stay
        · unfold handle
          split
          · exact .again rfl
          · exact .leave rfl rfl
    | turn | timedOut | answered | started | exhausted | aclosed | abandoned => exact .stay
  | offering attempt lease status =>
    cases what with
    | done => exact .keep (by simp) rfl
    | raised e =>
      cases e with
      | cancelled => exact .stay
      | failure f =>
        cases f with
        | other => exact .lose rfl (by simp)
        | httpError => exact .release rfl
        | runtimeError => exact .release rfl
    | turn | timedOut | answered | started | exhausted | aclosed | abandoned => exact .stay
  | offered lease status =>
    cases what with
    | started => exact .keep (by simp) rfl
    | abandoned => exact .lose rfl (by simp)
    | turn | timedOut | answered | done | raised | exhausted | aclosed => exact .stay
  | iterating lease status =>
    cases what with
    | exhausted => exact .keep (by simp) rfl
    | raised => exact .keep (by simp) rfl
    | aclosed => exact .keep (by simp) rfl
    | abandoned => exact .lose rfl (by simp)
    | turn | timedOut | answered | done | started => exact .stay
  | closing lease ok =>
    cases what with
    | done => exact .release rfl
    | raised => exact .lose rfl (by simp)
    | turn | timedOut | answered | started | exhausted | aclosed | abandoned => exact .stay
  | sleeping attempt =>
    cases what with
    | turn => exact .keep (by simp) rfl
    | raised e =>
      cases e with
      | cancelled => exact .keep (by simp) rfl
      | failure f => exact .stay
    | timedOut | answered | done | started | exhausted | aclosed | abandoned => exact .stay
  | ended => exact .stay

end

def Stage.flag : Stage → Bool
  | .held => false
  | .flagged | .settled => true

def Stage.count : Stage → Nat
  | .held | .flagged => 0
  | .settled => 1

/-- The leases the scheduler has not got back. -/
def out (leases : List LeaseRow) : List Lease := leases.filterMap (fun row => if row.returned = 0 then some row.lease else none)

/-- The lease of a request is as its phase says. -/
def Tied (leases : List LeaseRow) (request : Nat) (phase : Phase K) : Prop :=
  ∀ lease stage, phase.holds = some (lease, stage) →
    ∃ row, leases[lease]? = some row ∧ row.owner = request ∧ row.released = stage.flag ∧ row.returned = stage.count

/-- An open lease is in the hands of its request, unless the request has ended. -/
def Tracked (requests : List (RequestRow K)) (number : Nat) (row : LeaseRow) : Prop :=
  ∃ request, requests[row.owner]? = some request ∧ row.returned ≤ 1 ∧
    (row.returned = 0 → request.phase = .ended ∨ ∃ stage, request.phase.holds = some (number, stage) ∧ stage ≠ .settled)

structure Tidy (a : App K) : Prop where
  tied : ∀ i request, a.requests[i]? = some request → Tied a.leases i request.phase
  tracked : ∀ n row, a.leases[n]? = some row → Tracked a.requests n row
  counted : Counted a.scheduler (out a.leases)

/-- Every lease of a request that has ended was taken back by the scheduler once. -/
def Returned (a : App K) : Prop :=
  ∀ (n : Nat) (row : LeaseRow) (request : RequestRow K), a.leases[n]? = some row → a.requests[row.owner]? = some request →
    request.phase = .ended → row.returned = 1

/-- When all requests have ended, all counters are at zero. -/
def Drained (a : App K) : Prop :=
  (∀ (i : Nat) (request : RequestRow K), a.requests[i]? = some request → request.phase = .ended) →
    a.scheduler.globalInFlight = 0 ∧ (∀ c, a.scheduler.capInFlight.getD c 0 = 0) ∧
      ∀ (i : Nat) (k : KeyState K), a.scheduler.keys[i]? = some k → k.inFlight = 0

theorem Returned.drained {a : App K} (tidy : Tidy a) (returned : Returned a) : Drained a := by
  intro all
  have none : out a.leases = [] := by
    rw [out, List.filterMap_eq_nil_iff]
    intro row listed
    obtain ⟨n, found⟩ := List.getElem?_of_mem listed
    obtain ⟨request, owner, _⟩ := tidy.tracked n row found
    rw [if_neg]
    rw [returned n row request found owner (all _ request owner)]
    exact one_ne_zero
  have counted := tidy.counted
  rw [none] at counted
  exact ⟨counted.global, counted.capability, counted.keys⟩

theorem getElem?_modify_some {α : Type} {xs : List α} {n i : Nat} {f : α → α} {y : α} (found : (xs.modify n f)[i]? = some y) :
    (i = n ∧ ∃ x, xs[n]? = some x ∧ y = f x) ∨ (i ≠ n ∧ xs[i]? = some y) := by
  by_cases same : n = i
  · subst same
    rw [List.getElem?_modify_eq] at found
    obtain ⟨x, before, rfl⟩ := Option.map_eq_some_iff.mp found
    exact Or.inl ⟨rfl, x, before, rfl⟩
  · rw [List.getElem?_modify_ne _ _ same] at found
    exact Or.inr ⟨Ne.symm same, found⟩

theorem getElem?_modify_of_some {α : Type} {xs : List α} {n : Nat} {f : α → α} {x : α} (found : xs[n]? = some x) :
    (xs.modify n f)[n]? = some (f x) := by
  rw [List.getElem?_modify_eq, found]
  rfl

/-- Nothing about the leases changes, and the request stays within what the invariant says of it. -/
theorem Tidy.goto {a : App K} (tidy : Tidy a) {i : Nat} {request : RequestRow K} (here : a.requests[i]? = some request)
    {scheduler : RouterScheduler K} (counted : Counted scheduler (out a.leases)) {phase : Phase K} (tied : Tied a.leases i phase)
    (keeps : ∀ n row, a.leases[n]? = some row → row.owner = i → row.returned = 0 →
      phase = .ended ∨ ∃ stage, phase.holds = some (n, stage) ∧ stage ≠ .settled) :
    Tidy (App.goto { a with scheduler := scheduler } i phase) where
  tied := by
    intro j other found
    rcases getElem?_modify_some found with ⟨rfl, _, _, rfl⟩ | ⟨_, before⟩
    · exact tied
    · exact tidy.tied j other before
  tracked := by
    intro n row found
    obtain ⟨owner, before, once, open_⟩ := tidy.tracked n row found
    by_cases own : row.owner = i
    · rw [own, here] at before
      cases before
      refine ⟨atPhase phase request, ?_, once, keeps n row found own⟩
      rw [own]
      exact getElem?_modify_of_some here
    · refine ⟨owner, ?_, once, open_⟩
      exact (List.getElem?_modify_ne _ _ (Ne.symm own)).trans before
  counted := counted

/-- A request that holds no open lease owns none. -/
theorem Tidy.owns {a : App K} (tidy : Tidy a) {i : Nat} {request : RequestRow K} (here : a.requests[i]? = some request)
    {n : Nat} {row : LeaseRow} (found : a.leases[n]? = some row) (own : row.owner = i) (open_ : row.returned = 0) :
    request.phase = .ended ∨ ∃ stage, request.phase.holds = some (n, stage) ∧ stage ≠ .settled := by
  obtain ⟨owner, before, _, held⟩ := tidy.tracked n row found
  rw [own, here] at before
  cases before
  exact held open_

theorem Returned.goto {a : App K} (returned : Returned a) {i : Nat} {scheduler : RouterScheduler K} {phase : Phase K}
    (settled : phase = .ended → ∀ (n : Nat) (row : LeaseRow), a.leases[n]? = some row → row.owner = i → row.returned = 1) :
    Returned (App.goto { a with scheduler := scheduler } i phase) := by
  intro n row request found owner ended
  rcases getElem?_modify_some owner with ⟨own, _, _, rfl⟩ | ⟨_, before⟩
  · exact settled ended n row found own
  · exact returned n row request found before ended

/-- The request works on its lease. -/
theorem Tidy.modify {a : App K} (tidy : Tidy a) {i : Nat} {request : RequestRow K} (here : a.requests[i]? = some request)
    {lease : Nat} {stage : Stage} (holding : request.phase.holds = some (lease, stage)) {f : LeaseRow → LeaseRow}
    (owner : ∀ row, (f row).owner = row.owner) {scheduler : RouterScheduler K}
    (counted : Counted scheduler (out (a.leases.modify lease f))) {phase : Phase K} (tied : Tied (a.leases.modify lease f) i phase)
    (after : ∀ row, a.leases[lease]? = some row → (f row).returned ≤ 1 ∧
      ((f row).returned = 0 → phase = .ended ∨ ∃ stage, phase.holds = some (lease, stage) ∧ stage ≠ .settled)) :
    Tidy (App.goto { a with scheduler := scheduler, leases := a.leases.modify lease f } i phase) := by
  obtain ⟨mine, stored, own, _⟩ := tidy.tied i request here lease stage holding
  refine ⟨?_, ?_, counted⟩
  · intro j other found
    rcases getElem?_modify_some found with ⟨rfl, _, _, rfl⟩ | ⟨apart, before⟩
    · exact tied
    · intro number stage' held
      obtain ⟨row, there, theirs, rest⟩ := tidy.tied j other before number stage' held
      refine ⟨row, ?_, theirs, rest⟩
      have different : lease ≠ number := by
        intro same
        rw [← same, stored] at there
        cases there
        exact apart (theirs.symm.trans own)
      exact (List.getElem?_modify_ne _ _ different).trans there
  · intro n row found
    have moved : (a.requests.modify i (atPhase phase))[i]? = some (atPhase phase request) := getElem?_modify_of_some here
    rcases getElem?_modify_some found with ⟨rfl, before, there, rfl⟩ | ⟨apart, there⟩
    · rw [stored] at there
      cases there
      refine ⟨atPhase phase request, ?_, after mine stored⟩
      rw [owner, own]
      exact moved
    · obtain ⟨theirs, known, once, open_⟩ := tidy.tracked n row there
      by_cases same : row.owner = i
      · rw [same, here] at known
        cases known
        refine ⟨atPhase phase request, same ▸ moved, once, ?_⟩
        intro zero
        rcases open_ zero with ended | ⟨stage', held, _⟩
        · rw [ended] at holding
          cases holding
        · rw [holding] at held
          cases held
          exact absurd rfl apart
      · refine ⟨theirs, ?_, once, open_⟩
        exact (List.getElem?_modify_ne _ _ (Ne.symm same)).trans known

theorem Returned.modify {a : App K} (returned : Returned a) (tidy : Tidy a) {i : Nat} {request : RequestRow K}
    (here : a.requests[i]? = some request) {lease : Nat} {stage : Stage} (holding : request.phase.holds = some (lease, stage))
    (unsettled : stage ≠ .settled) {f : LeaseRow → LeaseRow} (owner : ∀ row, (f row).owner = row.owner)
    {scheduler : RouterScheduler K} {phase : Phase K}
    (settled : phase = .ended → ∀ row, a.leases[lease]? = some row → row.returned = 0 → (f row).returned = 1) :
    Returned (App.goto { a with scheduler := scheduler, leases := a.leases.modify lease f } i phase) := by
  obtain ⟨mine, stored, own, _, fresh⟩ := tidy.tied i request here lease stage holding
  intro n row other found known ended
  rcases getElem?_modify_some found with ⟨rfl, _, there, rfl⟩ | ⟨apart, there⟩
  · rw [stored] at there
    cases there
    rw [owner, own] at known
    rcases getElem?_modify_some known with ⟨_, _, _, rfl⟩ | ⟨never, _⟩
    · apply settled ended mine stored
      rw [fresh]
      cases stage with
      | held => rfl
      | flagged => rfl
      | settled => exact absurd rfl unsettled
    · exact absurd rfl never
  · rcases getElem?_modify_some known with ⟨same, _, _, rfl⟩ | ⟨_, before⟩
    · obtain ⟨theirs, known', once, open_⟩ := tidy.tracked n row there
      by_contra short
      have zero : row.returned = 0 := by omega
      rw [same, here] at known'
      cases known'
      rcases open_ zero with stopped | ⟨stage', held, _⟩
      · rw [stopped] at holding
        cases holding
      · rw [holding] at held
        cases held
        exact absurd rfl apart
    · exact returned n row other there before ended

theorem out_modify_flagged (leases : List LeaseRow) (n : Nat) : out (leases.modify n flagged) = out leases := by
  induction leases generalizing n with
  | nil => rw [List.modify_nil]
  | cons row leases ih =>
    cases n with
    | zero => rfl
    | succ n =>
      unfold out at ih ⊢
      rw [List.modify_succ_cons, List.filterMap_cons, List.filterMap_cons, ih]

theorem out_modify_returned {leases : List LeaseRow} {n : Nat} {row : LeaseRow} (found : leases[n]? = some row)
    (open_ : row.returned = 0) : (out leases).Perm (row.lease :: out (leases.modify n returnedOnce)) := by
  induction leases generalizing n with
  | nil => simp at found
  | cons first leases ih =>
    cases n with
    | zero =>
      rw [List.getElem?_cons_zero, Option.some.injEq] at found
      subst found
      simp [out, returnedOnce, open_]
    | succ n =>
      rw [List.getElem?_cons_succ] at found
      have rest := ih found
      unfold out at rest ⊢
      rw [List.modify_succ_cons, List.filterMap_cons, List.filterMap_cons]
      split
      · exact rest
      · rename_i lease _
        exact (rest.cons lease).trans (List.Perm.swap _ _ _)

section
variable {a : App K} {i : Nat} {request : RequestRow K}

theorem steps_of_kept (tidy : Tidy a) (here : a.requests[i]? = some request) {phase : Phase K} (alive : request.phase ≠ .ended)
    {scheduler : RouterScheduler K} (counted : Counted scheduler (out a.leases)) (same : phase.holds = request.phase.holds) :
    Tidy (App.goto { a with scheduler := scheduler } i phase) ∧
      (Returned a → Returned (App.goto { a with scheduler := scheduler } i phase)) := by
  refine ⟨tidy.goto here counted ?_ ?_, fun returned => returned.goto ?_⟩
  · intro lease stage held
    exact tidy.tied i request here lease stage (same ▸ held)
  · intro n row found own open_
    rcases tidy.owns here found own open_ with ended | held
    · exact absurd ended alive
    · rw [same]
      exact Or.inr held
  · intro ended n row found own
    obtain ⟨_, _, once, _⟩ := tidy.tracked n row found
    by_contra short
    rcases tidy.owns here found own (by omega) with stopped | ⟨stage, held, _⟩
    · exact alive stopped
    · rw [← same, ended] at held
      cases held

theorem steps_of_left (tidy : Tidy a) (here : a.requests[i]? = some request) {phase : Phase K} {lease : Nat}
    (holding : request.phase.holds = some (lease, .settled)) (free : phase.holds = none) :
    Tidy (a.goto i phase) ∧ (Returned a → Returned (a.goto i phase)) := by
  have none : ∀ (n : Nat) (row : LeaseRow), a.leases[n]? = some row → row.owner = i → row.returned ≠ 0 := by
    intro n row found own open_
    rcases tidy.owns here found own open_ with stopped | ⟨stage, held, unsettled⟩
    · rw [stopped] at holding
      cases holding
    · rw [holding] at held
      cases held
      exact unsettled rfl
  refine ⟨tidy.goto here tidy.counted ?_ ?_, fun returned => returned.goto ?_⟩
  · intro lease stage held
    rw [free] at held
    cases held
  · exact fun n row found own open_ => absurd open_ (none n row found own)
  · intro _ n row found own
    obtain ⟨_, _, once, _⟩ := tidy.tracked n row found
    have some := none n row found own
    omega

/-- A request that ends with an open lease has lost it. -/
theorem steps_of_lost (tidy : Tidy a) (here : a.requests[i]? = some request) {lease : Nat} {stage : Stage}
    (holding : request.phase.holds = some (lease, stage)) (unsettled : stage ≠ .settled) :
    Tidy (a.goto i .ended) ∧ ¬ Returned (a.goto i .ended) := by
  refine ⟨tidy.goto here tidy.counted ?_ ?_, ?_⟩
  · intro lease stage held
    cases held
  · exact fun _ _ _ _ _ => Or.inl rfl
  · intro returned
    obtain ⟨row, found, own, _, fresh⟩ := tidy.tied i request here lease stage holding
    have known : (a.goto i .ended).requests[row.owner]? = some (atPhase .ended request) := by
      rw [own]
      exact getElem?_modify_of_some here
    have once := returned lease row _ found known rfl
    rw [once] at fresh
    cases stage with
    | held => cases fresh
    | flagged => cases fresh
    | settled => exact unsettled rfl

theorem steps_of_release (tidy : Tidy a) (here : a.requests[i]? = some request) {lease : Nat}
    (holding : request.phase.holds = some (lease, .held)) (attempt : Nat) (success : Bool) (next : Next) :
    Tidy (a.callRelease i attempt lease success next) ∧ (Returned a → Returned (a.callRelease i attempt lease success next)) := by
  obtain ⟨mine, stored, own, flag, fresh⟩ := tidy.tied i request here lease .held holding
  have waits : a.callRelease i attempt lease success next =
      App.goto { a with leases := a.leases.modify lease flagged } i (.releasing attempt lease success next) := by
    unfold App.callRelease
    rw [stored]
    dsimp only
    rw [flag]
    rfl
  have counted : Counted a.scheduler (out (a.leases.modify lease flagged)) := by
    rw [out_modify_flagged]
    exact tidy.counted
  rw [waits]
  refine ⟨tidy.modify (f := flagged) here holding (fun _ => rfl) counted ?_ ?_, fun returned =>
    returned.modify (f := flagged) tidy here holding (by simp) (fun _ => rfl) (by simp)⟩
  · intro number stage held
    cases held
    exact ⟨flagged mine, getElem?_modify_of_some stored, own, rfl, fresh⟩
  · intro row found
    rw [stored] at found
    cases found
    refine ⟨?_, fun _ => Or.inr ⟨.flagged, rfl, by simp⟩⟩
    show mine.returned ≤ 1
    rw [fresh]
    decide

theorem steps_of_again (tidy : Tidy a) (here : a.requests[i]? = some request) {lease : Nat}
    (holding : request.phase.holds = some (lease, .settled)) (attempt : Nat) (success : Bool) :
    Tidy (a.callRelease i attempt lease success .nothing) ∧
      (Returned a → Returned (a.callRelease i attempt lease success .nothing)) := by
  obtain ⟨mine, stored, _, flag, _⟩ := tidy.tied i request here lease .settled holding
  have through : a.callRelease i attempt lease success .nothing = a.goto i (.building attempt lease .nothing) := by
    unfold App.callRelease
    rw [stored]
    dsimp only
    rw [flag]
    rfl
  have alive : request.phase ≠ .ended := by
    intro stopped
    rw [stopped] at holding
    cases holding
  rw [through]
  exact steps_of_kept tidy here alive tidy.counted holding.symm

end

section
variable [Field K] [LinearOrder K] {cfg : RouterConfig K}

omit [LinearOrder K] in
theorem Counted.settled {s : RouterScheduler K} {leases : List LeaseRow} (counted : Counted s (out leases)) {n : Nat}
    {row : LeaseRow} (found : leases[n]? = some row) (open_ : row.returned = 0) (success : Bool) (booked opened : K) :
    Counted (Router.release cfg s row.lease success none booked opened) (out (leases.modify n returnedOnce)) := by
  have split := out_modify_returned found open_
  have member : row.lease ∈ out leases := split.mem_iff.mpr List.mem_cons_self
  have erased := split.erase row.lease
  rw [List.erase_cons_head] at erased
  exact (counted.release member success none booked opened).perm erased.symm

variable {a : App K} {i : Nat} {request : RequestRow K}

omit [LinearOrder K] in
theorem steps_of_settle (tidy : Tidy a) (here : a.requests[i]? = some request) {lease : Nat}
    (holding : request.phase.holds = some (lease, .flagged)) (attempt : Nat) (success : Bool) (next : Next) (booked opened : K) :
    Tidy (a.settle cfg i attempt lease success next booked opened) ∧
      (Returned a → Returned (a.settle cfg i attempt lease success next booked opened)) := by
  obtain ⟨mine, stored, own, flag, fresh⟩ := tidy.tied i request here lease .flagged holding
  have given : a.settle cfg i attempt lease success next booked opened = App.goto { a with
      scheduler := Router.release cfg a.scheduler mine.lease success none booked opened
      leases := a.leases.modify lease returnedOnce } i (afterRelease attempt lease next) := by
    unfold App.settle
    rw [stored]
  rw [given]
  refine ⟨tidy.modify (f := returnedOnce) here holding (fun _ => rfl) (tidy.counted.settled stored fresh success booked opened) ?_ ?_,
    fun returned => returned.modify (f := returnedOnce) tidy here holding (by simp) (fun _ => rfl) ?_⟩
  · intro number stage held
    have settled : next ≠ .finished ∧ number = lease ∧ stage = .settled := by
      cases next with
      | finished => cases held
      | lastError | response | nothing =>
        cases held
        simp
    obtain ⟨_, rfl, rfl⟩ := settled
    refine ⟨returnedOnce mine, getElem?_modify_of_some stored, own, flag, ?_⟩
    show mine.returned + 1 = 1
    rw [fresh]
    rfl
  · intro row found
    rw [stored] at found
    cases found
    have once : (returnedOnce mine).returned = 1 := by
      show mine.returned + 1 = 1
      rw [fresh]
      rfl
    rw [once]
    exact ⟨le_refl 1, fun zero => absurd zero one_ne_zero⟩
  · intro _ row _ zero
    show row.returned + 1 = 1
    rw [zero]

theorem getElem?_append_of_some {α : Type} {xs : List α} {n : Nat} {x : α} (found : xs[n]? = some x) (ys : List α) :
    (xs ++ ys)[n]? = some x := by
  rw [List.getElem?_append_left (List.getElem?_eq_some_iff.mp found).1]
  exact found

theorem getElem?_append_singleton {α : Type} {xs : List α} {n : Nat} {x y : α} (found : (xs ++ [y])[n]? = some x) :
    xs[n]? = some x ∨ (n = xs.length ∧ x = y) := by
  rcases Nat.lt_or_ge n xs.length with inside | beyond
  · rw [List.getElem?_append_left inside] at found
    exact Or.inl found
  · rw [List.getElem?_append_right beyond, List.getElem?_singleton] at found
    split at found
    · rename_i last
      cases found
      exact Or.inr ⟨by omega, rfl⟩
    · cases found

omit [Field K] [LinearOrder K] in
theorem steps_of_granted (tidy : Tidy a) (here : a.requests[i]? = some request) (alive : request.phase ≠ .ended)
    (free : request.phase.holds = none) {scheduler : RouterScheduler K} {lease : Lease}
    (counted : Counted scheduler (out a.leases ++ [lease])) (attempt : Nat) :
    Tidy (App.goto { a with scheduler := scheduler, leases := a.leases ++ [⟨lease, i, false, 0⟩] } i
        (.calling attempt a.leases.length)) ∧
      (Returned a → Returned (App.goto { a with scheduler := scheduler, leases := a.leases ++ [⟨lease, i, false, 0⟩] } i
        (.calling attempt a.leases.length))) := by
  have last : (a.leases ++ [⟨lease, i, false, 0⟩])[a.leases.length]? = some ⟨lease, i, false, 0⟩ := by simp
  have moved : (a.requests.modify i (atPhase (.calling attempt a.leases.length)))[i]? =
      some (atPhase (.calling attempt a.leases.length) request) := getElem?_modify_of_some here
  have none : ∀ (n : Nat) (row : LeaseRow), a.leases[n]? = some row → row.owner = i → row.returned ≠ 0 := by
    intro n row found own open_
    rcases tidy.owns here found own open_ with stopped | ⟨stage, held, _⟩
    · exact alive stopped
    · rw [free] at held
      cases held
  refine ⟨⟨?_, ?_, ?_⟩, ?_⟩
  · intro j other found
    rcases getElem?_modify_some found with ⟨rfl, _, _, rfl⟩ | ⟨_, before⟩
    · intro number stage held
      cases held
      exact ⟨_, last, rfl, rfl, rfl⟩
    · intro number stage held
      obtain ⟨row, there, rest⟩ := tidy.tied j other before number stage held
      exact ⟨row, getElem?_append_of_some there _, rest⟩
  · intro n row found
    rcases getElem?_append_singleton found with before | ⟨rfl, rfl⟩
    · obtain ⟨owner, known, once, open_⟩ := tidy.tracked n row before
      by_cases own : row.owner = i
      · refine ⟨atPhase (.calling attempt a.leases.length) request, ?_, once, fun zero => absurd zero (none n row before own)⟩
        rw [own]
        exact moved
      · refine ⟨owner, ?_, once, open_⟩
        exact (List.getElem?_modify_ne _ _ (Ne.symm own)).trans known
    · exact ⟨_, moved, Nat.zero_le 1, fun _ => Or.inr ⟨.held, rfl, by simp⟩⟩
  · show Counted scheduler (out (a.leases ++ [⟨lease, i, false, 0⟩]))
    rw [out, List.filterMap_append]
    exact counted
  · intro returned n row other found known ended
    rcases getElem?_modify_some known with ⟨_, _, _, rfl⟩ | ⟨apart, before⟩
    · cases ended
    · rcases getElem?_append_singleton found with old | ⟨_, rfl⟩
      · exact returned n row other old before ended
      · exact absurd rfl apart

theorem steps_of_acquire (tidy : Tidy a) (here : a.requests[i]? = some request) (alive : request.phase ≠ .ended)
    (free : request.phase.holds = none) (attempt : Nat) (now deadline : K) :
    Tidy (a.acquire cfg i attempt request now deadline) ∧
      (Returned a → Returned (a.acquire cfg i attempt request now deadline)) := by
  have counts := (acquireTurn_made cfg a.scheduler request.capability request.estimateTokens now deadline).counted tidy.counted
  have ended : (Phase.ended : Phase K).holds = request.phase.holds := free.symm
  unfold App.acquire
  split
  · have same : Counted (reject a.scheduler) (out a.leases) :=
      ⟨tidy.counted.keys, tidy.counted.known, tidy.counted.global, tidy.counted.capability⟩
    exact steps_of_kept tidy here alive same ended
  · dsimp only
    split
    · rename_i lease granted
      exact steps_of_granted tidy here alive free (counts.1 lease granted) attempt
    · rename_i granted
      have refused := counts.2 (by simp [granted])
      exact ⟨⟨tidy.tied, tidy.tracked, refused⟩, fun returned => returned⟩
    · rename_i granted
      exact steps_of_kept tidy here alive (counts.2 (by simp [granted])) ended
    · rename_i granted
      exact steps_of_kept tidy here alive (counts.2 (by simp [granted])) ended

variable (cfg) in
/-- A move keeps the invariant, and it loses no lease exactly when it is benign. -/
theorem apply_steps (tidy : Tidy a) (here : a.requests[i]? = some request) {kind : Bool} {m : Move K}
    (fits : Fits request.phase kind m) :
    Tidy (a.apply cfg i request m) ∧ (Returned a → (Returned (a.apply cfg i request m) ↔ kind = true)) := by
  have kept : ∀ {b : App K}, Tidy b ∧ (Returned a → Returned b) → Tidy b ∧ (Returned a → (Returned b ↔ true = true)) :=
    fun both => ⟨both.1, fun returned => ⟨fun _ => rfl, fun _ => both.2 returned⟩⟩
  cases fits with
  | stay => exact kept ⟨tidy, fun returned => returned⟩
  | keep alive same => exact kept (steps_of_kept tidy here alive tidy.counted same)
  | leave holding free => exact kept (steps_of_left tidy here holding free)
  | lose holding unsettled =>
    obtain ⟨tidy', lost⟩ := steps_of_lost tidy here holding unsettled
    exact ⟨tidy', fun _ => ⟨fun back => absurd back lost, by simp⟩⟩
  | acquire alive free => exact kept (steps_of_acquire tidy here alive free _ _ _)
  | reject alive free =>
    have same : Counted (reject a.scheduler) (out a.leases) :=
      ⟨tidy.counted.keys, tidy.counted.known, tidy.counted.global, tidy.counted.capability⟩
    exact kept (steps_of_kept tidy here alive same free.symm)
  | release holding => exact kept (steps_of_release tidy here holding _ _ _)
  | again holding => exact kept (steps_of_again tidy here holding _ _)
  | settle holding => exact kept (steps_of_settle tidy here holding _ _ _ _ _)

/-- The action finds its request in a phase where it is benign. -/
def Benign (a : App K) : Action K → Prop
  | .arrive _ _ _ _ => True
  | .happen request what => ∀ row, a.requests[request]? = some row → benign row.phase what = true

theorem step_steps (tidy : Tidy a) (action : Action K) :
    Tidy (a.step cfg action) ∧ (Returned a → (Returned (a.step cfg action) ↔ Benign a action)) := by
  cases action with
  | arrive stream capability estimateTokens now =>
    refine ⟨⟨?_, ?_, tidy.counted⟩, ?_⟩
    · intro j other found
      rcases getElem?_append_singleton found with before | ⟨_, rfl⟩
      · exact tidy.tied j other before
      · intro number stage held
        cases held
    · intro n row found
      obtain ⟨owner, known, rest⟩ := tidy.tracked n row found
      exact ⟨owner, getElem?_append_of_some known _, rest⟩
    · intro returned
      refine ⟨fun _ => trivial, ?_⟩
      intro _ n row other found known ended
      rcases getElem?_append_singleton known with before | ⟨_, rfl⟩
      · exact returned n row other found before ended
      · cases ended
  | happen number what =>
    dsimp only [App.step, Benign]
    cases here : a.requests[number]? with
    | none => exact ⟨tidy, fun returned => ⟨by simp, fun _ => returned⟩⟩
    | some row =>
      obtain ⟨tidy', exact_⟩ := apply_steps cfg tidy here (move_fits cfg row.stream row.phase what)
      refine ⟨tidy', fun returned => (exact_ returned).trans ?_⟩
      simp

omit [LinearOrder K] in
theorem tidy_init (cfg : RouterConfig K) : Tidy (.init cfg) where
  tied := by simp [App.init]
  tracked := by simp [App.init]
  counted := counted_init cfg

/-- Every lease comes back once, and the counters go to zero with the last request, exactly as long as nothing but benign
    things happen. -/
theorem slots_returned_iff (cfg : RouterConfig K) (actions : List (Action K)) :
    (∀ first rest, actions = first ++ rest →
      Returned (run (App.step cfg) (.init cfg) first) ∧ Drained (run (App.step cfg) (.init cfg) first)) ↔
      Along (App.step cfg) Benign (.init cfg) actions := by
  have base : ∀ (a : App K) (action : Action K), Tidy a → Tidy (a.step cfg action) := fun _ action tidy => (step_steps tidy action).1
  have exact_ : ∀ (a : App K) (action : Action K), Tidy a → Returned a → (Returned (a.step cfg action) ↔ Benign a action) :=
    fun _ action tidy => (step_steps tidy action).2
  have none : Returned (App.init cfg) := by simp [Returned, App.init]
  rw [← along_iff_kept base exact_ actions (.init cfg) (tidy_init cfg) none]
  constructor
  · intro always first rest split
    exact (always first rest split).1
  · intro always first rest split
    have returned := always first rest split
    exact ⟨returned, returned.drained (run_invariant base first _ (tidy_init cfg))⟩

end

def oneKey : RouterConfig ℚ := ⟨["a"], 1, 1, 1, 1, 1, 0, 0, 3, 2, 5, 30⟩

/-- A request that has its lease and waits for the upstream. -/
def waitingCall (stream : Bool) : List (Action ℚ) := [.arrive stream (.other "text") 10 0, .happen 0 (.turn 0)]

/-- Cancelled at the call, never iterated, or cancelled while the stream is closed: the request is over and its slot is gone. -/
theorem slots_lost :
    ¬ Returned (run (App.step oneKey) (.init oneKey) (waitingCall false ++ [.happen 0 (.raised .cancelled)])) ∧
    ¬ Returned (run (App.step oneKey) (.init oneKey)
      (waitingCall true ++ [.happen 0 (.answered 200), .happen 0 (.done 1 1), .happen 0 .abandoned])) ∧
    ¬ Returned (run (App.step oneKey) (.init oneKey)
      (waitingCall true ++ [.happen 0 (.answered 200), .happen 0 (.done 1 1), .happen 0 .started, .happen 0 (.raised .cancelled),
        .happen 0 (.raised .cancelled)])) ∧
    ¬ Drained (run (App.step oneKey) (.init oneKey) (waitingCall false ++ [.happen 0 (.raised .cancelled)])) := by
  have lost : ∀ a : App ℚ, a.leases = [⟨⟨0, .other "text", 10⟩, 0, false, 0⟩] →
      a.requests.map RequestRow.phase = [.ended] → ¬ Returned a := by
    intro a leases phases returned
    obtain ⟨request, only, ended⟩ := List.map_eq_singleton_iff.mp phases
    have once := returned 0 ⟨⟨0, .other "text", 10⟩, 0, false, 0⟩ request (by rw [leases]; rfl) (by rw [only]; rfl) ended
    cases once
  refine ⟨lost _ (by decide +kernel) (by decide +kernel), lost _ (by decide +kernel) (by decide +kernel),
    lost _ (by decide +kernel) (by decide +kernel), ?_⟩
  intro drained
  have stopped : (run (App.step oneKey) (.init oneKey) (waitingCall false ++ [.happen 0 (.raised .cancelled)])).requests.map
      RequestRow.phase = [.ended] := by decide +kernel
  obtain ⟨request, only, ended⟩ := List.map_eq_singleton_iff.mp stopped
  have all : ∀ (i : Nat) (row : RequestRow ℚ), (run (App.step oneKey) (.init oneKey)
      (waitingCall false ++ [.happen 0 (.raised .cancelled)])).requests[i]? = some row → row.phase = .ended := by
    intro i row found
    rw [only] at found
    rw [List.mem_singleton.mp (List.mem_of_getElem? found)]
    exact ended
  have taken : (run (App.step oneKey) (.init oneKey)
      (waitingCall false ++ [.happen 0 (.raised .cancelled)])).scheduler.globalInFlight = 1 := by decide +kernel
  have zero := (drained all).1
  rw [taken] at zero
  cases zero

end KnowledgeGap.Router
