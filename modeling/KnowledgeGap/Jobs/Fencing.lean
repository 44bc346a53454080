import KnowledgeGap.Jobs.Rows
import KnowledgeGap.Protocol.Runs

namespace KnowledgeGap.Jobs

open Relational Protocol

variable {P R W : Type}

theorem cell_unsealed {r : AsyncJob P R} (open_ : r.status ≠ .succeeded) : (cell r).mode ≠ .sealed := by
  cases status : r.status <;> simp_all [cell]

theorem cell_held {r : AsyncJob P R} (running : r.status = .running) : (cell r).mode = .held := by
  simp [cell, running]

/-- A row moves as a fenced cell does. -/
theorem RowMove.refines {s : World P R W} {a : Action P R W} {r r' : AsyncJob P R} {e : Fencing.Event}
    (move : RowMove s a r e r') : Fencing.Step (cell r) e (cell r') := by
  cases move with
  | keep => exact .stay _
  | grant _ _ unfinished =>
    have grant := Fencing.Step.grant (cell r) (cell_unsealed unfinished)
    simpa [cell] using grant
  | renew => exact .stay _
  | release _ left status rest =>
    have target : cell r' = ⟨(cell r).epoch, .free⟩ := by
      rcases status with status | status <;> simp [cell, rest.attempts, status]
    rw [target]
    apply Fencing.Step.settle _ _ _ (by decide)
    rcases left with left | left <;> simp [cell, left]
  | finish _ c _ owned completes status rest =>
    have running := ownership_running owned
    have target : cell r' = ⟨(cell r).epoch, .sealed⟩ := by simp [cell, rest.attempts, status]
    rw [target]
    cases e with
    | commit => exact .commit _ (cell_held running)
    | silent => exact .settle _ _ (by simp [cell, running]) (by decide)
    | grant => cases completes

theorem step_finished [Inhabited R] (worker : Nat → String) (s : World P R W) (a : Action P R W) {job : Nat}
    {r : AsyncJob P R} (found : s.jobs.get? job = some r) (locks : LocksRunning r)
    (done : r.status = .succeeded) : (step worker s a).jobs.get? job = some r := by
  obtain ⟨_, r', image, move, _⟩ := step_row worker s a job r found locks
  rw [move.finished done] at image
  exact image

theorem step_locksRunning [Inhabited R] (worker : Nat → String) (s : World P R W) (a : Action P R W)
    (before : ∀ r ∈ s.jobs.rows, LocksRunning r) :
    ∀ r ∈ (step worker s a).jobs.rows, LocksRunning r := by
  intro r' stored
  have present := Table.get?_of_mem stored
  cases found : s.jobs.get? (Keyed.key r') with
  | none => exact (step_new worker s a _ r' found present).2
  | some r =>
    have locks := before r (Table.get?_mem found)
    obtain ⟨_, x, image, move, _⟩ := step_row worker s a _ r found locks
    rw [present] at image
    cases image
    exact move.locksRunning locks

structure Fenced (s : World P R W) : Prop where
  absent : ∀ job, s.jobs.get? job = none → history s job = ⟨[], 0⟩
  valid : ∀ job r, s.jobs.get? job = some r → Fencing.Valid (cell r) (history s job)
  locks : ∀ r ∈ s.jobs.rows, LocksRunning r

theorem fenced_start (now : DateTime) : Fenced (World.start now : World P R W) where
  absent := fun _ _ => rfl
  valid := fun _ _ found => by cases found
  locks := fun _ member => by cases member

theorem step_fenced [Inhabited R] (worker : Nat → String) (s : World P R W) (a : Action P R W)
    (before : Fenced s) : Fenced (step worker s a) where
  absent := by
    intro job gone
    cases found : s.jobs.get? job with
    | none => rw [step_history_absent worker s a job found, before.absent job found]
    | some r =>
      obtain ⟨_, _, present, _⟩ := step_row worker s a job r found (before.locks r (Table.get?_mem found))
      rw [gone] at present
      cases present
  valid := by
    intro job r' present
    cases found : s.jobs.get? job with
    | none =>
      rw [step_history_absent worker s a job found, before.absent job found]
      exact Fencing.valid_start _
    | some r =>
      obtain ⟨e, x, image, move, recorded⟩ := step_row worker s a job r found (before.locks r (Table.get?_mem found))
      rw [present] at image
      cases image
      rw [recorded]
      exact move.refines.valid (before.valid job r found)
  locks := step_locksRunning worker s a before.locks

theorem run_fenced [Inhabited R] (worker : Nat → String) (now : DateTime) (actions : List (Action P R W)) :
    Fenced (run (step worker) (World.start now) actions) :=
  run_invariant (step_fenced worker) actions _ (fenced_start now)

theorem Fenced.history_valid {s : World P R W} (fenced : Fenced s) (job : Nat) :
    ∃ c, Fencing.Valid c (history s job) := by
  cases found : s.jobs.get? job with
  | none => exact ⟨⟨0, .free⟩, by rw [fenced.absent job found]; exact Fencing.valid_start _⟩
  | some r => exact ⟨cell r, fenced.valid job r found⟩

theorem claims_distinct (claims : List Claim)
    (increasing : ∀ job, ((claims.filter (fun c => c.job == job)).map Claim.attempt).Pairwise (· < ·)) :
    (claims.map (fun c => (c.job, c.attempt))).Nodup := by
  induction claims with
  | nil => simp
  | cons c claims ih =>
    rw [List.map_cons, List.nodup_cons]
    constructor
    · intro member
      obtain ⟨d, later, same⟩ := List.mem_map.mp member
      obtain ⟨sameJob, sameAttempt⟩ := Prod.mk.inj same
      have ordered := increasing c.job
      rw [List.filter_cons_of_pos (by simp), List.map_cons, List.pairwise_cons] at ordered
      have smaller := ordered.1 d.attempt
        (List.mem_map.mpr ⟨d, List.mem_filter.mpr ⟨later, by simp [sameJob]⟩, rfl⟩)
      omega
    · apply ih
      intro job
      have ordered := increasing job
      by_cases here : c.job = job
      · rw [List.filter_cons_of_pos (by simp [here]), List.map_cons, List.pairwise_cons] at ordered
        exact ordered.2
      · rwa [List.filter_cons_of_neg (by simp [here])] at ordered

theorem run_finished [Inhabited R] (worker : Nat → String) (s : World P R W) (job : Nat)
    (r : AsyncJob P R) (found : s.jobs.get? job = some r) (locks : LocksRunning r)
    (done : r.status = .succeeded) (later : List (Action P R W)) : (run (step worker) s later).jobs.get? job = some r := by
  have preserve : ∀ (t : World P R W) (a : Action P R W), t.jobs.get? job = some r →
      (step worker t a).jobs.get? job = some r :=
    fun t a held => step_finished worker t a held locks done
  exact run_invariant preserve later s found

theorem update_superseded {jobs : Table (AsyncJob P R)} {p : AsyncJob P R → Bool}
    {f : AsyncJob P R → AsyncJob P R} {c : Claim} (keeps : ∀ x, Keyed.key (f x) = Keyed.key x)
    (owner : ∀ r, p r = true → ownership c r = true)
    (superseded : ∀ r ∈ jobs.rows, ownership c r = false) : jobs.updateWhere p f keeps = jobs := by
  apply Table.updateWhere_eq_self
  intro r stored
  by_contra hit
  simp only [Bool.not_eq_false] at hit
  have owned := owner r hit
  rw [superseded r stored] at owned
  cases owned

theorem step_superseded [Inhabited R] (worker : Nat → String) (s : World P R W) (a : Action P R W)
    (c : Claim) (acting : a.claim? s = some c) (superseded : ∀ r ∈ s.jobs.rows, ownership c r = false) :
    (step worker s a).jobs = s.jobs ∧ (step worker s a).domain = s.domain := by
  have zero : s.jobs.rowcount (ownership c) ≠ 1 := by
    intro one
    obtain ⟨r, present, owned⟩ := (s.jobs.rowcount_eq_one_iff _ c.job (ownership_pinned c)).mp one
    rw [superseded r (Table.get?_mem present)] at owned
    cases owned
  cases a with
  | renew d =>
    cases acting
    exact ⟨update_superseded (by intro; rfl) (fun _ => liveOwnership_owned) superseded, rfl⟩
  | commitResult i result writes =>
    simp only [step]
    cases phase : s.threads i with
    | running d =>
      simp only [Action.claim?, phase, Phase.claim?, Option.some.injEq] at acting
      subst acting
      simp only [commitResult, if_neg zero]
      exact ⟨rfl, rfl⟩
    | _ => exact ⟨rfl, rfl⟩
  | complete i =>
    simp only [step]
    cases phase : s.threads i with
    | returned d result =>
      simp only [Action.claim?, phase, Phase.claim?, Option.some.injEq] at acting
      subst acting
      exact ⟨update_superseded (by intro; rfl) (fun _ owned => owned) superseded, rfl⟩
    | _ => exact ⟨rfl, rfl⟩
  | fail i =>
    simp only [step]
    cases phase : s.threads i with
    | failing d error retry =>
      simp only [Action.claim?, phase, Phase.claim?, Option.some.injEq] at acting
      subst acting
      exact ⟨update_superseded (by intro; rfl) (fun _ => liveOwnership_owned) superseded, rfl⟩
    | _ => exact ⟨rfl, rfl⟩
  | «return» i result | raise i error | readForFail i =>
    simp only [step]
    repeat' split
    all_goals exact ⟨rfl, rfl⟩
  | enqueue kind payload key limit | expire i | select i skipped | swap i | retryJob job | tick delta | crash i =>
    cases acting

theorem not_owned {s : World P R W} {c : Claim}
    (stale : ∀ r, s.jobs.get? c.job = some r → ¬ (r.lockedBy = some c.worker ∧ r.attempts = c.attempt)) :
    ∀ r ∈ s.jobs.rows, ownership c r = false := by
  intro r stored
  by_contra owned
  simp only [Bool.not_eq_false] at owned
  have key := ownership_pinned c r owned
  have present := Table.get?_of_mem stored
  rw [key] at present
  simp only [ownership, Bool.and_eq_true, beq_iff_eq] at owned
  exact stale r present ⟨owned.1.2, owned.2⟩

theorem Fenced.succeeded {s : World P R W} (fenced : Fenced s) {job : Nat} {writes : W} {r : AsyncJob P R}
    (written : (job, writes) ∈ s.domain) (found : s.jobs.get? job = some r) : r.status = .succeeded := by
  have valid := fenced.valid job r found
  have some_commit : 0 < (history s job).commits :=
    List.length_pos_of_mem (List.mem_filter.mpr ⟨written, by simp⟩)
  have once : (history s job).commits = 1 := by
    have bound := valid.once
    omega
  have closed := valid.closed once
  cases status : r.status <;> simp [cell, status] at closed ⊢

theorem Fenced.unique {s : World P R W} (fenced : Fenced s) {job : Nat} {writes others : W}
    (left : (job, writes) ∈ s.domain) (right : (job, others) ∈ s.domain) : writes = others := by
  obtain ⟨_, valid⟩ := fenced.history_valid job
  have once : (s.domain.filter (fun w => w.1 == job)).length ≤ 1 := valid.once
  have inLeft : (job, writes) ∈ s.domain.filter (fun w => w.1 == job) := List.mem_filter.mpr ⟨left, by simp⟩
  have inRight : (job, others) ∈ s.domain.filter (fun w => w.1 == job) := List.mem_filter.mpr ⟨right, by simp⟩
  cases entries : s.domain.filter (fun w => w.1 == job) with
  | nil =>
    rw [entries] at inLeft
    cases inLeft
  | cons entry rest =>
    rw [entries, List.length_cons] at once
    have none_left : rest = [] := List.eq_nil_of_length_eq_zero (by omega)
    rw [entries, none_left, List.mem_singleton] at inLeft inRight
    exact congrArg Prod.snd (inLeft.trans inRight.symm)

/-- Fencing of the durable queue, for every interleaving of any number of threads: a job's domain
    writes commit at most once, claims never share an attempt number, superseded attempts change
    nothing, success is final, and the lock columns are set exactly while an attempt runs. -/
theorem durable_queue_fenced [Inhabited R] (worker : Nat → String) (now : DateTime)
    (actions : List (Action P R W)) :
    let s := run (step worker) (World.start now) actions
    (∀ job, (s.domain.filter (fun w => w.1 == job)).length ≤ 1) ∧
    (s.claims.map (fun c => (c.job, c.attempt))).Nodup ∧
    (∀ a c, Action.claim? s a = some c →
      (∀ r, s.jobs.get? c.job = some r → ¬ (r.lockedBy = some c.worker ∧ r.attempts = c.attempt)) →
      (step worker s a).jobs = s.jobs ∧ (step worker s a).domain = s.domain) ∧
    (∀ job r, s.jobs.get? job = some r → r.status = .succeeded →
      ∀ later, (run (step worker) s later).jobs.get? job = some r) ∧
    (∀ r ∈ s.jobs.rows, (r.lockedBy.isSome ↔ r.status = .running) ∧
      (r.lockedAt.isSome ↔ r.status = .running)) := by
  intro s
  have fenced : Fenced s := run_fenced worker now actions
  refine ⟨?_, ?_, ?_, ?_, fenced.locks⟩
  · intro job
    obtain ⟨c, valid⟩ := fenced.history_valid job
    exact valid.once
  · apply claims_distinct
    intro job
    obtain ⟨c, valid⟩ := fenced.history_valid job
    exact valid.increasing
  · intro a c acting stale
    exact step_superseded worker s a c acting (not_owned stale)
  · intro job r found done later
    exact run_finished worker s job r found (fenced.locks r (Table.get?_mem found)) done later

end KnowledgeGap.Jobs
