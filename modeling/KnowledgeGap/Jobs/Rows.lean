import KnowledgeGap.Jobs.Queue
import KnowledgeGap.Protocol.Fencing

namespace KnowledgeGap.Jobs

open Relational Protocol

variable {P R W : Type}

def cell (r : AsyncJob P R) : Fencing.Cell where
  epoch := r.attempts
  mode := match r.status with
    | .running => .held
    | .succeeded => .sealed
    | .queued | .failed => .free

def history (s : World P R W) (job : Nat) : Fencing.History where
  grants := (s.claims.filter (fun c => c.job == job)).map Claim.attempt
  commits := (s.domain.filter (fun w => w.1 == job)).length

theorem ownership_running {c : Claim} {r : AsyncJob P R} (owned : ownership c r = true) :
    r.status = .running := by
  simp only [ownership, Bool.and_eq_true, beq_iff_eq] at owned
  exact owned.1.1.2

theorem ownership_pinned (c : Claim) (r : AsyncJob P R) (owned : ownership c r = true) :
    Keyed.key r = c.job := by
  simp only [ownership, Bool.and_eq_true, beq_iff_eq] at owned
  exact owned.1.1.1

theorem liveOwnership_owned {now : DateTime} {c : Claim} {r : AsyncJob P R}
    (live : liveOwnership now c r = true) : ownership c r = true := by
  simp only [liveOwnership, Bool.and_eq_true] at live
  exact live.1

theorem unchanged_pinned (now : DateTime) (k : Candidate) (r : AsyncJob P R)
    (same : unchanged now k r = true) : Keyed.key r = k.job := by
  simp only [unchanged, Bool.and_eq_true, beq_iff_eq] at same
  exact same.1.1.1

theorem ownership_attempt {c : Claim} {r : AsyncJob P R} (owned : ownership c r = true) :
    r.attempts = c.attempt := by
  simp only [ownership, Bool.and_eq_true, beq_iff_eq] at owned
  exact owned.2

/-- The lock columns are filled together, exactly while an attempt is running. -/
def LocksRunning (r : AsyncJob P R) : Prop :=
  (r.lockedBy.isSome ↔ r.status = .running) ∧ (r.lockedAt.isSome ↔ r.status = .running)

theorem unchanged_open {now : DateTime} {k : Candidate} {r : AsyncJob P R} (locks : LocksRunning r)
    (same : unchanged now k r = true) : r.status ≠ .succeeded := by
  intro done
  have unlocked : r.lockedAt = none := by
    cases locked : r.lockedAt with
    | none => rfl
    | some t =>
      have running := locks.2.mp (by simp [locked])
      rw [done] at running
      cases running
  simp [unchanged, stale, unlocked, done] at same

/-- The two ways in which an action completes a row: together with the domain writes of the attempt,
    or by the `_complete` of a handler that has returned. -/
def Completes (s : World P R W) (a : Action P R W) (c : Claim) : Fencing.Event → Prop
  | .commit => ∃ i result writes, a = .commitResult i result writes ∧ s.threads i = .running c
  | .silent => ∃ i result, a = .complete i ∧ s.threads i = .returned c result
  | .grant => False

/-- The columns that fix what a row asks for, and the lock columns once it is let go. -/
structure LetGo (r r' : AsyncJob P R) : Prop where
  attempts : r'.attempts = r.attempts
  kind : r'.kind = r.kind
  key : r'.idempotencyKey = r.idempotencyKey
  payload : r'.payload = r.payload
  lockedBy : r'.lockedBy = none
  lockedAt : r'.lockedAt = none

/-- What one step can do to a stored row, and what observers of the job see of it. -/
inductive RowMove (s : World P R W) (a : Action P R W) (r : AsyncJob P R) :
    Fencing.Event → AsyncJob P R → Prop
  | keep : RowMove s a r .silent r
  | grant (worker : String) (now : DateTime) (unfinished : r.status ≠ .succeeded) :
      RowMove s a r .grant { r with status := .running, lockedBy := some worker, lockedAt := some now,
                                    attempts := r.attempts + 1 }
  | renew (now : DateTime) (running : r.status = .running) :
      RowMove s a r .silent { r with lockedAt := some now }
  | release (r' : AsyncJob P R) (left : r.status = .running ∨ r.status = .failed)
      (status : r'.status = .queued ∨ r'.status = .failed) (rest : LetGo r r') : RowMove s a r .silent r'
  | finish (r' : AsyncJob P R) (c : Claim) (e : Fencing.Event) (owned : ownership c r = true)
      (completes : Completes s a c e) (status : r'.status = .succeeded) (rest : LetGo r r') :
      RowMove s a r e r'

section
variable {s : World P R W} {a : Action P R W} {r r' : AsyncJob P R} {e : Fencing.Event}

theorem RowMove.payload (move : RowMove s a r e r') :
    r'.kind = r.kind ∧ r'.idempotencyKey = r.idempotencyKey ∧ r'.payload = r.payload := by
  cases move with
  | keep => exact ⟨rfl, rfl, rfl⟩
  | grant => exact ⟨rfl, rfl, rfl⟩
  | renew => exact ⟨rfl, rfl, rfl⟩
  | release _ _ _ rest => exact ⟨rest.kind, rest.key, rest.payload⟩
  | finish _ _ _ _ _ _ rest => exact ⟨rest.kind, rest.key, rest.payload⟩

theorem RowMove.attempts_le (move : RowMove s a r e r') : r.attempts ≤ r'.attempts := by
  cases move with
  | keep => exact Nat.le_refl _
  | grant => exact Nat.le_succ _
  | renew => exact Nat.le_refl _
  | release _ _ _ rest => exact Nat.le_of_eq rest.attempts.symm
  | finish _ _ _ _ _ _ rest => exact Nat.le_of_eq rest.attempts.symm

theorem RowMove.finished (move : RowMove s a r e r') (done : r.status = .succeeded) : r' = r := by
  cases move with
  | keep => rfl
  | grant _ _ unfinished => exact absurd done unfinished
  | renew _ running =>
    rw [done] at running
    cases running
  | release _ left =>
    rw [done] at left
    rcases left with left | left <;> cases left
  | finish _ c _ owned =>
    have running := ownership_running owned
    rw [done] at running
    cases running

theorem RowMove.locksRunning (move : RowMove s a r e r') (locks : LocksRunning r) : LocksRunning r' := by
  cases move with
  | keep => exact locks
  | grant => simp [LocksRunning]
  | renew _ running => exact ⟨locks.1, by simp [running]⟩
  | release _ _ status rest =>
    rcases status with status | status <;> simp [LocksRunning, rest.lockedBy, rest.lockedAt, status]
  | finish _ _ _ _ _ status rest => simp [LocksRunning, rest.lockedBy, rest.lockedAt, status]

/-- A row leaves the queue only by a new attempt. -/
theorem RowMove.attempted (move : RowMove s a r e r') {n : Nat} (issued : n ≤ r.attempts)
    (before : r.status ≠ .queued → n < r.attempts) (left : r'.status ≠ .queued) : n < r'.attempts := by
  cases move with
  | keep => exact before left
  | grant => exact Nat.lt_succ_of_le issued
  | renew => exact before left
  | release _ gone _ rest =>
    rw [rest.attempts]
    apply before
    intro queued
    rw [queued] at gone
    rcases gone with gone | gone <;> cases gone
  | finish _ _ _ owned _ _ rest =>
    rw [rest.attempts]
    apply before
    rw [ownership_running owned]
    decide

theorem RowMove.completed (move : RowMove s a r e r') (done : r'.status = .succeeded) :
    r.status = .succeeded ∨ ∃ c, ownership c r = true ∧ Completes s a c e := by
  cases move with
  | keep => exact Or.inl done
  | grant => cases done
  | renew => exact Or.inl done
  | release _ _ status =>
    rw [done] at status
    rcases status with status | status <;> cases status
  | finish _ c _ owned completes => exact Or.inr ⟨c, owned, completes⟩

end

/-- `enqueue` answers with a row of the given kind and key: one the table holds already, or the one
    it has just inserted. -/
theorem enqueue_cases {now : DateTime} {kind : String} {payload : P} {key : Option String} {limit : Int}
    {jobs jobs' : Table (AsyncJob P R)} {row : AsyncJob P R}
    (queued : enqueue now kind payload key limit jobs = some (jobs', row)) :
    row.kind = kind ∧ row.idempotencyKey = key ∧
      (jobs' = jobs ∧ row ∈ jobs.rows ∨
        row.payload = payload ∧ row.status = .queued ∧ LocksRunning row ∧ row.id = jobs.nextId ∧
          ∀ job, jobs'.get? job = if job = jobs.nextId then some row else jobs.get? job) := by
  unfold enqueue at queued
  split at queued
  · rename_i existing matched
    split at queued
    · cases queued
      have fields := List.find?_some matched
      simp only [Bool.and_eq_true, beq_iff_eq] at fields
      exact ⟨fields.1.1, fields.2, Or.inl ⟨rfl, List.mem_of_find?_eq_some matched⟩⟩
    · cases queued
  · cases queued
    exact ⟨rfl, rfl, Or.inr ⟨rfl, rfl, by simp [LocksRunning], rfl, jobs.get?_insert _ _⟩⟩

theorem enqueue_get? {now : DateTime} {kind : String} {payload : P} {key : Option String} {limit : Int}
    {jobs jobs' : Table (AsyncJob P R)} {row r : AsyncJob P R} {job : Nat}
    (queued : enqueue now kind payload key limit jobs = some (jobs', row))
    (found : jobs.get? job = some r) : jobs'.get? job = some r := by
  obtain ⟨_, _, ⟨same, _⟩ | ⟨_, _, _, _, rows⟩⟩ := enqueue_cases queued
  · rw [same]
    exact found
  · have old : job ≠ jobs.nextId := by
      intro fresh
      rw [fresh, jobs.get?_none_of_nextId_le (Nat.le_refl _)] at found
      cases found
    rw [rows, if_neg old]
    exact found

theorem enqueue_answer {now : DateTime} {kind : String} {payload : P} {key : Option String} {limit : Int}
    {jobs jobs' : Table (AsyncJob P R)} {row : AsyncJob P R}
    (queued : enqueue now kind payload key limit jobs = some (jobs', row)) :
    jobs'.get? row.id = some row := by
  obtain ⟨_, _, ⟨same, stored⟩ | ⟨_, _, _, fresh, rows⟩⟩ := enqueue_cases queued
  · rw [same]
    exact Table.get?_of_mem stored
  · rw [rows, if_pos fresh]

/-- The row of a job moves, and the ledgers of claims and domain writes record it. -/
def Moves (s t : World P R W) (a : Action P R W) (job : Nat) (r : AsyncJob P R) : Prop :=
  ∃ e r', t.jobs.get? job = some r' ∧ RowMove s a r e r' ∧ history t job = (history s job).after (cell r) e

section
variable {s t : World P R W} {a : Action P R W} {job : Nat} {r : AsyncJob P R}

theorem Moves.keep (found : t.jobs.get? job = some r) (quiet : history t job = history s job) :
    Moves s t a job r :=
  ⟨.silent, r, found, .keep, quiet⟩

theorem Moves.update {p : AsyncJob P R → Bool} {f : AsyncJob P R → AsyncJob P R}
    (keeps : ∀ x, Keyed.key (f x) = Keyed.key x) (found : s.jobs.get? job = some r)
    (jobs : t.jobs = s.jobs.updateWhere p f keeps) (quiet : history t job = history s job)
    (moves : p r = true → RowMove s a r .silent (f r)) : Moves s t a job r := by
  cases hit : p r with
  | true =>
    refine ⟨.silent, f r, ?_, moves hit, quiet⟩
    rw [jobs]
    exact Table.get?_updateWhere_of_pos keeps found hit
  | false =>
    refine .keep ?_ quiet
    rw [jobs]
    exact Table.get?_updateWhere_of_neg keeps found hit

theorem moves_swap {now : DateTime} {k : Candidate} (worker : String) (i : Nat)
    (found : s.jobs.get? job = some r) (locks : LocksRunning r)
    (one : s.jobs.rowcount (unchanged now k) = 1) :
    Moves s
      (World.goto { s with jobs := swap now k worker s.jobs,
                           claims := s.claims ++ [⟨k.job, worker, k.attempts + 1⟩] } i
        (.running ⟨k.job, worker, k.attempts + 1⟩)) a job r := by
  obtain ⟨hit, present, same⟩ :=
    (s.jobs.rowcount_eq_one_iff _ k.job (unchanged_pinned now k)).mp one
  by_cases target : k.job = job
  · rw [target, found] at present
    cases present
    have attempts : k.attempts = r.attempts := by
      simp only [unchanged, Bool.and_eq_true, beq_iff_eq] at same
      exact same.1.2.symm
    refine ⟨.grant, _, Table.get?_updateWhere_of_pos (by intro; rfl) found same, ?_, ?_⟩
    · rw [attempts]
      exact .grant _ _ (unchanged_open locks same)
    · simp [history, World.goto, Fencing.History.after, target, cell, attempts]
  · have miss : unchanged now k r = false := by
      rw [Bool.eq_false_iff]
      intro yes
      exact target ((unchanged_pinned now k r yes).symm.trans (Table.get?_key found))
    refine .keep (Table.get?_updateWhere_of_neg (by intro; rfl) found miss) ?_
    simp [history, World.goto, target]

theorem moves_commit {i : Nat} {c : Claim} {result : R} {writes : W} (running : s.threads i = .running c)
    (found : s.jobs.get? job = some r) :
    Moves s (commitResult s i c result writes) (.commitResult i result writes) job r := by
  unfold commitResult
  split
  · rename_i one
    obtain ⟨hit, present, owned⟩ :=
      (s.jobs.rowcount_eq_one_iff _ c.job (ownership_pinned c)).mp one
    by_cases target : c.job = job
    · rw [target, found] at present
      cases present
      refine ⟨.commit, _, Table.get?_updateWhere_of_pos (by intro; rfl) found owned, ?_, ?_⟩
      · exact .finish _ c _ owned ⟨i, result, writes, rfl, running⟩ rfl ⟨rfl, rfl, rfl, rfl, rfl, rfl⟩
      · simp [history, Fencing.History.after, target]
    · have miss : ownership c r = false := by
        rw [Bool.eq_false_iff]
        intro yes
        exact target ((ownership_pinned c r yes).symm.trans (Table.get?_key found))
      refine .keep (Table.get?_updateWhere_of_neg (by intro; rfl) found miss) ?_
      simp [history, target]
  · exact .keep found rfl

end

/-- Every step moves every stored row in one of these ways. -/
theorem step_row [Inhabited R] (worker : Nat → String) (s : World P R W) (a : Action P R W) (job : Nat)
    (r : AsyncJob P R) (found : s.jobs.get? job = some r) (locks : LocksRunning r) :
    Moves s (step worker s a) a job r := by
  have same : Moves s s a job r := .keep found rfl
  cases a with
  | enqueue kind payload key limit =>
    simp only [step]
    cases queued : enqueue s.now kind payload key limit s.jobs with
    | none => exact same
    | some pair => exact .keep (enqueue_get? queued found) rfl
  | expire i =>
    simp only [step]
    split
    · refine .update (by intro; rfl) found rfl rfl ?_
      intro hit
      simp only [Bool.and_eq_true, beq_iff_eq] at hit
      exact .release _ (Or.inl hit.1.1) (Or.inr rfl) ⟨rfl, rfl, rfl, rfl, rfl, rfl⟩
    · exact same
  | select i skipped =>
    simp only [step]
    split
    · split <;> exact .keep found rfl
    · exact same
  | swap i =>
    simp only [step]
    split
    · split
      · rename_i one
        exact moves_swap (worker i) i found locks one
      · exact .keep found rfl
    · exact same
  | renew c =>
    refine .update (by intro; rfl) found rfl rfl ?_
    intro live
    exact .renew _ (ownership_running (liveOwnership_owned live))
  | commitResult i result writes =>
    simp only [step]
    split
    · rename_i c running
      exact moves_commit running found
    · exact same
  | «return» i result | raise i error | readForFail i =>
    simp only [step]
    repeat' split
    all_goals exact .keep found rfl
  | complete i =>
    simp only [step]
    split
    · rename_i c result returned
      refine .update (by intro; rfl) found rfl rfl ?_
      intro owned
      exact .finish _ c _ owned ⟨i, result, rfl, returned⟩ rfl ⟨rfl, rfl, rfl, rfl, rfl, rfl⟩
    · exact same
  | fail i =>
    simp only [step]
    split
    · rename_i c error retry _
      refine .update (by intro; rfl) found rfl rfl ?_
      intro live
      have running := ownership_running (liveOwnership_owned live)
      refine .release _ (Or.inl running) ?_ ⟨rfl, rfl, rfl, rfl, rfl, rfl⟩
      cases retry
      · exact Or.inr rfl
      · exact Or.inl rfl
    · exact same
  | retryJob target =>
    refine .update (by intro; rfl) found rfl rfl ?_
    intro hit
    simp only [Bool.and_eq_true, beq_iff_eq] at hit
    exact .release _ (Or.inr hit.2) (Or.inl rfl) ⟨rfl, rfl, rfl, rfl, rfl, rfl⟩
  | tick delta => exact same
  | crash i => exact .keep found rfl

theorem step_new [Inhabited R] (worker : Nat → String) (s : World P R W) (a : Action P R W) (job : Nat)
    (r : AsyncJob P R) (absent : s.jobs.get? job = none) (found : (step worker s a).jobs.get? job = some r) :
    (∃ limit, a = .enqueue r.kind r.payload r.idempotencyKey limit) ∧ LocksRunning r := by
  have gone : s.jobs.get? job ≠ some r := by simp [absent]
  have updated : ∀ p (f : AsyncJob P R → AsyncJob P R) keeps,
      (s.jobs.updateWhere p f keeps).get? job ≠ some r := by
    intro p f keeps
    rw [Table.get?_updateWhere, absent]
    simp
  cases a with
  | enqueue kind payload key limit =>
    simp only [step] at found
    cases queued : enqueue s.now kind payload key limit s.jobs with
    | none =>
      rw [queued] at found
      exact absurd found gone
    | some pair =>
      obtain ⟨jobs, row⟩ := pair
      rw [queued] at found
      obtain ⟨kinds, keys, ⟨same, _⟩ | ⟨payloads, _, locks, _, rows⟩⟩ := enqueue_cases queued
      · exact absurd (same ▸ found) gone
      · simp only [rows] at found
        split at found
        · cases found
          exact ⟨⟨limit, by rw [kinds, keys, payloads]⟩, locks⟩
        · exact absurd found gone
  | renew c => exact absurd found (updated _ _ (by intro; rfl))
  | retryJob target => exact absurd found (updated _ _ (by intro; rfl))
  | commitResult i result writes =>
    simp only [step, commitResult] at found
    split at found
    · split at found
      · exact absurd found (updated _ _ (by intro; rfl))
      · exact absurd found gone
    · exact absurd found gone
  | expire i | complete i | fail i =>
    simp only [step] at found
    split at found
    · exact absurd found (updated _ _ (by intro; rfl))
    · exact absurd found gone
  | swap i =>
    simp only [step] at found
    split at found
    · split at found
      · exact absurd found (updated _ _ (by intro; rfl))
      · exact absurd found gone
    · exact absurd found gone
  | select i skipped | «return» i result | raise i error | readForFail i =>
    simp only [step] at found
    repeat' split at found
    all_goals exact absurd found gone
  | tick delta | crash i => exact absurd found gone

theorem step_domain [Inhabited R] (worker : Nat → String) (s : World P R W) (a : Action P R W) :
    (step worker s a).domain = s.domain ∨
      ∃ i result writes c, a = .commitResult i result writes ∧ s.threads i = .running c ∧
        (∃ r, s.jobs.get? c.job = some r ∧ ownership c r = true) ∧
        (step worker s a).domain = s.domain ++ [(c.job, writes)] := by
  cases a with
  | commitResult i result writes =>
    cases phase : s.threads i with
    | running c =>
      by_cases one : s.jobs.rowcount (ownership c) = 1
      · refine Or.inr ⟨i, result, writes, c, rfl, phase, ?_, ?_⟩
        · exact (s.jobs.rowcount_eq_one_iff _ c.job (ownership_pinned c)).mp one
        · simp [step, phase, commitResult, one]
      · left
        simp [step, phase, commitResult, one, World.goto]
    | _ =>
      left
      simp [step, phase]
  | enqueue kind payload key limit | expire i | select i skipped | swap i | «return» i result | raise i error
  | complete i | readForFail i | fail i =>
    left
    simp only [step]
    repeat' split
    all_goals rfl
  | renew c | retryJob target | tick delta | crash i => exact Or.inl rfl

theorem step_domain_grows [Inhabited R] (worker : Nat → String) (s : World P R W) (a : Action P R W)
    {entry : Nat × W} (member : entry ∈ s.domain) : entry ∈ (step worker s a).domain := by
  rcases step_domain worker s a with same | ⟨_, _, _, _, _, _, _, grown⟩
  · rw [same]
    exact member
  · rw [grown]
    exact List.mem_append_left _ member

theorem step_history_absent [Inhabited R] (worker : Nat → String) (s : World P R W) (a : Action P R W)
    (job : Nat) (absent : s.jobs.get? job = none) : history (step worker s a) job = history s job := by
  cases a with
  | enqueue kind payload key limit =>
    simp only [step]
    split <;> rfl
  | swap i =>
    simp only [step]
    split
    · rename_i now k _
      split
      · rename_i count
        obtain ⟨hit, present, _⟩ :=
          (s.jobs.rowcount_eq_one_iff _ k.job (unchanged_pinned now k)).mp count
        have other : k.job ≠ job := by
          rintro rfl
          rw [absent] at present
          cases present
        simp [history, World.goto, other]
      · rfl
    · rfl
  | commitResult i result writes =>
    simp only [step]
    split
    · rename_i c _
      unfold commitResult
      split
      · rename_i count
        obtain ⟨hit, present, _⟩ :=
          (s.jobs.rowcount_eq_one_iff _ c.job (ownership_pinned c)).mp count
        have other : c.job ≠ job := by
          rintro rfl
          rw [absent] at present
          cases present
        simp [history, other]
      · rfl
    · rfl
  | expire i | select i skipped | «return» i result | raise i error | complete i | readForFail i | fail i =>
    simp only [step]
    repeat' split
    all_goals rfl
  | renew c | retryJob target | tick delta | crash i => rfl

/-- What one step can do to a thread. -/
inductive PhaseMove (s t : World P R W) (a : Action P R W) (i : Nat) : Phase R → Prop
  | keep : PhaseMove s t a i (s.threads i)
  | unclaimed (p : Phase R) (none : p.claim? = none) : PhaseMove s t a i p
  | claimed (c : Claim) (r : AsyncJob P R) (swapped : a = .swap i)
      (selected : ∃ now, s.threads i = .selected now ⟨c.job, r.status, r.attempts⟩)
      (found : s.jobs.get? c.job = some r) (attempt : c.attempt = r.attempts + 1)
      (granted : ∃ r', t.jobs.get? c.job = some r' ∧ r'.attempts = c.attempt) :
      PhaseMove s t a i (.running c)
  | returned (c : Claim) (result : Option R) (acted : a = .return i result)
      (running : s.threads i = .running c) : PhaseMove s t a i (.returned c result)
  | raised (c : Claim) (error : String) (running : s.threads i = .running c) :
      PhaseMove s t a i (.raised c error)
  | failing (c : Claim) (error : String) (retry : Bool) (raised : s.threads i = .raised c error) :
      PhaseMove s t a i (.failing c error retry)

theorem PhaseMove.of_goto {s t : World P R W} {a : Action P R W} {i j : Nat} {p : Phase R}
    (threads : t.threads = Function.update s.threads j p) (here : PhaseMove s t a j p) :
    PhaseMove s t a i (t.threads i) := by
  rw [threads]
  by_cases same : i = j
  · subst same
    rw [Function.update_self]
    exact here
  · rw [Function.update_of_ne same]
    exact .keep

theorem step_phase [Inhabited R] (worker : Nat → String) (s : World P R W) (a : Action P R W) (i : Nat) :
    PhaseMove s (step worker s a) a i ((step worker s a).threads i) := by
  cases a with
  | enqueue kind payload key limit =>
    simp only [step]
    split <;> exact .keep
  | expire j =>
    simp only [step]
    split
    · exact .of_goto rfl (.unclaimed _ rfl)
    · exact .keep
  | select j skipped =>
    simp only [step]
    split
    · split
      · exact .of_goto rfl (.unclaimed _ rfl)
      · exact .of_goto rfl (.unclaimed _ rfl)
    · exact .keep
  | swap j =>
    simp only [step]
    split
    · rename_i now k selected
      split
      · rename_i one
        refine .of_goto rfl ?_
        obtain ⟨r, found, matched⟩ := (s.jobs.rowcount_eq_one_iff _ k.job (unchanged_pinned now k)).mp one
        have fields := matched
        simp only [unchanged, Bool.and_eq_true, beq_iff_eq] at fields
        have candidate : k = ⟨k.job, r.status, r.attempts⟩ := by
          rw [fields.1.1.2, fields.1.2]
        refine .claimed _ r rfl ⟨now, ?_⟩ found ?_ ?_
        · rw [selected, ← candidate]
        · rw [fields.1.2]
        · exact ⟨_, Table.get?_updateWhere_of_pos (by intro; rfl) found matched, rfl⟩
      · exact .of_goto rfl (.unclaimed _ rfl)
    · exact .keep
  | renew c => exact .keep
  | commitResult j result writes =>
    simp only [step]
    split
    · rename_i c running
      unfold commitResult
      split
      · exact .keep
      · exact .of_goto rfl (.raised c _ running)
    · exact .keep
  | «return» j result =>
    simp only [step]
    split
    · rename_i c running
      exact .of_goto rfl (.returned c result rfl running)
    · exact .keep
  | raise j error =>
    simp only [step]
    split
    · rename_i c running
      exact .of_goto rfl (.raised c error running)
    · exact .keep
  | complete j =>
    simp only [step]
    split
    · exact .of_goto rfl (.unclaimed _ rfl)
    · exact .keep
  | readForFail j =>
    simp only [step]
    split
    · rename_i c error raised
      split
      · exact .of_goto rfl (.failing c error _ raised)
      · exact .of_goto rfl (.unclaimed _ rfl)
    · exact .keep
  | fail j =>
    simp only [step]
    split
    · exact .of_goto rfl (.unclaimed _ rfl)
    · exact .keep
  | retryJob target => exact .keep
  | tick delta => exact .keep
  | crash j => exact .of_goto rfl (.unclaimed _ rfl)

theorem commitResult_completed [Inhabited R] (worker : Nat → String) {s : World P R W} {i : Nat} {c : Claim}
    {result : R} {writes : W} (before : s.threads i = .running c)
    (after : (step worker s (.commitResult i result writes)).threads i = .running c) :
    ∃ r', (step worker s (.commitResult i result writes)).jobs.get? c.job = some r' ∧
      r'.status = .succeeded := by
  simp only [step, before, commitResult] at after ⊢
  by_cases one : s.jobs.rowcount (ownership c) = 1
  · obtain ⟨r, found, owned⟩ := (s.jobs.rowcount_eq_one_iff _ c.job (ownership_pinned c)).mp one
    rw [if_pos one]
    exact ⟨_, Table.get?_updateWhere_of_pos (by intro; rfl) found owned, rfl⟩
  · rw [if_neg one] at after
    simp [World.goto] at after

end KnowledgeGap.Jobs
