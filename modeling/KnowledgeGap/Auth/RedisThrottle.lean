import KnowledgeGap.Auth.Throttle
import KnowledgeGap.Protocol.FixedWindow

namespace KnowledgeGap.Auth.Throttle

open Relational Protocol

variable {K : Type}

/-- A counter as Redis keeps it, with the moment its time to live ends. -/
structure Counter (K : Type) where
  count : Nat
  deadline : Option K
  deriving DecidableEq

/-- A counter that is counted up, or begun. -/
def counted : Option (Counter K) → Counter K
  | none => ⟨1, none⟩
  | some c => ⟨c.count + 1, c.deadline⟩

section
variable [Field K] [LinearOrder K]

/-- Whether Redis still answers for a counter; `closed` tells what it does in the very moment the time to live ends. -/
def Counter.lives (closed : Bool) (now : K) (c : Counter K) : Bool :=
  match c.deadline with
  | none => true
  | some deadline => if closed then decide (now ≤ deadline) else decide (now < deadline)

variable (K) in
/-- The commands of Redis that the throttle uses, and what it relies on of them. `counter` is what Redis holds of a key
    at a moment: time alone only lets it end, and a command changes it under its own key at most. -/
structure Redis where
  Store : Type
  closed : Bool
  fresh : Store
  get : Store → String → K → Option Nat
  ttl : Store → String → K → Int
  expire : Store → String → Nat → K → Store × Bool
  incr : Store → String → K → Store × Nat
  delete : Store → String → Store
  counter : Store → String → K → Option (Counter K)
  counter_fresh : ∀ key now, counter fresh key now = none
  counter_later : ∀ s key {now later}, now ≤ later →
    counter s key later = (counter s key now).filter (Counter.lives closed later)
  get_eq : ∀ s key now, get s key now = (counter s key now).map Counter.count
  ttl_absent : ∀ s key now, counter s key now = none → ttl s key now = -2
  ttl_endless : ∀ s key now count, counter s key now = some ⟨count, none⟩ → ttl s key now = -1
  ttl_left : ∀ s key now count deadline, counter s key now = some ⟨count, some deadline⟩ → 0 ≤ ttl s key now
  counter_expire : ∀ s key {seconds} now other, 0 < seconds → counter (expire s key seconds now).1 other now =
    if other = key then (counter s key now).map (fun c => ⟨c.count, some (now + seconds)⟩) else counter s other now
  expire_found : ∀ s key seconds now, (expire s key seconds now).2 = (counter s key now).isSome
  counter_incr : ∀ s key now other, counter (incr s key now).1 other now =
    if other = key then some (counted (counter s key now)) else counter s other now
  incr_count : ∀ s key now, (incr s key now).2 = (counted (counter s key now)).count
  counter_delete : ∀ s key now other, counter (delete s key) other now = if other = key then none else counter s other now

def redisKey (key : String) : String := "sc:auth:login-fail:" ++ key

variable (redis : Redis K)

/-- `check` with a Redis that does not fail. -/
def redisCheck (store : redis.Store) (key : String) (now : K) : redis.Store × Option Int :=
  let count := (redis.get store (redisKey key) now).getD 0
  if maxFailures ≤ count then
    let ttl := redis.ttl store (redisKey key) now
    if ttl = -2 then (store, none)
    else if ttl = -1 then
      match redis.expire store (redisKey key) windowSeconds now with
      | (store, true) => (store, some (max 1 (min windowSeconds windowSeconds)))
      | (store, false) => (store, none)
    else (store, some (max 1 (min ttl windowSeconds)))
  else (store, none)

/-- `record_failure` with a Redis that does not fail. -/
def redisFailure (store : redis.Store) (key : String) (now : K) : redis.Store :=
  let (store, count) := redis.incr store (redisKey key) now
  if count = 1 then (redis.expire store (redisKey key) windowSeconds now).1
  else if redis.ttl store (redisKey key) now = -1 then (redis.expire store (redisKey key) windowSeconds now).1
  else store

/-- `record_success` with a Redis that does not fail. -/
def redisSuccess (store : redis.Store) (key : String) : redis.Store := redis.delete store (redisKey key)

variable (casefold sha256 : String → String)

def redisStep (store : redis.Store) (call : LoginCall K) : redis.Store :=
  match call.op with
  | .check => (redisCheck redis store (call.key casefold sha256) call.time).1
  | .recordFailure => redisFailure redis store (call.key casefold sha256) call.time
  | .recordSuccess => redisSuccess redis store (call.key casefold sha256)

/-- What Redis holds after the calls. -/
def redisThrottled (calls : List (LoginCall K)) : redis.Store := run (redisStep redis casefold sha256) redis.fresh calls

/-- At every check the two paths agree on whether the key is locked. -/
def DecideAlike [FloorRing K] (calls : List (LoginCall K)) : Prop :=
  ∀ first call rest, calls = first ++ call :: rest → call.op = .check →
    ((memoryCheck (throttled casefold sha256 first) (call.key casefold sha256) call.time).2.isSome ↔
      (redisCheck redis (redisThrottled redis casefold sha256 first) (call.key casefold sha256) call.time).2.isSome)

end

theorem redisKey_injective : Function.Injective redisKey := by
  intro a b same
  exact String.append_right_inj _ |>.mp same

section
variable [Field K] [LinearOrder K]

/-- The counter of the failures of a key, filed by their windows. -/
def counterOf (filed : List (K × K)) : Option (Counter K) :=
  match filed with
  | [] => none
  | last :: _ => some ⟨inLastWindow filed, some (last.2 + windowSeconds)⟩

/-- What is left of that counter at a moment. -/
def counterAt (closed : Bool) (filed : List (K × K)) (now : K) : Option (Counter K) :=
  (counterOf filed).filter (Counter.lives closed now)

theorem lives_iff {closed : Bool} {count : Nat} {opened now : K} :
    Counter.lives closed now ⟨count, some (opened + windowSeconds)⟩ = true ↔
      StillOpen closed (windowSeconds : K) opened now := by
  unfold Counter.lives StillOpen
  cases closed <;> simp

omit [Field K] in
/-- A counter that lives has lived before. -/
theorem lives_before {closed : Bool} {now later : K} (before : now ≤ later) {c : Counter K}
    (lives : Counter.lives closed later c = true) : Counter.lives closed now c = true := by
  unfold Counter.lives at lives ⊢
  split at lives
  · rfl
  · cases closed
    · simpa using lt_of_le_of_lt before (by simpa using lives)
    · simpa using le_trans before (by simpa using lives)

omit [Field K] in
theorem filter_lives_later {closed : Bool} {now later : K} (before : now ≤ later) (c : Option (Counter K)) :
    (c.filter (Counter.lives closed now)).filter (Counter.lives closed later) = c.filter (Counter.lives closed later) := by
  cases c with
  | none => rfl
  | some c =>
    by_cases lives : Counter.lives closed later c = true
    · simp [Option.filter_some, lives, lives_before before lives]
    · cases earlier : Counter.lives closed now c <;> simp [Option.filter_some, lives, earlier]

/-- The window of the last failure has not ended. -/
def LastOpen (closed : Bool) (filed : List (K × K)) (now : K) : Prop :=
  match filed with
  | [] => False
  | last :: _ => StillOpen closed (windowSeconds : K) last.2 now

theorem counterAt_open {closed : Bool} {last : K × K} {rest : List (K × K)} {now : K}
    (open_ : StillOpen closed (windowSeconds : K) last.2 now) :
    counterAt closed (last :: rest) now = some ⟨inLastWindow (last :: rest), some (last.2 + windowSeconds)⟩ := by
  rw [counterAt, counterOf, Option.filter_some, if_pos (lives_iff.mpr open_)]

theorem counterAt_ended {closed : Bool} {filed : List (K × K)} {now : K} (ended : ¬ LastOpen closed filed now) :
    counterAt closed filed now = none := by
  cases filed with
  | nil => rfl
  | cons last rest => rw [counterAt, counterOf, Option.filter_some, if_neg (fun lives => ended (lives_iff.mp lives))]

omit [Field K] in
theorem inLastWindow_pos (last : K × K) (rest : List (K × K)) : 1 ≤ inLastWindow (last :: rest) := by
  change 1 ≤ (last :: rest).countP (fun p => decide (last.2 ≤ p.2))
  rw [List.countP_cons_of_pos (by simp)]
  omega

/-- A failure in an open window is counted with those before it. -/
theorem counterOf_file_open {closed : Bool} {last : K × K} {rest : List (K × K)} {now : K}
    (open_ : StillOpen closed (windowSeconds : K) last.2 now) :
    counterOf (fileEntry closed (windowSeconds : K) (last :: rest) now) =
      some ⟨inLastWindow (last :: rest) + 1, some (last.2 + windowSeconds)⟩ := by
  simp only [fileEntry, open_, ↓reduceIte, counterOf, inLastWindow]
  rw [List.countP_cons_of_pos (by simp)]

variable [IsStrictOrderedRing K]

theorem opened_before {closed : Bool} {opened now : K} (ended : ¬ StillOpen closed (windowSeconds : K) opened now) :
    opened < now := by
  have wide : (0 : K) < (windowSeconds : K) := by
    have some_ : 0 < windowSeconds := by decide
    exact_mod_cast some_
  unfold StillOpen at ended
  split at ended
  · linarith
  · linarith

/-- A failure after the last window has ended is counted alone. -/
theorem counterOf_file_ended {closed : Bool} {filed : List (K × K)} (windowed : Windowed closed (windowSeconds : K) filed) {now : K}
    (ended : ¬ LastOpen closed filed now) :
    counterOf (fileEntry closed (windowSeconds : K) filed now) = some ⟨1, some (now + windowSeconds)⟩ := by
  cases filed with
  | nil => simp [fileEntry, counterOf, inLastWindow]
  | cons last rest =>
    have none_ : (last :: rest).countP (fun p => decide (now ≤ p.2)) = 0 := by
      rw [List.countP_eq_zero]
      intro p listed late
      have below : p.2 ≤ last.2 := by
        rcases List.mem_cons.mp listed with first | behind
        · rw [first]
        · exact ((List.pairwise_cons.mp windowed.ordered).1 p behind).opening
      exact absurd (of_decide_eq_true late) (not_le.mpr (lt_of_le_of_lt below (opened_before ended)))
    have anew : ¬ StillOpen closed (windowSeconds : K) last.2 now := ended
    simp only [fileEntry, anew, ↓reduceIte, counterOf, inLastWindow]
    rw [List.countP_cons_of_pos (by simp), none_]

theorem stillOpen_self (closed : Bool) (now : K) : StillOpen closed (windowSeconds : K) now now := by
  by_contra ended
  exact lt_irrefl now (opened_before ended)

variable {redis : Redis K} {store : redis.Store}

omit [IsStrictOrderedRing K] in
theorem redisCheck_ended {key : String} {now : K} (absent : redis.counter store (redisKey key) now = none) :
    redisCheck redis store key now = (store, none) := by
  rw [redisCheck, redis.get_eq, absent]
  rfl

omit [IsStrictOrderedRing K] in
theorem redisCheck_open {key : String} {now deadline : K} {count : Nat}
    (there : redis.counter store (redisKey key) now = some ⟨count, some deadline⟩) :
    (redisCheck redis store key now).1 = store ∧ ((redisCheck redis store key now).2.isSome ↔ maxFailures ≤ count) := by
  have left := redis.ttl_left store (redisKey key) now count deadline there
  unfold redisCheck
  rw [redis.get_eq, there]
  dsimp only [Option.map_some, Option.getD_some]
  by_cases full : maxFailures ≤ count
  · rw [if_pos full, if_neg (by omega), if_neg (by omega)]
    simp [full]
  · rw [if_neg full]
    simp [full]

omit [IsStrictOrderedRing K] in
/-- A check changes nothing, and locks while the window of the last failures is open and full. -/
theorem redisCheck_eq {key : String} {filed : List (K × K)} {now : K}
    (held : redis.counter store (redisKey key) now = counterAt redis.closed filed now) :
    (redisCheck redis store key now).1 = store ∧
      ((redisCheck redis store key now).2.isSome ↔ LastOpen redis.closed filed now ∧ maxFailures ≤ inLastWindow filed) := by
  by_cases open_ : LastOpen redis.closed filed now
  · cases filed with
    | nil => exact open_.elim
    | cons last rest =>
      obtain ⟨kept, locked⟩ := redisCheck_open (held.trans (counterAt_open open_))
      exact ⟨kept, locked.trans ⟨fun full => ⟨open_, full⟩, fun both => both.2⟩⟩
  · rw [redisCheck_ended (held.trans (counterAt_ended open_))]
    simp [open_]

omit [IsStrictOrderedRing K] in
/-- A failure where Redis holds no counter begins one, with the whole window to live. -/
theorem redisFailure_ended {key : String} {now : K} (absent : redis.counter store (redisKey key) now = none) (other : String) :
    redis.counter (redisFailure redis store key now) other now =
      if other = redisKey key then some ⟨1, some (now + windowSeconds)⟩ else redis.counter store other now := by
  have begun : (redis.incr store (redisKey key) now).2 = 1 := by
    rw [redis.incr_count, absent]
    rfl
  unfold redisFailure
  dsimp only
  rw [if_pos begun, redis.counter_expire _ _ _ _ (by decide), redis.counter_incr, redis.counter_incr, if_pos rfl,
    absent]
  split <;> rfl

omit [IsStrictOrderedRing K] in
/-- A failure where Redis holds a counter that will end counts it up. -/
theorem redisFailure_open {key : String} {now deadline : K} {count : Nat} (positive : 1 ≤ count)
    (there : redis.counter store (redisKey key) now = some ⟨count, some deadline⟩) (other : String) :
    redis.counter (redisFailure redis store key now) other now =
      if other = redisKey key then some ⟨count + 1, some deadline⟩ else redis.counter store other now := by
  have more : (redis.incr store (redisKey key) now).2 = count + 1 := by
    rw [redis.incr_count, there]
    rfl
  have again : redis.counter (redis.incr store (redisKey key) now).1 (redisKey key) now = some ⟨count + 1, some deadline⟩ := by
    rw [redis.counter_incr, if_pos rfl, there]
    rfl
  have left := redis.ttl_left _ _ now _ _ again
  have later : ¬ (redis.incr store (redisKey key) now).2 = 1 := by omega
  have ending : ¬ redis.ttl (redis.incr store (redisKey key) now).1 (redisKey key) now = -1 := by omega
  unfold redisFailure
  dsimp only
  rw [if_neg later, if_neg ending, redis.counter_incr, there]
  rfl

/-- A failure is filed under its key, and no other key is touched. -/
theorem redisFailure_counter {key : String} {filed : List (K × K)} {now : K}
    (held : redis.counter store (redisKey key) now = counterAt redis.closed filed now)
    (windowed : Windowed redis.closed (windowSeconds : K) filed) (other : String) :
    redis.counter (redisFailure redis store key now) other now =
      if other = redisKey key then counterAt redis.closed (fileEntry redis.closed (windowSeconds : K) filed now) now
      else redis.counter store other now := by
  by_cases open_ : LastOpen redis.closed filed now
  · cases filed with
    | nil => exact open_.elim
    | cons last rest =>
      rw [redisFailure_open (inLastWindow_pos last rest) (held.trans (counterAt_open open_)), counterAt, counterOf_file_open open_,
        Option.filter_some, if_pos (lives_iff.mpr open_)]
  · rw [redisFailure_ended (held.trans (counterAt_ended open_)), counterAt, counterOf_file_ended windowed open_,
      Option.filter_some, if_pos (lives_iff.mpr (stillOpen_self redis.closed now))]

end

/-! Over a run. -/

section
variable [Field K] [LinearOrder K] [IsStrictOrderedRing K] {redis : Redis K} {casefold sha256 : String → String}

omit [IsStrictOrderedRing K] in
theorem redisThrottled_append (calls : List (LoginCall K)) (call : LoginCall K) :
    redisThrottled redis casefold sha256 (calls ++ [call]) =
      redisStep redis casefold sha256 (redisThrottled redis casefold sha256 calls) call := by
  rw [redisThrottled, run_append, run_cons, run_nil]
  rfl

/-- The failures of a key, the last one first, each with the opening of the window that counts it. -/
def filedFailures (closed : Bool) (casefold sha256 : String → String) (calls : List (LoginCall K)) (key : String) : List (K × K) :=
  windowed closed (windowSeconds : K) (keyFailures casefold sha256 calls key)

omit [Field K] [IsStrictOrderedRing K] in
theorem sorted_keyFailures {calls : List (LoginCall K)} (ordered : (calls.map LoginCall.time).Pairwise (· ≤ ·)) (key : String) :
    (keyFailures casefold sha256 calls key).Pairwise (fun a b => a ≤ b) := ordered.sublist (failuresSince_sublist _ calls)

/-- What a call files of a key while the window that counts it may be open. -/
theorem redisStep_counter {store : redis.Store} {calls : List (LoginCall K)} {call : LoginCall K}
    (ordered : (calls.map LoginCall.time).Pairwise (· ≤ ·))
    (held : ∀ key, redis.counter store (redisKey key) call.time =
      counterAt redis.closed (filedFailures redis.closed casefold sha256 calls key) call.time) (key : String) :
    redis.counter (redisStep redis casefold sha256 store call) (redisKey key) call.time =
      counterAt redis.closed (filedFailures redis.closed casefold sha256 (calls ++ [call]) key) call.time := by
  have elsewhere (apart : key ≠ call.key casefold sha256) :
      counterAt redis.closed (filedFailures redis.closed casefold sha256 (calls ++ [call]) key) call.time =
        redis.counter store (redisKey key) call.time := by
    rw [held key, filedFailures, filedFailures, keyFailures_other apart]
  unfold redisStep
  cases op : call.op with
  | check =>
    dsimp only
    rw [(redisCheck_eq (held _)).1]
    by_cases same : key = call.key casefold sha256
    · rw [same, held, filedFailures, filedFailures, keyFailures_own, op]
    · rw [elsewhere same]
  | recordFailure =>
    dsimp only
    rw [redisFailure_counter (held _) (windowed_spec (sorted_keyFailures ordered _))]
    by_cases same : key = call.key casefold sha256
    · rw [if_pos (by rw [same]), same, filedFailures, filedFailures, keyFailures_own, op, windowed_append]
    · rw [if_neg (fun equal => same (redisKey_injective equal)), elsewhere same]
  | recordSuccess =>
    dsimp only
    rw [redisSuccess, redis.counter_delete]
    by_cases same : key = call.key casefold sha256
    · rw [if_pos (by rw [same]), same, filedFailures, keyFailures_own, op]
      rfl
    · rw [if_neg (fun equal => same (redisKey_injective equal)), elsewhere same]

/-- Redis holds the failures of every key, counted by their windows. -/
theorem redisThrottled_counter {calls : List (LoginCall K)} (ordered : (calls.map LoginCall.time).Pairwise (· ≤ ·)) {now : K}
    (later : ∀ call ∈ calls, call.time ≤ now) (key : String) :
    redis.counter (redisThrottled redis casefold sha256 calls) (redisKey key) now =
      counterAt redis.closed (filedFailures redis.closed casefold sha256 calls key) now := by
  induction calls using List.reverseRecOn generalizing key now with
  | nil => exact redis.counter_fresh _ _
  | append_singleton calls call ih =>
    rw [List.map_append, List.pairwise_append] at ordered
    have before : ∀ other ∈ calls, other.time ≤ call.time := fun other member =>
      ordered.2.2 other.time (List.mem_map_of_mem member) call.time (by simp)
    have passed : call.time ≤ now := later call (by simp)
    rw [redisThrottled_append, redis.counter_later _ _ passed, redisStep_counter ordered.1 (ih ordered.1 before), counterAt,
      filter_lives_later passed, counterAt]

variable [FloorRing K]

/-- Redis locks while the window of the fifth last failure is open. -/
theorem redisCheck_isSome {calls : List (LoginCall K)} (ordered : (calls.map LoginCall.time).Pairwise (· ≤ ·)) {now : K}
    (later : ∀ call ∈ calls, call.time ≤ now) (key : String) :
    (redisCheck redis (redisThrottled redis casefold sha256 calls) key now).2.isSome ↔
      ∃ p, (filedFailures redis.closed casefold sha256 calls key)[4]? = some p ∧ StillOpen redis.closed (windowSeconds : K) p.2 now := by
  rw [(redisCheck_eq (redisThrottled_counter ordered later key)).2]
  have spec : Windowed redis.closed (windowSeconds : K) (filedFailures redis.closed casefold sha256 calls key) :=
    windowed_spec (sorted_keyFailures ordered key)
  have past : ∀ p ∈ filedFailures redis.closed casefold sha256 calls key, p.1 ≤ now := by
    intro p listed
    obtain ⟨call, member, _, _, same⟩ := exists_of_mem_failuresSince (mem_of_windowed redis.closed _ listed)
    rw [← same]
    exact later call member
  cases filed : filedFailures redis.closed casefold sha256 calls key with
  | nil => simp [LastOpen]
  | cons last rest =>
    rw [filed] at spec past
    exact spec.lt_inLastWindow_iff past 4

/-- The memory locks while the fifth last failure is recent. -/
theorem memoryCheck_isSome {calls : List (LoginCall K)} (fits : Fits casefold sha256 calls)
    (ordered : (calls.map LoginCall.time).Pairwise (· ≤ ·)) {now : K} (later : ∀ call ∈ calls, call.time ≤ now) (key : String) :
    (memoryCheck (throttled casefold sha256 calls) key now).2.isSome ↔
      ∃ p, (filedFailures redis.closed casefold sha256 calls key)[4]? = some p ∧ now - windowSeconds < p.1 := by
  rw [memoryCheck_snd, (throttled_retained fits ordered later key).drop_eq_recent (le_refl now), waiting_isSome]
  exact lt_recent_iff redis.closed (windowSeconds : K) (sorted_keyFailures ordered key) now 4

omit [IsStrictOrderedRing K] in
/-- A sweep leaves no more keys than there are. -/
theorem fits_of_few {calls : List (LoginCall K)}
    (few : (calls.map (LoginCall.key casefold sha256)).dedup.length < maxKeys) : Fits casefold sha256 calls := by
  intro first call rest split op
  rw [← List.length_map Prod.fst]
  refine le_trans (List.subperm_of_subset (Dict.nodup _) ?_).length_le (le_of_lt few)
  intro _ listed
  obtain ⟨e, swept, rfl⟩ := List.mem_map.mp listed
  obtain ⟨last, failed, _⟩ := exists_of_swept op (throttled_suffix first) swept
  obtain ⟨other, member, own, _, _⟩ := exists_of_mem_failuresSince failed
  have called : other ∈ calls := by
    rw [split]
    rcases List.mem_append.mp member with before | here
    · exact List.mem_append_left _ before
    · exact List.mem_append_right _ (List.mem_singleton.mp here ▸ List.mem_cons_self)
  rw [List.mem_dedup, ← of_decide_eq_true own]
  exact List.mem_map_of_mem called

/-- The two paths agree where the fifth last failure is recent whenever the window that counts it is open. -/
theorem locked_alike_iff {calls : List (LoginCall K)} (fits : Fits casefold sha256 calls)
    (ordered : (calls.map LoginCall.time).Pairwise (· ≤ ·)) {now : K} (later : ∀ call ∈ calls, call.time ≤ now) (key : String) :
    ((memoryCheck (throttled casefold sha256 calls) key now).2.isSome ↔
        (redisCheck redis (redisThrottled redis casefold sha256 calls) key now).2.isSome) ↔
      ∀ p, (filedFailures redis.closed casefold sha256 calls key)[4]? = some p →
        (now - (windowSeconds : K) < p.1 ↔ StillOpen redis.closed (windowSeconds : K) p.2 now) := by
  rw [memoryCheck_isSome fits ordered later, redisCheck_isSome ordered later]
  cases (filedFailures redis.closed casefold sha256 calls key)[4]? with
  | none => simp
  | some p => simp

theorem decideAlike_iff {calls : List (LoginCall K)} (ordered : (calls.map LoginCall.time).Pairwise (· ≤ ·))
    (few : (calls.map (LoginCall.key casefold sha256)).dedup.length < maxKeys) :
    DecideAlike redis casefold sha256 calls ↔
      ∀ first call rest, calls = first ++ call :: rest → call.op = .check →
        ∀ p, (filedFailures redis.closed casefold sha256 first (call.key casefold sha256))[4]? = some p →
          (call.time - (windowSeconds : K) < p.1 ↔ StillOpen redis.closed (windowSeconds : K) p.2 call.time) := by
  have decided (first : List (LoginCall K)) (call : LoginCall K) (rest : List (LoginCall K)) (split : calls = first ++ call :: rest) :
      ((memoryCheck (throttled casefold sha256 first) (call.key casefold sha256) call.time).2.isSome ↔
        (redisCheck redis (redisThrottled redis casefold sha256 first) (call.key casefold sha256) call.time).2.isSome) ↔
      ∀ p, (filedFailures redis.closed casefold sha256 first (call.key casefold sha256))[4]? = some p →
        (call.time - (windowSeconds : K) < p.1 ↔ StillOpen redis.closed (windowSeconds : K) p.2 call.time) := by
    rw [split, List.map_append, List.map_cons, List.pairwise_append] at ordered
    have later : ∀ other ∈ first, other.time ≤ call.time := fun other member =>
      ordered.2.2 other.time (List.mem_map_of_mem member) call.time List.mem_cons_self
    exact locked_alike_iff ((fits_of_few few).prior split) ordered.1 later _
  constructor
  · intro alike first call rest split op
    exact (decided first call rest split).mp (alike first call rest split op)
  · intro agree first call rest split op
    exact (decided first call rest split).mpr (agree first call rest split op)

end

/-! A Redis that is a dictionary of counters. -/

section
variable [Field K] [LinearOrder K] (closed : Bool)

def held (store : Dict String (Counter K)) (key : String) (now : K) : Option (Counter K) :=
  (store.get? key).filter (Counter.lives closed now)

omit [Field K] in
theorem lives_of_held {closed : Bool} {store : Dict String (Counter K)} {key : String} {now : K} {c : Counter K}
    (there : held closed store key now = some c) : Counter.lives closed now c = true :=
  (Option.filter_eq_some_iff.mp there).2

omit [Field K] in
theorem held_set (store : Dict String (Counter K)) (key : String) (c : Counter K) (other : String) {now : K}
    (lives : Counter.lives closed now c = true) :
    held closed (store.set key c) other now = if other = key then some c else held closed store other now := by
  rw [held, Dict.get?_set]
  split
  · rw [Option.filter_some, if_pos lives]
  · rfl

omit [Field K] in
theorem lives_counted {store : Dict String (Counter K)} {key : String} {now : K} :
    Counter.lives closed now (counted (held closed store key now)) = true := by
  cases there : held closed store key now with
  | none => rfl
  | some c =>
    have lives : Counter.lives closed now c = true := lives_of_held there
    exact lives

variable [IsStrictOrderedRing K]

theorem lives_armed (count : Nat) {seconds : Nat} (positive : 0 < seconds) (now : K) :
    Counter.lives closed now ⟨count, some (now + seconds)⟩ = true := by
  have wide : (0 : K) < (seconds : K) := by exact_mod_cast positive
  cases closed <;> simp [Counter.lives, wide, le_of_lt wide]

/-- `TTL` rounds the seconds left. -/
def dictRedis [FloorRing K] : Redis K where
  Store := Dict String (Counter K)
  closed := closed
  fresh := Dict.empty
  get := fun s key now => (held closed s key now).map Counter.count
  ttl := fun s key now =>
    match held closed s key now with
    | none => -2
    | some ⟨_, none⟩ => -1
    | some ⟨_, some deadline⟩ => ⌊deadline - now + 1 / 2⌋
  expire := fun s key seconds now =>
    match held closed s key now with
    | none => (s, false)
    | some c => (s.set key ⟨c.count, some (now + seconds)⟩, true)
  incr := fun s key now => (s.set key (counted (held closed s key now)), (counted (held closed s key now)).count)
  delete := Dict.pop
  counter := held closed
  counter_fresh := fun _ _ => rfl
  counter_later := fun _ _ _ _ before => (filter_lives_later before _).symm
  get_eq := fun _ _ _ => rfl
  ttl_absent := by
    intro s key now absent
    rw [absent]
  ttl_endless := by
    intro s key now count there
    rw [there]
  ttl_left := by
    intro s key now count deadline there
    have left : now ≤ deadline := by
      have lives := lives_of_held there
      unfold Counter.lives at lives
      cases closed
      · exact le_of_lt (by simpa using lives)
      · simpa using lives
    rw [there]
    apply Int.floor_nonneg.mpr
    have half : (0 : K) < 1 / 2 := by norm_num
    linarith
  counter_expire := by
    intro s key seconds now other positive
    cases there : held closed s key now with
    | none =>
      dsimp only
      split
      · rename_i same
        rw [same, there]
        rfl
      · rfl
    | some c => exact held_set closed s key _ other (lives_armed closed c.count positive now)
  expire_found := by
    intro s key seconds now
    cases held closed s key now <;> rfl
  counter_incr := fun s key now other => held_set closed s key _ other (lives_counted closed)
  incr_count := fun _ _ _ => rfl
  counter_delete := by
    intro s key now other
    rw [held, Dict.get?_pop]
    split <;> rfl

end

/-- A burst that both paths lock. -/
def burst : List (LoginCall ℚ) := attempts [0, 1, 2, 3, 4] ++ [attempt .check 5]

theorem decideAlike_iff_burst : DecideAlike (dictRedis true) id id burst := by
  apply (decideAlike_iff (by decide +kernel) (by decide +kernel)).mpr
  intro first call rest split op p found
  have here : burst[first.length]? = some call := by
    rw [split, List.getElem?_append_right (le_refl _), Nat.sub_self]
    rfl
  have checked : ∀ n < 6, (burst[n]?.map LoginCall.op) = some .check → n = 5 := by decide +kernel
  have last : first.length = 5 := by
    apply checked first.length (List.getElem?_eq_some_iff.mp here).1
    rw [here, Option.map_some, op]
  have before : first = attempts [0, 1, 2, 3, 4] := (List.append_inj split (last.trans rfl).symm).1.symm
  rw [last] at here
  cases here
  rw [before] at found
  have oldest : filedFailures true id id (attempts [0, 1, 2, 3, 4]) ((attempt .check 5).key id id) =
      [(4, 0), (3, 0), (2, 0), (1, 0), (0, 0)] := by decide +kernel
  have same := found.symm.trans (congrArg (fun filed => filed[4]?) oldest)
  cases same
  decide +kernel

/-- Five failures at the end of one window and the start of the next: the memory locks, Redis does not. -/
theorem decideAlike_counterexample : ¬ DecideAlike (dictRedis true) id id (attempts [0, 296, 297, 298, 299, 301] ++ [attempt .check 302]) ∧
    ¬ DecideAlike (dictRedis false) id id (attempts [0, 296, 297, 298, 299, 301] ++ [attempt .check 302]) := by
  constructor
  · intro alike
    have decided := alike (attempts [0, 296, 297, 298, 299, 301]) (attempt .check 302) [] rfl rfl
    revert decided
    decide +kernel
  · intro alike
    have decided := alike (attempts [0, 296, 297, 298, 299, 301]) (attempt .check 302) [] rfl rfl
    revert decided
    decide +kernel

end KnowledgeGap.Auth.Throttle
