import KnowledgeGap.Router.Limits
import Mathlib.Algebra.Order.BigOperators.Group.List
import Mathlib.Data.List.DropRight

namespace KnowledgeGap.Router

open Relational Protocol

variable {K : Type}

section
variable [Field K] [LinearOrder K]

/-- What a refused call leaves of the scheduler: some keys are pruned, and nothing is booked. -/
structure Unbooked (now : K) (s s' : RouterScheduler K) : Prop where
  keys : Aged now s.keys s'.keys
  globalInFlight : s'.globalInFlight = s.globalInFlight
  capInFlight : s'.capInFlight = s.capInFlight
  cursor : s'.cursor = s.cursor
  requests : s'.requests = s.requests
  failures : s'.failures = s.failures

/-- A pass of `acquire` grants a lease, or waits for some time and may reject after that, or rejects at once. -/
def Answer (now : K) (s : RouterScheduler K) : RouterScheduler K × Turn K → Prop
  | (_, .granted _) => True
  | (s', .waiting timeout) =>
    0 < timeout ∧ (Unbooked now s s' ∧ s'.rejections = s.rejections) ∧
      Unbooked now s (reject s') ∧ (reject s').rejections = s.rejections + 1
  | (s', .capacityError _) => Unbooked now s s' ∧ s'.rejections = s.rejections + 1
  | (_, .indexError) => False

variable (cfg : RouterConfig K)

/-- A key whose turn comes to the token window while that is empty. -/
structure Dry (now : K) (k : KeyState K) : Prop where
  closed : k.openedUntil ≤ now
  share : k.inFlight < cfg.keyConcurrency
  requests : cfg.keyRpm = 0 ∨ (prune now k).requestTimes.length < cfg.keyRpm
  tokens : (prune now k).tokenEvents = []

/-! One key. -/

variable {cfg}

theorem prune_prune (now : K) (k : KeyState K) : prune now (prune now k) = prune now k := by
  have again {α : Type} (time : α → K) (kept : List α) :
      drop time minute now (drop time minute now kept) = drop time minute now kept := List.dropWhile_idempotent _ _
  unfold prune
  dsimp only
  rw [again, again]

omit [LinearOrder K] in
theorem oldest_ne_indexError {α : Type} {now : K} {time : α → K} {kept : List α} (some_ : kept ≠ []) :
    oldest now time kept ≠ .indexError := by
  cases kept with
  | nil => exact absurd rfl some_
  | cons e kept => simp [oldest]

theorem checkKey_indexError_iff {now : K} {estimateTokens : Int} {k : KeyState K} :
    checkKey cfg now estimateTokens (prune now k) = .indexError ↔
      (cfg.keyTpm ≠ 0 ∧ (cfg.keyTpm : Int) < estimateTokens) ∧ Dry cfg now k := by
  unfold checkKey
  change (if now < k.openedUntil then _ else if cfg.keyConcurrency ≤ k.inFlight then _ else _) = _ ↔ _
  by_cases opened : now < k.openedUntil
  · rw [if_pos opened]
    constructor
    · intro failed
      cases failed
    · intro both
      exact absurd opened (not_lt.mpr both.2.closed)
  rw [if_neg opened]
  by_cases full : cfg.keyConcurrency ≤ k.inFlight
  · rw [if_pos full]
    constructor
    · intro failed
      cases failed
    · intro both
      exact absurd both.2.share (not_lt.mpr full)
  rw [if_neg full]
  by_cases busy : cfg.keyRpm ≠ 0 ∧ cfg.keyRpm ≤ (prune now k).requestTimes.length
  · have some_ : (prune now k).requestTimes ≠ [] := by
      intro none
      rw [none] at busy
      exact busy.1 (Nat.le_zero.mp busy.2)
    rw [if_pos busy]
    constructor
    · intro failed
      exact absurd failed (oldest_ne_indexError some_)
    · intro both
      rcases both.2.requests with off | below
      · exact absurd off busy.1
      · exact absurd below (not_lt.mpr busy.2)
  rw [if_neg busy]
  have room : cfg.keyRpm = 0 ∨ (prune now k).requestTimes.length < cfg.keyRpm := by
    by_cases off : cfg.keyRpm = 0
    · exact Or.inl off
    · exact Or.inr (not_le.mp (fun many => busy ⟨off, many⟩))
  cases events : (prune now k).tokenEvents with
  | nil =>
    simp only [List.map_nil, List.sum_nil, zero_add, oldest]
    constructor
    · intro failed
      by_cases large : cfg.keyTpm ≠ 0 ∧ (cfg.keyTpm : Int) < estimateTokens
      · exact ⟨large, not_lt.mp opened, not_le.mp full, room, events⟩
      · rw [if_neg large] at failed
        cases failed
    · intro both
      rw [if_pos both.1]
  | cons e kept =>
    constructor
    · intro failed
      split at failed
      · exact absurd failed (oldest_ne_indexError (by simp))
      · cases failed
    · intro both
      have none := both.2.tokens
      rw [events] at none
      cases none

/-- A key with no debts is not free for an estimate beyond its tokens. -/
theorem checkKey_not_free {now : K} {estimateTokens : Int} {k : KeyState K} (paid : ∀ e ∈ k.tokenEvents, 0 ≤ e.2)
    (large : cfg.keyTpm ≠ 0 ∧ (cfg.keyTpm : Int) < estimateTokens) : checkKey cfg now estimateTokens k ≠ .free := by
  intro free
  have cheap := (checkKey_free free).2.2.2 large.1
  have owed : 0 ≤ (k.tokenEvents.map Prod.snd).sum := by
    apply List.sum_nonneg
    intro v listed
    obtain ⟨e, event, rfl⟩ := List.mem_map.mp listed
    exact paid e event
  omega

/-- The wait that a pruned key suggests is not over. -/
theorem checkKey_wait_pos [IsStrictOrderedRing K] {now : K} {estimateTokens : Int} {k : KeyState K} {wait : K}
    (skipped : checkKey cfg now estimateTokens (prune now k) = .skip (some wait)) : 0 < wait := by
  have ahead {α : Type} (time : α → K) (kept : List α)
      (answer : oldest now time (drop time minute now kept) = .skip (some wait)) : 0 < wait := by
    cases left : drop time minute now kept with
    | nil =>
      rw [left] at answer
      cases answer
    | cons e rest =>
      have late : ¬ time e ≤ now - minute := by
        have first := List.head?_dropWhile_not (fun e => decide (time e ≤ now - minute)) kept
        rw [← drop, left] at first
        simpa using first
      rw [left] at answer
      cases answer
      linarith
  unfold checkKey at skipped
  split at skipped
  · rename_i opened
    cases skipped
    exact sub_pos.mpr opened
  split at skipped
  · cases skipped
  split at skipped
  · exact ahead id k.requestTimes skipped
  split at skipped
  · exact ahead Prod.fst k.tokenEvents skipped
  · cases skipped

/-! The scan. -/

theorem scan_cons {now : K} {estimateTokens : Int} {index : Nat} {rest : List Nat} {keys : List (KeyState K)} {retryAfter : K}
    {k : KeyState K} (there : keys[index]? = some k) :
    scan cfg now estimateTokens (index :: rest) keys retryAfter =
      match checkKey cfg now estimateTokens (prune now k) with
      | .free => ⟨keys.modify index (prune now), retryAfter, .candidate index⟩
      | .indexError => ⟨keys.modify index (prune now), retryAfter, .indexError⟩
      | .skip none => scan cfg now estimateTokens rest (keys.modify index (prune now)) retryAfter
      | .skip (some wait) => scan cfg now estimateTokens rest (keys.modify index (prune now)) (min retryAfter wait) := by
  have pruned : (keys.modify index (prune now))[index]? = some (prune now k) := by
    rw [List.getElem?_modify_eq, there]
    rfl
  cases check : checkKey cfg now estimateTokens (prune now k) with
  | free => simp [scan, pruned, check]
  | indexError => simp [scan, pruned, check]
  | skip wait =>
    cases wait with
    | none => simp [scan, pruned, check]
    | some wait => simp [scan, pruned, check]

/-- The key at an index is dry. -/
def DryAt (cfg : RouterConfig K) (now : K) (keys : List (KeyState K)) (i : Nat) : Prop := ∃ k, keys[i]? = some k ∧ Dry cfg now k

theorem dry_prune {now : K} {k : KeyState K} : Dry cfg now (prune now k) ↔ Dry cfg now k := by
  constructor
  · intro dry
    have requests := dry.requests
    have tokens := dry.tokens
    rw [prune_prune] at requests tokens
    exact ⟨dry.closed, dry.share, requests, tokens⟩
  · intro dry
    refine ⟨dry.closed, dry.share, ?_, ?_⟩
    · rw [prune_prune]
      exact dry.requests
    · rw [prune_prune]
      exact dry.tokens

theorem dryAt_modify {now : K} {keys : List (KeyState K)} {index i : Nat} :
    DryAt cfg now (keys.modify index (prune now)) i ↔ DryAt cfg now keys i := by
  unfold DryAt
  by_cases here : index = i
  · rw [← here, List.getElem?_modify_eq]
    cases keys[index]? with
    | none => simp
    | some k => simp [dry_prune]
  · rw [List.getElem?_modify_ne _ _ here]

omit [Field K] [LinearOrder K] in
theorem exists_key {keys : List (KeyState K)} {i : Nat} (inside : i < keys.length) : ∃ k, keys[i]? = some k :=
  ⟨keys.get ⟨i, inside⟩, List.getElem?_eq_getElem inside⟩

theorem inside_modify {keys : List (KeyState K)} {order : List Nat} {index : Nat} {now : K}
    (inside : ∀ i ∈ order, i < keys.length) : ∀ i ∈ order, i < (keys.modify index (prune now)).length := by
  rw [List.length_modify]
  exact inside

theorem dry_of_scan {now : K} {estimateTokens : Int} {order : List Nat} {keys : List (KeyState K)} {retryAfter : K}
    (inside : ∀ i ∈ order, i < keys.length)
    (failed : (scan cfg now estimateTokens order keys retryAfter).found = .indexError) :
    (cfg.keyTpm ≠ 0 ∧ (cfg.keyTpm : Int) < estimateTokens) ∧ ∃ i ∈ order, DryAt cfg now keys i := by
  induction order generalizing keys retryAfter with
  | nil => cases failed
  | cons index rest ih =>
    obtain ⟨k, there⟩ := exists_key (inside index List.mem_cons_self)
    have inside' : ∀ i ∈ rest, i < (keys.modify index (prune now)).length :=
      inside_modify fun i listed => inside i (List.mem_cons_of_mem _ listed)
    have later (retryAfter : K)
        (failed : (scan cfg now estimateTokens rest (keys.modify index (prune now)) retryAfter).found = .indexError) :
        (cfg.keyTpm ≠ 0 ∧ (cfg.keyTpm : Int) < estimateTokens) ∧ ∃ i ∈ index :: rest, DryAt cfg now keys i := by
      obtain ⟨large, i, listed, dry⟩ := ih inside' failed
      exact ⟨large, i, List.mem_cons_of_mem _ listed, dryAt_modify.mp dry⟩
    rw [scan_cons there] at failed
    cases check : checkKey cfg now estimateTokens (prune now k) with
    | free =>
      rw [check] at failed
      cases failed
    | indexError =>
      obtain ⟨large, dry⟩ := checkKey_indexError_iff.mp check
      exact ⟨large, index, List.mem_cons_self, k, there, dry⟩
    | skip wait =>
      rw [check] at failed
      cases wait with
      | none => exact later _ failed
      | some wait => exact later _ failed

/-- No debt stands in the token window. -/
def Solvent (k : KeyState K) : Prop := ∀ e ∈ k.tokenEvents, 0 ≤ e.2

def Paid (keys : List (KeyState K)) : Prop := ∀ (i : Nat) (k : KeyState K), keys[i]? = some k → Solvent k

theorem Solvent.prune {now : K} {k : KeyState K} (solvent : Solvent k) : Solvent (Router.prune now k) :=
  fun e event => solvent e ((List.dropWhile_sublist _).subset event)

/-- A scan for more than a key may take passes over every key, up to the first that is dry. -/
theorem scan_of_dry {now : K} {estimateTokens : Int} {order : List Nat} {keys : List (KeyState K)} {retryAfter : K}
    (inside : ∀ i ∈ order, i < keys.length) (paid : Paid keys)
    (large : cfg.keyTpm ≠ 0 ∧ (cfg.keyTpm : Int) < estimateTokens) {i : Nat} (listed : i ∈ order) (dry : DryAt cfg now keys i) :
    (scan cfg now estimateTokens order keys retryAfter).found = .indexError := by
  induction order generalizing keys retryAfter with
  | nil => cases listed
  | cons index rest ih =>
    obtain ⟨k, there⟩ := exists_key (inside index List.mem_cons_self)
    have later (retryAfter : K) (behind : i ∈ rest) :
        (scan cfg now estimateTokens rest (keys.modify index (prune now)) retryAfter).found = .indexError := by
      apply ih (inside_modify fun i listed => inside i (List.mem_cons_of_mem _ listed)) _ behind (dryAt_modify.mpr dry)
      exact forall_modify (fun k found => (paid index k found).prune) (fun i k _ => paid i k)
    rw [scan_cons there]
    cases check : checkKey cfg now estimateTokens (prune now k) with
    | free => exact absurd check (checkKey_not_free (paid index k there).prune large)
    | indexError => rfl
    | skip wait =>
      have behind : i ∈ rest := by
        rcases List.mem_cons.mp listed with here | behind
        · obtain ⟨k', there', dry⟩ := dry
          rw [here, there] at there'
          cases there'
          rw [checkKey_indexError_iff.mpr ⟨large, dry⟩] at check
          cases check
        · exact behind
      cases wait with
      | none => exact later _ behind
      | some wait => exact later _ behind

theorem scan_retryAfter_pos [IsStrictOrderedRing K] {now : K} {estimateTokens : Int} {order : List Nat} {keys : List (KeyState K)}
    {retryAfter : K} (inside : ∀ i ∈ order, i < keys.length) (positive : 0 < retryAfter) :
    0 < (scan cfg now estimateTokens order keys retryAfter).retryAfter := by
  induction order generalizing keys retryAfter with
  | nil => exact positive
  | cons index rest ih =>
    obtain ⟨k, there⟩ := exists_key (inside index List.mem_cons_self)
    have inside' : ∀ i ∈ rest, i < (keys.modify index (prune now)).length :=
      inside_modify fun i listed => inside i (List.mem_cons_of_mem _ listed)
    rw [scan_cons there]
    cases check : checkKey cfg now estimateTokens (prune now k) with
    | free => exact positive
    | indexError => exact positive
    | skip wait =>
      cases wait with
      | none => exact ih inside' positive
      | some wait => exact ih inside' (lt_min positive (checkKey_wait_pos check))

omit [Field K] [LinearOrder K] in
theorem mem_order {s : RouterScheduler K} {i : Nat} : i ∈ s.order ↔ i < s.keys.length := by
  unfold RouterScheduler.order
  rw [List.mem_map]
  constructor
  · intro turned
    obtain ⟨offset, below, rfl⟩ := turned
    rw [List.mem_range] at below
    exact Nat.mod_lt _ (by omega)
  · intro below
    refine ⟨(i + (s.keys.length - s.cursor % s.keys.length)) % s.keys.length, ?_, ?_⟩
    · rw [List.mem_range]
      exact Nat.mod_lt _ (by omega)
    · have round := Nat.div_add_mod s.cursor s.keys.length
      have short : s.cursor % s.keys.length < s.keys.length := Nat.mod_lt _ (by omega)
      have whole : s.cursor + (i + (s.keys.length - s.cursor % s.keys.length)) =
          i + s.keys.length * (s.cursor / s.keys.length + 1) := by
        rw [Nat.mul_add, Nat.mul_one]
        omega
      rw [Nat.add_mod_mod, whole, Nat.add_mul_mod_self_left, Nat.mod_eq_of_lt below]

/-! A pass. -/

theorem unbooked_aged {now : K} {s : RouterScheduler K} {keys : List (KeyState K)} (aged : Aged now s.keys keys) (rejections : Nat) :
    Unbooked now s { s with keys := keys, rejections := rejections } := ⟨aged, rfl, rfl, rfl, rfl, rfl⟩

theorem turnAway_answers {now : K} {s : RouterScheduler K} {keys : List (KeyState K)} (aged : Aged now s.keys keys)
    (deadline : K) {retryAfter : K} (positive : 0 < retryAfter) :
    Answer now s (turnAway { s with keys := keys } now deadline retryAfter) := by
  unfold turnAway
  by_cases late : deadline - now ≤ 0
  · rw [if_pos late]
    exact ⟨unbooked_aged aged _, rfl⟩
  · rw [if_neg late]
    exact ⟨lt_min (not_le.mp late) positive, ⟨unbooked_aged aged _, rfl⟩, unbooked_aged aged _, rfl⟩

/-- A pass answers unless its scan fails. -/
theorem acquireTurn_answers [IsStrictOrderedRing K] (s : RouterScheduler K) (capability : Capability)
    (estimateTokens : Int) (now deadline : K) :
    Answer now s (acquireTurn cfg s capability estimateTokens now deadline) ↔
      (scan cfg now estimateTokens s.order s.keys (max (ratio 5 100) (deadline - now))).found ≠ .indexError := by
  have soon : (0 : K) < ratio 5 100 := by
    unfold ratio
    positivity
  have aged := scan_aged cfg now estimateTokens s.order s.keys (max (ratio 5 100) (deadline - now))
  have positive : 0 < (scan cfg now estimateTokens s.order s.keys (max (ratio 5 100) (deadline - now))).retryAfter :=
    scan_retryAfter_pos (fun i listed => mem_order.mp listed) (lt_max_of_lt_left soon)
  unfold acquireTurn
  dsimp only
  cases found : (scan cfg now estimateTokens s.order s.keys (max (ratio 5 100) (deadline - now))).found with
  | indexError => simp [Answer]
  | nothing => simpa using turnAway_answers aged deadline positive
  | candidate index =>
    dsimp only
    split
    · simp [Answer]
    · simpa using turnAway_answers aged deadline positive

theorem scan_fails_iff {s : RouterScheduler K} (paid : Paid s.keys) (estimateTokens : Int) (now retryAfter : K) :
    (scan cfg now estimateTokens s.order s.keys retryAfter).found = .indexError ↔
      (cfg.keyTpm ≠ 0 ∧ (cfg.keyTpm : Int) < estimateTokens) ∧ ∃ k ∈ s.keys, Dry cfg now k := by
  constructor
  · intro failed
    obtain ⟨large, i, _, k, there, dry⟩ := dry_of_scan (fun i listed => mem_order.mp listed) failed
    exact ⟨large, k, List.mem_of_getElem? there, dry⟩
  · intro both
    obtain ⟨large, k, listed, dry⟩ := both
    obtain ⟨i, there⟩ := List.mem_iff_getElem?.mp listed
    exact scan_of_dry (fun i listed => mem_order.mp listed) paid large
      (mem_order.mpr (List.getElem?_eq_some_iff.mp there).1) ⟨k, there, dry⟩

/-! Over a run. -/

/-- No call estimates less than nothing. -/
def Event.Estimated : Event K → Prop
  | .acquire _ estimateTokens _ _ => 0 ≤ estimateTokens
  | _ => True

instance decidableEstimated : (e : Event K) → Decidable e.Estimated
  | .acquire _ estimateTokens _ _ => inferInstanceAs (Decidable (0 ≤ estimateTokens))
  | .reject => inferInstanceAs (Decidable True)
  | .release _ _ _ _ _ => inferInstanceAs (Decidable True)
  | .snapshot _ => inferInstanceAs (Decidable True)

theorem paid_aged {now : K} {keys keys' : List (KeyState K)} (aged : Aged now keys keys') (paid : Paid keys) : Paid keys' :=
  aged.keeps (fun _ _ solvent => Solvent.prune solvent) paid

omit [Field K] [LinearOrder K] in
theorem solvent_take {now : K} {estimateTokens : Int} {k : KeyState K} (solvent : Solvent k) (estimated : 0 ≤ estimateTokens) :
    Solvent (takeKey now estimateTokens k) := by
  intro e event
  unfold takeKey at event
  dsimp only at event
  split at event
  · exact solvent e event
  · rcases List.mem_append.mp event with before | new
    · exact solvent e before
    · rw [List.mem_singleton.mp new]
      exact estimated

omit [LinearOrder K] in
theorem solvent_release {lease : Lease} {success : Bool} {actualTokens : Option Int} {booked opened : K} {k : KeyState K}
    (solvent : Solvent k) : Solvent (releaseKey cfg lease success actualTokens booked opened k) := by
  intro e event
  rw [releaseKey_tokenEvents] at event
  rcases List.mem_append.mp event with before | new
  · exact solvent e before
  · obtain ⟨c, made, rfl⟩ := List.mem_map.mp new
    unfold correction at made
    split at made
    · cases made
    · split at made
      · rename_i late
        rw [List.mem_singleton.mp made]
        exact le_of_lt late.2
      · cases made

theorem paid_turn {s : RouterScheduler K} (paid : Paid s.keys) {capability : Capability} {estimateTokens : Int}
    (estimated : 0 ≤ estimateTokens) {now : K} {ended : RouterScheduler K × Turn K}
    (made : TurnMade cfg s capability estimateTokens now ended) : Paid ended.1.keys := by
  cases made with
  | granted chosen _ _ =>
    rename_i keys index _ _
    obtain ⟨before, k, aged, _, after, _⟩ := chosen
    have pruned : Paid keys := by
      rw [after]
      exact paid_aged (.prune index aged) paid
    exact forall_modify (fun k found => solvent_take (pruned index k found) estimated) (fun i k _ => pruned i k)
  | refused aged _ => exact paid_aged aged paid

theorem paid_step {l : Ledger K} {e : Event K} (paid : Paid l.scheduler.keys) (estimated : e.Estimated) :
    Paid (l.step cfg e).scheduler.keys := by
  cases e with
  | acquire capability estimateTokens now deadline =>
    have after := paid_turn paid estimated (acquireTurn_made cfg l.scheduler capability estimateTokens now deadline)
    unfold Ledger.step
    dsimp only
    split
    · exact after
    · exact after
  | reject => exact paid
  | release lease success actualTokens booked opened =>
    exact forall_modify (fun k found => solvent_release (paid _ k found)) (fun i k _ => paid i k)
  | snapshot now =>
    intro i k found
    change (l.scheduler.keys.map (prune now))[i]? = some k at found
    rw [List.getElem?_map] at found
    obtain ⟨k', before, rfl⟩ := Option.map_eq_some_iff.mp found
    exact (paid i k' before).prune

omit [LinearOrder K] in
theorem paid_init (start : K) : Paid (Ledger.init cfg start).scheduler.keys := by
  intro i k found
  change (cfg.providerKeys.map _)[i]? = some k at found
  rw [List.getElem?_map] at found
  obtain ⟨key, _, rfl⟩ := Option.map_eq_some_iff.mp found
  intro e event
  cases event

theorem acquire_answers_iff [IsStrictOrderedRing K] (cfg : RouterConfig K) (start : K) (events : List (Event K))
    (estimated : ∀ e ∈ events, e.Estimated) (capability : Capability) (estimateTokens : Nat) (now deadline : K) :
    Answer now (run (Ledger.step cfg) (.init cfg start) events).scheduler
        (acquireTurn cfg (run (Ledger.step cfg) (.init cfg start) events).scheduler capability estimateTokens now deadline) ↔
      ¬ ((cfg.keyTpm ≠ 0 ∧ cfg.keyTpm < estimateTokens) ∧
        ∃ k ∈ (run (Ledger.step cfg) (.init cfg start) events).scheduler.keys, Dry cfg now k) := by
  have along : Along (Ledger.step cfg) (fun _ e => e.Estimated) (.init cfg start) events :=
    along_of_forall (fun e listed _ => estimated e listed) _
  have preserve : ∀ (l : Ledger K) (e : Event K), Paid l.scheduler.keys → e.Estimated → Paid (l.step cfg e).scheduler.keys :=
    fun _ _ paid estimated => paid_step paid estimated
  have paid : Paid (run (Ledger.step cfg) (.init cfg start) events).scheduler.keys :=
    run_invariant_along preserve events _ along (paid_init start)
  rw [acquireTurn_answers, Ne, scan_fails_iff paid]
  simp only [Nat.cast_lt]

end

/-- Both keys have booked tokens, so even a call that is too large for either waits. -/
theorem acquire_answers_iff_booked :
    Answer 2 (run (Ledger.step twoKeys) (.init twoKeys 0) [.acquire .agent 40 0 3, .acquire .agent 40 1 4]).scheduler
      (acquireTurn twoKeys (run (Ledger.step twoKeys) (.init twoKeys 0) [.acquire .agent 40 0 3, .acquire .agent 40 1 4]).scheduler
        (.other "text") (101 : Nat) 2 5) := by
  apply (acquire_answers_iff twoKeys 0 [.acquire .agent 40 0 3, .acquire .agent 40 1 4] (by decide) (.other "text") 101 2 5).mpr
  intro both
  obtain ⟨_, k, listed, dry⟩ := both
  have booked : ∀ k ∈ (run (Ledger.step twoKeys) (.init twoKeys 0) [.acquire .agent 40 0 3, .acquire .agent 40 1 4]).scheduler.keys,
      (prune 2 k).tokenEvents ≠ [] := by decide +kernel
  exact booked k listed dry.tokens

/-- `_estimate_tokens` of a payload that takes so many characters as JSON. -/
def estimatePayload (characters : Nat) : Nat := max 1 (min 200000 (characters / 4))

/-- The first call of a fresh router, with one token more than a key may take. -/
theorem acquire_answers_counterexample :
    (acquireTurn twoKeys (run (Ledger.step twoKeys) (.init twoKeys 0) []).scheduler (.other "text") (estimatePayload 404) 0 3).2 =
        .indexError ∧
      ¬ Answer 0 (run (Ledger.step twoKeys) (.init twoKeys 0) []).scheduler
        (acquireTurn twoKeys (run (Ledger.step twoKeys) (.init twoKeys 0) []).scheduler (.other "text") (estimatePayload 404) 0 3) := by
  have failed : (acquireTurn twoKeys (run (Ledger.step twoKeys) (.init twoKeys 0) []).scheduler (.other "text")
      (estimatePayload 404) 0 3).2 = .indexError := by decide +kernel
  refine ⟨failed, ?_⟩
  intro answer
  generalize acquireTurn twoKeys _ _ _ _ _ = ended at failed answer
  obtain ⟨s, turn⟩ := ended
  cases failed
  exact answer

end KnowledgeGap.Router
