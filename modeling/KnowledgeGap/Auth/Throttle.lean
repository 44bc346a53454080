import KnowledgeGap.Kb.Requests
import KnowledgeGap.Protocol.Runs
import KnowledgeGap.Protocol.Window
import KnowledgeGap.Relational.Dict
import Mathlib.Algebra.Order.Floor.Ring
import Mathlib.Algebra.Order.Field.Basic
import Mathlib.Data.List.Dedup
import Mathlib.Data.List.Pairwise

namespace KnowledgeGap.Auth.Throttle

open Relational Protocol

variable {K : Type}

def maxFailures : Nat := 5

def windowSeconds : Nat := 5 * 60

def maxKeys : Nat := 10000

inductive ThrottleOp
  | check
  | recordFailure
  | recordSuccess
  deriving DecidableEq

/-- A call of the throttle, at a reading of the clock. -/
structure LoginCall (K : Type) where
  username : String
  clientIp : String
  op : ThrottleOp
  time : K
  deriving DecidableEq

/-- Whom a call is about: letter case and outer blanks do not count. -/
structure Account where
  username : String
  clientIp : String
  deriving DecidableEq

def Account.material (a : Account) : String := a.username ++ "\x00" ++ a.clientIp

section
variable (casefold sha256 : String → String)

def account (username clientIp : String) : Account := ⟨casefold (Kb.strip username), Kb.strip clientIp⟩

def LoginCall.account (call : LoginCall K) : Account := Throttle.account casefold call.username call.clientIp

/-- `_digest` -/
def digest (username clientIp : String) : String := sha256 (account casefold username clientIp).material

def LoginCall.key (call : LoginCall K) : String := digest casefold sha256 call.username call.clientIp

/-- `_failures` -/
abbrev Failures (K : Type) := Dict String (List K)

section
variable [Field K] [LinearOrder K]

/-- `_prune_memory` -/
def pruneMemory (failures : Failures K) (key : String) (now : K) : Failures K × List K :=
  let values := drop id (windowSeconds : K) now (failures.getD key [])
  if values.isEmpty then (failures.pop key, []) else (failures.set key values, values)

/-- `int` of a number. -/
def truncate [FloorRing K] (x : K) : Int := if 0 ≤ x then ⌊x⌋ else ⌈x⌉

/-- `_memory_check` -/
def memoryCheck [FloorRing K] (failures : Failures K) (key : String) (now : K) : Failures K × Option Int :=
  let (failures, values) := pruneMemory failures key now
  if values.length < maxFailures then (failures, none)
  else (failures, some (max 1 (truncate (windowSeconds - (now - values.headD now)))))

/-- `old_values and old_values[-1] > cutoff` -/
def stillRecent (now : K) (values : List K) : Bool := values.getLast?.any (fun last => decide (now - windowSeconds < last))

/-- `_memory_failure` -/
def memoryFailure (failures : Failures K) (key : String) (now : K) : Failures K :=
  let (failures, values) := pruneMemory failures key now
  let failures := failures.set key (values ++ [now])
  if maxKeys < failures.entries.length then (failures.keep (fun _ values => stillRecent now values)).evict maxKeys
  else failures

variable [FloorRing K]

def check (failures : Failures K) (username clientIp : String) (now : K) : Failures K × Option Int :=
  memoryCheck failures (digest casefold sha256 username clientIp) now

def recordFailure (failures : Failures K) (username clientIp : String) (now : K) : Failures K :=
  memoryFailure failures (digest casefold sha256 username clientIp) now

def recordSuccess (failures : Failures K) (username clientIp : String) : Failures K :=
  failures.pop (digest casefold sha256 username clientIp)

def throttleStep (failures : Failures K) (call : LoginCall K) : Failures K :=
  match call.op with
  | .check => (check casefold sha256 failures call.username call.clientIp call.time).1
  | .recordFailure => recordFailure casefold sha256 failures call.username call.clientIp call.time
  | .recordSuccess => recordSuccess casefold sha256 failures call.username call.clientIp

/-- What the process remembers after the calls. -/
def throttled (calls : List (LoginCall K)) : Failures K := run (throttleStep casefold sha256) Dict.empty calls

end

/-- The times of the failures since the last success, among the calls that count. -/
def failuresSince (mine : LoginCall K → Bool) (calls : List (LoginCall K)) : List K :=
  calls.foldl (fun times call =>
    if mine call then
      match call.op with
      | .check => times
      | .recordFailure => times ++ [call.time]
      | .recordSuccess => []
    else times) []

def ownFailures (calls : List (LoginCall K)) (a : Account) : List K :=
  failuresSince (fun call => decide (call.account casefold = a)) calls

section
variable [Field K] [LinearOrder K]

/-- The failures that count against an account. -/
def countedFailures (calls : List (LoginCall K)) (a : Account) (now : K) : List K :=
  recent id (windowSeconds : K) now (ownFailures casefold calls a)

/-- The accounts with a failure that counts. -/
def suspects (calls : List (LoginCall K)) (now : K) : List Account :=
  (calls.map (LoginCall.account casefold)).dedup.filter (fun a => !(countedFailures casefold calls a now).isEmpty)

/-- No failure finds more accounts with a failure that counts than the process may remember. -/
def Uncrowded (calls : List (LoginCall K)) : Prop :=
  ∀ first call rest, calls = first ++ call :: rest → call.op = .recordFailure →
    (suspects casefold (first ++ [call]) call.time).length ≤ maxKeys

end

end

/-! What the process remembers of one key. -/

section
variable {casefold sha256 : String → String}

theorem failuresSince_append (mine : LoginCall K → Bool) (calls : List (LoginCall K)) (call : LoginCall K) :
    failuresSince mine (calls ++ [call]) =
      if mine call then
        match call.op with
        | .check => failuresSince mine calls
        | .recordFailure => failuresSince mine calls ++ [call.time]
        | .recordSuccess => []
      else failuresSince mine calls := by
  unfold failuresSince
  rw [List.foldl_append, List.foldl_cons, List.foldl_nil]

theorem failuresSince_sublist (mine : LoginCall K → Bool) (calls : List (LoginCall K)) :
    (failuresSince mine calls).Sublist (calls.map LoginCall.time) := by
  induction calls using List.reverseRecOn with
  | nil => exact List.Sublist.refl _
  | append_singleton calls call ih =>
    rw [failuresSince_append, List.map_append, List.map_cons, List.map_nil]
    have longer := ih.trans (List.sublist_append_left (calls.map LoginCall.time) [call.time])
    split
    · cases call.op with
      | check => exact longer
      | recordFailure => exact ih.append_right [call.time]
      | recordSuccess => exact List.nil_sublist _
    · exact longer

theorem failuresSince_congr {mine other : LoginCall K → Bool} {calls : List (LoginCall K)}
    (agree : ∀ call ∈ calls, mine call = other call) : failuresSince mine calls = failuresSince other calls := by
  induction calls using List.reverseRecOn with
  | nil => rfl
  | append_singleton calls call ih =>
    rw [failuresSince_append, failuresSince_append, agree call (by simp),
      ih (fun call member => agree call (List.mem_append_left _ member))]

theorem exists_of_mem_failuresSince {mine : LoginCall K → Bool} {calls : List (LoginCall K)} {t : K}
    (member : t ∈ failuresSince mine calls) : ∃ call ∈ calls, mine call = true ∧ call.op = .recordFailure ∧ call.time = t := by
  induction calls using List.reverseRecOn with
  | nil => cases member
  | append_singleton calls call ih =>
    rw [failuresSince_append] at member
    have earlier : t ∈ failuresSince mine calls →
        ∃ other ∈ calls ++ [call], mine other = true ∧ other.op = .recordFailure ∧ other.time = t := by
      intro before
      obtain ⟨other, listed, own⟩ := ih before
      exact ⟨other, List.mem_append_left _ listed, own⟩
    by_cases own : mine call = true
    · rw [if_pos own] at member
      cases op : call.op with
      | check =>
        rw [op] at member
        exact earlier member
      | recordFailure =>
        rw [op] at member
        rcases List.mem_append.mp member with before | here
        · exact earlier before
        · exact ⟨call, by simp, own, op, (List.mem_singleton.mp here).symm⟩
      | recordSuccess =>
        rw [op] at member
        cases member
    · rw [if_neg own] at member
      exact earlier member

/-- The calls of others change nothing. -/
theorem failuresSince_foreign {mine : LoginCall K → Bool} {calls rest : List (LoginCall K)}
    (foreign : ∀ call ∈ rest, mine call = false) : failuresSince mine (calls ++ rest) = failuresSince mine calls := by
  induction rest using List.reverseRecOn with
  | nil => rw [List.append_nil]
  | append_singleton rest call ih =>
    have other : ¬ mine call = true := by simp [foreign call (by simp)]
    rw [← List.append_assoc, failuresSince_append, if_neg other]
    exact ih (fun call member => foreign call (List.mem_append_left _ member))

/-- Where the owner does not fail again, no failure is added. -/
theorem failuresSince_quiet {mine : LoginCall K → Bool} {calls rest : List (LoginCall K)}
    (quiet : ∀ call ∈ rest, mine call = true → call.op ≠ .recordFailure) :
    failuresSince mine (calls ++ rest) = failuresSince mine calls ∨ failuresSince mine (calls ++ rest) = [] := by
  induction rest using List.reverseRecOn with
  | nil => exact Or.inl (by rw [List.append_nil])
  | append_singleton rest call ih =>
    have before := ih (fun call member => quiet call (List.mem_append_left _ member))
    rw [← List.append_assoc, failuresSince_append]
    split
    · rename_i own
      cases op : call.op with
      | check => exact before
      | recordFailure => exact absurd op (quiet call (by simp) own)
      | recordSuccess => exact Or.inr rfl
    · exact before

section
variable [Field K] [LinearOrder K]

theorem pruneMemory_values (failures : Failures K) (key : String) (now : K) :
    (pruneMemory failures key now).2 = drop id (windowSeconds : K) now (failures.getD key []) := by
  unfold pruneMemory
  dsimp only
  split
  · rename_i none_
    exact (List.isEmpty_iff.mp none_).symm
  · rfl

theorem getD_pruneMemory (failures : Failures K) (key other : String) (now : K) :
    (pruneMemory failures key now).1.getD other [] =
      if other = key then drop id (windowSeconds : K) now (failures.getD key []) else failures.getD other [] := by
  unfold pruneMemory
  dsimp only
  split
  · rename_i none_
    rw [List.isEmpty_iff.mp none_, Dict.getD, Dict.get?_pop]
    split
    · rfl
    · rfl
  · rw [Dict.getD_set]

/-- What the key remembers as a failure is filed, before the sweep. -/
def filed (failures : Failures K) (key : String) (now : K) : Failures K :=
  (pruneMemory failures key now).1.set key ((pruneMemory failures key now).2 ++ [now])

theorem getD_filed (failures : Failures K) (key other : String) (now : K) :
    (filed failures key now).getD other [] =
      if other = key then drop id (windowSeconds : K) now (failures.getD key []) ++ [now] else failures.getD other [] := by
  rw [filed, Dict.getD_set, pruneMemory_values, getD_pruneMemory]
  split
  · rfl
  · rfl

theorem memoryFailure_eq (failures : Failures K) (key : String) (now : K) :
    memoryFailure failures key now =
      if maxKeys < (filed failures key now).entries.length then
        ((filed failures key now).keep (fun _ values => stillRecent now values)).evict maxKeys
      else filed failures key now := rfl

theorem getD_keep (failures : Failures K) (now : K) (key : String) :
    (failures.keep (fun _ values => stillRecent now values)).getD key [] =
      if stillRecent now (failures.getD key []) then failures.getD key [] else [] := by
  rw [Dict.getD, Dict.get?_keep, Dict.getD]
  cases failures.get? key with
  | none =>
    dsimp only [Option.filter_none, Option.getD_none]
    split
    · rfl
    · rfl
  | some values =>
    rw [Option.getD_some, Option.filter_some]
    split
    · rfl
    · rfl

/-- A failure leaves a key what is filed under it, or nothing. -/
theorem getD_memoryFailure (failures : Failures K) (key other : String) (now : K) :
    (memoryFailure failures key now).getD other [] = (filed failures key now).getD other [] ∨
      (memoryFailure failures key now).getD other [] = [] := by
  rw [memoryFailure_eq]
  split
  · have swept := getD_keep (filed failures key now) now other
    rcases Dict.get?_evict ((filed failures key now).keep (fun _ values => stillRecent now values)) maxKeys other with same | gone
    · rw [Dict.getD, same, ← Dict.getD, swept]
      split
      · exact Or.inl rfl
      · exact Or.inr rfl
    · exact Or.inr (by rw [Dict.getD, gone]; rfl)
  · exact Or.inl rfl

/-- Without a crowd a failure forgets only what no longer counts. -/
theorem getD_memoryFailure_uncrowded {failures : Failures K} {key : String} {now : K}
    (few : ((filed failures key now).keep (fun _ values => stillRecent now values)).entries.length ≤ maxKeys) (other : String) :
    (memoryFailure failures key now).getD other [] = (filed failures key now).getD other [] ∨
      (memoryFailure failures key now).getD other [] = [] ∧ stillRecent now ((filed failures key now).getD other []) = false := by
  rw [memoryFailure_eq]
  split
  · rw [Dict.evict_of_le few, getD_keep]
    split
    · exact Or.inl rfl
    · rename_i stale
      exact Or.inr ⟨rfl, by simpa using stale⟩
  · exact Or.inl rfl

end

end

/-! Over a run. -/

section
variable (casefold sha256 : String → String)

/-- The failures filed under a key. -/
def keyFailures (calls : List (LoginCall K)) (key : String) : List K :=
  failuresSince (fun call => decide (call.key casefold sha256 = key)) calls

variable {casefold sha256}

theorem keyFailures_other {calls : List (LoginCall K)} {call : LoginCall K} {key : String}
    (apart : key ≠ call.key casefold sha256) :
    keyFailures casefold sha256 (calls ++ [call]) key = keyFailures casefold sha256 calls key := by
  rw [keyFailures, failuresSince_append, if_neg (by simpa using Ne.symm apart)]
  rfl

theorem keyFailures_own (calls : List (LoginCall K)) (call : LoginCall K) :
    keyFailures casefold sha256 (calls ++ [call]) (call.key casefold sha256) =
      match call.op with
      | .check => keyFailures casefold sha256 calls (call.key casefold sha256)
      | .recordFailure => keyFailures casefold sha256 calls (call.key casefold sha256) ++ [call.time]
      | .recordSuccess => [] := by
  rw [keyFailures, failuresSince_append, if_pos (by simp)]
  cases call.op <;> rfl

end

section
variable [Field K] [LinearOrder K] [FloorRing K] {casefold sha256 : String → String}

theorem throttled_append (calls : List (LoginCall K)) (call : LoginCall K) :
    throttled casefold sha256 (calls ++ [call]) = throttleStep casefold sha256 (throttled casefold sha256 calls) call := by
  rw [throttled, run_append, run_cons, run_nil]
  rfl

theorem step_check (failures : Failures K) {call : LoginCall K} (op : call.op = .check) :
    throttleStep casefold sha256 failures call = (pruneMemory failures (call.key casefold sha256) call.time).1 := by
  unfold throttleStep
  rw [op]
  dsimp only [check, memoryCheck]
  split
  · rfl
  · rfl

theorem step_failure (failures : Failures K) {call : LoginCall K} (op : call.op = .recordFailure) :
    throttleStep casefold sha256 failures call = memoryFailure failures (call.key casefold sha256) call.time := by
  unfold throttleStep
  rw [op]
  rfl

theorem step_success (failures : Failures K) {call : LoginCall K} (op : call.op = .recordSuccess) :
    throttleStep casefold sha256 failures call = failures.pop (call.key casefold sha256) := by
  unfold throttleStep
  rw [op]
  rfl

omit [FloorRing K] in
theorem filed_suffix {failures : Failures K} {calls : List (LoginCall K)} {call : LoginCall K} (op : call.op = .recordFailure)
    (kept : ∀ key, failures.getD key [] <:+ keyFailures casefold sha256 calls key) (key : String) :
    (filed failures (call.key casefold sha256) call.time).getD key [] <:+ keyFailures casefold sha256 (calls ++ [call]) key := by
  rw [getD_filed]
  by_cases same : key = call.key casefold sha256
  · rw [if_pos same, same, keyFailures_own, op]
    obtain ⟨dropped, split⟩ := (List.dropWhile_suffix _).trans (kept (call.key casefold sha256))
    refine ⟨dropped, ?_⟩
    rw [← List.append_assoc, Protocol.drop, split]
  · rw [if_neg same, keyFailures_other same]
    exact kept key

/-- The process remembers the last failures of a key, however far back. -/
theorem throttled_suffix (calls : List (LoginCall K)) (key : String) :
    (throttled casefold sha256 calls).getD key [] <:+ keyFailures casefold sha256 calls key := by
  induction calls using List.reverseRecOn generalizing key with
  | nil => exact List.suffix_refl _
  | append_singleton calls call ih =>
    rw [throttled_append]
    cases op : call.op with
    | check =>
      rw [step_check _ op, getD_pruneMemory]
      by_cases same : key = call.key casefold sha256
      · rw [if_pos same, same, keyFailures_own, op]
        exact (List.dropWhile_suffix _).trans (ih _)
      · rw [if_neg same, keyFailures_other same]
        exact ih key
    | recordFailure =>
      rw [step_failure _ op]
      rcases getD_memoryFailure (throttled casefold sha256 calls) (call.key casefold sha256) key call.time with same | gone
      · rw [same]
        exact filed_suffix op ih key
      · rw [gone]
        exact List.nil_suffix
    | recordSuccess =>
      rw [step_success _ op, Dict.getD, Dict.get?_pop]
      by_cases same : key = call.key casefold sha256
      · rw [if_pos same]
        exact List.nil_suffix
      · rw [if_neg same, keyFailures_other same]
        exact ih key

end

section
variable [Field K] [LinearOrder K] [IsStrictOrderedRing K] {casefold sha256 : String → String}

omit [IsStrictOrderedRing K] in
/-- What is filed and no longer recent may go. -/
theorem retained_stale {clock : K} {log kept : List K} (retained : Retained id (windowSeconds : K) clock log kept)
    (stale : stillRecent clock kept = false) : Retained id (windowSeconds : K) clock log [] := by
  refine ⟨⟨log, (List.append_nil log).symm, ?_⟩, retained.ordered, retained.past⟩
  obtain ⟨dropped, split, old⟩ := retained.split
  have ordered := retained.ordered
  rw [split, List.pairwise_append] at ordered
  intro t listed
  rw [split] at listed
  rcases List.mem_append.mp listed with gone | there
  · exact old t gone
  · have upto : t ≤ kept.getLast (List.ne_nil_of_mem there) := 
      ordered.2.1.rel_getLast_of_rel_getLast_getLast there (le_refl _)
    have early : kept.getLast (List.ne_nil_of_mem there) ≤ clock - windowSeconds := by
      rw [stillRecent, List.getLast?_eq_some_getLast (List.ne_nil_of_mem there)] at stale
      simpa using stale
    exact le_trans upto early

variable [FloorRing K]

/-- At no failure of the run the sweep leaves more keys than may stay. -/
def Fits (casefold sha256 : String → String) (calls : List (LoginCall K)) : Prop :=
  ∀ first call rest, calls = first ++ call :: rest → call.op = .recordFailure →
    ((filed (throttled casefold sha256 first) (call.key casefold sha256) call.time).keep
      (fun _ values => stillRecent call.time values)).entries.length ≤ maxKeys

omit [IsStrictOrderedRing K] in
theorem Fits.prior {calls first rest : List (LoginCall K)} (fits : Fits casefold sha256 calls) (split : calls = first ++ rest) :
    Fits casefold sha256 first := by
  intro before call after here
  exact fits before call (after ++ rest) (by rw [split, here, List.append_assoc, List.cons_append])

omit [FloorRing K] in
theorem filed_retained {failures : Failures K} {calls : List (LoginCall K)} {call : LoginCall K} (op : call.op = .recordFailure)
    (kept : ∀ key, Retained id (windowSeconds : K) call.time (keyFailures casefold sha256 calls key) (failures.getD key []))
    (key : String) :
    Retained id (windowSeconds : K) call.time (keyFailures casefold sha256 (calls ++ [call]) key)
      ((filed failures (call.key casefold sha256) call.time).getD key []) := by
  rw [getD_filed]
  by_cases same : key = call.key casefold sha256
  · rw [if_pos same, same, keyFailures_own, op]
    exact ((kept _).drop (le_refl _)).push (le_refl _) rfl
  · rw [if_neg same, keyFailures_other same]
    exact kept key

/-- Without a crowd the process forgets only what no longer counts. -/
theorem throttled_retained {calls : List (LoginCall K)} (fits : Fits casefold sha256 calls)
    (ordered : (calls.map LoginCall.time).Pairwise (· ≤ ·)) {clock : K} (later : ∀ call ∈ calls, call.time ≤ clock) (key : String) :
    Retained id (windowSeconds : K) clock (keyFailures casefold sha256 calls key)
      ((throttled casefold sha256 calls).getD key []) := by
  induction calls using List.reverseRecOn generalizing key clock with
  | nil => exact retained_nil clock
  | append_singleton calls call ih =>
    rw [List.map_append, List.pairwise_append] at ordered
    have past : ∀ other ∈ calls, other.time ≤ call.time := fun other member =>
      ordered.2.2 other.time (List.mem_map_of_mem member) call.time (by simp)
    have before := fun key => ih (fits.prior rfl) ordered.1 past key
    rw [throttled_append]
    apply Retained.advance _ (later call (by simp))
    cases op : call.op with
    | check =>
      rw [step_check _ op, getD_pruneMemory]
      by_cases same : key = call.key casefold sha256
      · rw [if_pos same, same, keyFailures_own, op]
        exact (before _).drop (le_refl _)
      · rw [if_neg same, keyFailures_other same]
        exact before key
    | recordFailure =>
      rw [step_failure _ op]
      have here := filed_retained op before key
      rcases getD_memoryFailure_uncrowded (fits calls call [] rfl op) key with same | gone
      · rw [same]
        exact here
      · rw [gone.1]
        exact retained_stale here gone.2
    | recordSuccess =>
      rw [step_success _ op, Dict.getD, Dict.get?_pop]
      by_cases same : key = call.key casefold sha256
      · rw [if_pos same, same, keyFailures_own, op]
        exact retained_nil _
      · rw [if_neg same, keyFailures_other same]
        exact before key

end

/-! The account behind a key. -/

section
variable (casefold sha256 : String → String)

/-- No two of the accounts share a digest. -/
def Distinguished (accounts : List Account) : Prop :=
  ∀ a ∈ accounts, ∀ b ∈ accounts, sha256 a.material = sha256 b.material → a = b

instance decidableDistinguished (accounts : List Account) : Decidable (Distinguished sha256 accounts) :=
  inferInstanceAs (Decidable (∀ a ∈ accounts, ∀ b ∈ accounts, sha256 a.material = sha256 b.material → a = b))

variable {casefold sha256}

theorem keyFailures_eq {accounts : List Account} (distinguished : Distinguished sha256 accounts) {calls : List (LoginCall K)}
    (among : ∀ call ∈ calls, call.account casefold ∈ accounts) {a : Account} (listed : a ∈ accounts) :
    keyFailures casefold sha256 calls (sha256 a.material) = ownFailures casefold calls a := by
  apply failuresSince_congr
  intro call member
  rw [decide_eq_decide]
  constructor
  · intro same
    exact distinguished _ (among call member) a listed same
  · intro same
    rw [← same]
    rfl

variable [Field K] [LinearOrder K]

theorem exists_of_stillRecent {now : K} {values : List K} (recently : stillRecent now values = true) :
    ∃ last, values.getLast? = some last ∧ decide (now - windowSeconds < last) = true := by
  unfold stillRecent at recently
  cases top : values.getLast? with
  | none =>
    rw [top] at recently
    cases recently
  | some last =>
    rw [top] at recently
    exact ⟨last, rfl, recently⟩

theorem mem_suspects {calls : List (LoginCall K)} {call : LoginCall K} (member : call ∈ calls) {now t : K}
    (failed : t ∈ countedFailures casefold calls (call.account casefold) now) :
    call.account casefold ∈ suspects casefold calls now := by
  rw [suspects, List.mem_filter, List.mem_dedup]
  refine ⟨List.mem_map_of_mem member, ?_⟩
  rw [Bool.not_eq_true', List.isEmpty_eq_false_iff]
  exact List.ne_nil_of_mem failed

/-- What the sweep leaves holds a failure that is filed and recent. -/
theorem exists_of_swept {calls : List (LoginCall K)} {call : LoginCall K} {failures : Failures K} (op : call.op = .recordFailure)
    (kept : ∀ key, failures.getD key [] <:+ keyFailures casefold sha256 calls key) {e : String × List K}
    (swept : e ∈ ((filed failures (call.key casefold sha256) call.time).keep (fun _ values => stillRecent call.time values)).entries) :
    ∃ last ∈ keyFailures casefold sha256 (calls ++ [call]) e.1, decide (call.time - windowSeconds < last) = true := by
  obtain ⟨entry, recently⟩ := List.mem_filter.mp swept
  obtain ⟨last, top, late⟩ := exists_of_stillRecent recently
  have held : (filed failures (call.key casefold sha256) call.time).getD e.1 [] = e.2 := by
    rw [Dict.getD, (Dict.get?_eq_some_iff _ _ _).mpr entry]
    rfl
  exact ⟨last, (filed_suffix op kept e.1).subset (held ▸ List.mem_of_getLast? top), late⟩

/-- What the sweep leaves belongs to accounts with a failure that counts. -/
theorem swept_le_suspects {calls : List (LoginCall K)} {call : LoginCall K} {accounts : List Account}
    (distinguished : Distinguished sha256 accounts) (among : ∀ other ∈ calls ++ [call], other.account casefold ∈ accounts)
    {failures : Failures K} (op : call.op = .recordFailure)
    (kept : ∀ key, failures.getD key [] <:+ keyFailures casefold sha256 calls key) :
    ((filed failures (call.key casefold sha256) call.time).keep (fun _ values => stillRecent call.time values)).entries.length ≤
      (suspects casefold (calls ++ [call]) call.time).length := by
  rw [← List.length_map Prod.fst, ← List.length_map (fun a : Account => sha256 a.material)]
  apply (List.subperm_of_subset (Dict.nodup _) _).length_le
  intro _ listed
  obtain ⟨⟨key, values⟩, entry, rfl⟩ := List.mem_map.mp listed
  obtain ⟨last, failed, late⟩ := exists_of_swept op kept entry
  obtain ⟨other, member, own, _, _⟩ := exists_of_mem_failuresSince failed
  have same : other.key casefold sha256 = key := of_decide_eq_true own
  have mine : keyFailures casefold sha256 (calls ++ [call]) (other.key casefold sha256) =
      ownFailures casefold (calls ++ [call]) (other.account casefold) := keyFailures_eq distinguished among (among other member)
  rw [← same, mine] at failed
  rw [← same]
  exact List.mem_map.mpr ⟨other.account casefold, mem_suspects member (List.mem_filter.mpr ⟨failed, late⟩), rfl⟩

variable [IsStrictOrderedRing K] [FloorRing K]

omit [IsStrictOrderedRing K] in
theorem fits_of_uncrowded {calls : List (LoginCall K)} {accounts : List Account} (distinguished : Distinguished sha256 accounts)
    (among : ∀ call ∈ calls, call.account casefold ∈ accounts) (uncrowded : Uncrowded casefold calls) :
    Fits casefold sha256 calls := by
  intro first call rest split op
  have part : ∀ other ∈ first ++ [call], other.account casefold ∈ accounts := by
    intro other member
    apply among
    rw [split]
    rcases List.mem_append.mp member with before | here
    · exact List.mem_append_left _ before
    · exact List.mem_append_right _ (List.mem_singleton.mp here ▸ List.mem_cons_self)
  exact le_trans (swept_le_suspects distinguished part op (throttled_suffix first)) (uncrowded first call rest split op)

end

/-- A run with no more calls than the process may remember keys is never crowded. -/
theorem uncrowded_of_short [Field K] [LinearOrder K] {casefold : String → String} {calls : List (LoginCall K)}
    (short : calls.length ≤ maxKeys) : Uncrowded casefold calls := by
  intro first call rest split _
  have part : (first ++ [call]).length ≤ calls.length := by
    simp [split]
  have fewer : (suspects casefold (first ++ [call]) call.time).length ≤
      ((first ++ [call]).map (LoginCall.account casefold)).dedup.length := List.filter_sublist.length_le
  have once := (List.dedup_sublist ((first ++ [call]).map (LoginCall.account casefold))).length_le
  rw [List.length_map] at once
  omega

/-! What a check answers. -/

section
variable [Field K] [LinearOrder K]

/-- The answer to a check by what counts: the time until the first of the failures leaves the window. -/
def waiting [FloorRing K] (now : K) (counted : List K) : Option Int :=
  if counted.length < maxFailures then none else some (max 1 (truncate (windowSeconds - (now - counted.headD now))))

theorem memoryCheck_snd [FloorRing K] (failures : Failures K) (key : String) (now : K) :
    (memoryCheck failures key now).2 = waiting now (drop id (windowSeconds : K) now (failures.getD key [])) := by
  rw [← pruneMemory_values]
  unfold memoryCheck waiting
  dsimp only
  split
  · rfl
  · rfl

variable [IsStrictOrderedRing K] [FloorRing K]

omit [IsStrictOrderedRing K] in
theorem waiting_isSome {now : K} {counted : List K} : (waiting now counted).isSome ↔ maxFailures ≤ counted.length := by
  unfold waiting
  split
  · rename_i few
    simpa using few
  · rename_i many
    simpa using many

theorem waiting_bounds {now : K} {counted : List K} (inside : ∀ t ∈ counted, now - windowSeconds < t ∧ t ≤ now) {wait : Int}
    (answer : waiting now counted = some wait) :
    (1 ≤ wait ∧ wait ≤ windowSeconds) ∧ ∃ oldest ∈ counted, oldest + windowSeconds < now + wait + 1 := by
  unfold waiting at answer
  split at answer
  · cases answer
  · rename_i many
    cases counted with
    | nil => exact absurd (Nat.zero_lt_succ 4) many
    | cons oldest counted =>
      obtain ⟨late, past⟩ := inside oldest List.mem_cons_self
      rw [List.headD_cons] at answer
      have rest : 0 ≤ (windowSeconds : K) - (now - oldest) := by linarith
      rw [truncate, if_pos rest] at answer
      have above := Int.lt_floor_add_one ((windowSeconds : K) - (now - oldest))
      have below : ⌊(windowSeconds : K) - (now - oldest)⌋ ≤ (windowSeconds : Int) := by
        have floor := Int.floor_le ((windowSeconds : K) - (now - oldest))
        have whole : ((⌊(windowSeconds : K) - (now - oldest)⌋ : Int) : K) ≤ ((windowSeconds : Int) : K) := by
          push_cast
          linarith
        exact_mod_cast whole
      have value := Option.some.inj answer
      have least : ⌊(windowSeconds : K) - (now - oldest)⌋ ≤ wait := value ▸ le_max_right _ _
      refine ⟨⟨value ▸ le_max_left _ _, ?_⟩, oldest, List.mem_cons_self, ?_⟩
      · rw [← value]
        exact max_le (by decide) below
      · have cast : ((⌊(windowSeconds : K) - (now - oldest)⌋ : Int) : K) ≤ (wait : K) := by exact_mod_cast least
        linarith

end

section
variable [Field K] [LinearOrder K] [IsStrictOrderedRing K] [FloorRing K] {casefold sha256 : String → String}
  {calls : List (LoginCall K)}

omit [IsStrictOrderedRing K] in
theorem check_answer (username clientIp : String) (now : K) :
    (check casefold sha256 (throttled casefold sha256 calls) username clientIp now).2 =
      waiting now (drop id (windowSeconds : K) now
        ((throttled casefold sha256 calls).getD (sha256 (account casefold username clientIp).material) [])) :=
  memoryCheck_snd _ _ now

variable (ordered : (calls.map LoginCall.time).Pairwise (· ≤ ·)) (now : K)
include ordered

omit [IsStrictOrderedRing K] in
/-- What a check finds are failures that count. -/
theorem found_sublist (key : String) :
    (drop id (windowSeconds : K) now ((throttled casefold sha256 calls).getD key [])).Sublist
      (recent id (windowSeconds : K) now (keyFailures casefold sha256 calls key)) := by
  have held : ((throttled casefold sha256 calls).getD key []).Sublist (keyFailures casefold sha256 calls key) :=
    (throttled_suffix calls key).sublist
  have upward := (ordered.sublist (failuresSince_sublist _ calls)).sublist held
  have late : drop id (windowSeconds : K) now ((throttled casefold sha256 calls).getD key []) =
      recent id (windowSeconds : K) now ((throttled casefold sha256 calls).getD key []) :=
    dropWhile_eq_filter upward (now - windowSeconds)
  rw [late]
  exact held.filter _

section
variable {accounts : List Account} (distinguished : Distinguished sha256 accounts)
  (among : ∀ call ∈ calls, call.account casefold ∈ accounts) {username clientIp : String}
  (asked : account casefold username clientIp ∈ accounts)
include distinguished among asked

omit [IsStrictOrderedRing K] in
theorem found_counted :
    (drop id (windowSeconds : K) now
        ((throttled casefold sha256 calls).getD (sha256 (account casefold username clientIp).material) [])).Sublist
      (countedFailures casefold calls (account casefold username clientIp) now) := by
  have found : (drop id (windowSeconds : K) now
      ((throttled casefold sha256 calls).getD (sha256 (account casefold username clientIp).material) [])).Sublist
        (recent id (windowSeconds : K) now
          (keyFailures casefold sha256 calls (sha256 (account casefold username clientIp).material))) :=
    found_sublist ordered now _
  rw [keyFailures_eq distinguished among asked] at found
  exact found

omit [IsStrictOrderedRing K] in
theorem counted_of_lock
    (locked : (check casefold sha256 (throttled casefold sha256 calls) username clientIp now).2.isSome) :
    maxFailures ≤ (countedFailures casefold calls (account casefold username clientIp) now).length := by
  rw [check_answer, waiting_isSome] at locked
  exact le_trans locked (found_counted ordered now distinguished among asked).length_le

theorem answer_of_uncrowded (later : ∀ call ∈ calls, call.time ≤ now) (uncrowded : Uncrowded casefold calls) :
    (check casefold sha256 (throttled casefold sha256 calls) username clientIp now).2 =
      waiting now (countedFailures casefold calls (account casefold username clientIp) now) := by
  have fits := fits_of_uncrowded distinguished among uncrowded
  have retained := throttled_retained fits ordered later (sha256 (account casefold username clientIp).material)
  rw [check_answer, retained.drop_eq_recent (le_refl now), keyFailures_eq distinguished among asked]
  rfl

/-- A lock names a wait of at most a window, and when it is over a failure that counts is gone. -/
theorem wait_of_lock (later : ∀ call ∈ calls, call.time ≤ now) {wait : Int}
    (answer : (check casefold sha256 (throttled casefold sha256 calls) username clientIp now).2 = some wait) :
    (1 ≤ wait ∧ wait ≤ windowSeconds) ∧
      ∃ oldest ∈ countedFailures casefold calls (account casefold username clientIp) now,
        oldest + windowSeconds < now + wait + 1 := by
  have found := found_counted ordered now distinguished among asked
  rw [check_answer] at answer
  have inside : ∀ t ∈ drop id (windowSeconds : K) now
      ((throttled casefold sha256 calls).getD (sha256 (account casefold username clientIp).material) []),
      now - windowSeconds < t ∧ t ≤ now := by
    intro t member
    obtain ⟨own, late⟩ := List.mem_filter.mp (found.subset member)
    obtain ⟨call, listed, _, _, rfl⟩ := exists_of_mem_failuresSince own
    exact ⟨of_decide_eq_true late, later call listed⟩
  obtain ⟨bounds, oldest, member, soon⟩ := waiting_bounds inside answer
  exact ⟨bounds, oldest, found.subset member, soon⟩

end

end

section
variable [Field K] [LinearOrder K] [IsStrictOrderedRing K] [FloorRing K]

/-- The wait a check tells a caller. -/
def answer (casefold sha256 : String → String) (calls : List (LoginCall K)) (username clientIp : String) (now : K) : Option Int :=
  (check casefold sha256 (throttled casefold sha256 calls) username clientIp now).2

omit [FloorRing K] in
/-- When one of the failures that count has left the window and none was added, fewer count. -/
theorem countedFailures_fewer {casefold : String → String} {first rest : List (LoginCall K)} {a : Account}
    (quiet : ∀ call ∈ rest, call.account casefold = a → call.op ≠ .recordFailure) {asked now oldest : K} (later : asked ≤ now)
    (counted : oldest ∈ countedFailures casefold first a asked) (gone : oldest ≤ now - windowSeconds) :
    (countedFailures casefold (first ++ rest) a now).length < (countedFailures casefold first a asked).length := by
  have shrunk : (countedFailures casefold (first ++ rest) a now).Sublist (countedFailures casefold first a asked) := by
    have narrower : ∀ log : List K, (recent id (windowSeconds : K) now log).Sublist (recent id (windowSeconds : K) asked log) := by
      intro log
      apply List.monotone_filter_right
      intro t late
      have inside : now - windowSeconds < t := of_decide_eq_true late
      have wider : asked - windowSeconds < t := by linarith
      exact decide_eq_true wider
    have own : ownFailures casefold (first ++ rest) a = ownFailures casefold first a ∨ ownFailures casefold (first ++ rest) a = [] :=
      failuresSince_quiet (fun call member mine => quiet call member (of_decide_eq_true mine))
    rcases own with same | none_
    · rw [countedFailures, same]
      exact narrower _
    · rw [countedFailures, none_]
      exact List.nil_sublist _
  apply lt_of_le_of_ne shrunk.length_le
  intro equal
  rw [← shrunk.eq_of_length equal] at counted
  have inside : now - windowSeconds < oldest := of_decide_eq_true (List.mem_filter.mp counted).2
  linarith

/-- A lock is the account's own doing: it takes failures of its own that count, it takes no more unless the process has
    had to forget, and it ends with them. -/
theorem lock_of_own_failures (casefold sha256 : String → String) (calls : List (LoginCall K)) (username clientIp : String) (now : K)
    (ordered : (calls.map LoginCall.time).Pairwise (· ≤ ·)) (later : ∀ call ∈ calls, call.time ≤ now)
    (distinguished : Distinguished sha256 (account casefold username clientIp :: calls.map (LoginCall.account casefold))) :
    ((answer casefold sha256 calls username clientIp now).isSome →
      maxFailures ≤ (countedFailures casefold calls (account casefold username clientIp) now).length) ∧
    (Uncrowded casefold calls →
      ((answer casefold sha256 calls username clientIp now).isSome ↔
        maxFailures ≤ (countedFailures casefold calls (account casefold username clientIp) now).length) ∧
      answer casefold sha256 calls username clientIp now =
        waiting now (countedFailures casefold calls (account casefold username clientIp) now)) ∧
    (∀ wait, answer casefold sha256 calls username clientIp now = some wait → 1 ≤ wait ∧ wait ≤ windowSeconds) ∧
    (∀ first asked rest wait, calls = first ++ ⟨username, clientIp, .check, asked⟩ :: rest →
      answer casefold sha256 first username clientIp asked = some wait →
      (countedFailures casefold first (account casefold username clientIp) asked).length = maxFailures →
      (∀ call ∈ rest, call.account casefold = account casefold username clientIp → call.op ≠ .recordFailure) →
      asked + wait + 1 ≤ now → answer casefold sha256 calls username clientIp now = none) ∧
    ((∀ call ∈ calls, call.account casefold = account casefold username clientIp → call.op = .recordFailure →
      call.time + windowSeconds ≤ now) → answer casefold sha256 calls username clientIp now = none) := by
  have among : ∀ call ∈ calls, call.account casefold ∈ account casefold username clientIp :: calls.map (LoginCall.account casefold) :=
    fun call member => List.mem_cons_of_mem _ (List.mem_map_of_mem member)
  have own : account casefold username clientIp ∈ account casefold username clientIp :: calls.map (LoginCall.account casefold) :=
    List.mem_cons_self
  have enough : (answer casefold sha256 calls username clientIp now).isSome →
      maxFailures ≤ (countedFailures casefold calls (account casefold username clientIp) now).length :=
    counted_of_lock ordered now distinguished among own
  have free : (countedFailures casefold calls (account casefold username clientIp) now).length < maxFailures →
      answer casefold sha256 calls username clientIp now = none := by
    intro few
    rw [← Option.not_isSome_iff_eq_none]
    intro locked
    exact absurd (enough locked) (Nat.not_le.mpr few)
  refine ⟨enough, ?_, ?_, ?_, ?_⟩
  · intro uncrowded
    have exactly := answer_of_uncrowded ordered now distinguished among own later uncrowded
    refine ⟨?_, exactly⟩
    rw [answer, exactly, waiting_isSome]
  · intro wait told
    exact (wait_of_lock ordered now distinguished among own later told).1
  · intro first asked rest wait split told five quiet elapsed
    subst split
    rw [List.map_append, List.pairwise_append] at ordered
    have before : ∀ call ∈ first, call.time ≤ asked := fun call member =>
      ordered.2.2 call.time (List.mem_map_of_mem member) asked (by simp)
    obtain ⟨bounds, oldest, counted, soon⟩ := wait_of_lock ordered.1 asked distinguished
      (fun call member => among call (List.mem_append_left _ member)) own before told
    have positive : (1 : K) ≤ wait := by exact_mod_cast bounds.1
    apply free
    rw [← five]
    apply countedFailures_fewer _ (by linarith) counted (by linarith)
    intro call member mine
    rcases List.mem_cons.mp member with here | after
    · rw [here]
      exact ThrottleOp.noConfusion
    · exact quiet call after mine
  · intro old
    apply free
    have none_ : countedFailures casefold calls (account casefold username clientIp) now = [] := by
      rw [countedFailures, recent, List.filter_eq_nil_iff]
      intro t member
      obtain ⟨call, listed, mine, op, rfl⟩ := exists_of_mem_failuresSince member
      have gone := old call listed (of_decide_eq_true mine) op
      rw [decide_eq_true_eq, not_lt]
      exact (by linarith : call.time ≤ now - windowSeconds)
    rw [none_]
    exact Nat.zero_lt_succ 4

end

def attempt (op : ThrottleOp) (time : ℚ) : LoginCall ℚ := ⟨"ada", "10.0.0.1", op, time⟩

def attempts (times : List ℚ) : List (LoginCall ℚ) := times.map (attempt .recordFailure)

theorem lock_of_five_failures :
    (answer id id (attempts [0, 1, 2, 3, 4]) "ada" "10.0.0.1" 5).isSome ∧
      answer id id (attempts [0, 1, 2, 3, 4] ++ [attempt .check 5]) "ada" "10.0.0.1" 301 = none := by
  have first := lock_of_own_failures id id (attempts [0, 1, 2, 3, 4]) "ada" "10.0.0.1" 5
    (by decide +kernel) (by decide +kernel) (by decide +kernel)
  have second := lock_of_own_failures id id (attempts [0, 1, 2, 3, 4] ++ [attempt .check 5]) "ada" "10.0.0.1" 301
    (by decide +kernel) (by decide +kernel) (by decide +kernel)
  refine ⟨(first.2.1 (uncrowded_of_short (by decide))).1.mpr (by decide +kernel), ?_⟩
  apply second.2.2.2.1 (attempts [0, 1, 2, 3, 4]) 5 [] 295 rfl (by decide +kernel) (by decide +kernel)
  · intro call member
    cases member
  · norm_num

/-! Where the process has to forget. -/

theorem strip_letters (n : Nat) : Kb.strip (String.ofList (List.replicate n 'a')) = String.ofList (List.replicate n 'a') := by
  have kept : (List.replicate n 'a').dropWhile Kb.isSpace = List.replicate n 'a' := by
    cases n with
    | zero => rfl
    | succ n =>
      rw [List.replicate_succ]
      exact List.dropWhile_cons_of_neg (by decide)
  rw [Kb.strip, String.toList_ofList, kept, List.reverse_replicate, kept, List.reverse_replicate]

/-- A name for each number. -/
def stranger (n : Nat) : LoginCall ℚ := ⟨String.ofList (List.replicate n 'a'), "10.0.0.2", .recordFailure, 0⟩

theorem key_stranger (n : Nat) :
    ((stranger n).key id id).toList = List.replicate n 'a' ++ "\x0010.0.0.2".toList := by
  change (Kb.strip (String.ofList (List.replicate n 'a')) ++ "\x00" ++ Kb.strip "10.0.0.2").toList = _
  have address : Kb.strip "10.0.0.2" = "10.0.0.2" := by decide +kernel
  rw [strip_letters, address, String.toList_append, String.toList_append, String.toList_ofList, List.append_assoc]
  rfl

theorem key_stranger_injective {n m : Nat} (same : (stranger n).key id id = (stranger m).key id id) : n = m := by
  have lists := congrArg String.toList same
  rw [key_stranger, key_stranger] at lists
  have lengths := congrArg List.length lists
  rw [List.length_append, List.length_append, List.length_replicate, List.length_replicate] at lengths
  omega

def flood (n : Nat) : List (LoginCall ℚ) := attempts [0, 0, 0, 0, 0] ++ (List.range n).map stranger

theorem flood_succ (n : Nat) : flood (n + 1) = flood n ++ [stranger n] := by
  rw [flood, List.range_succ, List.map_append, ← List.append_assoc]
  rfl

/-- The victim first, then the strangers in the order they came. -/
def flooded (n : Nat) : List (String × List ℚ) :=
  ((attempt .recordFailure 0).key id id, [0, 0, 0, 0, 0]) :: (List.range n).map (fun i => ((stranger i).key id id, [0]))

theorem victim_apart (n : Nat) : (stranger n).key id id ≠ (attempt .recordFailure 0).key id id := by
  intro same
  have lists := congrArg (fun s => s.toList.getLast?) same
  have digit : ((attempt .recordFailure 0).key id id).toList.getLast? = some '1' := by decide +kernel
  rw [key_stranger, digit, List.getLast?_append] at lists
  cases lists

theorem stranger_unknown (n : Nat) : (stranger n).key id id ∉ (flooded n).map Prod.fst := by
  intro listed
  rw [flooded, List.map_cons, List.map_map] at listed
  rcases List.mem_cons.mp listed with victim | other
  · exact victim_apart n victim
  · obtain ⟨i, below, same⟩ := List.mem_map.mp other
    rw [List.mem_range] at below
    have equal : i = n := key_stranger_injective same
    omega

/-- What a first failure of a key files. -/
theorem filed_unknown {failures : Failures ℚ} {key : String} (unknown : key ∉ failures.keys) (now : ℚ) :
    (filed failures key now).entries = failures.entries ++ [(key, [now])] := by
  have absent := (Dict.get?_eq_none_iff failures key).mpr unknown
  have none_ : failures.getD key [] = [] := by
    rw [Dict.getD, absent]
    rfl
  have pruned : pruneMemory failures key now = (failures, []) := by
    unfold pruneMemory
    rw [none_]
    change (failures.pop key, []) = (failures, [])
    rw [Dict.pop_of_absent absent]
  rw [filed, pruned]
  exact Dict.entries_set_of_absent unknown [now]

theorem filed_stranger {n : Nat} (held : (throttled id id (flood n)).entries = flooded n) :
    (filed (throttled id id (flood n)) ((stranger n).key id id) (stranger n).time).entries = flooded (n + 1) := by
  have unknown : (stranger n).key id id ∉ (throttled id id (flood n)).keys := by
    rw [Dict.keys, held]
    exact stranger_unknown n
  rw [filed_unknown unknown, held, flooded, flooded, List.range_succ, List.map_append, List.cons_append]
  rfl

theorem length_flooded (n : Nat) : (flooded n).length = n + 1 := by
  rw [flooded, List.length_cons, List.length_map, List.length_range]

/-- As long as they fit, all are remembered. -/
theorem entries_flood {n : Nat} (fit : n + 1 ≤ maxKeys) : (throttled id id (flood n)).entries = flooded n := by
  induction n with
  | zero => decide +kernel
  | succ n ih =>
    have filed_ := filed_stranger (ih (by omega))
    have few : ¬ maxKeys < (filed (throttled id id (flood n)) ((stranger n).key id id) (stranger n).time).entries.length := by
      rw [filed_, length_flooded]
      omega
    rw [flood_succ, throttled_append, step_failure _ rfl, memoryFailure_eq, if_neg few, filed_]

theorem flooded_recent {n : Nat} {e : String × List ℚ} (member : e ∈ flooded n) : stillRecent 0 e.2 = true := by
  rcases List.mem_cons.mp member with victim | other
  · rw [victim]
    decide +kernel
  · obtain ⟨i, _, same⟩ := List.mem_map.mp other
    have late : stillRecent 0 [(0 : ℚ)] = true := by decide +kernel
    rw [← same]
    exact late

/-- One more, and the victim is forgotten. -/
theorem evict_flooded {n : Nat} (full : n + 1 = maxKeys) {failures : Failures ℚ} (held : failures.entries = flooded (n + 1)) :
    (failures.evict maxKeys).getD ((attempt .recordFailure 0).key id id) [] = [] := by
  have one : failures.entries.length - maxKeys = 1 := by
    rw [held, length_flooded]
    omega
  have gone : (failures.evict maxKeys).get? ((attempt .recordFailure 0).key id id) = none := by
    rw [Dict.get?_eq_none_iff, Dict.keys_evict, one, held]
    intro listed
    obtain ⟨e, member, same⟩ := List.mem_map.mp listed
    obtain ⟨i, _, rfl⟩ := List.mem_map.mp member
    exact victim_apart i same
  rw [Dict.getD, gone]
  rfl

theorem keep_flooded {n : Nat} {failures : Failures ℚ} (held : failures.entries = flooded n) :
    (failures.keep (fun _ values => stillRecent 0 values)).entries = flooded n := by
  rw [← held, Dict.keep, List.filter_eq_self]
  intro e member
  exact flooded_recent (held ▸ member)

theorem forgotten_flood {n : Nat} (full : n + 1 = maxKeys) :
    (throttled id id (flood (n + 1))).getD ((attempt .recordFailure 0).key id id) [] = [] := by
  have filed_ := filed_stranger (entries_flood (le_of_eq full))
  have many : maxKeys < (filed (throttled id id (flood n)) ((stranger n).key id id) (stranger n).time).entries.length := by
    rw [filed_, length_flooded]
    omega
  rw [flood_succ, throttled_append, step_failure _ rfl, memoryFailure_eq, if_pos many]
  exact evict_flooded full (keep_flooded filed_)

theorem counted_flood (n : Nat) : countedFailures id (flood n) (account id "ada" "10.0.0.1") 0 = [0, 0, 0, 0, 0] := by
  have foreign : ∀ call ∈ (List.range n).map stranger, decide (call.account id = account id "ada" "10.0.0.1") = false := by
    intro call member
    obtain ⟨i, _, rfl⟩ := List.mem_map.mp member
    rw [decide_eq_false_iff_not]
    intro same
    have apart : Kb.strip "10.0.0.2" ≠ Kb.strip "10.0.0.1" := by decide +kernel
    exact apart (congrArg Account.clientIp same)
  rw [countedFailures, ownFailures, flood, failuresSince_foreign foreign]
  decide +kernel

theorem lock_counterexample :
    (maxFailures ≤ (countedFailures id (flood maxKeys) (account id "ada" "10.0.0.1") 0).length ∧
      answer id id (flood maxKeys) "ada" "10.0.0.1" 0 = none) ∧
    (answer id id (attempts [0, 0, 0, 0, 0]) "ada" "10.0.0.1" (1 / 2) = some 299 ∧
      (answer id id (attempts [0, 0, 0, 0, 0] ++ [attempt .check (1 / 2)]) "ada" "10.0.0.1" (1 / 2 + 299)).isSome) ∧
    (answer id id (attempts [0, 10, 20, 30, 40, 50]) "ada" "10.0.0.1" 60 = some 240 ∧
      (answer id id (attempts [0, 10, 20, 30, 40, 50] ++ [attempt .check 60]) "ada" "10.0.0.1" (60 + 240)).isSome) := by
  refine ⟨⟨?_, ?_⟩, by decide +kernel, by decide +kernel⟩
  · rw [counted_flood]
    exact Nat.le_refl 5
  · have room : maxKeys = 9999 + 1 := rfl
    have gone : (throttled id id (flood maxKeys)).getD ((attempt .recordFailure 0).key id id) [] = [] := by
      rw [room]
      exact forgotten_flood rfl
    rw [answer, check_answer]
    change waiting 0 (drop id (windowSeconds : ℚ) 0
      ((throttled id id (flood maxKeys)).getD ((attempt .recordFailure 0).key id id) [])) = none
    rw [gone]
    decide +kernel

end KnowledgeGap.Auth.Throttle
