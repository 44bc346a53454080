import KnowledgeGap.Auth.Throttle
import KnowledgeGap.Auth.TokenSoundness
import KnowledgeGap.Gateway.Scope
import KnowledgeGap.Protocol.Announce
import KnowledgeGap.Ledger.Usage

namespace KnowledgeGap.Gateway

open Relational Protocol Ingestion Ledger

variable {K : Type}

structure MonthlyConfig (K : Type) where
  monthlySoftLimitTokens : Int
  monthlyNotifyRatio : PyFloat K

inductive Level
  | exceeded
  | nearing
  deriving DecidableEq, Repr

def Level.text : Level → String
  | .exceeded => "exceeded"
  | .nearing => "80pct"

structure Notice (K : Type) where
  level : Level
  month : Json K
  usedTokens : Int
  limit : Int
  ratio : K
  message : String

/-- `_notified`: the texts of the months and levels that are out. -/
abbrev Notified := List String

def noticeKey (month : String) (level : Level) : String := month ++ ":" ++ level.text

section
variable [Field K]

/-- An integer times a float, which is exact but for the infinities. -/
def scale [LinearOrder K] (n : Int) : PyFloat K → PyFloat K
  | .fin x => .fin (n * x)
  | .nan => .nan
  | .posInf => if 0 < n then .posInf else if n < 0 then .negInf else .nan
  | .negInf => if 0 < n then .negInf else if n < 0 then .posInf else .nan

/-- An integer beyond the floats cannot be multiplied by one. -/
def times [LinearOrder K] (n : Int) (x : PyFloat K) : Except PyError (PyFloat K) :=
  if n.natAbs < floatLimit then .ok (scale n x) else .error .overflowError

/-- `/` of two integers. -/
def quotient [LinearOrder K] (n d : Int) : Except PyError K :=
  if |(n : K) / (d : K)| < (floatLimit : K) then .ok ((n : K) / (d : K)) else .error .overflowError

variable [LinearOrder K] [FloorRing K]

/-- `int` -/
def toInt (t : Characters) : Json K → Except PyError Int
  | .bool b => .ok (if b then 1 else 0)
  | .int n => .ok n
  | .float (.fin x) => .ok (Auth.Throttle.truncate x)
  | .float .nan => .error .valueError
  | .float .posInf | .float .negInf => .error .overflowError
  | .str s =>
    match t.readInt s with
    | some n => .ok n
    | none => .error .valueError
  | .null | .arr _ | .obj _ => .error .typeError

/-- `int(summary.get(name) or 0)` -/
def tokenCount (t : Characters) (summary : Params K) (name : String) : Except PyError Int :=
  if Ingestion.truthy (field summary name) then toInt t (field summary name) else .ok 0

def usedTokens (t : Characters) (summary : Params K) : Except PyError Int :=
  (tokenCount t summary "total_prompt_tokens").bind fun prompts =>
    (tokenCount t summary "total_completion_tokens").map fun completions => prompts + completions

/-- `summary.get("month") or ""` -/
def monthOf (summary : Params K) : Json K := if Ingestion.truthy (field summary "month") then field summary "month" else .str ""

/-- How a value is shown inside a formatted string; `str` shows what is no string. -/
def shown (str : Json K → String) : Json K → String
  | .str s => s
  | v => str v

def levelOf (cfg : MonthlyConfig K) (used : Int) : Except PyError (Option Level) :=
  if cfg.monthlySoftLimitTokens ≤ used then .ok (some .exceeded)
  else (times cfg.monthlySoftLimitTokens cfg.monthlyNotifyRatio).map fun threshold =>
    if threshold.le (.fin used) then some .nearing else none

def message (level : Level) (share : K) : String :=
  match level with
  | .nearing => "本月模型消耗已达月度限额的 " ++ toString (roundHalfEven (share * (100 : Nat))) ++ "%"
  | .exceeded => "本月模型消耗已超出月度软限额（服务不受影响）"

def noticeFor (cfg : MonthlyConfig K) (month : Json K) (used : Int) (level : Level) : Except PyError (Notice K) :=
  (quotient used cfg.monthlySoftLimitTokens).map fun share =>
    ⟨level, month, used, cfg.monthlySoftLimitTokens, roundTo 3 share, message level share⟩

/-- The level is written down before the notice is put together. -/
def announce (str : Json K → String) (cfg : MonthlyConfig K) (notified : Notified) (month : Json K) (used : Int) :
    Notified × Except PyError (Option (Notice K)) :=
  match levelOf cfg used with
  | .error e => (notified, .error e)
  | .ok none => (notified, .ok none)
  | .ok (some level) =>
    if noticeKey (shown str month) level ∈ notified then (notified, .ok none)
    else (noticeKey (shown str month) level :: notified, (noticeFor cfg month used level).map some)

def checkMonthly (t : Characters) (str : Json K → String) (cfg : MonthlyConfig K) (notified : Notified) (summary : Params K) :
    Notified × Except PyError (Option (Notice K)) :=
  if cfg.monthlySoftLimitTokens = 0 then (notified, .ok none)
  else
    match usedTokens t summary with
    | .error e => (notified, .error e)
    | .ok used => announce str cfg notified (monthOf summary) used

/-- `check_once`; without a summary there is nothing to check. -/
def checkOnce (t : Characters) (str : Json K → String) (cfg : MonthlyConfig K) (notified : Notified) :
    Option (Params K) → Notified × Except PyError (Option (Notice K))
  | none => (notified, .ok none)
  | some summary => checkMonthly t str cfg notified summary

/-! The watch over the months. -/

/-- A look at the ledger, for one month. -/
structure Poll (t : Characters) where
  month : Month t
  ledger : List LlmCallLog

def Poll.spent {t : Characters} (p : Poll t) : Int := Ledger.spent p.month.first p.month.next p.ledger

/-- The summary of the backend, handed to the guard. -/
def watch {t : Characters} (str : Json K → String) (cfg : MonthlyConfig K) (notified : Notified) (p : Poll t) :
    Notified × Except PyError (Option (Notice K)) :=
  match usageSummaryMonth t p.ledger p.month.text with
  | .error e => (notified, .error e)
  | .ok summary => checkOnce t str cfg notified (some summary)

/-- A usage the guard takes for past the notification ratio. -/
def near (cfg : MonthlyConfig K) (used : Int) : Bool := (scale cfg.monthlySoftLimitTokens cfg.monthlyNotifyRatio).le (.fin used)

/-- The limit is reached, or the usage is in the band below it. -/
def AtLevel (cfg : MonthlyConfig K) (used : Int) : Level → Prop
  | .exceeded => cfg.monthlySoftLimitTokens ≤ used
  | .nearing => near cfg used = true ∧ used < cfg.monthlySoftLimitTokens

def Yields (result : Except PyError (Option (Notice K))) (month : String) (level : Level) : Prop :=
  ∃ n, result = .ok (some n) ∧ n.level = level ∧ n.month = .str month

/-- Every poll is answered, by a notice of its month and of exactly the level that the month has reached and no earlier
    poll of the month was at. -/
def WarnsExactly {t : Characters} (str : Json K → String) (cfg : MonthlyConfig K) (polls : List (Poll t)) : Prop :=
  ∀ earlier p later, polls = earlier ++ p :: later →
    (∃ r, (watch str cfg (run (fun notified q => (watch str cfg notified q).1) [] earlier) p).2 = .ok r ∧
      ∀ n ∈ r, n.month = .str p.month.text) ∧
    ∀ level, Yields (watch str cfg (run (fun notified q => (watch str cfg notified q).1) [] earlier) p).2 p.month.text level ↔
      AtLevel cfg p.spent level ∧ ∀ q ∈ earlier, q.month.text = p.month.text → ¬ AtLevel cfg q.spent level

/-- No poll of a month finds less than an earlier one did. -/
def Growing {t : Characters} (polls : List (Poll t)) : Prop :=
  polls.Pairwise (fun q p => q.month.text = p.month.text → q.spent ≤ p.spent)

end

/-! What the guard announces. -/

theorem noticeKey_inj {m m' : String} {l l' : Level} (same : noticeKey m l = noticeKey m' l') : m = m' ∧ l = l' := by
  have texts : (m.toList ++ [':']) ++ l.text.toList = (m'.toList ++ [':']) ++ l'.text.toList := by
    simpa [noticeKey] using congrArg String.toList same
  have last := congrArg List.getLast? texts
  have levels : l = l' := by
    cases l <;> cases l' <;> simp [Level.text] at last ⊢
  refine ⟨?_, levels⟩
  rw [levels] at texts
  exact String.toList_injective (List.append_cancel_right (List.append_cancel_right texts))

section
variable [Field K] [LinearOrder K]

/-- The level a usage is at. -/
def levelAt (cfg : MonthlyConfig K) (used : Int) : Option Level :=
  if cfg.monthlySoftLimitTokens ≤ used then some .exceeded else if near cfg used then some .nearing else none

theorem levelAt_eq_some {cfg : MonthlyConfig K} {used : Int} {level : Level} : levelAt cfg used = some level ↔ AtLevel cfg used level := by
  rw [levelAt]
  split
  · rename_i reached
    cases level with
    | exceeded => simp [AtLevel, reached]
    | nearing => simp [AtLevel, reached]
  · rename_i below
    split
    · rename_i close
      cases level with
      | exceeded => simp [AtLevel, below]
      | nearing => simpa [AtLevel, close] using below
    · rename_i far
      cases level with
      | exceeded => simp [AtLevel, below]
      | nearing => simp [AtLevel, far]

variable [FloorRing K]

omit [FloorRing K] in
theorem levelOf_eq {cfg : MonthlyConfig K} (convertible : cfg.monthlySoftLimitTokens.natAbs < floatLimit) (used : Int) :
    levelOf cfg used = .ok (levelAt cfg used) := by
  rw [levelOf, levelAt, times, if_pos convertible]
  split
  · rfl
  · rfl

theorem announce_fst {str : Json K → String} {cfg : MonthlyConfig K} (convertible : cfg.monthlySoftLimitTokens.natAbs < floatLimit)
    (notified : Notified) (month : String) (used : Int) :
    (announce str cfg notified (.str month) used).1 = (sayOnce notified ((levelAt cfg used).map (noticeKey month))).1 := by
  rw [announce, levelOf_eq convertible]
  cases levelAt cfg used with
  | none => rfl
  | some level =>
    by_cases known : noticeKey month level ∈ notified
    · simp [sayOnce, shown, known]
    · simp [sayOnce, shown, known]

theorem announce_snd {str : Json K → String} {cfg : MonthlyConfig K} (convertible : cfg.monthlySoftLimitTokens.natAbs < floatLimit)
    {used : Int} (divisible : |(used : K) / (cfg.monthlySoftLimitTokens : K)| < (floatLimit : K)) (notified : Notified) (month : String) :
    (∃ r, (announce str cfg notified (.str month) used).2 = .ok r ∧ ∀ n ∈ r, n.month = .str month) ∧
      ∀ level, Yields (announce str cfg notified (.str month) used).2 month level ↔
        (sayOnce notified ((levelAt cfg used).map (noticeKey month))).2 = some (noticeKey month level) := by
  rw [announce, levelOf_eq convertible]
  cases levelAt cfg used with
  | none => simp [sayOnce, Yields]
  | some reached =>
    by_cases known : noticeKey month reached ∈ notified
    · simp [sayOnce, Yields, shown, known]
    · simp only [shown, known, if_false, noticeFor, quotient, if_pos divisible, sayOnce, Option.map_some, Except.map]
      refine ⟨⟨_, rfl, ?_⟩, ?_⟩
      · intro n same
        cases same
        rfl
      · intro level
        simp only [Option.some.injEq]
        constructor
        · rintro ⟨n, same, rfl, _⟩
          cases same
          rfl
        · intro same
          exact ⟨_, rfl, (noticeKey_inj same).2, rfl⟩

/-- The guard announces what it reads exactly as it should. -/
theorem announced_exactly {str : Json K → String} {cfg : MonthlyConfig K} (convertible : cfg.monthlySoftLimitTokens.natAbs < floatLimit)
    (earlier : List (String × Int)) {month : String} {used : Int}
    (divisible : |(used : K) / (cfg.monthlySoftLimitTokens : K)| < (floatLimit : K)) (level : Level) :
    Yields (announce str cfg (run (fun notified r => (announce str cfg notified (.str r.1) r.2).1) [] earlier) (.str month) used).2 month level ↔
      AtLevel cfg used level ∧ ∀ r ∈ earlier, r.1 = month → ¬ AtLevel cfg r.2 level := by
  have brought : ∀ (m : String) (n : Int), (levelAt cfg n).map (noticeKey m) = some (noticeKey month level) ↔ m = month ∧ AtLevel cfg n level := by
    intro m n
    rw [Option.map_eq_some_iff, ← levelAt_eq_some]
    constructor
    · rintro ⟨other, found, same⟩
      obtain ⟨months, levels⟩ := noticeKey_inj same
      exact ⟨months, levels ▸ found⟩
    · rintro ⟨rfl, found⟩
      exact ⟨level, found, rfl⟩
  have state : run (fun notified r => (announce str cfg notified (.str r.1) r.2).1) [] earlier =
      saidAfter (fun r : String × Int => (levelAt cfg r.2).map (noticeKey r.1)) earlier := by
    rw [saidAfter]
    congr 1
    funext notified r
    exact announce_fst convertible notified r.1 r.2
  rw [state, (announce_snd convertible divisible _ month).2 level]
  have told := told_iff (fun r : String × Int => (levelAt cfg r.2).map (noticeKey r.1)) earlier (month, used) (noticeKey month level)
  rw [told, brought]
  simp only [true_and, ne_eq, brought, not_and]

/-! What the backend's summary comes to. -/

/-- The summary holds the counts under other names than the guard looks for. -/
theorem usedTokens_summary (t : Characters) (month : String) (report : UsageReport) :
    usedTokens (K := K) t (summaryOf month report) = .ok 0 := rfl

omit [FloorRing K] in
theorem monthOf_summary (month : String) (report : UsageReport) : monthOf (K := K) (summaryOf month report) = .str month := by
  have shown_ : field (K := K) (summaryOf month report) "month" = .str month := rfl
  rw [monthOf, shown_]
  split
  · rfl
  · rename_i empty
    simp only [Ingestion.truthy, Bool.not_eq_true, Bool.not_eq_false'] at empty
    rw [String.isEmpty_iff.mp empty]

theorem watch_eq {t : Characters} {str : Json K → String} {cfg : MonthlyConfig K} (positive : 0 < cfg.monthlySoftLimitTokens)
    (notified : Notified) (p : Poll t) : watch str cfg notified p = announce str cfg notified (.str p.month.text) 0 := by
  rw [watch, p.month.summary]
  change checkMonthly t str cfg notified (summaryOf p.month.text _) = _
  rw [checkMonthly, if_neg (by omega), usedTokens_summary, monthOf_summary]

theorem watched (str : Json K → String) {t : Characters} {cfg : MonthlyConfig K} (positive : 0 < cfg.monthlySoftLimitTokens)
    (earlier : List (Poll t)) :
    run (fun notified q => (watch str cfg notified q).1) [] earlier =
      run (fun notified r => (announce str cfg notified (.str r.1) r.2).1) [] (earlier.map (fun q => (q.month.text, 0))) := by
  simp only [run, List.foldl_map, watch_eq positive]

/-- Without an answer there is none to any poll. -/
theorem convertible_of_answer {t : Characters} {str : Json K → String} {cfg : MonthlyConfig K} (positive : 0 < cfg.monthlySoftLimitTokens)
    {notified : Notified} {p : Poll t} {r : Option (Notice K)} (answered : (watch str cfg notified p).2 = .ok r) :
    cfg.monthlySoftLimitTokens.natAbs < floatLimit := by
  by_contra beyond
  rw [watch_eq positive, announce, levelOf, if_neg (by omega), times, if_neg beyond] at answered
  cases answered

end

/-- Nothing used, or everything counted as nothing, is below the limit. -/
theorem levelAt_zero [Field K] [LinearOrder K] {cfg : MonthlyConfig K} (positive : 0 < cfg.monthlySoftLimitTokens) :
    levelAt cfg 0 = if near cfg 0 then some .nearing else none := if_neg (by omega)

section
variable [Field K] [LinearOrder K] [IsStrictOrderedRing K]

theorem near_monotone {cfg : MonthlyConfig K} {less more : Int} (le : less ≤ more) (close : near cfg less = true) : near cfg more = true := by
  unfold near at *
  cases threshold : scale cfg.monthlySoftLimitTokens cfg.monthlyNotifyRatio with
  | fin x =>
    rw [threshold] at close
    simp only [PyFloat.le_fin, decide_eq_true_eq] at close ⊢
    exact le_trans close (Int.cast_le.mpr le)
  | nan | negInf | posInf =>
    rw [threshold] at close
    exact close

def levelKey {t : Characters} (cfg : MonthlyConfig K) (used : Poll t → Int) (p : Poll t) : Option (String × Level) :=
  (levelAt cfg (used p)).map (fun level => (p.month.text, level))

omit [IsStrictOrderedRing K] in
theorem levelKey_eq_some {t : Characters} {cfg : MonthlyConfig K} {used : Poll t → Int} {p : Poll t} {month : String} {level : Level} :
    levelKey cfg used p = some (month, level) ↔ p.month.text = month ∧ AtLevel cfg (used p) level := by
  rw [levelKey, Option.map_eq_some_iff, ← levelAt_eq_some]
  constructor
  · rintro ⟨found, here, same⟩
    cases same
    exact ⟨rfl, here⟩
  · rintro ⟨rfl, here⟩
    exact ⟨level, here, rfl⟩

/-- Where the usage is not taken for what it is, the one level or the other comes up for the first time. -/
theorem parting {t : Characters} {cfg : MonthlyConfig K} (positive : 0 < cfg.monthlySoftLimitTokens) {polls : List (Poll t)}
    (growing : Growing polls) : Parting (levelKey cfg (fun _ => 0)) (levelKey cfg Poll.spent) polls := by
  intro earlier p later split apart
  have apart' : levelAt cfg 0 ≠ levelAt cfg p.spent := fun same => apart (by rw [levelKey, levelKey, same])
  cases found : levelAt cfg p.spent with
  | some level =>
    -- no poll counts as being at this level
    refine ⟨(p.month.text, level), .inr ⟨levelKey_eq_some.mpr ⟨rfl, levelAt_eq_some.mp found⟩, ?_⟩⟩
    intro q _ brought
    have zero : levelAt cfg 0 = some level := levelAt_eq_some.mpr (levelKey_eq_some.mp brought).2
    exact apart' (zero.trans found.symm)
  | none =>
    -- nothing is near the limit already, while the usage, which can only have grown, is not
    have close : near cfg 0 = true := by
      by_contra far
      rw [levelAt_zero positive, if_neg far] at apart'
      exact apart' found.symm
    refine ⟨(p.month.text, .nearing), .inl ⟨levelKey_eq_some.mpr ⟨rfl, close, positive⟩, ?_⟩⟩
    intro q listed brought
    obtain ⟨same, close, _⟩ := levelKey_eq_some.mp brought
    rw [split, Growing, List.pairwise_append] at growing
    have grown := growing.2.2 q listed p List.mem_cons_self same
    have still := near_monotone grown close
    rw [levelAt, still] at found
    split at found <;> cases found

omit [IsStrictOrderedRing K] in
theorem levelAt_as_zero {cfg : MonthlyConfig K} (positive : 0 < cfg.monthlySoftLimitTokens) {used : Int} :
    levelAt cfg 0 = levelAt cfg used ↔ used < cfg.monthlySoftLimitTokens ∧ near cfg used = near cfg 0 := by
  rw [levelAt_zero positive, levelAt]
  by_cases below : used < cfg.monthlySoftLimitTokens
  · rw [if_neg (show ¬ cfg.monthlySoftLimitTokens ≤ used from by omega)]
    cases near cfg 0 <;> cases near cfg used <;> simp [below]
  · rw [if_pos (show cfg.monthlySoftLimitTokens ≤ used from by omega)]
    cases near cfg 0 <;> simp [below]

end

section
variable [Field K] [LinearOrder K] [FloorRing K] [IsStrictOrderedRing K]

theorem warnsExactly_iff_alike {t : Characters} {str : Json K → String} {cfg : MonthlyConfig K} (positive : 0 < cfg.monthlySoftLimitTokens)
    (convertible : cfg.monthlySoftLimitTokens.natAbs < floatLimit) (polls : List (Poll t)) :
    WarnsExactly str cfg polls ↔ TellAlike (levelKey cfg (fun _ => 0)) (levelKey cfg Poll.spent) polls := by
  have divisible : |((0 : Int) : K) / (cfg.monthlySoftLimitTokens : K)| < (floatLimit : K) := by
    rw [Int.cast_zero, zero_div, abs_zero, Nat.cast_pos]
    exact Nat.lt_of_le_of_lt (Nat.zero_le _) convertible
  constructor
  · intro exact_ earlier p later split key
    obtain ⟨month, level⟩ := key
    have here := (exact_ earlier p later split).2 level
    rw [watch_eq positive, watched str positive, announced_exactly convertible _ divisible] at here
    simp only [levelKey_eq_some, ne_eq, not_and]
    constructor
    · rintro ⟨⟨rfl, at_⟩, before⟩
      have due := here.mp ⟨at_, by simpa using before⟩
      exact ⟨⟨rfl, due.1⟩, due.2⟩
    · rintro ⟨⟨rfl, at_⟩, before⟩
      have due := here.mpr ⟨at_, before⟩
      exact ⟨⟨rfl, due.1⟩, by simpa using due.2⟩
  · intro alike earlier p later split
    rw [watch_eq positive, watched str positive]
    refine ⟨(announce_snd convertible divisible _ _).1, ?_⟩
    intro level
    have here := alike earlier p later split (p.month.text, level)
    simp only [levelKey_eq_some, ne_eq, not_and, true_and] at here
    rw [announced_exactly convertible _ divisible, ← here]
    simp

/-- The notices are exact when the limit is a float, and what each poll finds used is, as nothing used is, below the limit,
    and past the notification ratio only if nothing used is. -/
theorem warnsExactly_iff {t : Characters} (str : Json K → String) (cfg : MonthlyConfig K) (polls : List (Poll t))
    (positive : 0 < cfg.monthlySoftLimitTokens) (growing : Growing polls) :
    WarnsExactly str cfg polls ↔ ∀ p ∈ polls, cfg.monthlySoftLimitTokens.natAbs < floatLimit ∧
      p.spent < cfg.monthlySoftLimitTokens ∧ near cfg p.spent = near cfg 0 := by
  by_cases convertible : cfg.monthlySoftLimitTokens.natAbs < floatLimit
  · rw [warnsExactly_iff_alike positive convertible, tellAlike_iff (parting positive growing)]
    apply forall₂_congr
    intro p _
    rw [and_iff_right convertible, ← levelAt_as_zero positive, levelKey, levelKey]
    refine ⟨fun same => ?_, fun same => by rw [same]⟩
    exact Option.map_injective (fun _ _ both => (Prod.mk.inj both).2) same
  · cases polls with
    | nil => simp [WarnsExactly]
    | cons p polls =>
      refine iff_of_false ?_ (fun all => convertible (all p List.mem_cons_self).1)
      intro exact_
      obtain ⟨r, answered, _⟩ := (exact_ [] p polls rfl).1
      exact convertible (convertible_of_answer positive answered)

end

def august : Month Auth.asciiCharacters := ⟨"2026-08", 20666, 20697, by decide +kernel⟩

/-- One successful call at noon of the third of August. -/
def usedUp (prompts completions : Int) : List LlmCallLog :=
  [⟨1, noon 20668, "narrative", .success, some prompts, some completions⟩]

def thousand : MonthlyConfig ℚ := ⟨1000, .fin (4 / 5)⟩

/-- A month that stays below the band gets no notice, as it should. -/
theorem warnsExactly_iff_quiet : WarnsExactly (fun _ => "") thousand [⟨august, usedUp 300 100⟩, ⟨august, usedUp 500 200⟩] := by
  refine (warnsExactly_iff (fun _ => "") thousand [⟨august, usedUp 300 100⟩, ⟨august, usedUp 500 200⟩] (by decide) ?_).mpr ?_
  · simp only [Growing, List.pairwise_cons, List.mem_singleton, forall_eq]
    decide +kernel
  · decide +kernel

/-- The limit is first nearly and then really used up, and no notice comes. -/
theorem warnsExactly_counterexample : 0 < thousand.monthlySoftLimitTokens ∧
    Growing [(⟨august, usedUp 700 200⟩ : Poll Auth.asciiCharacters), ⟨august, usedUp 1000 200⟩] ∧
    ¬ WarnsExactly (fun _ => "") thousand [⟨august, usedUp 700 200⟩, ⟨august, usedUp 1000 200⟩] := by
  refine ⟨by decide, ?_, ?_⟩
  · simp only [Growing, List.pairwise_cons, List.mem_singleton, forall_eq]
    decide +kernel
  · intro exact_
    obtain ⟨_, warned⟩ := exact_ [] ⟨august, usedUp 700 200⟩ [⟨august, usedUp 1000 200⟩] rfl
    obtain ⟨n, yielded, _⟩ := (warned .nearing).mpr ⟨⟨by decide +kernel, by decide +kernel⟩, by simp⟩
    have silent : (watch (fun _ => "") thousand [] ⟨august, usedUp 700 200⟩).2 = .ok none := by
      have far : near thousand 0 = false := by decide +kernel
      rw [watch_eq (by decide), announce, levelOf_eq (by decide +kernel), levelAt_zero (by decide), far]
      rfl
    rw [run_nil, silent] at yielded
    cases yielded

end KnowledgeGap.Gateway
