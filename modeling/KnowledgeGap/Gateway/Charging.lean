import Mathlib.Algebra.Order.BigOperators.Group.List
import Mathlib.Algebra.Order.Field.Basic
import KnowledgeGap.Protocol.Runs
import KnowledgeGap.Gateway.Accounts

namespace KnowledgeGap.Gateway

open Relational Protocol

variable {K : Type}

/-- What the entries of one thread add up to. -/
def sumOf (threadId : String) (entries : List (String × Int)) : Int :=
  ((entries.filter (fun e => decide (e.1 = threadId))).map Prod.snd).sum

/-- The guard with the tasks that ended, by how much each live notification raised the watermark of its thread, and by
    how much each historical one moved it. -/
structure Accounts (K : Type) where
  guard : BudgetGuard K
  finished : List (String × TaskBudget K)
  raised : List (String × Int)
  moved : List (String × Int)

def Accounts.init : Accounts K := ⟨.init, [], [], []⟩

def tokensOf (ended : List (String × TaskBudget K)) : List (String × Int) := ended.map (fun e => (e.1, e.2.totalTokens))

/-- The tokens charged to all tasks a thread ever had. -/
def Accounts.charged (a : Accounts K) (threadId : String) : Int :=
  sumOf threadId (tokensOf a.finished) + a.guard.openTokens threadId

section
variable [Sub K] [LT K] [DecidableLT K] (cfg : BudgetConfig K)

def BudgetGuard.expired (g : BudgetGuard K) (m : Moments K) : List (String × TaskBudget K) :=
  g.tasks.entries.filter (fun e => e.2.stale cfg (m.swept e.1))

/-- A task can still run out of time between the sweep and the look at it. -/
def BudgetGuard.replaced (g : BudgetGuard K) (threadId : String) (m : Moments K) : List (String × TaskBudget K) :=
  match (g.gc cfg m).tasks.get? threadId with
  | none => []
  | some b => if b.stale cfg m.seen then [(threadId, b)] else []

def BudgetGuard.ends (g : BudgetGuard K) : Call K → List (String × TaskBudget K)
  | .turnStart threadId m => g.expired cfg m ++ g.replaced cfg threadId m
  | .observe _ _ _ _ => []
  | .gc m => g.expired cfg m
  | .snapshot m => g.expired cfg m

end

def BudgetGuard.rise (g : BudgetGuard K) : Call K → List (String × Int)
  | .observe threadId totalTokens false _ => [(threadId, max 0 (totalTokens - g.watermark threadId))]
  | _ => []

def BudgetGuard.move (g : BudgetGuard K) : Call K → List (String × Int)
  | .observe threadId totalTokens true _ => [(threadId, max 0 totalTokens - g.watermark threadId)]
  | _ => []

def Accounts.step [Sub K] [LT K] [DecidableLT K] (cfg : BudgetConfig K) (a : Accounts K) (c : Call K) : Accounts K :=
  { guard := a.guard.call cfg c
    finished := a.finished ++ a.guard.ends cfg c
    raised := a.raised ++ a.guard.rise c
    moved := a.moved ++ a.guard.move c }

/-! Sums over the entries of a thread. -/

@[simp] theorem sumOf_nil (threadId : String) : sumOf threadId [] = 0 := rfl

@[simp] theorem sumOf_append (threadId : String) (first rest : List (String × Int)) :
    sumOf threadId (first ++ rest) = sumOf threadId first + sumOf threadId rest := by
  simp [sumOf]

@[simp] theorem sumOf_singleton (threadId : String) (e : String × Int) :
    sumOf threadId [e] = if e.1 = threadId then e.2 else 0 := by
  by_cases same : e.1 = threadId <;> simp [sumOf, same]

theorem sumOf_nonneg {threadId : String} {entries : List (String × Int)}
    (up : ∀ e ∈ entries, e.1 = threadId → 0 ≤ e.2) : 0 ≤ sumOf threadId entries := by
  apply List.sum_nonneg
  intro n member
  rw [List.mem_map] at member
  obtain ⟨e, listed, rfl⟩ := member
  rw [List.mem_filter, decide_eq_true_eq] at listed
  exact up e listed.1 listed.2

/-! What the tasks of a thread were charged, ended ones included. -/

section
variable [Sub K] [LT K] [DecidableLT K] {cfg : BudgetConfig K} {g : BudgetGuard K}

/-- The sweep only files what it takes away. -/
theorem tokensOf_expired (m : Moments K) (u : String) :
    sumOf u (tokensOf (g.expired cfg m)) + (g.gc cfg m).openTokens u = g.openTokens u := by
  have mine : (tokensOf (g.expired cfg m)).filter (fun e => decide (e.1 = u))
      = tokensOf (((g.tasks.get? u).toList.map (fun b => (u, b))).filter (fun e => e.2.stale cfg (m.swept e.1))) := by
    rw [← Dict.entries_filter_key, List.filter_filter, tokensOf, tokensOf, BudgetGuard.expired, List.filter_map,
      List.filter_filter]
    simp only [Function.comp_def, Bool.and_comm]
  rw [sumOf, mine, BudgetGuard.openTokens, BudgetGuard.openTokens, get?_gc]
  cases g.tasks.get? u with
  | none => rfl
  | some b => cases old : b.stale cfg (m.swept u) <;> simp [tokensOf, Option.filter, old]

theorem tokensOf_replaced (threadId : String) (m : Moments K) :
    sumOf threadId (tokensOf (g.replaced cfg threadId m)) + (g.checked cfg threadId m).totalTokens
      = (g.gc cfg m).openTokens threadId := by
  unfold BudgetGuard.replaced BudgetGuard.checked BudgetGuard.current BudgetGuard.openTokens
  cases (g.gc cfg m).tasks.get? threadId with
  | none => rfl
  | some b => cases old : b.stale cfg m.seen <;> simp [tokensOf, old, BudgetGuard.fresh]

theorem tokensOf_replaced_of_ne {threadId u : String} (other : u ≠ threadId) (m : Moments K) :
    sumOf u (tokensOf (g.replaced cfg threadId m)) = 0 := by
  unfold BudgetGuard.replaced
  cases (g.gc cfg m).tasks.get? threadId with
  | none => rfl
  | some b => cases old : b.stale cfg m.seen <;> simp [tokensOf, old, Ne.symm other]

theorem checkTurnStart_openTokens (threadId u : String) (m : Moments K) :
    (checkTurnStart cfg g threadId m).1.openTokens u =
      if u = threadId then (g.checked cfg threadId m).totalTokens else (g.gc cfg m).openTokens u := by
  rw [BudgetGuard.openTokens, checkTurnStart_get?]
  by_cases same : u = threadId
  · rw [if_pos same, if_pos same]
    cases (g.checked cfg threadId m).atLimit cfg <;> rfl
  · rw [if_neg same, if_neg same]
    rfl

omit [Sub K] [LT K] [DecidableLT K] in
theorem tokensOf_append (first rest : List (String × TaskBudget K)) :
    tokensOf (first ++ rest) = tokensOf first ++ tokensOf rest := List.map_append

theorem checkTurnStart_charges (threadId u : String) (m : Moments K) :
    sumOf u (tokensOf (g.expired cfg m ++ g.replaced cfg threadId m)) + (checkTurnStart cfg g threadId m).1.openTokens u
      = g.openTokens u := by
  have swept : sumOf u (tokensOf (g.expired cfg m)) + (g.gc cfg m).openTokens u = g.openTokens u := tokensOf_expired m u
  rw [tokensOf_append, sumOf_append, checkTurnStart_openTokens]
  by_cases same : u = threadId
  · subst same
    have looked : sumOf u (tokensOf (g.replaced cfg u m)) + (g.checked cfg u m).totalTokens
        = (g.gc cfg m).openTokens u := tokensOf_replaced u m
    rw [if_pos rfl]
    omega
  · have looked : sumOf u (tokensOf (g.replaced cfg threadId m)) = 0 := tokensOf_replaced_of_ne same m
    rw [if_neg same]
    omega

omit [Sub K] [LT K] [DecidableLT K] in
theorem observeHistorical_openTokens (threadId u : String) (totalTokens : Int) :
    (observeHistorical g threadId totalTokens).openTokens u = g.openTokens u := by
  rw [BudgetGuard.openTokens, observeHistorical_get?]
  by_cases same : u = threadId
  · rw [if_pos same, same, Option.map_map]
    rfl
  · rw [if_neg same]
    rfl

omit [Sub K] [LT K] [DecidableLT K] in
theorem observeLive_openTokens (balanced : g.Balanced cfg) (threadId u : String) (totalTokens : Int) (m : Moments K) :
    (observeLive cfg g threadId totalTokens m).1.openTokens u =
      g.openTokens u + sumOf u [(threadId, max 0 (totalTokens - g.watermark threadId))] := by
  rw [BudgetGuard.openTokens, observeLive_get?, sumOf_singleton]
  by_cases same : u = threadId
  · subst same
    rw [if_pos rfl, if_pos rfl, Option.map_some, Option.getD_some,
      charged_totalTokens (running_sound balanced u m) (balanced.level u), running_totalTokens]
  · rw [if_neg same, if_neg (Ne.symm same), add_zero]
    rfl

theorem call_charges (balanced : g.Balanced cfg) (c : Call K) (u : String) :
    sumOf u (tokensOf (g.ends cfg c)) + (g.call cfg c).openTokens u = g.openTokens u + sumOf u (g.rise c) := by
  cases c with
  | turnStart threadId m => exact (checkTurnStart_charges threadId u m).trans (add_zero _).symm
  | observe threadId totalTokens historical m =>
    cases historical with
    | true => exact (zero_add _).trans ((observeHistorical_openTokens threadId u totalTokens).trans (add_zero _).symm)
    | false => exact (zero_add _).trans (observeLive_openTokens balanced threadId u totalTokens m)
  | gc m => exact (tokensOf_expired m u).trans (add_zero _).symm
  | snapshot m => exact (tokensOf_expired m u).trans (add_zero _).symm

omit [Sub K] [LT K] [DecidableLT K] in
theorem observe_watermark (balanced : g.Balanced cfg) (threadId u : String) (totalTokens : Int) (historical : Bool)
    (m : Moments K) : (observeTokenUsage cfg g threadId totalTokens historical m).1.watermark u =
      g.watermark u + sumOf u (g.rise (.observe threadId totalTokens historical m))
        + sumOf u (g.move (.observe threadId totalTokens historical m)) := by
  have level := balanced.level threadId
  by_cases same : u = threadId
  · subst same
    cases historical with
    | true =>
      refine (observeHistorical_watermark g u u totalTokens).trans ?_
      simp [BudgetGuard.rise, BudgetGuard.move]
    | false =>
      refine (observeLive_watermark cfg g m u u totalTokens).trans ?_
      simp [BudgetGuard.rise, BudgetGuard.move]
      omega
  · cases historical with
    | true =>
      refine (observeHistorical_watermark g threadId u totalTokens).trans ?_
      simp [BudgetGuard.rise, BudgetGuard.move, same, Ne.symm same]
    | false =>
      refine (observeLive_watermark cfg g m threadId u totalTokens).trans ?_
      simp [BudgetGuard.rise, BudgetGuard.move, same, Ne.symm same]

theorem call_watermark (balanced : g.Balanced cfg) (c : Call K) (u : String) :
    (g.call cfg c).watermark u = g.watermark u + sumOf u (g.rise c) + sumOf u (g.move c) := by
  cases c with
  | turnStart threadId m =>
    rw [BudgetGuard.watermark, BudgetGuard.call, checkTurnStart_threadTotals]
    simp [BudgetGuard.rise, BudgetGuard.move, BudgetGuard.watermark]
  | observe threadId totalTokens historical m =>
    exact observe_watermark balanced threadId u totalTokens historical m
  | gc m => simp [BudgetGuard.call, BudgetGuard.rise, BudgetGuard.move]
  | snapshot m => simp [BudgetGuard.call, BudgetGuard.snapshot, BudgetGuard.rise, BudgetGuard.move]

end

/-! The guard over whole runs. -/

section
variable [Sub K] [LT K] [DecidableLT K] (cfg : BudgetConfig K)

/-- The call does not find the thread's task idle for longer than the TTL. -/
def Call.Spares (u : String) (b : TaskBudget K) : Call K → Prop
  | .turnStart threadId m => b.stale cfg (m.swept u) = false ∧ (u = threadId → b.stale cfg m.seen = false)
  | .observe _ _ _ _ => True
  | .gc m => b.stale cfg (m.swept u) = false
  | .snapshot m => b.stale cfg (m.swept u) = false

def Accounts.Spared (u : String) (a : Accounts K) (c : Call K) : Prop :=
  ∀ b, a.guard.tasks.get? u = some b → c.Spares cfg u b

structure Accounted (a : Accounts K) : Prop where
  balance : ∀ u b, a.guard.tasks.get? u = some b → b.baselineTokens + b.totalTokens = a.guard.watermark u
  turns : ∀ u b, a.guard.tasks.get? u = some b → b.turns ≤ max 0 cfg.maxTurnsPerTask
  live : ∀ u totalTokens m, ∃ b, (observeTokenUsage cfg a.guard u totalTokens false m).1.tasks.get? u = some b ∧
    b.turns = a.guard.openTurns u ∧ b.totalTokens = a.guard.openTokens u + max 0 (totalTokens - a.guard.watermark u)
  historical : ∀ u totalTokens m, (observeTokenUsage cfg a.guard u totalTokens true m).2 = none ∧
    ∀ v, ((observeTokenUsage cfg a.guard u totalTokens true m).1.tasks.get? v).map (fun b => (b.turns, b.totalTokens))
      = (a.guard.tasks.get? v).map (fun b => (b.turns, b.totalTokens))
  charges : ∀ u, a.charged u = sumOf u a.raised
  once : ∀ u, (∀ e ∈ a.moved, e.1 = u → 0 ≤ e.2) →
    a.charged u + sumOf u a.moved = a.guard.watermark u ∧ a.charged u ≤ a.guard.watermark u
  refused : ∀ u m e, (checkTurnStart cfg a.guard u m).2 = .error e →
    (checkTurnStart cfg a.guard u m).1.threadTotals = a.guard.threadTotals ∧
      ∀ v, (checkTurnStart cfg a.guard u m).1.tasks.get? v = (a.guard.gc cfg m).tasks.get? v ∨
        v = u ∧ (cfg.maxTurnsPerTask ≤ 0 ∨ cfg.maxTokensPerTask < 0) ∧
          (∀ b, (a.guard.gc cfg m).tasks.get? u = some b → b.stale cfg m.seen = true) ∧
          (checkTurnStart cfg a.guard u m).1.tasks.get? v = some (a.guard.fresh u m.opened)
  limit : ∀ u b, a.guard.tasks.get? u = some b → b.atLimit cfg = true →
    ∀ calls, Along (Accounts.step cfg) (Accounts.Spared cfg u) a calls →
      ∀ first m rest, calls = first ++ .turnStart u m :: rest →
        ∃ e, (checkTurnStart cfg (run (Accounts.step cfg) a first).guard u m).2 = .error e
  reopened : 0 < cfg.maxTurnsPerTask → 0 ≤ cfg.maxTokensPerTask →
    ∀ u m, (∀ b, (a.guard.gc cfg m).tasks.get? u = some b → b.stale cfg m.seen = true) →
      (checkTurnStart cfg a.guard u m).2 = .ok ⟨1, 0⟩
  apart : ∀ c u, c.thread ≠ some u → (a.guard.call cfg c).watermark u = a.guard.watermark u ∧
    ∀ b, a.guard.tasks.get? u = some b → c.Spares cfg u b → (a.guard.call cfg c).tasks.get? u = some b

variable {cfg} {g : BudgetGuard K} {a : Accounts K} {u : String} {b : TaskBudget K}

theorem checked_of_unexpired {m : Moments K} (found : g.tasks.get? u = some b)
    (swept : b.stale cfg (m.swept u) = false) (seen : b.stale cfg m.seen = false) : g.checked cfg u m = b := by
  rw [BudgetGuard.checked, BudgetGuard.current, gc_of_unexpired cfg g m u found swept]
  simp [seen]

theorem checked_of_expired {m : Moments K}
    (expired : ∀ b, (g.gc cfg m).tasks.get? u = some b → b.stale cfg m.seen = true) :
    g.checked cfg u m = g.fresh u m.opened := by
  rcases current_cases cfg (g.gc cfg m) m u with ⟨new, _⟩ | ⟨held, young⟩
  · exact new
  · rw [expired _ held] at young
    cases young

omit [Sub K] [LT K] [DecidableLT K] in
theorem atLimit_iff : b.atLimit cfg = true ↔
    cfg.maxTurnsPerTask ≤ b.turns ∨ cfg.maxTokensPerTask ≠ 0 ∧ cfg.maxTokensPerTask ≤ b.totalTokens := by
  rw [TaskBudget.atLimit, TaskBudget.spent, Bool.or_eq_true, decide_eq_true_eq, decide_eq_true_eq]

omit [Sub K] [LT K] [DecidableLT K] in
theorem fresh_atLimit_iff (opened : K) :
    (g.fresh u opened).atLimit cfg = true ↔ cfg.maxTurnsPerTask ≤ 0 ∨ cfg.maxTokensPerTask < 0 := by
  rw [atLimit_iff]
  change cfg.maxTurnsPerTask ≤ 0 ∨ cfg.maxTokensPerTask ≠ 0 ∧ cfg.maxTokensPerTask ≤ 0 ↔ _
  omega

theorem call_frame {c : Call K} (other : c.thread ≠ some u) (found : g.tasks.get? u = some b)
    (spared : c.Spares cfg u b) : (g.call cfg c).tasks.get? u = some b := by
  cases c with
  | turnStart threadId m =>
    have apart : u ≠ threadId := fun same => other (congrArg some same.symm)
    rw [BudgetGuard.call, checkTurnStart_get?, if_neg apart]
    exact gc_of_unexpired cfg g m u found spared.1
  | observe threadId totalTokens historical m =>
    have apart : u ≠ threadId := fun same => other (congrArg some same.symm)
    cases historical with
    | true => exact (observeHistorical_get? g threadId u totalTokens).trans ((if_neg apart).trans found)
    | false => exact (observeLive_get? cfg g m threadId u totalTokens).trans ((if_neg apart).trans found)
  | gc m => exact gc_of_unexpired cfg g m u found spared
  | snapshot m => exact gc_of_unexpired cfg g m u found spared

omit [Sub K] [LT K] [DecidableLT K] in
theorem rise_of_other {c : Call K} (other : c.thread ≠ some u) : sumOf u (g.rise c) = 0 ∧ sumOf u (g.move c) = 0 := by
  cases c with
  | observe threadId totalTokens historical m =>
    have apart : threadId ≠ u := fun same => other (congrArg some same)
    cases historical <;> simp [BudgetGuard.rise, BudgetGuard.move, apart]
  | _ => exact ⟨rfl, rfl⟩

omit [Sub K] [LT K] [DecidableLT K] in
theorem atLimit_mono {c : TaskBudget K} (turns : b.turns = c.turns) (tokens : b.totalTokens ≤ c.totalTokens)
    (full : b.atLimit cfg = true) : c.atLimit cfg = true := by
  rw [atLimit_iff] at full ⊢
  omega

/-- The thread has a task at a limit. -/
def Accounts.Full (cfg : BudgetConfig K) (u : String) (a : Accounts K) : Prop :=
  ∃ b, a.guard.tasks.get? u = some b ∧ b.atLimit cfg = true

theorem full_step (a : Accounts K) (c : Call K) (full : a.Full cfg u) (spared : a.Spared cfg u c) :
    (a.step cfg c).Full cfg u := by
  obtain ⟨b, found, limit⟩ := full
  have kept := spared b found
  by_cases mine : c.thread = some u
  · cases c with
    | turnStart threadId m =>
      have same : threadId = u := Option.some.inj mine
      subst same
      have checked := checked_of_unexpired found kept.1 (kept.2 rfl)
      refine ⟨b, ?_, limit⟩
      change (checkTurnStart cfg a.guard threadId m).1.tasks.get? threadId = some b
      rw [checkTurnStart_get?, if_pos rfl, checked, if_pos limit]
    | observe threadId totalTokens historical m =>
      have same : threadId = u := Option.some.inj mine
      subst same
      cases historical with
      | true =>
        refine ⟨b.rebased (max 0 totalTokens), ?_, limit⟩
        refine (observeHistorical_get? a.guard threadId threadId totalTokens).trans ?_
        rw [if_pos rfl, found]
        rfl
      | false =>
        have more : b.totalTokens ≤ (b.charged (max 0 totalTokens) m.touched).totalTokens := le_max_left _ _
        have turns : b.turns = (b.charged (max 0 totalTokens) m.touched).turns := rfl
        refine ⟨b.charged (max 0 totalTokens) m.touched, ?_, atLimit_mono turns more limit⟩
        refine (observeLive_get? cfg a.guard m threadId threadId totalTokens).trans ?_
        rw [if_pos rfl, BudgetGuard.running, found]
        rfl
    | gc m => cases mine
    | snapshot m => cases mine
  · exact ⟨b, call_frame mine found kept, limit⟩

theorem full_refuses {m : Moments K} (full : a.Full cfg u) (spared : a.Spared cfg u (.turnStart u m)) :
    ∃ e, (checkTurnStart cfg a.guard u m).2 = .error e := by
  obtain ⟨b, found, limit⟩ := full
  have kept := spared b found
  rw [checkTurnStart_refused_iff, checked_of_unexpired found kept.1 (kept.2 rfl)]
  exact limit

theorem refused_accounts {m : Moments K} {e : BudgetExceeded} (refused : (checkTurnStart cfg g u m).2 = .error e) (v : String) :
    (checkTurnStart cfg g u m).1.tasks.get? v = (g.gc cfg m).tasks.get? v ∨
      v = u ∧ (cfg.maxTurnsPerTask ≤ 0 ∨ cfg.maxTokensPerTask < 0) ∧
        (∀ b, (g.gc cfg m).tasks.get? u = some b → b.stale cfg m.seen = true) ∧
        (checkTurnStart cfg g u m).1.tasks.get? v = some (g.fresh u m.opened) := by
  have limit := (checkTurnStart_refused_iff cfg g m u).mp ⟨e, refused⟩
  rw [checkTurnStart_get?]
  by_cases same : v = u
  · rw [if_pos same, if_pos limit]
    rcases current_cases cfg (g.gc cfg m) m u with ⟨new, expired⟩ | ⟨held, _⟩
    · have fresh : g.checked cfg u m = g.fresh u m.opened := new
      rw [fresh] at limit ⊢
      exact .inr ⟨same, (fresh_atLimit_iff m.opened).mp limit, expired, rfl⟩
    · rw [same]
      exact .inl held.symm
  · rw [if_neg same]
    exact .inl rfl

theorem expired_reopens {m : Moments K} (someTurns : 0 < cfg.maxTurnsPerTask) (someTokens : 0 ≤ cfg.maxTokensPerTask)
    (expired : ∀ b, (g.gc cfg m).tasks.get? u = some b → b.stale cfg m.seen = true) :
    (checkTurnStart cfg g u m).2 = .ok ⟨1, 0⟩ := by
  have below : (g.fresh u m.opened).atLimit cfg = false := by
    rw [Bool.eq_false_iff]
    intro limit
    have := (fresh_atLimit_iff m.opened).mp limit
    omega
  rw [checkTurnStart, checked_of_expired expired, below]
  rfl

/-- What a run keeps, the guard's balance and the two sums over its history. -/
structure Accounts.Kept (cfg : BudgetConfig K) (a : Accounts K) : Prop where
  balanced : a.guard.Balanced cfg
  charges : ∀ u, a.charged u = sumOf u a.raised
  levels : ∀ u, a.guard.watermark u = sumOf u a.raised + sumOf u a.moved

theorem kept_step (a : Accounts K) (c : Call K) (kept : a.Kept cfg) : (a.step cfg c).Kept cfg where
  balanced := call_balanced kept.balanced c
  charges := by
    intro u
    have before := kept.charges u
    have charge := call_charges kept.balanced c u
    simp only [Accounts.charged, Accounts.step, tokensOf_append, sumOf_append] at before ⊢
    omega
  levels := by
    intro u
    have before := kept.levels u
    have level := call_watermark kept.balanced c u
    simp only [Accounts.step, sumOf_append]
    omega

omit [Sub K] [LT K] [DecidableLT K] in
theorem kept_init : (Accounts.init : Accounts K).Kept cfg where
  balanced := init_balanced
  charges := fun _ => rfl
  levels := fun _ => rfl

theorem Accounts.Kept.accounted (kept : a.Kept cfg) : Accounted cfg a where
  balance := fun u b found => (kept.balanced.task u b found).balance
  turns := fun u b found => (kept.balanced.task u b found).turns
  live := by
    intro u totalTokens m
    have sound := running_sound kept.balanced u m
    refine ⟨(a.guard.running u m).charged (max 0 totalTokens) m.touched, ?_, running_turns u m, ?_⟩
    · exact (observeLive_get? cfg a.guard m u u totalTokens).trans (if_pos rfl)
    · rw [charged_totalTokens sound (kept.balanced.level u), running_totalTokens]
  historical := by
    intro u totalTokens m
    refine ⟨rfl, fun v => ?_⟩
    change ((observeHistorical a.guard u totalTokens).tasks.get? v).map _ = _
    rw [observeHistorical_get?]
    by_cases same : v = u
    · rw [if_pos same, same, Option.map_map]
      rfl
    · rw [if_neg same]
  charges := kept.charges
  once := by
    intro u up
    have charges := kept.charges u
    have levels := kept.levels u
    have moved := sumOf_nonneg up
    omega
  refused := fun u m e refused => ⟨checkTurnStart_threadTotals cfg a.guard m u, refused_accounts refused⟩
  limit := by
    intro u b found limit calls along first m rest split
    rw [split, along_append] at along
    have full : (run (Accounts.step cfg) a first).Full cfg u :=
      run_invariant_along full_step first a along.1 ⟨b, found, limit⟩
    exact full_refuses full along.2.1
  reopened := fun someTurns someTokens u m expired => expired_reopens someTurns someTokens expired
  apart := by
    intro c u other
    have level := call_watermark kept.balanced c u
    have still := rise_of_other (g := a.guard) other
    rw [still.1, still.2, add_zero, add_zero] at level
    exact ⟨level, fun b found spared => call_frame other found spared⟩

theorem budget_accounting (cfg : BudgetConfig K) (calls : List (Call K)) :
    Accounted cfg (run (Accounts.step cfg) .init calls) :=
  (run_invariant kept_step calls .init kept_init).accounted

end

/-- Settings that refuse even an empty account leave it behind. -/
theorem refused_turn_opens_account : ∃ (cfg : BudgetConfig Int) (m : Moments Int),
    (∃ e, (checkTurnStart cfg .init "t" m).2 = .error e) ∧ (BudgetGuard.init : BudgetGuard Int).tasks.get? "t" = none ∧
      (checkTurnStart cfg .init "t" m).1.tasks.get? "t" = some ⟨0, 0, 0, 5⟩ :=
  ⟨⟨0, 200000, 1800⟩, ⟨fun _ => 5, 5, 5, 5⟩, ⟨_, rfl⟩, rfl, rfl⟩

end KnowledgeGap.Gateway
