import Mathlib.Algebra.Order.Group.Int
import KnowledgeGap.Protocol.Runs
import KnowledgeGap.Gateway.Budget

namespace KnowledgeGap.Gateway

open Relational Protocol

variable {K : Type}

inductive Call (K : Type)
  | turnStart (threadId : String) (m : Moments K)
  | observe (threadId : String) (totalTokens : Int) (historical : Bool) (m : Moments K)
  | gc (m : Moments K)
  | snapshot (m : Moments K)

def Call.thread : Call K → Option String
  | .turnStart threadId _ => some threadId
  | .observe threadId _ _ _ => some threadId
  | .gc _ => none
  | .snapshot _ => none

def Call.moments : Call K → Moments K
  | .turnStart _ m => m
  | .observe _ _ _ m => m
  | .gc m => m
  | .snapshot m => m

def BudgetGuard.openTokens (g : BudgetGuard K) (threadId : String) : Int :=
  ((g.tasks.get? threadId).map TaskBudget.totalTokens).getD 0

def BudgetGuard.openTurns (g : BudgetGuard K) (threadId : String) : Int :=
  ((g.tasks.get? threadId).map TaskBudget.turns).getD 0

section
variable [Sub K] [LT K] [DecidableLT K] (cfg : BudgetConfig K)

def BudgetGuard.call (g : BudgetGuard K) : Call K → BudgetGuard K
  | .turnStart threadId m => (checkTurnStart cfg g threadId m).1
  | .observe threadId totalTokens historical m => (observeTokenUsage cfg g threadId totalTokens historical m).1
  | .gc m => g.gc cfg m
  | .snapshot m => (g.snapshot cfg m).1

end

/-! What a call finds and leaves, thread by thread. -/

section
variable [Sub K] [LT K] [DecidableLT K] (cfg : BudgetConfig K) (g : BudgetGuard K) (m : Moments K) (threadId u : String)

@[simp] theorem gc_threadTotals : (g.gc cfg m).threadTotals = g.threadTotals := rfl

@[simp] theorem gc_watermark : (g.gc cfg m).watermark u = g.watermark u := rfl

@[simp] theorem gc_fresh (opened : K) : (g.gc cfg m).fresh u opened = g.fresh u opened := rfl

theorem get?_gc : (g.gc cfg m).tasks.get? u = (g.tasks.get? u).filter (fun b => !b.stale cfg (m.swept u)) :=
  Dict.get?_keep _ _ _

theorem get?_of_gc {b : TaskBudget K} (found : (g.gc cfg m).tasks.get? u = some b) : g.tasks.get? u = some b := by
  rw [get?_gc, Option.filter_eq_some_iff] at found
  exact found.1

theorem gc_of_unexpired {b : TaskBudget K} (found : g.tasks.get? u = some b) (unexpired : b.stale cfg (m.swept u) = false) :
    (g.gc cfg m).tasks.get? u = some b := by
  rw [get?_gc, found, Option.filter_some_pos]
  rw [unexpired]
  rfl

theorem current_cases : (g.current cfg threadId m = g.fresh threadId m.opened ∧
      ∀ b, g.tasks.get? threadId = some b → b.stale cfg m.seen = true) ∨
    g.tasks.get? threadId = some (g.current cfg threadId m) ∧ (g.current cfg threadId m).stale cfg m.seen = false := by
  unfold BudgetGuard.current
  cases found : g.tasks.get? threadId with
  | none => exact .inl ⟨rfl, fun b held => nomatch held⟩
  | some b =>
    cases old : b.stale cfg m.seen with
    | true =>
      refine .inl ⟨if_pos old, fun c held => ?_⟩
      rw [← Option.some.inj held]
      exact old
    | false =>
      refine .inr ?_
      simp only [old]
      exact ⟨rfl, old⟩

theorem checkTurnStart_threadTotals : (checkTurnStart cfg g threadId m).1.threadTotals = g.threadTotals := by
  unfold checkTurnStart
  cases (g.checked cfg threadId m).atLimit cfg <;> rfl

theorem checkTurnStart_get? : (checkTurnStart cfg g threadId m).1.tasks.get? u =
    if u = threadId then
      some (if (g.checked cfg threadId m).atLimit cfg then g.checked cfg threadId m
        else (g.checked cfg threadId m).counted m.touched)
    else (g.gc cfg m).tasks.get? u := by
  unfold checkTurnStart
  cases (g.checked cfg threadId m).atLimit cfg <;> exact Dict.get?_set _ _ _ _

theorem checkTurnStart_refused_iff :
    (∃ e, (checkTurnStart cfg g threadId m).2 = .error e) ↔ (g.checked cfg threadId m).atLimit cfg = true := by
  unfold checkTurnStart
  cases (g.checked cfg threadId m).atLimit cfg <;> simp

end

section
variable (cfg : BudgetConfig K) (g : BudgetGuard K) (m : Moments K) (threadId u : String) (totalTokens : Int)

theorem observeHistorical_get? : (observeHistorical g threadId totalTokens).tasks.get? u =
    if u = threadId then (g.tasks.get? threadId).map (·.rebased (max 0 totalTokens)) else g.tasks.get? u := by
  unfold observeHistorical
  cases found : g.tasks.get? threadId with
  | none =>
    by_cases same : u = threadId
    · rw [if_pos same, same]
      exact found
    · exact (if_neg same).symm
  | some b => exact Dict.get?_set _ _ _ _

theorem observeHistorical_watermark : (observeHistorical g threadId totalTokens).watermark u =
    if u = threadId then max 0 totalTokens else g.watermark u := Dict.getD_set _ _ _ _ _

theorem observeLive_get? : (observeLive cfg g threadId totalTokens m).1.tasks.get? u =
    if u = threadId then some ((g.running threadId m).charged (max 0 totalTokens) m.touched)
    else g.tasks.get? u := Dict.get?_set _ _ _ _

theorem observeLive_watermark : (observeLive cfg g threadId totalTokens m).1.watermark u =
    if u = threadId then max (g.watermark threadId) (max 0 totalTokens) else g.watermark u := Dict.getD_set _ _ _ _ _

end

/-! The balance of an account against the watermark of its thread. -/

structure TaskBudget.Sound (cfg : BudgetConfig K) (level : Int) (b : TaskBudget K) : Prop where
  begun : 0 ≤ b.turns
  turns : b.turns ≤ max 0 cfg.maxTurnsPerTask
  tokens : 0 ≤ b.totalTokens
  balance : b.baselineTokens + b.totalTokens = level

structure BudgetGuard.Balanced (cfg : BudgetConfig K) (g : BudgetGuard K) : Prop where
  level : ∀ u, 0 ≤ g.watermark u
  task : ∀ u b, g.tasks.get? u = some b → b.Sound cfg (g.watermark u)

section
variable {cfg : BudgetConfig K} {g : BudgetGuard K} {b : TaskBudget K} {level : Int}

theorem init_balanced : (BudgetGuard.init : BudgetGuard K).Balanced cfg where
  level := fun _ => le_rfl
  task := fun _ _ found => nomatch found

theorem fresh_sound (g : BudgetGuard K) (u : String) (opened : K) : (g.fresh u opened).Sound cfg (g.watermark u) where
  begun := le_rfl
  turns := le_max_left 0 _
  tokens := le_rfl
  balance := add_zero _

theorem TaskBudget.Sound.counted (sound : b.Sound cfg level) (below : b.atLimit cfg = false) (touched : K) :
    (b.counted touched).Sound cfg level where
  begun := by
    have begun := sound.begun
    change 0 ≤ b.turns + 1
    omega
  turns := by
    rw [TaskBudget.atLimit, Bool.or_eq_false_iff, decide_eq_false_iff_not] at below
    change b.turns + 1 ≤ max 0 cfg.maxTurnsPerTask
    omega
  tokens := sound.tokens
  balance := sound.balance

theorem TaskBudget.Sound.rebased (sound : b.Sound cfg level) (next : Int) : (b.rebased next).Sound cfg next where
  begun := sound.begun
  turns := sound.turns
  tokens := sound.tokens
  balance := sub_add_cancel next b.totalTokens

theorem charged_totalTokens (sound : b.Sound cfg level) (positive : 0 ≤ level) (totalTokens : Int) (touched : K) :
    (b.charged (max 0 totalTokens) touched).totalTokens = b.totalTokens + max 0 (totalTokens - level) := by
  have balance := sound.balance
  change max b.totalTokens (max 0 totalTokens - b.baselineTokens) = _
  omega

theorem TaskBudget.Sound.charged (sound : b.Sound cfg level) (positive : 0 ≤ level) (totalTokens : Int) (touched : K) :
    (b.charged (max 0 totalTokens) touched).Sound cfg (max level (max 0 totalTokens)) where
  begun := sound.begun
  turns := sound.turns
  tokens := le_max_of_le_left sound.tokens
  balance := by
    rw [charged_totalTokens sound positive]
    change b.baselineTokens + _ = _
    have balance := sound.balance
    omega

theorem running_sound (balanced : g.Balanced cfg) (u : String) (m : Moments K) :
    (g.running u m).Sound cfg (g.watermark u) := by
  unfold BudgetGuard.running
  cases found : g.tasks.get? u with
  | none => exact fresh_sound g u m.opened
  | some b => exact balanced.task u b found

theorem running_totalTokens (u : String) (m : Moments K) : (g.running u m).totalTokens = g.openTokens u := by
  unfold BudgetGuard.running BudgetGuard.openTokens
  cases g.tasks.get? u <;> rfl

theorem running_turns (u : String) (m : Moments K) : (g.running u m).turns = g.openTurns u := by
  unfold BudgetGuard.running BudgetGuard.openTurns
  cases g.tasks.get? u <;> rfl

theorem observeHistorical_balanced (balanced : g.Balanced cfg) (threadId : String) (totalTokens : Int) :
    (observeHistorical g threadId totalTokens).Balanced cfg where
  level := by
    intro u
    rw [observeHistorical_watermark]
    split
    · exact le_max_left 0 _
    · exact balanced.level u
  task := by
    intro u b found
    rw [observeHistorical_get?] at found
    rw [observeHistorical_watermark]
    by_cases same : u = threadId
    · rw [if_pos same, Option.map_eq_some_iff] at found
      obtain ⟨old, held, rfl⟩ := found
      rw [if_pos same]
      exact (balanced.task threadId old held).rebased _
    · rw [if_neg same] at found ⊢
      exact balanced.task u b found

theorem observeLive_balanced (balanced : g.Balanced cfg) (threadId : String) (totalTokens : Int) (m : Moments K) :
    (observeLive cfg g threadId totalTokens m).1.Balanced cfg where
  level := by
    intro u
    rw [observeLive_watermark]
    split
    · exact le_max_of_le_left (balanced.level threadId)
    · exact balanced.level u
  task := by
    intro u b found
    rw [observeLive_get?] at found
    rw [observeLive_watermark]
    by_cases same : u = threadId
    · rw [if_pos same] at found ⊢
      rw [← Option.some.inj found]
      exact (running_sound balanced threadId m).charged (balanced.level threadId) totalTokens m.touched
    · rw [if_neg same] at found ⊢
      exact balanced.task u b found

variable [Sub K] [LT K] [DecidableLT K]

theorem gc_balanced (balanced : g.Balanced cfg) (m : Moments K) : (g.gc cfg m).Balanced cfg where
  level := balanced.level
  task := fun u b found => balanced.task u b (get?_of_gc cfg g m u found)

theorem checked_sound (balanced : g.Balanced cfg) (threadId : String) (m : Moments K) :
    (g.checked cfg threadId m).Sound cfg (g.watermark threadId) := by
  unfold BudgetGuard.checked
  rcases current_cases cfg (g.gc cfg m) m threadId with ⟨new, _⟩ | ⟨held, _⟩
  · rw [new]
    exact fresh_sound g threadId m.opened
  · exact (gc_balanced balanced m).task threadId _ held

theorem checkTurnStart_balanced (balanced : g.Balanced cfg) (threadId : String) (m : Moments K) :
    (checkTurnStart cfg g threadId m).1.Balanced cfg := by
  have totals := checkTurnStart_threadTotals cfg g m threadId
  refine ⟨fun u => ?_, fun u b found => ?_⟩
  · rw [BudgetGuard.watermark, totals]
    exact balanced.level u
  · rw [checkTurnStart_get?] at found
    rw [BudgetGuard.watermark, totals]
    by_cases same : u = threadId
    · rw [if_pos same] at found
      rw [← Option.some.inj found, same]
      have sound := checked_sound balanced threadId m
      cases limit : (g.checked cfg threadId m).atLimit cfg with
      | true => exact sound
      | false => exact sound.counted limit m.touched
    · rw [if_neg same] at found
      exact (gc_balanced balanced m).task u b found

theorem call_balanced (balanced : g.Balanced cfg) (c : Call K) : (g.call cfg c).Balanced cfg := by
  cases c with
  | turnStart threadId m => exact checkTurnStart_balanced balanced threadId m
  | observe threadId totalTokens historical m =>
    cases historical with
    | true => exact observeHistorical_balanced balanced threadId totalTokens
    | false => exact observeLive_balanced balanced threadId totalTokens m
  | gc m => exact gc_balanced balanced m
  | snapshot m => exact gc_balanced balanced m

end

/-! The bridges drive the guard through its calls only. -/

structure Hub (K : Type) where
  guard : BudgetGuard K
  bridges : Dict String ActiveTurns

section
variable [Sub K] [LT K] [DecidableLT K] (cfg : BudgetConfig K)

structure Heard (K : Type) where
  bridge : String
  notification : Notification
  m : Moments K

def Hub.active (h : Hub K) (bridge : String) : ActiveTurns := h.bridges.getD bridge .empty

def Hub.hear (h : Hub K) (e : Heard K) : Hub K :=
  { guard := (observeBudget cfg h.guard (h.active e.bridge) e.notification e.m).1
    bridges := h.bridges.set e.bridge ((h.active e.bridge).follow e.notification) }

def Reading.call (m : Moments K) (r : Reading) : Call K := .observe r.threadId r.totalTokens r.historical m

def Hub.calls (h : Hub K) (e : Heard K) : List (Call K) :=
  ((h.active e.bridge).reading e.notification).toList.map (Reading.call e.m)

theorem hear_guard (h : Hub K) (e : Heard K) : (h.hear cfg e).guard = run (BudgetGuard.call cfg) h.guard (h.calls e) := by
  unfold Hub.hear Hub.calls observeBudget
  cases (h.active e.bridge).reading e.notification <;> rfl

theorem hub_guard (heard : List (Heard K)) (h : Hub K) :
    ∃ calls, (run (Hub.hear cfg) h heard).guard = run (BudgetGuard.call cfg) h.guard calls := by
  induction heard generalizing h with
  | nil => exact ⟨[], rfl⟩
  | cons e heard ih =>
    obtain ⟨calls, rest⟩ := ih (h.hear cfg e)
    refine ⟨h.calls e ++ calls, ?_⟩
    rw [run_cons, rest, hear_guard, run_append]

end

end KnowledgeGap.Gateway
