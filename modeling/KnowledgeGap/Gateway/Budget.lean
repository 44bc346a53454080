import KnowledgeGap.Relational.Dict

namespace KnowledgeGap.Gateway

open Relational

variable {K : Type}

structure BudgetConfig (K : Type) where
  maxTurnsPerTask : Int
  maxTokensPerTask : Int
  taskIdleTtl : K

structure TaskBudget (K : Type) where
  turns : Int
  totalTokens : Int
  baselineTokens : Int
  lastActivity : K
  deriving DecidableEq

/-- What one call reads from the clock: `_gc` once for each task, then the task of the call's own thread, then for a
    new task's default, and last for the activity it writes down. -/
structure Moments (K : Type) where
  swept : String → K
  seen : K
  opened : K
  touched : K

structure Usage where
  threadId : String
  turns : Int
  totalTokens : Int
  deriving DecidableEq

structure BudgetExceeded where
  reason : String
  usage : Usage
  deriving DecidableEq

structure Allowance where
  turns : Int
  totalTokens : Int
  deriving DecidableEq

structure Interrupt where
  threadId : String
  totalTokens : Int
  budget : Int
  reason : String
  deriving DecidableEq

structure BudgetGuard (K : Type) where
  tasks : Dict String (TaskBudget K)
  threadTotals : Dict String Int

def BudgetGuard.init : BudgetGuard K := ⟨.empty, .empty⟩

def BudgetGuard.watermark (g : BudgetGuard K) (threadId : String) : Int := g.threadTotals.getD threadId 0

/-- The account a new task of the thread starts from. -/
def BudgetGuard.fresh (g : BudgetGuard K) (threadId : String) (opened : K) : TaskBudget K :=
  ⟨0, 0, g.watermark threadId, opened⟩

section
variable [Sub K] [LT K] [DecidableLT K] (cfg : BudgetConfig K)

def TaskBudget.stale (b : TaskBudget K) (now : K) : Bool := decide (cfg.taskIdleTtl < now - b.lastActivity)

def BudgetGuard.gc (g : BudgetGuard K) (m : Moments K) : BudgetGuard K :=
  { g with tasks := g.tasks.keep (fun threadId b => !b.stale cfg (m.swept threadId)) }

def BudgetGuard.snapshot (g : BudgetGuard K) (m : Moments K) : BudgetGuard K × List Usage :=
  (g.gc cfg m, (g.gc cfg m).tasks.entries.map (fun e => ⟨e.1, e.2.turns, e.2.totalTokens⟩))

def BudgetGuard.current (g : BudgetGuard K) (threadId : String) (m : Moments K) : TaskBudget K :=
  match g.tasks.get? threadId with
  | none => g.fresh threadId m.opened
  | some b => if b.stale cfg m.seen then g.fresh threadId m.opened else b

/-- The account a turn is checked against. -/
def BudgetGuard.checked (g : BudgetGuard K) (threadId : String) (m : Moments K) : TaskBudget K :=
  (g.gc cfg m).current cfg threadId m

end

section
variable (cfg : BudgetConfig K)

def turnsReason (b : TaskBudget K) : String :=
  "本次分析已连续进行 " ++ toString b.turns ++ " 轮，达到单任务上限 " ++ toString cfg.maxTurnsPerTask ++
    " 轮。已完成的部分照常保留；请稍作整理后再开始新的分析。"

def tokensReason (b : TaskBudget K) : String :=
  "本次分析已消耗约 " ++ toString b.totalTokens ++ " tokens（预算 " ++ toString cfg.maxTokensPerTask ++
    "）。已完成的部分照常保留；请整理结论后另起分析。"

def interruptReason (b : TaskBudget K) : String :=
  "token 预算 " ++ toString cfg.maxTokensPerTask ++ " 已用尽（实际 " ++ toString b.totalTokens ++
    "），本轮分析自动收尾；已完成部分照常保留"

/-- Zero tokens switch the token limit off. -/
def TaskBudget.spent (b : TaskBudget K) : Bool :=
  decide (cfg.maxTokensPerTask ≠ 0 ∧ cfg.maxTokensPerTask ≤ b.totalTokens)

def TaskBudget.atLimit (b : TaskBudget K) : Bool := decide (cfg.maxTurnsPerTask ≤ b.turns) || b.spent cfg

def refusal (threadId : String) (b : TaskBudget K) : BudgetExceeded :=
  ⟨if cfg.maxTurnsPerTask ≤ b.turns then turnsReason cfg b else tokensReason cfg b,
    threadId, b.turns, b.totalTokens⟩

def TaskBudget.counted (b : TaskBudget K) (touched : K) : TaskBudget K :=
  { b with turns := b.turns + 1, lastActivity := touched }

-- `set` on an account that is already there models the write through its reference.
def checkTurnStart [Sub K] [LT K] [DecidableLT K] (g : BudgetGuard K) (threadId : String) (m : Moments K) :
    BudgetGuard K × Except BudgetExceeded Allowance :=
  if (g.checked cfg threadId m).atLimit cfg then
    ({ g.gc cfg m with tasks := (g.gc cfg m).tasks.set threadId (g.checked cfg threadId m) },
      .error (refusal cfg threadId (g.checked cfg threadId m)))
  else
    ({ g.gc cfg m with tasks := (g.gc cfg m).tasks.set threadId ((g.checked cfg threadId m).counted m.touched) },
      .ok ⟨(g.checked cfg threadId m).turns + 1, (g.checked cfg threadId m).totalTokens⟩)

def TaskBudget.rebased (b : TaskBudget K) (totalTokens : Int) : TaskBudget K :=
  { b with baselineTokens := totalTokens - b.totalTokens }

def TaskBudget.charged (b : TaskBudget K) (totalTokens : Int) (touched : K) : TaskBudget K :=
  { b with totalTokens := max b.totalTokens (totalTokens - b.baselineTokens), lastActivity := touched }

def observeHistorical (g : BudgetGuard K) (threadId : String) (totalTokens : Int) : BudgetGuard K :=
  { tasks :=
      match g.tasks.get? threadId with
      | none => g.tasks
      | some b => g.tasks.set threadId (b.rebased (max 0 totalTokens))
    threadTotals := g.threadTotals.set threadId (max 0 totalTokens) }

-- A stale account is not reopened here: a running turn keeps the task it began in.
def BudgetGuard.running (g : BudgetGuard K) (threadId : String) (m : Moments K) : TaskBudget K :=
  (g.tasks.get? threadId).getD (g.fresh threadId m.opened)

def verdict (threadId : String) (b : TaskBudget K) : Option Interrupt :=
  if b.spent cfg then some ⟨threadId, b.totalTokens, cfg.maxTokensPerTask, interruptReason cfg b⟩ else none

def observeLive (g : BudgetGuard K) (threadId : String) (totalTokens : Int) (m : Moments K) :
    BudgetGuard K × Option Interrupt :=
  ({ tasks := g.tasks.set threadId ((g.running threadId m).charged (max 0 totalTokens) m.touched)
     threadTotals := g.threadTotals.set threadId (max (g.watermark threadId) (max 0 totalTokens)) },
    verdict cfg threadId ((g.running threadId m).charged (max 0 totalTokens) m.touched))

def observeTokenUsage (g : BudgetGuard K) (threadId : String) (totalTokens : Int) (historical : Bool)
    (m : Moments K) : BudgetGuard K × Option Interrupt :=
  if historical then (observeHistorical g threadId totalTokens, none) else observeLive cfg g threadId totalTokens m

end

/-! The notifications of a bridge. -/

inductive Notification
  | turnStarted (threadId turnId : Option String)
  | turnCompleted (threadId turnId : Option String)
  | tokenUsage (threadId usageThreadId turnId usageTurnId : Option String) (totalTokens : Option Int)
  | other

/-- Python's `a or b`, where no value and the empty string are both false. -/
def orElse (a b : Option String) : Option String := if a = none ∨ a = some "" then b else a

def truthy (a : Option String) : Option String := orElse a none

abbrev ActiveTurns := Dict String String

def ActiveTurns.follow (active : ActiveTurns) : Notification → ActiveTurns
  | .turnStarted threadId turnId =>
    match truthy threadId, truthy turnId with
    | some threadId, some turnId => active.set threadId turnId
    | _, _ => active
  | .turnCompleted threadId turnId =>
    match truthy threadId, truthy turnId with
    | some threadId, some turnId => if active.get? threadId = some turnId then active.pop threadId else active
    | _, _ => active
  | _ => active

/-- The arguments of the call of `observe_token_usage` a notification leads to. -/
structure Reading where
  threadId : String
  totalTokens : Int
  historical : Bool
  deriving DecidableEq

def ActiveTurns.reading (active : ActiveTurns) : Notification → Option Reading
  | .tokenUsage threadId usageThreadId turnId usageTurnId totalTokens =>
    match truthy (orElse threadId usageThreadId) with
    | none => none
    | some threadId =>
      if totalTokens.getD 0 = 0 then none
      else some ⟨threadId, totalTokens.getD 0,
        decide (active.get? threadId ≠ some ((orElse turnId usageTurnId).getD "None"))⟩
  | _ => none

def observeBudget (cfg : BudgetConfig K) (g : BudgetGuard K) (active : ActiveTurns) (n : Notification) (m : Moments K) :
    BudgetGuard K × Option Interrupt :=
  match active.reading n with
  | none => (g, none)
  | some r => observeTokenUsage cfg g r.threadId r.totalTokens r.historical m

end KnowledgeGap.Gateway
