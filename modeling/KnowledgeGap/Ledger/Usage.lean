import KnowledgeGap.Data.Integer
import KnowledgeGap.Data.Time
import KnowledgeGap.Ingestion.PhotoScores
import KnowledgeGap.Relational.StableSort
import KnowledgeGap.Relational.Totals

namespace KnowledgeGap.Ledger

open Relational Ingestion

/-! The months of the calendar. -/

/-- The day `civil` gives the year, the month and the day of. -/
def ofCivil (year month dayOfMonth : Int) : Date :=
  let y := if month ≤ 2 then year - 1 else year
  let era := y / 400
  let yoe := y % 400
  let doy := (153 * (if 2 < month then month - 3 else month + 9) + 2) / 5 + dayOfMonth - 1
  era * 146097 + (yoe * 365 + yoe / 4 - yoe / 100 + doy) - 719468

example : civil (ofCivil 2024 2 29) = (2024, 2, 29) := by decide

def fitsCInt (n : Int) : Bool := decide (-2 ^ 31 ≤ n ∧ n < 2 ^ 31)

/-- `date(year, month, 1)` -/
def firstOf (year month : Int) : Except PyError Date :=
  if fitsCInt year && fitsCInt month then
    if 1 ≤ year ∧ year ≤ 9999 ∧ 1 ≤ month ∧ month ≤ 12 then .ok (ofCivil year month 1) else .error .valueError
  else .error .overflowError

/-- `_month_range`; the two digits of December are compared as they were written. -/
def monthRange (t : Characters) (month : String) : Except PyError (Date × Date) :=
  match month.toList.splitOn '-' with
  | [y, m] =>
    match t.readInt (String.ofList y), t.readInt (String.ofList m) with
    | some year, some number =>
      (firstOf year number).bind fun first =>
        (if m = ['1', '2'] then firstOf (year + 1) 1 else firstOf year (number + 1)).map fun next => (first, next)
    | _, _ => .error .valueError
  | _ => .error .valueError

/-- A month the ledger can be asked for. -/
structure Month (t : Characters) where
  text : String
  first : Date
  next : Date
  read : monthRange t text = .ok (first, next)

/-! The ledger. -/

inductive CallStatus
  | success
  | error
  | circuitOpen
  deriving DecidableEq, Repr

structure LlmCallLog where
  id : Nat
  moment : DateTime
  task : String
  status : CallStatus
  promptTokens : Option Int
  completionTokens : Option Int

def LlmCallLog.tokens (r : LlmCallLog) : Int := r.promptTokens.getD 0 + r.completionTokens.getD 0

def LlmCallLog.date (r : LlmCallLog) : String := isoDate (dateOf r.moment)

def inMonth (first next : Date) (r : LlmCallLog) : Bool := decide (first * day ≤ r.moment ∧ r.moment < next * day)

/-- The rows both queries go over. -/
def counted (first next : Date) (ledger : List LlmCallLog) : List LlmCallLog :=
  ledger.filter (fun r => inMonth first next r && decide (r.status = .success))

structure Figures where
  calls : Nat
  promptTokens : Int
  completionTokens : Int
  deriving DecidableEq, Repr

/-- What a group of rows is summed up to; columns that are null count nothing. -/
def figures (rows : List LlmCallLog) : Figures where
  calls := rows.length
  promptTokens := (rows.map (fun r => r.promptTokens.getD 0)).sum
  completionTokens := (rows.map (fun r => r.completionTokens.getD 0)).sum

def Figures.plus (x y : Figures) : Figures :=
  ⟨x.calls + y.calls, x.promptTokens + y.promptTokens, x.completionTokens + y.completionTokens⟩

structure DayUsage where
  date : String
  byTask : Dict String Figures
  totals : Figures

def DayUsage.none (date : String) : DayUsage := ⟨date, .empty, ⟨0, 0, 0⟩⟩

def DayUsage.add (bucket : DayUsage) (task : String) (row : Figures) : DayUsage :=
  { bucket with byTask := bucket.byTask.set task row, totals := bucket.totals.plus row }

/-- `GROUP BY day, task ORDER BY day` -/
def dayRows (rows : List LlmCallLog) : List ((String × String) × Figures) :=
  stableSort (lexicographic (fun a b => decide (a.1.1 ≤ b.1.1)) (fun a b => decide (a.1.2 ≤ b.1.2)))
    ((Dict.group (fun r : LlmCallLog => (r.date, r.task)) rows).entries.map (fun e => (e.1, figures e.2)))

def buckets (rows : List LlmCallLog) : Dict String DayUsage :=
  (dayRows rows).foldl (fun d e => d.set e.1.1 ((d.getD e.1.1 (.none e.1.1)).add e.1.2 e.2)) .empty

/-- `GROUP BY task` -/
def taskRows (rows : List LlmCallLog) : List (String × Figures) :=
  (Dict.group LlmCallLog.task rows).entries.map (fun e => (e.1, figures e.2))

def totalOf (byTask : List (String × Figures)) : Figures where
  calls := (byTask.map (fun e => e.2.calls)).sum
  promptTokens := (byTask.map (fun e => e.2.promptTokens)).sum
  completionTokens := (byTask.map (fun e => e.2.completionTokens)).sum

structure UsageReport where
  month : String
  days : List DayUsage
  byTask : List (String × Figures)
  total : Figures

def reportOf (month : String) (rows : List LlmCallLog) : UsageReport where
  month := month
  days := (stableSort (fun a b => decide (a.1 ≤ b.1)) (buckets rows).entries).map Prod.snd
  byTask := stableSort (fun a b => decide (a.1 ≤ b.1)) (taskRows rows)
  total := totalOf (taskRows rows)

def usageByDayTask (t : Characters) (ledger : List LlmCallLog) (month : String) : Except PyError UsageReport :=
  (monthRange t month).map fun range => reportOf month (counted range.1 range.2 ledger)

/-- `max(.., key=..)`: of the largest ones the first. -/
def topTask : List (String × Figures) → Option (String × Figures)
  | [] => none
  | e :: rest => some (rest.foldl (fun best e => if best.2.promptTokens < e.2.promptTokens then e else best) e)

section
variable {K : Type}

def Figures.json (x : Figures) : List (String × Json K) :=
  [("calls", .int x.calls), ("prompt_tokens", .int x.promptTokens), ("completion_tokens", .int x.completionTokens)]

def topJson : Option (String × Figures) → Json K
  | some e => .obj (("task", .str e.1) :: e.2.json)
  | none => .null

def summaryOf (month : String) (report : UsageReport) : List (String × Json K) :=
  [("month", .str month), ("total", .obj report.total.json), ("top_task", topJson (topTask report.byTask))]

def usageSummaryMonth (t : Characters) (ledger : List LlmCallLog) (month : String) : Except PyError (List (String × Json K)) :=
  (usageByDayTask t ledger month).map (summaryOf month)

end

/-! What a month has used. -/

/-- The tokens the successful calls of the month used. -/
def spent (first next : Date) (ledger : List LlmCallLog) : Int := ((counted first next ledger).map LlmCallLog.tokens).sum

theorem taskRows_sum (weigh : LlmCallLog → Int) (part : Figures → Int) (same : ∀ rows, part (figures rows) = (rows.map weigh).sum)
    (rows : List LlmCallLog) : ((taskRows rows).map (fun e => part e.2)).sum = (rows.map weigh).sum := by
  rw [← Dict.total_group LlmCallLog.task weigh rows, taskRows, List.map_map, Dict.total]
  congr 1
  apply List.map_congr_left
  intro e _
  exact same e.2

theorem totalOf_spent (rows : List LlmCallLog) :
    (totalOf (taskRows rows)).promptTokens + (totalOf (taskRows rows)).completionTokens = (rows.map LlmCallLog.tokens).sum := by
  have prompts := taskRows_sum (fun r => r.promptTokens.getD 0) Figures.promptTokens (fun _ => rfl) rows
  have completions := taskRows_sum (fun r => r.completionTokens.getD 0) Figures.completionTokens (fun _ => rfl) rows
  have both : (rows.map LlmCallLog.tokens).sum =
      (rows.map (fun r => r.promptTokens.getD 0)).sum + (rows.map (fun r => r.completionTokens.getD 0)).sum := List.sum_map_add
  rw [both, ← prompts, ← completions]
  rfl

theorem Month.range {t : Characters} (m : Month t) (ledger : List LlmCallLog) :
    usageByDayTask t ledger m.text = .ok (reportOf m.text (counted m.first m.next ledger)) := by
  rw [usageByDayTask, m.read]
  rfl

/-- The total a summary shows is what the month has used. -/
theorem summary_total {t : Characters} (m : Month t) (ledger : List LlmCallLog) : ∃ report : UsageReport,
    usageByDayTask t ledger m.text = .ok report ∧
      report.total.promptTokens + report.total.completionTokens = spent m.first m.next ledger :=
  ⟨_, m.range ledger, totalOf_spent _⟩

theorem Month.summary {K : Type} {t : Characters} (m : Month t) (ledger : List LlmCallLog) :
    usageSummaryMonth (K := K) t ledger m.text = .ok (summaryOf m.text (reportOf m.text (counted m.first m.next ledger))) := by
  rw [usageSummaryMonth, m.range ledger]
  rfl

end KnowledgeGap.Ledger
