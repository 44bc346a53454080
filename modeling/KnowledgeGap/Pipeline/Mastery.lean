import KnowledgeGap.Data.Config
import KnowledgeGap.Data.Schema
import KnowledgeGap.Relational.Dict
import KnowledgeGap.Relational.StableSort

namespace KnowledgeGap

open Relational

variable {K : Type}

/-- Events grouped by student and point, as `get_events_batch` returns them. -/
abbrev Batch (K : Type) := Dict (Nat × Nat) (List (EvidenceEvent K))

def byOccurredAt (a b : EvidenceEvent K) : Bool := decide (a.occurredAt ≤ b.occurredAt)

def byStudentKpOccurredAt (a b : EvidenceEvent K) : Bool :=
  lexicographic (fun a b => decide (a.studentId ≤ b.studentId))
    (lexicographic (fun a b => decide (a.kpId ≤ b.kpId)) byOccurredAt) a b

def getEvents (db : Db K) (studentId kpId : Nat) (asOf : DateTime) : List (EvidenceEvent K) :=
  stableSort byOccurredAt (db.events.select (fun e =>
    e.studentId == studentId && e.kpId == kpId && decide (e.occurredAt ≤ asOf)))

def getEventsBatch (db : Db K) (studentIds kpIds : List Nat) (asOf : DateTime) : Batch K :=
  if studentIds.isEmpty || kpIds.isEmpty then Dict.empty
  else Dict.group (fun e => (e.studentId, e.kpId))
    (stableSort byStudentKpOccurredAt (db.events.select (fun e =>
      decide (e.studentId ∈ studentIds) && decide (e.kpId ∈ kpIds) && decide (e.occurredAt ≤ asOf))))

section
variable [Field K] [LinearOrder K]

def halfLifeDays : ExamType → K
  | .midterm | .final | .makeup | .unit => (60 : Nat)
  | .diagnostic | .practice => (30 : Nat)
  | .other _ => (60 : Nat)

def effectiveWeight (cfg : Config K) (ev : EvidenceEvent K) (asOf : DateTime) : K :=
  let deltaDays := max 0 (((asOf - ev.occurredAt : Int) : K) / (day : K))
  ev.weight * cfg.pow2 (-deltaDays / halfLifeDays ev.sourceType)

def masteryOfEvents (cfg : Config K) (events : List (EvidenceEvent K)) (asOf : DateTime)
    (prior : Option K) (priorStrength : K) : Option K :=
  if events.isEmpty then none
  else
    let sums := events.foldl
      (fun s ev => (s.1 + ev.value * effectiveWeight cfg ev asOf, s.2 + effectiveWeight cfg ev asOf))
      ((0, 0) : K × K)
    if 0 < sums.2 then
      let likelihood := sums.1 / sums.2
      match prior with
      | none => some likelihood
      | some p =>
        if priorStrength ≤ 0 then some likelihood
        else some ((likelihood * events.length + p * priorStrength) / (events.length + priorStrength))
    else none

def observedMastery (cfg : Config K) (events : List (EvidenceEvent K)) (asOf : DateTime) : Option K :=
  masteryOfEvents cfg events asOf none (5 : Nat)

def masteryAt (cfg : Config K) (db : Db K) (studentId kpId : Nat) (asOf : DateTime) : Option K :=
  observedMastery cfg (getEvents db studentId kpId asOf) asOf

def evidenceCount (db : Db K) (studentId kpId : Nat) (asOf : DateTime) : Nat :=
  (getEvents db studentId kpId asOf).length

/-- One step of the trajectory: the events up to here, and the mastery at each distinct moment. -/
def extendSeries (cfg : Config K) (s : List (EvidenceEvent K) × List (DateTime × K))
    (ev : EvidenceEvent K) : List (EvidenceEvent K) × List (DateTime × K) :=
  let seen := s.1 ++ [ev]
  match observedMastery cfg seen ev.occurredAt with
  | none => (seen, s.2)
  | some m =>
    match s.2.getLast? with
    | none => (seen, s.2 ++ [(ev.occurredAt, m)])
    | some last =>
      if last.1 ≠ ev.occurredAt then (seen, s.2 ++ [(ev.occurredAt, m)])
      else (seen, s.2.dropLast ++ [(ev.occurredAt, m)])

def masterySeries (cfg : Config K) (db : Db K) (studentId kpId : Nat) (asOf : DateTime) :
    List (DateTime × K) :=
  ((getEvents db studentId kpId asOf).foldl (extendSeries cfg) ([], [])).2

end

theorem byOccurredAt_comparison : Comparison (byOccurredAt (K := K)) :=
  Comparison.ofKey EvidenceEvent.occurredAt

theorem byStudentKpOccurredAt_comparison : Comparison (byStudentKpOccurredAt (K := K)) :=
  Comparison.lexicographic (Comparison.ofKey EvidenceEvent.studentId)
    (Comparison.lexicographic (Comparison.ofKey EvidenceEvent.kpId) byOccurredAt_comparison)

theorem mem_getEvents {db : Db K} {studentId kpId : Nat} {asOf : DateTime} {e : EvidenceEvent K} :
    e ∈ getEvents db studentId kpId asOf ↔
      e ∈ db.events.rows ∧ e.studentId = studentId ∧ e.kpId = kpId ∧ e.occurredAt ≤ asOf := by
  simp [getEvents, Table.select, and_assoc]

/-- Looking one key up in the grouped prefetch is the query for that key. -/
theorem getD_getEventsBatch (db : Db K) (studentIds kpIds : List Nat) (asOf : DateTime) (s k : Nat) :
    (getEventsBatch db studentIds kpIds asOf).getD (s, k) [] =
      if s ∈ studentIds ∧ k ∈ kpIds then getEvents db s k asOf else [] := by
  unfold getEventsBatch
  by_cases asked : s ∈ studentIds ∧ k ∈ kpIds
  · have nonempty : (studentIds.isEmpty || kpIds.isEmpty) = false := by
      simp [List.ne_nil_of_mem asked.1, List.ne_nil_of_mem asked.2]
    rw [nonempty, if_pos asked]
    simp only [Bool.false_eq_true, ↓reduceIte]
    rw [Dict.getD_group, filter_stableSort byStudentKpOccurredAt_comparison, Table.select,
      List.filter_filter]
    have picked : db.events.rows.filter (fun e => decide ((e.studentId, e.kpId) = (s, k)) &&
        (decide (e.studentId ∈ studentIds) && decide (e.kpId ∈ kpIds) && decide (e.occurredAt ≤ asOf))) =
        db.events.select (fun e => e.studentId == s && e.kpId == k && decide (e.occurredAt ≤ asOf)) := by
      apply List.filter_congr
      intro e _
      rw [Bool.eq_iff_iff]
      simp only [Bool.and_eq_true, beq_iff_eq, Prod.mk.injEq, decide_eq_true_eq]
      constructor
      · rintro ⟨same, _, seen⟩
        exact ⟨same, seen⟩
      · rintro ⟨same, seen⟩
        exact ⟨same, ⟨same.1 ▸ asked.1, same.2 ▸ asked.2⟩, seen⟩
    rw [picked, getEvents]
    apply stableSort_congr
    intro a left b right
    simp only [Table.select, List.mem_filter, Bool.and_eq_true, beq_iff_eq] at left right
    have student : a.studentId = b.studentId := left.2.1.1.trans right.2.1.1.symm
    have point : a.kpId = b.kpId := left.2.1.2.trans right.2.1.2.symm
    simp [byStudentKpOccurredAt, lexicographic, student, point]
  · rw [if_neg asked]
    split
    · rfl
    · rw [Dict.getD_group, List.filter_eq_nil_iff]
      intro e member same
      simp only [mem_stableSort, Table.select, List.mem_filter, Bool.and_eq_true,
        decide_eq_true_eq] at member
      simp only [decide_eq_true_eq, Prod.mk.injEq] at same
      exact asked ⟨same.1 ▸ member.2.1.1, same.2 ▸ member.2.1.2⟩

theorem filter_getEvents (db : Db K) (s k : Nat) {asOf t : DateTime} (earlier : t ≤ asOf) :
    (getEvents db s k asOf).filter (fun e => decide (e.occurredAt ≤ t)) = getEvents db s k t := by
  unfold getEvents
  rw [filter_stableSort byOccurredAt_comparison, Table.select, List.filter_filter]
  congr 1
  apply List.filter_congr
  intro e _
  rw [Bool.eq_iff_iff]
  simp only [Bool.and_eq_true, beq_iff_eq, decide_eq_true_eq]
  constructor
  · rintro ⟨seen, same, _⟩
    exact ⟨same, seen⟩
  · rintro ⟨same, seen⟩
    exact ⟨seen, same, seen.trans earlier⟩

end KnowledgeGap
