import KnowledgeGap.Intervention.LateExam
import KnowledgeGap.Intervention.Operate
import KnowledgeGap.Protocol.Runs

namespace KnowledgeGap

open Relational Protocol
open Kb (AccessContext)

/-- The label of the group around a root, when a generation names no report. -/
def groupLabel (root : Nat) : String := "r" ++ toString 0 ++ ":" ++ toString root

theorem groupLabel_injective {left right : Nat} (same : groupLabel left = groupLabel right) : left = right :=
  toString_injective ((String.append_right_inj _).mp same)

/-- Every grouped row of a pupil is in the group of its root, and that group is `Wide`. -/
def InWideGroups (Wide : Nat → Prop) (individual : Dict Nat (List ActionRow)) : Prop :=
  ∀ sid, ∀ row ∈ individual.getD sid [], row.scope = .group → ∃ root, row.rootKpId = some root ∧ Wide root

theorem mem_joinGroup {root size : Nat} {rows : List ActionRow} {row : ActionRow}
    (listed : row ∈ joinGroup root size rows) : row ∈ rows ∨ row.rootKpId = some root := by
  unfold joinGroup at listed
  induction rows with
  | nil => cases listed
  | cons first rows ih =>
    rw [List.findIdx_cons] at listed
    cases shares : sharesRoot root first with
    | true =>
      rw [shares, cond_true, List.modify_zero_cons] at listed
      rcases List.mem_cons.mp listed with same | rest
      · right
        simp only [sharesRoot, Bool.and_eq_true, decide_eq_true_eq] at shares
        rw [same]
        exact shares.2
      · exact Or.inl (List.mem_cons_of_mem _ rest)
    | false =>
      rw [shares, cond_false, List.modify_succ_cons] at listed
      rcases List.mem_cons.mp listed with same | rest
      · exact Or.inl (same ▸ List.mem_cons_self)
      · rcases ih rest with old | joined
        · exact Or.inl (List.mem_cons_of_mem _ old)
        · exact Or.inr joined

theorem joinMembers_inWideGroups {Wide : Nat → Prop} {root : Nat} (wide : Wide root) (size : Nat)
    (members : List (Nat × Nat)) {individual : Dict Nat (List ActionRow)} (before : InWideGroups Wide individual) :
    InWideGroups Wide (joinMembers root size members individual) := by
  unfold joinMembers
  induction members generalizing individual with
  | nil => exact before
  | cons m members ih =>
    apply ih
    intro sid row listed grouped
    rw [Dict.getD_set] at listed
    split at listed
    · rcases mem_joinGroup listed with old | joined
      · exact before m.2 row old grouped
      · exact ⟨root, joined, wide⟩
    · exact before sid row listed grouped

theorem clusterRows_inWideGroups {Wide : Nat → Prop} {groupMin : Nat} {groups : Dict Nat (List (Nat × Nat))}
    (wide : ∀ e ∈ groups.entries, groupMin ≤ e.2.length → Wide e.1) {individual : Dict Nat (List ActionRow)}
    (before : InWideGroups Wide individual) : InWideGroups Wide (clusterRows groupMin groups individual) := by
  unfold clusterRows
  generalize groups.entries = entries at wide
  induction entries generalizing individual with
  | nil => exact before
  | cons e entries ih =>
    refine ih ?_ (fun other listed => wide other (List.mem_cons_of_mem _ listed))
    dsimp only
    split
    · exact before
    · rename_i small
      exact joinMembers_inWideGroups (wide e List.mem_cons_self (not_lt.mp small)) _ _ before

/-- The root of a suggestion that can be met in a group, with the pupil it is made to. -/
def backfillRoot (sid : Nat) (row : ActionRow) : Option (Nat × Nat) :=
  if row.kind = .prereqBackfill then row.rootKpId.map (fun root => (root, sid)) else none

theorem countP_backfillRoot (root sid : Nat) (rows : List ActionRow) :
    (rows.filterMap (backfillRoot sid)).countP (fun m => decide (m.1 = root)) = rows.countP (sharesRoot root) := by
  induction rows with
  | nil => rfl
  | cons row rows ih =>
    rw [List.filterMap_cons, List.countP_cons, ← ih]
    by_cases kind : row.kind = .prereqBackfill
    · cases source : row.rootKpId with
      | none => simp [backfillRoot, kind, source, sharesRoot]
      | some other => simp [backfillRoot, kind, source, sharesRoot, List.countP_cons]
    · simp [backfillRoot, kind, sharesRoot]

theorem length_groupMembers {committed : List Nat} {individual : Dict Nat (List ActionRow)} {e : Nat × List (Nat × Nat)}
    (entry : e ∈ (groupMembers committed individual).entries) :
    0 < e.2.length ∧ e.2.length = (committed.flatMap (fun sid => individual.getD sid [])).countP (sharesRoot e.1) := by
  rcases (Dict.mem_entries_group _ _ _ _).mp entry with ⟨nonempty, members⟩
  refine ⟨List.length_pos_iff.mpr nonempty, ?_⟩
  rw [members, ← List.countP_eq_length_filter, List.countP_flatMap, List.countP_flatMap]
  congr 2
  funext sid
  exact countP_backfillRoot e.1 sid (individual.getD sid [])

variable {K : Type}

theorem keepRow_scope {db : Db K} {done : Dict (Nat × Nat × InterventionKind) Intervention} {asOf : DateTime}
    {studentId : Nat} {row kept : ActionRow} (keeps : keepRow db done asOf studentId row = some kept) :
    kept.scope = row.scope := by
  unfold keepRow at keeps
  split at keeps
  · cases keeps
    rfl
  · split at keeps
    · cases keeps
      rfl
    · cases keeps

section
variable [Field K] [LinearOrder K] [FloorRing K] (cfg : Config K) (db : Db K) (g : KpGraph K) (classId : Nat)

/-- How many of the suggestions still to be made to the pupils of an exam go back to a root. -/
def rootShares (round : Round K) (root : Nat) : Nat :=
  ((committedIds db round.examId).flatMap (keptRows cfg db g (keptDone db.interventions g classId) classId round.asOf
    round.eventsBySk)).countP (sharesRoot root)

/-- The exam makes a group around the root. -/
def Regroups (round : Round K) (root : Nat) : Prop :=
  0 < rootShares cfg db g classId round root ∧ cfg.actionGroupMin ≤ rootShares cfg db g classId round root

omit [FloorRing K] in
theorem classRow_scope {nAssessed : Dict Nat Nat} {e : Nat × Nat} {row : ActionRow}
    (made : classRow (K := K) nAssessed e = some row) : row.scope = .wholeClass := by
  unfold classRow at made
  dsimp only at made
  split at made
  · cases made
    rfl
  · cases made

theorem keptRows_scope {done : Dict (Nat × Nat × InterventionKind) Intervention} {asOf : DateTime}
    {eventsBySk : Option (Batch K)} {sid : Nat} {row : ActionRow}
    (listed : row ∈ keptRows cfg db g done classId asOf eventsBySk sid) : row.scope = .student := by
  rcases List.mem_filterMap.mp listed with ⟨made, asked, keeps⟩
  rcases List.mem_filterMap.mp asked with ⟨a, _, acted⟩
  rw [keepRow_scope keeps]
  exact (actionFor_some acted).2.2.1

theorem planOf_group {round : Round K} {row : ActionRow} (listed : row ∈ (planOf cfg db g classId round).rows)
    (grouped : row.scope = .group) : ∃ root, row.rootKpId = some root ∧ Regroups cfg db g classId round root := by
  unfold planOf makePlan at listed
  dsimp only at listed
  rcases List.mem_append.mp listed with shared | own
  · rcases List.mem_filterMap.mp shared with ⟨e, _, made⟩
    rw [classRow_scope made] at grouped
    cases grouped
  · rcases List.mem_flatMap.mp own with ⟨sid, committed, mine⟩
    have kept : ∀ sid ∈ committedIds db round.examId, (Dict.ofList ((committedIds db round.examId).map (fun sid =>
        (sid, keptRows cfg db g (keptDone db.interventions g classId) classId round.asOf round.eventsBySk sid)))).getD
          sid [] = keptRows cfg db g (keptDone db.interventions g classId) classId round.asOf round.eventsBySk sid :=
      fun sid committed => individual_getD cfg db g _ classId round.examId round.asOf round.eventsBySk committed
    refine clusterRows_inWideGroups ?_ ?_ sid row mine grouped
    · intro e entry enough
      rcases length_groupMembers entry with ⟨positive, counted⟩
      rw [List.flatMap_congr kept] at counted
      rw [counted] at positive enough
      exact ⟨positive, enough⟩
    · intro sid row listed grouped
      rw [Dict.getD, Dict.get?_tabulate] at listed
      split at listed
      · rw [Option.getD_some] at listed
        rw [keptRows_scope cfg db g classId listed] at grouped
        cases grouped
      · cases listed

/-- A row of the class that a generation leaves as it is: it is carried out, or it is open and outside the graph, or
    it is the newest of its need and the exam has nothing to tell of that need. -/
def Untouched (round : Round K) (r : Intervention) : Prop :=
  r.status = .done ∨ r.status = .suggested ∧
    (r.kpId ∉ g.kpIds ∨
      CarriedOver db.interventions g classId round.examId r.key r ∧ ¬ Judges cfg db g classId round r.key)

/-- A row that stands after a generation was written by it or was there before. -/
theorem hold_standing {round : Round K} (active : Active cfg db round) {now : DateTime} {r : Intervention}
    (stored : r ∈ (hold cfg db g classId round now db.interventions).rows) (standing : r.status ≠ .skipped) :
    (∃ row ∈ (planOf cfg db g classId round).rows, Filed (purge db.interventions g classId round.examId) g classId
        round.examId round.sourceReportId round.asOf now row r) ∨
      r ∈ db.interventions.rows ∧ ¬ (r.examId = round.examId ∧ pendingIn g classId r = true) ∧
        (r.classId = classId → Untouched cfg db g classId round r) := by
  have planned := planOf_planned cfg db g classId round
  rw [hold_active cfg db g classId active rfl] at stored
  unfold carryOut at stored
  cases pending : pendingIn g classId r with
  | true =>
    rcases applyPlan_open planned.distinct stored pending with ⟨before, latest, unasked, kept⟩ | written
    · right
      have carried := carriedOver_iff.mpr ⟨before, pending, rfl, latest⟩
      have unjudged : ¬ Judges cfg db g classId round r.key := by
        rw [← planOf_judges_iff]
        exact not_judges_iff.mpr ⟨unasked, kept⟩
      refine ⟨carried.1, fun purged => carried.2.2.1 purged.1, fun _ => Or.inr ⟨?_, Or.inr ⟨carried, unjudged⟩⟩⟩
      exact (pendingIn_iff.mp pending).2.2
    · exact Or.inl written
  | false =>
    right
    have settled : ¬ (r.examId = round.examId ∧ false = true) := fun purged => Bool.false_ne_true purged.2
    by_cases done : isDone r = true
    · have kept := List.mem_filter.mpr ⟨stored, done⟩
      rw [show List.filter isDone _ = _ from applyPlan_done planned.distinct,
        show _ = List.filter isDone _ from purge_select isDone_settled] at kept
      refine ⟨List.mem_of_mem_filter kept, settled, fun _ => Or.inl ?_⟩
      simpa [isDone] using done
    · have open_ : r.status = .suggested := by
        cases status : r.status with
        | suggested => rfl
        | done => simp [isDone, status] at done
        | skipped => exact absurd status standing
      have outside : isOutside g classId r = true := by
        unfold isOutside
        rw [decide_eq_true_iff]
        by_contra inside
        rw [not_or, not_not, not_not] at inside
        rw [pendingIn_iff.mpr ⟨inside.1, inside.2, open_⟩] at pending
        cases pending
      have kept := List.mem_filter.mpr ⟨stored, outside⟩
      rw [show List.filter (isOutside g classId) _ = _ from applyPlan_outside planned.distinct planned.inside,
        show _ = List.filter (isOutside g classId) _ from purge_select isOutside_settled] at kept
      refine ⟨List.mem_of_mem_filter kept, settled, fun own => Or.inr ⟨open_, Or.inl ?_⟩⟩
      intro known
      rw [pendingIn_iff.mpr ⟨own, known, open_⟩] at pending
      cases pending

end

/-- The group a row was put in: the generation that wrote it, and the root it was made around. -/
structure Grouping where
  generation : Nat
  root : Option Nat
  deriving DecidableEq, Repr

/-- The table of interventions, with what the program does not keep: how many generations there were, and which
    of them wrote each row last. -/
structure Ledger where
  table : Table Intervention
  generations : Nat
  grouping : Nat → Grouping

def Ledger.empty : Ledger := ⟨.empty, 0, fun _ => ⟨0, none⟩⟩

/-- The root of the group that a plan puts a need in. -/
def Plan.rootOf (plan : Plan) (key : Option Nat × Nat) : Option Nat :=
  (plan.rows.find? (fun row => decide (row.key = key))).bind
    (fun row => if row.scope = .group then row.rootKpId else none)

/-- The rows a generation has written are the open ones of its exam. -/
def Ledger.record (l : Ledger) (g : KpGraph K) (classId examId : Nat) (plan : Plan) (after : Table Intervention) :
    Ledger where
  table := after
  generations := l.generations + 1
  grouping id :=
    match (openOfExam after g classId examId).find? (fun r => r.id == id) with
    | some r => ⟨l.generations + 1, plan.rootOf r.key⟩
    | none => l.grouping id

inductive Move (K : Type)
  | commit (env : Db K) (g : KpGraph K) (exam : ExamTemplate) (eventsBySk : Option (Batch K)) (now : DateTime)
  | operate (dir : Directory) (ctx : AccessContext) (id : Nat) (withGroup : Bool) (now : DateTime) (op : Operation)

def Together (l : Ledger) (r s : Intervention) : Prop := l.grouping r.id = l.grouping s.id ∧ r.examId = s.examId

instance (l : Ledger) (r s : Intervention) : Decidable (Together l r s) := inferInstanceAs (Decidable (_ ∧ _))

/-- Standing rows of a class carry one label only if one generation grouped them for one exam. -/
def Grouped (l : Ledger) : Prop :=
  ∀ r ∈ l.table.rows, ∀ s ∈ l.table.rows, r.status ≠ .skipped → s.status ≠ .skipped → r.classId = s.classId →
    r.groupRef = s.groupRef → r.groupRef ≠ none → Together l r s

theorem grouped_empty : Grouped .empty := by
  intro r stored
  cases stored

section
variable {l : Ledger} {g : KpGraph K} {classId examId : Nat} {plan : Plan} {after : Table Intervention}

theorem find_openOfExam {r : Intervention} (stored : r ∈ after.rows) :
    (openOfExam after g classId examId).find? (fun s => s.id == r.id) =
      if r.examId = examId ∧ pendingIn g classId r = true then some r else none := by
  split
  · rename_i written
    have listed : r ∈ openOfExam after g classId examId := mem_openOfExam.mpr ⟨stored, written⟩
    cases search : (openOfExam after g classId examId).find? (fun s => s.id == r.id) with
    | none => simpa using List.find?_eq_none.mp search r listed
    | some s =>
      have id : s.id = r.id := by simpa using List.find?_some search
      have member := (mem_openOfExam.mp (List.mem_of_find?_eq_some search)).1
      rw [after.key_inj member stored id]
  · rename_i unwritten
    rw [List.find?_eq_none]
    intro s listed same
    have id : s.id = r.id := by simpa using same
    rcases mem_openOfExam.mp listed with ⟨member, written⟩
    rw [after.key_inj member stored id] at written
    exact unwritten written

theorem record_written {r : Intervention} (stored : r ∈ after.rows) (exam : r.examId = examId)
    (pending : pendingIn g classId r = true) :
    (l.record g classId examId plan after).grouping r.id = ⟨l.generations + 1, plan.rootOf r.key⟩ := by
  unfold Ledger.record
  dsimp only
  rw [find_openOfExam stored, if_pos ⟨exam, pending⟩]

theorem record_unwritten {r : Intervention} (stored : r ∈ after.rows)
    (unwritten : ¬ (r.examId = examId ∧ pendingIn g classId r = true)) :
    (l.record g classId examId plan after).grouping r.id = l.grouping r.id := by
  unfold Ledger.record
  dsimp only
  rw [find_openOfExam stored, if_neg unwritten]

theorem rootOf_planned (distinct : (plan.rows.map ActionRow.key).Nodup) {row : ActionRow} (listed : row ∈ plan.rows) :
    plan.rootOf row.key = if row.scope = .group then row.rootKpId else none := by
  unfold Plan.rootOf
  cases search : plan.rows.find? (fun other => decide (other.key = row.key)) with
  | none => simpa using List.find?_eq_none.mp search row listed
  | some found =>
    have same : found.key = row.key := by simpa using List.find?_some search
    have equal := List.inj_on_of_nodup_map distinct (List.mem_of_find?_eq_some search) listed same
    rw [equal, Option.bind_some]

end

theorem groupRef_label {row : ActionRow} {root : Nat} (grouped : row.scope = .group) (source : row.rootKpId = some root) :
    groupRef none row = some (groupLabel root) := by
  simp [groupRef, grouped, source, groupLabel]

theorem Filed.label {t : Table Intervention} {g : KpGraph K} {classId examId : Nat} {sourceReportId : Option Nat}
    {asOf now : DateTime} {row : ActionRow} {after : Intervention}
    (filed : Filed t g classId examId sourceReportId asOf now row after) :
    after.groupRef = groupRef sourceReportId row := by
  rcases filed with ⟨r, _, _, _, _, rfl⟩ | ⟨_, n, rfl⟩
  · rfl
  · rfl

section
variable [Field K] [LinearOrder K] [FloorRing K] (cfg : Config K)

instance (db : Db K) (round : Round K) : Decidable (Active cfg db round) := inferInstanceAs (Decidable (_ ∧ _))

def Ledger.over (l : Ledger) (env : Db K) : Db K := { env with interventions := l.table }

/-- A diagnostic task ends before the interventions, and an operation that is refused changes nothing. -/
def Ledger.step (l : Ledger) : Move K → Ledger
  | .commit env g exam eventsBySk now =>
    if exam.source = .diagnosticTask then l
    else
      let round := roundOf exam none eventsBySk
      let after := hold cfg (l.over env) g exam.classId round now l.table
      if Active cfg (l.over env) round then
        l.record g exam.classId exam.id (planOf cfg (l.over env) g exam.classId round) after
      else { l with table := after }
  | .operate dir ctx id withGroup now op =>
    match operate dir ctx l.table id withGroup now op with
    | .ok (after, _) => { l with table := after }
    | .error _ => l

/-- Where an exam makes a group around a root, no row that stands under that label is left over from before. -/
def Fresh (l : Ledger) : Move K → Prop
  | .commit env g exam eventsBySk _ =>
    let round := roundOf exam none eventsBySk
    exam.source ≠ .diagnosticTask → Active cfg (l.over env) round →
      ∀ root, Regroups cfg (l.over env) g exam.classId round root → ∀ r ∈ l.table.rows, r.classId = exam.classId →
        r.groupRef = some (groupLabel root) → ¬ Untouched cfg (l.over env) g exam.classId round r
  | .operate .. => True

section
variable {cfg} {l : Ledger} {env : Db K} {g : KpGraph K} {exam : ExamTemplate} {eventsBySk : Option (Batch K)}
  {now : DateTime}

theorem step_commit (ordinary : exam.source ≠ .diagnosticTask)
    (active : Active cfg (l.over env) (roundOf exam none eventsBySk)) :
    l.step cfg (.commit env g exam eventsBySk now) =
      l.record g exam.classId exam.id (planOf cfg (l.over env) g exam.classId (roundOf exam none eventsBySk))
        (hold cfg (l.over env) g exam.classId (roundOf exam none eventsBySk) now l.table) := by
  dsimp only [Ledger.step]
  rw [if_neg ordinary, if_pos active]

theorem step_commit_idle
    (idle : ¬ (exam.source ≠ .diagnosticTask ∧ Active cfg (l.over env) (roundOf exam none eventsBySk))) :
    l.step cfg (.commit env g exam eventsBySk now) = l := by
  dsimp only [Ledger.step]
  split
  · rfl
  · rename_i ordinary
    have inactive : ¬ Active cfg (l.over env) (roundOf exam none eventsBySk) := fun active => idle ⟨ordinary, active⟩
    rw [if_neg inactive, hold_idle cfg (l.over env) g exam.classId inactive]

/-- A labelled row that stands after a commit was put in the group of its label by it, or is left over from before. -/
theorem commit_row (ordinary : exam.source ≠ .diagnosticTask)
    (active : Active cfg (l.over env) (roundOf exam none eventsBySk)) {r : Intervention}
    (stored : r ∈ (l.step cfg (.commit env g exam eventsBySk now)).table.rows) (standing : r.status ≠ .skipped)
    (labelled : r.groupRef ≠ none) :
    (∃ root, Regroups cfg (l.over env) g exam.classId (roundOf exam none eventsBySk) root ∧
        r.groupRef = some (groupLabel root) ∧ r.classId = exam.classId ∧ r.examId = exam.id ∧
        (l.step cfg (.commit env g exam eventsBySk now)).grouping r.id = ⟨l.generations + 1, some root⟩) ∨
      r ∈ l.table.rows ∧ (l.step cfg (.commit env g exam eventsBySk now)).grouping r.id = l.grouping r.id ∧
        (r.classId = exam.classId → Untouched cfg (l.over env) g exam.classId (roundOf exam none eventsBySk) r) := by
  rw [step_commit ordinary active] at stored ⊢
  have held : r ∈ (hold cfg (l.over env) g exam.classId (roundOf exam none eventsBySk) now l.table).rows := stored
  rcases hold_standing cfg (l.over env) g exam.classId active held standing with
    ⟨row, listed, filed⟩ | ⟨old, unwritten, left⟩
  · left
    have planned := planOf_planned cfg (l.over env) g exam.classId (roundOf exam none eventsBySk)
    rcases filed.frame (planned.inside row listed) with ⟨pending, key, exam_⟩
    have own : r.examId = exam.id := exam_
    have label : r.groupRef = groupRef none row := filed.label
    have grouped : row.scope = .group := by
      by_contra single
      apply labelled
      rw [label, groupRef, if_neg single]
    rcases planOf_group cfg (l.over env) g exam.classId listed grouped with ⟨root, source, regroups⟩
    refine ⟨root, regroups, label.trans (groupRef_label grouped source), (pendingIn_iff.mp pending).1, own, ?_⟩
    rw [record_written held own pending, key, rootOf_planned planned.distinct listed, if_pos grouped, source]
  · exact Or.inr ⟨old, record_unwritten held unwritten, left⟩

theorem commit_grouped (before : Grouped l) (fresh : Fresh cfg l (.commit env g exam eventsBySk now)) :
    Grouped (l.step cfg (.commit env g exam eventsBySk now)) := by
  by_cases generates : exam.source ≠ .diagnosticTask ∧ Active cfg (l.over env) (roundOf exam none eventsBySk)
  · rcases generates with ⟨ordinary, active⟩
    have unmixed := fresh ordinary active
    intro r storedR s storedS standingR standingS cls label labelled
    rcases commit_row ordinary active storedR standingR labelled with
      ⟨rootR, regroupsR, namedR, ownR, examR, madeR⟩ | ⟨oldR, keptR, leftR⟩
    · rcases commit_row ordinary active storedS standingS (label ▸ labelled) with
        ⟨rootS, _, namedS, _, examS, madeS⟩ | ⟨oldS, _, leftS⟩
      · have same : rootR = rootS := groupLabel_injective (Option.some.inj (namedR.symm.trans (label.trans namedS)))
        exact ⟨by rw [madeR, madeS, same], examR.trans examS.symm⟩
      · have ownS : s.classId = exam.classId := cls.symm.trans ownR
        exact absurd (leftS ownS) (unmixed rootR regroupsR s oldS ownS (label.symm.trans namedR))
    · rcases commit_row ordinary active storedS standingS (label ▸ labelled) with
        ⟨rootS, regroupsS, namedS, ownS, _, _⟩ | ⟨oldS, keptS, _⟩
      · have ownR : r.classId = exam.classId := cls.trans ownS
        exact absurd (leftR ownR) (unmixed rootS regroupsS r oldR ownR (label.trans namedS))
      · rcases before r oldR s oldS standingR standingS cls label labelled with ⟨same, exams⟩
        exact ⟨by rw [keptR, keptS, same], exams⟩
  · rw [step_commit_idle generates]
    exact before

/-- An operation changes no label, and a row that stands after it stood before. -/
theorem operate_row {dir : Directory} {ctx : AccessContext} {t after : Table Intervention} {id count : Nat}
    {withGroup : Bool} {op : Operation} (accepted : operate dir ctx t id withGroup now op = .ok (after, count))
    {r : Intervention} (stored : r ∈ after.rows) (standing : r.status ≠ .skipped) :
    ∃ old ∈ t.rows, old.status ≠ .skipped ∧ old.id = r.id ∧ old.classId = r.classId ∧ old.groupRef = r.groupRef ∧
      old.examId = r.examId := by
  rcases operate_ok accepted with ⟨iv, found, _, status, rows⟩
  rw [rows] at stored
  rcases List.mem_map.mp stored with ⟨old, present, written⟩
  cases target : isTarget dir ctx withGroup op.required iv old with
  | false =>
    rw [target] at written
    have same : old = r := written
    subst same
    exact ⟨old, present, standing, rfl, rfl, rfl, rfl⟩
  | true =>
    rw [target] at written
    have same : op.update now old = r := written
    have required : old.status = op.required := by
      unfold isTarget at target
      split at target
      · simp only [Bool.and_eq_true, decide_eq_true_eq] at target
        exact target.1.2
      · have key : old.id = iv.id := by simpa using target
        rw [t.key_inj present (Table.get?_mem found) key]
        exact status
    rcases update_frame now op old with ⟨key, cls, label, exam⟩
    rw [same] at key cls label exam
    exact ⟨old, present, required ▸ required_standing op, key.symm, cls.symm, label.symm, exam.symm⟩

theorem step_grouped (before : Grouped l) {move : Move K} (fresh : Fresh cfg l move) : Grouped (l.step cfg move) := by
  cases move with
  | commit env g exam eventsBySk now => exact commit_grouped before fresh
  | operate dir ctx id withGroup now op =>
    dsimp only [Ledger.step]
    split
    · rename_i after count accepted
      intro r storedR s storedS standingR standingS cls label labelled
      rcases operate_row accepted storedR standingR with ⟨oldR, inR, openR, keyR, clsR, labelR, examR⟩
      rcases operate_row accepted storedS standingS with ⟨oldS, inS, openS, keyS, clsS, labelS, examS⟩
      have together := before oldR inR oldS inS openR openS (clsR.trans (cls.trans clsS.symm))
        (labelR.trans (label.trans labelS.symm)) (labelR ▸ labelled)
      unfold Together at together ⊢
      rw [keyR, keyS, examR, examS] at together
      exact together
    · exact before

end

theorem run_grouped {start : Ledger} (moves : List (Move K)) (along : Along (Ledger.step cfg) (Fresh cfg) start moves)
    (grouped : Grouped start) : Grouped (run (Ledger.step cfg) start moves) := by
  have preserve : ∀ l move, Grouped l → Fresh cfg l move → Grouped (l.step cfg move) :=
    fun _ _ before fresh => step_grouped before fresh
  exact run_invariant_along preserve moves start along grouped

/-- The rows that an operation on `iv` is for: those of its group in the status it asks for, or `iv` alone. -/
def OwnGroup (l : Ledger) (op : Operation) (iv r : Intervention) : Prop :=
  if actsOnGroup true iv then
    r.classId = iv.classId ∧ r.groupRef = iv.groupRef ∧ r.status = op.required ∧ Together l r iv
  else r.id = iv.id

instance (l : Ledger) (op : Operation) (iv r : Intervention) : Decidable (OwnGroup l op iv r) :=
  inferInstanceAs (Decidable (ite _ _ _))

theorem interventionAccess_congr {dir : Directory} {ctx : AccessContext} {r s : Intervention}
    (cls : r.classId = s.classId) (exam : r.examId = s.examId) :
    interventionAccess dir ctx r = interventionAccess dir ctx s := by
  unfold interventionAccess
  rw [cls, exam]

theorem isTarget_iff_ownGroup {l : Ledger} (grouped : Grouped l) {dir : Directory} {ctx : AccessContext}
    {op : Operation} {iv r : Intervention} (target : iv ∈ l.table.rows) (status : iv.status = op.required)
    (visible : interventionAccess dir ctx iv = true) (stored : r ∈ l.table.rows) :
    isTarget dir ctx true op.required iv r = true ↔ OwnGroup l op iv r := by
  unfold isTarget OwnGroup
  split
  · rename_i whole
    simp only [Bool.and_eq_true, beq_iff_eq, decide_eq_true_eq]
    constructor
    · intro chosen
      rcases chosen with ⟨⟨⟨cls, label⟩, required⟩, _⟩
      refine ⟨cls, label, required, grouped r stored iv target ?_ ?_ cls label ?_⟩
      · rw [required]
        exact required_standing op
      · rw [status]
        exact required_standing op
      · intro unlabelled
        simp [actsOnGroup, ← label, unlabelled] at whole
    · intro own
      rcases own with ⟨cls, label, required, together⟩
      refine ⟨⟨⟨cls, label⟩, required⟩, ?_⟩
      rw [interventionAccess_congr cls together.2]
      exact visible
  · exact beq_iff_eq

/-- In a run whose commits are fresh, a label names one group, and an operation on a group changes the rows of that
    group and no other. The guard and the filter over the rows differ on exams with an empty subject: there the
    filter has to admit the row too. -/
theorem group_operations_apart (moves : List (Move K)) (along : Along (Ledger.step cfg) (Fresh cfg) .empty moves) :
    let l := run (Ledger.step cfg) .empty moves
    Grouped l ∧ ∀ dir ctx id now op after count iv, operate dir ctx l.table id true now op = .ok (after, count) →
      l.table.get? id = some iv → (dir.examSubject iv.examId = some "" → interventionAccess dir ctx iv = true) →
        after.rows = l.table.rows.map (fun r => if OwnGroup l op iv r then op.update now r else r) := by
  intro l
  have grouped : Grouped l := run_grouped cfg moves along grouped_empty
  refine ⟨grouped, ?_⟩
  intro dir ctx id now op after count iv accepted found blank
  rcases operate_ok accepted with ⟨target, same, passes, status, rows⟩
  rw [found, Option.some.injEq] at same
  subst same
  have visible : interventionAccess dir ctx iv = true := by
    by_cases named : dir.examSubject iv.examId = some ""
    · exact blank named
    · exact interventionAccess_of_guard passes named
  rw [rows]
  apply List.map_congr_left
  intro r stored
  have chosen := isTarget_iff_ownGroup grouped (Table.get?_mem found) status visible stored
  by_cases own : OwnGroup l op iv r
  · rw [if_pos own, if_pos (chosen.mpr own)]
  · rw [if_neg own, if_neg (fun target => own (chosen.mp target))]

end

instance (l : Ledger) : Decidable (Grouped l) :=
  inferInstanceAs (Decidable (∀ r ∈ l.table.rows, ∀ s ∈ l.table.rows, _))

def linkedPoint (id : Nat) (code name : String) : KnowledgePoint ℚ :=
  { id := id, kbVersionId := 1, code := code, name := name, grade := 7, cogLevelsExpected := [],
    difficultyPrior := 1 / 2, masteryFloor := 6 / 10, importance := .core, archived := false }

/-- Point 8 is the prerequisite of point 9. -/
def linkedGraph : KpGraph ℚ where
  points := [linkedPoint 8 "N1" "有理数", linkedPoint 9 "N2" "方程"]
  prereq k := if k = 9 then [(8, 1)] else []
  succ k := if k = 8 then [(9, 1)] else []
  confusable _ := []
  nodup := by decide
  prereq_closed := by
    intro k e listed
    split at listed
    · rw [List.mem_singleton.mp listed]
      decide
    · cases listed
  succ_closed := by
    intro k e listed
    split at listed
    · rw [List.mem_singleton.mp listed]
      decide
    · cases listed
  confusable_closed := nofun

/-- Three pupils sit the exam of day 0 and three others that of day 5; all fail the six questions, of which every
    other one is on the prerequisite. -/
def failedDb : Db ℚ :=
  { Db.empty ℚ with
    classes := .ofList [⟨1, 7⟩]
    students := .ofList [⟨1, 1, "甲"⟩, ⟨2, 1, "乙"⟩, ⟨3, 1, "丙"⟩, ⟨4, 1, "丁"⟩, ⟨5, 1, "戊"⟩, ⟨6, 1, "己"⟩]
    progress := .ofList [⟨1, 1, 8, 0⟩, ⟨2, 1, 9, 0⟩]
    templates := .ofList [examOn 4 0, examOn 5 5]
    questions := .ofList ((List.range 12).map (fun n =>
      ⟨n + 1, 4 + n / 6, (n % 6 + 1 : Nat), "", .other "解答", 5, .apply, 1 / 2, none⟩))
    questionKps := .ofList ((List.range 12).map (fun n => ⟨n + 1, n + 1, 8 + n % 2, 1⟩))
    responses := .ofList ((List.range 6).map (fun n => ⟨n + 1, 4 + n / 3, n + 1, 0, .submitted⟩))
    answers := .ofList ((List.range 36).map (fun n => ⟨n + 1, n / 6 + 1, n / 18 * 6 + n % 6 + 1, 0, false⟩))
    events := .ofList ((List.range 36).map (fun n =>
      { id := n + 1, studentId := n / 6 + 1, kpId := 8 + n % 2, responseAnswerId := n + 1, sourceType := .unit,
        value := 0, weight := 1, cogLevel := .apply, classAvgRate := none, occurredAt := noon (n / 18 * 5 : Nat) })) }

def openDirectory : Directory where
  teacherName _ := ""
  office id := if id = 1 then some ⟨"七年级1班", "数学", none⟩ else none
  grants := []
  exams := failedDb.templates
  examSubject _ := some "数学"
  securityMode := false

def firstExam : Move ℚ := .commit failedDb linkedGraph (examOn 4 0) none (noon 1)

def secondExam : Move ℚ := .commit failedDb linkedGraph (examOn 5 5) none (noon 6)

theorem first_group_operations_apart :
    Along (Ledger.step Config.rational) (Fresh Config.rational) .empty [firstExam] ∧
    let l := run (Ledger.step Config.rational) .empty [firstExam]
    Grouped l ∧ ∃ iv after count, l.table.get? 1 = some iv ∧ actsOnGroup true iv = true ∧
      operate openDirectory ⟨none⟩ l.table 1 true (noon 2) (.confirm none) = .ok (after, count) ∧
      after.rows = l.table.rows.map (fun r =>
        if OwnGroup l (.confirm none) iv r then Operation.update (noon 2) (.confirm none) r else r) := by
  have along : Along (Ledger.step Config.rational) (Fresh Config.rational) .empty [firstExam] := by
    refine ⟨?_, trivial⟩
    intro _ _ root _ r stored
    cases stored
  refine ⟨along, ?_⟩
  have apart := group_operations_apart Config.rational [firstExam] along
  intro l
  refine ⟨apart.1, ?_⟩
  cases found : l.table.get? 1 with
  | none =>
    have stored : (l.table.get? 1).isSome = true := by decide +kernel
    rw [found] at stored
    cases stored
  | some iv =>
    have whole : (l.table.get? 1).all (actsOnGroup true) = true := by decide +kernel
    rw [found, Option.all_some] at whole
    cases accepted : operate openDirectory ⟨none⟩ l.table 1 true (noon 2) (.confirm none) with
    | error e =>
      have succeeds : (operate openDirectory ⟨none⟩ l.table 1 true (noon 2) (.confirm none)).toBool = true := by
        decide +kernel
      rw [accepted] at succeeds
      cases succeeds
    | ok result =>
      have named : openDirectory.examSubject iv.examId ≠ some "" := by
        show some "数学" ≠ some ""
        decide
      exact ⟨iv, result.1, result.2, rfl, whole, rfl,
        apart.2 _ _ _ _ _ _ _ _ accepted found (fun blank => absurd blank named)⟩

/-- A second exam makes another group under the label of the first, and confirming a row of the first group confirms
    both. -/
theorem group_label_reused :
    let l := run (Ledger.step Config.rational) .empty [firstExam, secondExam]
    l.table.rows.map (fun r => (r.id, r.examId, r.groupRef, r.status)) =
      [(1, 4, some "r0:8", .suggested), (2, 4, some "r0:8", .suggested), (3, 4, some "r0:8", .suggested),
        (4, 5, some "r0:8", .suggested), (5, 5, some "r0:8", .suggested), (6, 5, some "r0:8", .suggested)] ∧
      ¬ Grouped l ∧
      (operate openDirectory ⟨none⟩ l.table 1 true (noon 7) (.confirm none)).toOption.map (fun result =>
        result.1.rows.map (fun r => (r.id, r.examId, r.status))) =
          some [(1, 4, .done), (2, 4, .done), (3, 4, .done), (4, 5, .done), (5, 5, .done), (6, 5, .done)] := by
  decide +kernel

end KnowledgeGap
