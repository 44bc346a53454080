import KnowledgeGap.Protocol.Runs
import KnowledgeGap.Verdicts.Materialize

namespace KnowledgeGap

open Relational

namespace Verdicts

variable {K : Type}

def statusText : AttributionStatus → String
  | .active => "active"
  | .overridden => "overridden"
  | .resolved => "resolved"

def typeText : AttributionType → String
  | .prereq => "前置缺陷"
  | .forget => "遗忘衰减"
  | .insufficient => "数据不足"
  | .confusable => "易混淆"

/-- `ValueError` refusals of a verification, and the `KeyError` of a root that no version holds. -/
inductive VerifyError
  | missing
  | settled (status : AttributionStatus)
  | unsupported (type : AttributionType)
  | unknownPoint (kpId : Nat)
  deriving DecidableEq, Repr

def VerifyError.message : VerifyError → String
  | .missing => "归因不存在"
  | .settled status => "归因状态为 " ++ statusText status ++ "，无需验证"
  | .unsupported type => "归因类型「" ++ typeText type ++ "」不支持诊断题证伪（仅前置缺陷）"
  | .unknownPoint kpId => toString kpId

inductive Finding
  | inconclusive
  | falsified
  | supported
  deriving DecidableEq, Repr

structure Verification (K : Type) where
  attributionId : Nat
  verdict : Finding
  rootKpId : Nat
  rootKpCode : String
  rootKpName : String
  rootMastery : Option K
  evidenceCount : Nat
  status : AttributionStatus
  note : String

inductive OverrideError
  | missing
  | settled (status : AttributionStatus)
  deriving DecidableEq, Repr

def OverrideError.message : OverrideError → String
  | .missing => "归因不存在"
  | .settled status => "归因状态为 " ++ statusText status ++ "，无需否决"

def veto (note : Option String) (att : Attribution K) : Attribution K :=
  { att with status := .overridden, teacherNote := note.filter (fun text => text != "") }

def overrideAttribution (t : Table (Attribution K)) (id : Nat) (note : Option String) :
    Except OverrideError (Table (Attribution K)) :=
  match t.get? id with
  | none => .error .missing
  | some att =>
    if att.status ≠ .active then .error (.settled att.status)
    else .ok (t.modify id (veto note) (fun _ => rfl))

/-- The outcome a verification writes back: a falsified cause is vetoed, any outcome is noted. -/
def annotate (verdict : Finding) (note : String) (att : Attribution K) : Attribution K :=
  { att with
    status := if verdict = .falsified then .overridden else att.status
    teacherNote := some note }

section
variable [Field K] [LinearOrder K] [FloorRing K]

def judgeRoot (cfg : Config K) (count : Nat) (mastery : Option K) : Finding :=
  if count < cfg.minEvidenceCount then .inconclusive
  else
    match mastery with
    | some m => if prereqRootThreshold K ≤ m then .falsified else .supported
    | none => .supported

def verificationNote (cfg : Config K) (count : Nat) (mastery : Option K) (root : String)
    (asOf : DateTime) : String :=
  let date := isoDate (dateOf asOf)
  match judgeRoot cfg count mastery with
  | .inconclusive =>
    "诊断证据不足（" ++ toString count ++ " 题 < " ++ toString cfg.minEvidenceCount ++ "），无法证伪（" ++
      date ++ "）"
  | .falsified =>
    "诊断题证伪（" ++ date ++ "）：前置点「" ++ root ++ "」掌握度 " ++ fixed2 (mastery.getD 0) ++
      " 已达标（≥0.6），前置缺陷假设不成立"
  | .supported =>
    "诊断题证实（" ++ date ++ "）：前置点「" ++ root ++ "」掌握度 " ++ fixed2 (mastery.getD 0) ++
      " 仍低于阈值，假设成立"

def verifyAttributionPrediction (cfg : Config K) (db : Db K) (g : KpGraph K) (id : Nat)
    (asOf : DateTime) : Except VerifyError (Table (Attribution K) × Verification K) :=
  match db.attributions.get? id with
  | none => .error .missing
  | some att =>
    if att.status ≠ .active then .error (.settled att.status)
    else
      match att.type, att.rootKpId with
      | .prereq, some rootKpId =>
        match g.kp? db rootKpId with
        | none => .error (.unknownPoint rootKpId)
        | some root =>
          let count := evidenceCount db att.studentId rootKpId asOf
          let m := masteryAt cfg db att.studentId rootKpId asOf
          let verdict := judgeRoot cfg count m
          let note := verificationNote cfg count m root.name asOf
          let written := annotate verdict note att
          .ok (db.attributions.modify id (annotate verdict note) (fun _ => rfl),
            { attributionId := att.id, verdict := verdict, rootKpId := rootKpId, rootKpCode := root.code,
              rootKpName := root.name, rootMastery := m.map (roundTo 3), evidenceCount := count,
              status := written.status, note := note })
      | type, _ => .error (.unsupported type)

/-- One call of a writer of the table. What else the database holds at that moment is `env`. -/
inductive Action (K : Type)
  | materialize (env : Db K) (g : KpGraph K) (studentId classId : Nat) (asOf : DateTime)
      (eventsBySk : Option (Batch K))
  | verify (env : Db K) (g : KpGraph K) (id : Nat) (asOf : DateTime)
  | override (id : Nat) (note : Option String)

/-- A refused call leaves the table as it was: the request's transaction is rolled back. -/
def step (cfg : Config K) (t : Table (Attribution K)) : Action K → Table (Attribution K)
  | .materialize env g studentId classId asOf eventsBySk =>
    (materializeAttributionVerdicts cfg { env with attributions := t } g studentId classId asOf
      eventsBySk).1
  | .verify env g id asOf =>
    match verifyAttributionPrediction cfg { env with attributions := t } g id asOf with
    | .ok (table, _) => table
    | .error _ => t
  | .override id note =>
    match overrideAttribution t id note with
    | .ok table => table
    | .error _ => t

end

theorem override_ok {t table : Table (Attribution K)} {id : Nat} {note : Option String}
    (accepted : overrideAttribution t id note = .ok table) :
    ∃ att, t.get? id = some att ∧ att.status = .active ∧ table = t.modify id (veto note) (fun _ => rfl) := by
  unfold overrideAttribution at accepted
  split at accepted
  · cases accepted
  · rename_i att found
    split at accepted
    · cases accepted
    · rename_i active
      simp only [ne_eq, Decidable.not_not] at active
      cases accepted
      exact ⟨att, found, active, rfl⟩

/-- A rewriting that a veto or a verification performs on the active row it names. -/
structure Ruling (f : Attribution K → Attribution K) : Prop where
  id : ∀ att, (f att).id = att.id
  studentId : ∀ att, (f att).studentId = att.studentId
  key : ∀ att, (f att).key = att.key
  standing : ∀ att, att.status = .active → (f att).status ≠ .resolved

theorem veto_ruling (note : Option String) : Ruling (veto (K := K) note) where
  id := fun _ => rfl
  studentId := fun _ => rfl
  key := fun _ => rfl
  standing := by
    intro att _ resolved
    cases resolved

theorem annotate_ruling (verdict : Finding) (note : String) : Ruling (annotate (K := K) verdict note) where
  id := fun _ => rfl
  studentId := fun _ => rfl
  key := fun _ => rfl
  standing := by
    intro att active resolved
    simp only [annotate, active] at resolved
    split at resolved <;> cases resolved

section
variable [Field K] [LinearOrder K] [FloorRing K]

theorem verify_accepts (cfg : Config K) (db : Db K) (asOf : DateTime) {g : KpGraph K} {id kpId : Nat} {att : Attribution K}
    {root : KnowledgePoint K} (found : db.attributions.get? id = some att) (active : att.status = .active)
    (cause : att.type = .prereq) (rooted : att.rootKpId = some kpId) (known : g.kp? db kpId = some root) :
    ∃ verification, verifyAttributionPrediction cfg db g id asOf = .ok verification ∧
      verification.2.verdict =
        judgeRoot cfg (evidenceCount db att.studentId kpId asOf) (masteryAt cfg db att.studentId kpId asOf) ∧
      verification.1 = db.attributions.modify id (annotate
        (judgeRoot cfg (evidenceCount db att.studentId kpId asOf) (masteryAt cfg db att.studentId kpId asOf))
        (verificationNote cfg (evidenceCount db att.studentId kpId asOf) (masteryAt cfg db att.studentId kpId asOf)
          root.name asOf)) (fun _ => rfl) := by
  unfold verifyAttributionPrediction
  rw [found]
  dsimp only
  rw [if_neg (not_not_intro active), cause, rooted]
  dsimp only
  rw [known]
  exact ⟨_, rfl, rfl, rfl⟩

theorem verify_rooted {cfg : Config K} {db : Db K} {g : KpGraph K} {id : Nat} {asOf : DateTime}
    {verification : Table (Attribution K) × Verification K}
    (accepted : verifyAttributionPrediction cfg db g id asOf = .ok verification) :
    ∃ att kpId root, db.attributions.get? id = some att ∧ att.status = .active ∧ att.type = .prereq ∧
      att.rootKpId = some kpId ∧ g.kp? db kpId = some root := by
  unfold verifyAttributionPrediction at accepted
  split at accepted
  · cases accepted
  · rename_i att found
    split at accepted
    · cases accepted
    · rename_i active
      split at accepted
      · rename_i kpId cause rooted
        split at accepted
        · cases accepted
        · rename_i root known
          exact ⟨att, kpId, root, found, not_not.mp active, cause, rooted, known⟩
      · cases accepted

theorem verify_ok {cfg : Config K} {db : Db K} {g : KpGraph K} {id : Nat} {asOf : DateTime}
    {result : Table (Attribution K) × Verification K}
    (accepted : verifyAttributionPrediction cfg db g id asOf = .ok result) :
    ∃ att verdict note, db.attributions.get? id = some att ∧ att.status = .active ∧
      result.1 = db.attributions.modify id (annotate verdict note) (fun _ => rfl) := by
  obtain ⟨att, kpId, root, found, active, cause, rooted, known⟩ := verify_rooted accepted
  obtain ⟨verification, through, _, written⟩ := verify_accepts cfg db asOf found active cause rooted known
  have same : result = verification := Except.ok.inj (accepted.symm.trans through)
  exact ⟨att, _, _, found, active, same ▸ written⟩

/-- Everything a call can do to the table: a write of one student's findings, a ruling on one active
    row, or nothing. -/
theorem step_cases (cfg : Config K) (t : Table (Attribution K)) (a : Action K) :
    (∃ env g studentId classId asOf eventsBySk,
        a = .materialize env g studentId classId asOf eventsBySk ∧
        step cfg t a = (writeVerdicts t g studentId
          (findingsFor cfg { env with attributions := t } g studentId classId asOf eventsBySk)).1) ∨
      (∃ id att f keeps, t.get? id = some att ∧ att.status = .active ∧ Ruling f ∧
        ((∃ env g asOf, a = .verify env g id asOf) ∨ ∃ note, a = .override id note) ∧
        step cfg t a = t.modify id f keeps) ∨
      (((∃ env g id asOf, a = .verify env g id asOf) ∨ ∃ id note, a = .override id note) ∧
        step cfg t a = t) := by
  cases a with
  | materialize env g studentId classId asOf eventsBySk =>
    exact Or.inl ⟨env, g, studentId, classId, asOf, eventsBySk, rfl, rfl⟩
  | verify env g id asOf =>
    right
    cases outcome : verifyAttributionPrediction cfg { env with attributions := t } g id asOf with
    | error e =>
      right
      exact ⟨Or.inl ⟨env, g, id, asOf, rfl⟩, by simp only [step, outcome]⟩
    | ok result =>
      left
      obtain ⟨att, verdict, note, found, active, written⟩ := verify_ok outcome
      refine ⟨id, att, annotate verdict note, fun _ => rfl, found, active, annotate_ruling verdict note,
        Or.inl ⟨env, g, asOf, rfl⟩, ?_⟩
      simp only [step, outcome, written]
  | override id note =>
    right
    cases outcome : overrideAttribution t id note with
    | error e =>
      right
      exact ⟨Or.inr ⟨id, note, rfl⟩, by simp only [step, outcome]⟩
    | ok table =>
      left
      obtain ⟨att, found, active, written⟩ := override_ok outcome
      refine ⟨id, att, veto note, fun _ => rfl, found, active, veto_ruling note,
        Or.inr ⟨note, rfl⟩, ?_⟩
      simp only [step, outcome, written]

omit [Field K] [LinearOrder K] [FloorRing K] in
theorem modify_onePerCause {t : Table (Attribution K)} {id : Nat} {att : Attribution K}
    {f : Attribution K → Attribution K} (keeps : ∀ r, Keyed.key (f r) = Keyed.key r)
    (unique : OnePerCause t) (found : t.get? id = some att) (active : att.status = .active)
    (ruling : Ruling f) : OnePerCause (t.modify id f keeps) := by
  have stands : ∀ r ∈ t.rows, (if Keyed.key r == id then f r else r).status ≠ .resolved →
      r.status ≠ .resolved := by
    intro r stored standing
    by_cases named : Keyed.key r = id
    · have same := t.key_inj stored (Table.get?_mem found) (named.trans (Table.get?_key found).symm)
      rw [same, active]
      exact fun h => nomatch h
    · simpa [named] using standing
  intro r left s right standingR standingS student key
  rw [Table.rows_modify] at left right
  obtain ⟨r₀, storedR, rfl⟩ := List.mem_map.mp left
  obtain ⟨s₀, storedS, rfl⟩ := List.mem_map.mp right
  have framed : ∀ r : Attribution K, (if Keyed.key r == id then f r else r).studentId = r.studentId ∧
      (if Keyed.key r == id then f r else r).key = r.key := by
    intro r
    split
    · exact ⟨ruling.studentId r, ruling.key r⟩
    · exact ⟨rfl, rfl⟩
  rw [(framed r₀).1, (framed s₀).1] at student
  rw [(framed r₀).2, (framed s₀).2] at key
  rw [unique r₀ storedR s₀ storedS (stands r₀ storedR standingR) (stands s₀ storedS standingS)
    student key]

theorem step_onePerCause (cfg : Config K) (t : Table (Attribution K)) (a : Action K)
    (unique : OnePerCause t) : OnePerCause (step cfg t a) := by
  rcases step_cases cfg t a with ⟨env, g, studentId, classId, asOf, eventsBySk, _, written⟩ |
      ⟨id, att, f, keeps, found, active, ruling, _, written⟩ | ⟨_, written⟩
  · rw [written]
    exact writeVerdicts_onePerCause unique (findingsFor_nodup _ _ _ _ _ _ _)
      (findingsFor_inside _ _ _ _ _ _ _)
  · rw [written]
    exact modify_onePerCause keeps unique found active ruling
  · rw [written]
    exact unique

theorem run_onePerCause (cfg : Config K) (actions : List (Action K)) :
    OnePerCause (Protocol.run (step cfg) Table.empty actions) := by
  apply Protocol.run_invariant (step_onePerCause cfg)
  intro r stored
  cases stored

theorem step_keeps_past (cfg : Config K) (t : Table (Attribution K)) (a : Action K)
    (unique : OnePerCause t) {r : Attribution K} (stored : r ∈ t.rows) (past : r.status ≠ .active) :
    r ∈ (step cfg t a).rows := by
  rcases step_cases cfg t a with ⟨env, g, studentId, classId, asOf, eventsBySk, _, written⟩ |
      ⟨id, att, f, keeps, found, active, ruling, _, written⟩ | ⟨_, written⟩
  · rw [written, rows_writeVerdicts unique (findingsFor_nodup _ _ _ _ _ _ _)]
    apply List.mem_append_left
    exact List.mem_map.mpr ⟨r, stored, settle_of_not_active g studentId _ past⟩
  · rw [written, Table.rows_modify]
    have other : ¬ Keyed.key r = id := by
      intro named
      have same := t.key_inj stored (Table.get?_mem found) (named.trans (Table.get?_key found).symm)
      exact past (same ▸ active)
    exact List.mem_map.mpr ⟨r, stored, by simp [other]⟩
  · rw [written]
    exact stored

theorem run_keeps_past (cfg : Config K) (t : Table (Attribution K)) (later : List (Action K))
    (unique : OnePerCause t) {r : Attribution K} (stored : r ∈ t.rows) (past : r.status ≠ .active) :
    r ∈ (Protocol.run (step cfg) t later).rows := by
  have preserve : ∀ (u : Table (Attribution K)) (a : Action K), OnePerCause u ∧ r ∈ u.rows →
      OnePerCause (step cfg u a) ∧ r ∈ (step cfg u a).rows := by
    intro u a held
    exact ⟨step_onePerCause cfg u a held.1, step_keeps_past cfg u a held.1 held.2 past⟩
  exact (Protocol.run_invariant preserve later t ⟨unique, stored⟩).2

theorem run_onePerCause_from (cfg : Config K) (t : Table (Attribution K)) (later : List (Action K))
    (unique : OnePerCause t) : OnePerCause (Protocol.run (step cfg) t later) :=
  Protocol.run_invariant (step_onePerCause cfg) later t unique

omit [Field K] [LinearOrder K] [FloorRing K] in
theorem select_writeVerdicts_outside {t : Table (Attribution K)} {g : KpGraph K} {studentId : Nat}
    {findings : List (AttributionFinding K)} (unique : OnePerCause t)
    (distinct : (findings.map AttributionFinding.key).Nodup)
    (inside : ∀ f ∈ findings, f.kpId ∈ g.kpIds) :
    (writeVerdicts t g studentId findings).1.select
        (fun r => decide (r.studentId ≠ studentId ∨ r.kpId ∉ g.kpIds)) =
      t.select (fun r => decide (r.studentId ≠ studentId ∨ r.kpId ∉ g.kpIds)) := by
  have none_added : (addedVerdicts t g studentId findings).filter
      (fun r => decide (r.studentId ≠ studentId ∨ r.kpId ∉ g.kpIds)) = [] := by
    rw [List.filter_eq_nil_iff]
    intro r added outside
    obtain ⟨f, listed, _, n, _, rfl⟩ := mem_addedVerdicts added
    simp only [newVerdict, ne_eq, not_true_eq_false, false_or, decide_eq_true_eq] at outside
    exact outside (inside f listed)
  rw [Table.select, rows_writeVerdicts unique distinct, List.filter_append, none_added, List.append_nil]
  apply filter_map_of_fixed
  · intro r _
    obtain ⟨_, student, key, _⟩ := settle_frame g studentId findings r
    have point : (settle g studentId findings r).kpId = r.kpId := congrArg Prod.fst key
    rw [student, point]
  · intro r _ outside
    exact settle_of_outside findings (by simpa using outside)

omit [Field K] [LinearOrder K] [FloorRing K] in
theorem select_modify_other (t : Table (Attribution K)) (id : Nat) {f : Attribution K → Attribution K}
    (keeps : ∀ r, Keyed.key (f r) = Keyed.key r) :
    (t.modify id f keeps).select (fun r => decide (r.id ≠ id)) =
      t.select (fun r => decide (r.id ≠ id)) := by
  rw [Table.select, Table.rows_modify]
  apply filter_map_of_fixed
  · intro r _
    have same : (if Keyed.key r == id then f r else r).id = r.id := by
      split
      · exact keeps r
      · rfl
    rw [same]
  · intro r _ other
    have named : r.id ≠ id := by simpa using other
    have apart : ¬ Keyed.key r = id := named
    simp [apart]

theorem step_frame_ruling (cfg : Config K) (t : Table (Attribution K)) (id : Nat) {a : Action K}
    (named : (∃ env g asOf, a = .verify env g id asOf) ∨ ∃ note, a = .override id note) :
    (step cfg t a).select (fun r => decide (r.id ≠ id)) = t.select (fun r => decide (r.id ≠ id)) ∧
      (step cfg t a).rows.map Attribution.id = t.rows.map Attribution.id := by
  rcases step_cases cfg t a with ⟨env, g, studentId, classId, asOf, eventsBySk, call, _⟩ |
      ⟨other, att, f, keeps, found, active, ruling, call, written⟩ | ⟨_, written⟩
  · subst call
    rcases named with ⟨_, _, _, same⟩ | ⟨_, same⟩ <;> cases same
  · have same : other = id := by
      rcases named with ⟨_, _, _, rfl⟩ | ⟨_, rfl⟩ <;>
        rcases call with ⟨_, _, _, same⟩ | ⟨_, same⟩ <;> cases same <;> rfl
    subst same
    rw [written]
    refine ⟨select_modify_other t other keeps, ?_⟩
    rw [Table.rows_modify, List.map_map]
    apply List.map_congr_left
    intro r _
    simp only [Function.comp_apply]
    split
    · exact ruling.id r
    · rfl
  · rw [written]
    exact ⟨rfl, rfl⟩

theorem verify_refuses_past (cfg : Config K) (db : Db K) (g : KpGraph K) (asOf : DateTime)
    {r : Attribution K} (stored : r ∈ db.attributions.rows) (past : r.status ≠ .active) :
    verifyAttributionPrediction cfg db g r.id asOf = .error (.settled r.status) := by
  have found : db.attributions.get? r.id = some r := Table.get?_of_mem stored
  simp [verifyAttributionPrediction, found, past]

/-- The life of the verdict table over every run of its three writers. -/
theorem attribution_lifecycle (cfg : Config K) (actions : List (Action K)) :
    let t := Protocol.run (step cfg) Table.empty actions
    (∀ r ∈ t.rows, ∀ s ∈ t.rows,
      (r.status = .active ∨ r.status = .overridden) → (s.status = .active ∨ s.status = .overridden) →
      r.studentId = s.studentId → r.kpId = s.kpId → r.type = s.type → r = s) ∧
    (∀ r ∈ t.rows, r.status = .overridden → ∀ later,
      r ∈ (Protocol.run (step cfg) t later).rows ∧
      ∀ s ∈ (Protocol.run (step cfg) t later).rows,
        s.studentId = r.studentId → s.kpId = r.kpId → s.type = r.type → s.status ≠ .active) ∧
    (∀ r ∈ t.rows, r.status = .resolved →
      (∀ later, r ∈ (Protocol.run (step cfg) t later).rows) ∧
      ∀ (env : Db K) (g : KpGraph K) (asOf : DateTime), verifyAttributionPrediction cfg { env with attributions := t } g
        r.id asOf = .error (.settled .resolved)) ∧
    (∀ env (g : KpGraph K) studentId classId asOf eventsBySk,
      (step cfg t (.materialize env g studentId classId asOf eventsBySk)).select
          (fun r => decide (r.studentId ≠ studentId ∨ r.kpId ∉ g.kpIds)) =
        t.select (fun r => decide (r.studentId ≠ studentId ∨ r.kpId ∉ g.kpIds))) ∧
    (∀ id, ∀ a : Action K, ((∃ env g asOf, a = .verify env g id asOf) ∨ ∃ note, a = .override id note) →
      (step cfg t a).select (fun r => decide (r.id ≠ id)) = t.select (fun r => decide (r.id ≠ id)) ∧
        (step cfg t a).rows.map Attribution.id = t.rows.map Attribution.id) := by
  intro t
  have unique : OnePerCause t := run_onePerCause cfg actions
  have standing : ∀ r : Attribution K, (r.status = .active ∨ r.status = .overridden) →
      r.status ≠ .resolved := by
    intro r live
    rcases live with live | live <;> rw [live] <;> exact fun h => nomatch h
  refine ⟨?_, ?_, ?_, ?_, ?_⟩
  · intro r left s right liveR liveS student point cause
    exact unique r left s right (standing r liveR) (standing s liveS) student (Prod.ext point cause)
  · intro r stored vetoed later
    have past : r.status ≠ .active := by
      rw [vetoed]
      exact fun h => nomatch h
    have kept := run_keeps_past cfg t later unique stored past
    refine ⟨kept, ?_⟩
    intro s present student point cause active
    have same := run_onePerCause_from cfg t later unique s present r kept
      (standing s (Or.inl active)) (standing r (Or.inr vetoed)) student (Prod.ext point cause)
    exact past (same ▸ active)
  · intro r stored resolved
    have past : r.status ≠ .active := by
      rw [resolved]
      exact fun h => nomatch h
    refine ⟨fun later => run_keeps_past cfg t later unique stored past, ?_⟩
    intro env g asOf
    rw [← resolved]
    exact verify_refuses_past cfg { env with attributions := t } g asOf stored past
  · intro env g studentId classId asOf eventsBySk
    exact select_writeVerdicts_outside unique (findingsFor_nodup _ _ _ _ _ _ _)
      (findingsFor_inside _ _ _ _ _ _ _)
  · intro id a named
    exact step_frame_ruling cfg t id named

end

end Verdicts

end KnowledgeGap
