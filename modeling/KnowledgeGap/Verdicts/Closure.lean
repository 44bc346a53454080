import KnowledgeGap.Verdicts.Notes

namespace KnowledgeGap.Verdicts

open Relational

variable {K : Type}

structure Closure (K : Type) where
  total : Nat
  byStatus : Dict AttributionStatus Nat
  byVerdict : Dict Finding Nat
  diagnosticVerified : Nat
  teacherOverridden : Nat
  closureRate : K

/-- The rows of a closure: all, or those of the pupils of a class. -/
def closureRows (db : Db K) (classId : Option Nat) : List (Attribution K) :=
  match classId with
  | none => db.attributions.rows
  | some c => db.attributions.select (fun r => (db.students.get? r.studentId).any (fun s => s.classId == c))

def tallyVerdicts (rows : List (Attribution K)) : Dict Finding Nat :=
  Dict.countFrom (Dict.ofList [(.falsified, 0), (.supported, 0), (.inconclusive, 0)]) (fun verdict => verdict)
    (rows.filterMap (fun r => classifyVerdict r.teacherNote))

def tallyStatuses (rows : List (Attribution K)) : Dict AttributionStatus Nat :=
  Dict.countFrom (Dict.ofList [(.active, 0), (.overridden, 0), (.resolved, 0)]) Attribution.status rows

section
variable [Field K] [LinearOrder K] [FloorRing K]

/-- A falsified cause is overridden too, so what is left of those is the teachers'. -/
def attributionClosure (db : Db K) (classId : Option Nat) : Closure K :=
  let rows := closureRows db classId
  let byStatus := tallyStatuses rows
  let byVerdict := tallyVerdicts rows
  let verified := rows.countP (fun r => (classifyVerdict r.teacherNote).isSome)
  { total := rows.length
    byStatus := byStatus
    byVerdict := byVerdict
    diagnosticVerified := verified
    teacherOverridden := byStatus.getD .overridden 0 - byVerdict.getD .falsified 0
    closureRate := if rows.length = 0 then 0 else roundTo 3 ((verified : K) / rows.length) }

end

/-- What has happened to the rows: how the last verification of each ended, and which a teacher overrode. -/
structure RulingLog where
  lastVerdict : Nat → Option Finding
  vetoed : Nat → Bool

def RulingLog.judge (log : RulingLog) (id : Nat) (verdict : Finding) : RulingLog :=
  { log with lastVerdict := Function.update log.lastVerdict id (some verdict) }

def RulingLog.veto (log : RulingLog) (id : Nat) : RulingLog :=
  { log with vetoed := Function.update log.vetoed id true }

structure Recorded (K : Type) where
  table : Table (Attribution K)
  log : RulingLog

def Recorded.start (K : Type) : Recorded K := ⟨.empty, ⟨fun _ => none, fun _ => false⟩⟩

section
variable [Field K] [LinearOrder K] [FloorRing K]

/-- What a call adds to the log, if it is accepted. -/
def record (cfg : Config K) (t : Table (Attribution K)) (c : RulingLog) : Action K → RulingLog
  | .materialize .. => c
  | .verify env g id asOf =>
    match verifyAttributionPrediction cfg { env with attributions := t } g id asOf with
    | .ok (_, verification) => c.judge id verification.verdict
    | .error _ => c
  | .override id note =>
    match overrideAttribution t id note with
    | .ok _ => c.veto id
    | .error _ => c

def recordedStep (cfg : Config K) (s : Recorded K) (a : Action K) : Recorded K :=
  ⟨step cfg s.table a, record cfg s.table s.log a⟩

/-- The counts of a closure are those of the log, for every class. -/
def Exact (s : Recorded K) : Prop :=
  ∀ (env : Db K) (classId : Option Nat),
    let db := { env with attributions := s.table }
    (∀ verdict, (attributionClosure db classId).byVerdict.getD verdict 0 =
      (closureRows db classId).countP (fun r => decide (s.log.lastVerdict r.id = some verdict))) ∧
    (attributionClosure db classId).teacherOverridden = (closureRows db classId).countP (fun r => s.log.vetoed r.id)

/-- A call whose note will be read for what happened: a verification of a root whose name holds no mark, and a veto
    whose note is read like the one it replaces. -/
def Plain (cfg : Config K) (t : Table (Attribution K)) : Action K → Prop
  | .materialize .. => True
  | .verify env g id asOf => ∀ att kpId root, t.get? id = some att → att.status = .active → att.type = .prereq →
      att.rootKpId = some kpId → g.kp? env kpId = some root →
      Legible (judgeRoot cfg (evidenceCount env att.studentId kpId asOf) (masteryAt cfg env att.studentId kpId asOf))
        root.name
  | .override id note => ∀ att, t.get? id = some att → att.status = .active →
      classifyVerdict note = classifyVerdict att.teacherNote

/-- What the log and the table say of each other, whatever the notes. -/
structure Logged (s : Recorded K) : Prop where
  unique : OnePerCause s.table
  blank : ∀ id, (∀ r ∈ s.table.rows, r.id ≠ id) → s.log.lastVerdict id = none ∧ s.log.vetoed id = false
  settled : ∀ r ∈ s.table.rows,
    (r.status = .overridden ↔ s.log.vetoed r.id = true ∨ s.log.lastVerdict r.id = some .falsified)
  apart : ∀ id, s.log.vetoed id = true → s.log.lastVerdict id ≠ some .falsified

/-- Every note is read for what happened. -/
def Read (s : Recorded K) : Prop :=
  ∀ r ∈ s.table.rows, classifyVerdict r.teacherNote = s.log.lastVerdict r.id

end

theorem annotate_keeps (verdict : Finding) (note : String) (att : Attribution K) :
    Keyed.key (annotate verdict note att) = Keyed.key att := rfl

theorem veto_keeps (note : Option String) (att : Attribution K) : Keyed.key (veto note att) = Keyed.key att := rfl

@[simp] theorem RulingLog.judge_self (log : RulingLog) (id : Nat) (verdict : Finding) :
    (log.judge id verdict).lastVerdict id = some verdict := Function.update_self ..

theorem RulingLog.judge_other {id other : Nat} (apart : other ≠ id) (log : RulingLog) (verdict : Finding) :
    (log.judge id verdict).lastVerdict other = log.lastVerdict other := Function.update_of_ne apart ..

@[simp] theorem RulingLog.veto_self (log : RulingLog) (id : Nat) : (log.veto id).vetoed id = true := Function.update_self ..

theorem RulingLog.veto_other {id other : Nat} (apart : other ≠ id) (log : RulingLog) :
    (log.veto id).vetoed other = log.vetoed other := Function.update_of_ne apart ..

theorem getD_tallyVerdicts (rows : List (Attribution K)) (verdict : Finding) : (tallyVerdicts rows).getD verdict 0 =
    rows.countP (fun r => decide (classifyVerdict r.teacherNote = some verdict)) := by
  have start : (Dict.ofList [(Finding.falsified, 0), (.supported, 0), (.inconclusive, 0)]).getD verdict 0 = 0 := by
    cases verdict <;> decide
  rw [tallyVerdicts, Dict.getD_countFrom, start, Nat.zero_add, List.countP_filterMap]
  apply List.countP_congr
  intro r _
  cases classifyVerdict r.teacherNote with
  | none => simp
  | some other => simp

theorem getD_tallyStatuses (rows : List (Attribution K)) (status : AttributionStatus) :
    (tallyStatuses rows).getD status 0 = rows.countP (fun r => decide (r.status = status)) := by
  have start : (Dict.ofList [(AttributionStatus.active, 0), (.overridden, 0), (.resolved, 0)]).getD status 0 = 0 := by
    cases status <;> decide
  rw [tallyStatuses, Dict.getD_countFrom, start, Nat.zero_add]

theorem mem_closureRows {db : Db K} {classId : Option Nat} {r : Attribution K} (listed : r ∈ closureRows db classId) :
    r ∈ db.attributions.rows := by
  cases classId with
  | none => exact listed
  | some c => exact List.mem_of_mem_filter listed

section
variable [Field K] [LinearOrder K] [FloorRing K] {cfg : Config K} {s : Recorded K}

/-- Notes that are read right give the right counts. -/
theorem exact_of_read (logged : Logged s) (read : Read s) : Exact s := by
  intro env classId
  dsimp only
  have stored : ∀ r ∈ closureRows { env with attributions := s.table } classId, r ∈ s.table.rows :=
    fun r listed => mem_closureRows listed
  have verdicts : ∀ verdict,
      (attributionClosure { env with attributions := s.table } classId).byVerdict.getD verdict 0 =
        (closureRows { env with attributions := s.table } classId).countP
          (fun r => decide (s.log.lastVerdict r.id = some verdict)) := by
    intro verdict
    rw [attributionClosure, getD_tallyVerdicts]
    apply List.countP_congr
    intro r listed
    rw [read r (stored r listed)]
  refine ⟨verdicts, ?_⟩
  have overridden : (closureRows { env with attributions := s.table } classId).countP
        (fun r => decide (r.status = .overridden)) =
      (closureRows { env with attributions := s.table } classId).countP (fun r => s.log.vetoed r.id) +
        (closureRows { env with attributions := s.table } classId).countP
          (fun r => decide (s.log.lastVerdict r.id = some .falsified)) := by
    rw [← Dict.countP_or]
    · apply List.countP_congr
      intro r listed
      rw [decide_eq_true_eq, Bool.or_eq_true, decide_eq_true_eq]
      exact logged.settled r (stored r listed)
    · intro r _ vetoed
      exact decide_eq_false (logged.apart r.id vetoed)
  have falsified := verdicts .falsified
  unfold attributionClosure at falsified ⊢
  dsimp only at falsified ⊢
  rw [falsified, getD_tallyStatuses, overridden, Nat.add_sub_cancel]

omit [Field K] [LinearOrder K] [FloorRing K] in
theorem countP_lt_of_extra {α : Type} {p q : α → Bool} {xs : List α} {a : α} (listed : a ∈ xs)
    (agree : ∀ b ∈ xs, b ≠ a → p b = q b) (left : p a = true) (right : q a = false) : xs.countP q < xs.countP p := by
  induction xs with
  | nil => cases listed
  | cons b xs ih =>
    rw [List.countP_cons, List.countP_cons]
    by_cases here : b = a
    · subst here
      have least : xs.countP q ≤ xs.countP p := by
        apply List.countP_mono_left
        intro x later holds
        by_cases same : x = b
        · subst same
          rw [right] at holds
          cases holds
        · rw [agree x (List.mem_cons_of_mem b later) same]
          exact holds
      rw [left, right]
      simp only [↓reduceIte, Bool.false_eq_true]
      omega
    · have later : a ∈ xs := (List.mem_cons.mp listed).resolve_left (Ne.symm here)
      have less := ih later (fun x member => agree x (List.mem_cons_of_mem b member))
      rw [agree b List.mem_cons_self here]
      omega

/-- Where all notes but one are read right, right counts leave no room for the one. -/
theorem read_of_exact {row : Attribution K} (stored : row ∈ s.table.rows) (exact_ : Exact s)
    (others : ∀ r ∈ s.table.rows, r ≠ row → classifyVerdict r.teacherNote = s.log.lastVerdict r.id) :
    classifyVerdict row.teacherNote = s.log.lastVerdict row.id := by
  have counts : ∀ verdict, s.table.rows.countP (fun r => decide (classifyVerdict r.teacherNote = some verdict)) =
      s.table.rows.countP (fun r => decide (s.log.lastVerdict r.id = some verdict)) := by
    intro verdict
    have count := (exact_ (Db.empty K) none).1 verdict
    rw [attributionClosure, getD_tallyVerdicts] at count
    exact count
  by_contra differs
  cases noted : classifyVerdict row.teacherNote with
  | some verdict =>
    have more := countP_lt_of_extra (p := fun r => decide (classifyVerdict r.teacherNote = some verdict))
      (q := fun r => decide (s.log.lastVerdict r.id = some verdict)) stored
      (fun r present other => by rw [others r present other]) (decide_eq_true noted)
      (decide_eq_false (fun same => differs (noted.trans same.symm)))
    rw [counts verdict] at more
    exact Nat.lt_irrefl _ more
  | none =>
    cases happened : s.log.lastVerdict row.id with
    | none => exact differs (noted.trans happened.symm)
    | some verdict =>
      have more := countP_lt_of_extra (p := fun r => decide (s.log.lastVerdict r.id = some verdict))
        (q := fun r => decide (classifyVerdict r.teacherNote = some verdict)) stored
        (fun r present other => by rw [others r present other]) (decide_eq_true happened)
        (decide_eq_false (fun same => by rw [noted] at same; cases same))
      rw [counts verdict] at more
      exact Nat.lt_irrefl _ more

/-- Everything a call does to the table and the log, and whether it is plain. -/
theorem recordedStep_cases (cfg : Config K) (s : Recorded K) (a : Action K) :
    (∃ g studentId findings, (findings.map AttributionFinding.key).Nodup ∧ (∀ f ∈ findings, f.kpId ∈ g.kpIds) ∧
      recordedStep cfg s a = ⟨(writeVerdicts s.table g studentId findings).1, s.log⟩ ∧ Plain cfg s.table a) ∨
    (∃ id att verdict note, s.table.get? id = some att ∧ att.status = .active ∧
      recordedStep cfg s a = ⟨s.table.modify id (annotate verdict note) (annotate_keeps verdict note),
        s.log.judge id verdict⟩ ∧
      (Plain cfg s.table a ↔ classifyVerdict (some note) = some verdict)) ∨
    (∃ id att note, s.table.get? id = some att ∧ att.status = .active ∧
      recordedStep cfg s a = ⟨s.table.modify id (veto note) (veto_keeps note), s.log.veto id⟩ ∧
      (Plain cfg s.table a ↔ classifyVerdict note = classifyVerdict att.teacherNote)) ∨
    (recordedStep cfg s a = s ∧ Plain cfg s.table a) := by
  cases a with
  | materialize env g studentId classId asOf eventsBySk =>
    left
    exact ⟨g, studentId, findingsFor cfg { env with attributions := s.table } g studentId classId asOf eventsBySk,
      findingsFor_nodup _ _ _ _ _ _ _, findingsFor_inside _ _ _ _ _ _ _, rfl, trivial⟩
  | verify env g id asOf =>
    right
    cases outcome : verifyAttributionPrediction cfg { env with attributions := s.table } g id asOf with
    | error e =>
      right
      right
      refine ⟨by simp only [recordedStep, step, record, outcome], ?_⟩
      intro att kpId root found active cause rooted known
      rcases verify_accepts cfg { env with attributions := s.table } asOf found active cause
        rooted known with ⟨verification, accepted, _⟩
      rw [outcome] at accepted
      cases accepted
    | ok verification =>
      left
      rcases verify_rooted outcome with ⟨att, kpId, root, found, active, cause, rooted, known⟩
      rcases verify_accepts cfg { env with attributions := s.table }
        asOf found active cause rooted known with ⟨verification', accepted, verdict, written⟩
      have same : verification = verification' := Except.ok.inj (outcome.symm.trans accepted)
      rw [← same] at verdict written
      refine ⟨id, att, judgeRoot cfg (evidenceCount env att.studentId kpId asOf) (masteryAt cfg env att.studentId kpId asOf),
        verificationNote cfg (evidenceCount env att.studentId kpId asOf) (masteryAt cfg env att.studentId kpId asOf)
          root.name asOf, found, active, ?_, ?_⟩
      · simp only [recordedStep, step, record, outcome, verdict, written]
        rfl
      · rw [classify_verificationNote]
        constructor
        · intro plain
          exact plain att kpId root found active cause rooted known
        · intro legible att' kpId' root' found' _ _ rooted' known'
          have row : att = att' := Option.some.inj (found.symm.trans found')
          subst row
          have point : kpId = kpId' := Option.some.inj (rooted.symm.trans rooted')
          subst point
          have name : root = root' := Option.some.inj (known.symm.trans known')
          subst name
          exact legible
  | override id note =>
    right
    right
    cases outcome : overrideAttribution s.table id note with
    | error e =>
      right
      refine ⟨by simp only [recordedStep, step, record, outcome], ?_⟩
      intro att found active
      unfold overrideAttribution at outcome
      rw [found] at outcome
      dsimp only at outcome
      rw [if_neg (not_not_intro active)] at outcome
      cases outcome
    | ok table =>
      left
      rcases override_ok outcome with ⟨att, found, active, written⟩
      refine ⟨id, att, note, found, active, ?_, ?_⟩
      · simp only [recordedStep, step, record, outcome, written]
      · constructor
        · intro plain
          exact plain att found active
        · intro same att' found' _
          rw [← Option.some.inj (found.symm.trans found')]
          exact same

omit [Field K] [LinearOrder K] [FloorRing K] in
theorem mem_modify {t : Table (Attribution K)} {id : Nat} {att : Attribution K} {f : Attribution K → Attribution K}
    (keeps : ∀ r, Keyed.key (f r) = Keyed.key r) (found : t.get? id = some att) {r : Attribution K} :
    r ∈ (t.modify id f keeps).rows ↔ r ∈ t.rows ∧ r.id ≠ id ∨ r = f att := by
  have stored := Table.get?_mem found
  have named : att.id = id := Table.get?_key found
  rw [Table.rows_modify, List.mem_map]
  constructor
  · intro held
    have ⟨old, present, written⟩ := held
    by_cases here : old.id = id
    · have same : old = att := t.key_inj present stored (here.trans named.symm)
      subst same
      rw [if_pos (show (Keyed.key old == id) = true from beq_iff_eq.mpr here)] at written
      exact Or.inr written.symm
    · rw [if_neg (show ¬ (Keyed.key old == id) = true from fun equal => here (beq_iff_eq.mp equal))] at written
      rw [← written]
      exact Or.inl ⟨present, here⟩
  · intro held
    rcases held with other | written
    · exact ⟨r, other.1, if_neg (fun equal => other.2 (beq_iff_eq.mp equal))⟩
    · exact ⟨att, stored, (if_pos (beq_iff_eq.mpr named)).trans written.symm⟩

omit [Field K] [LinearOrder K] [FloorRing K] in
theorem absent_modify {t : Table (Attribution K)} {id other : Nat} {att : Attribution K}
    {f : Attribution K → Attribution K} (keeps : ∀ r, Keyed.key (f r) = Keyed.key r) (found : t.get? id = some att)
    (absent : ∀ r ∈ (t.modify id f keeps).rows, r.id ≠ other) : other ≠ id ∧ ∀ r ∈ t.rows, r.id ≠ other := by
  have named : (f att).id = id := (keeps att).trans (Table.get?_key found)
  have apart : other ≠ id := by
    intro same
    exact absent (f att) ((mem_modify keeps found).mpr (Or.inr rfl)) (named.trans same.symm)
  refine ⟨apart, ?_⟩
  intro r stored same
  exact absent r ((mem_modify keeps found).mpr (Or.inl ⟨stored, fun equal => apart (same.symm.trans equal)⟩)) same

omit [Field K] [LinearOrder K] [FloorRing K] in
theorem mem_writeVerdicts {t : Table (Attribution K)} {g : KpGraph K} {studentId : Nat}
    {findings : List (AttributionFinding K)} (unique : OnePerCause t)
    (distinct : (findings.map AttributionFinding.key).Nodup) {r : Attribution K}
    (listed : r ∈ (writeVerdicts t g studentId findings).1.rows) :
    (∃ old ∈ t.rows, r.id = old.id ∧ r.teacherNote = old.teacherNote ∧
      (r.status = .overridden ↔ old.status = .overridden)) ∨
    (∀ old ∈ t.rows, old.id ≠ r.id) ∧ r.teacherNote = none ∧ r.status = .active := by
  rw [rows_writeVerdicts unique distinct] at listed
  rcases List.mem_append.mp listed with kept | added
  · left
    have ⟨old, stored, written⟩ := List.mem_map.mp kept
    refine ⟨old, stored, ?_⟩
    rw [← written]
    rcases settle_cases g studentId findings old with ⟨f, _, _, _, same⟩ | ⟨_, _, same⟩ | ⟨_, same⟩
    · rw [same]
      unfold refreshVerdict
      split <;> exact ⟨rfl, rfl, Iff.rfl⟩
    · rw [same]
      unfold retireVerdict
      split
      · rename_i active
        refine ⟨rfl, rfl, ?_⟩
        rw [active]
        simp
      · exact ⟨rfl, rfl, Iff.rfl⟩
    · rw [same]
      exact ⟨rfl, rfl, Iff.rfl⟩
  · right
    have ⟨f, _, _, n, unissued, made⟩ := mem_addedVerdicts added
    subst made
    refine ⟨?_, rfl, rfl⟩
    intro old stored same
    have issued : old.id < t.nextId := t.issued old stored
    have next : old.id = n := same
    omega

omit [Field K] [LinearOrder K] [FloorRing K] in
theorem kept_writeVerdicts {t : Table (Attribution K)} (g : KpGraph K) (studentId : Nat)
    {findings : List (AttributionFinding K)} (unique : OnePerCause t)
    (distinct : (findings.map AttributionFinding.key).Nodup) {old : Attribution K} (stored : old ∈ t.rows) :
    ∃ r ∈ (writeVerdicts t g studentId findings).1.rows, r.id = old.id := by
  rw [rows_writeVerdicts unique distinct]
  exact ⟨settle g studentId findings old, List.mem_append_left _ (List.mem_map_of_mem stored),
    (settle_frame g studentId findings old).1⟩

omit [Field K] [LinearOrder K] [FloorRing K] in
theorem logged_write (logged : Logged s) {g : KpGraph K} {studentId : Nat} {findings : List (AttributionFinding K)}
    (distinct : (findings.map AttributionFinding.key).Nodup) (inside : ∀ f ∈ findings, f.kpId ∈ g.kpIds) :
    Logged (⟨(writeVerdicts s.table g studentId findings).1, s.log⟩ : Recorded K) where
  unique := writeVerdicts_onePerCause logged.unique distinct inside
  blank := by
    intro id absent
    apply logged.blank id
    intro old stored same
    have ⟨r, kept, named⟩ := kept_writeVerdicts g studentId logged.unique distinct stored
    exact absent r kept (named.trans same)
  settled := by
    intro r listed
    rcases mem_writeVerdicts logged.unique distinct listed with ⟨old, stored, named, _, status⟩ | ⟨fresh, _, active⟩
    · rw [status, named]
      exact logged.settled old stored
    · have ⟨unjudged, unvetoed⟩ := logged.blank r.id fresh
      dsimp only
      rw [active, unjudged, unvetoed]
      simp
  apart := logged.apart

omit [Field K] [LinearOrder K] [FloorRing K] in
/-- An active row has been neither overridden nor falsified. -/
theorem open_of_active (logged : Logged s) {id : Nat} {att : Attribution K} (found : s.table.get? id = some att)
    (active : att.status = .active) : s.log.vetoed id = false ∧ s.log.lastVerdict id ≠ some .falsified := by
  have settled := logged.settled att (Table.get?_mem found)
  rw [show att.id = id from Table.get?_key found, active] at settled
  constructor
  · rw [Bool.eq_false_iff]
    intro vetoed
    cases settled.mpr (Or.inl vetoed)
  · intro falsified
    cases settled.mpr (Or.inr falsified)

omit [Field K] [LinearOrder K] [FloorRing K] in
/-- A ruling on one row: the log says of the row what its new status says, and of the others what it said. -/
theorem logged_modify (logged : Logged s) {id : Nat} {att : Attribution K} {f : Attribution K → Attribution K}
    (keeps : ∀ r, Keyed.key (f r) = Keyed.key r) (found : s.table.get? id = some att)
    (unique : OnePerCause (s.table.modify id f keeps)) {log : RulingLog}
    (elsewhere : ∀ other, other ≠ id →
      log.lastVerdict other = s.log.lastVerdict other ∧ log.vetoed other = s.log.vetoed other)
    (settled : (f att).status = .overridden ↔ log.vetoed id = true ∨ log.lastVerdict id = some .falsified)
    (apart : log.vetoed id = true → log.lastVerdict id ≠ some .falsified) :
    Logged (⟨s.table.modify id f keeps, log⟩ : Recorded K) where
  unique := unique
  blank := by
    intro other absent
    have ⟨different, unknown⟩ := absent_modify keeps found absent
    rw [(elsewhere other different).1, (elsewhere other different).2]
    exact logged.blank other unknown
  settled := by
    intro r listed
    rcases (mem_modify keeps found).mp listed with ⟨stored, other⟩ | written
    · rw [(elsewhere r.id other).1, (elsewhere r.id other).2]
      exact logged.settled r stored
    · have named : r.id = id := by
        rw [written]
        exact (keeps att).trans (Table.get?_key found)
      rw [named, written]
      exact settled
  apart := by
    intro other vetoed
    by_cases here : other = id
    · rw [here] at vetoed ⊢
      exact apart vetoed
    · rw [(elsewhere other here).2] at vetoed
      rw [(elsewhere other here).1]
      exact logged.apart other vetoed

omit [Field K] [LinearOrder K] [FloorRing K] in
theorem logged_annotate (logged : Logged s) {id : Nat} {att : Attribution K} (found : s.table.get? id = some att)
    (active : att.status = .active) (verdict : Finding) (note : String) :
    Logged (⟨s.table.modify id (annotate verdict note) (annotate_keeps verdict note), s.log.judge id verdict⟩ : Recorded K) := by
  have unvetoed : (s.log.judge id verdict).vetoed id = false := (open_of_active logged found active).1
  apply logged_modify logged (annotate_keeps verdict note) found
  · exact modify_onePerCause (annotate_keeps verdict note) logged.unique found active (annotate_ruling verdict note)
  · intro other different
    exact ⟨RulingLog.judge_other different s.log verdict, rfl⟩
  · rw [RulingLog.judge_self, unvetoed]
    simp only [annotate, active]
    cases verdict <;> simp
  · intro vetoed
    rw [unvetoed] at vetoed
    cases vetoed

omit [Field K] [LinearOrder K] [FloorRing K] in
theorem logged_veto (logged : Logged s) {id : Nat} {att : Attribution K} (found : s.table.get? id = some att)
    (active : att.status = .active) (note : Option String) :
    Logged (⟨s.table.modify id (veto note) (veto_keeps note), s.log.veto id⟩ : Recorded K) := by
  apply logged_modify logged (veto_keeps note) found
  · exact modify_onePerCause (veto_keeps note) logged.unique found active (veto_ruling note)
  · intro other different
    exact ⟨rfl, RulingLog.veto_other different s.log⟩
  · rw [RulingLog.veto_self]
    simp [veto]
  · intro _
    exact (open_of_active logged found active).2

theorem logged_step (cfg : Config K) (s : Recorded K) (a : Action K) (logged : Logged s) :
    Logged (recordedStep cfg s a) := by
  rcases recordedStep_cases cfg s a with ⟨g, studentId, findings, distinct, inside, written, _⟩ |
      ⟨id, att, verdict, note, found, active, written, _⟩ | ⟨id, att, note, found, active, written, _⟩ | ⟨same, _⟩
  · rw [written]
    exact logged_write logged distinct inside
  · rw [written]
    exact logged_annotate logged found active verdict note
  · rw [written]
    exact logged_veto logged found active note
  · rw [same]
    exact logged

omit [Field K] [LinearOrder K] [FloorRing K] in
theorem classifyVerdict_filter (note : Option String) :
    classifyVerdict (note.filter (fun text => text != "")) = classifyVerdict note := by
  cases note with
  | none => rfl
  | some text =>
    by_cases empty : text = ""
    · subst empty
      rfl
    · simp [Option.filter, empty]

omit [Field K] [LinearOrder K] [FloorRing K] in
theorem read_write (logged : Logged s) (read : Read s) {g : KpGraph K} {studentId : Nat}
    {findings : List (AttributionFinding K)} (distinct : (findings.map AttributionFinding.key).Nodup) :
    Read (⟨(writeVerdicts s.table g studentId findings).1, s.log⟩ : Recorded K) := by
  intro r listed
  rcases mem_writeVerdicts logged.unique distinct listed with ⟨old, stored, named, note, _⟩ | ⟨fresh, note, _⟩
  · rw [note, named]
    exact read old stored
  · rw [note]
    exact (logged.blank r.id fresh).1.symm

omit [Field K] [LinearOrder K] [FloorRing K] in
/-- A ruling on one row leaves the others read right; the row itself is when its new note is. -/
theorem read_modify_iff (read : Read s) {id : Nat} {att : Attribution K} {f : Attribution K → Attribution K}
    (keeps : ∀ r, Keyed.key (f r) = Keyed.key r) (found : s.table.get? id = some att) (log : RulingLog)
    (elsewhere : ∀ other, other ≠ id → log.lastVerdict other = s.log.lastVerdict other) :
    (Read (⟨s.table.modify id f keeps, log⟩ : Recorded K) ↔
      classifyVerdict (f att).teacherNote = log.lastVerdict id) ∧
    ∀ r ∈ (s.table.modify id f keeps).rows, r ≠ f att → classifyVerdict r.teacherNote = log.lastVerdict r.id := by
  have named : (f att).id = id := (keeps att).trans (Table.get?_key found)
  have others : ∀ r ∈ (s.table.modify id f keeps).rows, r ≠ f att →
      classifyVerdict r.teacherNote = log.lastVerdict r.id := by
    intro r listed different
    rcases (mem_modify keeps found).mp listed with ⟨stored, other⟩ | written
    · rw [elsewhere r.id other]
      exact read r stored
    · exact absurd written different
  refine ⟨⟨?_, ?_⟩, others⟩
  · intro after
    have own := after (f att) ((mem_modify keeps found).mpr (Or.inr rfl))
    rw [named] at own
    exact own
  · intro own r listed
    by_cases here : r = f att
    · rw [here, named]
      exact own
    · exact others r listed here

theorem read_modify_of_exact (read : Read s) {id : Nat} {att : Attribution K} {f : Attribution K → Attribution K}
    (keeps : ∀ r, Keyed.key (f r) = Keyed.key r) (found : s.table.get? id = some att) {log : RulingLog}
    (elsewhere : ∀ other, other ≠ id → log.lastVerdict other = s.log.lastVerdict other)
    (exact_ : Exact (⟨s.table.modify id f keeps, log⟩ : Recorded K)) :
    Read (⟨s.table.modify id f keeps, log⟩ : Recorded K) := by
  have ⟨own, others⟩ := read_modify_iff read keeps found log elsewhere
  have named : (f att).id = id := (keeps att).trans (Table.get?_key found)
  have right := read_of_exact ((mem_modify keeps found).mpr (Or.inr rfl)) exact_ others
  rw [named] at right
  exact own.mpr right

/-- A step keeps every note read right exactly when it is plain. -/
theorem read_step_iff (cfg : Config K) (s : Recorded K) (a : Action K) (logged : Logged s) (read : Read s) :
    Read (recordedStep cfg s a) ↔ Plain cfg s.table a := by
  rcases recordedStep_cases cfg s a with ⟨g, studentId, findings, distinct, _, written, plain⟩ |
      ⟨id, att, verdict, note, found, _, written, plain⟩ | ⟨id, att, note, found, _, written, plain⟩ | ⟨same, plain⟩
  · rw [written]
    exact iff_of_true (read_write logged read distinct) plain
  · have noted := (read_modify_iff read (annotate_keeps verdict note) found (s.log.judge id verdict)
      (fun other apart => RulingLog.judge_other apart s.log verdict)).1
    rw [written, plain, noted, RulingLog.judge_self]
    rfl
  · have noted := (read_modify_iff read (veto_keeps note) found (s.log.veto id) (fun _ _ => rfl)).1
    rw [written, plain, noted]
    dsimp only [veto]
    rw [classifyVerdict_filter, read att (Table.get?_mem found), show att.id = id from Table.get?_key found]
    rfl
  · rw [same]
    exact iff_of_true read plain

/-- A step whose counts are right has left every note read right. -/
theorem read_step_of_exact (cfg : Config K) (s : Recorded K) (a : Action K) (logged : Logged s) (read : Read s)
    (exact_ : Exact (recordedStep cfg s a)) : Read (recordedStep cfg s a) := by
  rcases recordedStep_cases cfg s a with ⟨g, studentId, findings, distinct, _, written, _⟩ |
      ⟨id, att, verdict, note, found, _, written, _⟩ | ⟨id, att, note, found, _, written, _⟩ | ⟨same, _⟩
  · rw [written]
    exact read_write logged read distinct
  · rw [written] at exact_ ⊢
    exact read_modify_of_exact read (annotate_keeps verdict note) found
      (fun other apart => RulingLog.judge_other apart s.log verdict) exact_
  · rw [written] at exact_ ⊢
    exact read_modify_of_exact read (veto_keeps note) found (fun _ _ => rfl) exact_
  · rw [same]
    exact read

omit [Field K] [LinearOrder K] [FloorRing K] in
theorem start_logged : Logged (Recorded.start K) where
  unique := by
    intro r stored
    cases stored
  blank := fun _ _ => ⟨rfl, rfl⟩
  settled := by
    intro r stored
    cases stored
  apart := by
    intro id vetoed
    cases vetoed

theorem along_recorded (cfg : Config K) (actions : List (Action K)) (s : Recorded K) :
    Protocol.Along (recordedStep cfg) (fun s a => Plain cfg s.table a) s actions ↔
      Protocol.Along (step cfg) (Plain cfg) s.table actions := by
  induction actions generalizing s with
  | nil => exact Iff.rfl
  | cons a actions ih => exact and_congr_right (fun _ => ih (recordedStep cfg s a))

/-- Where every closure along a run counts right, every note along it is read right. -/
theorem run_read_of_exact (cfg : Config K) (actions : List (Action K))
    (exact_ : ∀ first rest, actions = first ++ rest → Exact (Protocol.run (recordedStep cfg) (Recorded.start K) first)) :
    ∀ first rest, actions = first ++ rest → Read (Protocol.run (recordedStep cfg) (Recorded.start K) first) := by
  intro first
  induction first using List.reverseRecOn with
  | nil =>
    intro rest _ r stored
    cases stored
  | append_singleton first a ih =>
    intro rest split
    have earlier := ih (a :: rest) (by rw [split, List.append_assoc]; rfl)
    have logged : Logged (Protocol.run (recordedStep cfg) (Recorded.start K) first) :=
      Protocol.run_invariant (logged_step cfg) first _ start_logged
    have now := exact_ (first ++ [a]) rest split
    rw [Protocol.run_append] at now ⊢
    exact read_step_of_exact cfg _ a logged earlier now

/-- The closure counts right all along a run exactly when every call of the run is plain. -/
theorem closure_exact_iff (cfg : Config K) (actions : List (Action K)) :
    (∀ first rest, actions = first ++ rest → Exact (Protocol.run (recordedStep cfg) (Recorded.start K) first)) ↔
      Protocol.Along (step cfg) (Plain cfg) Table.empty actions := by
  have kept := Protocol.along_iff_kept (logged_step cfg) (read_step_iff cfg) actions (Recorded.start K) start_logged
    (fun r stored => by cases stored)
  refine Iff.trans ?_ (kept.trans (along_recorded cfg actions (Recorded.start K)))
  constructor
  · intro exact_
    exact run_read_of_exact cfg actions exact_
  · intro read first rest split
    exact exact_of_read (Protocol.run_invariant (logged_step cfg) first _ start_logged) (read first rest split)

end

/-! A pupil who gets two points wrong, one a prerequisite of the other. -/

def rootPoint (id : Nat) (name : String) : KnowledgePoint ℚ :=
  { id := id, kbVersionId := 1, code := "N" ++ toString id, name := name, grade := 7, cogLevelsExpected := [],
    difficultyPrior := 1 / 2, masteryFloor := 6 / 10, importance := .core, archived := false }

def rootedGraph : KpGraph ℚ where
  points := [rootPoint 9 "有理数", rootPoint 10 "方程"]
  prereq k := if k = 10 then [(9, 1)] else []
  succ _ := []
  confusable _ := []
  nodup := by decide
  prereq_closed := by
    intro k e edge
    split at edge
    · rw [List.mem_singleton.mp edge]
      decide
    · cases edge
  succ_closed := by
    intro k e edge
    cases edge
  confusable_closed := by
    intro k p partner
    cases partner

def rootedDb : Db ℚ :=
  { Db.empty ℚ with
    classes := .ofList [⟨1, 7⟩]
    students := .ofList [⟨1, 1, "甲"⟩]
    progress := .ofList [⟨1, 1, 9, 0⟩, ⟨2, 1, 10, 0⟩]
    events := .ofList ((List.range 6).map (fun n =>
      { id := n + 1, studentId := 1, kpId := n / 3 + 9, responseAnswerId := n + 1, sourceType := .unit,
        value := 0, weight := 1, cogLevel := .apply, classAvgRate := none, occurredAt := noon 4 })) }

def verifiedThenVetoed : List (Action ℚ) :=
  [.materialize rootedDb rootedGraph 1 1 (noon 5) none, .verify rootedDb rootedGraph 1 (noon 5), .override 1 none]

def vetoedInWords : List (Action ℚ) :=
  [.materialize rootedDb rootedGraph 1 1 (noon 5) none, .override 1 (some "与上次诊断题证伪的结论一致")]

/-- A veto without a note wipes out the verdict before it, and one that speaks of a verdict makes one. -/
theorem notes_lose_and_make_verdicts :
    (let s := Protocol.run (recordedStep Config.rational) (Recorded.start ℚ) verifiedThenVetoed
     s.table.rows.map (fun r => (r.id, s.log.lastVerdict r.id)) = [(1, some .supported)] ∧
       (attributionClosure { rootedDb with attributions := s.table } none).byVerdict.getD .supported 0 = 0 ∧ ¬ Exact s) ∧
    (let s := Protocol.run (recordedStep Config.rational) (Recorded.start ℚ) vetoedInWords
     s.table.rows.map (fun r => (r.id, s.log.lastVerdict r.id, s.log.vetoed r.id)) = [(1, none, true)] ∧
       (attributionClosure { rootedDb with attributions := s.table } none).byVerdict.getD .falsified 0 = 1 ∧
       (attributionClosure { rootedDb with attributions := s.table } none).teacherOverridden = 0 ∧ ¬ Exact s) := by
  refine ⟨⟨by decide +kernel, by decide +kernel, ?_⟩, ⟨by decide +kernel, by decide +kernel, by decide +kernel, ?_⟩⟩
  · intro exact_
    have counts := (exact_ rootedDb none).1 .supported
    revert counts
    decide +kernel
  · intro exact_
    have counts := (exact_ rootedDb none).1 .falsified
    revert counts
    decide +kernel

end KnowledgeGap.Verdicts
