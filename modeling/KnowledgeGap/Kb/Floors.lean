import KnowledgeGap.Kb.Editing
import KnowledgeGap.Verdicts.Materialize
import Mathlib.Algebra.Order.Field.Basic
import Mathlib.Data.List.Dedup

namespace KnowledgeGap.Kb.Editing

open Relational

variable {K : Type}

/-! The list of masteries. -/

structure MasteryRow (K : Type) where
  studentId : Nat
  kpCode : String
  kpName : String
  mastery : K
  belowFloor : Bool
  deriving DecidableEq, Repr

structure MasteryList (K : Type) where
  asOf : Date
  weakFirst : List (MasteryRow K)
  weakTotal : Nat
  masteredSample : List (MasteryRow K)
  totalPairs : Nat
  truncated : Bool
  deriving DecidableEq, Repr

def weakFirstLimit : Nat := 20

section
variable [Field K] [LinearOrder K] [FloorRing K] (cfg : Config K)

/-- The row of one pair, if there is evidence; the error is the `KeyError` of a point that is nowhere. -/
def masteryRow (db : Db K) (g : KpGraph K) (when_ : DateTime) (pair : Nat × Nat) : Except Nat (Option (MasteryRow K)) :=
  match masteryAt cfg db pair.1 pair.2 when_ with
  | none => .ok none
  | some m =>
    match g.kp? db pair.2 with
    | none => .error pair.2
    | some kp => .ok (some ⟨pair.1, kp.code, kp.name, roundTo 3 m, decide (m < kp.masteryFloor)⟩)

/-- `key=lambda r: (not r["below_floor"], r["mastery"])` -/
def weakerRow : MasteryRow K → MasteryRow K → Bool :=
  lexicographic (fun a b => a.belowFloor || !b.belowFloor) (fun a b => decide (a.mastery ≤ b.mastery))

def getKpMastery (db : Db K) (g : KpGraph K) (studentIds kpIds : List Nat) (when_ : DateTime) : Except Nat (MasteryList K) :=
  ((studentIds.flatMap (fun sid => kpIds.map (fun kpId => (sid, kpId)))).mapM (masteryRow cfg db g when_)).map fun found =>
    let rows := stableSort weakerRow (found.filterMap id)
    let weakRows := rows.filter MasteryRow.belowFloor
    let okRows := rows.filter (fun r => !r.belowFloor)
    ⟨dateOf when_, weakRows.take weakFirstLimit, weakRows.length, okRows.take 10, rows.length,
      decide ((weakRows.take weakFirstLimit).length + (okRows.take 10).length < rows.length)⟩

end

/-! The evidence a study plan is written from. -/

structure PackPrerequisite where
  name : String
  masteryPct : Int
  deriving DecidableEq, Repr

structure PackAttribution where
  type : String
  confidencePct : Int
  rootKp : Option String
  howStuck : String
  teacherNote : Option String
  deriving DecidableEq, Repr

structure StudyPack where
  alias_ : String
  kpName : String
  kpCode : String
  chapter : String
  description : String
  masteryPct : Option Int
  criterion : Option WeakCriterion
  evidenceCount : Nat
  trajectory : String
  prerequisites : List PackPrerequisite
  attribution : Option PackAttribution
  deriving DecidableEq, Repr

def attrLabel : AttributionType → String
  | .prereq => "基础没打牢"
  | .forget => "学过但忘了"
  | .insufficient => "数据不足"
  | .confusable => "概念混淆"

def trajLabel : Option Trajectory → String
  | none => ""
  | some .stable => "稳定"
  | some .rising => "上升"
  | some .declining => "下滑"
  | some .volatile => "时好时坏"

section
variable [Field K] [LinearOrder K] [FloorRing K] (cfg : Config K)

/-- `_pct` -/
def pct (x : K) : Int := roundHalfEven (x * (100 : Nat))

/-- The points before the given one that the pupil is below the floor of, with his mastery. -/
def weakPrerequisites (db : Db K) (g : KpGraph K) (studentId kpId : Nat) (asOf : DateTime) : List (KnowledgePoint K × K) :=
  (g.prerequisiteChain kpId 3).filterMap fun anc =>
    (g.kp? db anc.kpId).bind fun p =>
      ((masteryAt cfg db studentId anc.kpId asOf).filter (fun m => decide (m < p.masteryFloor))).map (fun m => (p, m))

def packAttribution (db : Db K) (g : KpGraph K) (student : Student) (kpId : Nat) (asOf : DateTime) : Option PackAttribution :=
  ((resolveAttributions cfg db g student.id student.classId asOf none).find?
    (fun r => r.kpId == kpId && decide (r.verdict = .active))).map fun r =>
      ⟨attrLabel r.type, pct r.confidence, (r.rootKpId.bind (g.kp? db)).map KnowledgePoint.name, r.prediction, r.teacherNote⟩

/-- `study_evidence_pack`; there is none for a point that is nowhere. -/
def studyEvidencePack (db : Db K) (g : KpGraph K) (student : Student) (kpId : Nat) (a : KpAssessment K) (asOf : DateTime) :
    Option StudyPack :=
  (g.kp? db kpId).map fun kp =>
    { alias_ := student.nameOrAlias, kpName := kp.name, kpCode := kp.code, chapter := kp.chapter, description := kp.description,
      masteryPct := a.mastery.map pct, criterion := a.weakCriterion, evidenceCount := a.evidenceCount,
      trajectory := trajLabel a.trajectory,
      prerequisites := (weakPrerequisites cfg db g student.id kpId asOf).map (fun e => ⟨e.1.name, pct e.2⟩),
      attribution := packAttribution cfg db g student kpId asOf }

end

/-! One floor everywhere. -/

section
variable [Field K] [LinearOrder K]

/-- The floor the expected levels stand for. -/
def derivedFloor (levels : List CogLevel) : K :=
  match [CogLevel.synthesize, .apply, .understand, .recall].find? (fun cog => decide (cog ∈ levels)) with
  | some cog => cogFloorDefault cog
  | none => defaultMasteryFloor K

/-- The point has a floor of its own, or the mastery lies on the same side of the default and of the derived floor. -/
def Undisputed (p : KnowledgePoint K) (m : K) : Prop :=
  p.masteryFloor ≠ defaultMasteryFloor K ∨ (m < defaultMasteryFloor K ↔ m < derivedFloor p.cogLevelsExpected)

variable [FloorRing K] (cfg : Config K)

/-- `get_kp_mastery` marks every pair by the effective floor. -/
def MarksExact (db : Db K) (g : KpGraph K) (studentIds kpIds : List Nat) (when_ : DateTime) : Prop :=
  ∀ sid ∈ studentIds, ∀ kpId ∈ kpIds, ∀ kp m row, g.kp? db kpId = some kp → masteryAt cfg db sid kpId when_ = some m →
    masteryRow cfg db g when_ (sid, kpId) = .ok (some row) → (row.belowFloor = true ↔ m < effectiveFloor kp)

/-- A preview counts by the effective floors before and after the change. -/
def ImpactExact (db : Db K) (kpId : Nat) (c : KpChanges K) (today : Date) : Prop :=
  ∀ p impact, updateKp cfg db kpId true c today = (db, .ok (p, .preview impact)) →
    impact.current.weakCount = weakCountForKp cfg db kpId (effectiveFloor p) today ∧
      impact.projected.weakCount = weakCountForKp cfg db kpId (effectiveFloor (c.apply p)) today

/-- A study plan lists a prerequisite by its effective floor. -/
def PackExact (db : Db K) (g : KpGraph K) (studentId kpId : Nat) (asOf : DateTime) : Prop :=
  ∀ anc ∈ g.prerequisiteChain kpId 3, ∀ p m, g.kp? db anc.kpId = some p → masteryAt cfg db studentId anc.kpId asOf = some m →
    ((p, m) ∈ weakPrerequisites cfg db g studentId kpId asOf ↔ m < effectiveFloor p)

/-- A floor that a teacher sets is the floor in force. -/
def OverrideExact (db : Db K) (kpId : Nat) (preview : Bool) (c : KpChanges K) (today : Date) (f : K) : Prop :=
  ∀ after p count, updateKp cfg db kpId preview c today = (after, .ok (p, .applied count)) → c.masteryFloor = some f →
    ∀ q, after.knowledgePoints.get? kpId = some q → effectiveFloor q = f

/-- Nothing in the list is disputed. -/
def MarksUndisputed (db : Db K) (g : KpGraph K) (studentIds kpIds : List Nat) (when_ : DateTime) : Prop :=
  ∀ sid ∈ studentIds, ∀ kpId ∈ kpIds, ∀ kp m, g.kp? db kpId = some kp → masteryAt cfg db sid kpId when_ = some m → Undisputed kp m

/-- No pupil with evidence is disputed, before the change or after it. -/
def ImpactUndisputed (db : Db K) (kpId : Nat) (c : KpChanges K) (today : Date) : Prop :=
  ∀ p, db.knowledgePoints.get? kpId = some p → c.validate = .ok () → c.hiLever = true →
    ∀ e ∈ db.events.rows, e.kpId = kpId → ∀ m, masteryAt cfg db e.studentId kpId (dayEnd today) = some m →
      Undisputed p m ∧ Undisputed (c.apply p) m

def PackUndisputed (db : Db K) (g : KpGraph K) (studentId kpId : Nat) (asOf : DateTime) : Prop :=
  ∀ anc ∈ g.prerequisiteChain kpId 3, ∀ p m, g.kp? db anc.kpId = some p → masteryAt cfg db studentId anc.kpId asOf = some m →
    Undisputed p m

/-- The floor set is not the default, or the levels after the change stand for the default. -/
def OverrideHeeded (db : Db K) (kpId : Nat) (preview : Bool) (c : KpChanges K) (f : K) : Prop :=
  ∀ p, db.knowledgePoints.get? kpId = some p → c.validate = .ok () → (preview && c.hiLever) = false → c.masteryFloor = some f →
    f ≠ defaultMasteryFloor K ∨ derivedFloor (c.cogLevelsExpected.getD p.cogLevelsExpected) = defaultMasteryFloor K

end

section
variable [Field K] [LinearOrder K]

theorem effectiveFloor_eq (p : KnowledgePoint K) :
    effectiveFloor p = if p.masteryFloor ≠ defaultMasteryFloor K then p.masteryFloor else derivedFloor p.cogLevelsExpected := rfl

/-- The stored and the effective floor put a mastery on the same side exactly where it is undisputed. -/
theorem same_side_iff (p : KnowledgePoint K) (m : K) : (m < p.masteryFloor ↔ m < effectiveFloor p) ↔ Undisputed p m := by
  rw [effectiveFloor_eq, Undisputed]
  by_cases default : p.masteryFloor = defaultMasteryFloor K
  · rw [if_neg (not_not.mpr default), default]
    exact ⟨Or.inr, fun sides => sides.resolve_left (not_not.mpr rfl)⟩
  · rw [if_pos default]
    exact ⟨fun _ => Or.inl default, fun _ => Iff.rfl⟩

omit [Field K] [LinearOrder K] in
/-- Where the narrower test counts as many, it is no narrower. -/
theorem of_countP_le {α : Type} {narrow wide : α → Bool} {xs : List α} (implies : ∀ x ∈ xs, narrow x = true → wide x = true)
    (many : xs.countP wide ≤ xs.countP narrow) : ∀ x ∈ xs, wide x = true → narrow x = true := by
  induction xs with
  | nil =>
    intro x member
    cases member
  | cons y xs ih =>
    have rest : ∀ x ∈ xs, narrow x = true → wide x = true := fun x member => implies x (List.mem_cons_of_mem _ member)
    have fewer := List.countP_mono_left rest
    have here := implies y List.mem_cons_self
    rw [List.countP_cons, List.countP_cons] at many
    intro x member holds
    rcases List.mem_cons.mp member with first | later
    · subst first
      by_contra fails
      rw [if_pos holds, if_neg fails] at many
      omega
    · apply ih rest _ x later holds
      by_cases narrowed : narrow y = true
      · rw [if_pos narrowed, if_pos (here narrowed)] at many
        omega
      · rw [if_neg narrowed] at many
        omega

omit [Field K] in
/-- Two thresholds count the same exactly where nothing lies between them. -/
theorem countP_below_eq_iff {α : Type} (f : α → Option K) (a b : K) (xs : List α) :
    xs.countP (fun x => (f x).any (fun m => decide (m < a))) = xs.countP (fun x => (f x).any (fun m => decide (m < b))) ↔
      ∀ x ∈ xs, ∀ m, f x = some m → (m < a ↔ m < b) := by
  have reads : ∀ (c : K) (x : α) (m : K), f x = some m → ((f x).any (fun m => decide (m < c)) = true ↔ m < c) := by
    intro c x m value
    rw [value]
    exact decide_eq_true_iff
  have one : ∀ low high : K, low ≤ high →
      xs.countP (fun x => (f x).any (fun m => decide (m < low))) = xs.countP (fun x => (f x).any (fun m => decide (m < high))) →
        ∀ x ∈ xs, ∀ m, f x = some m → (m < low ↔ m < high) := by
    intro low high order same x member m value
    have implies : ∀ x ∈ xs, (f x).any (fun m => decide (m < low)) = true → (f x).any (fun m => decide (m < high)) = true := by
      intro x _ below
      cases value : f x with
      | none =>
        rw [value] at below
        cases below
      | some m => exact value ▸ (reads high x m value).mpr (lt_of_lt_of_le ((reads low x m value).mp below) order)
    have back := of_countP_le implies (le_of_eq same.symm) x member
    rw [reads low x m value, reads high x m value] at back
    exact ⟨fun below => lt_of_lt_of_le below order, back⟩
  constructor
  · intro same
    rcases le_total a b with order | order
    · exact one a b order same
    · exact fun x member m value => (one b a order same.symm x member m value).symm
  · intro alike
    apply List.countP_congr
    intro x member
    cases value : f x with
    | none => exact Iff.rfl
    | some m => exact value ▸ ((reads a x m value).trans (alike x member m value)).trans (reads b x m value).symm

variable [FloorRing K] (cfg : Config K)

omit [FloorRing K] in
/-- The counts agree exactly where no pupil with evidence is between the two floors. -/
theorem weakCountForKp_eq_iff (db : Db K) (kpId : Nat) (a b : K) (today : Date) :
    weakCountForKp cfg db kpId a today = weakCountForKp cfg db kpId b today ↔
      ∀ e ∈ db.events.rows, e.kpId = kpId → ∀ m, masteryAt cfg db e.studentId kpId (dayEnd today) = some m → (m < a ↔ m < b) := by
  unfold weakCountForKp
  rw [countP_below_eq_iff]
  constructor
  · intro alike e stored here
    apply alike e.studentId
    rw [List.mem_dedup]
    exact List.mem_map_of_mem (List.mem_filter.mpr ⟨stored, by simpa using here⟩)
  · intro alike sid member
    rw [List.mem_dedup] at member
    obtain ⟨e, listed, rfl⟩ := List.mem_map.mp member
    obtain ⟨stored, here⟩ := List.mem_filter.mp listed
    exact alike e stored (by simpa using here)

theorem marks_iff (db : Db K) (g : KpGraph K) (studentIds kpIds : List Nat) (when_ : DateTime) :
    MarksExact cfg db g studentIds kpIds when_ ↔ MarksUndisputed cfg db g studentIds kpIds when_ := by
  have row : ∀ sid kpId kp m, g.kp? db kpId = some kp → masteryAt cfg db sid kpId when_ = some m →
      masteryRow cfg db g when_ (sid, kpId) = .ok (some ⟨sid, kp.code, kp.name, roundTo 3 m, decide (m < kp.masteryFloor)⟩) := by
    intro sid kpId kp m found measured
    unfold masteryRow
    rw [measured]
    dsimp only
    rw [found]
  constructor
  · intro marks sid listed kpId asked kp m found measured
    have exact_ := marks sid listed kpId asked kp m _ found measured (row sid kpId kp m found measured)
    rw [decide_eq_true_iff] at exact_
    exact (same_side_iff kp m).mp exact_
  · intro undisputed sid listed kpId asked kp m made found measured done
    rw [row sid kpId kp m found measured] at done
    cases done
    rw [decide_eq_true_iff]
    exact (same_side_iff kp m).mpr (undisputed sid listed kpId asked kp m found measured)

/-- What a successful update answers: a preview, or the point as written. -/
inductive Updated (db : Db K) (kpId : Nat) (preview : Bool) (c : KpChanges K) (today : Date) (p : KnowledgePoint K) :
    Db K × KnowledgePoint K × Impact K → Prop
  | previewed (shown : (preview && c.hiLever) = true) (note : Option String) : Updated db kpId preview c today p
      (db, p, .preview { floorImpact cfg db kpId p.masteryFloor (c.apply p).masteryFloor today with note := note })
  | written (stored : (preview && c.hiLever) = false) (count : Option (FloorCount K)) : Updated db kpId preview c today p
      ({ db with knowledgePoints := db.knowledgePoints.modify kpId c.apply c.apply_key }, c.apply p, .applied count)

theorem updateKp_ok {db : Db K} {kpId : Nat} {preview : Bool} {c : KpChanges K} {today : Date} {after : Db K}
    {q : KnowledgePoint K} {impact : Impact K} (done : updateKp cfg db kpId preview c today = (after, .ok (q, impact))) :
    ∃ p, db.knowledgePoints.get? kpId = some p ∧ c.validate = .ok () ∧ Updated cfg db kpId preview c today p (after, q, impact) := by
  unfold updateKp at done
  split at done
  · cases done
  · rename_i p found
    split at done
    · cases done
    · rename_i valid
      dsimp only at done
      split at done
      · rename_i shown
        cases done
        exact ⟨_, found, valid, .previewed shown _⟩
      · rename_i stored
        cases done
        exact ⟨p, found, valid, .written (by simpa using stored) _⟩

theorem updateKp_answers {db : Db K} {kpId : Nat} {p : KnowledgePoint K} (found : db.knowledgePoints.get? kpId = some p)
    {c : KpChanges K} (valid : c.validate = .ok ()) (preview : Bool) (today : Date) :
    ∃ after q impact, updateKp cfg db kpId preview c today = (after, .ok (q, impact)) := by
  unfold updateKp
  rw [found]
  dsimp only
  rw [valid]
  dsimp only
  split
  · exact ⟨_, _, _, rfl⟩
  · exact ⟨_, _, _, rfl⟩

theorem impact_iff (db : Db K) (kpId : Nat) (c : KpChanges K) (today : Date) :
    ImpactExact cfg db kpId c today ↔ ImpactUndisputed cfg db kpId c today := by
  have sides : ∀ p : KnowledgePoint K,
      weakCountForKp cfg db kpId p.masteryFloor today = weakCountForKp cfg db kpId (effectiveFloor p) today ↔
        ∀ e ∈ db.events.rows, e.kpId = kpId → ∀ m, masteryAt cfg db e.studentId kpId (dayEnd today) = some m → Undisputed p m := by
    intro p
    rw [weakCountForKp_eq_iff]
    constructor
    · intro alike e stored here m measured
      exact (same_side_iff p m).mp (alike e stored here m measured)
    · intro undisputed e stored here m measured
      exact (same_side_iff p m).mpr (undisputed e stored here m measured)
  constructor
  · intro counts p found valid lever e stored here m measured
    obtain ⟨after, q, impact, done⟩ := updateKp_answers cfg found valid true today
    obtain ⟨p', found', _, result⟩ := updateKp_ok cfg done
    have same : p' = p := Option.some.inj (found'.symm.trans found)
    subst same
    cases result with
    | previewed shown note =>
      have both := counts _ _ done
      exact ⟨(sides _).mp both.1 e stored here m measured, (sides _).mp both.2 e stored here m measured⟩
    | written unseen =>
      rw [lever] at unseen
      cases unseen
  · intro undisputed p impact done
    obtain ⟨p', found, valid, result⟩ := updateKp_ok cfg done
    generalize made : (db, p, Impact.preview impact) = answer at result
    cases result with
    | written _ count => cases congrArg (fun answer => answer.2.2) made
    | previewed shown note =>
      cases made
      have lever : c.hiLever = true := by simpa using shown
      have each := undisputed _ found valid lever
      exact ⟨(sides _).mpr (fun e stored here m measured => (each e stored here m measured).1),
        (sides _).mpr (fun e stored here m measured => (each e stored here m measured).2)⟩

omit [FloorRing K] in
theorem mem_weakPrerequisites {db : Db K} {g : KpGraph K} {studentId kpId : Nat} {asOf : DateTime} {anc : KpGraph.Ancestor K}
    (chained : anc ∈ g.prerequisiteChain kpId 3) {p : KnowledgePoint K} {m : K} (found : g.kp? db anc.kpId = some p)
    (measured : masteryAt cfg db studentId anc.kpId asOf = some m) :
    (p, m) ∈ weakPrerequisites cfg db g studentId kpId asOf ↔ m < p.masteryFloor := by
  unfold weakPrerequisites
  rw [List.mem_filterMap]
  constructor
  · intro listed
    obtain ⟨other, _, made⟩ := listed
    obtain ⟨q, _, kept⟩ := Option.bind_eq_some_iff.mp made
    obtain ⟨n, low, pair⟩ := Option.map_eq_some_iff.mp kept
    cases pair
    exact of_decide_eq_true (Option.filter_eq_some_iff.mp low).2
  · intro below
    refine ⟨anc, chained, ?_⟩
    rw [found, measured, Option.bind_some, Option.filter_some, if_pos (decide_eq_true below)]
    rfl

omit [FloorRing K] in
theorem pack_iff (db : Db K) (g : KpGraph K) (studentId kpId : Nat) (asOf : DateTime) :
    PackExact cfg db g studentId kpId asOf ↔ PackUndisputed cfg db g studentId kpId asOf := by
  constructor
  · intro lists anc chained p m found measured
    have here := lists anc chained p m found measured
    rw [mem_weakPrerequisites cfg chained found measured] at here
    exact (same_side_iff p m).mp here
  · intro undisputed anc chained p m found measured
    rw [mem_weakPrerequisites cfg chained found measured]
    exact (same_side_iff p m).mpr (undisputed anc chained p m found measured)

theorem override_iff (db : Db K) (kpId : Nat) (preview : Bool) (c : KpChanges K) (today : Date) (f : K) :
    OverrideExact cfg db kpId preview c today f ↔ OverrideHeeded db kpId preview c f := by
  have reads : ∀ p : KnowledgePoint K, c.masteryFloor = some f → (effectiveFloor (c.apply p) = f ↔
      (f ≠ defaultMasteryFloor K ∨ derivedFloor (c.cogLevelsExpected.getD p.cogLevelsExpected) = defaultMasteryFloor K)) := by
    intro p given
    have floor : (c.apply p).masteryFloor = f := by
      change c.masteryFloor.getD p.masteryFloor = f
      rw [given]
      rfl
    rw [effectiveFloor_eq, floor]
    by_cases default : f = defaultMasteryFloor K
    · rw [if_neg (not_not.mpr default), default]
      exact ⟨Or.inr, fun heeded => heeded.resolve_left (not_not.mpr rfl)⟩
    · rw [if_pos default]
      exact ⟨fun _ => Or.inl default, fun _ => rfl⟩
  constructor
  · intro exact_ p found valid stored given
    obtain ⟨after, q, impact, done⟩ := updateKp_answers cfg found valid preview today
    obtain ⟨p', found', _, result⟩ := updateKp_ok cfg done
    have same : p' = p := Option.some.inj (found'.symm.trans found)
    subst same
    cases result with
    | previewed shown note =>
      rw [shown] at stored
      cases stored
    | written _ count => exact (reads _ given).mp (exact_ _ _ _ done given _ (Table.get?_modify_self c.apply_key found))
  · intro heeded after q count done given r stored
    obtain ⟨p, found, valid, result⟩ := updateKp_ok cfg done
    cases result with
    | written unseen =>
      have same : c.apply p = r := Option.some.inj ((Table.get?_modify_self c.apply_key found).symm.trans stored)
      rw [← same]
      exact (reads p given).mpr (heeded p found valid unseen given)

/-- The four readings of the floor agree exactly where nobody stands between the default and the derived floor of a
    point that carries the default, and where the default is not what a teacher sets against its levels. -/
theorem one_floor_iff (db : Db K) (g : KpGraph K) (studentIds kpIds : List Nat) (studentId kpId : Nat) (when_ : DateTime)
    (preview : Bool) (c : KpChanges K) (today : Date) (f : K) :
    (MarksExact cfg db g studentIds kpIds when_ ↔ MarksUndisputed cfg db g studentIds kpIds when_) ∧
    (ImpactExact cfg db kpId c today ↔ ImpactUndisputed cfg db kpId c today) ∧
    (PackExact cfg db g studentId kpId when_ ↔ PackUndisputed cfg db g studentId kpId when_) ∧
    (OverrideExact cfg db kpId preview c today f ↔ OverrideHeeded db kpId preview c f) :=
  ⟨marks_iff cfg db g studentIds kpIds when_, impact_iff cfg db kpId c today, pack_iff cfg db g studentId kpId when_,
    override_iff cfg db kpId preview c today f⟩

end

/-! A point for the highest level with the default floor: a mastery of 0.58 is below the default, not below the floor in force. -/

def synthesisPoint (id : Nat) (code : String) : KnowledgePoint ℚ :=
  { id := id, kbVersionId := 1, code := code, name := code, grade := 7, cogLevelsExpected := [.synthesize],
    difficultyPrior := 1 / 2, masteryFloor := 6 / 10, importance := .core, archived := false }

def floorDb : Db ℚ :=
  { Db.empty ℚ with
    kbVersions := .ofList [⟨1, "数学", some 7, "人教版", "0.1.0", .active⟩]
    knowledgePoints := .ofList [synthesisPoint 1 "M7A-101", synthesisPoint 2 "M7A-102"]
    relations := .ofList [⟨1, 1, 2, .prerequisite, 1⟩]
    classes := .ofList [⟨1, 7⟩]
    students := .ofList [⟨1, 1, "甲"⟩]
    events := .ofList [⟨1, 1, 1, 1, .unit, 58 / 100, 1, .synthesize, none, noon 0⟩] }

def defaultAgain : KpChanges ℚ := { KpChanges.none with masteryFloor := some (6 / 10) }

theorem floor_counterexample :
    ¬ MarksExact Config.rational floorDb (KpGraph.load floorDb 1) [1] [1] (dayEnd 0) ∧
    ¬ ImpactExact Config.rational floorDb 1 defaultAgain 0 ∧
    ¬ PackExact Config.rational floorDb (KpGraph.load floorDb 1) 1 2 (dayEnd 0) ∧
    ¬ OverrideExact Config.rational floorDb 1 false defaultAgain 0 (6 / 10) := by
  have measured : masteryAt Config.rational floorDb 1 1 (dayEnd 0) = some (58 / 100) := by decide +kernel
  have known : (KpGraph.load floorDb 1).kp? floorDb 1 = some (synthesisPoint 1 "M7A-101") := by decide +kernel
  have stored : floorDb.knowledgePoints.get? 1 = some (synthesisPoint 1 "M7A-101") := by decide +kernel
  have apart : ¬ ((58 / 100 : ℚ) < effectiveFloor (synthesisPoint 1 "M7A-101")) := by decide +kernel
  refine ⟨?_, ?_, ?_, ?_⟩
  · intro marks
    have row : masteryRow Config.rational floorDb (KpGraph.load floorDb 1) (dayEnd 0) (1, 1) =
        .ok (some ⟨1, "M7A-101", "M7A-101", 58 / 100, true⟩) := by decide +kernel
    exact apart ((marks 1 (by decide) 1 (by decide) _ _ _ known measured row).mp rfl)
  · intro counts
    have undisputed := (impact_iff Config.rational floorDb 1 defaultAgain 0).mp counts _ stored (by decide +kernel) rfl
      ⟨1, 1, 1, 1, .unit, 58 / 100, 1, .synthesize, none, noon 0⟩ (by decide +kernel) rfl _ measured
    exact apart (((same_side_iff _ _).mpr undisputed.1).mp (by decide +kernel))
  · intro lists
    have chained : (⟨1, 1, 1⟩ : KpGraph.Ancestor ℚ) ∈ (KpGraph.load floorDb 1).prerequisiteChain 2 3 := by decide +kernel
    exact apart ((lists ⟨1, 1, 1⟩ chained _ _ known measured).mp (by decide +kernel))
  · intro heeded
    have override := (override_iff Config.rational floorDb 1 false defaultAgain 0 (6 / 10)).mp heeded _ stored
      (by decide +kernel) rfl rfl
    exact absurd override (by decide +kernel)

end KnowledgeGap.Kb.Editing
