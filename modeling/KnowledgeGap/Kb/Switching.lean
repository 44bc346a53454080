import KnowledgeGap.Kb.Activation
import KnowledgeGap.Kb.Filing
import KnowledgeGap.Pipeline.Rekeyed
import KnowledgeGap.Verdicts.Materialize
import Mathlib.Algebra.BigOperators.Group.List.Basic
import Mathlib.Data.List.Perm.Subperm

namespace KnowledgeGap.Kb

open Relational KpGraph

variable {K : Type}

/-- What a class is told of one code. -/
structure Verdict (K : Type) where
  evidenceCount : Nat
  mastery : Option K
  gate : Option Gate
  floor : K
  isWeak : Bool
  deriving DecidableEq, Repr

def verdictOf (a : KpAssessment K) : Verdict K := ⟨a.evidenceCount, a.mastery, a.gate, a.floor, a.isWeak⟩

/-- A finding by codes. -/
structure Cause (K : Type) where
  type : AttributionType
  confidence : K
  rootCode : Option String
  evidence : List (EvidenceItem K)
  prediction : String
  deriving DecidableEq, Repr

def causeOf (db : Db K) (g : KpGraph K) (x : AttributionFinding K) : Cause K :=
  ⟨x.type, x.confidence, x.rootKpId.map (fun k => (g.label db k).1), x.evidence, x.prediction⟩

/-- An attribution as it is read: a finding with what a teacher has said of it. -/
structure Attributed (K : Type) extends Cause K where
  verdict : KnowledgeGap.Verdict
  teacherNote : Option String
  deriving DecidableEq, Repr

def attributedOf (db : Db K) (g : KpGraph K) (x : ResolvedAttribution K) : Attributed K :=
  ⟨causeOf db g x.toAttributionFinding, x.verdict, x.teacherNote⟩

/-- The note of a veto on a key, where there is one. -/
def vetoNote (db : Db K) (g : KpGraph K) (studentId : Nat) (key : Nat × AttributionType) : Option (Option String) :=
  ((overriddenVerdicts db.attributions g studentId).get? key).map Attribution.teacherNote

theorem attributedOf_overlay (db : Db K) (g : KpGraph K) (studentId : Nat) (f : AttributionFinding K) :
    attributedOf db g (overlay (overriddenVerdicts db.attributions g studentId) f) =
      ⟨causeOf db g f, if (vetoNote db g studentId f.key).isSome then .overridden else .active,
        (vetoNote db g studentId f.key).join⟩ := by
  unfold overlay vetoNote
  split
  · rename_i v found
    rw [found]
    rfl
  · rename_i found
    rw [found]
    rfl

theorem overlay_kpId (verdicts : Dict (Nat × AttributionType) (Attribution K)) (f : AttributionFinding K) :
    (overlay verdicts f).kpId = f.kpId := by
  unfold overlay
  split <;> rfl

theorem filter_code_eq {points : List (KnowledgePoint K)} (distinct : (points.map KnowledgePoint.code).Nodup)
    {p : KnowledgePoint K} (listed : p ∈ points) : points.filter (fun q => q.code == p.code) = [p] := by
  obtain ⟨left, right, split⟩ := List.append_of_mem listed
  rw [split] at distinct
  simp only [List.map_append, List.map_cons, List.nodup_append, List.nodup_cons, List.mem_cons, List.mem_map] at distinct
  obtain ⟨_, ⟨absentRight, _⟩, absentLeft⟩ := distinct
  have none_left : left.filter (fun q => q.code == p.code) = [] := by
    rw [List.filter_eq_nil_iff]
    intro q member same
    exact absentLeft q.code ⟨q, member, rfl⟩ p.code (Or.inl rfl) (by simpa using same)
  have none_right : right.filter (fun q => q.code == p.code) = [] := by
    rw [List.filter_eq_nil_iff]
    intro q member same
    exact absentRight ⟨q, member, by simpa using same⟩
  rw [split, List.filter_append, none_left, List.filter_cons, none_right]
  simp

theorem flatMap_filter_eq {α β : Type} (f : α → List β) (p : α → Bool) (xs : List α) :
    (xs.filter p).flatMap f = xs.flatMap (fun x => if p x then f x else []) := by
  induction xs with
  | nil => rfl
  | cons x xs ih =>
    rw [List.filter_cons, List.flatMap_cons, ← ih]
    split <;> simp

theorem label_of_mem (db : Db K) (g : KpGraph K) {p : KnowledgePoint K} (listed : p ∈ g.points) : g.label db p.id = (p.code, p.name) := by
  rw [KpGraph.label, kp?_of_mem db listed]

section
variable [Field K] [LinearOrder K] [FloorRing K] (cfg : Config K) (db : Db K) (g : KpGraph K) (studentId classId : Nat)
  (asOf : DateTime)

def assessmentOf (code : String) : Option (Verdict K) :=
  ((assessStudentKps cfg db g studentId classId asOf none).find? (fun a => a.kpCode == code)).map verdictOf

def attributionsOf (code : String) : List (Attributed K) :=
  ((resolveAttributions cfg db g studentId classId asOf none).filter (fun x => (g.label db x.kpId).1 == code)).map
    (attributedOf db g)

/-- The assessment of one point of the graph, as the list of assessments has it. -/
def assessed (kp : KnowledgePoint K) : KpAssessment K :=
  assessKp cfg (coveredKpIds db classId (some asOf)) asOf (db.classStudentIds classId)
    (fun s k => (getEventsBatch db (db.classStudentIds classId) (g.gradeKpIds (classGrade db classId)) asOf).getD (s, k) [])
    studentId kp

theorem assessStudentKps_eq :
    assessStudentKps cfg db g studentId classId asOf none =
      (g.gradeKps (classGrade db classId)).map (assessed cfg db g studentId classId asOf) := rfl

theorem assessed_kpId (kp : KnowledgePoint K) : (assessed cfg db g studentId classId asOf kp).kpId = kp.id := by
  rw [assessed, (assessKp_same _ _ _ _ _ _ _).kpId, measure_kpId]

theorem assessed_kpCode (kp : KnowledgePoint K) : (assessed cfg db g studentId classId asOf kp).kpCode = kp.code := by
  rw [assessed, (assessKp_same _ _ _ _ _ _ _).kpCode, (measure_named _ _ _ _ _).2.1]

theorem assessed_gate_none {p : KnowledgePoint K} (passed : (assessed cfg db g studentId classId asOf p).gate = none) :
    p.id ∈ coveredKpIds db classId (some asOf) := by
  rw [assessed, (assessKp_same _ _ _ _ _ _ _).gate] at passed
  exact (measure_gate_none passed).1

/-- The points whose assessment meets a criterion. -/
def picked (pick : KpAssessment K → Bool) : List Nat :=
  ((assessStudentKps cfg db g studentId classId asOf none).filter pick).map KpAssessment.kpId

theorem mem_picked {pick : KpAssessment K → Bool} {k : Nat} :
    k ∈ picked cfg db g studentId classId asOf pick ↔
      ∃ p ∈ g.gradeKps (classGrade db classId), pick (assessed cfg db g studentId classId asOf p) = true ∧ p.id = k := by
  rw [picked, assessStudentKps_eq, List.filter_map, List.map_map, List.mem_map]
  simp only [List.mem_filter, Function.comp_apply, assessed_kpId, and_assoc]

theorem nodup_picked (pick : KpAssessment K → Bool) : (picked cfg db g studentId classId asOf pick).Nodup := by
  have all := nodup_gradeKpIds g (classGrade db classId)
  rw [← assessStudentKps_kpIds cfg db g studentId classId asOf none] at all
  exact (List.filter_sublist.map KpAssessment.kpId).nodup all

def gradedPoint (code : String) : Option (KnowledgePoint K) :=
  (g.gradeKps (classGrade db classId)).find? (fun p => p.code == code)

theorem assessmentOf_eq (code : String) :
    assessmentOf cfg db g studentId classId asOf code =
      (gradedPoint db g classId code).map (fun p => verdictOf (assessed cfg db g studentId classId asOf p)) := by
  have codes : (fun a : KpAssessment K => a.kpCode == code) ∘ assessed cfg db g studentId classId asOf =
      fun p => p.code == code := by
    funext p
    rw [Function.comp_apply, assessed_kpCode]
  unfold assessmentOf gradedPoint
  rw [assessStudentKps_eq, List.find?_map, codes, Option.map_map]
  rfl

/-- What the share of weak points does to the findings of a student. -/
def damping (assessments : List (KpAssessment K)) (x : AttributionFinding K) : AttributionFinding K :=
  let validAssessed := assessments.filter KpAssessment.valid
  let totalW := pySum (validAssessed.map (fun a => g.weightOf db a.kpId))
  let weakW := pySum ((validAssessed.filter KpAssessment.isWeak).map (fun a => g.weightOf db a.kpId))
  if globalWeakMinSample ≤ validAssessed.length ∧ 0 < totalW ∧ globalWeakRatio K ≤ weakW / totalW then
    suppress (roundTo 2 (weakW / totalW)) x
  else x

theorem deriveFindings_eq (assessments : List (KpAssessment K)) :
    deriveFindings cfg db g studentId assessments asOf =
      (assessments.flatMap (fun a => attributeAssessment cfg db g studentId a asOf)).map (damping db g assessments) := by
  unfold deriveFindings damping
  dsimp only
  split
  · rename_i few
    rw [List.map_congr_left (g := id), List.map_id]
    intro x _
    rw [if_neg (fun held => Nat.not_le_of_lt few held.1)]
    rfl
  · rename_i enough
    split
    · rename_i global
      apply List.map_congr_left
      intro x _
      rw [if_pos ⟨Nat.le_of_not_lt enough, global⟩]
    · rename_i mild
      rw [List.map_congr_left (g := id), List.map_id]
      intro x _
      rw [if_neg (fun held => mild held.2)]
      rfl

theorem damping_kpId (assessments : List (KpAssessment K)) (x : AttributionFinding K) :
    (damping db g assessments x).kpId = x.kpId := by
  unfold damping suppress
  dsimp only
  split
  · split <;> rfl
  · rfl

theorem mem_attributeAssessment {a : KpAssessment K} {x : AttributionFinding K}
    (member : x ∈ attributeAssessment cfg db g studentId a asOf) : x.kpId = a.kpId := by
  have keyed : x.key ∈ (attributeAssessment cfg db g studentId a asOf).map AttributionFinding.key :=
    List.mem_map_of_mem member
  have among := (attributeAssessment_keys cfg db g studentId a asOf).subset keyed
  simp only [AttributionFinding.key, List.mem_cons, Prod.mk.injEq, List.not_mem_nil, or_false] at among
  rcases among with same | same | same | same <;> exact same.1

theorem forgettingDecay_root {a : KpAssessment K} {x : AttributionFinding K}
    (found : x ∈ forgettingDecay cfg db studentId a asOf) : x.rootKpId = none := by
  unfold forgettingDecay at found
  split at found
  · dsimp only at found
    split at found
    · cases found
    · split at found
      · cases found
      · split at found
        · cases found
        · split at found
          · cases found
          · rw [List.mem_singleton.mp found]
  · cases found

theorem damping_rootKpId (assessments : List (KpAssessment K)) (x : AttributionFinding K) :
    (damping db g assessments x).rootKpId = x.rootKpId := by
  unfold damping suppress
  dsimp only
  split
  · split <;> rfl
  · rfl

/-- A root cause lies in the graph it was found in. -/
theorem root_inside {a : KpAssessment K} (member : a.kpId ∈ g.kpIds) {x : AttributionFinding K}
    (found : x ∈ attributeAssessment cfg db g studentId a asOf) {k : Nat} (root : x.rootKpId = some k) : k ∈ g.kpIds := by
  unfold attributeAssessment at found
  split at found
  · cases found
  · rw [List.mem_singleton.mp found] at root
    cases root
  · split at found
    · cases found
    · split at found
      · cases found
      · rcases List.mem_append.mp found with earlier | confused
        · rcases List.mem_append.mp earlier with deficit | forgotten
          · unfold prereqDeficit at deficit
            split at deficit
            · cases deficit
            · rename_i t rest ancestors
              rw [List.mem_singleton.mp deficit] at root
              rw [← Option.some.inj root]
              exact mem_lowAncestors member (ancestors ▸ List.mem_cons_self)
          · rw [forgettingDecay_root _ _ _ _ forgotten] at root
            cases root
        · unfold confusablePair at confused
          dsimp only at confused
          split at confused
          · cases confused
          · rw [List.mem_singleton.mp confused] at root
            cases root

/-- What is told of a code are the causes of the points graded under it, damped and vetoed alike. -/
theorem attributionsOf_eq (code : String) :
    attributionsOf cfg db g studentId classId asOf code =
      (((g.gradeKps (classGrade db classId)).filter (fun p => p.code == code)).flatMap
        (fun p => attributeAssessment cfg db g studentId (assessed cfg db g studentId classId asOf p) asOf)).map
          (fun x => attributedOf db g (overlay (overriddenVerdicts db.attributions g studentId)
            (damping db g (assessStudentKps cfg db g studentId classId asOf none) x))) := by
  have named : (fun x : ResolvedAttribution K => (g.label db x.kpId).1 == code) ∘
      overlay (overriddenVerdicts db.attributions g studentId) ∘
        damping db g (assessStudentKps cfg db g studentId classId asOf none) =
      fun x => (g.label db x.kpId).1 == code := by
    funext x
    rw [Function.comp_apply, Function.comp_apply, overlay_kpId, damping_kpId]
  unfold attributionsOf resolveAttributions findingsFor
  rw [deriveFindings_eq, List.map_map, List.filter_map, named, List.map_map, assessStudentKps_eq, List.flatMap_map,
    List.filter_flatMap, flatMap_filter_eq]
  congr 1
  apply List.flatMap_congr
  intro p graded
  have label : (g.label db (assessed cfg db g studentId classId asOf p).kpId).1 = p.code := by
    rw [assessed_kpId, label_of_mem db g ((gradeKps_sublist g _).subset graded)]
  by_cases here : (p.code == code) = true
  · rw [if_pos here, List.filter_eq_self]
    intro x found
    rw [mem_attributeAssessment cfg db g studentId asOf found, label]
    exact here
  · rw [if_neg here, List.filter_eq_nil_iff]
    intro x found
    rw [mem_attributeAssessment cfg db g studentId asOf found, label]
    exact here

end

/-- What a switch without `force` and `confirm` has checked of the two rows of one code. -/
structure Twin (p q : KnowledgePoint K) : Prop where
  code : q.code = p.code
  floor : q.masteryFloor = p.masteryFloor
  difficulty : q.difficultyPrior = p.difficultyPrior
  archived : q.archived = p.archived

theorem get?_kpsByCode {db : Db K} (sound : Sound db) {v : KbVersion} {p : KnowledgePoint K}
    (listed : p ∈ versionPoints db v.id) : (kpsByCode db v).get? p.code = some p := by
  have pair : (p.code, p) ∈ (versionPoints db v.id).map (fun q => (q.code, q)) := List.mem_map.mpr ⟨p, listed, rfl⟩
  apply Dict.get?_ofList_of_mem pair
  intro q member
  obtain ⟨r, stored, same⟩ := List.mem_map.mp member
  obtain ⟨code, rfl⟩ := Prod.mk.inj same
  exact List.inj_on_of_nodup_map (nodup_codes sound v.id) stored listed code

theorem mem_of_kpsByCode {db : Db K} {v : KbVersion} {code : String} {q : KnowledgePoint K}
    (found : (kpsByCode db v).get? code = some q) : q ∈ versionPoints db v.id ∧ q.code = code := by
  obtain ⟨r, stored, same⟩ := List.mem_map.mp (Dict.mem_of_get?_ofList found)
  obtain ⟨named, rfl⟩ := Prod.mk.inj same
  exact ⟨stored, named⟩

theorem fieldChanges_eq_nil [DecidableEq K] {code : String} {p q : KnowledgePoint K}
    (unchanged : fieldChanges code p q = []) :
    q.masteryFloor = p.masteryFloor ∧ q.difficultyPrior = p.difficultyPrior ∧ q.archived = p.archived := by
  have same : ∀ field ∈ sensitiveFields, field.read p = field.read q := by
    intro field listed
    by_contra differ
    have none := List.filterMap_eq_nil_iff.mp unchanged field listed
    rw [if_neg differ] at none
    cases none
  have floor := same .masteryFloor (by simp [sensitiveFields])
  have prior := same .difficultyPrior (by simp [sensitiveFields])
  have archived := same .archived (by simp [sensitiveFields])
  simp only [SensitiveField.read, FieldValue.number.injEq, FieldValue.flag.injEq] at floor prior archived
  exact ⟨floor.symm, prior.symm, archived.symm⟩

/-- An accepted switch finds every code of the replaced version in the target, with the checked attributes. -/
theorem twin_of_accepts [DecidableEq K] {db : Db K} (sound : Sound db) {source target : KbVersion}
    (accepted : accepts db target false false (some source) = true) {p : KnowledgePoint K}
    (listed : p ∈ versionPoints db source.id) : ∃ q ∈ versionPoints db target.id, Twin p q := by
  simp only [accepts, Bool.or_false, Bool.and_eq_true, List.isEmpty_iff] at accepted
  obtain ⟨missing, changes⟩ := accepted
  have known := get?_kpsByCode sound listed
  have entry := (Dict.get?_eq_some_iff _ _ _).mp known
  have present : p.code ∈ (kpsByCode db target).keys := by
    by_contra absent
    have reported : p.code ∈ (compatibility db source target).missingCodes := by
      unfold compatibility
      dsimp only
      rw [mem_stableSort, List.mem_filter]
      exact ⟨List.mem_map_of_mem entry, by simpa using absent⟩
    rw [missing] at reported
    cases reported
  cases found : (kpsByCode db target).get? p.code with
  | none => exact absurd present ((Dict.get?_eq_none_iff _ _).mp found)
  | some q =>
    obtain ⟨stored, code⟩ := mem_of_kpsByCode found
    unfold compatibility at changes
    have unchanged := List.flatMap_eq_nil_iff.mp changes (p.code, p) entry
    dsimp only at unchanged
    rw [found] at unchanged
    obtain ⟨floor, difficulty, archived⟩ := fieldChanges_eq_nil unchanged
    exact ⟨q, stored, code, floor, difficulty, archived⟩

/-- Where the target files the code of a point of the source. -/
def twinId (db : Db K) (source target : Nat) (k : Nat) : Nat :=
  ((((versionPoints db source).find? (fun p => p.id == k)).bind
    (fun p => (versionPoints db target).find? (fun q => q.code == p.code))).map KnowledgePoint.id).getD 0

theorem twinId_of_mem {db : Db K} (sound : Sound db) {source target : Nat} {p q : KnowledgePoint K}
    (left : p ∈ versionPoints db source) (right : q ∈ versionPoints db target) (code : q.code = p.code) :
    twinId db source target p.id = q.id := by
  have first : (versionPoints db source).find? (fun r => r.id == p.id) = some p :=
    find?_of_mem (g := load db source) left
  have second : (versionPoints db target).find? (fun r => r.code == p.code) = some q := by
    rw [← code, ← List.head?_filter, filter_code_eq (nodup_codes sound target) right]
    rfl
  unfold twinId
  rw [first, Option.bind_some, second]
  rfl

theorem graded_code {db : Db K} (sound : Sound db) {v : Nat} {grade : Option Int} {p : KnowledgePoint K}
    (graded : p ∈ (load db v).gradeKps grade) :
    ((load db v).gradeKps grade).filter (fun q => q.code == p.code) = [p] :=
  filter_code_eq (((gradeKps_sublist _ _).map KnowledgePoint.code).nodup (nodup_codes sound v)) graded

theorem ungraded_code {db : Db K} (sound : Sound db) {v : Nat} {grade : Option Int} {p : KnowledgePoint K}
    (listed : p ∈ versionPoints db v) (ungraded : p ∉ (load db v).gradeKps grade) :
    ((load db v).gradeKps grade).filter (fun q => q.code == p.code) = [] := by
  rw [List.filter_eq_nil_iff]
  intro q graded same
  have sameCode : q.code = p.code := by simpa using same
  rw [List.inj_on_of_nodup_map (nodup_codes sound v) ((gradeKps_sublist _ _).subset graded) listed sameCode] at graded
  exact ungraded graded

section
variable [Field K] [LinearOrder K] [FloorRing K] (cfg : Config K) {db : Db K} {studentId classId : Nat} {asOf : DateTime}

theorem assessmentOf_graded (sound : Sound db) {v : Nat} {p : KnowledgePoint K}
    (graded : p ∈ (load db v).gradeKps (classGrade db classId)) :
    assessmentOf cfg db (load db v) studentId classId asOf p.code =
      some (verdictOf (assessed cfg db (load db v) studentId classId asOf p)) := by
  rw [assessmentOf_eq, gradedPoint, ← List.head?_filter, graded_code sound graded]
  rfl

theorem assessmentOf_ungraded (sound : Sound db) {v : Nat} {p : KnowledgePoint K} (listed : p ∈ versionPoints db v)
    (ungraded : p ∉ (load db v).gradeKps (classGrade db classId)) :
    assessmentOf cfg db (load db v) studentId classId asOf p.code = none := by
  rw [assessmentOf_eq, gradedPoint, ← List.head?_filter, ungraded_code sound listed ungraded]
  rfl

end

/-- Everything a conclusion is drawn from stands under the target as it does under the source. -/
structure CarriedOver (db : Db K) (source target studentId classId : Nat) (asOf : DateTime) : Prop where
  rows : ∀ p ∈ versionPoints db source, ∀ q ∈ versionPoints db target, q.code = p.code →
    q.name = p.name ∧ q.grade = p.grade ∧ q.cogLevelsExpected = p.cogLevelsExpected ∧ q.importance = p.importance
  mainGrade : (load db target).targetGrade (classGrade db classId) = (load db source).targetGrade (classGrade db classId)
  prereq : ∀ k ∈ pointIds db source, (load db target).prereq (twinId db source target k) =
    ((load db source).prereq k).map (Prod.map (twinId db source target) id)
  confusable : ∀ k ∈ pointIds db source, (load db target).confusable (twinId db source target k) =
    ((load db source).confusable k).map (twinId db source target)
  evidence : ∀ s, s = studentId ∨ s ∈ db.classStudentIds classId → ∀ k ∈ pointIds db source,
    SameEvidence (getEvents db s (twinId db source target k) asOf) (getEvents db s k asOf)
  taught : ∀ k ∈ pointIds db source, twinId db source target k ∈ coveredKpIds db classId (some asOf) ↔
    k ∈ coveredKpIds db classId (some asOf)
  added : ∀ q ∈ versionPoints db target, q.id ∈ coveredKpIds db classId (some asOf) →
    ∃ p ∈ versionPoints db source, q.code = p.code
  vetoed : ∀ k ∈ pointIds db source, ∀ type, vetoNote db (load db target) studentId (twinId db source target k, type) =
    vetoNote db (load db source) studentId (k, type)

section
variable {db : Db K} {source target studentId classId : Nat} {asOf : DateTime} (sound : Sound db)
  (twins : ∀ p ∈ versionPoints db source, ∃ q ∈ versionPoints db target, Twin p q)
include sound twins

theorem twin_of_code {p q : KnowledgePoint K} (left : p ∈ versionPoints db source) (right : q ∈ versionPoints db target)
    (code : q.code = p.code) : Twin p q := by
  obtain ⟨r, stored, twin⟩ := twins p left
  rw [List.inj_on_of_nodup_map (nodup_codes sound target) right stored (code.trans twin.code.symm)]
  exact twin

omit twins in
theorem twinId_inj {p q : KnowledgePoint K} (left : p ∈ versionPoints db source) (right : q ∈ versionPoints db source)
    {p' q' : KnowledgePoint K} (first : p' ∈ versionPoints db target) (second : q' ∈ versionPoints db target)
    (codeP : p'.code = p.code) (codeQ : q'.code = q.code)
    (same : twinId db source target p.id = twinId db source target q.id) : p = q := by
  rw [twinId_of_mem sound left first codeP, twinId_of_mem sound right second codeQ] at same
  have rows : p' = q' := List.inj_on_of_nodup_map (nodup_pointIds db target) first second same
  apply List.inj_on_of_nodup_map (nodup_codes sound source) left right
  rw [← codeP, ← codeQ, rows]

theorem points_le : (versionPoints db source).length ≤ (versionPoints db target).length := by
  have among : (versionPoints db source).map KnowledgePoint.code ⊆ (versionPoints db target).map KnowledgePoint.code := by
    intro code listed
    obtain ⟨p, left, rfl⟩ := List.mem_map.mp listed
    obtain ⟨q, right, twin⟩ := twins p left
    exact List.mem_map.mpr ⟨q, right, twin.code⟩
  have fewer := ((nodup_codes sound source).subperm among).length_le
  simpa using fewer

variable (carried : CarriedOver db source target studentId classId asOf)
include carried

theorem alike_of_carried {p q : KnowledgePoint K} (left : p ∈ versionPoints db source)
    (right : q ∈ versionPoints db target) (code : q.code = p.code) : Alike p q := by
  have twin := twin_of_code sound twins left right code
  obtain ⟨name, _, levels, _⟩ := carried.rows p left q right code
  exact ⟨code, name, levels, twin.difficulty, twin.floor⟩

theorem carries_of_carried : Carries db (load db source) (load db target) studentId asOf (twinId db source target) where
  injective := by
    intro a left b right same
    obtain ⟨p, listedP, rfl⟩ := List.mem_map.mp left
    obtain ⟨q, listedQ, rfl⟩ := List.mem_map.mp right
    obtain ⟨p', first, twinP⟩ := twins p listedP
    obtain ⟨q', second, twinQ⟩ := twins q listedQ
    rw [twinId_inj sound listedP listedQ first second twinP.code twinQ.code same]
  size := points_le sound twins
  prereq := carried.prereq
  confusable := carried.confusable
  labels := by
    intro k member
    obtain ⟨p, listed, rfl⟩ := List.mem_map.mp member
    obtain ⟨q, stored, twin⟩ := twins p listed
    rw [twinId_of_mem sound listed stored twin.code, label_of_mem db (load db target) stored,
      label_of_mem db (load db source) listed, twin.code, (carried.rows p listed q stored twin.code).1]
  evidence := carried.evidence studentId (Or.inl rfl)

theorem graded_iff {p q : KnowledgePoint K} (left : p ∈ versionPoints db source) (right : q ∈ versionPoints db target)
    (code : q.code = p.code) :
    q ∈ (load db target).gradeKps (classGrade db classId) ↔ p ∈ (load db source).gradeKps (classGrade db classId) := by
  have twin := twin_of_code sound twins left right code
  obtain ⟨_, grade, _, _⟩ := carried.rows p left q right code
  have container : isContainer q = isContainer p := by
    unfold isContainer
    rw [code]
  unfold gradeKps
  rw [carried.mainGrade]
  cases (load db source).targetGrade (classGrade db classId) with
  | none => simp
  | some wanted =>
    rw [List.mem_filter, List.mem_filter, grade, container, twin.archived]
    exact and_congr_left (fun _ => iff_of_true right left)

variable [Field K] [LinearOrder K] [FloorRing K] (cfg : Config K)

theorem assessed_carried {p q : KnowledgePoint K} (left : p ∈ versionPoints db source)
    (right : q ∈ versionPoints db target) (code : q.code = p.code)
    (graded : p ∈ (load db source).gradeKps (classGrade db classId)) :
    assessed cfg db (load db target) studentId classId asOf q =
      (assessed cfg db (load db source) studentId classId asOf p).rekey q.id := by
  have key := twinId_of_mem sound left right code
  have gradedQ := (graded_iff sound twins carried left right code).mpr graded
  have idP : p.id ∈ (load db source).gradeKpIds (classGrade db classId) := List.mem_map_of_mem graded
  have idQ : q.id ∈ (load db target).gradeKpIds (classGrade db classId) := List.mem_map_of_mem gradedQ
  have stored : p.id ∈ pointIds db source := List.mem_map_of_mem left
  apply assessKp_alike cfg asOf (alike_of_carried sound twins carried left right code)
  · rw [← key]
    exact carried.taught p.id stored
  · intro s known
    rw [getD_getEventsBatch, getD_getEventsBatch]
    by_cases enrolled : s ∈ db.classStudentIds classId
    · rw [if_pos ⟨enrolled, idQ⟩, if_pos ⟨enrolled, idP⟩, ← key]
      exact carried.evidence s known p.id stored
    · rw [if_neg (fun held => enrolled held.1), if_neg (fun held => enrolled held.1)]
      rfl

/-- The points a criterion picks under the target are the twins of those it picks under the source. -/
theorem picked_perm (pick : KpAssessment K → Bool) (blind : ∀ k a, pick (KpAssessment.rekey k a) = pick a)
    (passed : ∀ a, pick a = true → a.gate = none) :
    (picked cfg db (load db target) studentId classId asOf pick).Perm
      ((picked cfg db (load db source) studentId classId asOf pick).map (twinId db source target)) := by
  have carries := carries_of_carried sound twins carried
  have within : ∀ k ∈ picked cfg db (load db source) studentId classId asOf pick, k ∈ (load db source).kpIds := by
    intro k member
    obtain ⟨p, graded, _, rfl⟩ := (mem_picked ..).mp member
    exact List.mem_map_of_mem ((gradeKps_sublist _ _).subset graded)
  have renamed := (nodup_picked cfg db (load db source) studentId classId asOf pick).map_on (f := twinId db source target)
    (fun a left b right same => carries.injective a (within a left) b (within b right) same)
  rw [List.perm_ext_iff_of_nodup (nodup_picked ..) renamed]
  intro j
  rw [mem_picked, List.mem_map]
  constructor
  · intro found
    obtain ⟨q, gradedQ, met, rfl⟩ := found
    have right : q ∈ versionPoints db target := (gradeKps_sublist _ _).subset gradedQ
    obtain ⟨p, left, code⟩ := carried.added q right (assessed_gate_none _ _ _ _ _ _ (passed _ met))
    have graded := (graded_iff sound twins carried left right code).mp gradedQ
    rw [assessed_carried sound twins carried cfg left right code graded, blind] at met
    exact ⟨p.id, (mem_picked ..).mpr ⟨p, graded, met, rfl⟩, twinId_of_mem sound left right code⟩
  · intro found
    obtain ⟨k, member, same⟩ := found
    obtain ⟨p, graded, met, rfl⟩ := (mem_picked ..).mp member
    have left : p ∈ versionPoints db source := (gradeKps_sublist _ _).subset graded
    obtain ⟨q, right, twin⟩ := twins p left
    refine ⟨q, (graded_iff sound twins carried left right twin.code).mpr graded, ?_, ?_⟩
    · rw [assessed_carried sound twins carried cfg left right twin.code graded, blind]
      exact met
    · rw [← same, twinId_of_mem sound left right twin.code]

theorem picked_weight (pick : KpAssessment K → Bool) (blind : ∀ k a, pick (KpAssessment.rekey k a) = pick a)
    (passed : ∀ a, pick a = true → a.gate = none) :
    pySum ((picked cfg db (load db target) studentId classId asOf pick).map ((load db target).weightOf db)) =
      pySum ((picked cfg db (load db source) studentId classId asOf pick).map ((load db source).weightOf db)) := by
  have perm := (picked_perm sound twins carried cfg pick blind passed).map ((load db target).weightOf db)
  have weights : ((picked cfg db (load db source) studentId classId asOf pick).map (twinId db source target)).map
      ((load db target).weightOf db) =
      (picked cfg db (load db source) studentId classId asOf pick).map ((load db source).weightOf db) := by
    rw [List.map_map]
    apply List.map_congr_left
    intro k member
    obtain ⟨p, graded, _, rfl⟩ := (mem_picked ..).mp member
    have left : p ∈ versionPoints db source := (gradeKps_sublist _ _).subset graded
    obtain ⟨q, right, twin⟩ := twins p left
    rw [Function.comp_apply, twinId_of_mem sound left right twin.code, weightOf_of_mem (g := load db target) db right,
      weightOf_of_mem (g := load db source) db left, (carried.rows p left q right twin.code).2.2.2]
  rw [weights] at perm
  unfold pySum
  rw [← List.sum_eq_foldl, ← List.sum_eq_foldl]
  exact perm.sum_eq

theorem damping_carried (x : AttributionFinding K) :
    damping db (load db target) (assessStudentKps cfg db (load db target) studentId classId asOf none)
        (x.rename (twinId db source target)) =
      (damping db (load db source) (assessStudentKps cfg db (load db source) studentId classId asOf none) x).rename
        (twinId db source target) := by
  have valid : ∀ a : KpAssessment K, a.valid = true → a.gate = none := by
    intro a held
    simp only [KpAssessment.valid, Bool.and_eq_true, Option.isNone_iff_eq_none] at held
    exact held.2
  have weak : ∀ a : KpAssessment K, (a.isWeak && a.valid) = true → a.gate = none := by
    intro a held
    exact valid a (Bool.and_eq_true_iff.mp held).2
  have size := (picked_perm sound twins carried cfg KpAssessment.valid (fun _ _ => rfl) valid).length_eq
  have total := picked_weight sound twins carried cfg KpAssessment.valid (fun _ _ => rfl) valid
  have part := picked_weight sound twins carried cfg (fun a => a.isWeak && a.valid) (fun _ _ => rfl) weak
  simp only [picked, List.map_map, List.length_map] at size total part
  have suppressed : ∀ share : K, suppress share (x.rename (twinId db source target)) =
      (suppress share x).rename (twinId db source target) := by
    intro share
    unfold suppress AttributionFinding.rename
    dsimp only
    split <;> rfl
  unfold damping
  dsimp only
  rw [List.filter_filter, List.filter_filter]
  simp only [Function.comp_def] at total part
  rw [size, total, part]
  split
  · exact suppressed _
  · rfl

omit sound twins carried [Field K] [LinearOrder K] [FloorRing K] in
theorem cause_carried (carries : Carries db (load db source) (load db target) studentId asOf (twinId db source target))
    {x : AttributionFinding K} (inside : ∀ k, x.rootKpId = some k → k ∈ (load db source).kpIds) :
    causeOf db (load db target) (x.rename (twinId db source target)) = causeOf db (load db source) x := by
  unfold causeOf AttributionFinding.rename
  dsimp only
  rw [Option.map_map]
  congr 1
  cases origin : x.rootKpId with
  | none => rfl
  | some k => rw [Option.map_some, Option.map_some, Function.comp_apply, carries.labels k (inside k origin)]

theorem attributed_carried {a : KpAssessment K} (member : a.kpId ∈ pointIds db source) {x : AttributionFinding K}
    (found : x ∈ attributeAssessment cfg db (load db source) studentId a asOf) :
    attributedOf db (load db target) (overlay (overriddenVerdicts db.attributions (load db target) studentId)
        (damping db (load db target) (assessStudentKps cfg db (load db target) studentId classId asOf none)
          (x.rename (twinId db source target)))) =
      attributedOf db (load db source) (overlay (overriddenVerdicts db.attributions (load db source) studentId)
        (damping db (load db source) (assessStudentKps cfg db (load db source) studentId classId asOf none) x)) := by
  have point : (damping db (load db source) (assessStudentKps cfg db (load db source) studentId classId asOf none) x).kpId =
      a.kpId := (damping_kpId _ _ _ _).trans (mem_attributeAssessment cfg db (load db source) studentId asOf found)
  have root : (damping db (load db source) (assessStudentKps cfg db (load db source) studentId classId asOf none) x).rootKpId =
      x.rootKpId := damping_rootKpId _ _ _ _
  rw [damping_carried sound twins carried cfg x]
  generalize damping db (load db source) (assessStudentKps cfg db (load db source) studentId classId asOf none) x = y at point root
  have inside : ∀ k, y.rootKpId = some k → k ∈ (load db source).kpIds := by
    intro k origin
    exact root_inside cfg db (load db source) studentId asOf member found (root.symm.trans origin)
  have vetoed := carried.vetoed y.kpId (point ▸ member) y.type
  have key : (y.rename (twinId db source target)).key = (twinId db source target y.kpId, y.type) := rfl
  rw [attributedOf_overlay, attributedOf_overlay, cause_carried (carries_of_carried sound twins carried) inside, key, vetoed]
  rfl

theorem attributionsOf_carried {p q : KnowledgePoint K} (left : p ∈ versionPoints db source)
    (right : q ∈ versionPoints db target) (code : q.code = p.code) :
    attributionsOf cfg db (load db target) studentId classId asOf p.code =
      attributionsOf cfg db (load db source) studentId classId asOf p.code := by
  have agree := graded_iff sound twins carried left right code
  rw [attributionsOf_eq, attributionsOf_eq]
  by_cases graded : p ∈ (load db source).gradeKps (classGrade db classId)
  · rw [graded_code sound graded, ← code, graded_code sound (agree.mpr graded), List.flatMap_singleton,
      List.flatMap_singleton, assessed_carried sound twins carried cfg left right code graded]
    have key := assessed_kpId cfg db (load db source) studentId classId asOf p
    have member : (assessed cfg db (load db source) studentId classId asOf p).kpId ∈ (load db source).kpIds := by
      rw [key]
      exact List.mem_map_of_mem left
    have moved : attributeAssessment cfg db (load db target) studentId
        ((assessed cfg db (load db source) studentId classId asOf p).rekey
          (twinId db source target (assessed cfg db (load db source) studentId classId asOf p).kpId)) asOf = _ :=
      attributeAssessment_carried (carries_of_carried sound twins carried) _ member
    rw [key, twinId_of_mem sound left right code] at moved
    rw [moved, List.map_map]
    apply List.map_congr_left
    intro x found
    exact attributed_carried sound twins carried cfg member found
  · rw [ungraded_code sound left graded, ← code, ungraded_code sound right (fun listed => graded (agree.mp listed)),
      List.flatMap_nil, List.flatMap_nil, List.map_nil, List.map_nil]

theorem assessmentOf_carried {p q : KnowledgePoint K} (left : p ∈ versionPoints db source)
    (right : q ∈ versionPoints db target) (code : q.code = p.code) :
    assessmentOf cfg db (load db target) studentId classId asOf p.code =
      assessmentOf cfg db (load db source) studentId classId asOf p.code := by
  have agree := graded_iff sound twins carried left right code
  by_cases graded : p ∈ (load db source).gradeKps (classGrade db classId)
  · rw [assessmentOf_graded cfg sound graded, ← code, assessmentOf_graded cfg sound (agree.mpr graded),
      assessed_carried sound twins carried cfg left right code graded]
    rfl
  · rw [assessmentOf_ungraded cfg sound left graded, ← code,
      assessmentOf_ungraded cfg sound right (fun listed => graded (agree.mp listed))]

end

section
variable [Field K] [LinearOrder K] [FloorRing K] (cfg : Config K)

/-- Every code of the source is told the same, on the source before the switch and on the target after it. -/
def SameConclusions (db after : Db K) (source target studentId classId : Nat) (asOf : DateTime) : Prop :=
  ∀ p ∈ versionPoints db source,
    assessmentOf cfg after (load after target) studentId classId asOf p.code =
        assessmentOf cfg db (load db source) studentId classId asOf p.code ∧
      attributionsOf cfg after (load after target) studentId classId asOf p.code =
        attributionsOf cfg db (load db source) studentId classId asOf p.code

variable {db : Db K} {studentId classId : Nat} {asOf : DateTime}

theorem assessed_untaught (g : KpGraph K) {p : KnowledgePoint K} (untaught : p.id ∉ coveredKpIds db classId (some asOf)) :
    verdictOf (assessed cfg db g studentId classId asOf p) = ⟨0, none, some .notLearned, effectiveFloor p, false⟩ := by
  have gate : (measure cfg (coveredKpIds db classId (some asOf)) asOf ((getEventsBatch db (db.classStudentIds classId)
      (g.gradeKpIds (classGrade db classId)) asOf).getD (studentId, p.id) []) p).gate = some .notLearned := by
    unfold measure
    rw [if_pos untaught]
  have same := assessKp_same cfg (coveredKpIds db classId (some asOf)) asOf (db.classStudentIds classId)
    (fun s k => (getEventsBatch db (db.classStudentIds classId) (g.gradeKpIds (classGrade db classId)) asOf).getD (s, k) [])
    studentId p
  have strong : (assessed cfg db g studentId classId asOf p).isWeak = false := by
    by_contra weak
    have passed := (assessKp_weak_valid (Bool.eq_true_of_not_eq_false weak)).1
    rw [same.gate, gate] at passed
    cases passed
  unfold verdictOf
  rw [strong]
  unfold assessed
  rw [same.evidenceCount, same.mastery, same.gate, same.floor]
  unfold measure
  rw [if_pos untaught]

theorem untaught_of_gate (g : KpGraph K) {p : KnowledgePoint K}
    (gate : (assessed cfg db g studentId classId asOf p).gate = some .notLearned) :
    p.id ∉ coveredKpIds db classId (some asOf) := by
  rw [assessed, (assessKp_same _ _ _ _ _ _ _).gate] at gate
  intro taught
  unfold measure at gate
  rw [if_neg (not_not_intro taught)] at gate
  dsimp only at gate
  split at gate
  · cases gate
  · split at gate <;> cases gate

theorem attributionsOf_untaught (sound : Sound db) {v : Nat} {p : KnowledgePoint K} (listed : p ∈ versionPoints db v)
    (untaught : p ∈ (load db v).gradeKps (classGrade db classId) → p.id ∉ coveredKpIds db classId (some asOf)) :
    attributionsOf cfg db (load db v) studentId classId asOf p.code = [] := by
  rw [attributionsOf_eq]
  by_cases graded : p ∈ (load db v).gradeKps (classGrade db classId)
  · have gate : (assessed cfg db (load db v) studentId classId asOf p).gate = some .notLearned :=
      congrArg Verdict.gate (assessed_untaught cfg (load db v) (untaught graded))
    rw [graded_code sound graded, List.flatMap_singleton, attributeAssessment, gate]
    rfl
  · rw [ungraded_code sound listed graded]
    rfl

/-- A target nothing of which was taught says the same of a code only where the source has nothing to say. -/
theorem conclusions_of_untaught (sound : Sound db) {source target : Nat} {p q : KnowledgePoint K}
    (left : p ∈ versionPoints db source) (right : q ∈ versionPoints db target) (code : q.code = p.code)
    (untaught : q.id ∉ coveredKpIds db classId (some asOf)) :
    (assessmentOf cfg db (load db target) studentId classId asOf p.code =
          assessmentOf cfg db (load db source) studentId classId asOf p.code ∧
        attributionsOf cfg db (load db target) studentId classId asOf p.code =
          attributionsOf cfg db (load db source) studentId classId asOf p.code) ↔
      (q ∈ (load db target).gradeKps (classGrade db classId) ↔ p ∈ (load db source).gradeKps (classGrade db classId)) ∧
        (p ∈ (load db source).gradeKps (classGrade db classId) →
          p.id ∉ coveredKpIds db classId (some asOf) ∧ effectiveFloor q = effectiveFloor p) := by
  have silent : attributionsOf cfg db (load db target) studentId classId asOf p.code = [] := by
    rw [← code]
    exact attributionsOf_untaught cfg sound right (fun _ => untaught)
  rw [silent, ← code]
  by_cases gradedQ : q ∈ (load db target).gradeKps (classGrade db classId)
  · rw [assessmentOf_graded cfg sound gradedQ, assessed_untaught cfg (load db target) untaught, code]
    by_cases graded : p ∈ (load db source).gradeKps (classGrade db classId)
    · rw [assessmentOf_graded cfg sound graded, Option.some.injEq]
      simp only [gradedQ, graded, true_and, true_implies]
      constructor
      · intro told
        have gate : (assessed cfg db (load db source) studentId classId asOf p).gate = some .notLearned :=
          (congrArg Verdict.gate told.1).symm
        have unknown := untaught_of_gate cfg (load db source) gate
        rw [assessed_untaught cfg (load db source) unknown] at told
        exact ⟨unknown, congrArg Verdict.floor told.1⟩
      · intro held
        rw [assessed_untaught cfg (load db source) held.1, held.2,
          attributionsOf_untaught cfg sound left (fun _ => held.1)]
        exact ⟨rfl, rfl⟩
    · rw [assessmentOf_ungraded cfg sound left graded]
      simp [gradedQ, graded]
  · rw [assessmentOf_ungraded cfg sound right gradedQ, code]
    by_cases graded : p ∈ (load db source).gradeKps (classGrade db classId)
    · rw [assessmentOf_graded cfg sound graded]
      simp [gradedQ, graded]
    · rw [assessmentOf_ungraded cfg sound left graded, attributionsOf_untaught cfg sound left (fun known => absurd known graded)]
      simp [gradedQ, graded]

/-- An unforced switch keeps every conclusion where all they are drawn from was carried over; to a target
    nothing of which was taught, only where nothing of the source was taught either. -/
theorem switch_conclusions (sound : Sound db) {source target : KbVersion} {versions : Table KbVersion}
    {answer : Activation K} (done : activateKbVersion db target (some source) false false = .ok (versions, answer))
    (studentId classId : Nat) (asOf : DateTime) :
    (CarriedOver db source.id target.id studentId classId asOf →
        SameConclusions cfg db { db with kbVersions := versions } source.id target.id studentId classId asOf) ∧
      ((∀ q ∈ versionPoints db target.id, q.id ∉ coveredKpIds db classId (some asOf)) →
        (SameConclusions cfg db { db with kbVersions := versions } source.id target.id studentId classId asOf ↔
          ∀ p ∈ versionPoints db source.id, ∀ q ∈ versionPoints db target.id, q.code = p.code →
            (q ∈ (load db target.id).gradeKps (classGrade db classId) ↔
                p ∈ (load db source.id).gradeKps (classGrade db classId)) ∧
              (p ∈ (load db source.id).gradeKps (classGrade db classId) →
                p.id ∉ coveredKpIds db classId (some asOf) ∧ effectiveFloor q = effectiveFloor p))) := by
  have accepted := (activateKbVersion_ok_iff.mp ⟨answer, done⟩).2.1
  have twins : ∀ p ∈ versionPoints db source.id, ∃ q ∈ versionPoints db target.id, Twin p q :=
    fun p listed => twin_of_accepts sound accepted listed
  have unread : SameConclusions cfg db { db with kbVersions := versions } source.id target.id studentId classId asOf ↔
      SameConclusions cfg db db source.id target.id studentId classId asOf := Iff.rfl
  rw [unread]
  constructor
  · intro carried p left
    obtain ⟨q, right, twin⟩ := twins p left
    exact ⟨assessmentOf_carried sound twins carried cfg left right twin.code,
      attributionsOf_carried sound twins carried cfg left right twin.code⟩
  · intro untaught
    constructor
    · intro same p left q right code
      exact (conclusions_of_untaught cfg sound left right code (untaught q right)).mp (same p left)
    · intro held p left
      obtain ⟨q, right, twin⟩ := twins p left
      exact (conclusions_of_untaught cfg sound left right twin.code (untaught q right)).mpr
        (held p left q right twin.code)

end

def algebraNext : KbVersion := { algebra none with id := 2, version := "0.2.0", status := .draft }

def algebraNextPoint : KnowledgePoint ℚ := { algebraPoint .core with id := 2, kbVersionId := 2 }

/-- A class of one, which was taught the point of the active edition and answered a question on it; the draft
    edition has the same point on file, with the progress and evidence given, and the attributions are those on file. -/
def twoEditions (progress : List TeachingProgress) (events : List (EvidenceEvent ℚ))
    (attributions : List (Attribution ℚ)) : Db ℚ :=
  { Db.empty ℚ with
    classes := Table.ofList [⟨1, 7⟩]
    students := Table.ofList [⟨1, 1, "甲"⟩]
    kbVersions := Table.ofList [algebra none, algebraNext]
    knowledgePoints := Table.ofList [algebraPoint .core, algebraNextPoint]
    progress := Table.ofList (⟨1, 1, 1, 0⟩ :: progress)
    events := Table.ofList (⟨1, 1, 1, 1, .unit, 1, 1, .understand, none, 0⟩ :: events)
    attributions := Table.ofList attributions }

theorem twoEditions_sound (progress : List TeachingProgress) (events : List (EvidenceEvent ℚ))
    (attributions : List (Attribution ℚ)) : Sound (twoEditions progress events attributions) where
  owner := by
    intro p stored
    have among : p ∈ [algebraPoint .core, algebraNextPoint] := stored
    simp only [List.mem_cons, List.not_mem_nil, or_false] at among
    rcases among with rfl | rfl
    · exact ⟨algebra none, List.mem_cons_self, rfl⟩
    · exact ⟨algebraNext, List.mem_cons_of_mem _ List.mem_cons_self, rfl⟩
  code := by
    intro p left q right version _
    have first : p ∈ [algebraPoint .core, algebraNextPoint] := left
    have second : q ∈ [algebraPoint .core, algebraNextPoint] := right
    simp only [List.mem_cons, List.not_mem_nil, or_false] at first second
    rcases first with rfl | rfl <;> rcases second with rfl | rfl
    · rfl
    · cases version
    · cases version
    · rfl
  ends := by
    intro r stored
    cases (show r ∈ [] from stored)
  ordered := List.Pairwise.nil

/-- Progress and evidence stand under both points; the attributions of the student are those given. -/
def taughtBoth (attributions : List (Attribution ℚ)) : Db ℚ :=
  twoEditions [⟨2, 1, 2, 0⟩] [⟨2, 1, 2, 2, .unit, 1, 1, .understand, none, 0⟩] attributions

/-- A teacher has set aside that there is too little evidence on the point. -/
def vetoOn (id kpId : Nat) : Attribution ℚ := ⟨id, 1, kpId, .insufficient, 1, none, [], "", .overridden, some "已当面确认"⟩

def taughtTwice : Db ℚ := taughtBoth [vetoOn 1 1, vetoOn 2 2]

theorem taughtTwice_carried : CarriedOver taughtTwice 1 2 1 1 0 where
  rows := by decide
  mainGrade := by decide
  prereq := by decide
  confusable := by decide
  evidence := by
    intro s known k member
    have student : s = 1 := by
      rcases known with rfl | enrolled
      · rfl
      · exact List.mem_singleton.mp (show s ∈ [1] from enrolled)
    have point : k = 1 := List.mem_singleton.mp (show k ∈ [1] from member)
    rw [student, point]
    rfl
  taught := by decide
  added := by decide
  vetoed := by
    intro k member type
    rw [List.mem_singleton.mp (show k ∈ [1] from member)]
    cases type <;> decide

theorem switch_conclusions_twice :
    ∃ versions answer, activateKbVersion taughtTwice algebraNext (some (algebra none)) false false = .ok (versions, answer) ∧
      SameConclusions Config.rational taughtTwice { taughtTwice with kbVersions := versions } 1 2 1 1 0 := by
  have accepted : accepts taughtTwice algebraNext false false (some (algebra none)) = true := by decide +kernel
  obtain ⟨answer, done⟩ := activateKbVersion_ok_iff.mpr ⟨by decide, accepted, rfl⟩
  exact ⟨_, answer, done,
    (switch_conclusions Config.rational (twoEditions_sound _ _ _) done 1 1 0).1 taughtTwice_carried⟩

/-- A new edition with the very same point: the switch is accepted without a question, and what the class was
    told of the point is gone. Where progress and evidence are carried over, a teacher's veto still is not. -/
theorem switch_not_conclusive :
    (∃ versions answer, activateKbVersion (twoEditions [] [] []) algebraNext (some (algebra none)) false false =
        .ok (versions, answer) ∧
      ¬ SameConclusions Config.rational (twoEditions [] [] []) { twoEditions [] [] [] with kbVersions := versions } 1 2 1 1 0) ∧
    ∃ versions answer, activateKbVersion (taughtBoth [vetoOn 1 1]) algebraNext (some (algebra none)) false false =
        .ok (versions, answer) ∧
      ¬ SameConclusions Config.rational (taughtBoth [vetoOn 1 1]) { taughtBoth [vetoOn 1 1] with kbVersions := versions } 1 2 1 1 0 := by
  constructor
  · have accepted : accepts (twoEditions [] [] []) algebraNext false false (some (algebra none)) = true := by decide +kernel
    obtain ⟨answer, done⟩ := activateKbVersion_ok_iff.mpr ⟨by decide, accepted, rfl⟩
    refine ⟨_, answer, done, ?_⟩
    intro same
    have counts := congrArg (Option.map Verdict.evidenceCount) (same (algebraPoint .core) (by decide +kernel)).1
    revert counts
    decide +kernel
  · have accepted : accepts (taughtBoth [vetoOn 1 1]) algebraNext false false (some (algebra none)) = true := by decide +kernel
    obtain ⟨answer, done⟩ := activateKbVersion_ok_iff.mpr ⟨by decide, accepted, rfl⟩
    refine ⟨_, answer, done, ?_⟩
    intro same
    have verdicts := congrArg (List.map Attributed.verdict) (same (algebraPoint .core) (by decide +kernel)).2
    revert verdicts
    decide +kernel

end KnowledgeGap.Kb
