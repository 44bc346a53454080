import KnowledgeGap.Pipeline.Attribution

namespace KnowledgeGap

open Relational

variable {K : Type}

/-- The grade of a class, or the highest of the graph when the graph has nothing of it. -/
structure OfGrade (g : KpGraph K) (grade : Option Int) (p : KnowledgePoint K) : Prop where
  known : (∃ q ∈ g.points, grade = some q.grade) → grade = some p.grade
  highest : (¬ ∃ q ∈ g.points, grade = some q.grade) → ∀ q ∈ g.points, q.grade ≤ p.grade

theorem ofGrade_iff {g : KpGraph K} {grade : Option Int} {p : KnowledgePoint K} (listed : p ∈ g.points) :
    OfGrade g grade p ↔ g.targetGrade grade = some p.grade := by
  have among : ∀ wanted, wanted ∈ g.points.map KnowledgePoint.grade ↔ ∃ q ∈ g.points, some wanted = some q.grade := by
    intro wanted
    rw [List.mem_map]
    constructor
    · intro held
      rcases held with ⟨q, inside, same⟩
      exact ⟨q, inside, congrArg some same.symm⟩
    · intro held
      rcases held with ⟨q, inside, same⟩
      exact ⟨q, inside, (Option.some.inj same).symm⟩
  have top : (g.points.map KnowledgePoint.grade).max? = some p.grade ↔ ∀ q ∈ g.points, q.grade ≤ p.grade := by
    rw [List.max?_eq_some_iff]
    simp only [List.forall_mem_map, and_iff_right_iff_imp]
    intro _
    exact List.mem_map_of_mem listed
  cases grade with
  | none =>
    have unknown : ¬ ∃ q ∈ g.points, (none : Option Int) = some q.grade := by simp
    simp only [KpGraph.targetGrade, top]
    exact ⟨fun of => of.highest unknown, fun all => ⟨fun held => absurd held unknown, fun _ => all⟩⟩
  | some wanted =>
    by_cases held : ∃ q ∈ g.points, some wanted = some q.grade
    · rw [KpGraph.targetGrade, if_pos ((among wanted).mpr held)]
      exact ⟨fun of => of.known held, fun same => ⟨fun _ => same, fun unknown => absurd held unknown⟩⟩
    · rw [KpGraph.targetGrade, if_neg (fun inside => held ((among wanted).mp inside)), top]
      exact ⟨fun of => of.highest held, fun all => ⟨fun known => absurd known held, fun _ => all⟩⟩

theorem mem_gradeKps_iff {g : KpGraph K} {grade : Option Int} {p : KnowledgePoint K} :
    p ∈ g.gradeKps grade ↔
      p ∈ g.points ∧ p.archived = false ∧ KpGraph.isContainer p = false ∧ OfGrade g grade p := by
  constructor
  · intro kept
    unfold KpGraph.gradeKps at kept
    split at kept
    · cases kept
    · rename_i target found
      have ⟨listed, holds⟩ := List.mem_filter.mp kept
      simp only [Bool.and_eq_true, beq_iff_eq, Bool.not_eq_true'] at holds
      exact ⟨listed, holds.2, holds.1.2, (ofGrade_iff listed).mpr (by rw [found, holds.1.1])⟩
  · intro held
    rcases held with ⟨listed, shown, point, grade_⟩
    unfold KpGraph.gradeKps
    rw [(ofGrade_iff listed).mp grade_]
    simp [listed, shown, point]

section
variable [Field K] [LinearOrder K] [FloorRing K]

theorem measure_evidence {cfg : Config K} {covered : List Nat} {asOf : DateTime} {events : List (EvidenceEvent K)}
    {kp : KnowledgePoint K} (passed : (measure cfg covered asOf events kp).gate = none) :
    (measure cfg covered asOf events kp).evidenceCount = events.length ∧
      (measure cfg covered asOf events kp).lowEvidence = decide (events.length < evidenceLowWatermark) := by
  unfold measure at passed ⊢
  dsimp only at passed ⊢
  split at passed
  · cases passed
  · split at passed
    · cases passed
    · split at passed
      · cases passed
      · rename_i taught _ last found enough
        simp only [taught, ↓reduceIte, enough, and_self]

omit [FloorRing K] in
theorem judgeCommon_weak (distribution : List K) {a : KpAssessment K} (private_ : a.isClassCommon = false)
    (common : (judgeCommon distribution a).isClassCommon = true) : a.isWeak = true := by
  unfold judgeCommon at common
  split at common
  · rename_i judged
    simp only [Bool.and_eq_true] at judged
    exact judged.1.2
  · rw [private_] at common
    cases common

theorem judgeWeak_isClassCommon (cfg : Config K) (distribution : List K) (a : KpAssessment K) :
    (judgeWeak cfg distribution a).isClassCommon = a.isClassCommon := by
  unfold judgeWeak
  split
  · dsimp only
    split <;> rfl
  · rfl

theorem measure_isClassCommon (cfg : Config K) (covered : List Nat) (asOf : DateTime) (events : List (EvidenceEvent K))
    (kp : KnowledgePoint K) : (measure cfg covered asOf events kp).isClassCommon = false := by
  unfold measure
  dsimp only
  split
  · rfl
  · split
    · rfl
    · split <;> rfl

theorem assessKp_common_weak {cfg : Config K} {covered : List Nat} {asOf : DateTime} {classStudentIds : List Nat}
    {eventsFor : Nat → Nat → List (EvidenceEvent K)} {studentId : Nat} {kp : KnowledgePoint K}
    (common : (assessKp cfg covered asOf classStudentIds eventsFor studentId kp).isClassCommon = true) :
    (assessKp cfg covered asOf classStudentIds eventsFor studentId kp).isWeak = true := by
  unfold assessKp at common ⊢
  dsimp only at common ⊢
  rw [judgeCommon_isWeak]
  apply judgeCommon_weak _ _ common
  rw [judgeWeak_isClassCommon, measure_isClassCommon]

def Config.inMode (cfg : Config K) (mode : WeaknessMode) : Config K := { cfg with weaknessMode := mode }

/-- The margin of the strict mode only takes points away. -/
theorem judgeWeak_mode (cfg : Config K) (distribution : List K) (a : KpAssessment K)
    (strict : (judgeWeak (cfg.inMode .strict) distribution a).isWeak = true) :
    (judgeWeak (cfg.inMode .standard) distribution a).isWeak = true := by
  unfold judgeWeak Config.inMode at strict ⊢
  split at strict
  · rename_i m mastery gate
    simp only [mastery, gate]
    dsimp only at strict
    grind
  · exact strict

theorem assessKp_mode {cfg : Config K} {covered : List Nat} {asOf : DateTime} {classStudentIds : List Nat}
    {eventsFor : Nat → Nat → List (EvidenceEvent K)} {studentId : Nat} {kp : KnowledgePoint K}
    (strict : (assessKp (cfg.inMode .strict) covered asOf classStudentIds eventsFor studentId kp).isWeak = true) :
    (assessKp (cfg.inMode .standard) covered asOf classStudentIds eventsFor studentId kp).isWeak = true := by
  unfold assessKp at strict ⊢
  dsimp only at strict ⊢
  rw [judgeCommon_isWeak] at strict ⊢
  exact judgeWeak_mode cfg _ _ strict

/-- Enough evidence for a cause, and a mastery below the root threshold. -/
def LowOn (cfg : Config K) (db : Db K) (studentId kpId : Nat) (asOf : DateTime) : Prop :=
  evidenceLowWatermark ≤ evidenceCount db studentId kpId asOf ∧
    ∃ m, masteryAt cfg db studentId kpId asOf = some m ∧ m < prereqRootThreshold K

omit [FloorRing K] in
theorem lowMastery_low {cfg : Config K} {db : Db K} {studentId kpId : Nat} {asOf : DateTime} {m : K}
    (low : lowMastery cfg db studentId kpId asOf = some m) : LowOn cfg db studentId kpId asOf := by
  unfold lowMastery at low
  split at low
  · cases low
  · rename_i enough
    have ⟨mastery, below⟩ := Option.filter_eq_some_iff.mp low
    exact ⟨not_lt.mp enough, m, mastery, of_decide_eq_true below⟩

/-- What an item of evidence may say of a point that is found weak for a cause. -/
def Backed (cfg : Config K) (db : Db K) (g : KpGraph K) (studentId kpId : Nat) (asOf : DateTime) :
    EvidenceItem K → Prop
  | .ancestor code name _ _ _ => ∃ ancestor ∈ (g.prerequisiteChain kpId prereqMaxDepth).map KpGraph.Ancestor.kpId,
    g.label db ancestor = (code, name) ∧ LowOn cfg db studentId ancestor asOf
  | .confusedWith code name _ => ∃ partner ∈ g.confusablePartners kpId,
    g.label db partner = (code, name) ∧ LowOn cfg db studentId partner asOf
  | _ => True

/-- A finding on a point: its root, when it names one, and all that its evidence names have enough evidence and a low
    mastery; a missing prerequisite has a root, and a confusion names a partner. -/
structure Grounded (cfg : Config K) (db : Db K) (g : KpGraph K) (studentId : Nat) (asOf : DateTime)
    (f : AttributionFinding K) : Prop where
  root : ∀ root, f.rootKpId = some root → LowOn cfg db studentId root asOf
  rooted : f.type = .prereq → f.rootKpId.isSome
  named : ∀ item ∈ f.evidence, Backed cfg db g studentId f.kpId asOf item
  partnered : f.type = .confusable → ∃ code name m, .confusedWith code name m ∈ f.evidence

theorem prereqDeficit_grounded {cfg : Config K} {db : Db K} {g : KpGraph K} {studentId : Nat} {a : KpAssessment K}
    {asOf : DateTime} {f : AttributionFinding K} (found : f ∈ prereqDeficit cfg db g studentId a asOf) :
    Grounded cfg db g studentId asOf f := by
  have low : ∀ t ∈ lowAncestors cfg db g studentId a.kpId asOf,
      t.kpId ∈ (g.prerequisiteChain a.kpId prereqMaxDepth).map KpGraph.Ancestor.kpId ∧
        LowOn cfg db studentId t.kpId asOf := by
    intro t listed
    have ⟨anc, reached, made⟩ := List.mem_filterMap.mp (mem_stableSort.mp listed)
    have ⟨m, mastery, same⟩ := Option.map_eq_some_iff.mp made
    rw [← same]
    exact ⟨List.mem_map_of_mem reached, lowMastery_low mastery⟩
  unfold prereqDeficit at found
  split at found
  · cases found
  · rename_i root rest sorted
    rw [sorted] at low
    rw [List.mem_singleton.mp found]
    refine ⟨?_, fun _ => rfl, ?_, nofun⟩
    · intro named same
      rw [← Option.some.inj same]
      exact (low root (List.mem_cons_self ..)).2
    · intro item listed
      have ⟨t, among, same⟩ := List.mem_map.mp listed
      rw [← same]
      exact ⟨t.kpId, (low t among).1, rfl, (low t among).2⟩

theorem forgettingDecay_grounded {cfg : Config K} {db : Db K} {g : KpGraph K} {studentId : Nat} {a : KpAssessment K}
    {asOf : DateTime} {f : AttributionFinding K} (found : f ∈ forgettingDecay cfg db studentId a asOf) :
    Grounded cfg db g studentId asOf f := by
  have shape : f.type = .forget ∧ f.rootKpId = none ∧
      ∀ item ∈ f.evidence, Backed cfg db g studentId f.kpId asOf item := by
    unfold forgettingDecay at found
    split at found
    · dsimp only at found
      split at found
      · cases found
      · split at found
        · cases found
        · split at found
          · cases found
          · split at found
            · cases found
            · rw [List.mem_singleton.mp found]
              refine ⟨rfl, rfl, ?_⟩
              intro item listed
              simp only [List.mem_cons, List.not_mem_nil, or_false] at listed
              rcases listed with same | same | same <;> rw [same] <;> trivial
    · cases found
  refine ⟨?_, ?_, shape.2.2, ?_⟩
  · intro root named
    rw [shape.2.1] at named
    cases named
  · intro type
    rw [shape.1] at type
    cases type
  · intro type
    rw [shape.1] at type
    cases type

theorem confusablePair_grounded {cfg : Config K} {db : Db K} {g : KpGraph K} {studentId : Nat} {a : KpAssessment K}
    {asOf : DateTime} {f : AttributionFinding K} (found : f ∈ confusablePair cfg db g studentId a asOf) :
    Grounded cfg db g studentId asOf f := by
  unfold confusablePair at found
  dsimp only at found
  split at found
  · cases found
  · rename_i first rest partners
    rw [List.mem_singleton.mp found]
    refine ⟨nofun, nofun, ?_, ?_⟩
    · intro item listed
      have ⟨p, among, same⟩ := List.mem_map.mp listed
      have ⟨pid, linked, made⟩ := List.mem_filterMap.mp among
      have ⟨m, mastery, pair⟩ := Option.map_eq_some_iff.mp made
      rw [← same, ← pair]
      exact ⟨pid, linked, rfl, lowMastery_low mastery⟩
    · intro _
      refine ⟨(g.label db first.1).1, (g.label db first.1).2, roundTo 3 first.2, ?_⟩
      rw [partners]
      exact List.mem_map_of_mem (List.mem_cons_self ..)

/-- Only a weak point with enough evidence gets a cause. -/
theorem attributeAssessment_causal {cfg : Config K} {db : Db K} {g : KpGraph K} {studentId : Nat} {a : KpAssessment K}
    {asOf : DateTime} {f : AttributionFinding K} (found : f ∈ attributeAssessment cfg db g studentId a asOf)
    (causal : f.type ≠ .insufficient) :
    a.gate = none ∧ a.lowEvidence = false ∧ a.isWeak = true ∧ Grounded cfg db g studentId asOf f := by
  unfold attributeAssessment at found
  split at found
  · cases found
  · rw [List.mem_singleton.mp found] at causal
    exact absurd rfl causal
  · rename_i gate
    split at found
    · cases found
    · rename_i enough
      split at found
      · cases found
      · rename_i weak
        refine ⟨gate, by simpa using enough, by simpa using weak, ?_⟩
        rcases List.mem_append.mp found with causes | pair
        · rcases List.mem_append.mp causes with deficit | decay
          · exact prereqDeficit_grounded deficit
          · exact forgettingDecay_grounded decay
        · exact confusablePair_grounded pair

theorem suppress_grounded {cfg : Config K} {db : Db K} {g : KpGraph K} {studentId : Nat} {asOf : DateTime} (fraction : K)
    {f : AttributionFinding K} (grounded : Grounded cfg db g studentId asOf f) :
    Grounded cfg db g studentId asOf (suppress fraction f) := by
  unfold suppress
  split
  · refine ⟨grounded.root, grounded.rooted, ?_, ?_⟩
    · intro item listed
      rcases List.mem_append.mp listed with given | note
      · exact grounded.named item given
      · rw [List.mem_singleton.mp note]
        trivial
    · intro type
      have ⟨code, name, m, given⟩ := grounded.partnered type
      exact ⟨code, name, m, List.mem_append_left _ given⟩
  · exact grounded

theorem deriveFindings_causal {cfg : Config K} {db : Db K} {g : KpGraph K} {studentId : Nat}
    {assessments : List (KpAssessment K)} {asOf : DateTime} {f : AttributionFinding K}
    (found : f ∈ deriveFindings cfg db g studentId assessments asOf) (causal : f.type ≠ .insufficient) :
    ∃ a ∈ assessments, a.kpId = f.kpId ∧ a.gate = none ∧ a.lowEvidence = false ∧ a.isWeak = true ∧
      Grounded cfg db g studentId asOf f := by
  have plain : ∀ f ∈ assessments.flatMap (fun a => attributeAssessment cfg db g studentId a asOf), f.type ≠ .insufficient →
      ∃ a ∈ assessments, a.kpId = f.kpId ∧ a.gate = none ∧ a.lowEvidence = false ∧ a.isWeak = true ∧
        Grounded cfg db g studentId asOf f := by
    intro f listed type
    rcases List.mem_flatMap.mp listed with ⟨a, assessed, own⟩
    have key := (attributeAssessment_keys cfg db g studentId a asOf).subset (List.mem_map_of_mem own)
    simp only [AttributionFinding.key, List.mem_cons, Prod.mk.injEq, List.not_mem_nil, or_false] at key
    have point : f.kpId = a.kpId := by
      rcases key with same | same | same | same <;> exact same.1
    exact ⟨a, assessed, point.symm, attributeAssessment_causal own type⟩
  unfold deriveFindings at found
  dsimp only at found
  split at found
  · exact plain f found causal
  · split at found
    · rcases List.mem_map.mp found with ⟨base, listed, same⟩
      have keys : f.key = base.key := by rw [← same, suppress_key]
      have type : f.type = base.type := congrArg Prod.snd keys
      have point : f.kpId = base.kpId := congrArg Prod.fst keys
      rcases plain base listed (by rw [← type]; exact causal) with ⟨a, assessed, own, gate, enough, weak, grounded⟩
      refine ⟨a, assessed, own.trans point.symm, gate, enough, weak, ?_⟩
      rw [← same]
      exact suppress_grounded _ grounded
    · exact plain f found causal

/-- What the gates promise of a pupil's assessments and findings. -/
structure GatesSound (cfg : Config K) (db : Db K) (g : KpGraph K) (studentId classId : Nat) (asOf : DateTime)
    (prefetched : Option (Batch K)) : Prop where
  distinct : ((assessStudentKps cfg db g studentId classId asOf prefetched).map KpAssessment.kpId).Nodup
  points : ∀ k, k ∈ (assessStudentKps cfg db g studentId classId asOf prefetched).map KpAssessment.kpId ↔
    ∃ p ∈ g.points, p.id = k ∧ p.archived = false ∧ KpGraph.isContainer p = false ∧ OfGrade g (classGrade db classId) p
  gated : ∀ a ∈ assessStudentKps cfg db g studentId classId asOf prefetched, a.gate ≠ none →
    a.isWeak = false ∧ a.isClassCommon = false ∧
      ∀ f ∈ deriveFindings cfg db g studentId (assessStudentKps cfg db g studentId classId asOf prefetched) asOf,
        f.kpId = a.kpId → f.type = .insufficient
  causal : ∀ f ∈ deriveFindings cfg db g studentId (assessStudentKps cfg db g studentId classId asOf prefetched) asOf,
    f.type ≠ .insufficient →
      (∃ a ∈ assessStudentKps cfg db g studentId classId asOf prefetched, a.kpId = f.kpId ∧ a.isWeak = true ∧
        a.kpId ∈ coveredKpIds db classId (some asOf) ∧ evidenceLowWatermark ≤ a.evidenceCount ∧
          (prefetched = none → a.evidenceCount = evidenceCount db studentId a.kpId asOf)) ∧
        Grounded cfg db g studentId asOf f
  common : ∀ a ∈ assessStudentKps cfg db g studentId classId asOf prefetched, a.isClassCommon = true → a.isWeak = true
  modes : ∀ a ∈ assessStudentKps (cfg.inMode .strict) db g studentId classId asOf prefetched, a.isWeak = true →
    ∃ b ∈ assessStudentKps (cfg.inMode .standard) db g studentId classId asOf prefetched, b.kpId = a.kpId ∧ b.isWeak = true

theorem assessed_evidence {cfg : Config K} {db : Db K} {g : KpGraph K} {studentId classId : Nat} {asOf : DateTime}
    {prefetched : Option (Batch K)} {a : KpAssessment K}
    (assessed : a ∈ assessStudentKps cfg db g studentId classId asOf prefetched) (passed : a.gate = none)
    (enough : a.lowEvidence = false) :
    a.kpId ∈ coveredKpIds db classId (some asOf) ∧ evidenceLowWatermark ≤ a.evidenceCount ∧
      (prefetched = none → a.evidenceCount = evidenceCount db studentId a.kpId asOf) := by
  have held := assessed
  rcases List.mem_map.mp assessed with ⟨kp, listed, rfl⟩
  have open_ := (assessKp_same _ _ _ _ _ _ _).gate.symm.trans passed
  have ⟨counted, low⟩ := measure_evidence open_
  refine ⟨?_, ?_, ?_⟩
  · rw [(assessKp_same _ _ _ _ _ _ _).kpId, measure_kpId]
    exact (measure_gate_none open_).1
  · rw [(assessKp_same _ _ _ _ _ _ _).lowEvidence, low] at enough
    rw [(assessKp_same _ _ _ _ _ _ _).evidenceCount, counted]
    exact not_lt.mp (of_decide_eq_false enough)
  · intro fresh
    subst fresh
    have pupil := (assessed_on_evidence held passed).1
    have asked : kp.id ∈ g.gradeKpIds (classGrade db classId) := List.mem_map_of_mem listed
    rw [(assessKp_same _ _ _ _ _ _ _).evidenceCount, counted, (assessKp_same _ _ _ _ _ _ _).kpId, measure_kpId,
      getD_getEventsBatch, if_pos ⟨pupil, asked⟩]
    rfl

/-- A pupil's gates are sound. -/
theorem gates_sound (cfg : Config K) (db : Db K) (g : KpGraph K) (studentId classId : Nat) (asOf : DateTime)
    (prefetched : Option (Batch K)) : GatesSound cfg db g studentId classId asOf prefetched where
  distinct := by
    rw [assessStudentKps_kpIds]
    exact g.nodup_gradeKpIds _
  points k := by
    rw [assessStudentKps_kpIds, KpGraph.gradeKpIds, List.mem_map]
    simp only [mem_gradeKps_iff]
    constructor
    · intro held
      rcases held with ⟨p, ⟨listed, shown, plain, grade⟩, same⟩
      exact ⟨p, listed, same, shown, plain, grade⟩
    · intro held
      rcases held with ⟨p, listed, same, shown, plain, grade⟩
      exact ⟨p, ⟨listed, shown, plain, grade⟩, same⟩
  gated a assessed gate := by
    have strong : a.isWeak = false := by
      rw [Bool.eq_false_iff]
      intro weak
      exact gate (mem_assessStudentKps_weak assessed weak).1
    refine ⟨strong, ?_, ?_⟩
    · rw [Bool.eq_false_iff]
      intro common
      have ⟨kp, _, made⟩ := List.mem_map.mp assessed
      rw [← made] at common strong
      rw [assessKp_common_weak common] at strong
      cases strong
    · intro f found point
      by_contra causal
      have ⟨b, other, own, passed, _⟩ := deriveFindings_causal found causal
      have distinct : ((assessStudentKps cfg db g studentId classId asOf prefetched).map KpAssessment.kpId).Nodup := by
        rw [assessStudentKps_kpIds]
        exact g.nodup_gradeKpIds _
      have equal : b = a := List.inj_on_of_nodup_map distinct other assessed (own.trans point)
      exact gate (equal ▸ passed)
  causal f found causal := by
    have ⟨a, assessed, own, passed, enough, weak, grounded⟩ := deriveFindings_causal found causal
    have ⟨taught, counted, stored⟩ := assessed_evidence assessed passed enough
    exact ⟨⟨a, assessed, own, weak, taught, counted, stored⟩, grounded⟩
  common a assessed common := by
    have ⟨kp, _, made⟩ := List.mem_map.mp assessed
    rw [← made] at common ⊢
    exact assessKp_common_weak common
  modes a assessed weak := by
    have ⟨kp, listed, made⟩ := List.mem_map.mp assessed
    refine ⟨_, List.mem_map.mpr ⟨kp, listed, rfl⟩, ?_, ?_⟩
    · rw [← made, (assessKp_same _ _ _ _ _ _ _).kpId, (assessKp_same _ _ _ _ _ _ _).kpId, measure_kpId, measure_kpId]
    · rw [← made] at weak
      exact assessKp_mode weak

end

end KnowledgeGap
