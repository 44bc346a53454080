import KnowledgeGap.Pipeline.Weakness

namespace KnowledgeGap

open Relational

structure AttributionFinding (K : Type) where
  kpId : Nat
  type : AttributionType
  confidence : K
  rootKpId : Option Nat
  evidence : List (EvidenceItem K)
  prediction : String
  deriving DecidableEq, Repr

def AttributionFinding.key {K : Type} (f : AttributionFinding K) : Nat × AttributionType := (f.kpId, f.type)

structure LowAncestor (K : Type) where
  kpId : Nat
  depth : Nat
  edgeWeight : K
  mastery : K
  deriving DecidableEq, Repr

variable {K : Type}

def KpGraph.label (g : KpGraph K) (db : Db K) (kpId : Nat) : String × String :=
  match g.kp? db kpId with
  | some p => (p.code, p.name)
  | none => ("", "")

def insufficientPrediction (name : String) (count : Nat) : String :=
  "当前关于「" ++ name ++ "」的依据不足（" ++ toString count ++ " 题），" ++
    "暂不判断原因；补充针对性练习或下次考试后再评估。"

def prereqPrediction (root name : String) : String :=
  "如果是基础没打牢，让该生单独做几道「" ++ root ++ "」的诊断题" ++
    "（不涉及「" ++ name ++ "」本身），正确率也应低于 60%。" ++
    "可用 2~3 道诊断题验证；若诊断通过，说明这个原因不成立。"

def forgetPrediction (name : String) : String :=
  "如果是学过但忘了，安排 2~3 次间隔复习后，「" ++ name ++ "」的掌握程度" ++
    "应回升至 0.75 附近；若复习后仍低迷，应考虑其他原因。"

def confusablePrediction (name partner : String) : String :=
  "如果是混淆了「" ++ name ++ "」与「" ++ partner ++ "」，" ++
    "做区分两者的 2~3 道对比诊断题该生也会错；" ++
    "若对比题能正确区分，说明并非概念混淆。"

def globalWeakNote : String :=
  "学生在多数知识点薄弱，前置缺陷归因解释力下降，建议优先排查整体基础与学习状态"

section
variable [Field K] [LinearOrder K] [FloorRing K]

def rootScore (t : LowAncestor K) : K :=
  (prereqRootThreshold K - t.mastery) * (ratio 5 10 + ratio 5 10 * t.edgeWeight)

/-- The mastery of a point with enough evidence for a cause, when it is below the root threshold. -/
def lowMastery (cfg : Config K) (db : Db K) (studentId kpId : Nat) (asOf : DateTime) : Option K :=
  if evidenceCount db studentId kpId asOf < evidenceLowWatermark then none
  else (masteryAt cfg db studentId kpId asOf).filter (fun m => decide (m < prereqRootThreshold K))

def lowAncestors (cfg : Config K) (db : Db K) (g : KpGraph K) (studentId kpId : Nat) (asOf : DateTime) :
    List (LowAncestor K) :=
  stableSort
    (lexicographic (fun a b => decide (-rootScore a ≤ -rootScore b)) (fun a b => decide (a.depth ≤ b.depth)))
    ((g.prerequisiteChain kpId prereqMaxDepth).filterMap (fun anc =>
      (lowMastery cfg db studentId anc.kpId asOf).map (fun m => ⟨anc.kpId, anc.depth, anc.edgeWeight, m⟩)))

def prereqDeficit (cfg : Config K) (db : Db K) (g : KpGraph K) (studentId : Nat) (a : KpAssessment K)
    (asOf : DateTime) : List (AttributionFinding K) :=
  match lowAncestors cfg db g studentId a.kpId asOf with
  | [] => []
  | root :: rest =>
    let confidence := min (ratio 9 10) (ratio 6 10 + ratio 1 10 * ((rest.length + 1 : Nat) : K))
    let confidence := if root.mastery < ratio 4 10 then min (ratio 95 100) (confidence + ratio 5 100) else confidence
    [{ kpId := a.kpId
       type := .prereq
       confidence := roundTo 2 confidence
       rootKpId := some root.kpId
       evidence := (root :: rest).map (fun t =>
         .ancestor (g.label db t.kpId).1 (g.label db t.kpId).2 t.depth (roundTo 2 t.edgeWeight)
           (roundTo 3 t.mastery))
       prediction := prereqPrediction (g.label db root.kpId).2 a.kpName }]

def peakOf (first : DateTime × K) (rest : List (DateTime × K)) : DateTime × K :=
  rest.foldl (fun best p => if best.2 < p.2 then p else best) first

def forgettingDecay (cfg : Config K) (db : Db K) (studentId : Nat) (a : KpAssessment K)
    (asOf : DateTime) : List (AttributionFinding K) :=
  match masterySeries cfg db studentId a.kpId asOf with
  | first :: second :: rest =>
    let peak := peakOf first (second :: rest)
    let last := rest.getLastD second
    let current := a.mastery.getD last.2
    if peak.2 < cfg.forgetPeakThreshold then []
    else if peak.2 - forgetDrop K < current then []
    else if last.1 ≤ peak.1 then []
    else if daysOf (last.1 - peak.1) < forgetIdleDays then []
    else
      [{ kpId := a.kpId
         type := .forget
         confidence := ratio 7 10
         rootKpId := none
         evidence := [.peak (roundTo 3 peak.2) (dateOf peak.1), .current (roundTo 3 current),
           .gap (daysOf (last.1 - peak.1))]
         prediction := forgetPrediction a.kpName }]
  | _ => []

def confusablePair (cfg : Config K) (db : Db K) (g : KpGraph K) (studentId : Nat) (a : KpAssessment K)
    (asOf : DateTime) : List (AttributionFinding K) :=
  let weakPartners := (g.confusablePartners a.kpId).filterMap (fun pid =>
    (lowMastery cfg db studentId pid asOf).map (fun m => (pid, m)))
  match weakPartners with
  | [] => []
  | first :: _ =>
    [{ kpId := a.kpId
       type := .confusable
       confidence := ratio 65 100
       rootKpId := none
       evidence := weakPartners.map (fun p =>
         .confusedWith (g.label db p.1).1 (g.label db p.1).2 (roundTo 3 p.2))
       prediction := confusablePrediction a.kpName (g.label db first.1).2 }]

def attributeAssessment (cfg : Config K) (db : Db K) (g : KpGraph K) (studentId : Nat)
    (a : KpAssessment K) (asOf : DateTime) : List (AttributionFinding K) :=
  match a.gate with
  | some .notLearned => []
  | some .insufficient =>
    [{ kpId := a.kpId
       type := .insufficient
       confidence := 1
       rootKpId := none
       evidence := [.insufficient a.evidenceCount 3]
       prediction := insufficientPrediction a.kpName a.evidenceCount }]
  | none =>
    if a.lowEvidence then []
    else if !a.isWeak then []
    else
      prereqDeficit cfg db g studentId a asOf ++ forgettingDecay cfg db studentId a asOf ++
        confusablePair cfg db g studentId a asOf

def importanceWeight : Importance → K
  | .basic => ratio 15 10
  | .core => 1
  | .extended => ratio 5 10
  | .other _ => 1

def KpGraph.weightOf (g : KpGraph K) (db : Db K) (kpId : Nat) : K :=
  match g.kp? db kpId with
  | some p => importanceWeight p.importance
  | none => 1

omit [LinearOrder K] [FloorRing K] in
theorem weightOf_of_mem {g : KpGraph K} (db : Db K) {p : KnowledgePoint K} (listed : p ∈ g.points) :
    g.weightOf db p.id = importanceWeight p.importance := by
  rw [KpGraph.weightOf, KpGraph.kp?_of_mem db listed]

def suppress (weakFraction : K) (f : AttributionFinding K) : AttributionFinding K :=
  if f.type = .prereq then
    { f with
      confidence := roundTo 2 (min f.confidence (globalWeakConfCap K))
      evidence := f.evidence ++ [.globalWeak weakFraction globalWeakNote] }
  else f

def deriveFindings (cfg : Config K) (db : Db K) (g : KpGraph K) (studentId : Nat)
    (assessments : List (KpAssessment K)) (asOf : DateTime) : List (AttributionFinding K) :=
  let findings := assessments.flatMap (fun a => attributeAssessment cfg db g studentId a asOf)
  let validAssessed := assessments.filter KpAssessment.valid
  if validAssessed.length < globalWeakMinSample then findings
  else
    let totalW := pySum (validAssessed.map (fun a => g.weightOf db a.kpId))
    let weakW := pySum ((validAssessed.filter KpAssessment.isWeak).map (fun a => g.weightOf db a.kpId))
    if 0 < totalW ∧ globalWeakRatio K ≤ weakW / totalW then
      findings.map (suppress (roundTo 2 (weakW / totalW)))
    else findings

theorem prereqDeficit_keys (cfg : Config K) (db : Db K) (g : KpGraph K) (studentId : Nat)
    (a : KpAssessment K) (asOf : DateTime) :
    ((prereqDeficit cfg db g studentId a asOf).map AttributionFinding.key).Sublist [(a.kpId, .prereq)] := by
  unfold prereqDeficit
  split
  · exact List.nil_sublist _
  · exact List.Sublist.refl _

theorem forgettingDecay_keys (cfg : Config K) (db : Db K) (studentId : Nat) (a : KpAssessment K)
    (asOf : DateTime) :
    ((forgettingDecay cfg db studentId a asOf).map AttributionFinding.key).Sublist [(a.kpId, .forget)] := by
  unfold forgettingDecay
  split
  · dsimp only
    split
    · exact List.nil_sublist _
    · split
      · exact List.nil_sublist _
      · split
        · exact List.nil_sublist _
        · split
          · exact List.nil_sublist _
          · exact List.Sublist.refl _
  · exact List.nil_sublist _

theorem confusablePair_keys (cfg : Config K) (db : Db K) (g : KpGraph K) (studentId : Nat)
    (a : KpAssessment K) (asOf : DateTime) :
    ((confusablePair cfg db g studentId a asOf).map AttributionFinding.key).Sublist
      [(a.kpId, .confusable)] := by
  unfold confusablePair
  dsimp only
  split
  · exact List.nil_sublist _
  · exact List.Sublist.refl _

theorem attributeAssessment_keys (cfg : Config K) (db : Db K) (g : KpGraph K) (studentId : Nat)
    (a : KpAssessment K) (asOf : DateTime) :
    ((attributeAssessment cfg db g studentId a asOf).map AttributionFinding.key).Sublist
      [(a.kpId, .insufficient), (a.kpId, .prereq), (a.kpId, .forget), (a.kpId, .confusable)] := by
  unfold attributeAssessment
  split
  · exact List.nil_sublist _
  · exact List.Sublist.cons_cons _ (List.nil_sublist _)
  · split
    · exact List.nil_sublist _
    · split
      · exact List.nil_sublist _
      · rw [List.map_append, List.map_append]
        have causes := ((prereqDeficit_keys cfg db g studentId a asOf).append
          (forgettingDecay_keys cfg db studentId a asOf)).append
            (confusablePair_keys cfg db g studentId a asOf)
        exact List.Sublist.cons _ causes

theorem suppress_key (weakFraction : K) (f : AttributionFinding K) :
    (suppress weakFraction f).key = f.key := by
  unfold suppress
  split <;> rfl

theorem deriveFindings_keys (cfg : Config K) (db : Db K) (g : KpGraph K) (studentId : Nat)
    (assessments : List (KpAssessment K)) (asOf : DateTime) :
    (deriveFindings cfg db g studentId assessments asOf).map AttributionFinding.key =
      assessments.flatMap
        (fun a => (attributeAssessment cfg db g studentId a asOf).map AttributionFinding.key) := by
  rw [← List.map_flatMap]
  unfold deriveFindings
  dsimp only
  split
  · rfl
  · split
    · rw [List.map_map]
      exact List.map_congr_left (fun f _ => suppress_key _ f)
    · rfl

theorem mem_deriveFindings {cfg : Config K} {db : Db K} {g : KpGraph K} {studentId : Nat}
    {assessments : List (KpAssessment K)} {asOf : DateTime} {f : AttributionFinding K}
    (member : f ∈ deriveFindings cfg db g studentId assessments asOf) :
    ∃ a ∈ assessments, f.kpId = a.kpId := by
  have keyed : f.key ∈ (deriveFindings cfg db g studentId assessments asOf).map AttributionFinding.key :=
    List.mem_map_of_mem member
  rw [deriveFindings_keys, List.mem_flatMap] at keyed
  obtain ⟨a, listed, found⟩ := keyed
  have among := (attributeAssessment_keys cfg db g studentId a asOf).subset found
  refine ⟨a, listed, ?_⟩
  simp only [AttributionFinding.key, List.mem_cons, Prod.mk.injEq, List.not_mem_nil, or_false] at among
  rcases among with same | same | same | same <;> exact same.1

theorem nodup_deriveFindings_keys (cfg : Config K) (db : Db K) (g : KpGraph K) (studentId : Nat)
    {assessments : List (KpAssessment K)} (asOf : DateTime)
    (distinct : (assessments.map KpAssessment.kpId).Nodup) :
    ((deriveFindings cfg db g studentId assessments asOf).map AttributionFinding.key).Nodup := by
  rw [deriveFindings_keys, List.nodup_flatMap]
  constructor
  · intro a _
    exact (attributeAssessment_keys cfg db g studentId a asOf).nodup (by simp)
  · rw [List.Nodup, List.pairwise_map] at distinct
    apply distinct.imp
    intro a b apart key left right
    have first := (attributeAssessment_keys cfg db g studentId a asOf).subset left
    have second := (attributeAssessment_keys cfg db g studentId b asOf).subset right
    simp only [List.mem_cons, List.not_mem_nil, or_false] at first second
    have ofA : key.1 = a.kpId := by rcases first with rfl | rfl | rfl | rfl <;> rfl
    have ofB : key.1 = b.kpId := by rcases second with rfl | rfl | rfl | rfl <;> rfl
    exact apart (ofA.symm.trans ofB)

end

end KnowledgeGap
