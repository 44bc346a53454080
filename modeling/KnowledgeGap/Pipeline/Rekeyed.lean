import KnowledgeGap.Kb.Rename
import KnowledgeGap.Pipeline.Attribution

namespace KnowledgeGap

open Relational

variable {K : Type}

/-- The event without its keys. -/
def EvidenceEvent.blank (e : EvidenceEvent K) : EvidenceEvent K :=
  { e with id := 0, studentId := 0, kpId := 0, responseAnswerId := 0 }

/-- Two lists of events that say the same of a student, whatever they are filed under. -/
def SameEvidence (xs ys : List (EvidenceEvent K)) : Prop :=
  xs.map EvidenceEvent.blank = ys.map EvidenceEvent.blank

theorem SameEvidence.length {xs ys : List (EvidenceEvent K)} (same : SameEvidence xs ys) : xs.length = ys.length := by
  have sizes := congrArg List.length same
  simpa using sizes

theorem SameEvidence.filter {xs ys : List (EvidenceEvent K)} (same : SameEvidence xs ys)
    (p : EvidenceEvent K → Bool) (blind : ∀ e, p e.blank = p e) : SameEvidence (xs.filter p) (ys.filter p) := by
  have both := congrArg (List.filter p) same
  rw [List.filter_map, List.filter_map] at both
  have kept : p ∘ EvidenceEvent.blank = p := by
    funext e
    exact blind e
  rw [kept] at both
  exact both

/-- A reading of events that does not look at their keys. -/
theorem SameEvidence.read {α : Type} {xs ys : List (EvidenceEvent K)} (same : SameEvidence xs ys)
    (f : List (EvidenceEvent K) → α) (blind : ∀ zs, f (zs.map EvidenceEvent.blank) = f zs) : f xs = f ys := by
  rw [← blind xs, ← blind ys, same]

theorem SameEvidence.lastAt {xs ys : List (EvidenceEvent K)} (same : SameEvidence xs ys) :
    xs.getLast?.map EvidenceEvent.occurredAt = ys.getLast?.map EvidenceEvent.occurredAt := by
  apply same.read (fun zs => zs.getLast?.map EvidenceEvent.occurredAt)
  intro zs
  rw [List.getLast?_map, Option.map_map]
  rfl

section
variable [Field K] [LinearOrder K]

theorem masteryOfEvents_blank (cfg : Config K) (asOf : DateTime) (prior : Option K) (strength : K)
    (zs : List (EvidenceEvent K)) :
    masteryOfEvents cfg (zs.map EvidenceEvent.blank) asOf prior strength = masteryOfEvents cfg zs asOf prior strength := by
  unfold masteryOfEvents
  rw [List.isEmpty_map, List.foldl_map, List.length_map]
  rfl

theorem observedMastery_same (cfg : Config K) (asOf : DateTime) {xs ys : List (EvidenceEvent K)}
    (same : SameEvidence xs ys) : observedMastery cfg xs asOf = observedMastery cfg ys asOf :=
  same.read (fun zs => observedMastery cfg zs asOf) (masteryOfEvents_blank cfg asOf none _)

theorem classifyTrajectory_blank (zs : List (EvidenceEvent K)) :
    classifyTrajectory (zs.map EvidenceEvent.blank) = classifyTrajectory zs := by
  cases zs with
  | nil => rfl
  | cons e zs =>
    cases zs with
    | nil => rfl
    | cons d zs =>
      simp only [classifyTrajectory, List.map_cons, List.map_map]
      rfl

theorem extendSeries_blank (cfg : Config K) (s : List (EvidenceEvent K) × List (DateTime × K)) (e : EvidenceEvent K) :
    extendSeries cfg (s.1.map EvidenceEvent.blank, s.2) e.blank =
      ((extendSeries cfg s e).1.map EvidenceEvent.blank, (extendSeries cfg s e).2) := by
  have seen : observedMastery cfg (s.1.map EvidenceEvent.blank ++ [e.blank]) e.blank.occurredAt =
      observedMastery cfg (s.1 ++ [e]) e.occurredAt := by
    rw [← List.map_singleton, ← List.map_append]
    exact masteryOfEvents_blank cfg _ none _ _
  unfold extendSeries
  dsimp only
  rw [seen]
  cases observedMastery cfg (s.1 ++ [e]) e.occurredAt with
  | none => simp
  | some m =>
    cases s.2.getLast? with
    | none => simp [EvidenceEvent.blank]
    | some last =>
      dsimp only
      have moment : e.blank.occurredAt = e.occurredAt := rfl
      rw [moment]
      split
      · simp
      · simp

theorem series_blank (cfg : Config K) (zs : List (EvidenceEvent K)) (s : List (EvidenceEvent K) × List (DateTime × K)) :
    ((zs.map EvidenceEvent.blank).foldl (extendSeries cfg) (s.1.map EvidenceEvent.blank, s.2)).2 =
      (zs.foldl (extendSeries cfg) s).2 := by
  induction zs generalizing s with
  | nil => rfl
  | cons e zs ih =>
    rw [List.map_cons, List.foldl_cons, List.foldl_cons, extendSeries_blank]
    exact ih (extendSeries cfg s e)

theorem masterySeries_same (cfg : Config K) (db : Db K) (studentId : Nat) {k j : Nat} (asOf : DateTime)
    (same : SameEvidence (getEvents db studentId k asOf) (getEvents db studentId j asOf)) :
    masterySeries cfg db studentId k asOf = masterySeries cfg db studentId j asOf :=
  same.read (fun zs => (zs.foldl (extendSeries cfg) ([], [])).2) (fun zs => series_blank cfg zs ([], []))

/-- What the analysis of one point reads of its row. -/
structure Alike (p q : KnowledgePoint K) : Prop where
  code : q.code = p.code
  name : q.name = p.name
  cogLevels : q.cogLevelsExpected = p.cogLevelsExpected
  difficulty : q.difficultyPrior = p.difficultyPrior
  floor : q.masteryFloor = p.masteryFloor

theorem effectiveFloor_alike {p q : KnowledgePoint K} (alike : Alike p q) : effectiveFloor q = effectiveFloor p := by
  unfold effectiveFloor
  rw [alike.floor, alike.cogLevels]

theorem gradedMastery_alike (cfg : Config K) (asOf : DateTime) {p q : KnowledgePoint K} (alike : Alike p q)
    {xs ys : List (EvidenceEvent K)} (same : SameEvidence xs ys) :
    gradedMastery cfg q xs asOf = gradedMastery cfg p ys asOf := by
  have prior : masteryPrior cfg q = masteryPrior cfg p := by
    unfold masteryPrior
    rw [alike.difficulty]
  unfold gradedMastery
  rw [same.length, prior]
  exact same.read (fun zs => masteryOfEvents cfg zs asOf _ _) (masteryOfEvents_blank cfg asOf _ _)

variable [FloorRing K]

theorem perCogMasteryOf_alike (cfg : Config K) (asOf : DateTime) {p q : KnowledgePoint K} (alike : Alike p q)
    {xs ys : List (EvidenceEvent K)} (same : SameEvidence xs ys) :
    perCogMasteryOf cfg q xs asOf = perCogMasteryOf cfg p ys asOf := by
  have level : ∀ cog : CogLevel, SameEvidence (xs.filter (fun e => e.cogLevel == cog)) (ys.filter (fun e => e.cogLevel == cog)) :=
    fun cog => same.filter _ (fun _ => rfl)
  have each : (fun cog => if (xs.filter (fun e => e.cogLevel == cog)).length < cfg.minEvidenceCount then none
      else (observedMastery cfg (xs.filter (fun e => e.cogLevel == cog)) asOf).map (fun m => (cog, roundTo 3 m))) =
      (fun cog => if (ys.filter (fun e => e.cogLevel == cog)).length < cfg.minEvidenceCount then none
      else (observedMastery cfg (ys.filter (fun e => e.cogLevel == cog)) asOf).map (fun m => (cog, roundTo 3 m))) := by
    funext cog
    rw [(level cog).length, observedMastery_same cfg asOf (level cog)]
  unfold perCogMasteryOf
  rw [alike.cogLevels]
  dsimp only
  rw [each]

def KpAssessment.rekey (k : Nat) (a : KpAssessment K) : KpAssessment K := { a with kpId := k }

theorem measure_alike (cfg : Config K) {covered covered' : List Nat} (asOf : DateTime) {p q : KnowledgePoint K}
    (alike : Alike p q) (taught : q.id ∈ covered' ↔ p.id ∈ covered) {xs ys : List (EvidenceEvent K)}
    (same : SameEvidence xs ys) :
    measure cfg covered' asOf xs q = (measure cfg covered asOf ys p).rekey q.id := by
  have floor := effectiveFloor_alike alike
  have trajectory : classifyTrajectory xs = classifyTrajectory ys :=
    same.read classifyTrajectory classifyTrajectory_blank
  have lastAt := same.lastAt
  unfold measure
  dsimp only
  rw [alike.code, alike.name, floor]
  by_cases known : p.id ∈ covered
  · rw [if_neg (not_not_intro (taught.mpr known)), if_neg (not_not_intro known)]
    cases last : xs.getLast? with
    | none =>
      rw [last, Option.map_none, eq_comm, Option.map_eq_none_iff] at lastAt
      rw [lastAt]
      rfl
    | some e =>
      rw [last, Option.map_some, eq_comm, Option.map_eq_some_iff] at lastAt
      obtain ⟨d, other, moment⟩ := lastAt
      rw [other]
      dsimp only
      rw [same.length, trajectory, observedMastery_same cfg asOf same, gradedMastery_alike cfg asOf alike same,
        perCogMasteryOf_alike cfg asOf alike same, moment]
      split <;> rfl
  · rw [if_pos (fun h => known (taught.mp h)), if_pos known]
    rfl

omit [FloorRing K] in
theorem classMasteryDist_alike (cfg : Config K) {covered covered' : List Nat} (asOf : DateTime) {students : List Nat}
    {events events' : Nat → Nat → List (EvidenceEvent K)} {p q : KnowledgePoint K} (alike : Alike p q)
    (taught : q.id ∈ covered' ↔ p.id ∈ covered)
    (same : ∀ s ∈ students, SameEvidence (events' s q.id) (events s p.id)) :
    classMasteryDist cfg covered' asOf students events' q = classMasteryDist cfg covered asOf students events p := by
  unfold classMasteryDist
  by_cases known : p.id ∈ covered
  · rw [if_neg (not_not_intro (taught.mpr known)), if_neg (not_not_intro known)]
    apply List.filterMap_congr
    intro s listed
    dsimp only
    rw [(same s listed).length, gradedMastery_alike cfg asOf alike (same s listed)]
  · rw [if_pos (fun h => known (taught.mp h)), if_pos known]

theorem judgeWeak_rekey (cfg : Config K) (distribution : List K) (k : Nat) (a : KpAssessment K) :
    judgeWeak cfg distribution (a.rekey k) = (judgeWeak cfg distribution a).rekey k := by
  unfold judgeWeak KpAssessment.rekey
  dsimp only
  split
  · rename_i m mastery gate
    generalize (if 4 ≤ distribution.length then percentile distribution (classPercentile K) else none) = p25
    cases p25 with
    | none => cases cfg.weaknessMode <;> cases decide (m < a.floor) <;> rfl
    | some p =>
      dsimp only
      cases cfg.weaknessMode <;> cases decide (m < p) <;> cases decide (m < a.floor) <;>
        cases decide (m < a.floor + cfg.weaknessP25Margin) <;> rfl
  · rfl

omit [FloorRing K] in
theorem judgeCommon_rekey (distribution : List K) (k : Nat) (a : KpAssessment K) :
    judgeCommon distribution (a.rekey k) = (judgeCommon distribution a).rekey k := by
  have same : ((a.rekey k).valid && (a.rekey k).isWeak) = (a.valid && a.isWeak) := rfl
  unfold judgeCommon
  rw [same]
  by_cases held : (a.valid && a.isWeak && decide (4 ≤ distribution.length)) = true
  · rw [if_pos held, if_pos held]
    rfl
  · rw [if_neg held, if_neg held]

/-- An assessment under a new key is the old one: it depends on the point's row and on the evidence of the
    class, not on what they are filed under. -/
theorem assessKp_alike (cfg : Config K) {covered covered' : List Nat} (asOf : DateTime) {students : List Nat}
    {events events' : Nat → Nat → List (EvidenceEvent K)} {studentId : Nat} {p q : KnowledgePoint K}
    (alike : Alike p q) (taught : q.id ∈ covered' ↔ p.id ∈ covered)
    (same : ∀ s, s = studentId ∨ s ∈ students → SameEvidence (events' s q.id) (events s p.id)) :
    assessKp cfg covered' asOf students events' studentId q =
      (assessKp cfg covered asOf students events studentId p).rekey q.id := by
  unfold assessKp
  dsimp only
  rw [classMasteryDist_alike cfg asOf alike taught (fun s listed => same s (Or.inr listed)),
    measure_alike cfg asOf alike taught (same studentId (Or.inl rfl)), judgeWeak_rekey, judgeCommon_rekey]

end

/-- Where the analysis of one graph is read again in another: names, evidence and edges carry over under new
    keys. -/
structure Carries (db : Db K) (g h : KpGraph K) (studentId : Nat) (asOf : DateTime) (f : Nat → Nat) : Prop extends
    KpGraph.Embedding f g h where
  labels : ∀ k ∈ g.kpIds, h.label db (f k) = g.label db k
  evidence : ∀ k ∈ g.kpIds, SameEvidence (getEvents db studentId (f k) asOf) (getEvents db studentId k asOf)

def AttributionFinding.rename (f : Nat → Nat) (x : AttributionFinding K) : AttributionFinding K :=
  { x with kpId := f x.kpId, rootKpId := x.rootKpId.map f }

def LowAncestor.rename (f : Nat → Nat) (a : LowAncestor K) : LowAncestor K := { a with kpId := f a.kpId }

section
variable [Field K] [LinearOrder K] [FloorRing K] {cfg : Config K} {db : Db K} {g h : KpGraph K} {studentId : Nat}
  {asOf : DateTime} {f : Nat → Nat} (carries : Carries db g h studentId asOf f)
include carries

omit [FloorRing K] in
theorem lowMastery_carried {k : Nat} (member : k ∈ g.kpIds) :
    lowMastery cfg db studentId (f k) asOf = lowMastery cfg db studentId k asOf := by
  have same := carries.evidence k member
  unfold lowMastery evidenceCount masteryAt
  rw [same.length, observedMastery_same cfg asOf same]

omit [FloorRing K] in
theorem lowAncestors_carried {k : Nat} (member : k ∈ g.kpIds) :
    lowAncestors cfg db h studentId (f k) asOf = (lowAncestors cfg db g studentId k asOf).map (LowAncestor.rename f) := by
  unfold lowAncestors
  rw [carries.prerequisiteChain member, List.filterMap_map]
  have each : (g.prerequisiteChain k prereqMaxDepth).filterMap ((fun anc => (lowMastery cfg db studentId anc.kpId asOf).map
      (fun m => (⟨anc.kpId, anc.depth, anc.edgeWeight, m⟩ : LowAncestor K))) ∘ KpGraph.Ancestor.rename f) =
      ((g.prerequisiteChain k prereqMaxDepth).filterMap (fun anc => (lowMastery cfg db studentId anc.kpId asOf).map
        (fun m => (⟨anc.kpId, anc.depth, anc.edgeWeight, m⟩ : LowAncestor K)))).map (LowAncestor.rename f) := by
    rw [List.map_filterMap]
    apply List.filterMap_congr
    intro anc listed
    have inside := KpGraph.prerequisiteChain_inside g member prereqMaxDepth anc listed
    show (lowMastery cfg db studentId (f anc.kpId) asOf).map _ = _
    rw [lowMastery_carried carries inside, Option.map_map]
    rfl
  rw [each]
  symm
  apply List.map_insertionSort
  intro a _ b _
  exact Iff.rfl

omit [FloorRing K] carries in
theorem mem_lowAncestors {k : Nat} (member : k ∈ g.kpIds) {t : LowAncestor K}
    (listed : t ∈ lowAncestors cfg db g studentId k asOf) : t.kpId ∈ g.kpIds := by
  rw [lowAncestors, mem_stableSort, List.mem_filterMap] at listed
  obtain ⟨anc, chained, found⟩ := listed
  obtain ⟨m, _, rfl⟩ := Option.map_eq_some_iff.mp found
  exact KpGraph.prerequisiteChain_inside g member prereqMaxDepth anc chained

theorem prereqDeficit_carried (a : KpAssessment K) (member : a.kpId ∈ g.kpIds) :
    prereqDeficit cfg db h studentId (a.rekey (f a.kpId)) asOf =
      (prereqDeficit cfg db g studentId a asOf).map (AttributionFinding.rename f) := by
  have ancestors : lowAncestors cfg db h studentId (a.rekey (f a.kpId)).kpId asOf = _ :=
    lowAncestors_carried carries member
  have inside : ∀ t ∈ lowAncestors cfg db g studentId a.kpId asOf, t.kpId ∈ g.kpIds :=
    fun t listed => mem_lowAncestors member listed
  unfold prereqDeficit
  rw [ancestors]
  cases found : lowAncestors cfg db g studentId a.kpId asOf with
  | nil => rfl
  | cons root rest =>
    rw [found] at inside
    have names : ∀ t ∈ root :: rest, h.label db (f t.kpId) = g.label db t.kpId :=
      fun t listed => carries.labels t.kpId (inside t listed)
    have later : (rest.map (LowAncestor.rename f)).map (fun t => (EvidenceItem.ancestor (h.label db t.kpId).1
        (h.label db t.kpId).2 t.depth (roundTo 2 t.edgeWeight) (roundTo 3 t.mastery) : EvidenceItem K)) =
        rest.map (fun t => EvidenceItem.ancestor (g.label db t.kpId).1 (g.label db t.kpId).2 t.depth
          (roundTo 2 t.edgeWeight) (roundTo 3 t.mastery)) := by
      rw [List.map_map]
      apply List.map_congr_left
      intro t listed
      simp only [Function.comp_apply, LowAncestor.rename, names t (by simp [listed])]
    simp only [List.map_cons, List.map_nil, List.length_map, later]
    simp only [LowAncestor.rename, names root (by simp), AttributionFinding.rename, KpAssessment.rekey,
      Option.map_some]
    rfl

theorem forgettingDecay_carried (a : KpAssessment K) (member : a.kpId ∈ g.kpIds) :
    forgettingDecay cfg db studentId (a.rekey (f a.kpId)) asOf =
      (forgettingDecay cfg db studentId a asOf).map (AttributionFinding.rename f) := by
  have series : masterySeries cfg db studentId (a.rekey (f a.kpId)).kpId asOf = masterySeries cfg db studentId a.kpId asOf :=
    masterySeries_same cfg db studentId asOf (carries.evidence a.kpId member)
  unfold forgettingDecay
  rw [series]
  split
  · dsimp only [KpAssessment.rekey]
    split
    · rfl
    · split
      · rfl
      · split
        · rfl
        · split <;> rfl
  · rfl

omit [FloorRing K] in
theorem weakPartners_carried {partners : List Nat} (inside : ∀ p ∈ partners, p ∈ g.kpIds) :
    (partners.map f).filterMap (fun pid => (lowMastery cfg db studentId pid asOf).map (fun m => (pid, m))) =
      (partners.filterMap (fun pid => (lowMastery cfg db studentId pid asOf).map (fun m => (pid, m)))).map
        (Prod.map f id) := by
  rw [List.filterMap_map, List.map_filterMap]
  apply List.filterMap_congr
  intro p listed
  show (lowMastery cfg db studentId (f p) asOf).map _ = _
  rw [lowMastery_carried carries (inside p listed), Option.map_map]
  rfl

theorem confusablePair_carried (a : KpAssessment K) (member : a.kpId ∈ g.kpIds) :
    confusablePair cfg db h studentId (a.rekey (f a.kpId)) asOf =
      (confusablePair cfg db g studentId a asOf).map (AttributionFinding.rename f) := by
  have partners : h.confusablePartners (a.rekey (f a.kpId)).kpId = (g.confusablePartners a.kpId).map f :=
    carries.confusable a.kpId member
  have inside : ∀ p ∈ g.confusablePartners a.kpId, p ∈ g.kpIds := g.confusable_closed a.kpId
  unfold confusablePair
  dsimp only
  rw [partners, weakPartners_carried carries inside]
  cases found : (g.confusablePartners a.kpId).filterMap
      (fun pid => (lowMastery cfg db studentId pid asOf).map (fun m => (pid, m))) with
  | nil => rfl
  | cons first rest =>
    have names : ∀ p ∈ first :: rest, h.label db (f p.1) = g.label db p.1 := by
      intro p listed
      rw [← found, List.mem_filterMap] at listed
      obtain ⟨pid, there, same⟩ := listed
      obtain ⟨m, _, rfl⟩ := Option.map_eq_some_iff.mp same
      exact carries.labels pid (inside pid there)
    have later : (rest.map (Prod.map f id)).map (fun p => (EvidenceItem.confusedWith (h.label db p.1).1
        (h.label db p.1).2 (roundTo 3 p.2) : EvidenceItem K)) =
        rest.map (fun p => EvidenceItem.confusedWith (g.label db p.1).1 (g.label db p.1).2 (roundTo 3 p.2)) := by
      rw [List.map_map]
      apply List.map_congr_left
      intro p listed
      simp only [Function.comp_apply, Prod.map_fst, Prod.map_snd, id, names p (by simp [listed])]
    simp only [List.map_cons, List.map_nil, later]
    simp only [Prod.map_fst, Prod.map_snd, id, names first (by simp), AttributionFinding.rename, KpAssessment.rekey,
      Option.map_none]

/-- Every cause found for a point is found for its twin. -/
theorem attributeAssessment_carried (a : KpAssessment K) (member : a.kpId ∈ g.kpIds) :
    attributeAssessment cfg db h studentId (a.rekey (f a.kpId)) asOf =
      (attributeAssessment cfg db g studentId a asOf).map (AttributionFinding.rename f) := by
  have gate : (a.rekey (f a.kpId)).gate = a.gate := rfl
  have low : (a.rekey (f a.kpId)).lowEvidence = a.lowEvidence := rfl
  have weak : (a.rekey (f a.kpId)).isWeak = a.isWeak := rfl
  unfold attributeAssessment
  rw [gate, low, weak]
  split
  · rfl
  · rfl
  · split
    · rfl
    · split
      · rfl
      · rw [prereqDeficit_carried carries a member, forgettingDecay_carried carries a member,
          confusablePair_carried carries a member, List.map_append, List.map_append]

end

end KnowledgeGap
