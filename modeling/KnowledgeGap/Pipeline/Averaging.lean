import KnowledgeGap.Numeric.WeightedMean
import KnowledgeGap.Pipeline.Mastery
import Mathlib.Analysis.SpecialFunctions.Pow.Real
import Mathlib.Tactic.FieldSimp

namespace KnowledgeGap

open Numeric

variable {K : Type} [Field K] [LinearOrder K]

/-- Events as the decay weighs them, with what they say. -/
def weigh (cfg : Config K) (asOf : DateTime) (events : List (EvidenceEvent K)) : List (K × K) :=
  events.map (fun e => (effectiveWeight cfg e asOf, e.value))

theorem weighted_sums (cfg : Config K) (asOf : DateTime) (events : List (EvidenceEvent K)) (s : K × K) :
    events.foldl (fun s ev => (s.1 + ev.value * effectiveWeight cfg ev asOf, s.2 + effectiveWeight cfg ev asOf)) s =
      (s.1 + moment (weigh cfg asOf events), s.2 + mass (weigh cfg asOf events)) := by
  induction events generalizing s with
  | nil => simp [weigh]
  | cons e events ih =>
    rw [List.foldl_cons, ih]
    simp only [weigh, List.map_cons, moment_cons, mass_cons, Prod.mk.injEq]
    constructor <;> ring

/-- The same event with a value that is no lower. -/
structure Raised (e e' : EvidenceEvent K) : Prop where
  same : e' = { e with value := e'.value }
  higher : e.value ≤ e'.value

/-- The laws of the mean that a list of events has at a moment. -/
structure MeanLaws (cfg : Config K) (events : List (EvidenceEvent K)) (asOf : DateTime) (strength : K) : Prop where
  defined : (masteryOfEvents cfg events asOf none strength).isSome ↔ events ≠ []
  between : ∀ m, masteryOfEvents cfg events asOf none strength = some m →
    (∃ e ∈ events, (∀ e' ∈ events, e.value ≤ e'.value) ∧ e.value ≤ m) ∧
      ∃ e ∈ events, (∀ e' ∈ events, e'.value ≤ e.value) ∧ m ≤ e.value
  unordered : ∀ events', events'.Perm events →
    masteryOfEvents cfg events' asOf none strength = masteryOfEvents cfg events asOf none strength
  monotone : ∀ raised, List.Forall₂ Raised events raised → ∀ m,
    masteryOfEvents cfg events asOf none strength = some m →
      ∃ m', masteryOfEvents cfg raised asOf none strength = some m' ∧ m ≤ m'
  toward : ∀ before after (added : EvidenceEvent K), events = before ++ after → 0 < added.weight →
    added.occurredAt ≤ asOf → ∀ m, masteryOfEvents cfg events asOf none strength = some m →
      ∃ m', masteryOfEvents cfg (before ++ added :: after) asOf none strength = some m' ∧
        min m added.value ≤ m' ∧ m' ≤ max m added.value
  timeless : ∀ h : K, (∀ e ∈ events, halfLifeDays e.sourceType = h) → ∀ later, (∀ e ∈ events, e.occurredAt ≤ later) →
    masteryOfEvents cfg events later none strength = masteryOfEvents cfg events asOf none strength
  shrinks : ∀ prior m, masteryOfEvents cfg events asOf none strength = some m →
    ∃ r, masteryOfEvents cfg events asOf (some prior) strength = some r ∧ min prior m ≤ r ∧ r ≤ max prior m ∧
      (strength = 0 → r = m)

section
variable [IsStrictOrderedRing K] {cfg : Config K} {events : List (EvidenceEvent K)} {asOf : DateTime} {strength : K}

theorem weigh_weighted (positive : ∀ x, 0 < cfg.pow2 x) (weighted : ∀ e ∈ events, 0 < e.weight) (asOf : DateTime) :
    Weighted (weigh cfg asOf events) := by
  intro x listed
  have ⟨e, held, same⟩ := List.mem_map.mp listed
  rw [← same]
  exact mul_pos (weighted e held) (positive _)

/-- With a decay and weights that are positive the mastery is the weighted mean, drawn to the prior when there is
    one. -/
theorem masteryOfEvents_eq (positive : ∀ x, 0 < cfg.pow2 x) (weighted : ∀ e ∈ events, 0 < e.weight) (prior : Option K) :
    masteryOfEvents cfg events asOf prior strength =
      if events = [] then none
      else
        match prior with
        | none => some (weightedMean (weigh cfg asOf events))
        | some p =>
          if strength ≤ 0 then some (weightedMean (weigh cfg asOf events))
          else some ((weightedMean (weigh cfg asOf events) * events.length + p * strength) / (events.length + strength)) := by
  unfold masteryOfEvents
  cases events with
  | nil => rfl
  | cons e events =>
    have heavy : 0 < mass (weigh cfg asOf (e :: events)) :=
      mass_pos (weigh_weighted positive weighted asOf) (List.cons_ne_nil _ _)
    rw [if_neg (by simp), if_neg (List.cons_ne_nil _ _)]
    dsimp only
    rw [weighted_sums, zero_add, zero_add, if_pos heavy]
    rfl

theorem observed_eq (positive : ∀ x, 0 < cfg.pow2 x) (weighted : ∀ e ∈ events, 0 < e.weight) (nonempty : events ≠ []) :
    masteryOfEvents cfg events asOf none strength = some (weightedMean (weigh cfg asOf events)) := by
  rw [masteryOfEvents_eq positive weighted, if_neg nonempty]

theorem observed_some (positive : ∀ x, 0 < cfg.pow2 x) (weighted : ∀ e ∈ events, 0 < e.weight) {m : K}
    (observed : masteryOfEvents cfg events asOf none strength = some m) :
    events ≠ [] ∧ m = weightedMean (weigh cfg asOf events) := by
  rw [masteryOfEvents_eq positive weighted] at observed
  split at observed
  · cases observed
  · rename_i nonempty
    exact ⟨nonempty, (Option.some.inj observed).symm⟩

/-- A later look multiplies every weight by the same factor. -/
theorem effectiveWeight_later {e : EvidenceEvent K} {h : K} {later : DateTime}
    (product : ∀ x y, cfg.pow2 (x + y) = cfg.pow2 x * cfg.pow2 y) (life : halfLifeDays e.sourceType = h)
    (past : e.occurredAt ≤ asOf) (too : e.occurredAt ≤ later) :
    effectiveWeight cfg e later =
      cfg.pow2 (((asOf - later : Int) : K) / (day : K) / h) * effectiveWeight cfg e asOf := by
  have age : ∀ t : DateTime, e.occurredAt ≤ t →
      max 0 (((t - e.occurredAt : Int) : K) / (day : K)) = ((t - e.occurredAt : Int) : K) / (day : K) := by
    intro t held
    apply max_eq_right
    have span : (0 : K) ≤ ((t - e.occurredAt : Int) : K) := Int.cast_nonneg (Int.sub_nonneg.mpr held)
    have unit : (0 : K) ≤ (day : K) := by
      exact_mod_cast (show (0 : Int) ≤ day by decide)
    exact div_nonneg span unit
  unfold effectiveWeight
  dsimp only
  rw [age later too, age asOf past, life, mul_left_comm, ← product]
  congr 2
  push_cast
  ring

/-- What is weighed of a pupil's events does not change when they are looked at later, if they share a half-life. -/
theorem weigh_later {h : K} {later : DateTime} (positive : ∀ x, 0 < cfg.pow2 x)
    (product : ∀ x y, cfg.pow2 (x + y) = cfg.pow2 x * cfg.pow2 y)
    (life : ∀ e ∈ events, halfLifeDays e.sourceType = h) (past : ∀ e ∈ events, e.occurredAt ≤ asOf)
    (too : ∀ e ∈ events, e.occurredAt ≤ later) :
    weightedMean (weigh cfg later events) = weightedMean (weigh cfg asOf events) := by
  have factored : weigh cfg later events = (weigh cfg asOf events).map
      (fun x => (cfg.pow2 (((asOf - later : Int) : K) / (day : K) / h) * x.1, x.2)) := by
    unfold weigh
    rw [List.map_map]
    apply List.map_congr_left
    intro e listed
    rw [effectiveWeight_later product (life e listed) (past e listed) (too e listed)]
    rfl
  rw [factored, weightedMean_scale (positive _).ne']

/-- With a positive decay that turns sums of time into products, the mastery is a mean with all that belongs to one. -/
theorem mastery_mean_laws (positive : ∀ x, 0 < cfg.pow2 x)
    (product : ∀ x y, cfg.pow2 (x + y) = cfg.pow2 x * cfg.pow2 y) (weighted : ∀ e ∈ events, 0 < e.weight)
    (past : ∀ e ∈ events, e.occurredAt ≤ asOf) (strength : K) : MeanLaws cfg events asOf strength where
  defined := by
    rw [masteryOfEvents_eq positive weighted]
    by_cases empty : events = []
    · simp [empty]
    · simp [empty]
  between := by
    intro m observed
    have ⟨nonempty, mean⟩ := observed_some positive weighted observed
    have weights := weigh_weighted positive weighted asOf
    have some_ : weigh cfg asOf events ≠ [] := by simpa [weigh] using nonempty
    have inhabited := List.exists_mem_of_ne_nil events nonempty
    have ⟨low, lowIn, least⟩ := Set.exists_min_image _ EvidenceEvent.value (List.finite_toSet events) inhabited
    have ⟨high, highIn, most⟩ := Set.exists_max_image _ EvidenceEvent.value (List.finite_toSet events) inhabited
    rw [mean]
    refine ⟨⟨low, lowIn, least, le_weightedMean weights some_ ?_⟩, high, highIn, most, weightedMean_le weights some_ ?_⟩
    · intro x listed
      have ⟨e, held, same⟩ := List.mem_map.mp listed
      rw [← same]
      exact least e held
    · intro x listed
      have ⟨e, held, same⟩ := List.mem_map.mp listed
      rw [← same]
      exact most e held
  unordered := by
    intro events' perm
    have weighted' : ∀ e ∈ events', 0 < e.weight := fun e listed => weighted e (perm.subset listed)
    have same : weightedMean (weigh cfg asOf events') = weightedMean (weigh cfg asOf events) :=
      weightedMean_perm (perm.map _)
    have empty : events' = [] ↔ events = [] := by
      constructor
      · intro none_
        rw [none_] at perm
        exact perm.nil_eq.symm
      · intro none_
        rw [none_] at perm
        exact perm.eq_nil
    rw [masteryOfEvents_eq positive weighted, masteryOfEvents_eq positive weighted', same]
    simp only [empty]
  monotone := by
    intro raised each m observed
    have ⟨nonempty, mean⟩ := observed_some positive weighted observed
    have weighted' : ∀ e ∈ raised, 0 < e.weight := by
      intro e' listed
      have ⟨n, inside, same⟩ := List.getElem_of_mem listed
      have size := each.length_eq
      have ⟨_, pairs⟩ := List.forall₂_iff_get.mp each
      have pair := pairs n (by omega) inside
      have weight := congrArg EvidenceEvent.weight pair.same
      dsimp only [List.get_eq_getElem] at weight
      rw [← same, weight]
      exact weighted _ (List.getElem_mem _)
    have nonempty' : raised ≠ [] := by
      intro none_
      rw [none_, List.forall₂_nil_right_iff] at each
      exact nonempty each
    refine ⟨_, observed_eq positive weighted' nonempty', ?_⟩
    rw [mean]
    apply weightedMean_mono (weigh_weighted positive weighted asOf)
    unfold weigh
    rw [List.forall₂_map_left_iff, List.forall₂_map_right_iff]
    apply each.imp
    intro e e' pair
    refine ⟨?_, pair.higher⟩
    rw [pair.same]
    rfl
  toward := by
    intro before after added split heavy recent m observed
    have ⟨nonempty, mean⟩ := observed_some positive weighted observed
    have perm : (before ++ added :: after).Perm (added :: events) := by
      rw [split]
      exact List.perm_middle
    have weighted' : ∀ e ∈ before ++ added :: after, 0 < e.weight := by
      intro e listed
      rcases List.mem_cons.mp (perm.subset listed) with new | old
      · rw [new]
        exact heavy
      · exact weighted e old
    have all : Weighted (weigh cfg asOf (added :: events)) :=
      weighted_cons.mpr ⟨mul_pos heavy (positive _), weigh_weighted positive weighted asOf⟩
    have some_ : weigh cfg asOf events ≠ [] := by simpa [weigh] using nonempty
    have same : weightedMean (weigh cfg asOf (before ++ added :: after)) =
        weightedMean (weigh cfg asOf (added :: events)) := weightedMean_perm (perm.map _)
    refine ⟨_, observed_eq positive weighted' (by simp), ?_⟩
    rw [same, mean]
    exact weightedMean_cons_between all some_
  timeless := by
    intro h life later too
    rw [masteryOfEvents_eq positive weighted, masteryOfEvents_eq positive weighted,
      weigh_later positive product life past too]
  shrinks := by
    intro prior m observed
    have ⟨nonempty, mean⟩ := observed_some positive weighted observed
    have count : (0 : K) < events.length := Nat.cast_pos.mpr (List.length_pos_iff.mpr nonempty)
    rw [masteryOfEvents_eq positive weighted, if_neg nonempty, ← mean]
    dsimp only
    by_cases free : strength ≤ 0
    · rw [if_pos free]
      exact ⟨m, rfl, min_le_right _ _, le_max_right _ _, fun _ => rfl⟩
    · rw [if_neg free, mul_comm m, mul_comm prior]
      have ⟨low, high⟩ := blend_between (u := m) (v := prior) count (not_le.mp free)
      rw [min_comm, max_comm]
      exact ⟨_, rfl, low, high, fun none_ => absurd none_.le free⟩

end

/-- Two units, the older one a half-life back, under the decay of `math.pow`. -/
theorem mastery_mean_laws_units :
    MeanLaws (Config.defaults (fun x : ℝ => 2 ^ x) (fun n p => (1 / Real.sqrt n) ^ p))
      [⟨1, 1, 9, 1, .unit, 1, 1, .understand, none, 0⟩, ⟨2, 1, 9, 2, .unit, 0, 2, .understand, none, 60 * day⟩]
      (60 * day) 5 := by
  apply mastery_mean_laws
  · exact fun x => Real.rpow_pos_of_pos two_pos x
  · exact fun x y => Real.rpow_add two_pos x y
  · intro e listed
    simp only [List.mem_cons, List.not_mem_nil, or_false] at listed
    rcases listed with same | same <;> (rw [same]; norm_num)
  · intro e listed
    simp only [List.mem_cons, List.not_mem_nil, or_false] at listed
    rcases listed with same | same
    · rw [same]
      decide
    · rw [same]

end KnowledgeGap
