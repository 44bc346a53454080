import KnowledgeGap.Numeric.Recording
import KnowledgeGap.Pipeline.Averaging
import KnowledgeGap.Pipeline.Evidence

namespace KnowledgeGap

open Relational Numeric

variable {K : Type} [Field K] [LinearOrder K]

/-- `mastery_series` over the events as a query returned them. -/
def seriesOf (cfg : Config K) (events : List (EvidenceEvent K)) : List (DateTime × K) :=
  (events.foldl (extendSeries cfg) ([], [])).2

theorem masterySeries_eq (cfg : Config K) (db : Db K) (studentId kpId : Nat) (asOf : DateTime) :
    masterySeries cfg db studentId kpId asOf = seriesOf cfg (getEvents db studentId kpId asOf) := rfl

/-- The weight the events up to a moment have at that moment. -/
def weightUpTo (cfg : Config K) (events : List (EvidenceEvent K)) (t : DateTime) : K :=
  mass (weigh cfg t (events.filter (fun e => decide (e.occurredAt ≤ t))))

/-- The mastery after every event, at the moment of that event. -/
def readings (cfg : Config K) (seen : List (EvidenceEvent K)) : List (EvidenceEvent K) → List (DateTime × Option K)
  | [] => []
  | e :: events => (e.occurredAt, observedMastery cfg (seen ++ [e]) e.occurredAt) :: readings cfg (seen ++ [e]) events

theorem observedMastery_eq (cfg : Config K) (events : List (EvidenceEvent K)) (t : DateTime) :
    observedMastery cfg events t =
      if 0 < mass (weigh cfg t events) then some (weightedMean (weigh cfg t events)) else none := by
  unfold observedMastery masteryOfEvents
  cases events with
  | nil => simp [weigh]
  | cons e events =>
    rw [if_neg (by simp)]
    dsimp only
    rw [weighted_sums, zero_add, zero_add]
    rfl

theorem observedMastery_perm (cfg : Config K) {events events' : List (EvidenceEvent K)} (perm : events'.Perm events)
    (t : DateTime) : observedMastery cfg events' t = observedMastery cfg events t := by
  have weighed : (weigh cfg t events').Perm (weigh cfg t events) := perm.map _
  have masses : mass (weigh cfg t events') = mass (weigh cfg t events) := (weighed.map Prod.fst).sum_eq
  rw [observedMastery_eq, observedMastery_eq, masses, weightedMean_perm weighed]

theorem extendSeries_record (cfg : Config K) (seen : List (EvidenceEvent K)) (series : List (DateTime × K))
    (e : EvidenceEvent K) :
    extendSeries cfg (seen, series) e =
      (seen ++ [e], record series (e.occurredAt, observedMastery cfg (seen ++ [e]) e.occurredAt)) := by
  simp only [extendSeries, record]
  cases observedMastery cfg (seen ++ [e]) e.occurredAt with
  | none => rfl
  | some m =>
    cases series.getLast? with
    | none => rfl
    | some last =>
      dsimp only
      split <;> rfl

theorem foldl_extendSeries (cfg : Config K) (seen events : List (EvidenceEvent K)) (series : List (DateTime × K)) :
    (events.foldl (extendSeries cfg) (seen, series)).2 = (readings cfg seen events).foldl record series := by
  induction events generalizing seen series with
  | nil => rfl
  | cons e events ih => rw [List.foldl_cons, extendSeries_record, ih, readings, List.foldl_cons]

theorem seriesOf_eq (cfg : Config K) (events : List (EvidenceEvent K)) :
    seriesOf cfg events = recordAll (readings cfg [] events) :=
  foldl_extendSeries cfg [] events []

theorem readings_append (cfg : Config K) (seen before after : List (EvidenceEvent K)) :
    readings cfg seen (before ++ after) = readings cfg seen before ++ readings cfg (seen ++ before) after := by
  induction before generalizing seen with
  | nil => simp [readings]
  | cons e before ih =>
    rw [List.cons_append, readings, readings, ih, List.cons_append, List.append_assoc]
    rfl

theorem readings_times (cfg : Config K) (seen events : List (EvidenceEvent K)) :
    (readings cfg seen events).map Prod.fst = events.map EvidenceEvent.occurredAt := by
  induction events generalizing seen with
  | nil => rfl
  | cons e events ih => rw [readings, List.map_cons, List.map_cons, ih]

/-- A reading in its place is the mastery after the event in that place. -/
theorem readings_split {cfg : Config K} {seen events : List (EvidenceEvent K)} {before after : List (DateTime × Option K)}
    {reading : DateTime × Option K} (split : readings cfg seen events = before ++ reading :: after) :
    ∃ front e back, events = front ++ e :: back ∧
      reading = (e.occurredAt, observedMastery cfg (seen ++ front ++ [e]) e.occurredAt) ∧
      after = readings cfg (seen ++ front ++ [e]) back := by
  induction events generalizing seen before with
  | nil => simp [readings] at split
  | cons e events ih =>
    rw [readings] at split
    cases before with
    | nil =>
      obtain ⟨here, rest⟩ := List.cons_eq_cons.mp split
      exact ⟨[], e, events, rfl, by rw [List.append_nil]; exact here.symm, by rw [List.append_nil]; exact rest.symm⟩
    | cons first before =>
      obtain ⟨front, f, back, apart, reads, rest⟩ := ih (List.cons_eq_cons.mp split).2
      refine ⟨e :: front, f, back, by rw [apart]; rfl, ?_, ?_⟩
      · rw [reads, List.append_assoc seen [e] front]
        rfl
      · rw [rest, List.append_assoc seen [e] front]
        rfl

omit [Field K] [LinearOrder K] in
theorem filter_upTo {front back : List (EvidenceEvent K)} {e : EvidenceEvent K}
    (sorted : (front ++ e :: back).Pairwise (fun a b => a.occurredAt ≤ b.occurredAt))
    (apart : ∀ f ∈ back, f.occurredAt ≠ e.occurredAt) :
    (front ++ e :: back).filter (fun f => decide (f.occurredAt ≤ e.occurredAt)) = front ++ [e] := by
  obtain ⟨_, tail, across⟩ := List.pairwise_append.mp sorted
  have later := (List.pairwise_cons.mp tail).1
  have kept : front.filter (fun f => decide (f.occurredAt ≤ e.occurredAt)) = front :=
    List.filter_eq_self.mpr (fun f listed => decide_eq_true (across f listed e List.mem_cons_self))
  have dropped : back.filter (fun f => decide (f.occurredAt ≤ e.occurredAt)) = [] := by
    rw [List.filter_eq_nil_iff]
    intro f listed upto
    exact apart f listed (le_antisymm (of_decide_eq_true upto) (later f listed))
  rw [List.filter_append, List.filter_cons, kept, dropped, if_pos (by simp)]

omit [Field K] [LinearOrder K] in
/-- Every moment at which something happened has a last event. -/
theorem exists_last_at {events : List (EvidenceEvent K)} {e : EvidenceEvent K} (listed : e ∈ events) :
    ∃ front l back, events = front ++ l :: back ∧ l.occurredAt = e.occurredAt ∧
      ∀ f ∈ back, f.occurredAt ≠ l.occurredAt := by
  induction events using List.reverseRecOn with
  | nil => cases listed
  | append_singleton events last ih =>
    by_cases here : last.occurredAt = e.occurredAt
    · exact ⟨events, last, [], rfl, here, by simp⟩
    · have old : e ∈ events := by
        rcases List.mem_append.mp listed with old | new
        · exact old
        · rw [List.mem_singleton.mp new] at here
          exact absurd rfl here
      obtain ⟨front, l, back, split, moment, later⟩ := ih old
      refine ⟨front, l, back ++ [last], by rw [split]; simp, moment, ?_⟩
      intro f member
      rcases List.mem_append.mp member with earlier | final
      · exact later f earlier
      · rw [List.mem_singleton.mp final, moment]
        exact here

/-- The mastery function, sampled at the moments of the events. -/
structure Sampled (cfg : Config K) (db : Db K) (studentId kpId : Nat) (asOf : DateTime) (series : List (DateTime × K)) :
    Prop where
  increasing : Increasing series
  moments : ∀ t, (∃ m, (t, m) ∈ series) ↔
    (∃ e ∈ getEvents db studentId kpId asOf, e.occurredAt = t) ∧ (masteryAt cfg db studentId kpId t).isSome
  values : ∀ p ∈ series, masteryAt cfg db studentId kpId p.1 = some p.2
  latest : ∀ p ∈ series.getLast?, ∀ l ∈ getEvents db studentId kpId asOf,
    (∀ f ∈ getEvents db studentId kpId asOf, f.occurredAt ≤ l.occurredAt) →
      masteryAt cfg db studentId kpId l.occurredAt = some p.2

/-- No weight that counted is taken away again: not by events of the same moment, and not by the last ones. -/
structure Uncancelled (cfg : Config K) (events : List (EvidenceEvent K)) : Prop where
  moment : ∀ front e back, events = front ++ e :: back → 0 < mass (weigh cfg e.occurredAt (front ++ [e])) →
    0 < weightUpTo cfg events e.occurredAt
  latest : ∀ e ∈ events, ∀ l ∈ events, (∀ f ∈ events, f.occurredAt ≤ l.occurredAt) →
    0 < weightUpTo cfg events e.occurredAt → 0 < weightUpTo cfg events l.occurredAt

/-- The events a query for the pupil, the point and the moment may return, ties in any order. -/
structure Returned (db : Db K) (studentId kpId : Nat) (asOf : DateTime) (events : List (EvidenceEvent K)) : Prop where
  perm : events.Perm (getEvents db studentId kpId asOf)
  sorted : events.Pairwise (fun a b => a.occurredAt ≤ b.occurredAt)

omit [Field K] [LinearOrder K] in
theorem returned_getEvents (db : Db K) (studentId kpId : Nat) (asOf : DateTime) :
    Returned db studentId kpId asOf (getEvents db studentId kpId asOf) where
  perm := List.Perm.refl _
  sorted := (pairwise_stableSort byOccurredAt_comparison _).imp of_decide_eq_true

section
variable {cfg : Config K} {db : Db K} {studentId kpId : Nat} {asOf : DateTime} {events : List (EvidenceEvent K)}

theorem Returned.masteryAt_eq (returned : Returned db studentId kpId asOf events) {t : DateTime} (upto : t ≤ asOf) :
    masteryAt cfg db studentId kpId t =
      observedMastery cfg (events.filter (fun e => decide (e.occurredAt ≤ t))) t := by
  have same := filter_getEvents db studentId kpId upto
  rw [masteryAt, ← same]
  exact (observedMastery_perm cfg (returned.perm.filter _) t).symm

omit [Field K] [LinearOrder K] in
theorem Returned.upto (returned : Returned db studentId kpId asOf events) {e : EvidenceEvent K} (listed : e ∈ events) :
    e.occurredAt ≤ asOf :=
  (mem_getEvents.mp (returned.perm.mem_iff.mp listed)).2.2.2

theorem Returned.defined_iff (returned : Returned db studentId kpId asOf events) {e : EvidenceEvent K}
    (listed : e ∈ events) :
    (masteryAt cfg db studentId kpId e.occurredAt).isSome ↔ 0 < weightUpTo cfg events e.occurredAt := by
  rw [returned.masteryAt_eq (returned.upto listed), observedMastery_eq, weightUpTo]
  split <;> simp [*]

theorem readings_sorted (cfg : Config K) {events : List (EvidenceEvent K)}
    (sorted : events.Pairwise (fun a b => a.occurredAt ≤ b.occurredAt)) :
    (readings cfg [] events).Pairwise (fun a b => a.1 ≤ b.1) := by
  have times := readings_times cfg [] events
  have moments := List.pairwise_map.mpr sorted
  rw [← times] at moments
  exact List.pairwise_map.mp moments

theorem Returned.spec (returned : Returned db studentId kpId asOf events) (cfg : Config K) :
    Increasing (seriesOf cfg events) ∧ ∀ p, p ∈ seriesOf cfg events ↔ LastReading (readings cfg [] events) p := by
  rw [seriesOf_eq]
  exact recordAll_spec (readings_sorted cfg returned.sorted)

/-- The last reading of a moment is the mastery at that moment. -/
theorem Returned.lastReading (returned : Returned db studentId kpId asOf events) {e : EvidenceEvent K}
    (listed : e ∈ events) {m : K} (defined : masteryAt cfg db studentId kpId e.occurredAt = some m) :
    LastReading (readings cfg [] events) (e.occurredAt, m) := by
  obtain ⟨front, l, back, split, moment, later⟩ := exists_last_at listed
  have sorted := returned.sorted
  rw [split] at sorted
  have whole := filter_upTo sorted later
  rw [← split, moment] at whole
  rw [returned.masteryAt_eq (returned.upto listed), whole] at defined
  refine ⟨readings cfg [] front, readings cfg (front ++ [l]) back, ?_, ?_⟩
  · rw [split, readings_append, List.nil_append, readings, moment, defined]
  · intro r member same
    have time : r.1 ∈ back.map EvidenceEvent.occurredAt := by
      rw [← readings_times cfg (front ++ [l]) back]
      exact List.mem_map_of_mem member
    rcases List.mem_map.mp time with ⟨f, inside, at_⟩
    exact absurd (at_.trans (same.trans moment.symm)) (later f inside)

/-- A pair is in the history because the weight was positive after some event of its moment. -/
theorem Returned.reading (returned : Returned db studentId kpId asOf events) {p : DateTime × K}
    (stored : p ∈ seriesOf cfg events) :
    ∃ front e back, events = front ++ e :: back ∧ e.occurredAt = p.1 ∧ 0 < mass (weigh cfg e.occurredAt (front ++ [e])) := by
  rcases ((returned.spec cfg).2 p).mp stored with ⟨before, after, split, _⟩
  obtain ⟨front, e, back, apart, reads, _⟩ := readings_split split
  obtain ⟨time, value⟩ := Prod.mk.inj reads
  refine ⟨front, e, back, apart, time.symm, ?_⟩
  by_contra empty
  rw [List.nil_append, observedMastery_eq, if_neg empty] at value
  cases value

theorem Returned.stored (returned : Returned db studentId kpId asOf events) {front back : List (EvidenceEvent K)}
    {e : EvidenceEvent K} (split : events = front ++ e :: back)
    (heavy : 0 < mass (weigh cfg e.occurredAt (front ++ [e]))) : ∃ m, (e.occurredAt, m) ∈ seriesOf cfg events := by
  have read : (e.occurredAt, some (weightedMean (weigh cfg e.occurredAt (front ++ [e])))) ∈ readings cfg [] events := by
    rw [split, readings_append, List.nil_append, readings, observedMastery_eq, if_pos heavy]
    exact List.mem_append_right _ List.mem_cons_self
  obtain ⟨v, last⟩ := exists_lastReading read
  exact ⟨v, ((returned.spec cfg).2 _).mpr last⟩

theorem Returned.sampled (returned : Returned db studentId kpId asOf events) (steady : Uncancelled cfg events) :
    Sampled cfg db studentId kpId asOf (seriesOf cfg events) := by
  obtain ⟨increasing, read⟩ := returned.spec cfg
  have value : ∀ p ∈ seriesOf cfg events, masteryAt cfg db studentId kpId p.1 = some p.2 := by
    intro p stored
    obtain ⟨front, e, back, split, time, heavy⟩ := returned.reading stored
    have listed : e ∈ events := by
      rw [split]
      exact List.mem_append_right _ List.mem_cons_self
    obtain ⟨m, defined⟩ := Option.isSome_iff_exists.mp ((returned.defined_iff listed).mpr (steady.moment front e back split heavy))
    have last := (read _).mpr (returned.lastReading listed defined)
    rw [time] at defined last
    rw [defined, increasing_unique increasing stored last]
  have happened : ∀ p ∈ seriesOf cfg events, ∃ e ∈ events, e.occurredAt = p.1 := by
    intro p stored
    obtain ⟨front, e, back, split, time, _⟩ := returned.reading stored
    exact ⟨e, by rw [split]; exact List.mem_append_right _ List.mem_cons_self, time⟩
  refine ⟨increasing, ?_, value, ?_⟩
  · intro t
    constructor
    · intro some_
      obtain ⟨m, stored⟩ := some_
      obtain ⟨e, listed, time⟩ := happened _ stored
      exact ⟨⟨e, returned.perm.mem_iff.mp listed, time⟩, by rw [value _ stored]; rfl⟩
    · intro sampled
      obtain ⟨⟨e, listed, time⟩, defined⟩ := sampled
      obtain ⟨m, here⟩ := Option.isSome_iff_exists.mp defined
      rw [← time] at here
      have last := (read _).mpr (returned.lastReading (returned.perm.mem_iff.mpr listed) here)
      rw [time] at last
      exact ⟨m, last⟩
  · intro p final l asked newest
    have stored := List.mem_of_getLast? final
    have listed := returned.perm.mem_iff.mpr asked
    obtain ⟨e, inside, time⟩ := happened p stored
    have heavy : 0 < weightUpTo cfg events e.occurredAt :=
      (returned.defined_iff inside).mp (by rw [time, value p stored]; rfl)
    have bound : ∀ f ∈ events, f.occurredAt ≤ l.occurredAt := fun f member =>
      newest f (returned.perm.mem_iff.mp member)
    obtain ⟨m, defined⟩ := Option.isSome_iff_exists.mp
      ((returned.defined_iff listed).mpr (steady.latest e inside l listed bound heavy))
    have last := (read _).mpr (returned.lastReading listed defined)
    -- the pair of the last event is the last of the history: nothing is recorded beyond it
    have same : p.1 = l.occurredAt := by
      refine le_antisymm (by rw [← time]; exact bound e inside) ?_
      obtain ⟨front, whole⟩ := List.getLast?_eq_some_iff.mp final
      rw [whole] at increasing last
      rcases List.mem_append.mp last with before | here
      · obtain ⟨_, _, below⟩ := List.pairwise_append.mp increasing
        exact le_of_lt (below _ before p (List.mem_singleton_self p))
      · rw [← List.mem_singleton.mp here]
    rw [← same, value p stored]

theorem Returned.uncancelled (returned : Returned db studentId kpId asOf events)
    (sampled : Sampled cfg db studentId kpId asOf (seriesOf cfg events)) : Uncancelled cfg events := by
  constructor
  · intro front e back split heavy
    have listed : e ∈ events := by
      rw [split]
      exact List.mem_append_right _ List.mem_cons_self
    have defined := ((sampled.moments e.occurredAt).mp (returned.stored split heavy)).2
    exact (returned.defined_iff listed).mp defined
  · intro e inside l listed bound heavy
    have defined := (returned.defined_iff inside).mpr heavy
    obtain ⟨m, stored⟩ := (sampled.moments e.occurredAt).mpr ⟨⟨e, returned.perm.mem_iff.mp inside, rfl⟩, defined⟩
    obtain ⟨p, final⟩ := Option.isSome_iff_exists.mp (List.getLast?_isSome.mpr (List.ne_nil_of_mem stored))
    have newest : ∀ f ∈ getEvents db studentId kpId asOf, f.occurredAt ≤ l.occurredAt := fun f member =>
      bound f (returned.perm.mem_iff.mpr member)
    have last := sampled.latest p final l (returned.perm.mem_iff.mp listed) newest
    exact (returned.defined_iff listed).mp (by rw [last]; rfl)

end

/-- The history is the mastery function sampled at the events, in whatever order a query returns them, exactly when no
    weight that counted is taken away again. -/
theorem mastery_history_iff (cfg : Config K) (db : Db K) (studentId kpId : Nat) (asOf : DateTime) :
    (Sampled cfg db studentId kpId asOf (masterySeries cfg db studentId kpId asOf) ↔
      Uncancelled cfg (getEvents db studentId kpId asOf)) ∧
    ∀ events, Returned db studentId kpId asOf events →
      (Sampled cfg db studentId kpId asOf (seriesOf cfg events) ↔ Uncancelled cfg events) := by
  have every : ∀ events, Returned db studentId kpId asOf events →
      (Sampled cfg db studentId kpId asOf (seriesOf cfg events) ↔ Uncancelled cfg events) :=
    fun events returned => ⟨returned.uncancelled, returned.sampled⟩
  exact ⟨every _ (returned_getEvents db studentId kpId asOf), every⟩

section
variable [IsStrictOrderedRing K]

/-- Weights that are not negative count at every moment alike. -/
theorem mass_weigh_pos_iff {cfg : Config K} (positive : ∀ x, 0 < cfg.pow2 x) {events : List (EvidenceEvent K)}
    (weighted : ∀ e ∈ events, 0 ≤ e.weight) (t : DateTime) :
    0 ≤ mass (weigh cfg t events) ∧ (0 < mass (weigh cfg t events) ↔ ∃ e ∈ events, 0 < e.weight) := by
  induction events with
  | nil => simp [weigh]
  | cons e events ih =>
    obtain ⟨rest, counts⟩ := ih (fun f listed => weighted f (List.mem_cons_of_mem e listed))
    have here : 0 ≤ effectiveWeight cfg e t := mul_nonneg (weighted e List.mem_cons_self) (positive _).le
    have split : mass (weigh cfg t (e :: events)) = effectiveWeight cfg e t + mass (weigh cfg t events) := mass_cons _ _
    have first : 0 < effectiveWeight cfg e t ↔ 0 < e.weight := mul_pos_iff_of_pos_right (positive _)
    rw [split]
    refine ⟨add_nonneg here rest, ?_⟩
    constructor
    · intro heavy
      by_cases zero : 0 < effectiveWeight cfg e t
      · exact ⟨e, List.mem_cons_self, first.mp zero⟩
      · obtain ⟨f, listed, weight⟩ := counts.mp (by linarith)
        exact ⟨f, List.mem_cons_of_mem e listed, weight⟩
    · intro some_
      obtain ⟨f, listed, weight⟩ := some_
      rcases List.mem_cons.mp listed with head | tail
      · rw [head] at weight
        linarith [first.mpr weight]
      · linarith [counts.mpr ⟨f, tail, weight⟩]

/-- Tags that weigh nothing negative leave the history the sampled mastery. -/
theorem uncancelled_of_nonneg {cfg : Config K} (positive : ∀ x, 0 < cfg.pow2 x) {events : List (EvidenceEvent K)}
    (sorted : events.Pairwise (fun a b => a.occurredAt ≤ b.occurredAt)) (weighted : ∀ e ∈ events, 0 ≤ e.weight) :
    Uncancelled cfg events := by
  have counts : ∀ t, 0 < weightUpTo cfg events t ↔
      ∃ e ∈ events.filter (fun e => decide (e.occurredAt ≤ t)), 0 < e.weight :=
    fun t => (mass_weigh_pos_iff positive (fun e listed => weighted e (List.mem_of_mem_filter listed)) t).2
  constructor
  · intro front e back split heavy
    have whole : events = (front ++ [e]) ++ back := by rw [split, List.append_assoc, List.singleton_append]
    have inside : ∀ f ∈ front ++ [e], f ∈ events := by
      intro f listed
      rw [whole]
      exact List.mem_append_left back listed
    obtain ⟨f, listed, weight⟩ :=
      (mass_weigh_pos_iff positive (fun f listed => weighted f (inside f listed)) e.occurredAt).2.mp heavy
    refine (counts _).mpr ⟨f, List.mem_filter.mpr ⟨inside f listed, ?_⟩, weight⟩
    rw [split] at sorted
    have across := (List.pairwise_append.mp sorted).2.2
    rcases List.mem_append.mp listed with old | new
    · exact decide_eq_true (across f old e List.mem_cons_self)
    · rw [List.mem_singleton.mp new]
      exact decide_eq_true (le_refl _)
  · intro e _ l _ bound heavy
    obtain ⟨f, listed, weight⟩ := (counts _).mp heavy
    have inside := List.mem_of_mem_filter listed
    exact (counts _).mpr ⟨f, List.mem_filter.mpr ⟨inside, decide_eq_true (bound f inside)⟩, weight⟩

end

/-- An exam of two questions on one point, the second tagged with a weight of minus one, and a pupil's answers. -/
def offsetTagsDb : Db ℚ :=
  { Db.empty ℚ with
    classes := .ofList [⟨1, 7⟩]
    students := .ofList [⟨1, 1, "甲"⟩]
    templates := .ofList [⟨5, 1, 0, .unit, .other "manual"⟩]
    questions := .ofList [⟨1, 5, 1, "第1题", .other "解答", 10, .apply, 1 / 2, none⟩,
      ⟨2, 5, 2, "第2题", .other "解答", 10, .apply, 1 / 2, none⟩]
    questionKps := .ofList [⟨1, 1, 9, 1⟩, ⟨2, 2, 9, -1⟩]
    responses := .ofList [⟨1, 5, 1, 15, .submitted⟩]
    answers := .ofList [⟨1, 1, 1, 10, false⟩, ⟨2, 1, 2, 5, false⟩] }

/-- The evidence its commit brings. -/
def offsetEvidence : Table (EvidenceEvent ℚ) :=
  match deriveEventsForResponse Config.rational offsetTagsDb 1 with
  | .ok (events, _) => events
  | .error _ => .empty

theorem mastery_history_iff_offset :
    Sampled Config.rational { offsetTagsDb with events := offsetEvidence } 1 9 (noon 0)
        (seriesOf Config.rational offsetEvidence.rows.reverse) ↔
      Uncancelled Config.rational offsetEvidence.rows.reverse :=
  (mastery_history_iff Config.rational { offsetTagsDb with events := offsetEvidence } 1 9 (noon 0)).2 _
    ⟨by decide +kernel, by decide +kernel⟩

/-- The value after the first of the two answers stays in the history, where there is no mastery at that moment. -/
theorem mastery_history_counterexample :
    (deriveEventsForResponse Config.rational offsetTagsDb 1).isOk ∧
    masterySeries Config.rational { offsetTagsDb with events := offsetEvidence } 1 9 (noon 0) = [(noon 0, 1)] ∧
    masteryAt Config.rational { offsetTagsDb with events := offsetEvidence } 1 9 (noon 0) = none ∧
    ¬ Sampled Config.rational { offsetTagsDb with events := offsetEvidence } 1 9 (noon 0)
      (masterySeries Config.rational { offsetTagsDb with events := offsetEvidence } 1 9 (noon 0)) := by
  have series : masterySeries Config.rational { offsetTagsDb with events := offsetEvidence } 1 9 (noon 0) = [(noon 0, 1)] := by
    decide +kernel
  have undefined_ : masteryAt Config.rational { offsetTagsDb with events := offsetEvidence } 1 9 (noon 0) = none := by
    decide +kernel
  refine ⟨by decide +kernel, series, undefined_, ?_⟩
  intro sampled
  have value := sampled.values (noon 0, 1) (by rw [series]; exact List.mem_singleton_self _)
  rw [undefined_] at value
  cases value

end KnowledgeGap
