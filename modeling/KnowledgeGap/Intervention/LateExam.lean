import KnowledgeGap.Intervention.Regenerate
import KnowledgeGap.Reports.Prefetch

namespace KnowledgeGap

open Relational

/-- What a suggestion asks for, apart from its key and the moment it was first made. -/
def Intervention.asks (iv : Intervention) : Intervention :=
  { iv with id := 0, retestExamId := none, retestDueDate := none, suggestedAt := 0, doneAt := none }

variable {K : Type} {t : Table Intervention} {g : KpGraph K} {classId examId : Nat} {sourceReportId : Option Nat}
  {asOf now : DateTime} {plan : Plan}

/-- The open suggestions of a class, as they read to a teacher. -/
def survivors (t : Table Intervention) (g : KpGraph K) (classId : Nat) : List Intervention :=
  (t.select (pendingIn g classId)).map Intervention.asks

theorem mem_survivors {c : Intervention} :
    c ∈ survivors t g classId ↔ ∃ r ∈ t.rows, pendingIn g classId r = true ∧ c = r.asks := by
  unfold survivors Table.select
  rw [List.mem_map]
  constructor
  · intro shown
    rcases shown with ⟨r, kept, rfl⟩
    rcases List.mem_filter.mp kept with ⟨stored, pending⟩
    exact ⟨r, stored, pending, rfl⟩
  · intro held
    rcases held with ⟨r, stored, pending, rfl⟩
    exact ⟨r, List.mem_filter.mpr ⟨stored, pending⟩, rfl⟩

/-- The plan has something to say of a need: it asks for it, or it finds it gone. -/
def Plan.judges (plan : Plan) (key : Option Nat × Nat) : Prop :=
  key ∈ plan.rows.map ActionRow.key ∨ plan.gone key = true

theorem not_judges_iff {key : Option Nat × Nat} :
    ¬ plan.judges key ↔ (∀ row ∈ plan.rows, row.key ≠ key) ∧ plan.gone key = false := by
  unfold Plan.judges
  rw [not_or, Bool.not_eq_true, List.mem_map]
  apply and_congr_left'
  constructor
  · intro unasked row listed same
    exact unasked ⟨row, listed, same⟩
  · intro unasked asked
    rcases asked with ⟨row, listed, same⟩
    exact unasked row listed same

theorem Filed.asks {row : ActionRow} {after : Intervention}
    (filed : Filed t g classId examId sourceReportId asOf now row after) :
    after.asks = (anew classId examId sourceReportId asOf 0 row).asks := by
  rcases filed with ⟨r, _, pending, key, _, rfl⟩ | ⟨_, n, rfl⟩
  · obtain ⟨cls, _, open_⟩ := pendingIn_iff.mp pending
    have student : r.studentId = row.studentId := congrArg Prod.fst key
    have point : r.kpId = row.kpId := congrArg Prod.snd key
    simp only [Intervention.asks, refreshSuggestion, anew, newSuggestion, cls, open_, student, point]
  · rfl

/-- One run: the planned suggestions, and of the others those it has nothing to say of. -/
theorem mem_survivors_applyPlan (planned : Planned g plan) {c : Intervention} :
    c ∈ survivors (applyPlan (purge t g classId examId) g classId examId sourceReportId asOf now plan) g classId ↔
      (∃ row ∈ plan.rows, c = (anew classId examId sourceReportId asOf 0 row).asks) ∨
        ∃ r, CarriedOver t g classId examId r.key r ∧ ¬ plan.judges r.key ∧ c = r.asks := by
  rw [mem_survivors]
  constructor
  · intro left
    rcases left with ⟨r, stored, pending, rfl⟩
    rcases applyPlan_open planned.distinct stored pending with ⟨before, latest, unasked, kept⟩ | ⟨row, listed, filed⟩
    · exact Or.inr ⟨r, carriedOver_iff.mpr ⟨before, pending, rfl, latest⟩, not_judges_iff.mpr ⟨unasked, kept⟩, rfl⟩
    · exact Or.inl ⟨row, listed, filed.asks⟩
  · intro due
    rcases due with ⟨row, listed, rfl⟩ | ⟨r, carried, unjudged, rfl⟩
    · obtain ⟨after, stored, filed⟩ := applyPlan_planned (purge t g classId examId) g classId examId sourceReportId asOf
        now planned.distinct listed (planned.asked row listed)
      exact ⟨after, stored, (filed.frame (planned.inside row listed)).1, filed.asks.symm⟩
    · obtain ⟨stored, pending, _, latest⟩ := carriedOver_iff.mp carried
      obtain ⟨unasked, kept⟩ := not_judges_iff.mp unjudged
      have same : outcome (purge t g classId examId) g classId examId sourceReportId asOf plan r = r := by
        rw [outcome, pending, latest, kept, refreshed_of_unplanned unasked]
        rfl
      refine ⟨r, ?_, pending, rfl⟩
      rw [rows_applyPlan planned.distinct]
      exact List.mem_append_left _ (List.mem_map.mpr ⟨r, stored, same⟩)

/-- At most one open suggestion for a need of the class. -/
def OneOpen (t : Table Intervention) (g : KpGraph K) (classId : Nat) : Prop :=
  ∀ r ∈ t.rows, ∀ s ∈ t.rows, pendingIn g classId r = true → pendingIn g classId s = true → r.key = s.key → r = s

theorem applyPlan_oneOpen (planned : Planned g plan) :
    OneOpen (applyPlan t g classId examId sourceReportId asOf now plan) g classId := by
  intro r left s right pendingR pendingS same
  obtain ⟨classR, insideR, openR⟩ := pendingIn_iff.mp pendingR
  obtain ⟨classS, _, openS⟩ := pendingIn_iff.mp pendingS
  exact applyPlan_unique planned.distinct left right classR classS insideR openR openS same

theorem OneOpen.carriedOver_iff (unique : OneOpen t g classId) {r : Intervention} :
    CarriedOver t g classId examId r.key r ↔ r ∈ t.rows ∧ pendingIn g classId r = true ∧ r.examId ≠ examId := by
  constructor
  · intro carried
    exact ⟨carried.1, carried.2.1, carried.2.2.1⟩
  · intro held
    rcases held with ⟨stored, pending, other⟩
    refine ⟨stored, pending, other, rfl, ?_⟩
    intro s present open_ _ same
    rw [unique s present r stored open_ pending same]

theorem OneOpen.nodup_survivors (unique : OneOpen t g classId) : (survivors t g classId).Nodup := by
  have rows : (t.select (pendingIn g classId)).Nodup := (List.Nodup.of_map _ t.nodup).filter _
  apply List.Nodup.map_on _ rows
  intro r left s right same
  obtain ⟨storedR, pendingR⟩ := List.mem_filter.mp left
  obtain ⟨storedS, pendingS⟩ := List.mem_filter.mp right
  have key : r.asks.key = s.asks.key := congrArg Intervention.key same
  exact unique r storedR s storedS pendingR pendingS key

/-- A run over a table without duplicates. -/
theorem mem_survivors_again (planned : Planned g plan) (unique : OneOpen t g classId) {c : Intervention} :
    c ∈ survivors (applyPlan (purge t g classId examId) g classId examId sourceReportId asOf now plan) g classId ↔
      (∃ row ∈ plan.rows, c = (anew classId examId sourceReportId asOf 0 row).asks) ∨
        c ∈ survivors t g classId ∧ c.examId ≠ examId ∧ ¬ plan.judges c.key := by
  rw [mem_survivors_applyPlan planned, mem_survivors]
  constructor
  · intro due
    rcases due with asked | ⟨r, carried, unjudged, rfl⟩
    · exact Or.inl asked
    · obtain ⟨stored, pending, other⟩ := unique.carriedOver_iff.mp carried
      exact Or.inr ⟨⟨r, stored, pending, rfl⟩, other, unjudged⟩
  · intro due
    rcases due with asked | ⟨⟨r, stored, pending, rfl⟩, other, unjudged⟩
    · exact Or.inl asked
    · exact Or.inr ⟨r, unique.carriedOver_iff.mpr ⟨stored, pending, other⟩, unjudged, rfl⟩

/-- No open suggestion of one exam is archived for lack of support, passes to another exam or is dated back. -/
def Respected (early late : Nat) (before after : Table Intervention) : Prop :=
  ∀ r ∈ before.rows, r.status = .suggested → r.examId = late → ∃ s ∈ after.rows, s.id = r.id ∧
    ¬ (s.status = .skipped ∧ s.note = some archivedNote) ∧ s.examId ≠ early ∧ r.baselineAsOf ≤ s.baselineAsOf

theorem respected_self {early late : Nat} (apart : early ≠ late) (t : Table Intervention) : Respected early late t t := by
  intro r stored open_ exam
  refine ⟨r, stored, rfl, ?_, ?_, le_refl _⟩
  · intro archived
    rw [open_] at archived
    cases archived.1
  · rw [exam]
    exact apart.symm

theorem respected_applyPlan_iff (planned : Planned g plan) {late : Nat} (apart : examId ≠ late) :
    Respected examId late t (applyPlan (purge t g classId examId) g classId examId sourceReportId asOf now plan) ↔
      ∀ r, CarriedOver t g classId examId r.key r → r.examId = late → ¬ plan.judges r.key := by
  constructor
  · intro respected r carried exam judged
    obtain ⟨stored, pending, _, latest⟩ := carriedOver_iff.mp carried
    have suggested := (pendingIn_iff.mp pending).2.2
    obtain ⟨s, present, id, unarchived, other, _⟩ := respected r carried.1 suggested exam
    have written : outcome (purge t g classId examId) g classId examId sourceReportId asOf plan r ∈
        (applyPlan (purge t g classId examId) g classId examId sourceReportId asOf now plan).rows := by
      rw [rows_applyPlan planned.distinct]
      exact List.mem_append_left _ (List.mem_map_of_mem stored)
    have same : s = outcome (purge t g classId examId) g classId examId sourceReportId asOf plan r :=
      Table.key_inj _ present written (id.trans (outcome_frame ..).1.symm)
    rw [outcome, pending, latest] at same
    cases gone : plan.gone r.key with
    | true =>
      have open_ : (refreshed examId sourceReportId asOf plan r).status = .suggested :=
        (refreshed_frame ..).2.2.2.trans suggested
      rw [gone] at same
      simp only [↓reduceIte, Bool.false_eq_true, archive, open_] at same
      rw [same] at unarchived
      exact unarchived ⟨rfl, rfl⟩
    | false =>
      rcases judged with asked | ended
      · obtain ⟨row, listed, key⟩ := List.mem_map.mp asked
        rw [gone] at same
        simp only [↓reduceIte, Bool.false_eq_true, refreshed_of_planned planned.distinct listed key.symm] at same
        rw [same] at other
        exact other rfl
      · rw [gone] at ended
        cases ended
  · intro unjudged r stored suggested exam
    have spared : r ∈ (purge t g classId examId).rows :=
      mem_purge.mpr ⟨stored, fun purged => apart (purged.1.symm.trans exam)⟩
    refine ⟨outcome (purge t g classId examId) g classId examId sourceReportId asOf plan r, ?_, (outcome_frame ..).1, ?_⟩
    · rw [rows_applyPlan planned.distinct]
      exact List.mem_append_left _ (List.mem_map_of_mem spared)
    · have kept : ¬ (r.status = .skipped ∧ r.note = some archivedNote) := by
        intro archived
        rw [suggested] at archived
        cases archived.1
      have other : r.examId ≠ examId := fun same => apart (same.symm.trans exam)
      cases pending : pendingIn g classId r with
      | false =>
        rw [outcome_of_not_pending pending]
        exact ⟨kept, other, le_refl _⟩
      | true =>
        cases latest : superseded (purge t g classId examId) g classId r with
        | true =>
          have merged : mergedNote ≠ archivedNote := by decide
          rw [outcome, pending, latest]
          exact ⟨fun archived => merged (Option.some.inj archived.2), other, le_refl _⟩
        | false =>
          have carried := carriedOver_iff.mpr ⟨spared, pending, rfl, latest⟩
          obtain ⟨unasked, standing⟩ := not_judges_iff.mp (unjudged r carried exam)
          rw [outcome, pending, latest, standing, refreshed_of_unplanned unasked]
          exact ⟨kept, other, le_refl _⟩

/-- The newest open suggestion of a need among those of neither exam. -/
def NewestOther (t : Table Intervention) (g : KpGraph K) (classId early late : Nat) (r : Intervention) : Prop :=
  r ∈ t.rows ∧ pendingIn g classId r = true ∧ r.examId ≠ early ∧ r.examId ≠ late ∧
    ∀ s ∈ t.rows, pendingIn g classId s = true → s.examId ≠ early → s.examId ≠ late → s.key = r.key → s.id ≤ r.id

/-- An exam has an open suggestion for the same need that is newer. -/
def Newer (t : Table Intervention) (g : KpGraph K) (classId examId : Nat) (r : Intervention) : Prop :=
  ∃ s ∈ t.rows, pendingIn g classId s = true ∧ s.key = r.key ∧ s.examId = examId ∧ r.id < s.id

theorem NewestOther.swap {early late : Nat} {r : Intervention} (newest : NewestOther t g classId early late r) :
    NewestOther t g classId late early r := by
  obtain ⟨stored, pending, notEarly, notLate, bound⟩ := newest
  exact ⟨stored, pending, notLate, notEarly, fun s present open_ first second => bound s present open_ second first⟩

theorem NewestOther.unique {early late : Nat} {r s : Intervention} (left : NewestOther t g classId early late r)
    (right : NewestOther t g classId early late s) (same : r.key = s.key) : r = s := by
  obtain ⟨storedR, pendingR, earlyR, lateR, boundR⟩ := left
  obtain ⟨storedS, pendingS, earlyS, lateS, boundS⟩ := right
  have below := boundS r storedR pendingR earlyR lateR same
  have above := boundR s storedS pendingS earlyS lateS same.symm
  exact t.key_inj storedR storedS (le_antisymm below above)

theorem carriedOver_other_iff {early late : Nat} (apart : early ≠ late) {r : Intervention} :
    CarriedOver t g classId late r.key r ∧ r.examId ≠ early ↔
      NewestOther t g classId early late r ∧ ¬ Newer t g classId early r := by
  constructor
  · intro held
    rcases held with ⟨⟨stored, pending, notLate, _, bound⟩, notEarly⟩
    refine ⟨⟨stored, pending, notEarly, notLate, fun s present open_ _ other => bound s present open_ other⟩, ?_⟩
    intro newer
    rcases newer with ⟨s, present, open_, key, exam, above⟩
    have below := bound s present open_ (exam ▸ apart) key
    omega
  · intro held
    rcases held with ⟨⟨stored, pending, notEarly, notLate, bound⟩, newest⟩
    refine ⟨⟨stored, pending, notLate, rfl, ?_⟩, notEarly⟩
    intro s present open_ other key
    by_cases exam : s.examId = early
    · by_contra above
      exact newest ⟨s, present, open_, key, exam, Nat.lt_of_not_le above⟩
    · exact bound s present open_ exam other key

/-- What a run is held for. -/
structure Round (K : Type) where
  examId : Nat
  asOf : DateTime
  sourceReportId : Option Nat
  eventsBySk : Option (Batch K)

/-- The suggestion is one that the plan of a round asks for. -/
def Asked (classId : Nat) (round : Round K) (plan : Plan) (c : Intervention) : Prop :=
  ∃ row ∈ plan.rows, c = (anew classId round.examId round.sourceReportId round.asOf 0 row).asks

theorem Asked.frame {round : Round K} {c : Intervention} (asked : Asked classId round plan c) :
    c.examId = round.examId ∧ plan.judges c.key ∧ c.key ∈ plan.rows.map ActionRow.key := by
  obtain ⟨row, listed, rfl⟩ := asked
  exact ⟨rfl, Or.inl (List.mem_map_of_mem listed), List.mem_map_of_mem listed⟩

/-- The writes of a round, given its plan. -/
def carryOut (g : KpGraph K) (classId : Nat) (round : Round K) (now : DateTime) (plan : Plan) (t : Table Intervention) :
    Table Intervention :=
  applyPlan (purge t g classId round.examId) g classId round.examId round.sourceReportId round.asOf now plan

section
variable {first second : Round K} {plan₁ plan₂ : Plan} (planned₁ : Planned g plan₁) (planned₂ : Planned g plan₂)
  (apart : first.examId ≠ second.examId) (now₁ now₂ : DateTime)
include planned₁ planned₂ apart

/-- What is left when the second round is held before the first. -/
theorem mem_survivors_two {c : Intervention} :
    c ∈ survivors (carryOut g classId first now₁ plan₁ (carryOut g classId second now₂ plan₂ t)) g classId ↔
      Asked classId first plan₁ c ∨ (Asked classId second plan₂ c ∧ ¬ plan₁.judges c.key) ∨
        ∃ r, NewestOther t g classId first.examId second.examId r ∧ ¬ Newer t g classId first.examId r ∧
          ¬ plan₁.judges r.key ∧ ¬ plan₂.judges r.key ∧ c = r.asks := by
  unfold carryOut
  rw [mem_survivors_again planned₁ (applyPlan_oneOpen planned₂), mem_survivors_applyPlan planned₂]
  constructor
  · intro left
    rcases left with asked | ⟨asked | ⟨r, carried, unjudged, rfl⟩, other, kept⟩
    · exact Or.inl asked
    · exact Or.inr (Or.inl ⟨asked, kept⟩)
    · obtain ⟨newest, unbeaten⟩ := (carriedOver_other_iff apart).mp ⟨carried, other⟩
      exact Or.inr (Or.inr ⟨r, newest, unbeaten, kept, unjudged, rfl⟩)
  · intro due
    rcases due with asked | ⟨asked, kept⟩ | ⟨r, newest, unbeaten, kept, unjudged, rfl⟩
    · exact Or.inl asked
    · refine Or.inr ⟨Or.inl asked, ?_, kept⟩
      rw [asked.frame.1]
      exact apart.symm
    · obtain ⟨carried, other⟩ := (carriedOver_other_iff apart).mpr ⟨newest, unbeaten⟩
      exact Or.inr ⟨Or.inr ⟨r, carried, unjudged, rfl⟩, other, kept⟩

theorem survivors_exchange {now₁' now₂' : DateTime}
    (silent : ∀ key, plan₁.judges key → plan₂.judges key → key ∉ plan₁.rows.map ActionRow.key)
    (leftovers : ∀ r, NewestOther t g classId first.examId second.examId r → ¬ plan₁.judges r.key →
      ¬ plan₂.judges r.key → ¬ Newer t g classId first.examId r → ¬ Newer t g classId second.examId r)
    {c : Intervention}
    (left : c ∈ survivors (carryOut g classId first now₁ plan₁ (carryOut g classId second now₂ plan₂ t)) g classId) :
    c ∈ survivors (carryOut g classId second now₂' plan₂ (carryOut g classId first now₁' plan₁ t)) g classId := by
  rw [mem_survivors_two planned₂ planned₁ apart.symm]
  rcases (mem_survivors_two planned₁ planned₂ apart now₁ now₂).mp left with asked | ⟨asked, _⟩ |
    ⟨r, newest, unbeaten, kept, unjudged, same⟩
  · obtain ⟨_, judged, key⟩ := asked.frame
    exact Or.inr (Or.inl ⟨asked, fun both => silent c.key judged both key⟩)
  · exact Or.inl asked
  · exact Or.inr (Or.inr ⟨r, newest.swap, leftovers r newest kept unjudged unbeaten, unjudged, kept, same⟩)

omit planned₁ apart in
/-- The open suggestions of a round after it are the planned ones. -/
theorem key_of_second {r : Intervention} (stored : r ∈ (carryOut g classId second now₂ plan₂ t).rows)
    (pending : pendingIn g classId r = true) (exam : r.examId = second.examId) :
    r.key ∈ plan₂.rows.map ActionRow.key := by
  rcases applyPlan_open planned₂.distinct stored pending with ⟨before, _⟩ | ⟨row, listed, filed⟩
  · exact absurd ⟨exam, pending⟩ (mem_purge.mp before).2
  · rw [(filed.frame (planned₂.inside row listed)).2.1]
    exact List.mem_map_of_mem listed

omit planned₁ in
theorem second_of_key {row : ActionRow} (listed : row ∈ plan₂.rows) :
    ∃ r, CarriedOver (carryOut g classId second now₂ plan₂ t) g classId first.examId r.key r ∧
      r.examId = second.examId ∧ r.key = row.key := by
  obtain ⟨r, stored, filed⟩ := applyPlan_planned (purge t g classId second.examId) g classId second.examId
    second.sourceReportId second.asOf now₂ planned₂.distinct listed (planned₂.asked row listed)
  obtain ⟨pending, key, exam⟩ := filed.frame (planned₂.inside row listed)
  have unique : OneOpen (carryOut g classId second now₂ plan₂ t) g classId := applyPlan_oneOpen planned₂
  exact ⟨r, unique.carriedOver_iff.mpr ⟨stored, pending, fun same => apart (same.symm.trans exam)⟩, exam, key⟩

/-- A leftover that survives both rounds has no newer suggestion of the round held last. -/
theorem unbeaten_of_survives {r : Intervention} (newest : NewestOther t g classId first.examId second.examId r)
    (left : r.asks ∈ survivors (carryOut g classId first now₁ plan₁ (carryOut g classId second now₂ plan₂ t)) g classId) :
    ¬ Newer t g classId first.examId r := by
  have exam₁ : r.asks.examId ≠ first.examId := newest.2.2.1
  have exam₂ : r.asks.examId ≠ second.examId := newest.2.2.2.1
  rcases (mem_survivors_two planned₁ planned₂ apart now₁ now₂).mp left with asked | ⟨asked, _⟩ |
    ⟨s, newestS, unbeaten, _, _, equal⟩
  · exact absurd asked.frame.1 exam₁
  · exact absurd asked.frame.1 exam₂
  · have key : r.asks.key = s.asks.key := congrArg Intervention.key equal
    rw [newest.unique newestS key]
    exact unbeaten

/-- Where the order does not matter, the first round asks for nothing that the second can tell something of. -/
theorem unasked_of_same {now₁' now₂' : DateTime}
    (same : (survivors (carryOut g classId first now₁ plan₁ (carryOut g classId second now₂ plan₂ t)) g classId).Perm
      (survivors (carryOut g classId second now₂' plan₂ (carryOut g classId first now₁' plan₁ t)) g classId))
    {key : Option Nat × Nat} (judged : plan₂.judges key) : key ∉ plan₁.rows.map ActionRow.key := by
  intro asked
  rcases List.mem_map.mp asked with ⟨row, listed, rfl⟩
  have asking : Asked classId first plan₁ (anew classId first.examId first.sourceReportId first.asOf 0 row).asks :=
    ⟨row, listed, rfl⟩
  have there := same.mem_iff.mp ((mem_survivors_two planned₁ planned₂ apart now₁ now₂).mpr (Or.inl asking))
  rcases (mem_survivors_two planned₂ planned₁ apart.symm now₂' now₁').mp there with other | ⟨_, unjudged⟩ |
    ⟨r, newest, _, _, _, equal⟩
  · exact apart (asking.frame.1.symm.trans other.frame.1)
  · exact unjudged judged
  · have exam : first.examId = r.examId := congrArg Intervention.examId equal
    exact newest.2.2.2.1 exam.symm

/-- The second round's suggestions stand, and the order of the rounds does not matter. -/
def Overtaken (t : Table Intervention) (now₁ now₂ now₁' now₂' : DateTime) (g : KpGraph K) (classId : Nat)
    (first second : Round K) (plan₁ plan₂ : Plan) : Prop :=
  Respected first.examId second.examId (carryOut g classId second now₂ plan₂ t)
      (carryOut g classId first now₁ plan₁ (carryOut g classId second now₂ plan₂ t)) ∧
    (survivors (carryOut g classId first now₁ plan₁ (carryOut g classId second now₂ plan₂ t)) g classId).Perm
      (survivors (carryOut g classId second now₂' plan₂ (carryOut g classId first now₁' plan₁ t)) g classId)

theorem overtaken_iff (now₁' now₂' : DateTime) :
    Overtaken t now₁ now₂ now₁' now₂' g classId first second plan₁ plan₂ ↔
      (∀ key, plan₁.judges key → plan₂.judges key →
        key ∉ plan₁.rows.map ActionRow.key ∧ key ∉ plan₂.rows.map ActionRow.key) ∧
      ∀ r, NewestOther t g classId first.examId second.examId r → ¬ plan₁.judges r.key → ¬ plan₂.judges r.key →
        (Newer t g classId first.examId r ↔ Newer t g classId second.examId r) := by
  unfold Overtaken
  rw [show carryOut g classId first now₁ plan₁ (carryOut g classId second now₂ plan₂ t) =
    applyPlan (purge (carryOut g classId second now₂ plan₂ t) g classId first.examId) g classId first.examId
      first.sourceReportId first.asOf now₁ plan₁ from rfl, respected_applyPlan_iff planned₁ apart]
  constructor
  · intro overtaken
    rcases overtaken with ⟨respected, same⟩
    refine ⟨?_, ?_⟩
    · intro key judged₁ judged₂
      refine ⟨unasked_of_same planned₁ planned₂ apart now₁ now₂ same judged₂, ?_⟩
      intro asked
      rcases List.mem_map.mp asked with ⟨row, listed, rfl⟩
      obtain ⟨r, carried, exam, key⟩ : ∃ r, CarriedOver (carryOut g classId second now₂ plan₂ t) g classId first.examId
          r.key r ∧ r.examId = second.examId ∧ r.key = row.key := second_of_key planned₂ apart now₂ listed
      exact respected r carried exam (key ▸ judged₁)
    · intro r newest unjudged₁ unjudged₂
      rw [← not_iff_not]
      constructor
      · intro unbeaten
        have there := same.mem_iff.mp ((mem_survivors_two planned₁ planned₂ apart now₁ now₂).mpr
          (Or.inr (Or.inr ⟨r, newest, unbeaten, unjudged₁, unjudged₂, rfl⟩)))
        exact unbeaten_of_survives planned₂ planned₁ apart.symm now₂' now₁' newest.swap there
      · intro unbeaten
        have there := same.mem_iff.mpr ((mem_survivors_two planned₂ planned₁ apart.symm now₂' now₁').mpr
          (Or.inr (Or.inr ⟨r, newest.swap, unbeaten, unjudged₂, unjudged₁, rfl⟩)))
        exact unbeaten_of_survives planned₁ planned₂ apart now₁ now₂ newest there
  · intro separate
    rcases separate with ⟨silent, leftovers⟩
    refine ⟨?_, ?_⟩
    · intro r carried exam judged
      have asked := key_of_second planned₂ now₂ carried.1 carried.2.1 exam
      exact (silent r.key judged (Or.inl asked)).2 asked
    · have unique : OneOpen (carryOut g classId first now₁ plan₁ (carryOut g classId second now₂ plan₂ t)) g classId :=
        applyPlan_oneOpen planned₁
      have unique' : OneOpen (carryOut g classId second now₂' plan₂ (carryOut g classId first now₁' plan₁ t)) g classId :=
        applyPlan_oneOpen planned₂
      refine (List.perm_ext_iff_of_nodup unique.nodup_survivors unique'.nodup_survivors).mpr ?_
      intro c
      constructor
      · apply survivors_exchange planned₁ planned₂ apart
        · exact fun key judged₁ judged₂ => (silent key judged₁ judged₂).1
        · exact fun r newest unjudged₁ unjudged₂ => (not_iff_not.mpr (leftovers r newest unjudged₁ unjudged₂)).mp
      · apply survivors_exchange planned₂ planned₁ apart.symm
        · exact fun key judged₂ judged₁ => (silent key judged₁ judged₂).2
        · exact fun r newest unjudged₂ unjudged₁ =>
            (not_iff_not.mpr (leftovers r newest.swap unjudged₁ unjudged₂)).mpr

end

section
variable [Field K] [LinearOrder K] [FloorRing K] (cfg : Config K) (db : Db K) (g : KpGraph K) (classId : Nat)

/-- `generate_interventions` for an exam, on a table of interventions. -/
def hold (round : Round K) (now : DateTime) (t : Table Intervention) : Table Intervention :=
  (generateInterventions cfg { db with interventions := t } g classId round.examId round.asOf round.sourceReportId now
    round.eventsBySk).1

/-- A run does something: suggestions are switched on, and the exam has a submitted response. -/
def Active (round : Round K) : Prop := cfg.actionPlanEnable = true ∧ committedIds db round.examId ≠ []

def planOf (round : Round K) : Plan :=
  makePlan cfg db g (keptDone db.interventions g classId) classId round.examId round.asOf round.eventsBySk

/-- The needs an exam can tell something of: those of the pupils who submitted it, and the points on which at least
    four of them are assessed and one is weak. -/
def Judges (round : Round K) : Option Nat × Nat → Prop
  | (none, kpId) =>
    let assessed := judged cfg db g classId round.examId round.asOf round.eventsBySk
    0 < (assessed.filter KpAssessment.isWeak).countP (fun a => decide (a.kpId = kpId)) ∧
      4 ≤ assessed.countP (fun a => decide (a.kpId = kpId))
  | (some sid, _) => sid ∈ committedIds db round.examId

def Needs (round : Round K) : Option Nat × Nat → Prop :=
  Needed cfg db g classId round.examId round.asOf round.eventsBySk

theorem mem_planOf_keys (round : Round K) (key : Option Nat × Nat) :
    key ∈ (planOf cfg db g classId round).rows.map ActionRow.key ↔ Needs cfg db g classId round key :=
  mem_makePlan_keys cfg db g classId round.examId round.asOf round.eventsBySk key

theorem mem_disproven_iff (round : Round K) (kpId : Nat) :
    kpId ∈ (planOf cfg db g classId round).disproven ↔
      Judges cfg db g classId round (none, kpId) ∧ ¬ Needs cfg db g classId round (none, kpId) := by
  let assessed := judged cfg db g classId round.examId round.asOf round.eventsBySk
  let weakCount := Dict.count KpAssessment.kpId (assessed.filter KpAssessment.isWeak)
  let classRows := (stableSort byKpCount weakCount.entries).filterMap
    (classRow (K := K) (Dict.count KpAssessment.kpId assessed))
  have shared : kpId ∈ classRows.map ActionRow.kpId ↔ Needs cfg db g classId round (none, kpId) := by
    rw [show Needs cfg db g classId round (none, kpId) = CommonNeed assessed kpId from rfl,
      ← mem_classRows_key assessed kpId, List.mem_map, List.mem_map]
    constructor
    · intro held
      rcases held with ⟨row, listed, rfl⟩
      rcases List.mem_filterMap.mp listed with ⟨e, _, made⟩
      have key := classRow_key made
      have point : row.kpId = e.1 := congrArg Prod.snd key
      exact ⟨row, listed, key.trans (by rw [point])⟩
    · intro held
      rcases held with ⟨row, listed, key⟩
      exact ⟨row, listed, congrArg Prod.snd key⟩
  have filed : (planOf cfg db g classId round).disproven = (weakCount.entries.filter (fun e =>
      decide (e.1 ∉ classRows.map ActionRow.kpId) && decide (4 ≤ (Dict.count KpAssessment.kpId assessed).getD e.1 0) &&
        decide ((e.2 : K) / (Dict.count KpAssessment.kpId assessed).getD e.1 0 < classCommonWeakRatio K))).map
          Prod.fst := rfl
  rw [filed, List.mem_map]
  constructor
  · intro listed
    rcases listed with ⟨⟨k, weak⟩, kept, rfl⟩
    rcases List.mem_filter.mp kept with ⟨entry, low⟩
    rcases (Dict.mem_entries_count _ _ _ _).mp entry with ⟨positive, counted⟩
    simp only [Bool.and_eq_true, decide_eq_true_eq, Dict.getD_count] at low
    exact ⟨⟨counted ▸ positive, low.1.2⟩, fun need => low.1.1 (shared.mpr need)⟩
  · intro ended
    rcases ended with ⟨⟨positive, enough⟩, unneeded⟩
    refine ⟨(kpId, (assessed.filter KpAssessment.isWeak).countP (fun a => decide (a.kpId = kpId))), ?_, rfl⟩
    rw [List.mem_filter]
    refine ⟨(Dict.mem_entries_count _ _ _ _).mpr ⟨positive, rfl⟩, ?_⟩
    simp only [Bool.and_eq_true, decide_eq_true_eq, Dict.getD_count]
    refine ⟨⟨fun listed => unneeded (shared.mp listed), enough⟩, ?_⟩
    by_contra reached
    exact unneeded ⟨positive, enough, not_lt.mp reached⟩

theorem planOf_judges_iff (round : Round K) (key : Option Nat × Nat) :
    (planOf cfg db g classId round).judges key ↔ Judges cfg db g classId round key := by
  unfold Plan.judges
  rw [mem_planOf_keys]
  obtain ⟨student, kpId⟩ := key
  cases student with
  | none =>
    have ended : (planOf cfg db g classId round).gone (none, kpId) = true ↔
        kpId ∈ (planOf cfg db g classId round).disproven := decide_eq_true_iff
    rw [ended, mem_disproven_iff]
    constructor
    · intro judges
      rcases judges with need | ⟨judged, _⟩
      · exact ⟨need.1, need.2.1⟩
      · exact judged
    · intro judged
      by_cases need : Needs cfg db g classId round (none, kpId)
      · exact Or.inl need
      · exact Or.inr ⟨judged, need⟩
  | some sid =>
    by_cases committed : sid ∈ committedIds db round.examId
    · have asked : (planOf cfg db g classId round).stillAsk.get? sid = some ((keptRows cfg db g
          (keptDone db.interventions g classId) classId round.asOf round.eventsBySk sid).map ActionRow.kpId) := by
        unfold planOf makePlan
        dsimp only
        rw [Dict.get?_tabulate (fun sid => (keptRows cfg db g (keptDone db.interventions g classId) classId round.asOf
          round.eventsBySk sid).map ActionRow.kpId), if_pos committed]
      refine ⟨fun _ => committed, fun _ => ?_⟩
      by_cases kept : kpId ∈ (keptRows cfg db g (keptDone db.interventions g classId) classId round.asOf
          round.eventsBySk sid).map ActionRow.kpId
      · obtain ⟨row, listed, point⟩ := List.mem_map.mp kept
        have own := mem_keptRows_key.mp (List.mem_map_of_mem (f := ActionRow.key) listed)
        left
        refine ⟨committed, ?_⟩
        have same : row.key.2 = kpId := point
        rw [← same]
        exact own.2
      · right
        simp only [Plan.gone, asked, kept, not_false_eq_true, decide_true]
    · constructor
      · intro judges
        rcases judges with need | ended
        · exact need.1
        · rw [show (planOf cfg db g classId round).gone (some sid, kpId) = false from
            makePlan_gone_of_absent committed] at ended
          cases ended
      · intro present
        exact absurd present committed

theorem planOf_planned (round : Round K) : Planned g (planOf cfg db g classId round) :=
  makePlan_planned cfg db g classId round.examId round.asOf round.eventsBySk _

theorem hold_active {round : Round K} (active : Active cfg db round) {t : Table Intervention}
    (same : t.select isDone = db.interventions.select isDone) (now : DateTime) :
    hold cfg db g classId round now t = carryOut g classId round now (planOf cfg db g classId round) t := by
  unfold hold carryOut planOf
  rw [generate_eq cfg { db with interventions := t } g classId round.examId round.asOf round.eventsBySk
    round.sourceReportId now active.1 active.2, ← keptDone_congr same]
  rfl

theorem hold_idle {round : Round K} (idle : ¬ Active cfg db round) (t : Table Intervention) (now : DateTime) :
    hold cfg db g classId round now t = t := by
  apply generate_idle
  unfold Active at idle
  rw [not_and_or, Bool.not_eq_true, not_not] at idle
  exact idle

theorem hold_done (round : Round K) (now : DateTime) (t : Table Intervention) :
    (hold cfg db g classId round now t).select isDone = t.select isDone :=
  generate_done cfg { db with interventions := t } g classId round.examId round.asOf round.eventsBySk
    round.sourceReportId now

/-- When a run is held makes no difference to what it leaves open. -/
theorem survivors_now (round : Round K) (now now' : DateTime) :
    (survivors (hold cfg db g classId round now db.interventions) g classId).Perm
      (survivors (hold cfg db g classId round now' db.interventions) g classId) := by
  by_cases active : Active cfg db round
  · have planned := planOf_planned cfg db g classId round
    have unique : ∀ now, OneOpen (hold cfg db g classId round now db.interventions) g classId := by
      intro now
      rw [hold_active cfg db g classId active rfl]
      exact applyPlan_oneOpen planned
    refine (List.perm_ext_iff_of_nodup (unique now).nodup_survivors (unique now').nodup_survivors).mpr ?_
    intro c
    rw [hold_active cfg db g classId active rfl, hold_active cfg db g classId active rfl]
    unfold carryOut
    rw [mem_survivors_applyPlan planned, mem_survivors_applyPlan planned]
  · rw [hold_idle cfg db g classId active, hold_idle cfg db g classId active]

/-- Two exams do not meddle with one another: no need that both can tell something of is suggested by either, an exam
    that is not generated for has no open suggestion left that the other can tell something of, and where neither
    has anything to tell, both or none have suggestions newer than those of all other exams. -/
structure Separate (early late : Round K) : Prop where
  silent : Active cfg db early → Active cfg db late → ∀ key, Judges cfg db g classId early key →
    Judges cfg db g classId late key → ¬ Needs cfg db g classId early key ∧ ¬ Needs cfg db g classId late key
  standing : Active cfg db early → ¬ Active cfg db late → ∀ r, CarriedOver db.interventions g classId early.examId r.key r →
    r.examId = late.examId → ¬ Judges cfg db g classId early r.key
  leftovers : Active cfg db early → Active cfg db late → ∀ r,
    NewestOther db.interventions g classId early.examId late.examId r → ¬ Judges cfg db g classId early r.key →
      ¬ Judges cfg db g classId late r.key →
        (Newer db.interventions g classId early.examId r ↔ Newer db.interventions g classId late.examId r)

theorem late_round_iff {early late : Round K} (apart : early.examId ≠ late.examId) (now₁ now₂ now₁' now₂' : DateTime) :
    (Respected early.examId late.examId (hold cfg db g classId late now₂ db.interventions)
        (hold cfg db g classId early now₁ (hold cfg db g classId late now₂ db.interventions)) ∧
      (survivors (hold cfg db g classId early now₁ (hold cfg db g classId late now₂ db.interventions)) g classId).Perm
        (survivors (hold cfg db g classId late now₂' (hold cfg db g classId early now₁' db.interventions)) g classId)) ↔
      Separate cfg db g classId early late := by
  have planned₁ := planOf_planned cfg db g classId early
  have planned₂ := planOf_planned cfg db g classId late
  by_cases active₁ : Active cfg db early
  · by_cases active₂ : Active cfg db late
    · rw [hold_active cfg db g classId active₁ (hold_done cfg db g classId late now₂ db.interventions),
        hold_active cfg db g classId active₂ (hold_done cfg db g classId early now₁' db.interventions),
        hold_active cfg db g classId active₂ rfl, hold_active cfg db g classId active₁ rfl]
      refine Iff.trans (overtaken_iff planned₁ planned₂ apart now₁ now₂ now₁' now₂') ?_
      simp only [planOf_judges_iff, mem_planOf_keys]
      constructor
      · intro apart
        rcases apart with ⟨silent, leftovers⟩
        exact ⟨fun _ _ => silent, fun _ idle => absurd active₂ idle, fun _ _ => leftovers⟩
      · intro separate
        exact ⟨separate.silent active₁ active₂, separate.leftovers active₁ active₂⟩
    · rw [hold_idle cfg db g classId active₂, hold_idle cfg db g classId active₂]
      have same := survivors_now cfg db g classId early now₁ now₁'
      rw [and_iff_left same, hold_active cfg db g classId active₁ rfl]
      refine Iff.trans (respected_applyPlan_iff planned₁ apart) ?_
      simp only [planOf_judges_iff]
      constructor
      · intro standing
        exact ⟨fun _ active => absurd active active₂, fun _ _ => standing, fun _ active => absurd active active₂⟩
      · intro separate
        exact separate.standing active₁ active₂
  · rw [hold_idle cfg db g classId active₁, hold_idle cfg db g classId active₁]
    have separate : Separate cfg db g classId early late :=
      ⟨fun active => absurd active active₁, fun active => absurd active active₁, fun active => absurd active active₁⟩
    have kept : Respected early.examId late.examId (hold cfg db g classId late now₂ db.interventions)
        (hold cfg db g classId late now₂ db.interventions) := respected_self apart _
    exact ⟨fun _ => separate, fun _ => ⟨kept, survivors_now cfg db g classId late now₂ now₂'⟩⟩

/-- The run of an exam, as of the end of its day. -/
def roundOf (exam : ExamTemplate) (sourceReportId : Option Nat) (eventsBySk : Option (Batch K)) : Round K :=
  ⟨exam.id, examAsOf exam, sourceReportId, eventsBySk⟩

/-- An older exam that is entered late leaves the newer suggestions alone, and both orders of entry lead to the same
    suggestions, exactly when the two exams do not meddle with one another. -/
theorem late_exam_iff {early late : ExamTemplate} (sourceReportId₁ sourceReportId₂ : Option Nat)
    (events₁ events₂ : Option (Batch K)) (now₁ now₂ now₁' now₂' : DateTime)
    (knownEarly : db.templates.get? early.id = some early) (knownLate : db.templates.get? late.id = some late)
    (older : early.examDate < late.examDate) :
    let first := roundOf early sourceReportId₁ events₁
    let second := roundOf late sourceReportId₂ events₂
    let newer := hold cfg db g classId second now₂ db.interventions
    let overtaken := hold cfg db g classId first now₁ newer
    let inOrder := hold cfg db g classId second now₂' (hold cfg db g classId first now₁' db.interventions)
    (Respected early.id late.id newer overtaken ∧ (survivors overtaken g classId).Perm (survivors inOrder g classId)) ↔
      Separate cfg db g classId first second := by
  intro first second newer overtaken inOrder
  have apart : first.examId ≠ second.examId := by
    intro same
    have key : early.id = late.id := same
    rw [key, knownLate] at knownEarly
    rw [Option.some.inj knownEarly] at older
    exact lt_irrefl _ older
  exact late_round_iff cfg db g classId apart now₁ now₂ now₁' now₂'

end

def examOn (id : Nat) (date : Date) : ExamTemplate := ⟨id, 1, date, .unit, .other "upload"⟩

/-- A point taught on day 3, an exam of day 0 and one of day 5, and who has submitted which. -/
def enteredLate (responses : List (ExamResponse ℚ)) : Db ℚ :=
  { Db.empty ℚ with
    classes := .ofList [⟨1, 7⟩]
    students := .ofList [⟨1, 1, "甲"⟩, ⟨2, 1, "乙"⟩]
    progress := .ofList [⟨1, 1, 9, 3⟩]
    templates := .ofList [examOn 4 0, examOn 5 5]
    responses := .ofList responses }

/-- Each pupil sits one of the two exams. -/
def onceEach : Db ℚ := enteredLate [⟨1, 4, 1, 0, .submitted⟩, ⟨2, 5, 2, 0, .submitted⟩]

def earlyRound : Round ℚ := roundOf (examOn 4 0) none none

def lateRound : Round ℚ := roundOf (examOn 5 5) none none

theorem onceEach_separate : Separate Config.rational onceEach comparedGraph 1 earlyRound lateRound := by
  have judges : ∀ kpId, ¬ Judges Config.rational onceEach comparedGraph 1 earlyRound (none, kpId) := by
    intro kpId held
    have assessed : (judged Config.rational onceEach comparedGraph 1 4 (examAsOf (examOn 4 0)) none).length = 0 := by
      decide +kernel
    have few := List.countP_le_length (p := fun a => decide (a.kpId = kpId))
      (l := judged Config.rational onceEach comparedGraph 1 4 (examAsOf (examOn 4 0)) none)
    have many := held.2
    dsimp only [earlyRound, roundOf, examOn] at many few assessed
    omega
  have early : committedIds onceEach 4 = [1] := by decide +kernel
  have late : committedIds onceEach 5 = [2] := by decide +kernel
  refine ⟨?_, ?_, ?_⟩
  · intro _ _ key first second
    rcases key with ⟨student, kpId⟩
    cases student with
    | none => exact absurd first (judges kpId)
    | some sid =>
      have one : sid ∈ committedIds onceEach 4 := first
      have two : sid ∈ committedIds onceEach 5 := second
      rw [early, List.mem_singleton] at one
      rw [late, List.mem_singleton] at two
      omega
  · intro _ _ r held
    cases held.1
  · intro _ _ r held
    cases held.1

theorem late_exam_once_each :
    (onceEach.templates.get? 4 = some (examOn 4 0) ∧ onceEach.templates.get? 5 = some (examOn 5 5) ∧
      (examOn 4 0).examDate < (examOn 5 5).examDate) ∧
    let newer := hold Config.rational onceEach comparedGraph 1 lateRound 0 onceEach.interventions
    let overtaken := hold Config.rational onceEach comparedGraph 1 earlyRound 1 newer
    let inOrder := hold Config.rational onceEach comparedGraph 1 lateRound 1
      (hold Config.rational onceEach comparedGraph 1 earlyRound 0 onceEach.interventions)
    Respected 4 5 newer overtaken ∧ (survivors overtaken comparedGraph 1).Perm (survivors inOrder comparedGraph 1) := by
  have first : onceEach.templates.get? 4 = some (examOn 4 0) := by decide +kernel
  have second : onceEach.templates.get? 5 = some (examOn 5 5) := by decide +kernel
  have older : (examOn 4 0).examDate < (examOn 5 5).examDate := by decide
  exact ⟨⟨first, second, older⟩, (late_exam_iff Config.rational onceEach comparedGraph 1 none none none none 1 0 0 1
    first second older).mpr onceEach_separate⟩

/-- One pupil sits both exams. -/
def satBoth : Db ℚ := enteredLate [⟨1, 4, 1, 0, .submitted⟩, ⟨2, 5, 1, 0, .submitted⟩]

/-- The exam of day 0, entered late, archives what the exam of day 5 suggests. -/
theorem late_exam_archives :
    (satBoth.templates.get? 4 = some (examOn 4 0) ∧ satBoth.templates.get? 5 = some (examOn 5 5) ∧
      (examOn 4 0).examDate < (examOn 5 5).examDate) ∧
    let newer := hold Config.rational satBoth comparedGraph 1 lateRound 0 satBoth.interventions
    let overtaken := hold Config.rational satBoth comparedGraph 1 earlyRound 1 newer
    let inOrder := hold Config.rational satBoth comparedGraph 1 lateRound 1
      (hold Config.rational satBoth comparedGraph 1 earlyRound 0 satBoth.interventions)
    newer.rows.map (fun r => (r.id, r.key, r.examId, r.status)) = [(1, (some 1, 9), 5, .suggested)] ∧
      overtaken.rows.map (fun r => (r.id, r.status, r.note)) = [(1, .skipped, some archivedNote)] ∧
      (survivors inOrder comparedGraph 1).length = 1 ∧
      ¬ (Respected 4 5 newer overtaken ∧
        (survivors overtaken comparedGraph 1).Perm (survivors inOrder comparedGraph 1)) := by
  have gone : survivors (hold Config.rational satBoth comparedGraph 1 earlyRound 1
      (hold Config.rational satBoth comparedGraph 1 lateRound 0 satBoth.interventions)) comparedGraph 1 = [] := by
    decide +kernel
  have left : (survivors (hold Config.rational satBoth comparedGraph 1 lateRound 1
      (hold Config.rational satBoth comparedGraph 1 earlyRound 0 satBoth.interventions)) comparedGraph 1).length = 1 := by
    decide +kernel
  refine ⟨⟨by decide +kernel, by decide +kernel, by decide⟩, by decide +kernel, by decide +kernel, left, ?_⟩
  intro unmoved
  have lengths := unmoved.2.length_eq
  rw [gone, left] at lengths
  cases lengths

end KnowledgeGap
