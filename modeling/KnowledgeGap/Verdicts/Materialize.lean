import KnowledgeGap.Pipeline.Attribution
import KnowledgeGap.Relational.Upsert

namespace KnowledgeGap

open Relational

variable {K : Type}

def Attribution.key (att : Attribution K) : Nat × AttributionType := (att.kpId, att.type)

def Attribution.finding (att : Attribution K) : AttributionFinding K :=
  ⟨att.kpId, att.type, att.confidence, att.rootKpId, att.evidence, att.prediction⟩

inductive Verdict
  | active
  | overridden
  deriving DecidableEq, Repr

structure ResolvedAttribution (K : Type) extends AttributionFinding K where
  verdict : Verdict
  teacherNote : Option String

/-- The verdicts of a student inside a graph that carry one of the statuses asked for. -/
def verdictOf (g : KpGraph K) (studentId : Nat) (statuses : List AttributionStatus)
    (att : Attribution K) : Bool :=
  att.studentId == studentId && decide (att.kpId ∈ g.kpIds) && decide (att.status ∈ statuses)

def overlay (verdicts : Dict (Nat × AttributionType) (Attribution K)) (f : AttributionFinding K) :
    ResolvedAttribution K :=
  match verdicts.get? f.key with
  | some v => { f with verdict := .overridden, teacherNote := v.teacherNote }
  | none => { f with verdict := .active, teacherNote := none }

def overriddenVerdicts (t : Table (Attribution K)) (g : KpGraph K) (studentId : Nat) :
    Dict (Nat × AttributionType) (Attribution K) :=
  Dict.ofList ((t.select (verdictOf g studentId [.overridden])).map (fun att => (att.key, att)))

def existingVerdicts (t : Table (Attribution K)) (g : KpGraph K) (studentId : Nat) :
    Dict (Nat × AttributionType) Nat :=
  Dict.ofList ((t.select (verdictOf g studentId [.active, .overridden])).map (fun att => (att.key, att.id)))

/-- A teacher's veto is kept as it stands; an active verdict takes over the newest hypothesis. -/
def refreshVerdict (f : AttributionFinding K) (att : Attribution K) : Attribution K :=
  if att.status = .overridden then att
  else { att with
    confidence := f.confidence
    rootKpId := f.rootKpId
    evidence := f.evidence
    prediction := f.prediction }

def newVerdict (studentId : Nat) (f : AttributionFinding K) (id : Nat) : Attribution K where
  id := id
  studentId := studentId
  kpId := f.kpId
  type := f.type
  confidence := f.confidence
  rootKpId := f.rootKpId
  evidence := f.evidence
  prediction := f.prediction
  status := .active
  teacherNote := none

def retireVerdict (att : Attribution K) : Attribution K :=
  if att.status = .active then { att with status := .resolved } else att

@[simp] theorem refreshVerdict_id (f : AttributionFinding K) (att : Attribution K) :
    (refreshVerdict f att).id = att.id := by
  unfold refreshVerdict
  split <;> rfl

@[simp] theorem retireVerdict_id (att : Attribution K) : (retireVerdict att).id = att.id := by
  unfold retireVerdict
  split <;> rfl

def verdictWriter (existing : Dict (Nat × AttributionType) Nat) (studentId : Nat) :
    Table.Writer (Attribution K) (AttributionFinding K) where
  target f := existing.get? f.key
  refresh := refreshVerdict
  refresh_key := refreshVerdict_id
  fresh := newVerdict studentId
  fresh_key := fun _ _ => rfl

def retirement (K : Type) (seen : List (Nat × AttributionType)) :
    Table.Patch (Attribution K) ((Nat × AttributionType) × Nat) where
  target e := if e.1 ∈ seen then none else some e.2
  refresh _ := retireVerdict
  refresh_key _ := retireVerdict_id

/-- The table after `findings` are written for a student, and the rows the call returns. -/
def writeVerdicts (t : Table (Attribution K)) (g : KpGraph K) (studentId : Nat)
    (findings : List (AttributionFinding K)) : Table (Attribution K) × List (Attribution K) :=
  let existing := existingVerdicts t g studentId
  let writer := verdictWriter existing studentId
  let seen := findings.map AttributionFinding.key
  let table := (t.upsertAll writer findings).patchAll (retirement K seen) existing.entries
  (table, ((writer.destinations findings t.nextId).filterMap table.get?).filter
    (fun att => decide (att.status = .active)))

section
variable [Field K] [LinearOrder K] [FloorRing K]

def findingsFor (cfg : Config K) (db : Db K) (g : KpGraph K) (studentId classId : Nat)
    (asOf : DateTime) (eventsBySk : Option (Batch K)) : List (AttributionFinding K) :=
  deriveFindings cfg db g studentId (assessStudentKps cfg db g studentId classId asOf eventsBySk) asOf

/-- The read path; `events_by_sk` is the prefetch the assessments were computed with. -/
def resolveAttributions (cfg : Config K) (db : Db K) (g : KpGraph K) (studentId classId : Nat)
    (asOf : DateTime) (eventsBySk : Option (Batch K)) : List (ResolvedAttribution K) :=
  (findingsFor cfg db g studentId classId asOf eventsBySk).map
    (overlay (overriddenVerdicts db.attributions g studentId))

/-- The write path, on assessments computed with the same choice of prefetch. -/
def materializeAttributionVerdicts (cfg : Config K) (db : Db K) (g : KpGraph K) (studentId classId : Nat)
    (asOf : DateTime) (eventsBySk : Option (Batch K)) : Table (Attribution K) × List (Attribution K) :=
  writeVerdicts db.attributions g studentId (findingsFor cfg db g studentId classId asOf eventsBySk)

end

/-- One row at most per student, point and cause is still standing. -/
def OnePerCause (t : Table (Attribution K)) : Prop :=
  ∀ r ∈ t.rows, ∀ s ∈ t.rows, r.status ≠ .resolved → s.status ≠ .resolved →
    r.studentId = s.studentId → r.key = s.key → r = s

theorem verdictOf_iff {g : KpGraph K} {studentId : Nat} {statuses : List AttributionStatus}
    {att : Attribution K} :
    verdictOf g studentId statuses att = true ↔
      att.studentId = studentId ∧ att.kpId ∈ g.kpIds ∧ att.status ∈ statuses := by
  simp [verdictOf, and_assoc]

theorem verdictOf_standing {g : KpGraph K} {studentId : Nat} {att : Attribution K}
    (live : verdictOf g studentId [.active, .overridden] att = true) : att.status ≠ .resolved := by
  intro resolved
  have standing := (verdictOf_iff.mp live).2.2
  simp [resolved] at standing

/-- The dictionary of standing verdicts is exactly the standing rows, by key. -/
theorem existingVerdicts_get? {t : Table (Attribution K)} (unique : OnePerCause t) (g : KpGraph K)
    (studentId : Nat) (k : Nat × AttributionType) (id : Nat) :
    (existingVerdicts t g studentId).get? k = some id ↔
      ∃ r ∈ t.rows, verdictOf g studentId [.active, .overridden] r = true ∧ r.key = k ∧ r.id = id := by
  unfold existingVerdicts
  constructor
  · intro found
    obtain ⟨r, kept, same⟩ := List.mem_map.mp (Dict.mem_of_get?_ofList found)
    obtain ⟨stored, live⟩ := List.mem_filter.mp kept
    exact ⟨r, stored, live, congrArg Prod.fst same, congrArg Prod.snd same⟩
  · intro held
    obtain ⟨r, stored, live, rfl, rfl⟩ := held
    apply Dict.get?_ofList_of_mem
    · exact List.mem_map.mpr ⟨r, List.mem_filter.mpr ⟨stored, live⟩, rfl⟩
    · intro id member
      obtain ⟨s, kept, same⟩ := List.mem_map.mp member
      obtain ⟨other, standing⟩ := List.mem_filter.mp kept
      have student : s.studentId = r.studentId :=
        (verdictOf_iff.mp standing).1.trans (verdictOf_iff.mp live).1.symm
      have equal := unique s other r stored (verdictOf_standing standing) (verdictOf_standing live)
        student (congrArg Prod.fst same)
      exact (congrArg Prod.snd same).symm.trans (congrArg Attribution.id equal)

/-- What the call makes of a stored row. -/
def settle (g : KpGraph K) (studentId : Nat) (findings : List (AttributionFinding K))
    (att : Attribution K) : Attribution K :=
  if verdictOf g studentId [.active, .overridden] att then
    match findings.find? (fun f => decide (f.key = att.key)) with
    | some f => refreshVerdict f att
    | none => retireVerdict att
  else att

section
variable {t : Table (Attribution K)} {g : KpGraph K} {studentId : Nat}
  {findings : List (AttributionFinding K)}

theorem verdictWriter_target_key (unique : OnePerCause t) {r : Attribution K} (stored : r ∈ t.rows)
    {f : AttributionFinding K}
    (aimed : (verdictWriter (existingVerdicts t g studentId) studentId).target f = some r.id) :
    verdictOf g studentId [.active, .overridden] r = true ∧ f.key = r.key := by
  obtain ⟨s, held, live, key, id⟩ := (existingVerdicts_get? unique g studentId f.key r.id).mp aimed
  have same := t.key_inj held stored id
  subst same
  exact ⟨live, key.symm⟩

theorem retirement_target_key (unique : OnePerCause t) {r : Attribution K} (stored : r ∈ t.rows)
    {seen : List (Nat × AttributionType)} {e : (Nat × AttributionType) × Nat}
    (entry : e ∈ (existingVerdicts t g studentId).entries)
    (aimed : (retirement K seen).target e = some r.id) :
    verdictOf g studentId [.active, .overridden] r = true ∧ e = (r.key, r.id) ∧ r.key ∉ seen := by
  obtain ⟨k, id⟩ := e
  simp only [retirement] at aimed
  split at aimed
  · cases aimed
  · rename_i unseen
    simp only [Option.some.injEq] at aimed
    subst aimed
    rw [← Dict.get?_eq_some_iff] at entry
    obtain ⟨s, held, live, key, same⟩ := (existingVerdicts_get? unique g studentId k r.id).mp entry
    have equal := t.key_inj held stored same
    subst equal
    exact ⟨live, by rw [key], key ▸ unseen⟩

theorem settle_eq (unique : OnePerCause t) (distinct : (findings.map AttributionFinding.key).Nodup)
    {r : Attribution K} (stored : r ∈ t.rows) :
    (retirement K (findings.map AttributionFinding.key)).refreshAll
        (existingVerdicts t g studentId).entries
        ((verdictWriter (existingVerdicts t g studentId) studentId).refreshAll findings r) =
      settle g studentId findings r := by
  have findings_nodup : findings.Nodup := List.Nodup.of_map _ distinct
  by_cases live : verdictOf g studentId [.active, .overridden] r = true
  · have held : (existingVerdicts t g studentId).get? r.key = some r.id :=
      (existingVerdicts_get? unique g studentId r.key r.id).mpr ⟨r, stored, live, rfl, rfl⟩
    cases search : findings.find? (fun f => decide (f.key = r.key)) with
    | some f =>
      have listed := List.mem_of_find?_eq_some search
      have key : f.key = r.key := by simpa using List.find?_some search
      have written : (verdictWriter (existingVerdicts t g studentId) studentId).refreshAll findings r =
          refreshVerdict f r := by
        apply Table.Patch.refreshAll_of_target
        · exact listed
        · exact (congrArg _ key).trans held
        · exact findings_nodup
        · intro h member aimed
          have same := (verdictWriter_target_key unique stored aimed).2
          exact List.inj_on_of_nodup_map distinct member listed (same.trans key.symm)
      have kept : (retirement K (findings.map AttributionFinding.key)).refreshAll
          (existingVerdicts t g studentId).entries (refreshVerdict f r) = refreshVerdict f r := by
        apply Table.Patch.refreshAll_of_missed
        intro e entry aimed
        have named : Keyed.key (refreshVerdict f r) = r.id := refreshVerdict_id f r
        rw [named] at aimed
        have unseen := (retirement_target_key unique stored entry aimed).2.2
        exact unseen (List.mem_map.mpr ⟨f, listed, key⟩)
      rw [written, kept, settle, if_pos live, search]
    | none =>
      have unseen : r.key ∉ findings.map AttributionFinding.key := by
        intro member
        obtain ⟨f, listed, key⟩ := List.mem_map.mp member
        simpa [key] using List.find?_eq_none.mp search f listed
      have kept : (verdictWriter (existingVerdicts t g studentId) studentId).refreshAll findings r = r := by
        apply Table.Patch.refreshAll_of_missed
        intro f listed aimed
        have key := (verdictWriter_target_key unique stored aimed).2
        exact unseen (List.mem_map.mpr ⟨f, listed, key⟩)
      have retired : (retirement K (findings.map AttributionFinding.key)).refreshAll
          (existingVerdicts t g studentId).entries r = retireVerdict r := by
        apply Table.Patch.refreshAll_of_target _ (i := (r.key, r.id))
        · exact (Dict.get?_eq_some_iff _ _ _).mp held
        · exact if_neg unseen
        · exact List.Nodup.of_map _ (existingVerdicts t g studentId).nodup
        · intro e entry aimed
          exact (retirement_target_key unique stored entry aimed).2.1
      rw [kept, retired, settle, if_pos live, search]
  · have kept : (verdictWriter (existingVerdicts t g studentId) studentId).refreshAll findings r = r := by
      apply Table.Patch.refreshAll_of_missed
      intro f listed aimed
      exact live (verdictWriter_target_key unique stored aimed).1
    have spared : (retirement K (findings.map AttributionFinding.key)).refreshAll
        (existingVerdicts t g studentId).entries r = r := by
      apply Table.Patch.refreshAll_of_missed
      intro e entry aimed
      exact live (retirement_target_key unique stored entry aimed).1
    rw [kept, spared, settle, if_neg live]

def addedVerdicts (t : Table (Attribution K)) (g : KpGraph K) (studentId : Nat)
    (findings : List (AttributionFinding K)) : List (Attribution K) :=
  (verdictWriter (existingVerdicts t g studentId) studentId).added findings t.nextId

theorem verdictWriter_known (unique : OnePerCause t) :
    ∀ f ∈ findings, ∀ k, (verdictWriter (existingVerdicts t g studentId) studentId).target f = some k →
      k < t.nextId := by
  intro f _ k aimed
  obtain ⟨r, stored, _, _, rfl⟩ := (existingVerdicts_get? unique g studentId f.key k).mp aimed
  exact t.issued r stored

/-- A write settles every stored row where it stands and adds the new findings after them. -/
theorem rows_writeVerdicts (unique : OnePerCause t)
    (distinct : (findings.map AttributionFinding.key).Nodup) :
    (writeVerdicts t g studentId findings).1.rows =
      t.rows.map (settle g studentId findings) ++ addedVerdicts t g studentId findings := by
  unfold writeVerdicts
  dsimp only
  rw [Table.rows_patchAll, Table.rows_upsertAll _ _ _ (verdictWriter_known unique), List.map_append,
    List.map_map]
  congr 1
  · apply List.map_congr_left
    intro r stored
    exact settle_eq unique distinct stored
  · conv_rhs => rw [← List.map_id (addedVerdicts t g studentId findings)]
    apply List.map_congr_left
    intro r added
    apply Table.Patch.refreshAll_of_missed
    intro e entry aimed
    obtain ⟨k, id⟩ := e
    obtain ⟨f, _, _, n, issued, rfl⟩ := Table.Writer.mem_added _ added
    simp only [retirement] at aimed
    split at aimed
    · cases aimed
    · rw [← Dict.get?_eq_some_iff] at entry
      obtain ⟨s, held, _, _, rfl⟩ := (existingVerdicts_get? unique g studentId k id).mp entry
      have bound : s.id < t.nextId := t.issued s held
      have named : Keyed.key ((verdictWriter (existingVerdicts t g studentId) studentId).fresh f n) = n :=
        rfl
      simp only [named, Option.some.injEq] at aimed
      omega

theorem settle_cases (g : KpGraph K) (studentId : Nat) (findings : List (AttributionFinding K))
    (att : Attribution K) :
    (∃ f ∈ findings, f.key = att.key ∧ verdictOf g studentId [.active, .overridden] att = true ∧
        settle g studentId findings att = refreshVerdict f att) ∨
      (verdictOf g studentId [.active, .overridden] att = true ∧
        att.key ∉ findings.map AttributionFinding.key ∧
        settle g studentId findings att = retireVerdict att) ∨
      (verdictOf g studentId [.active, .overridden] att = false ∧ settle g studentId findings att = att) := by
  unfold settle
  cases live : verdictOf g studentId [.active, .overridden] att with
  | false => exact Or.inr (Or.inr ⟨rfl, rfl⟩)
  | true =>
    cases search : findings.find? (fun f => decide (f.key = att.key)) with
    | some f =>
      have key : f.key = att.key := by simpa using List.find?_some search
      exact Or.inl ⟨f, List.mem_of_find?_eq_some search, key, rfl, rfl⟩
    | none =>
      refine Or.inr (Or.inl ⟨rfl, ?_, rfl⟩)
      intro member
      obtain ⟨f, listed, key⟩ := List.mem_map.mp member
      simpa [key] using List.find?_eq_none.mp search f listed

theorem settle_frame (g : KpGraph K) (studentId : Nat) (findings : List (AttributionFinding K))
    (att : Attribution K) :
    (settle g studentId findings att).id = att.id ∧
      (settle g studentId findings att).studentId = att.studentId ∧
      (settle g studentId findings att).key = att.key ∧
      ((settle g studentId findings att).status ≠ .resolved →
        (settle g studentId findings att).status = att.status) := by
  rcases settle_cases g studentId findings att with ⟨f, _, _, _, same⟩ | ⟨_, _, same⟩ | ⟨_, same⟩
  · rw [same]
    unfold refreshVerdict
    split <;> exact ⟨rfl, rfl, rfl, fun _ => rfl⟩
  · rw [same]
    unfold retireVerdict
    split
    · exact ⟨rfl, rfl, rfl, fun standing => absurd rfl standing⟩
    · exact ⟨rfl, rfl, rfl, fun _ => rfl⟩
  · rw [same]
    exact ⟨rfl, rfl, rfl, fun _ => rfl⟩

theorem settle_of_not_active (g : KpGraph K) (studentId : Nat) (findings : List (AttributionFinding K))
    {att : Attribution K} (past : att.status ≠ .active) : settle g studentId findings att = att := by
  rcases settle_cases g studentId findings att with ⟨f, _, _, live, same⟩ | ⟨_, _, same⟩ | ⟨_, same⟩
  · have standing := (verdictOf_iff.mp live).2.2
    have vetoed : att.status = .overridden := by simpa [past] using standing
    rw [same, refreshVerdict, if_pos vetoed]
  · rw [same, retireVerdict, if_neg past]
  · exact same

theorem settle_of_outside {g : KpGraph K} {studentId : Nat} (findings : List (AttributionFinding K))
    {att : Attribution K} (outside : att.studentId ≠ studentId ∨ att.kpId ∉ g.kpIds) :
    settle g studentId findings att = att := by
  have other : verdictOf g studentId [.active, .overridden] att = false := by
    rw [Bool.eq_false_iff]
    intro live
    obtain ⟨student, inside, _⟩ := verdictOf_iff.mp live
    rcases outside with apart | beyond
    · exact apart student
    · exact beyond inside
  rw [settle, other]
  rfl

theorem mem_addedVerdicts {r : Attribution K} (added : r ∈ addedVerdicts t g studentId findings) :
    ∃ f ∈ findings, (existingVerdicts t g studentId).get? f.key = none ∧
      ∃ n, t.nextId ≤ n ∧ r = newVerdict studentId f n :=
  Table.Writer.mem_added _ added

theorem addedVerdicts_key_inj (distinct : (findings.map AttributionFinding.key).Nodup)
    {r s : Attribution K} (left : r ∈ addedVerdicts t g studentId findings)
    (right : s ∈ addedVerdicts t g studentId findings) (same : r.key = s.key) : r = s := by
  have keys : ((addedVerdicts t g studentId findings).map Attribution.key).Nodup := by
    unfold addedVerdicts
    rw [Table.Writer.map_added _ findings t.nextId Attribution.key AttributionFinding.key
      (fun _ _ => rfl)]
    exact (List.Sublist.map AttributionFinding.key List.filter_sublist).nodup distinct
  exact List.inj_on_of_nodup_map keys left right same

theorem addedVerdicts_unheld (unique : OnePerCause t) (inside : ∀ f ∈ findings, f.kpId ∈ g.kpIds)
    {r s : Attribution K} (stored : r ∈ t.rows) (standing : r.status ≠ .resolved)
    (added : s ∈ addedVerdicts t g studentId findings) (student : r.studentId = s.studentId) :
    r.key ≠ s.key := by
  intro key
  obtain ⟨f, listed, free, n, _, rfl⟩ := mem_addedVerdicts added
  have live : verdictOf g studentId [.active, .overridden] r = true := by
    refine verdictOf_iff.mpr ⟨student, ?_, ?_⟩
    · have point : r.kpId = f.kpId := congrArg Prod.fst key
      rw [point]
      exact inside f listed
    · cases status : r.status <;> simp_all
  have held := (existingVerdicts_get? unique g studentId f.key r.id).mpr ⟨r, stored, live, key, rfl⟩
  rw [free] at held
  cases held

theorem writeVerdicts_onePerCause (unique : OnePerCause t)
    (distinct : (findings.map AttributionFinding.key).Nodup)
    (inside : ∀ f ∈ findings, f.kpId ∈ g.kpIds) :
    OnePerCause (writeVerdicts t g studentId findings).1 := by
  intro r left s right standingR standingS student key
  rw [rows_writeVerdicts unique distinct, List.mem_append] at left right
  rcases left with left | left <;> rcases right with right | right
  · obtain ⟨r₀, storedR, rfl⟩ := List.mem_map.mp left
    obtain ⟨s₀, storedS, rfl⟩ := List.mem_map.mp right
    obtain ⟨_, studentR, keyR, statusR⟩ := settle_frame g studentId findings r₀
    obtain ⟨_, studentS, keyS, statusS⟩ := settle_frame g studentId findings s₀
    rw [statusR standingR] at standingR
    rw [statusS standingS] at standingS
    rw [unique r₀ storedR s₀ storedS standingR standingS (studentR ▸ studentS ▸ student)
      (keyR ▸ keyS ▸ key)]
  · obtain ⟨r₀, stored, rfl⟩ := List.mem_map.mp left
    obtain ⟨_, studentR, keyR, statusR⟩ := settle_frame g studentId findings r₀
    rw [statusR standingR] at standingR
    exact absurd (keyR ▸ key)
      (addedVerdicts_unheld unique inside stored standingR right (studentR ▸ student))
  · obtain ⟨s₀, stored, rfl⟩ := List.mem_map.mp right
    obtain ⟨_, studentS, keyS, statusS⟩ := settle_frame g studentId findings s₀
    rw [statusS standingS] at standingS
    exact absurd (keyS ▸ key.symm)
      (addedVerdicts_unheld unique inside stored standingS left (studentS ▸ student.symm))
  · exact addedVerdicts_key_inj distinct left right key

end

section
variable [Field K] [LinearOrder K] [FloorRing K]

theorem findingsFor_nodup (cfg : Config K) (db : Db K) (g : KpGraph K) (studentId classId : Nat)
    (asOf : DateTime) (eventsBySk : Option (Batch K)) :
    ((findingsFor cfg db g studentId classId asOf eventsBySk).map AttributionFinding.key).Nodup := by
  apply nodup_deriveFindings_keys
  rw [assessStudentKps_kpIds]
  exact g.nodup_gradeKpIds _

theorem findingsFor_inside (cfg : Config K) (db : Db K) (g : KpGraph K) (studentId classId : Nat)
    (asOf : DateTime) (eventsBySk : Option (Batch K)) :
    ∀ f ∈ findingsFor cfg db g studentId classId asOf eventsBySk, f.kpId ∈ g.kpIds := by
  intro f listed
  obtain ⟨a, assessed, point⟩ := mem_deriveFindings listed
  rw [point]
  exact KpGraph.mem_kpIds_of_mem_gradeKpIds (mem_assessStudentKps assessed)

end

end KnowledgeGap
