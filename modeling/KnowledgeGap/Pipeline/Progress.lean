import KnowledgeGap.Pipeline.Weakness

namespace KnowledgeGap

open Relational

inductive LoopState
  | notLearned
  | insufficient
  | onTrack
  | weakNew
  | suggested
  | awaiting
  | selfReported
  | closed
  | flat
  | unclosed
  | skipped
  deriving DecidableEq, Repr

def rowLoopState (row : Intervention) : LoopState :=
  match row.status with
  | .suggested => .suggested
  | .done => .awaiting
  | .skipped => .skipped

variable {K : Type}

def selfReportMap (db : Db K) (studentIds : List Nat) : Dict (Nat × Nat) DateTime :=
  (db.studyRecords.select (fun r => decide (r.studentId ∈ studentIds) && r.selfMarkedAt.isSome)).foldl
    (fun out r =>
      match r.selfMarkedAt, out.get? (r.studentId, r.kpId) with
      | some marked, none => out.set (r.studentId, r.kpId) marked
      | some marked, some current =>
        if current < marked then out.set (r.studentId, r.kpId) marked else out
      | none, _ => out)
    Dict.empty

/-- `max(done_rows, key=lambda r: r.done_at)`: of several latest rows the first one. -/
def latestDone (rows : List Intervention) : Option (Intervention × DateTime) :=
  (rows.filterMap (fun r =>
    if r.status = .done then r.doneAt.map (fun done => (r, done)) else none)).foldl
      (fun best r =>
        match best with
        | none => some r
        | some b => if b.2 < r.2 then some r else some b)
      none

def lastAfter (events : List (EvidenceEvent K)) (since : DateTime) : Option DateTime :=
  ((events.filter (fun e => decide (since < e.occurredAt))).map EvidenceEvent.occurredAt).max?

/-- The report belongs to the round the rows opened last. -/
def currentRound (marked : DateTime) (rows : List Intervention) : Bool :=
  match (rows.map Intervention.suggestedAt).max? with
  | none => true
  | some anchor => decide (anchor ≤ marked)

section
variable [Field K] [LinearOrder K]

def masteryUpTo (cfg : Config K) (events : List (EvidenceEvent K)) (t : DateTime) : Option K :=
  observedMastery cfg (events.filter (fun e => decide (e.occurredAt ≤ t))) t

def verdictOfDelta (cfg : Config K) (adjusted : K) : LoopState :=
  if cfg.interventionMinDelta ≤ adjusted then .closed
  else if cfg.interventionFlatFloor ≤ adjusted then .flat
  else .unclosed

def verdictFromEvents (cfg : Config K) (events : List (EvidenceEvent K)) (baseline lastT : DateTime)
    (peers : List Nat) (studentId kpId : Nat) (eventsFor : Nat → Nat → List (EvidenceEvent K)) :
    LoopState :=
  let preV := (masteryUpTo cfg events baseline).getD 0
  let delta := gain preV (masteryUpTo cfg events lastT)
  let deltas := (peers.filter (fun pid => decide (pid ≠ studentId))).filterMap (fun pid =>
    change (masteryUpTo cfg (eventsFor pid kpId) baseline) (masteryUpTo cfg (eventsFor pid kpId) lastT))
  verdictOfDelta cfg (if 4 ≤ deltas.length then delta - mean deltas else delta)

/-- The fold for one assessed point: gates first, then evidence after the last execution, then what
    was reported, then what was suggested. -/
def loopState (cfg : Config K) (studentId : Nat) (peers : List Nat)
    (eventsFor : Nat → Nat → List (EvidenceEvent K)) (reports : Dict (Nat × Nat) DateTime)
    (rows : List Intervention) (a : KpAssessment K) : LoopState :=
  match a.gate with
  | some .notLearned => .notLearned
  | some .insufficient => .insufficient
  | none =>
    if !a.isWeak then .onTrack
    else
      let events := eventsFor studentId a.kpId
      let report := reports.get? (studentId, a.kpId)
      match latestDone rows with
      | some (latest, doneAt) =>
        match lastAfter events doneAt with
        | some lastT =>
          verdictFromEvents cfg events latest.baselineAsOf lastT peers studentId a.kpId eventsFor
        | none =>
          match report with
          | some marked => if currentRound marked rows then .selfReported else .awaiting
          | none => .awaiting
      | none =>
        if (match report with
          | some marked => !events.any (fun e => decide (marked < e.occurredAt)) && currentRound marked rows
          | none => false) then .selfReported
        else if rows.isEmpty then .weakNew
        else if rows.any (fun r => decide (r.status = .suggested)) then .suggested
        else .skipped

/-- The rows that affect a student: his own and those of the whole class. -/
def affecting (studentId : Nat) (r : Intervention) : Bool :=
  decide (r.studentId = none ∨ r.studentId = some studentId)

variable [FloorRing K]

def loopStatesForStudent (cfg : Config K) (db : Db K) (g : KpGraph K) (studentId classId : Nat)
    (asOf : DateTime) : Dict Nat LoopState :=
  let assessments := assessStudentKps cfg db g studentId classId asOf none
  let peers := db.classStudentIds classId
  let eventsBySk := getEventsBatch db peers (assessments.map KpAssessment.kpId) asOf
  let rowsByKp := Dict.group Intervention.kpId
    ((db.interventions.select (fun r => r.classId == classId)).filter (affecting studentId))
  let reports := selfReportMap db [studentId]
  Dict.ofList (assessments.map (fun a =>
    (a.kpId, loopState cfg studentId peers (fun s k => eventsBySk.getD (s, k) []) reports
      (rowsByKp.getD a.kpId []) a)))

end

theorem foldl_latest_spec (rows : List (Intervention × DateTime)) (start : Option (Intervention × DateTime)) :
    let best := rows.foldl (fun best r =>
      match best with
      | none => some r
      | some b => if b.2 < r.2 then some r else some b) start
    (best = none → start = none ∧ rows = []) ∧
      ∀ b, best = some b → (start = some b ∨ b ∈ rows) ∧ (∀ s, start = some s → s.2 ≤ b.2) ∧
        ∀ r ∈ rows, r.2 ≤ b.2 := by
  induction rows generalizing start with
  | nil =>
    refine ⟨fun none => ⟨none, rfl⟩, ?_⟩
    intro b found
    refine ⟨Or.inl found, ?_, by simp⟩
    intro s same
    have equal : s = b := Option.some.inj (same.symm.trans found)
    exact le_of_eq (congrArg Prod.snd equal)
  | cons r rows ih =>
    cases start with
    | none =>
      obtain ⟨empty, spec⟩ := ih (some r)
      refine ⟨fun none => absurd (empty none).1 (by simp), ?_⟩
      intro b found
      obtain ⟨origin, first, bound⟩ := spec b found
      refine ⟨Or.inr ?_, by simp, ?_⟩
      · rcases origin with same | later
        · exact List.mem_cons.mpr (Or.inl (Option.some.inj same).symm)
        · exact List.mem_cons_of_mem _ later
      · intro x member
        rcases List.mem_cons.mp member with rfl | later
        · exact first x rfl
        · exact bound x later
    | some s =>
      by_cases later : s.2 < r.2
      · obtain ⟨empty, spec⟩ := ih (some r)
        simp only [List.foldl_cons, later, ↓reduceIte]
        refine ⟨fun none => absurd (empty none).1 (by simp), ?_⟩
        intro b found
        obtain ⟨origin, first, bound⟩ := spec b found
        refine ⟨Or.inr ?_, ?_, ?_⟩
        · rcases origin with same | after
          · exact List.mem_cons.mpr (Or.inl (Option.some.inj same).symm)
          · exact List.mem_cons_of_mem _ after
        · intro x same
          rw [← Option.some.inj same]
          exact le_of_lt (lt_of_lt_of_le later (first r rfl))
        · intro x member
          rcases List.mem_cons.mp member with rfl | after
          · exact first x rfl
          · exact bound x after
      · obtain ⟨empty, spec⟩ := ih (some s)
        simp only [List.foldl_cons, later, ↓reduceIte]
        refine ⟨fun none => absurd (empty none).1 (by simp), ?_⟩
        intro b found
        obtain ⟨origin, first, bound⟩ := spec b found
        refine ⟨?_, first, ?_⟩
        · rcases origin with same | after
          · exact Or.inl same
          · exact Or.inr (List.mem_cons_of_mem _ after)
        · intro x member
          rcases List.mem_cons.mp member with rfl | after
          · exact le_trans (le_of_not_gt later) (first s rfl)
          · exact bound x after

def executed (r : Intervention) (done : DateTime) : Prop := r.status = .done ∧ r.doneAt = some done

theorem mem_executed {rows : List Intervention} {r : Intervention} {done : DateTime} :
    (r, done) ∈ rows.filterMap (fun r =>
      if r.status = .done then r.doneAt.map (fun done => (r, done)) else none) ↔
        r ∈ rows ∧ executed r done := by
  rw [List.mem_filterMap]
  constructor
  · intro held
    obtain ⟨s, member, made⟩ := held
    split at made
    · rename_i status
      obtain ⟨d, dated, pair⟩ := Option.map_eq_some_iff.mp made
      cases pair
      exact ⟨member, status, dated⟩
    · cases made
  · intro held
    exact ⟨r, held.1, by simp [held.2.1, held.2.2]⟩

theorem latestDone_eq_none {rows : List Intervention} (none : latestDone rows = none) :
    ∀ r ∈ rows, ∀ done, ¬ executed r done := by
  intro r member done held
  have empty := ((foldl_latest_spec _ _).1 none).2
  have present := mem_executed.mpr ⟨member, held⟩
  rw [empty] at present
  cases present

theorem latestDone_eq_some {rows : List Intervention} {r : Intervention} {done : DateTime}
    (found : latestDone rows = some (r, done)) :
    r ∈ rows ∧ executed r done ∧ ∀ s ∈ rows, ∀ other, executed s other → other ≤ done := by
  obtain ⟨origin, _, bound⟩ := (foldl_latest_spec _ _).2 (r, done) found
  have member : r ∈ rows ∧ executed r done := by
    rcases origin with start | present
    · cases start
    · exact mem_executed.mp present
  refine ⟨member.1, member.2, ?_⟩
  intro s listed other held
  exact bound (s, other) (mem_executed.mpr ⟨listed, held⟩)

theorem latestDone_of_strict {rows : List Intervention} {iv : Intervention} {done : DateTime}
    (member : iv ∈ rows) (held : executed iv done)
    (latest : ∀ r ∈ rows, ∀ other, executed r other → r ≠ iv → other < done) :
    latestDone rows = some (iv, done) := by
  cases found : latestDone rows with
  | none => exact absurd held (latestDone_eq_none found iv member done)
  | some best =>
    obtain ⟨r, other⟩ := best
    obtain ⟨listed, execution, bound⟩ := latestDone_eq_some found
    have above := bound iv member done held
    have same : r = iv := by
      by_contra apart
      have below := latest r listed other execution apart
      exact absurd above (not_le.mpr below)
    subst same
    have moment : other = done := Option.some.inj (execution.2.symm.trans held.2)
    rw [moment]

section
variable [Field K] [LinearOrder K] [FloorRing K]

def rowsOf (db : Db K) (classId studentId kpId : Nat) : List Intervention :=
  ((db.interventions.select (fun r => r.classId == classId)).filter (affecting studentId)).filter
    (fun r => decide (r.kpId = kpId))

omit [Field K] [LinearOrder K] [FloorRing K] in
theorem mem_rowsOf {db : Db K} {classId studentId kpId : Nat} {r : Intervention} :
    r ∈ rowsOf db classId studentId kpId ↔ r ∈ db.interventions.rows ∧ r.classId = classId ∧
      (r.studentId = none ∨ r.studentId = some studentId) ∧ r.kpId = kpId := by
  unfold rowsOf affecting Table.select
  simp only [List.mem_filter, beq_iff_eq, decide_eq_true_eq, and_assoc]

theorem loopStatesForStudent_get? {cfg : Config K} {db : Db K} {g : KpGraph K} {studentId classId : Nat}
    {asOf : DateTime} {a : KpAssessment K}
    (assessed : a ∈ assessStudentKps cfg db g studentId classId asOf none) :
    (loopStatesForStudent cfg db g studentId classId asOf).get? a.kpId =
      some (loopState cfg studentId (db.classStudentIds classId)
        (fun s k => (getEventsBatch db (db.classStudentIds classId)
          (g.gradeKpIds (classGrade db classId)) asOf).getD (s, k) [])
        (selfReportMap db [studentId]) (rowsOf db classId studentId a.kpId) a) := by
  have kps := assessStudentKps_kpIds cfg db g studentId classId asOf none
  unfold loopStatesForStudent
  dsimp only
  rw [kps]
  apply Dict.get?_ofList_of_mem
  · refine List.mem_map.mpr ⟨a, assessed, ?_⟩
    rw [Dict.getD_group]
    rfl
  · intro state member
    obtain ⟨b, other, same⟩ := List.mem_map.mp member
    have distinct : ((assessStudentKps cfg db g studentId classId asOf none).map KpAssessment.kpId).Nodup := by
      rw [kps]
      exact g.nodup_gradeKpIds _
    have equal : b = a := List.inj_on_of_nodup_map distinct other assessed (congrArg Prod.fst same)
    subst equal
    rw [Dict.getD_group] at same
    exact (congrArg Prod.snd same).symm

end

end KnowledgeGap
