import KnowledgeGap.Intervention.Rounds

namespace KnowledgeGap

open Relational Protocol

variable {K : Type}

/-- The suggestions `_pending_row` chooses from. -/
def awaiting (student : Student) (kpId : Nat) (r : Intervention) : Bool :=
  r.classId == student.classId && r.kpId == kpId && decide (r.status = .suggested) && affecting student.id r

def NewerPending (db : Db K) (student : Student) (kpId : Nat) (since : DateTime) : Prop :=
  ∃ row ∈ db.interventions.rows, awaiting student kpId row = true ∧ since < row.suggestedAt

instance (db : Db K) (student : Student) (kpId : Nat) (since : DateTime) :
    Decidable (NewerPending db student kpId since) := by
  unfold NewerPending
  infer_instance

/-- Keys go with the clock, and no suggestion is dated ahead of it. -/
structure SuggestedInOrder (db : Db K) (now : DateTime) : Prop where
  past : ∀ r ∈ db.interventions.rows, r.suggestedAt ≤ now
  ordered : ∀ r ∈ db.interventions.rows, ∀ s ∈ db.interventions.rows, r.id ≤ s.id → r.suggestedAt ≤ s.suggestedAt

/-- Which plan a record is, whatever has been reported of it. -/
def StudyRecord.edition (r : StudyRecord) : Nat × DateTime := (r.id, r.generatedAt)

/-- Another call of the pupil for the point, or whatever else writes to the tables. -/
inductive Turn (K : Type)
  | call (cfg : Config K) (g : KpGraph K) (allowGenerate : Bool) (now : DateTime)
  | other (change : Db K → Db K)

theorem pendingRow_newest {db : Db K} {student : Student} {kpId : Nat} {row : Intervention}
    (found : pendingRow db student kpId = some row) :
    awaiting student kpId row = true ∧ ∀ r ∈ db.interventions.rows, awaiting student kpId r = true → r.id ≤ row.id := by
  have last : latest Intervention.id (db.interventions.select (awaiting student kpId)) = some row := found
  have ⟨listed, newest⟩ := mem_of_latest last
  refine ⟨(List.mem_filter.mp listed).2, ?_⟩
  intro r stored waits
  exact newest r (List.mem_filter.mpr ⟨stored, waits⟩)

theorem pendingRow_none {db : Db K} {student : Student} {kpId : Nat} (missing : pendingRow db student kpId = none) :
    ∀ r ∈ db.interventions.rows, ¬ awaiting student kpId r = true := by
  intro r stored waits
  have listed : r ∈ db.interventions.select (awaiting student kpId) := List.mem_filter.mpr ⟨stored, waits⟩
  have empty : db.interventions.select (awaiting student kpId) = [] := first_eq_none_iff.mp missing
  rw [empty] at listed
  cases listed

/-- Where nothing newer waits, a plan belongs to the round. -/
theorem sameRound_of_quiet {db : Db K} {student : Student} {kpId : Nat} {existing : StudyRecord}
    (quiet : ¬ NewerPending db student kpId existing.generatedAt) :
    sameRound existing (pendingRow db student kpId) = true := by
  cases found : pendingRow db student kpId with
  | none => rfl
  | some row =>
    have waits := (pendingRow_newest found).1
    have upto : row.suggestedAt ≤ existing.generatedAt := by
      by_contra later
      exact quiet ⟨row, pendingRow_mem found, waits, not_le.mp later⟩
    simpa [sameRound] using upto

/-- On one clock the row compared is the one suggested last, so that nothing newer is missed. -/
theorem quiet_of_sameRound {db : Db K} {student : Student} {kpId : Nat} {existing : StudyRecord} {now : DateTime}
    (clock : SuggestedInOrder db now) (same : sameRound existing (pendingRow db student kpId) = true) :
    ¬ NewerPending db student kpId existing.generatedAt := by
  intro newer
  rcases newer with ⟨row, stored, waits, later⟩
  cases found : pendingRow db student kpId with
  | none => exact pendingRow_none found row stored waits
  | some top =>
    have upto : top.suggestedAt ≤ existing.generatedAt := by
      rw [found] at same
      simpa [sameRound] using same
    have below := clock.ordered row stored top (pendingRow_mem found) ((pendingRow_newest found).2 row stored waits)
    exact absurd later (not_lt.mpr (le_trans below upto))

/-- The records once a plan is added. -/
def planFiled (db : Db K) (student : Student) (kpId : Nat) (pending : Option Intervention) (now : DateTime) :
    Table StudyRecord :=
  db.studyRecords.insert (newRecord student kpId pending now) (newRecord_key student kpId pending now)

/-- A plan just added is the one stored last. -/
theorem existingRecord_planFiled (db : Db K) (student : Student) (kpId : Nat) (pending : Option Intervention)
    (now : DateTime) :
    existingRecord { db with studyRecords := planFiled db student kpId pending now } student kpId =
      some (newRecord student kpId pending now db.studyRecords.nextId) := by
  have listed : ∀ r ∈ (planFiled db student kpId pending now).select (fun r => r.studentId == student.id && r.kpId == kpId),
      r ∈ db.studyRecords.rows ∨ r = newRecord student kpId pending now db.studyRecords.nextId := by
    intro r chosen
    have stored := List.mem_of_mem_filter chosen
    rw [planFiled, Table.rows_insert, List.mem_append, List.mem_singleton] at stored
    exact stored
  refine (latest_eq_some_iff ?_).mpr ⟨?_, ?_⟩
  · intro r left s right same
    exact Table.key_inj _ (List.mem_of_mem_filter left) (List.mem_of_mem_filter right) same
  · refine List.mem_filter.mpr ⟨?_, by simp [newRecord]⟩
    rw [planFiled, Table.rows_insert]
    exact List.mem_append_right _ (List.mem_singleton_self _)
  · intro r chosen
    rcases listed r chosen with old | new
    · exact Nat.le_of_lt (db.studyRecords.issued r old)
    · rw [new]

section
variable [Field K] [LinearOrder K] [FloorRing K]

/-- What the gates before the plan answer; nothing where the call is admitted. -/
def refusal (cfg : Config K) (db : Db K) (g : KpGraph K) (student : Student) (kpId : Nat) (now : DateTime) :
    Option StudyError :=
  if kpId ∉ g.gradeKpIds (classGrade db student.classId) then some (.lookup "知识点不存在")
  else
    let byKp := Dict.ofList ((assessStudentKps cfg db g student.id student.classId now none).map (fun a => (a.kpId, a)))
    if (byKp.get? kpId).all (fun a => !a.isWeak) && (pendingRow db student kpId).isNone then
      some (.value "该知识点当前不在你的待加强清单里")
    else none

def Turn.take (student : Student) (kpId : Nat) (db : Db K) : Turn K → Db K
  | .call cfg g allowGenerate now =>
    match getOrGenerateStudyRecord cfg db g student kpId allowGenerate now with
    | .ok (_, records) => { db with studyRecords := records }
    | .error _ => db
  | .other change => change db

/-- What else is written neither files nor drops a plan of the pupil for the point, and suggests nothing newer. -/
def Undisturbed (student : Student) (kpId : Nat) (since : DateTime) (db : Db K) : Turn K → Prop
  | .call _ _ _ _ => True
  | .other change =>
    (existingRecord (change db) student kpId).map StudyRecord.edition =
        (existingRecord db student kpId).map StudyRecord.edition ∧
      ¬ NewerPending (change db) student kpId since

/-- The plan is the one a call finds, and nothing newer waits. -/
structure Current (student : Student) (kpId : Nat) (rec : StudyRecord) (db : Db K) : Prop where
  stored : (existingRecord db student kpId).map StudyRecord.edition = some rec.edition
  quiet : ¬ NewerPending db student kpId rec.generatedAt

/-- A call is refused for want of standing, or shows the same plan; it writes nothing. -/
def AnswersAgain (cfg : Config K) (db : Db K) (g : KpGraph K) (student : Student) (kpId : Nat) (now : DateTime)
    (rec : StudyRecord) (answer : Except StudyError (StudyRecord × Table StudyRecord)) : Prop :=
  match refusal cfg db g student kpId now with
  | some e => answer = .error e
  | none => ∃ shown ∈ db.studyRecords.rows, shown.edition = rec.edition ∧ answer = .ok (shown, db.studyRecords)

theorem getOrGenerateStudyRecord_cases {cfg : Config K} {db : Db K} {g : KpGraph K} {student : Student} {kpId : Nat}
    {allowGenerate : Bool} {now : DateTime} {rec : StudyRecord} {records : Table StudyRecord}
    (shown : getOrGenerateStudyRecord cfg db g student kpId allowGenerate now = .ok (rec, records)) :
    (existingRecord db student kpId = some rec ∧ sameRound rec (pendingRow db student kpId) = true ∧
        records = db.studyRecords) ∨
      (allowGenerate = true ∧ rec = newRecord student kpId (pendingRow db student kpId) now db.studyRecords.nextId ∧
        records = planFiled db student kpId (pendingRow db student kpId) now) := by
  have generated : ∀ assessed : Bool,
      (if !allowGenerate then .error (.lookup "该知识点还没有生成过学习方案")
        else if assessed then .error (.value "该知识点暂无评估数据，无法生成学习方案")
        else .ok (newRecord student kpId (pendingRow db student kpId) now db.studyRecords.nextId,
          planFiled db student kpId (pendingRow db student kpId) now) : Except StudyError (StudyRecord × Table StudyRecord)) =
        .ok (rec, records) →
      allowGenerate = true ∧ rec = newRecord student kpId (pendingRow db student kpId) now db.studyRecords.nextId ∧
        records = planFiled db student kpId (pendingRow db student kpId) now := by
    intro assessed made
    cases allowGenerate <;> cases assessed <;> cases made
    exact ⟨rfl, rfl, rfl⟩
  unfold getOrGenerateStudyRecord at shown
  dsimp only at shown
  split at shown
  · cases shown
  · split at shown
    · cases shown
    · split at shown
      · rename_i existing stored
        split at shown
        · rename_i same
          cases shown
          exact Or.inl ⟨stored, same, rfl⟩
        · exact Or.inr (generated _ shown)
      · exact Or.inr (generated _ shown)

/-- A plan of the round is shown to whoever is admitted. -/
theorem getOrGenerateStudyRecord_current {cfg : Config K} {db : Db K} {g : KpGraph K} {student : Student} {kpId : Nat}
    {allowGenerate : Bool} {now : DateTime} {existing : StudyRecord}
    (stored : existingRecord db student kpId = some existing)
    (same : sameRound existing (pendingRow db student kpId) = true) :
    getOrGenerateStudyRecord cfg db g student kpId allowGenerate now =
      match refusal cfg db g student kpId now with
      | some e => .error e
      | none => .ok (existing, db.studyRecords) := by
  unfold getOrGenerateStudyRecord refusal
  by_cases inside : kpId ∈ g.gradeKpIds (classGrade db student.classId)
  · simp only [inside, not_true_eq_false, ↓reduceIte, stored, same]
    split <;> rfl
  · simp only [inside, not_false_eq_true, ↓reduceIte]

omit [Field K] [LinearOrder K] [FloorRing K] in
theorem existingRecord_of_edition {db : Db K} {student : Student} {kpId : Nat} {rec : StudyRecord}
    (stored : (existingRecord db student kpId).map StudyRecord.edition = some rec.edition) :
    ∃ shown, existingRecord db student kpId = some shown ∧ shown.edition = rec.edition := by
  have ⟨shown, found, same⟩ := Option.map_eq_some_iff.mp stored
  exact ⟨shown, found, same⟩

omit [Field K] [LinearOrder K] [FloorRing K] in
theorem Current.sameRound {student : Student} {kpId : Nat} {rec shown : StudyRecord} {db : Db K}
    (current : Current student kpId rec db) (same : shown.edition = rec.edition) :
    sameRound shown (pendingRow db student kpId) = true := by
  apply sameRound_of_quiet
  have stamp : shown.generatedAt = rec.generatedAt := congrArg Prod.snd same
  rw [stamp]
  exact current.quiet

theorem Current.answers {student : Student} {kpId : Nat} {rec : StudyRecord} {db : Db K}
    (current : Current student kpId rec db) (cfg : Config K) (g : KpGraph K) (allowGenerate : Bool) (now : DateTime) :
    AnswersAgain cfg db g student kpId now rec (getOrGenerateStudyRecord cfg db g student kpId allowGenerate now) := by
  have ⟨shown, found, same⟩ := existingRecord_of_edition current.stored
  rw [getOrGenerateStudyRecord_current found (current.sameRound same)]
  unfold AnswersAgain
  cases refusal cfg db g student kpId now with
  | some e => rfl
  | none => exact ⟨shown, existingRecord_mem found, same, rfl⟩

theorem AnswersAgain.unwritten {cfg : Config K} {db : Db K} {g : KpGraph K} {student : Student} {kpId : Nat}
    {now : DateTime} {rec shown : StudyRecord} {records : Table StudyRecord}
    {answer : Except StudyError (StudyRecord × Table StudyRecord)}
    (again : AnswersAgain cfg db g student kpId now rec answer) (accepted : answer = .ok (shown, records)) :
    records = db.studyRecords := by
  unfold AnswersAgain at again
  cases refused : refusal cfg db g student kpId now with
  | some e =>
    rw [refused, accepted] at again
    cases again
  | none =>
    rw [refused] at again
    have ⟨_, _, _, same⟩ := again
    rw [accepted] at same
    cases same
    rfl

theorem current_take {student : Student} {kpId : Nat} {rec : StudyRecord} (db : Db K) (turn : Turn K)
    (current : Current student kpId rec db) (undisturbed : Undisturbed student kpId rec.generatedAt db turn) :
    Current student kpId rec (turn.take student kpId db) := by
  cases turn with
  | call cfg g allowGenerate now =>
    simp only [Turn.take]
    split
    · rename_i shown records accepted
      rw [(current.answers cfg g allowGenerate now).unwritten accepted]
      exact current
    · exact current
  | other change => exact ⟨undisturbed.1.trans current.stored, undisturbed.2⟩

/-- What the first call shows is current as it returns. -/
theorem current_first {cfg : Config K} {db : Db K} {g : KpGraph K} {student : Student} {kpId : Nat}
    {allowGenerate : Bool} {now : DateTime} {rec : StudyRecord} {records : Table StudyRecord}
    (clock : SuggestedInOrder db now)
    (shown : getOrGenerateStudyRecord cfg db g student kpId allowGenerate now = .ok (rec, records)) :
    Current student kpId rec { db with studyRecords := records } := by
  rcases getOrGenerateStudyRecord_cases shown with ⟨stored, same, kept⟩ | ⟨_, made, filed⟩
  · rw [kept]
    exact ⟨by rw [stored]; rfl, quiet_of_sameRound clock same⟩
  · constructor
    · rw [filed, existingRecord_planFiled, made]
      rfl
    · intro newer
      rcases newer with ⟨row, stored, _, later⟩
      rw [made] at later
      exact absurd (clock.past row stored) (not_le.mpr later)

/-- As long as nothing newer is suggested, every later call shows the plan of the first one or is refused for want of
    standing, and writes nothing. -/
theorem calls_after {cfg : Config K} {db : Db K} {g : KpGraph K} {student : Student} {kpId : Nat}
    {allowGenerate : Bool} {now : DateTime} {rec : StudyRecord} {records : Table StudyRecord}
    (clock : SuggestedInOrder db now)
    (shown : getOrGenerateStudyRecord cfg db g student kpId allowGenerate now = .ok (rec, records))
    (turns : List (Turn K))
    (quiet : Along (Turn.take student kpId) (Undisturbed student kpId rec.generatedAt)
      { db with studyRecords := records } turns) :
    Current student kpId rec (run (Turn.take student kpId) { db with studyRecords := records } turns) :=
  run_invariant_along current_take turns _ quiet (current_first clock shown)

/-- A call that may not generate leaves the records as they are. -/
theorem readOnly {cfg : Config K} {db : Db K} {g : KpGraph K} {student : Student} {kpId : Nat} {now : DateTime}
    {rec : StudyRecord} {records : Table StudyRecord}
    (shown : getOrGenerateStudyRecord cfg db g student kpId false now = .ok (rec, records)) :
    records = db.studyRecords := by
  rcases getOrGenerateStudyRecord_cases shown with ⟨_, _, kept⟩ | ⟨allowed, _⟩
  · exact kept
  · cases allowed

end

/-- A report changes the plan it is about, and at most one suggestion, made to the pupil on the same point. -/
structure MovesOwnQueue (db after : Db K) (student : Student) (recordId : Nat) : Prop where
  rest : after = { db with studyRecords := after.studyRecords, interventions := after.interventions }
  own : ∃ rec, db.studyRecords.get? recordId = some rec ∧ rec.studentId = student.id ∧
    (after.interventions = db.interventions ∨ ∃ row ∈ db.interventions.rows, OwnSuggestion student rec.kpId row ∧
      ∀ id, id ≠ row.id → after.interventions.get? id = db.interventions.get? id)
  records : ∀ id, id ≠ recordId → after.studyRecords.get? id = db.studyRecords.get? id

/-- The plan with the report on it. -/
def reportedOn (db : Db K) (recordId : Nat) (now : DateTime) : Db K :=
  { db with studyRecords := db.studyRecords.modify recordId (markLearned now) (markLearned_key now) }

/-- All that a report accepted may have done. -/
structure Reported (db after : Db K) (student : Student) (recordId : Nat) (now : DateTime) (mark : SelfMark)
    (rec : StudyRecord) : Prop where
  found : db.studyRecords.get? recordId = some rec
  own : rec.studentId = student.id
  done : (∃ earlier, rec.selfMarkedAt = some earlier ∧ after = db ∧ mark = ⟨rec.id, earlier, false⟩) ∨
    (rec.selfMarkedAt = none ∧ mark.id = rec.id ∧ mark.selfMarkedAt = now ∧
      (after = reportedOn db recordId now ∨
        ∃ row name, openOwnRow db student rec.kpId = some row ∧
          after = { reportedOn db recordId now with
            interventions := db.interventions.modify row.id (settledByReport now name) (settledByReport_key now name) }))

theorem selfMarkLearned_reported {db after : Db K} {g : KpGraph K} {student : Student} {recordId : Nat} {now : DateTime}
    {mark : SelfMark} (reported : selfMarkLearned db g student recordId now = .ok (after, mark)) :
    ∃ rec, Reported db after student recordId now mark rec := by
  unfold selfMarkLearned at reported
  split at reported
  · cases reported
  · rename_i rec found
    split at reported
    · cases reported
    · rename_i own
      refine ⟨rec, found, not_not.mp own, ?_⟩
      split at reported
      · rename_i earlier marked
        cases reported
        exact Or.inl ⟨earlier, marked, rfl, rfl⟩
      · rename_i fresh
        dsimp only at reported
        split at reported
        · cases reported
          exact Or.inr ⟨fresh, rfl, rfl, Or.inl rfl⟩
        · rename_i row open_
          split at reported
          · cases reported
          · rename_i p _
            cases reported
            exact Or.inr ⟨fresh, rfl, rfl, Or.inr ⟨row, p.name, open_, rfl⟩⟩

theorem selfMarkLearned_marked {db : Db K} {student : Student} {recordId : Nat} {rec : StudyRecord} {earlier : DateTime}
    (found : db.studyRecords.get? recordId = some rec) (own : rec.studentId = student.id)
    (marked : rec.selfMarkedAt = some earlier) (g : KpGraph K) (now : DateTime) :
    selfMarkLearned db g student recordId now = .ok (db, ⟨rec.id, earlier, false⟩) := by
  simp [selfMarkLearned, found, own, marked]

theorem Reported.marked {db after : Db K} {student : Student} {recordId : Nat} {now : DateTime} {mark : SelfMark}
    {rec : StudyRecord} (reported : Reported db after student recordId now mark rec) :
    ∃ r, after.studyRecords.get? recordId = some r ∧ r.studentId = student.id ∧ r.id = mark.id ∧
      r.selfMarkedAt = some mark.selfMarkedAt := by
  rcases reported.done with ⟨earlier, marked, same, answer⟩ | ⟨_, id, stamp, written⟩
  · rw [same, answer]
    exact ⟨rec, reported.found, reported.own, rfl, marked⟩
  · have records : after.studyRecords.get? recordId = some (markLearned now rec) := by
      have stored := Table.get?_modify_self (markLearned_key now) reported.found
      rcases written with plan | ⟨row, name, _, both⟩
      · rw [plan]
        exact stored
      · rw [both]
        exact stored
    exact ⟨markLearned now rec, records, reported.own, id.symm, by rw [stamp]; rfl⟩

/-- A second report changes nothing and answers with the first. -/
theorem Reported.again {db after : Db K} {student : Student} {recordId : Nat} {now : DateTime} {mark : SelfMark}
    {rec : StudyRecord} (reported : Reported db after student recordId now mark rec) (g : KpGraph K) (later : DateTime) :
    selfMarkLearned after g student recordId later = .ok (after, ⟨mark.id, mark.selfMarkedAt, false⟩) := by
  have ⟨r, found, own, id, marked⟩ := reported.marked
  rw [selfMarkLearned_marked found own marked, id]

theorem Reported.moves {db after : Db K} {student : Student} {recordId : Nat} {now : DateTime} {mark : SelfMark}
    {rec : StudyRecord} (reported : Reported db after student recordId now mark rec) :
    MovesOwnQueue db after student recordId := by
  rcases reported.done with ⟨_, _, same, _⟩ | ⟨_, _, _, written⟩
  · rw [same]
    exact ⟨rfl, ⟨rec, reported.found, reported.own, Or.inl rfl⟩, fun _ _ => rfl⟩
  · rcases written with plan | ⟨row, name, open_, both⟩
    · rw [plan]
      exact ⟨rfl, ⟨rec, reported.found, reported.own, Or.inl rfl⟩,
        fun id other => Table.get?_modify_other _ _ _ (markLearned_key now) other⟩
    · have ⟨stored, own⟩ := openOwnRow_own open_
      rw [both]
      refine ⟨rfl, ⟨rec, reported.found, reported.own, Or.inr ⟨row, stored, own, ?_⟩⟩, ?_⟩
      · intro id other
        exact Table.get?_modify_other _ _ _ (settledByReport_key now name) other
      · intro id other
        exact Table.get?_modify_other _ _ _ (markLearned_key now) other

/-- Suggestions to the class, to a group or to another pupil stay as they are. -/
theorem MovesOwnQueue.others {db after : Db K} {student : Student} {recordId : Nat}
    (moves : MovesOwnQueue db after student recordId) :
    ∀ r ∈ db.interventions.rows, r.scope ≠ .student ∨ r.studentId ≠ some student.id →
      after.interventions.get? r.id = some r := by
  intro r stored foreign
  have found : db.interventions.get? r.id = some r := Table.get?_of_mem stored
  have ⟨_, _, _, suggestions⟩ := moves.own
  rcases suggestions with same | ⟨row, listed, own, kept⟩
  · rw [same, found]
  · rw [kept r.id ?_, found]
    intro same
    have equal : r = row := Table.key_inj _ stored listed same
    rw [equal] at foreign
    rcases foreign with scope | pupil
    · exact scope own.2.2.2.1
    · exact pupil own.2.1

section
variable [Field K] [LinearOrder K] [FloorRing K] (cfg : Config K) (quoted : String → String) (offset : Int)

omit [Field K] [LinearOrder K] [FloorRing K] in
theorem SuggestedInOrder.filed {before after : Db K} {now t : DateTime} (clock : SuggestedInOrder before now)
    (later : now ≤ t) (filed : FiledAt t before.interventions after.interventions) : SuggestedInOrder after t where
  past r stored := by
    rcases filed r stored with ⟨s, old, _, date⟩ | ⟨_, date⟩
    · rw [← date]
      exact le_trans (clock.past s old) later
    · exact le_of_eq date
  ordered r left s right below := by
    rcases filed r left with ⟨r', old, id, date⟩ | ⟨beyond, date⟩
    · rcases filed s right with ⟨s', old', id', date'⟩ | ⟨_, date'⟩
      · rw [← date, ← date']
        exact clock.ordered r' old s' old' (by rw [id, id']; exact below)
      · rw [← date, date']
        exact le_trans (clock.past r' old) later
    · rcases filed s right with ⟨s', old', id', _⟩ | ⟨_, date'⟩
      · have issued : s'.id < before.interventions.nextId := before.interventions.issued s' old'
        rw [id'] at issued
        exact absurd (lt_of_lt_of_le issued beyond) (not_lt.mpr below)
      · rw [date, date']

/-- Deeds done as the clock goes leave the suggestions in its order. -/
theorem suggestedInOrder_run (db : Db K) (deeds : List (DateTime × Deed K)) (t : DateTime)
    (ascending : deeds.Pairwise (fun a b => a.1 ≤ b.1)) (upto : ∀ deed ∈ deeds, deed.1 ≤ t) :
    SuggestedInOrder (run (Chronicle.step cfg quoted offset) (Chronicle.opened db) deeds).db t := by
  induction deeds using List.reverseRecOn generalizing t with
  | nil => exact ⟨by simp [Chronicle.opened, Table.empty], by simp [Chronicle.opened, Table.empty]⟩
  | append_singleton deeds deed ih =>
    rw [List.pairwise_append] at ascending
    have sorted := ascending.1
    have before := ascending.2.2
    have last := upto deed (List.mem_append_right _ (List.mem_singleton_self deed))
    have clock := ih deed.1 sorted (fun d listed => before d listed deed (List.mem_singleton_self deed))
    rw [run_append, run_cons, run_nil]
    have done := clock.filed (le_refl deed.1) (perform_dates cfg quoted offset _ deed.1 deed.2)
    exact ⟨fun r stored => le_trans (done.past r stored) last, done.ordered⟩

/-- The deed asks no plan of the pupil's for the point, and is one of those that leave plans stored. -/
def Deed.Elsewhere (student : Student) (kpId : Nat) (db : Db K) : Deed K → Prop
  | .studyPlan g asking kpCode _ =>
    ∀ p ∈ (g.gradeKps (classGrade db asking.classId)).find? (fun p => p.code == kpCode),
      ¬ (asking.id = student.id ∧ p.id = kpId)
  | .other _ => False
  | _ => True

omit [Field K] [LinearOrder K] [FloorRing K] in
theorem existingRecord_planFiled_other (db : Db K) {student asking : Student} {kpId kpId' : Nat}
    (elsewhere : ¬ (asking.id = student.id ∧ kpId' = kpId)) (pending : Option Intervention) (now : DateTime) :
    existingRecord { db with studyRecords := planFiled db asking kpId' pending now } student kpId =
      existingRecord db student kpId := by
  have apart : ((newRecord asking kpId' pending now db.studyRecords.nextId).studentId == student.id &&
      (newRecord asking kpId' pending now db.studyRecords.nextId).kpId == kpId) = false := by
    rw [Bool.and_eq_false_iff, beq_eq_false_iff_ne, beq_eq_false_iff_ne]
    exact not_and_or.mp elsewhere
  unfold existingRecord
  rw [Table.select, planFiled, Table.rows_insert, List.filter_append, List.filter_singleton, apart,
    cond_false, List.append_nil]
  rfl

omit [Field K] [LinearOrder K] [FloorRing K] in
theorem existingRecord_marked (db : Db K) (student : Student) (kpId recordId : Nat) (now : DateTime) :
    (existingRecord (reportedOn db recordId now) student kpId).map StudyRecord.edition =
      (existingRecord db student kpId).map StudyRecord.edition := by
  have keeps : ∀ r : StudyRecord, StudyRecord.edition (if Keyed.key r == recordId then markLearned now r else r) = r.edition := by
    intro r
    split <;> rfl
  have same : (reportedOn db recordId now).studyRecords.select (fun r => r.studentId == student.id && r.kpId == kpId) =
      (db.studyRecords.select (fun r => r.studentId == student.id && r.kpId == kpId)).map
        (fun r => if Keyed.key r == recordId then markLearned now r else r) := by
    rw [Table.select, reportedOn, Table.rows_modify, List.filter_map]
    congr 1
    apply List.filter_congr
    intro r _
    simp only [Function.comp_apply]
    split <;> rfl
  unfold existingRecord
  rw [same, first_map, Option.map_map]
  · congr 1
    funext r
    exact keeps r
  · intro a b
    have id : ∀ r : StudyRecord, (if Keyed.key r == recordId then markLearned now r else r).id = r.id :=
      fun r => congrArg Prod.fst (keeps r)
    simp only [newerRecord, id]

/-- Whatever is done elsewhere leaves the pupil's plan for the point the one it was. -/
theorem perform_edition (db : Db K) (t : DateTime) (deed : Deed K) {student : Student} {kpId : Nat}
    (elsewhere : deed.Elsewhere student kpId db) :
    (existingRecord (deed.perform cfg quoted offset db t) student kpId).map StudyRecord.edition =
      (existingRecord db student kpId).map StudyRecord.edition := by
  cases deed with
  | generate g classId examId asOf sourceReportId eventsBySk => rfl
  | recordIntervention dir ctx g studentId kpCode kind examId note =>
    simp only [Deed.perform]
    split <;> rfl
  | studyPlan g asking kpCode asOf =>
    simp only [Deed.perform, studyPlan]
    split
    · rfl
    · rename_i p named
      split
      · rename_i rec records shown
        rcases getOrGenerateStudyRecord_cases shown with ⟨_, _, kept⟩ | ⟨_, _, filed⟩
        · rw [kept]
        · rw [filed, existingRecord_planFiled_other db (elsewhere p named)]
      · rfl
  | selfMark g reporting recordId =>
    simp only [Deed.perform]
    split
    · rename_i after mark reported
      rcases selfMarkLearned_reported reported with ⟨rec, reported⟩
      rcases reported.done with ⟨_, _, same, _⟩ | ⟨_, _, _, plan | ⟨row, name, _, both⟩⟩
      · rw [same]
      · rw [plan]
        exact existingRecord_marked db student kpId recordId _
      · rw [both]
        exact existingRecord_marked db student kpId recordId _
    · rfl
  | operate dir ctx id withGroup op =>
    simp only [Deed.perform]
    split <;> rfl
  | other change => exact elsewhere.elim

/-- The evidence, and whatever the mastery of any pupil is read from. -/
structure SameMastery (before after : Db K) : Prop where
  events : after.events = before.events
  mastery : ∀ cfg studentId kpId asOf, masteryAt cfg after studentId kpId asOf = masteryAt cfg before studentId kpId asOf
  series : ∀ cfg studentId kpId asOf,
    masterySeries cfg after studentId kpId asOf = masterySeries cfg before studentId kpId asOf
  assessments : ∀ cfg g studentId classId asOf prefetched,
    assessStudentKps cfg after g studentId classId asOf prefetched =
      assessStudentKps cfg before g studentId classId asOf prefetched

theorem MovesOwnQueue.sameMastery {db after : Db K} {student : Student} {recordId : Nat}
    (moves : MovesOwnQueue db after student recordId) : SameMastery db after := by
  rw [moves.rest]
  exact ⟨rfl, fun _ _ _ _ => rfl, fun _ _ _ _ => rfl, fun _ _ _ _ _ _ => rfl⟩

/-- What a report accepted in `db` leaves. -/
structure OwnReport (db after : Db K) (student : Student) (recordId : Nat) (mark : SelfMark) : Prop where
  again : ∀ (g : KpGraph K) later,
    selfMarkLearned after g student recordId later = .ok (after, ⟨mark.id, mark.selfMarkedAt, false⟩)
  moves : MovesOwnQueue db after student recordId
  others : ∀ r ∈ db.interventions.rows, r.scope ≠ .student ∨ r.studentId ≠ some student.id →
    after.interventions.get? r.id = some r
  evidence : SameMastery db after

/-- A pupil's calls for a plan and his reports move his own queue only. -/
theorem self_reports_own_queue (student : Student) (kpId : Nat) :
    (∀ (cfg : Config K) (db : Db K) (g : KpGraph K) allowGenerate now rec records (turns : List (Turn K)),
      SuggestedInOrder db now →
      getOrGenerateStudyRecord cfg db g student kpId allowGenerate now = .ok (rec, records) →
      Along (Turn.take student kpId) (Undisturbed student kpId rec.generatedAt) { db with studyRecords := records } turns →
      ∀ (cfg' : Config K) (g' : KpGraph K) allowGenerate' later,
        AnswersAgain cfg' (run (Turn.take student kpId) { db with studyRecords := records } turns) g' student kpId later rec
          (getOrGenerateStudyRecord cfg' (run (Turn.take student kpId) { db with studyRecords := records } turns) g' student
            kpId allowGenerate' later)) ∧
    (∀ (cfg : Config K) (db : Db K) (g : KpGraph K) now rec records,
      getOrGenerateStudyRecord cfg db g student kpId false now = .ok (rec, records) → records = db.studyRecords) ∧
    ∀ (db after : Db K) (g : KpGraph K) recordId now mark,
      selfMarkLearned db g student recordId now = .ok (after, mark) → OwnReport db after student recordId mark := by
  refine ⟨?_, ?_, ?_⟩
  · intro cfg db g allowGenerate now rec records turns clock shown quiet cfg' g' allowGenerate' later
    exact (calls_after clock shown turns quiet).answers cfg' g' allowGenerate' later
  · intro cfg db g now rec records shown
    exact readOnly shown
  · intro db after g recordId now mark reported
    have ⟨rec, reported⟩ := selfMarkLearned_reported reported
    exact ⟨reported.again, reported.moves, reported.moves.others, reported.moves.sameMastery⟩

end

def waitingRow : Intervention where
  id := 1
  classId := 1
  studentId := some 1
  kpId := 9
  examId := 5
  attributionId := none
  sourceReportId := none
  retestExamId := none
  retestDueDate := none
  kind := .tierDrill
  scope := .student
  groupRef := none
  baselineAsOf := noon 0
  status := .suggested
  suggestedAt := noon 0
  doneAt := none
  note := none

/-- A pupil with no weak point, to whom a drill has been suggested. -/
def waitingDb : Db ℚ := { drilledDb with events := .empty, interventions := .ofList [waitingRow] }

def firstPlan : StudyRecord := ⟨1, 1, 1, 9, some 1, noon 0 + seconds 3600, none⟩

/-- The tables after his first call. -/
def plannedDb : Db ℚ := { waitingDb with studyRecords := .ofList [firstPlan] }

/-- The pupil reports the point learned. -/
def learned (db : Db ℚ) : Db ℚ :=
  match selfMarkLearned db drilledGraph drillPupil 1 (noon 0 + seconds 7200) with
  | .ok (after, _) => after
  | .error _ => db

theorem self_reports_own_queue_waiting :
    AnswersAgain Config.rational (run (Turn.take drillPupil 9) plannedDb [.call Config.rational drilledGraph true (noon 1)])
        drilledGraph drillPupil 9 (noon 2) firstPlan
        (getOrGenerateStudyRecord Config.rational
          (run (Turn.take drillPupil 9) plannedDb [.call Config.rational drilledGraph true (noon 1)])
          drilledGraph drillPupil 9 true (noon 2)) ∧
      OwnReport plannedDb (learned plannedDb) drillPupil 1 ⟨1, noon 0 + seconds 7200, true⟩ := by
  have ⟨calls, _, reports⟩ := self_reports_own_queue (K := ℚ) drillPupil 9
  refine ⟨?_, ?_⟩
  · apply calls Config.rational waitingDb drilledGraph true (noon 0 + seconds 3600) firstPlan plannedDb.studyRecords
    · exact ⟨by decide +kernel, by decide +kernel⟩
    · decide +kernel
    · exact ⟨trivial, trivial⟩
  · apply reports plannedDb (learned plannedDb) drilledGraph 1 (noon 0 + seconds 7200)
    have marked : (selfMarkLearned plannedDb drilledGraph drillPupil 1 (noon 0 + seconds 7200)).map Prod.snd =
        .ok ⟨1, noon 0 + seconds 7200, true⟩ := by
      decide +kernel
    unfold learned
    split
    · rename_i after mark accepted
      rw [accepted] at marked
      rw [accepted]
      exact congrArg (fun mark => Except.ok (after, mark)) (Except.ok.inj marked)
    · rename_i refused
      rw [refused] at marked
      cases marked

/-- His report settles the only suggestion, and he is refused the plan he has just read. -/
theorem second_call_refused :
    SuggestedInOrder waitingDb (noon 0 + seconds 3600) ∧
    getOrGenerateStudyRecord Config.rational waitingDb drilledGraph drillPupil 9 true (noon 0 + seconds 3600) =
      .ok (firstPlan, plannedDb.studyRecords) ∧
    ¬ (∀ turns, Along (Turn.take drillPupil 9) (Undisturbed drillPupil 9 firstPlan.generatedAt) plannedDb turns →
      ∀ later, ∃ shown, shown.edition = firstPlan.edition ∧
        getOrGenerateStudyRecord Config.rational (run (Turn.take drillPupil 9) plannedDb turns) drilledGraph drillPupil 9
          true later = .ok (shown, (run (Turn.take drillPupil 9) plannedDb turns).studyRecords)) := by
  refine ⟨⟨by decide +kernel, by decide +kernel⟩, by decide +kernel, ?_⟩
  intro always
  have quiet : Along (Turn.take drillPupil 9) (Undisturbed drillPupil 9 firstPlan.generatedAt) plannedDb [.other learned] :=
    ⟨⟨by decide +kernel, by decide +kernel⟩, trivial⟩
  have refused : getOrGenerateStudyRecord Config.rational (learned plannedDb) drilledGraph drillPupil 9 true (noon 1) =
      .error (.value "该知识点当前不在你的待加强清单里") := by
    decide +kernel
  have ⟨shown, _, answered⟩ := always [.other learned] quiet (noon 1)
  exact absurd (refused.symm.trans answered) (by simp)

end KnowledgeGap
