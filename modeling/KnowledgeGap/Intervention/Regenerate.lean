import KnowledgeGap.Intervention.Invariant
import KnowledgeGap.Pipeline.Progress

namespace KnowledgeGap

open Relational

variable {K : Type} {t u : Table Intervention} {g : KpGraph K} {classId examId : Nat}
  {sourceReportId : Option Nat} {asOf now : DateTime} {plan : Plan}

def Intervention.content (iv : Intervention) : Intervention := { iv with id := 0 }

/-- How a planned suggestion stands in the table after a run: in the row of the same need that was
    open before it, or in a row of its own. -/
def Filed (t : Table Intervention) (g : KpGraph K) (classId examId : Nat) (sourceReportId : Option Nat)
    (asOf now : DateTime) (row : ActionRow) (after : Intervention) : Prop :=
  (∃ r ∈ t.rows, pendingIn g classId r = true ∧ r.key = row.key ∧ superseded t g classId r = false ∧
    after = refreshSuggestion examId sourceReportId asOf row r) ∨
  ((∀ r ∈ t.rows, pendingIn g classId r = true → r.key ≠ row.key) ∧
    ∃ n, after = newSuggestion classId examId sourceReportId asOf now row n)

theorem Filed.frame {row : ActionRow} {after : Intervention}
    (filed : Filed t g classId examId sourceReportId asOf now row after) (inside : row.kpId ∈ g.kpIds) :
    pendingIn g classId after = true ∧ after.key = row.key ∧ after.examId = examId := by
  rcases filed with ⟨r, _, pending, key, _, rfl⟩ | ⟨_, n, rfl⟩
  · obtain ⟨cls, known, open_⟩ := pendingIn_iff.mp pending
    exact ⟨pendingIn_iff.mpr ⟨cls, known, open_⟩, key, rfl⟩
  · exact ⟨pendingIn_iff.mpr ⟨rfl, inside, rfl⟩, rfl, rfl⟩

theorem exists_newest_pending {key : Option Nat × Nat} {r : Intervention} (stored : r ∈ t.rows)
    (pending : pendingIn g classId r = true) (same : r.key = key) :
    ∃ newest ∈ t.rows, pendingIn g classId newest = true ∧ newest.key = key ∧
      superseded t g classId newest = false := by
  have entry : (key, pendingOf t g classId key) ∈ (pendingGrouped t g classId).entries :=
    (Dict.mem_entries_group _ _ _ _).mpr
      ⟨List.ne_nil_of_mem (mem_pendingOf.mpr ⟨stored, pending, same⟩), rfl⟩
  have found : (pendingByKey t g classId).get? key ≠ none := by
    unfold pendingByKey
    rw [Dict.get?_filterMapValues, (Dict.get?_eq_some_iff _ _ _).mpr entry, Option.bind_some, ne_eq,
      Option.map_eq_none_iff, List.getLast?_eq_none_iff]
    intro empty
    have member := (perm_stableSort byId (pendingOf t g classId key)).mem_iff.mpr
      (mem_pendingOf.mpr ⟨stored, pending, same⟩)
    rw [empty] at member
    cases member
  obtain ⟨id, held⟩ := Option.ne_none_iff_exists'.mp found
  obtain ⟨newest, present, open_, key', _, latest⟩ := (pendingByKey_get? t g classId key id).mp held
  exact ⟨newest, present, open_, key', latest⟩

theorem pendingByKey_eq_none {key : Option Nat × Nat} :
    (pendingByKey t g classId).get? key = none ↔
      ∀ r ∈ t.rows, pendingIn g classId r = true → r.key ≠ key := by
  constructor
  · intro free r stored pending same
    obtain ⟨newest, present, open_, key', latest⟩ := exists_newest_pending stored pending same
    have held := (pendingByKey_get? t g classId key newest.id).mpr ⟨newest, present, open_, key', rfl, latest⟩
    rw [free] at held
    cases held
  · intro unheld
    cases found : (pendingByKey t g classId).get? key with
    | none => rfl
    | some id =>
      obtain ⟨iv, stored, pending, same, _, _⟩ := (pendingByKey_get? t g classId key id).mp found
      exact absurd same (unheld iv stored pending)

theorem refreshed_of_planned (distinct : (plan.rows.map ActionRow.key).Nodup) {row : ActionRow}
    (listed : row ∈ plan.rows) {iv : Intervention} (key : iv.key = row.key) :
    refreshed examId sourceReportId asOf plan iv = refreshSuggestion examId sourceReportId asOf row iv := by
  unfold refreshed
  cases search : plan.rows.find? (fun row => decide (row.key = iv.key)) with
  | none =>
    have absent := List.find?_eq_none.mp search row listed
    simp [key] at absent
  | some found =>
    have same : found.key = iv.key := by simpa using List.find?_some search
    have equal := List.inj_on_of_nodup_map distinct (List.mem_of_find?_eq_some search) listed (same.trans key)
    rw [equal]

theorem refreshed_of_unplanned {iv : Intervention} (absent : ∀ row ∈ plan.rows, row.key ≠ iv.key) :
    refreshed examId sourceReportId asOf plan iv = iv := by
  unfold refreshed
  have none_found : plan.rows.find? (fun row => decide (row.key = iv.key)) = none := by
    rw [List.find?_eq_none]
    intro row listed
    simpa using absent row listed
  rw [none_found]

variable (t g classId examId sourceReportId asOf now) in
theorem applyPlan_planned (distinct : (plan.rows.map ActionRow.key).Nodup) {row : ActionRow}
    (listed : row ∈ plan.rows) (asked : plan.gone row.key = false) :
    ∃ after ∈ (applyPlan t g classId examId sourceReportId asOf now plan).rows,
      Filed t g classId examId sourceReportId asOf now row after := by
  rw [rows_applyPlan distinct]
  cases held : (pendingByKey t g classId).get? row.key with
  | some id =>
    obtain ⟨r, stored, pending, key, _, latest⟩ := (pendingByKey_get? t g classId row.key id).mp held
    refine ⟨refreshSuggestion examId sourceReportId asOf row r, ?_,
      Or.inl ⟨r, stored, pending, key, latest, rfl⟩⟩
    apply List.mem_append_left
    refine List.mem_map.mpr ⟨r, stored, ?_⟩
    rw [outcome, pending, latest, key, asked, ← refreshed_of_planned distinct listed key]
    rfl
  | none =>
    obtain ⟨n, target⟩ := (suggestionWriter (pendingByKey t g classId) classId examId sourceReportId asOf
      now).exists_destination t.nextId listed
    rcases target with aimed | ⟨_, filed⟩
    · exact absurd (held.symm.trans aimed) (by simp)
    · exact ⟨_, List.mem_append_right _ filed, Or.inr ⟨pendingByKey_eq_none.mp held, n, rfl⟩⟩

theorem applyPlan_open (distinct : (plan.rows.map ActionRow.key).Nodup) {after : Intervention}
    (stored : after ∈ (applyPlan t g classId examId sourceReportId asOf now plan).rows)
    (pending : pendingIn g classId after = true) :
    (after ∈ t.rows ∧ superseded t g classId after = false ∧ (∀ row ∈ plan.rows, row.key ≠ after.key) ∧
        plan.gone after.key = false) ∨
      ∃ row ∈ plan.rows, Filed t g classId examId sourceReportId asOf now row after := by
  obtain ⟨cls, inside, open_⟩ := pendingIn_iff.mp pending
  rw [rows_applyPlan distinct, List.mem_append] at stored
  rcases stored with kept | added
  · obtain ⟨r, before, written⟩ := List.mem_map.mp kept
    obtain ⟨pendingR, latest, asked, key⟩ := outcome_suggested written cls inside open_
    rw [outcome, pendingR, latest, asked] at written
    simp only [↓reduceIte, Bool.false_eq_true] at written
    by_cases planned : ∃ row ∈ plan.rows, row.key = r.key
    · obtain ⟨row, listed, same⟩ := planned
      refine Or.inr ⟨row, listed, Or.inl ⟨r, before, pendingR, same.symm, latest, ?_⟩⟩
      rw [← written, refreshed_of_planned distinct listed same.symm]
    · have unplanned : ∀ row ∈ plan.rows, row.key ≠ r.key :=
        fun row listed same => planned ⟨row, listed, same⟩
      rw [refreshed_of_unplanned unplanned] at written
      subst written
      exact Or.inl ⟨before, latest, unplanned, asked⟩
  · obtain ⟨row, listed, free, n, _, rfl⟩ := mem_addedSuggestions added
    exact Or.inr ⟨row, listed, Or.inr ⟨pendingByKey_eq_none.mp free, n, rfl⟩⟩

def anew (classId examId : Nat) (sourceReportId : Option Nat) (asOf now : DateTime) (row : ActionRow) :
    Intervention :=
  newSuggestion classId examId sourceReportId asOf now row 0

/-- The plan is applied to a table that an earlier run of the same plan left. -/
structure Planned (g : KpGraph K) (plan : Plan) : Prop where
  distinct : (plan.rows.map ActionRow.key).Nodup
  inside : ∀ row ∈ plan.rows, row.kpId ∈ g.kpIds
  asked : ∀ row ∈ plan.rows, plan.gone row.key = false

theorem purge_applyPlan_open (planned : Planned g plan) {iv : Intervention}
    (stored : iv ∈ (purge (applyPlan t g classId examId sourceReportId asOf now plan) g classId examId).rows)
    (pending : pendingIn g classId iv = true) :
    (∀ row ∈ plan.rows, row.key ≠ iv.key) ∧ plan.gone iv.key = false := by
  obtain ⟨present, spared⟩ := mem_purge.mp stored
  rcases applyPlan_open planned.distinct present pending with ⟨_, _, unplanned, asked⟩ | ⟨row, listed, filed⟩
  · exact ⟨unplanned, asked⟩
  · exact absurd ⟨(filed.frame (planned.inside row listed)).2.2, pending⟩ spared

theorem outcome_again (planned : Planned g plan) {iv : Intervention}
    (stored : iv ∈ (purge (applyPlan t g classId examId sourceReportId asOf now plan) g classId examId).rows) :
    outcome (purge (applyPlan t g classId examId sourceReportId asOf now plan) g classId examId) g classId
      examId sourceReportId asOf plan iv = iv := by
  cases pending : pendingIn g classId iv with
  | false => exact outcome_of_not_pending pending
  | true =>
    obtain ⟨unplanned, asked⟩ := purge_applyPlan_open planned stored pending
    have single : superseded (purge (applyPlan t g classId examId sourceReportId asOf now plan) g classId
        examId) g classId iv = false := by
      rw [superseded_eq_false_iff]
      intro other present open_ key
      obtain ⟨clsA, insideA, openA⟩ := pendingIn_iff.mp open_
      obtain ⟨clsB, _, openB⟩ := pendingIn_iff.mp pending
      have same := applyPlan_unique planned.distinct (mem_purge.mp present).1 (mem_purge.mp stored).1 clsA
        clsB insideA openA openB key
      exact le_of_eq (congrArg Intervention.id same)
    rw [outcome, pending, single, asked, refreshed_of_unplanned unplanned]
    rfl

theorem rows_applyPlan_again (planned : Planned g plan) (later : DateTime) :
    ((applyPlan (purge (applyPlan t g classId examId sourceReportId asOf now plan) g classId examId) g classId
      examId sourceReportId asOf later plan).rows.map Intervention.content) =
        (purge (applyPlan t g classId examId sourceReportId asOf now plan) g classId examId).rows.map
          Intervention.content ++ plan.rows.map (anew classId examId sourceReportId asOf later) := by
  generalize cleared : purge (applyPlan t g classId examId sourceReportId asOf now plan) g classId examId = v
  have kept : v.rows.map (outcome v g classId examId sourceReportId asOf plan) = v.rows := by
    conv_rhs => rw [← List.map_id v.rows]
    apply List.map_congr_left
    intro iv stored
    rw [← cleared] at stored ⊢
    exact outcome_again planned stored
  have free : ∀ row ∈ plan.rows,
      ((suggestionWriter (pendingByKey v g classId) classId examId sourceReportId asOf later).target
        row).isNone = true := by
    intro row listed
    have unheld : (pendingByKey v g classId).get? row.key = none := by
      rw [pendingByKey_eq_none]
      intro r stored pending key
      rw [← cleared] at stored
      exact (purge_applyPlan_open planned stored pending).1 row listed key.symm
    rw [Option.isNone_iff_eq_none]
    exact unheld
  rw [rows_applyPlan planned.distinct, kept, List.map_append, addedSuggestions,
    Table.Writer.map_added _ plan.rows v.nextId Intervention.content
      (anew classId examId sourceReportId asOf later) (fun _ _ => rfl),
    List.filter_eq_self.mpr free]

def openOfExam (t : Table Intervention) (g : KpGraph K) (classId examId : Nat) : List Intervention :=
  t.select (fun iv => iv.examId == examId && pendingIn g classId iv)

theorem mem_openOfExam {iv : Intervention} :
    iv ∈ openOfExam t g classId examId ↔
      iv ∈ t.rows ∧ iv.examId = examId ∧ pendingIn g classId iv = true := by
  simp [openOfExam, Table.select]

variable (t g classId examId) in
theorem purge_perm : ((purge t g classId examId).rows ++ openOfExam t g classId examId).Perm t.rows := by
  have parts := List.filter_append_perm (fun iv => iv.examId == examId && pendingIn g classId iv) t.rows
  exact List.perm_append_comm.trans parts

theorem applyPlan_again_perm_iff (planned : Planned g plan) (later : DateTime) :
    ((applyPlan (purge (applyPlan t g classId examId sourceReportId asOf now plan) g classId examId) g classId
      examId sourceReportId asOf later plan).rows.map Intervention.content).Perm
        ((applyPlan t g classId examId sourceReportId asOf now plan).rows.map Intervention.content) ↔
      (plan.rows.map (anew classId examId sourceReportId asOf later)).Perm
        ((openOfExam (applyPlan t g classId examId sourceReportId asOf now plan) g classId examId).map
          Intervention.content) := by
  have parts := (purge_perm (applyPlan t g classId examId sourceReportId asOf now plan) g classId
    examId).map Intervention.content
  rw [List.map_append] at parts
  rw [rows_applyPlan_again planned]
  constructor
  · intro same
    exact (List.perm_append_left_iff _).mp (same.trans parts.symm)
  · intro same
    exact ((List.perm_append_left_iff _).mpr same).trans parts

/-- The row a suggestion was refreshed in looks as if it were filed at `later`. -/
def LooksNew (later : DateTime) (r : Intervention) : Prop :=
  r.suggestedAt = later ∧ r.retestExamId = none ∧ r.retestDueDate = none ∧ r.doneAt = none

theorem content_refreshSuggestion_iff {row : ActionRow} {r : Intervention}
    (pending : pendingIn g classId r = true) (key : r.key = row.key) (later : DateTime) :
    (refreshSuggestion examId sourceReportId asOf row r).content =
        anew classId examId sourceReportId asOf later row ↔ LooksNew later r := by
  obtain ⟨cls, _, open_⟩ := pendingIn_iff.mp pending
  have student : r.studentId = row.studentId := congrArg Prod.fst key
  have point : r.kpId = row.kpId := congrArg Prod.snd key
  constructor
  · intro same
    refine ⟨?_, ?_, ?_, ?_⟩
    · exact congrArg Intervention.suggestedAt same
    · exact congrArg Intervention.retestExamId same
    · exact congrArg Intervention.retestDueDate same
    · exact congrArg Intervention.doneAt same
  · intro new
    obtain ⟨suggested, retest, due, done⟩ := new
    simp only [Intervention.content, refreshSuggestion, anew, newSuggestion, cls, open_, student, point,
      suggested, retest, due, done]

/-- What must hold of one need for a second run at `later` to leave it as the first run did. -/
def Repeats (t : Table Intervention) (g : KpGraph K) (classId : Nat) (now later : DateTime)
    (key : Option Nat × Nat) : Prop :=
  (∀ r ∈ t.rows, pendingIn g classId r = true → r.key = key → superseded t g classId r = false →
    LooksNew later r) ∧
  ((∀ r ∈ t.rows, pendingIn g classId r = true → r.key ≠ key) → now = later)

theorem Filed.content_iff {row : ActionRow} {after : Intervention} {later : DateTime}
    (filed : Filed t g classId examId sourceReportId asOf now row after) :
    after.content = anew classId examId sourceReportId asOf later row ↔
      Repeats t g classId now later row.key := by
  rcases filed with ⟨r, stored, pending, key, latest, rfl⟩ | ⟨unheld, n, rfl⟩
  · rw [content_refreshSuggestion_iff pending key later]
    constructor
    · intro new
      refine ⟨?_, ?_⟩
      · intro other present open_ same newest
        have below := superseded_eq_false_iff.mp latest other present open_ (same.trans key.symm)
        have above := superseded_eq_false_iff.mp newest r stored pending (key.trans same.symm)
        rw [t.key_inj present stored (le_antisymm below above)]
        exact new
      · intro unheld
        exact absurd key (unheld r stored pending)
    · intro repeats
      exact repeats.1 r stored pending key latest
  · constructor
    · intro same
      refine ⟨?_, ?_⟩
      · intro r stored pending key _
        exact absurd key (unheld r stored pending)
      · intro _
        exact congrArg Intervention.suggestedAt same
    · intro repeats
      rw [repeats.2 unheld]
      rfl

theorem openOfExam_filed (planned : Planned g plan) (clear : ∀ r ∈ t.rows, pendingIn g classId r = true →
    r.examId ≠ examId) {iv : Intervention}
    (member : iv ∈ openOfExam (applyPlan t g classId examId sourceReportId asOf now plan) g classId examId) :
    ∃ row ∈ plan.rows, Filed t g classId examId sourceReportId asOf now row iv := by
  obtain ⟨stored, exam, pending⟩ := mem_openOfExam.mp member
  rcases applyPlan_open planned.distinct stored pending with ⟨before, _⟩ | held
  · exact absurd exam (clear iv before pending)
  · exact held

variable (t classId examId sourceReportId asOf now) in
theorem openOfExam_key_nodup (planned : Planned g plan) :
    ((openOfExam (applyPlan t g classId examId sourceReportId asOf now plan) g classId examId).map
      Intervention.key).Nodup := by
  have rows : (openOfExam (applyPlan t g classId examId sourceReportId asOf now plan) g classId
      examId).Nodup := (List.Nodup.of_map _ (applyPlan t g classId examId sourceReportId asOf now
        plan).nodup).filter _
  apply List.Nodup.map_on _ rows
  intro a left b right same
  obtain ⟨storedA, _, pendingA⟩ := mem_openOfExam.mp left
  obtain ⟨storedB, _, pendingB⟩ := mem_openOfExam.mp right
  obtain ⟨clsA, insideA, openA⟩ := pendingIn_iff.mp pendingA
  obtain ⟨clsB, _, openB⟩ := pendingIn_iff.mp pendingB
  exact applyPlan_unique planned.distinct storedA storedB clsA clsB insideA openA openB same

/-- A second run of a plan repeats the first exactly when every planned need repeats. -/
theorem applyPlan_again_iff (planned : Planned g plan) (later : DateTime)
    (clear : ∀ r ∈ t.rows, pendingIn g classId r = true → r.examId ≠ examId) :
    ((applyPlan (purge (applyPlan t g classId examId sourceReportId asOf now plan) g classId examId) g classId
      examId sourceReportId asOf later plan).rows.map Intervention.content).Perm
        ((applyPlan t g classId examId sourceReportId asOf now plan).rows.map Intervention.content) ↔
      ∀ row ∈ plan.rows, Repeats t g classId now later row.key := by
  have keys := openOfExam_key_nodup t classId examId sourceReportId asOf now planned
  rw [applyPlan_again_perm_iff planned]
  constructor
  · intro same row listed
    obtain ⟨iv, member, content⟩ := List.mem_map.mp (same.mem_iff.mp (List.mem_map_of_mem listed))
    obtain ⟨after, stored, filed⟩ := applyPlan_planned t g classId examId sourceReportId asOf now
      planned.distinct listed (planned.asked row listed)
    obtain ⟨pending, key, exam⟩ := filed.frame (planned.inside row listed)
    have ivKey : iv.key = row.key := congrArg Intervention.key content
    have equal : iv = after := List.inj_on_of_nodup_map keys member
      (mem_openOfExam.mpr ⟨stored, exam, pending⟩) (ivKey.trans key.symm)
    subst equal
    exact filed.content_iff.mp content
  · intro repeats
    have left : (plan.rows.map (anew classId examId sourceReportId asOf later)).Nodup := by
      apply List.Nodup.of_map Intervention.key
      rw [List.map_map]
      exact planned.distinct
    have right : ((openOfExam (applyPlan t g classId examId sourceReportId asOf now plan) g classId
        examId).map Intervention.content).Nodup := by
      apply List.Nodup.of_map Intervention.key
      rw [List.map_map]
      exact keys
    rw [List.perm_ext_iff_of_nodup left right]
    intro iv
    constructor
    · intro member
      obtain ⟨row, listed, rfl⟩ := List.mem_map.mp member
      obtain ⟨after, stored, filed⟩ := applyPlan_planned t g classId examId sourceReportId asOf now
        planned.distinct listed (planned.asked row listed)
      obtain ⟨pending, _, exam⟩ := filed.frame (planned.inside row listed)
      exact List.mem_map.mpr ⟨after, mem_openOfExam.mpr ⟨stored, exam, pending⟩,
        filed.content_iff.mpr (repeats row listed)⟩
    · intro member
      obtain ⟨after, held, rfl⟩ := List.mem_map.mp member
      obtain ⟨row, listed, filed⟩ := openOfExam_filed planned clear held
      exact List.mem_map.mpr ⟨row, listed, (filed.content_iff.mpr (repeats row listed)).symm⟩

section
variable [Field K] [LinearOrder K] [FloorRing K]

theorem mem_keptRows_key {cfg : Config K} {db : Db K} {g : KpGraph K}
    {done : Dict (Nat × Nat × InterventionKind) Intervention} {classId : Nat} {asOf : DateTime}
    {eventsBySk : Option (Batch K)} {sid : Nat} {key : Option Nat × Nat} :
    key ∈ (keptRows cfg db g done classId asOf eventsBySk sid).map ActionRow.key ↔
      key.1 = some sid ∧ ∃ row ∈ studentActionRows cfg db g sid classId asOf eventsBySk,
        row.kpId = key.2 ∧ (keepRow db done asOf sid row).isSome := by
  unfold keptRows
  rw [List.mem_map]
  constructor
  · intro held
    obtain ⟨kept, listed, rfl⟩ := held
    obtain ⟨row, asked, keeps⟩ := List.mem_filterMap.mp listed
    have same := keepRow_key keeps
    refine ⟨?_, row, asked, ?_, ?_⟩
    · exact (congrArg Prod.fst same).trans (studentActionRows_studentId asked)
    · exact (congrArg Prod.snd same).symm
    · rw [keeps]
      rfl
  · intro held
    obtain ⟨owner, row, asked, point, keeps⟩ := held
    obtain ⟨kept, made⟩ := Option.isSome_iff_exists.mp keeps
    refine ⟨kept, List.mem_filterMap.mpr ⟨row, asked, made⟩, ?_⟩
    rw [keepRow_key made]
    exact Prod.ext ((studentActionRows_studentId asked).trans owner.symm) point

/-- What a run has to ask for: a point the class shares, or a suggestion for a student who submitted
    the exam that was not carried out since his last evidence. -/
def Needed (cfg : Config K) (db : Db K) (g : KpGraph K) (classId examId : Nat) (asOf : DateTime)
    (eventsBySk : Option (Batch K)) : Option Nat × Nat → Prop
  | (none, kpId) => CommonNeed (judged cfg db g classId examId asOf eventsBySk) kpId
  | (some sid, kpId) => sid ∈ committedIds db examId ∧
    ∃ row ∈ studentActionRows cfg db g sid classId asOf eventsBySk, row.kpId = kpId ∧
      (keepRow db (keptDone db.interventions g classId) asOf sid row).isSome

variable (cfg : Config K) (db : Db K) (g : KpGraph K) (classId examId : Nat) (asOf : DateTime)
  (eventsBySk : Option (Batch K))

theorem mem_makePlan_keys (key : Option Nat × Nat) :
    key ∈ (makePlan cfg db g (keptDone db.interventions g classId) classId examId asOf
        eventsBySk).rows.map ActionRow.key ↔ Needed cfg db g classId examId asOf eventsBySk key := by
  obtain ⟨classKps, _, common, keys⟩ := makePlan_keys cfg db g (keptDone db.interventions g classId) classId
    examId asOf eventsBySk
  rw [keys, List.mem_append, List.mem_flatMap]
  obtain ⟨student, kpId⟩ := key
  cases student with
  | none =>
    have shared : (none, kpId) ∈ classKps.map (fun k => ((none : Option Nat), k)) ↔ kpId ∈ classKps := by
      simp
    rw [shared, common kpId]
    constructor
    · intro held
      rcases held with need | ⟨sid, _, own⟩
      · exact need
      · exact absurd (mem_keptRows_key.mp own).1 (by simp)
    · intro need
      exact Or.inl need
  | some sid =>
    constructor
    · intro held
      rcases held with shared | ⟨owner, committed, own⟩
      · simp at shared
      · obtain ⟨same, asked⟩ := mem_keptRows_key.mp own
        have equal : sid = owner := Option.some.inj same
        subst equal
        exact ⟨committed, asked⟩
    · intro need
      exact Or.inr ⟨sid, need.1, mem_keptRows_key.mpr ⟨rfl, need.2⟩⟩

theorem makePlan_planned (done : Dict (Nat × Nat × InterventionKind) Intervention) :
    Planned g (makePlan cfg db g done classId examId asOf eventsBySk) := by
  refine ⟨makePlan_distinct _ _ _ _ _ _ _ _, fun row listed => (makePlan_inside listed).1, ?_⟩
  intro row listed
  obtain ⟨classKps, _, common, keys⟩ := makePlan_keys cfg db g done classId examId asOf eventsBySk
  have member := List.mem_map_of_mem (f := ActionRow.key) listed
  rw [keys, List.mem_append] at member
  rcases member with shared | own
  · obtain ⟨kpId, known, key⟩ := List.mem_map.mp shared
    obtain ⟨_, _, ratio⟩ := (common kpId).mp known
    rw [← key]
    by_contra ended
    have disproven : kpId ∈ (makePlan cfg db g done classId examId asOf eventsBySk).disproven := by
      simpa [Plan.gone] using ended
    unfold makePlan at disproven
    dsimp only at disproven
    obtain ⟨⟨k, weak⟩, kept, same⟩ := List.mem_map.mp disproven
    have equal : k = kpId := same
    subst equal
    obtain ⟨entry, low⟩ := List.mem_filter.mp kept
    obtain ⟨_, counted⟩ := (Dict.mem_entries_count _ _ _ _).mp entry
    simp only [Bool.and_eq_true, decide_eq_true_eq, Dict.getD_count] at low
    have below := low.2
    rw [counted] at below
    exact absurd ratio (not_le.mpr below)
  · obtain ⟨sid, committed, mine⟩ := List.mem_flatMap.mp own
    obtain ⟨kept, inside, key⟩ := List.mem_map.mp mine
    have owner := (mem_keptRows_key.mp mine).1
    have asked : (makePlan cfg db g done classId examId asOf eventsBySk).stillAsk.get? sid =
        some ((keptRows cfg db g done classId asOf eventsBySk sid).map ActionRow.kpId) := by
      unfold makePlan
      dsimp only
      rw [Dict.get?_tabulate (fun sid =>
        (keptRows cfg db g done classId asOf eventsBySk sid).map ActionRow.kpId), if_pos committed]
    have point : row.kpId ∈ (keptRows cfg db g done classId asOf eventsBySk sid).map ActionRow.kpId :=
      List.mem_map.mpr ⟨kept, inside, congrArg Prod.snd key⟩
    have student : row.studentId = some sid := owner
    simp [Plan.gone, ActionRow.key, student, asked, point]

theorem not_needed_of_empty (empty : committedIds db examId = []) (key : Option Nat × Nat) :
    ¬ Needed cfg db g classId examId asOf eventsBySk key := by
  intro needed
  obtain ⟨student, kpId⟩ := key
  cases student with
  | none =>
    have positive := needed.1
    simp [judged, empty] at positive
  | some sid =>
    have submitted := needed.1
    rw [empty] at submitted
    cases submitted

theorem generate_done (sourceReportId : Option Nat) (now : DateTime) :
    (generateInterventions cfg db g classId examId asOf sourceReportId now eventsBySk).1.select isDone =
      db.interventions.select isDone := by
  by_cases idle : cfg.actionPlanEnable = false ∨ committedIds db examId = []
  · rw [generate_idle cfg db g classId examId asOf eventsBySk sourceReportId now idle]
  · rw [not_or] at idle
    rw [generate_eq cfg db g classId examId asOf eventsBySk sourceReportId now (by simpa using idle.1) idle.2,
      applyPlan_done (makePlan_distinct _ _ _ _ _ _ _ _), purge_select isDone_settled]

/-- The newest open suggestion of a need that another exam left. -/
def CarriedOver (t : Table Intervention) (g : KpGraph K) (classId examId : Nat) (key : Option Nat × Nat)
    (r : Intervention) : Prop :=
  r ∈ t.rows ∧ pendingIn g classId r = true ∧ r.examId ≠ examId ∧ r.key = key ∧
    ∀ s ∈ t.rows, pendingIn g classId s = true → s.examId ≠ examId → s.key = key → s.id ≤ r.id

end

theorem carriedOver_iff {key : Option Nat × Nat} {r : Intervention} :
    CarriedOver t g classId examId key r ↔
      r ∈ (purge t g classId examId).rows ∧ pendingIn g classId r = true ∧ r.key = key ∧
        superseded (purge t g classId examId) g classId r = false := by
  rw [superseded_eq_false_iff, CarriedOver, mem_purge]
  constructor
  · intro held
    obtain ⟨stored, pending, other, key', newest⟩ := held
    refine ⟨⟨stored, fun purged => other purged.1⟩, pending, key', ?_⟩
    intro s present open_ same
    obtain ⟨inTable, spared⟩ := mem_purge.mp present
    exact newest s inTable open_ (fun exam => spared ⟨exam, open_⟩) (same.trans key')
  · intro held
    obtain ⟨⟨stored, spared⟩, pending, key', newest⟩ := held
    refine ⟨stored, pending, fun exam => spared ⟨exam, pending⟩, key', ?_⟩
    intro s present open_ other same
    exact newest s (mem_purge.mpr ⟨present, fun purged => other purged.1⟩) open_ (same.trans key'.symm)

theorem repeats_purge_iff {key : Option Nat × Nat} {later : DateTime} :
    Repeats (purge t g classId examId) g classId now later key ↔
      (∀ r, CarriedOver t g classId examId key r → LooksNew later r) ∧
        ((∀ r, ¬ CarriedOver t g classId examId key r) → now = later) := by
  unfold Repeats
  constructor
  · intro repeats
    refine ⟨?_, ?_⟩
    · intro r carried
      obtain ⟨stored, pending, same, latest⟩ := carriedOver_iff.mp carried
      exact repeats.1 r stored pending same latest
    · intro unheld
      apply repeats.2
      intro r stored pending same
      obtain ⟨newest, present, open_, key', latest⟩ := exists_newest_pending stored pending same
      exact unheld newest (carriedOver_iff.mpr ⟨present, open_, key', latest⟩)
  · intro repeats
    refine ⟨?_, ?_⟩
    · intro r stored pending same latest
      exact repeats.1 r (carriedOver_iff.mpr ⟨stored, pending, same, latest⟩)
    · intro unheld
      apply repeats.2
      intro r carried
      obtain ⟨stored, pending, same, _⟩ := carriedOver_iff.mp carried
      exact unheld r stored pending same

theorem currentRound_iff {marked : DateTime} {rows : List Intervention} :
    currentRound marked rows = true ↔ ∀ r ∈ rows, r.suggestedAt ≤ marked := by
  unfold currentRound
  cases anchor : (rows.map Intervention.suggestedAt).max? with
  | none =>
    have empty : rows = [] := by simpa using anchor
    simp [empty]
  | some latest =>
    rw [decide_eq_true_eq, List.max?_le_iff anchor]
    simp

/-- Two lists of rows that only differ in the keys and the order of the rows not carried out. -/
structure SameRows (rows others : List Intervention) : Prop where
  done : rows.filter isDone = others.filter isDone
  content : (rows.map Intervention.content).Perm (others.map Intervention.content)

theorem SameRows.filter {rows others : List Intervention} (same : SameRows rows others)
    (p : Intervention → Bool) (keyless : ∀ r, p r.content = p r) :
    SameRows (rows.filter p) (others.filter p) := by
  have commute : ∀ list : List Intervention,
      (list.filter p).map Intervention.content = (list.map Intervention.content).filter p := by
    intro list
    rw [List.filter_map]
    congr 1
    apply List.filter_congr
    intro r _
    exact (keyless r).symm
  refine ⟨?_, ?_⟩
  · rw [List.filter_comm, same.done, List.filter_comm]
  · rw [commute, commute]
    exact same.content.filter p

theorem SameRows.forall_iff {rows others : List Intervention} (same : SameRows rows others)
    (p : Intervention → Prop) (keyless : ∀ r, p r.content ↔ p r) :
    (∀ r ∈ rows, p r) ↔ ∀ r ∈ others, p r := by
  have through : ∀ list : List Intervention,
      (∀ r ∈ list, p r) ↔ ∀ c ∈ list.map Intervention.content, p c := by
    intro list
    rw [List.forall_mem_map]
    exact forall₂_congr (fun r _ => (keyless r).symm)
  rw [through rows, through others]
  exact forall_congr' (fun c => imp_congr_left same.content.mem_iff)

theorem SameRows.latestDone {rows others : List Intervention} (same : SameRows rows others) :
    latestDone rows = latestDone others := by
  have chosen : ∀ list : List Intervention,
      list.filterMap (fun r => if r.status = .done then r.doneAt.map (fun done => (r, done)) else none) =
        (list.filter isDone).filterMap (fun r => r.doneAt.map (fun done => (r, done))) := by
    intro list
    rw [List.filterMap_filter]
    simp [isDone]
  unfold KnowledgeGap.latestDone
  rw [chosen rows, chosen others, same.done]

theorem SameRows.loopState [Field K] [LinearOrder K] {rows others : List Intervention}
    (same : SameRows rows others) (cfg : Config K) (studentId : Nat) (peers : List Nat)
    (eventsFor : Nat → Nat → List (EvidenceEvent K)) (reports : Dict (Nat × Nat) DateTime)
    (a : KpAssessment K) :
    loopState cfg studentId peers eventsFor reports rows a =
      loopState cfg studentId peers eventsFor reports others a := by
  have rounds : ∀ marked, currentRound marked rows = currentRound marked others := by
    intro marked
    rw [Bool.eq_iff_iff, currentRound_iff, currentRound_iff]
    exact same.forall_iff (fun r => r.suggestedAt ≤ marked) (fun _ => Iff.rfl)
  have empty : rows.isEmpty = others.isEmpty := by
    have lengths := same.content.length_eq
    rw [List.length_map, List.length_map] at lengths
    rw [Bool.eq_iff_iff, List.isEmpty_iff_length_eq_zero, List.isEmpty_iff_length_eq_zero, lengths]
  have open_ : rows.any (fun r => decide (r.status = .suggested)) =
      others.any (fun r => decide (r.status = .suggested)) := by
    have none_open := same.forall_iff (fun r => ¬ r.status = .suggested) (fun _ => Iff.rfl)
    rw [Bool.eq_iff_iff]
    simpa [not_iff_not] using not_congr none_open
  simp only [KnowledgeGap.loopState, same.latestDone, rounds, empty, open_]

section
variable [Field K] [LinearOrder K] [FloorRing K]

theorem loopStatesForStudent_congr (cfg : Config K) (db : Db K) (h : KpGraph K) {t u : Table Intervention}
    (same : SameRows t.rows u.rows) (studentId classId : Nat) (asOf : DateTime) :
    loopStatesForStudent cfg { db with interventions := t } h studentId classId asOf =
      loopStatesForStudent cfg { db with interventions := u } h studentId classId asOf := by
  unfold loopStatesForStudent
  dsimp only
  congr 1
  apply List.map_congr_left
  intro a _
  rw [Dict.getD_group, Dict.getD_group]
  congr 1
  apply SameRows.loopState
  apply SameRows.filter
  · apply SameRows.filter
    · exact same.filter _ (fun _ => rfl)
    · intro _
      rfl
  · intro _
    rfl

/-- When a second run on unchanged data changes nothing: every need it asks for keeps its date. -/
theorem regenerate_unchanged_iff (cfg : Config K) (db : Db K) (g : KpGraph K) (classId examId : Nat)
    (asOf : DateTime) (sourceReportId : Option Nat) (now later : DateTime) (eventsBySk : Option (Batch K)) :
    let first := (generateInterventions cfg db g classId examId asOf sourceReportId now eventsBySk).1
    let second := (generateInterventions cfg { db with interventions := first } g classId examId asOf
      sourceReportId later eventsBySk).1
    ((second.rows.map Intervention.content).Perm (first.rows.map Intervention.content) ∧
      ∀ (records : Table StudyRecord) (h : KpGraph K) (studentId cls : Nat) (t : DateTime),
        loopStatesForStudent cfg { db with interventions := second, studyRecords := records } h studentId cls t =
          loopStatesForStudent cfg { db with interventions := first, studyRecords := records } h studentId
            cls t) ↔
    (cfg.actionPlanEnable = true → ∀ key, Needed cfg db g classId examId asOf eventsBySk key →
      (∀ r, CarriedOver db.interventions g classId examId key r → LooksNew later r) ∧
        ((∀ r, ¬ CarriedOver db.interventions g classId examId key r) → now = later)) := by
  intro first second
  have done : second.select isDone = first.select isDone :=
    generate_done cfg { db with interventions := first } g classId examId asOf eventsBySk sourceReportId later
  have states : (second.rows.map Intervention.content).Perm (first.rows.map Intervention.content) →
      ∀ (records : Table StudyRecord) (h : KpGraph K) (studentId cls : Nat) (t : DateTime),
        loopStatesForStudent cfg { db with interventions := second, studyRecords := records } h studentId cls t =
          loopStatesForStudent cfg { db with interventions := first, studyRecords := records } h studentId
            cls t := by
    intro same records h studentId cls t
    exact loopStatesForStudent_congr cfg { db with studyRecords := records } h ⟨done, same⟩ studentId cls t
  rw [and_iff_left_of_imp states]
  by_cases idle : cfg.actionPlanEnable = false ∨ committedIds db examId = []
  · have still : second = first :=
      generate_idle cfg { db with interventions := first } g classId examId asOf eventsBySk sourceReportId later
        idle
    rw [still]
    constructor
    · intro _ enabled key needed
      rcases idle with off | empty
      · rw [off] at enabled
        cases enabled
      · exact absurd needed (not_needed_of_empty cfg db g classId examId asOf eventsBySk empty key)
    · intro _
      exact List.Perm.refl _
  · rw [not_or] at idle
    have enabled : cfg.actionPlanEnable = true := by simpa using idle.1
    have firstRun := generate_eq cfg db g classId examId asOf eventsBySk sourceReportId now enabled idle.2
    have secondRun := generate_eq cfg { db with interventions := first } g classId examId asOf eventsBySk
      sourceReportId later enabled idle.2
    have kept : keptDone first g classId = keptDone db.interventions g classId :=
      keptDone_congr (generate_done cfg db g classId examId asOf eventsBySk sourceReportId now)
    have plans : makePlan cfg { db with interventions := first } g (keptDone first g classId) classId examId
        asOf eventsBySk =
        makePlan cfg db g (keptDone db.interventions g classId) classId examId asOf eventsBySk := by
      rw [kept]
      rfl
    have clear : ∀ r ∈ (purge db.interventions g classId examId).rows, pendingIn g classId r = true →
        r.examId ≠ examId := by
      intro r stored pending exam
      exact (mem_purge.mp stored).2 ⟨exam, pending⟩
    have shape : second.rows = (applyPlan (purge first g classId examId) g classId examId sourceReportId asOf
        later (makePlan cfg db g (keptDone db.interventions g classId) classId examId asOf
          eventsBySk)).rows := by
      rw [← plans]
      exact congrArg Table.rows secondRun
    have runs : first = applyPlan (purge db.interventions g classId examId) g classId examId sourceReportId
        asOf now (makePlan cfg db g (keptDone db.interventions g classId) classId examId asOf eventsBySk) :=
      firstRun
    rw [shape, runs, applyPlan_again_iff (makePlan_planned cfg db g classId examId asOf eventsBySk _) later
      clear]
    constructor
    · intro repeats _ key needed
      obtain ⟨row, listed, rfl⟩ := List.mem_map.mp
        ((mem_makePlan_keys cfg db g classId examId asOf eventsBySk key).mpr needed)
      exact repeats_purge_iff.mp (repeats row listed)
    · intro repeats row listed
      exact repeats_purge_iff.mpr (repeats enabled row.key
        ((mem_makePlan_keys cfg db g classId examId asOf eventsBySk row.key).mp (List.mem_map_of_mem listed)))

end

def drilledPoint : KnowledgePoint ℚ :=
  { id := 9, kbVersionId := 1, code := "N1", name := "有理数", grade := 7,
    cogLevelsExpected := [.recall, .apply], difficultyPrior := 1 / 2, masteryFloor := 6 / 10,
    importance := .core, archived := false }

def drilledEvent (id : Nat) (cog : CogLevel) (value : ℚ) : EvidenceEvent ℚ :=
  { id := id, studentId := 1, kpId := 9, responseAnswerId := id, sourceType := .unit, value := value,
    weight := 1, cogLevel := cog, classAvgRate := none, occurredAt := noon 0 }

/-- A pupil who recalls a point and cannot apply it, the day of the exam. -/
def drilledDb : Db ℚ :=
  { Db.empty ℚ with
    classes := .ofList [⟨1, 7⟩]
    students := .ofList [⟨1, 1, "甲"⟩]
    progress := .ofList [⟨1, 1, 9, 0⟩]
    responses := .ofList [⟨1, 5, 1, 0, .submitted⟩]
    events := .ofList [drilledEvent 1 .recall (7 / 10), drilledEvent 2 .recall (7 / 10),
      drilledEvent 3 .apply (2 / 10), drilledEvent 4 .apply (2 / 10)] }

def drilledGraph : KpGraph ℚ := .discrete [drilledPoint] (by decide)

def drilledOnce : Table Intervention :=
  (generateInterventions Config.rational drilledDb drilledGraph 1 5 (noon 0) none (noon 0 + seconds 3600)
    none).1

def drilledTwice : Table Intervention :=
  (generateInterventions Config.rational { drilledDb with interventions := drilledOnce } drilledGraph 1 5
    (noon 0) none (noon 0 + seconds 10800) none).1

def drilledReport : Table StudyRecord :=
  .ofList [⟨1, 1, 1, 9, none, noon 0 + seconds 7200, some (noon 0 + seconds 7200)⟩]

theorem regenerate_redates_suggestion :
    ¬ (drilledTwice.rows.map Intervention.content).Perm (drilledOnce.rows.map Intervention.content) ∧
    (loopStatesForStudent Config.rational
      { drilledDb with interventions := drilledOnce, studyRecords := drilledReport } drilledGraph 1 1
        (noon 0 + seconds 10800)).get? 9 = some .selfReported ∧
    (loopStatesForStudent Config.rational
      { drilledDb with interventions := drilledTwice, studyRecords := drilledReport } drilledGraph 1 1
        (noon 0 + seconds 10800)).get? 9 = some .suggested := by
  decide +kernel

end KnowledgeGap
