import KnowledgeGap.Ingestion.Commit
import Mathlib.Logic.Relation

namespace KnowledgeGap.Ingestion

open Relational

variable {K : Type}

def bankCount (db : Db K) (questionId : Nat) : Nat :=
  db.bank.rows.countP (fun b => b.sourceTemplateQuestionId == some questionId)

def banked (db : Db K) : List Nat := db.bank.rows.filterMap BankQuestion.sourceTemplateQuestionId

theorem mem_banked {db : Db K} {questionId : Nat} : questionId ∈ banked db ↔ 0 < bankCount db questionId := by
  unfold banked bankCount
  rw [List.mem_filterMap, List.countP_pos_iff]
  simp

/-- What the seeding takes of a question. -/
def bankEntry (db : Db K) (q : TemplateQuestion K) : Option (TemplateQuestion K × Option Nat) :=
  if q.id ∈ banked db then none
  else
    match questionKpsOf db q.id with
    | [] => none
    | first :: _ => some (q, (db.knowledgePoints.get? first.kpId).map KnowledgePoint.kbVersionId)

theorem bankEntries_eq (db : Db K) (templateId : Nat) :
    bankEntries db templateId = (db.questions.select (fun q => q.examTemplateId == templateId)).filterMap (bankEntry db) := rfl

theorem bankEntry_eq_some {db : Db K} {q : TemplateQuestion K} {entry : TemplateQuestion K × Option Nat}
    (taken : bankEntry db q = some entry) :
    q.id ∉ banked db ∧ entry.1 = q ∧
      ∃ tag ∈ db.questionKps.rows, entry.2 = (db.knowledgePoints.get? tag.kpId).map KnowledgePoint.kbVersionId := by
  unfold bankEntry at taken
  split at taken
  · cases taken
  · rename_i absent
    split at taken
    · cases taken
    · rename_i first rest tags
      cases taken
      have tagged : first ∈ questionKpsOf db q.id := by simp [tags]
      exact ⟨absent, rfl, first, List.mem_of_mem_filter tagged, rfl⟩

theorem bankEntry_eq_none_iff {db : Db K} {q : TemplateQuestion K} :
    bankEntry db q = none ↔ q.id ∈ banked db ∨ questionKpsOf db q.id = [] := by
  unfold bankEntry
  by_cases held : q.id ∈ banked db
  · simp [held]
  · rw [if_neg held]
    cases questionKpsOf db q.id with
    | nil => simp
    | cons first rest => simp [held]

theorem rows_seed (db : Db K) (templateId : Nat) :
    (seedBankFromTemplate db templateId).1.bank.rows = db.bank.rows ++
      (bankEntries db templateId).mapIdx (fun n entry => bankRow entry (db.bank.nextId + n)) :=
  Table.rows_insertAll ..

theorem sources_seed (db : Db K) (templateId : Nat) :
    ((bankEntries db templateId).mapIdx (fun n entry => bankRow entry (db.bank.nextId + n))).map
        BankQuestion.sourceTemplateQuestionId =
      (bankEntries db templateId).map (fun entry => some entry.1.id) := by
  apply List.ext_getElem
  · simp
  · intro n left right
    simp [bankRow]

theorem nodup_bankEntries (db : Db K) (templateId : Nat) : ((bankEntries db templateId).map (fun entry => entry.1.id)).Nodup := by
  have part : ∀ qs : List (TemplateQuestion K),
      ((qs.filterMap (bankEntry db)).map (fun entry => entry.1.id)).Sublist (qs.map TemplateQuestion.id) := by
    intro qs
    induction qs with
    | nil => exact .slnil
    | cons q qs ih =>
      rw [List.filterMap_cons, List.map_cons]
      split
      · exact ih.cons q.id
      · rename_i entry taken
        rw [List.map_cons, (bankEntry_eq_some taken).2.1]
        exact ih.cons_cons q.id
  have distinct : ((db.questions.select (fun q => q.examTemplateId == templateId)).map TemplateQuestion.id).Nodup :=
    (List.Sublist.map _ List.filter_sublist).nodup db.questions.nodup
  exact (part _).nodup distinct

theorem bankCount_seed (db : Db K) (templateId questionId : Nat) :
    bankCount (seedBankFromTemplate db templateId).1 questionId =
      bankCount db questionId + ((bankEntries db templateId).map (fun entry => entry.1.id)).count questionId := by
  unfold bankCount
  rw [rows_seed, List.countP_append]
  congr 1
  have counted : ∀ bs : List (BankQuestion K), bs.countP (fun b => b.sourceTemplateQuestionId == some questionId) =
      (bs.map BankQuestion.sourceTemplateQuestionId).count (some questionId) := by
    intro bs
    rw [List.count, List.countP_map]
    rfl
  rw [counted, sources_seed, List.count, List.countP_map, List.count, List.countP_map]
  apply List.countP_congr
  intro entry _
  simp

/-- A question that is in the bank is not taken again, and one that is not is taken once. -/
theorem bankCount_seed_le (db : Db K) (templateId questionId : Nat) :
    bankCount (seedBankFromTemplate db templateId).1 questionId ≤ max 1 (bankCount db questionId) := by
  rw [bankCount_seed]
  have once := List.nodup_iff_count_le_one.mp (nodup_bankEntries db templateId) questionId
  by_cases held : 0 < bankCount db questionId
  · have none : ((bankEntries db templateId).map (fun entry => entry.1.id)).count questionId = 0 := by
      rw [List.count_eq_zero]
      intro taken
      obtain ⟨entry, listed, same⟩ := List.mem_map.mp taken
      obtain ⟨q, _, made⟩ := List.mem_filterMap.mp listed
      obtain ⟨absent, own, _⟩ := bankEntry_eq_some made
      apply absent
      rw [← own, same, mem_banked]
      exact held
    omega
  · omega

/-- After a seeding nothing is left to seed. -/
theorem bankEntries_seed (db : Db K) (templateId : Nat) : bankEntries (seedBankFromTemplate db templateId).1 templateId = [] := by
  rw [bankEntries_eq, List.filterMap_eq_nil_iff]
  intro q listed
  rw [bankEntry_eq_none_iff, mem_banked, bankCount_seed]
  cases taken : bankEntry db q with
  | none =>
    rcases bankEntry_eq_none_iff.mp taken with held | untagged
    · rw [mem_banked] at held
      exact Or.inl (by omega)
    · exact Or.inr untagged
  | some entry =>
    have here : q.id ∈ (bankEntries db templateId).map (fun entry => entry.1.id) := by
      rw [← (bankEntry_eq_some taken).2.1]
      exact List.mem_map_of_mem (List.mem_filterMap.mpr ⟨q, listed, taken⟩)
    have counted := List.count_pos_iff.mpr here
    exact Or.inl (by omega)

theorem seed_of_nothing {db : Db K} {templateId : Nat} (nothing : bankEntries db templateId = []) :
    (seedBankFromTemplate db templateId).1 = db := by
  have same : db.bank.insertAll bankRow key_bankRow [] = db.bank := rfl
  unfold seedBankFromTemplate
  rw [nothing, same]

/-- The version of a tag that is on file is known. -/
theorem seeded_version {db : Db K} (tagged : ∀ tag ∈ db.questionKps.rows, ∃ kp ∈ db.knowledgePoints.rows, kp.id = tag.kpId)
    {templateId : Nat} {b : BankQuestion K}
    (new : b ∈ (bankEntries db templateId).mapIdx (fun n entry => bankRow entry (db.bank.nextId + n))) : b.kbVersionId ≠ none := by
  obtain ⟨n, inside, rfl⟩ := List.mem_mapIdx.mp new
  obtain ⟨q, _, taken⟩ := List.mem_filterMap.mp (List.getElem_mem inside)
  obtain ⟨_, _, tag, stored, version⟩ := bankEntry_eq_some taken
  obtain ⟨kp, filed, same⟩ := tagged tag stored
  have found : db.knowledgePoints.get? tag.kpId = some kp := same ▸ Table.get?_of_mem filed
  show (bankEntries db templateId)[n].2 ≠ none
  rw [version, found]
  exact Option.some_ne_none _

section
variable [Field K] [LinearOrder K] [FloorRing K] {cfg : Config K}

theorem commitRow_bank {state after : Db K × CommitResult} {response : ExamResponse K}
    (done : commitRow cfg state response = .ok after) : after.1.bank = state.1.bank := by
  unfold commitRow at done
  dsimp only at done
  split at done
  · cases done
    rfl
  · cases done
    rfl
  · split at done
    · cases done
    · cases done
      rfl
  · split at done
    · cases done
    · cases done
      rfl

theorem commitRows_bank {rows : List (ExamResponse K)} {state after : Db K × CommitResult}
    (done : rows.foldlM (commitRow cfg) state = .ok after) : after.1.bank = state.1.bank := by
  induction rows generalizing state with
  | nil =>
    cases done
    rfl
  | cons r rows ih =>
    rw [List.foldlM_cons] at done
    cases here : commitRow cfg state r with
    | error error =>
      rw [here] at done
      cases done
    | ok between =>
      rw [here] at done
      exact (ih done).trans (commitRow_bank here)

theorem commitExam_bank {db after : Db K} {templateId : Nat} {rows : List (ExamResponse K)} {result : CommitResult}
    (done : commitExam cfg db templateId rows = .ok (after, result)) :
    ∃ mid : Db K, mid.bank = db.bank ∧ (after = mid ∨ after = (seedBankFromTemplate mid templateId).1) := by
  unfold commitExam at done
  split at done
  · cases done
  · split at done
    · cases done
      exact ⟨db, rfl, Or.inl rfl⟩
    · split at done
      · cases done
      · split at done
        · cases done
        · rename_i mid report looped
          cases done
          exact ⟨mid, commitRows_bank looped, Or.inr rfl⟩

variable (cfg) in
/-- The work on a database, as far as the bank goes: nothing but a commit writes it. -/
inductive Work : Db K → Db K → Prop
  | commit {db after : Db K} {templateId : Nat} {rows : List (ExamResponse K)} {result : CommitResult}
      (done : commitExam cfg db templateId rows = .ok (after, result)) : Work db after
  | other {db after : Db K} (bank : after.bank = db.bank) : Work db after

theorem Work.bankCount {db after : Db K} (work : Work cfg db after) (questionId : Nat) :
    Ingestion.bankCount after questionId ≤ max 1 (Ingestion.bankCount db questionId) := by
  cases work with
  | @commit templateId _ _ done =>
    obtain ⟨mid, same, rfl | rfl⟩ := commitExam_bank done
    · unfold Ingestion.bankCount
      rw [same]
      exact Nat.le_max_right _ _
    · have once := bankCount_seed_le mid templateId questionId
      unfold Ingestion.bankCount at once ⊢
      rw [same] at once
      exact once
  | other same =>
    unfold Ingestion.bankCount
    rw [same]
    exact Nat.le_max_right _ _

theorem bankCount_of_work {db later : Db K} (work : Relation.ReflTransGen (Work cfg) db later) (questionId : Nat) :
    Ingestion.bankCount later questionId ≤ max 1 (Ingestion.bankCount db questionId) := by
  induction work with
  | refl => exact Nat.le_max_right _ _
  | tail _ last ih =>
    have step := last.bankCount questionId
    omega

end

end KnowledgeGap.Ingestion
