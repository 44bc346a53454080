import KnowledgeGap.Kb.Editing

namespace KnowledgeGap.Kb.Editing

open Relational

variable {K : Type}

/-- Every foreign key on a point finds it. -/
def WellReferenced (db : Db K) : Prop := ∀ kpId, refersTo db kpId = true → (db.knowledgePoints.get? kpId).isSome

/-- What a hard deletion may end in: a refusal that changes nothing, or a point that is gone with everything that named it. -/
def CleanDeletion (db : Db K) (kpId : Nat) (result : Db K × Except EditFailure KpDeletion) : Prop :=
  match result.2 with
  | .error (.edit _) => result.1 = db
  | .ok _ => result.1.knowledgePoints.get? kpId = none ∧ refersTo result.1 kpId = false
  | .error _ => False

/-- The deletion does not come as far as the delete statement, or finds no diagnostic task on its way. -/
def Deletable (db : Db K) (kpId : Nat) : Prop :=
  taskRefs db kpId = 0 ∨ db.knowledgePoints.get? kpId = none ∨
    (∃ p, db.knowledgePoints.get? kpId = some p ∧ reservedCode p.code = true) ∨ 0 < blockingRefs db kpId

theorem rowcount_deleteWhere {ρ : Type} [Keyed ρ] (t : Table ρ) (p : ρ → Bool) : (t.deleteWhere p).rowcount p = 0 := by
  rw [Table.rowcount, List.length_eq_zero_iff, Table.select, Table.deleteWhere, List.filter_filter, List.filter_eq_nil_iff]
  intro r _
  cases p r
  · simp
  · simp

/-- Once relations and progress are cleared, what is left to refer to the point is a task, or what blocks the deletion. -/
theorem refersTo_cleared (db : Db K) (kpId : Nat) :
    refersTo (clearProgress (clearRelations db kpId) kpId) kpId = decide (0 < taskRefs db kpId + blockingRefs db kpId) := by
  have relations : relationRefs (clearProgress (clearRelations db kpId) kpId) kpId = 0 :=
    rowcount_deleteWhere db.relations (fun r => r.fromKpId == kpId || r.toKpId == kpId)
  have progress : progressRefs (clearProgress (clearRelations db kpId) kpId) kpId = 0 :=
    rowcount_deleteWhere db.progress (fun r => r.kpId == kpId)
  have tasks : taskRefs (clearProgress (clearRelations db kpId) kpId) kpId = taskRefs db kpId := rfl
  have rest : blockingRefs (clearProgress (clearRelations db kpId) kpId) kpId = blockingRefs db kpId := rfl
  rw [refersTo, relations, progress, tasks, decide_eq_decide]
  unfold blockingRefs at rest ⊢
  omega

theorem get?_deleteWhere_self (t : Table (KnowledgePoint K)) (kpId : Nat) :
    (t.deleteWhere (fun p => p.id == kpId)).get? kpId = none := by
  rw [Table.get?, List.find?_eq_none]
  intro p member
  have other : ¬ p.id = kpId := by simpa using (List.mem_filter.mp member).2
  simpa using (show ¬ Keyed.key p = kpId from other)

section
variable {db : Db K} {kpId : Nat} {p : KnowledgePoint K} (found : db.knowledgePoints.get? kpId = some p)
  (ordinary : reservedCode p.code = false) (free : blockingRefs db kpId = 0) (confirm : Bool)
include found ordinary free

/-- A deletion that is not stopped before the delete statement ends as that does. -/
theorem deleteKp_fails {e : EditFailure} (failed : deletePoint (clearProgress (clearRelations db kpId) kpId) kpId = .error e) :
    deleteKp db kpId true confirm = (db, .error e) := by
  unfold deleteKp
  rw [found]
  simp only [ordinary, Bool.false_eq_true, ↓reduceIte, free, Nat.lt_irrefl]
  rw [failed]

theorem deleteKp_succeeds {after : Db K} (done : deletePoint (clearProgress (clearRelations db kpId) kpId) kpId = .ok after) :
    deleteKp db kpId true confirm = (after, .ok (.hard kpId)) := by
  unfold deleteKp
  rw [found]
  simp only [ordinary, Bool.false_eq_true, ↓reduceIte, free, Nat.lt_irrefl]
  rw [done]

end

/-- A hard deletion is clean exactly where no diagnostic task names the point, or the deletion is refused before. -/
theorem deletion_clean_iff (db : Db K) (kpId : Nat) (confirm : Bool) :
    CleanDeletion db kpId (deleteKp db kpId true confirm) ↔ Deletable db kpId := by
  cases found : db.knowledgePoints.get? kpId with
  | none =>
    have refused : deleteKp db kpId true confirm = (db, .error (.edit (.notFound "知识点不存在"))) := by
      unfold deleteKp
      rw [found]
    rw [refused]
    exact ⟨fun _ => Or.inr (Or.inl found), fun _ => rfl⟩
  | some p =>
    by_cases reserved : reservedCode p.code = true
    · have refused : deleteKp db kpId true confirm = (db, .error (.edit (.refused "容器节点不可删除/归档，仅可改名"))) := by
        unfold deleteKp
        rw [found]
        simp only [reserved, ↓reduceIte]
      rw [refused]
      exact ⟨fun _ => Or.inr (Or.inr (Or.inl ⟨p, found, reserved⟩)), fun _ => rfl⟩
    · by_cases blocked : 0 < blockingRefs db kpId
      · have refused : deleteKp db kpId true confirm = (db, .error (.edit (.refused (blockedText db kpId)))) := by
          unfold deleteKp
          rw [found]
          simp only [reserved, Bool.false_eq_true, ↓reduceIte, blocked]
        rw [refused]
        exact ⟨fun _ => Or.inr (Or.inr (Or.inr blocked)), fun _ => rfl⟩
      · have free : blockingRefs db kpId = 0 := Nat.eq_zero_of_not_pos blocked
        have left := refersTo_cleared db kpId
        rw [free, Nat.add_zero] at left
        have ordinary : reservedCode p.code = false := by simpa using reserved
        by_cases tasked : 0 < taskRefs db kpId
        · have failed : deletePoint (clearProgress (clearRelations db kpId) kpId) kpId = .error .integrityError :=
            if_pos (left.trans (decide_eq_true tasked))
          rw [deleteKp_fails found ordinary free confirm failed]
          constructor
          · intro clean
            exact clean.elim
          · intro deletable
            rcases deletable with none_ | absent | ⟨q, same, reserved'⟩ | refs
            · omega
            · rw [found] at absent
              cases absent
            · rw [found] at same
              cases same
              exact absurd reserved' reserved
            · exact absurd refs blocked
        · have clear : refersTo (clearProgress (clearRelations db kpId) kpId) kpId = false := left.trans (decide_eq_false tasked)
          have done : deletePoint (clearProgress (clearRelations db kpId) kpId) kpId =
              .ok { clearProgress (clearRelations db kpId) kpId with
                knowledgePoints := db.knowledgePoints.deleteWhere (fun p => p.id == kpId) } :=
            if_neg (by rw [clear]; exact Bool.false_ne_true)
          rw [deleteKp_succeeds found ordinary free confirm done]
          exact ⟨fun _ => Or.inl (Nat.eq_zero_of_not_pos tasked), fun _ => ⟨get?_deleteWhere_self _ _, clear⟩⟩

/-! A point that only the task of a diagnostic paper still names: its questions were retagged. -/

def retaggedDb : Db ℚ :=
  { Db.empty ℚ with
    kbVersions := .ofList [⟨1, "数学", some 7, "人教版", "0.1.0", .active⟩]
    knowledgePoints := .ofList
      [{ id := 1, kbVersionId := 1, code := "M7A-101", name := "有理数", grade := 7, cogLevelsExpected := [],
         difficultyPrior := 1 / 2, masteryFloor := 6 / 10, importance := .core, archived := false },
       { id := 2, kbVersionId := 1, code := "M7A-102", name := "数轴", grade := 7, cogLevelsExpected := [],
         difficultyPrior := 1 / 2, masteryFloor := 6 / 10, importance := .core, archived := false }]
    classes := .ofList [⟨1, 7⟩]
    students := .ofList [⟨1, 1, "甲"⟩]
    templates := .ofList [⟨1, 1, 0, .diagnostic, .diagnosticTask⟩]
    questions := .ofList [⟨1, 1, 1, "比较大小", .choice, 2, .understand, 1 / 2, some 4⟩]
    questionKps := .ofList [⟨1, 1, 2, 1⟩]
    diagnosticTasks := .ofList [⟨1, 1, 1, 1, .evidence, none, [7], "previewed"⟩] }

theorem retagged_referenced : WellReferenced retaggedDb := by
  intro kpId refers
  by_cases first : kpId = 1
  · rw [first]
    rfl
  · by_cases second : kpId = 2
    · rw [second]
      rfl
    · have tags : questionRefs retaggedDb kpId = 0 := by
        change ([(⟨1, 1, 2, 1⟩ : QuestionKp ℚ)].filter (fun t => t.kpId == kpId)).length = 0
        simp [Ne.symm second]
      have tasks : taskRefs retaggedDb kpId = 0 := by
        change ([(⟨1, 1, 1, 1, .evidence, none, [7], "previewed"⟩ : DiagnosticTask)].filter (fun t => t.kpId == kpId)).length = 0
        simp [Ne.symm first]
      have others : refersTo retaggedDb kpId =
          decide (0 < 0 + 0 + taskRefs retaggedDb kpId + questionRefs retaggedDb kpId + 0 + 0 + 0 + 0) := rfl
      rw [others, tags, tasks] at refers
      cases refers

theorem deletion_counterexample : WellReferenced retaggedDb ∧
    ¬ CleanDeletion retaggedDb 1 (deleteKp retaggedDb 1 true false) ∧
    (deleteKp retaggedDb 1 true false).2 = .error .integrityError := by
  have failed : (deleteKp retaggedDb 1 true false).2 = .error .integrityError := by decide +kernel
  refine ⟨retagged_referenced, ?_, failed⟩
  unfold CleanDeletion
  rw [failed]
  exact id

end KnowledgeGap.Kb.Editing
