import KnowledgeGap.Ingestion.CommitOrder

namespace KnowledgeGap.Ingestion

open Relational Protocol

variable {K : Type}

/-- All sheets are on file and none is committed: what the preflight is asked about. -/
def entered (base : Db K) (templateId : Nat) (sheets : List (Sheet K)) : Db K :=
  sheets.foldl (fun db sheet => enter db templateId sheet) base

theorem entered_shows {base : Db K} {templateId : Nat} (sheets : List (Sheet K)) (db : Db K) (filed : List (Filed K))
    (shows : Shows base db templateId filed) (waiting : ∀ f ∈ filed, f.submitted = false) :
    ∃ filed', Shows base (entered db templateId sheets) templateId filed' ∧
      filed'.map Filed.sheet = filed.map Filed.sheet ++ sheets ∧ ∀ f ∈ filed', f.submitted = false := by
  induction sheets generalizing db filed with
  | nil => exact ⟨filed, shows, by simp, waiting⟩
  | cons sheet sheets ih =>
    have waiting' : ∀ f ∈ filed ++ [⟨sheet, db.responses.nextId, db.answers.nextId, false⟩], f.submitted = false := by
      intro f member
      rcases List.mem_append.mp member with old | new
      · exact waiting f old
      · rw [List.mem_singleton.mp new]
    obtain ⟨filed', shown, sheetsOf, still⟩ := ih _ _ (enter_shows shows sheet) waiting'
    refine ⟨filed', shown, ?_, still⟩
    rw [sheetsOf, List.map_append, List.append_assoc]
    rfl

theorem assertExamStudent_of_mem {db : Db K} {exam : ExamTemplate} {studentId : Nat}
    (member : studentId ∈ (examStudents db exam).map Student.id) : assertExamStudent db exam studentId = .ok () := by
  obtain ⟨student, listed, rfl⟩ := List.mem_map.mp member
  unfold examStudents at listed
  unfold assertExamStudent
  cases task : diagnosticTask db exam with
  | some t =>
    rw [task] at listed
    simp only [mem_stableSort, Table.select, List.mem_filter, Bool.and_eq_true, beq_iff_eq] at listed
    obtain ⟨stored, sameClass, target⟩ := listed
    have found : db.students.get? student.id = some student := Table.get?_of_mem stored
    rw [found]
    simp [sameClass, target]
  | none =>
    rw [task] at listed
    dsimp only at listed
    split at listed
    · cases listed
    · rename_i ordinary
      simp only [mem_stableSort, Table.select, List.mem_filter, beq_iff_eq] at listed
      have found : db.students.get? student.id = some student := Table.get?_of_mem listed.1
      rw [found]
      simp [listed.2, ordinary]

theorem Filed.countP_answerRows (f : Filed K) (questionId : Nat) :
    f.answerRows.countP (fun a => a.templateQuestionId == questionId) =
      f.sheet.answers.countP (fun a => a.questionId == questionId) := by
  have asked : f.answerRows.map ResponseAnswer.templateQuestionId = f.sheet.answers.map SheetAnswer.questionId := by
    apply List.ext_getElem
    · simp [answerRows]
    · intro n left right
      simp [answerRows, filedAnswer]
  have counted := congrArg (List.countP (fun k => k == questionId)) asked
  rw [List.countP_map, List.countP_map] at counted
  exact counted

theorem once_of_countP {α : Type} {p : α → Bool} {xs : List α} (one : xs.countP p = 1) :
    ∃ a ∈ xs, p a = true ∧ ∀ b ∈ xs, p b = true → b = a := by
  rw [List.countP_eq_length_filter, List.length_eq_one_iff] at one
  obtain ⟨a, only⟩ := one
  have mine : a ∈ xs.filter p := by simp [only]
  refine ⟨a, (List.mem_filter.mp mine).1, (List.mem_filter.mp mine).2, ?_⟩
  intro b listed holds
  have other : b ∈ xs.filter p := List.mem_filter.mpr ⟨listed, holds⟩
  rw [only] at other
  exact List.mem_singleton.mp other

theorem coverageIssues_eq_nil {answers : List (ResponseAnswer K)} {responseId : Nat} {q : TemplateQuestion K}
    (clean : coverageIssues answers responseId q = []) : answers.countP (fun a => a.templateQuestionId == q.id) = 1 := by
  unfold coverageIssues at clean
  split at clean
  · cases clean
  · assumption
  · cases clean

theorem mem_questionsOf {db : Db K} {templateId : Nat} {q : TemplateQuestion K} :
    q ∈ questionsOf db templateId ↔ q ∈ db.questions.rows ∧ q.examTemplateId = templateId := by
  simp [questionsOf, Table.select]

section
variable [Field K] [LinearOrder K] {confidence : Nat → K} {base db : Db K} {template : ExamTemplate}

theorem asked_of_answerIssues {questions : List (TemplateQuestion K)} {responseId : Nat} {a : ResponseAnswer K}
    (clean : answerIssues confidence questions responseId a = []) : ∃ q ∈ questions, q.id = a.templateQuestionId := by
  unfold answerIssues at clean
  split at clean
  · cases clean
  · rename_i q found
    exact ⟨q, List.mem_of_find?_eq_some found, by simpa using List.find?_some found⟩

theorem fit_of_responseIssues {filed : List (Filed K)} (ground : Ground base template)
    (shows : Shows base db template.id filed) {f : Filed K} (listed : f ∈ filed)
    (clean : responseIssues confidence db template (f.row template.id) = []) : Fit base template f.sheet := by
  unfold responseIssues at clean
  simp only [List.append_eq_nil_iff, List.flatMap_eq_nil_iff] at clean
  obtain ⟨⟨⟨⟨⟨roster, _⟩, _⟩, covered⟩, answered⟩, _⟩ := clean
  have rows : answersOf db (f.row template.id).id = f.answerRows := answersOf_filed shows ground listed
  rw [rows] at covered answered
  have questions : questionsOf db template.id = questionsOf base template.id := by
    unfold questionsOf
    rw [shows.questions]
  rw [questions] at covered answered
  constructor
  · have enrolled : (f.row template.id).studentId ∈ (examStudents db template).map Student.id := by
      by_contra absent
      rw [if_neg absent] at roster
      cases roster
    rw [← assertExamStudent_shows shows]
    exact assertExamStudent_of_mem enrolled
  · intro a given
    obtain ⟨n, inside, rfl⟩ := List.getElem_of_mem given
    have onFile : filedAnswer f.responseId f.sheet.answers[n] (f.answerId + n) ∈ f.answerRows :=
      List.mem_mapIdx.mpr ⟨n, inside, rfl⟩
    obtain ⟨q, ofExam, key⟩ := asked_of_answerIssues (answered _ onFile)
    obtain ⟨stored, own⟩ := mem_questionsOf.mp ofExam
    exact ⟨q, stored, own, key⟩
  · intro q stored own
    have one := coverageIssues_eq_nil (covered q (mem_questionsOf.mpr ⟨stored, own⟩))
    rw [Filed.countP_answerRows] at one
    simpa only [beq_iff_eq] using once_of_countP one

/-- The preflight vouches for every sheet and every full score. -/
theorem fit_of_preflight (ground : Ground base template) {sheets : List (Sheet K)}
    (passes : blockingIssues confidence (entered base template.id sheets) template = []) :
    (∀ s ∈ sheets, Fit base template s) ∧
      ∀ q ∈ base.questions.rows, q.examTemplateId = template.id → 0 < q.fullScore := by
  obtain ⟨filed, shows, sheetsOf, waiting⟩ := entered_shows sheets base [] (ground_shows ground) (by simp)
  rw [List.map_nil, List.nil_append] at sheetsOf
  unfold blockingIssues at passes
  simp only [List.append_eq_nil_iff, List.filterMap_eq_nil_iff, List.flatMap_eq_nil_iff] at passes
  obtain ⟨⟨_, scores⟩, responses⟩ := passes
  rw [responsesOf_shows shows ground] at responses
  constructor
  · intro s member
    rw [← sheetsOf] at member
    obtain ⟨f, listed, rfl⟩ := List.mem_map.mp member
    apply fit_of_responseIssues ground shows listed
    apply responses
    rw [List.mem_filter]
    refine ⟨List.mem_map_of_mem listed, ?_⟩
    simp [Filed.row, waiting f listed]
  · intro q stored own
    have ofExam : q ∈ questionsOf (entered base template.id sheets) template.id := by
      rw [mem_questionsOf, shows.questions]
      exact ⟨stored, own⟩
    have positive := scores q ofExam
    by_contra negative
    rw [if_pos (not_lt.mp negative)] at positive
    cases positive

end

section
variable [Field K] [LinearOrder K] [FloorRing K] (cfg : Config K) (base : Db K) (template : ExamTemplate)
  (sheets : List (Sheet K))

/-- The events of the exam once a plan is carried out. -/
def eventsAfter (plan : List (Desk K)) : List (Produced K) :=
  produced (run (deskStep cfg template.id) base plan) template.id

/-- The evidence depends neither on the order nor on the split of the commits, and each event compares the pupil
    with the whole class. -/
structure OrderFree : Prop where
  same : ∀ plan plan', Covers cfg base template.id sheets plan → Covers cfg base template.id sheets plan' →
    (eventsAfter cfg base template plan).Perm (eventsAfter cfg base template plan')
  whole : ∀ plan, Covers cfg base template.id sheets plan → ∀ e ∈ eventsAfter cfg base template plan,
    ∀ q ∈ base.questions.rows, q.id = e.questionId →
      e.classAvgRate = some (roundTo 4 (mean (sheets.map (scoreRate q))))

/-- On every tagged question of the exam all pupils reach the same rate, to four places. -/
def Alike : Prop :=
  ∀ q ∈ base.questions.rows, q.examTemplateId = template.id → questionKpsOf base q.id ≠ [] →
    ∀ s ∈ sheets, ∀ t ∈ sheets, roundTo 4 (scoreRate q s) = roundTo 4 (scoreRate q t)

variable {base template sheets}

theorem orderFree_of_alike [IsStrictOrderedRing K] (ground : Ground base template)
    (fits : ∀ s ∈ sheets, Fit base template s) (alike : Alike base template sheets) :
    OrderFree cfg base template sheets := by
  cases sheets with
  | nil =>
    have silent : ∀ plan, Covers cfg base template.id [] plan → eventsAfter cfg base template plan = [] := by
      intro plan covers
      have agree : Agree base template (fun _ => none) [] := by
        intro q _ _ _ _ s absent
        cases absent
      exact List.perm_nil.mp (produced_of_covers cfg ground fits covers agree)
    constructor
    · intro plan plan' covers covers'
      rw [silent plan covers, silent plan' covers']
    · intro plan covers e listed
      rw [silent plan covers] at listed
      cases listed
  | cons s others =>
    have agree : Agree base template (rateOf base s) (s :: others) := by
      intro q stored own _ tagged t member
      rw [rateOf_stored stored, alike q stored own tagged s List.mem_cons_self t member]
    have events : ∀ plan, Covers cfg base template.id (s :: others) plan → (eventsAfter cfg base template plan).Perm
        ((s :: others).flatMap (sheetEvents cfg base template (rateOf base s))) :=
      fun plan covers => produced_of_covers cfg ground fits covers agree
    constructor
    · intro plan plan' covers covers'
      exact (events plan covers).trans (events plan' covers').symm
    · intro plan covers e listed q stored key
      obtain ⟨t, member, made⟩ := List.mem_flatMap.mp ((events plan covers).mem_iff.mp listed)
      obtain ⟨p, storedP, own, keyP, _, tagged, rate⟩ := mem_sheetEvents cfg (fits t member) made
      have same : p = q := base.questions.key_inj storedP stored (keyP.trans key.symm)
      rw [same] at own tagged rate
      rw [rate, rateOf_stored stored]
      congr 1
      symm
      apply roundTo_mean
      · simp
      · intro v reached
        obtain ⟨u, among, rfl⟩ := List.mem_map.mp reached
        exact alike q stored own tagged u among s List.mem_cons_self

theorem alike_of_orderFree [IsStrictOrderedRing K] (ground : Ground base template)
    (fits : ∀ s ∈ sheets, Fit base template s)
    (positive : ∀ q ∈ base.questions.rows, q.examTemplateId = template.id → 0 < q.fullScore)
    (free : OrderFree cfg base template sheets) : Alike base template sheets := by
  intro q stored own tagged
  have first : ∀ s ∈ sheets, roundTo 4 (scoreRate q s) = roundTo 4 (mean (sheets.map (scoreRate q))) := by
    intro s member
    obtain ⟨plan, covers, alone⟩ := committed_first cfg ground fits member
    obtain ⟨e, listed, question, rate⟩ := alone q stored own (positive q stored own) tagged
    rw [free.whole plan covers e listed q stored question.symm] at rate
    exact (Option.some.inj rate).symm
  intro s left t right
  rw [first s left, first t right]

/-- The evidence of an exam that passes the preflight does not depend on how it is committed exactly when, on each
    question that counts, no pupil differs from another. -/
theorem orderFree_iff_alike [IsStrictOrderedRing K] (confidence : Nat → K) (ground : Ground base template)
    (passes : blockingIssues confidence (entered base template.id sheets) template = []) :
    OrderFree cfg base template sheets ↔ Alike base template sheets := by
  obtain ⟨fits, positive⟩ := fit_of_preflight ground passes
  exact ⟨alike_of_orderFree cfg ground fits positive, orderFree_of_alike cfg ground fits⟩

end

def quizExam : ExamTemplate := ⟨5, 1, 0, .unit, .other "upload"⟩

/-- An exam of one question, on one knowledge point, and a class of two pupils. -/
def quizBase : Db ℚ :=
  { Db.empty ℚ with
    students := .ofList [⟨1, 1, "甲"⟩, ⟨2, 1, "乙"⟩]
    templates := .ofList [quizExam]
    questions := .ofList [⟨1, 5, 1, "计算", .other "解答", 10, .apply, 1 / 2, none⟩]
    questionKps := .ofList [⟨1, 1, 9, 1⟩] }

def quizSheet (studentId : Nat) (score : ℚ) : Sheet ℚ := ⟨studentId, score, [⟨1, score, false⟩]⟩

theorem quiz_ground : Ground quizBase quizExam where
  known := by decide +kernel
  unused := by
    intro r stored
    cases (show r ∈ [] from stored)
  refs := by
    constructor
    · intro a stored
      cases (show a ∈ [] from stored)
    · intro ev stored
      cases (show ev ∈ [] from stored)

theorem quiz_orderFree_iff :
    (Ground quizBase quizExam ∧ blockingIssues (fun _ => (1 : ℚ))
      (entered quizBase quizExam.id [quizSheet 1 8, quizSheet 2 8]) quizExam = []) ∧
    (OrderFree Config.rational quizBase quizExam [quizSheet 1 8, quizSheet 2 8] ↔
      Alike quizBase quizExam [quizSheet 1 8, quizSheet 2 8]) ∧
    OrderFree Config.rational quizBase quizExam [quizSheet 1 8, quizSheet 2 8] := by
  have passes : blockingIssues (fun _ => (1 : ℚ)) (entered quizBase quizExam.id [quizSheet 1 8, quizSheet 2 8]) quizExam =
      [] := by decide +kernel
  have alike : Alike quizBase quizExam [quizSheet 1 8, quizSheet 2 8] := by
    intro q _ _ _
    simp [quizSheet, scoreRate]
  have settled := orderFree_iff_alike Config.rational (fun _ => (1 : ℚ)) quiz_ground passes
  exact ⟨⟨quiz_ground, passes⟩, settled, settled.mpr alike⟩

/-- Two sheets, and one commit that takes them in the order given. -/
def quizPlan (order : List Nat) : List (Desk ℚ) := [.enter (quizSheet 1 8), .enter (quizSheet 2 4), .commit order]

theorem quizPlan_covers (order : List Nat)
    (ordered : order.Perm ((responsesOf (entered quizBase 5 [quizSheet 1 8, quizSheet 2 4]) 5).map ExamResponse.id)) :
    Covers Config.rational quizBase 5 [quizSheet 1 8, quizSheet 2 4] (quizPlan order) where
  entered := List.Perm.refl _
  ordered := ⟨trivial, trivial, ordered, trivial⟩
  closed := ⟨[.enter (quizSheet 1 8), .enter (quizSheet 2 4)], order, rfl⟩

/-- The pupil who is committed first is compared with himself, the second with both. -/
theorem commit_order_matters :
    Ground quizBase quizExam ∧
    blockingIssues (fun _ => (1 : ℚ)) (entered quizBase quizExam.id [quizSheet 1 8, quizSheet 2 4]) quizExam = [] ∧
    (eventsAfter Config.rational quizBase quizExam (quizPlan [1, 2])).map (fun e => (e.studentId, e.classAvgRate)) =
      [(1, some (8 / 10)), (2, some (6 / 10))] ∧
    (eventsAfter Config.rational quizBase quizExam (quizPlan [2, 1])).map (fun e => (e.studentId, e.classAvgRate)) =
      [(2, some (4 / 10)), (1, some (6 / 10))] ∧
    ¬ OrderFree Config.rational quizBase quizExam [quizSheet 1 8, quizSheet 2 4] := by
  have forward : (eventsAfter Config.rational quizBase quizExam (quizPlan [1, 2])).map
      (fun e => (e.studentId, e.classAvgRate)) = [(1, some (8 / 10)), (2, some (6 / 10))] := by decide +kernel
  have backward : (eventsAfter Config.rational quizBase quizExam (quizPlan [2, 1])).map
      (fun e => (e.studentId, e.classAvgRate)) = [(2, some (4 / 10)), (1, some (6 / 10))] := by decide +kernel
  refine ⟨quiz_ground, by decide +kernel, forward, backward, ?_⟩
  intro free
  have same := (free.same _ _ (quizPlan_covers [1, 2] (by decide +kernel))
    (quizPlan_covers [2, 1] (by decide +kernel))).map (fun e => (e.studentId, e.classAvgRate))
  rw [forward, backward] at same
  revert same
  decide +kernel

end KnowledgeGap.Ingestion
