import KnowledgeGap.Diagnosis.Confirmation
import Mathlib.Data.Rat.Encodable
import Mathlib.Logic.Equiv.List
import Mathlib.Tactic.DeriveEncodable

namespace KnowledgeGap.Diagnosis

open Relational Ingestion

variable {K : Type}

theorem mem_candidates {papers : Papers K} {student : Student} {subject : String} {asOf : DateTime}
    {c : TemplateQuestion K × ExamTemplate} (listed : c ∈ candidates papers student subject asOf) :
    c.1 ∈ papers.db.questions.rows := by
  unfold candidates at listed
  have among := (perm_stableSort _ _).mem_iff.mp listed
  obtain ⟨q, stored, made⟩ := List.mem_filterMap.mp among
  obtain ⟨e, _, made⟩ := Option.bind_eq_some_iff.mp made
  split at made
  · cases made
    exact stored
  · cases made

section
variable [Field K] [LinearOrder K]

/-- What is asked of a question that is chosen. -/
structure Usable (papers : Papers K) (target : Nat) (used : List String) (q : TemplateQuestion K) : Prop where
  fresh : strip q.stem ∉ used
  tagged : ∃ tag, questionTags papers.db q.id = [tag] ∧ tag.kpId = target ∧ (papers.columns.reviewedAt tag.id).isSome

theorem usable_spec {papers : Papers K} {target : Nat} {levels : List CogLevel} {used : List String}
    {c : TemplateQuestion K × ExamTemplate} (fits : usable papers target levels used c = true) : Usable papers target used c.1 := by
  unfold usable at fits
  simp only [Bool.and_eq_true, Bool.not_eq_true', decide_eq_true_eq] at fits
  obtain ⟨⟨⟨⟨⟨_, fresh⟩, _⟩, _⟩, _⟩, tagged⟩ := fits
  refine ⟨by simpa using fresh, ?_⟩
  split at tagged
  · rename_i tag single
    simp only [Bool.and_eq_true, beq_iff_eq] at tagged
    exact ⟨tag, single, tagged.1.1.1, tagged.1.1.2⟩
  · cases tagged

/-- What holds of the slots once they are filled, with the stems that were used before. -/
structure Filled (papers : Papers K) (g : KpGraph K) (covered : List Nat) (used : List String) (selected : List (SlotView K)) :
    Prop where
  distinct : ((selected.filterMap SlotView.question).map (fun view => strip view.stem)).Nodup
  fresh : ∀ view ∈ selected.filterMap SlotView.question, strip view.stem ∉ used
  isolates : ∀ slot ∈ selected, ∀ view, slot.question = some view → Isolates papers slot.kpId view
  covered : ∀ slot ∈ selected, ∀ view, slot.question = some view →
    slot.kpId ∈ covered ∧ ∃ kp, g.kp? papers.db slot.kpId = some kp ∧ kp.archived = false

theorem selectSlots_filled {papers : Papers K} {g : KpGraph K} {covered : List Nat} {pool : List (TemplateQuestion K × ExamTemplate)}
    (stored : ∀ c ∈ pool, c.1 ∈ papers.db.questions.rows) {used : List String} {slots : List Slot} {selected : List (SlotView K)}
    (done : selectSlots papers g covered pool used slots = .ok selected) : Filled papers g covered used selected := by
  induction slots generalizing used selected with
  | nil =>
    cases done
    exact ⟨List.nodup_nil, by simp, by simp, by simp⟩
  | cons slot slots ih =>
    unfold selectSlots at done
    split at done
    · cases done
    · rename_i kp known
      dsimp only at done
      split at done
      · cases done
      · rename_i rest later
        cases done
        cases found : (if slot.kpId ∉ covered ∨ kp.archived = true then none
            else pool.find? (usable papers slot.kpId slot.levels used)) with
        | none =>
          rw [found] at later
          have filled := ih later
          refine ⟨by simpa using filled.distinct, by simpa using filled.fresh, ?_, ?_⟩
          · rw [List.forall_mem_cons]
            exact ⟨by simp, filled.isolates⟩
          · rw [List.forall_mem_cons]
            exact ⟨by simp, filled.covered⟩
        | some c =>
          rw [found] at later
          have filled := ih later
          split at found
          · cases found
          · rename_i open_
            rw [not_or, not_not, Bool.not_eq_true] at open_
            have fits := usable_spec (List.find?_some found)
            have among := stored c (List.mem_of_find?_eq_some found)
            have here : papers.db.questions.get? c.1.id = some c.1 := Table.get?_of_mem among
            refine ⟨?_, ?_, ?_, ?_⟩
            · simp only [List.filterMap_cons, Option.map_some, List.map_cons, List.nodup_cons]
              refine ⟨?_, filled.distinct⟩
              intro again
              obtain ⟨view, chosen, same⟩ := List.mem_map.mp again
              exact filled.fresh view chosen (same ▸ List.mem_cons_self)
            · simp only [List.filterMap_cons, Option.map_some, List.forall_mem_cons]
              exact ⟨fits.fresh, fun view chosen old => filled.fresh view chosen (List.mem_cons_of_mem _ old)⟩
            · rw [List.forall_mem_cons]
              refine ⟨?_, filled.isolates⟩
              intro view same
              cases same
              exact ⟨⟨c.1, here, rfl, rfl, rfl⟩, fits.tagged⟩
            · rw [List.forall_mem_cons]
              refine ⟨?_, filled.covered⟩
              intro view same
              exact ⟨open_.1, kp, known, open_.2⟩

end

theorem taught_of_covered {db : Db K} {classId target : Nat} {asOf : DateTime} (member : target ∈ coveredKpIds db classId (some asOf)) :
    ∃ p ∈ db.progress.rows, p.classId = classId ∧ p.kpId = target ∧ p.taughtAt ≤ dateOf asOf := by
  obtain ⟨p, listed, same⟩ := List.mem_map.mp member
  obtain ⟨stored, fits⟩ := List.mem_filter.mp listed
  simp only [Bool.and_eq_true, beq_iff_eq, decide_eq_true_eq] at fits
  exact ⟨p, stored, fits.1, same, fits.2⟩

theorem mem_answeredStems {db : Db K} {studentId : Nat} {r : ExamResponse K} (given : r ∈ db.responses.rows)
    (own : r.studentId = studentId) {a : ResponseAnswer K} (answered : a ∈ db.answers.rows) (of : a.examResponseId = r.id)
    {q : TemplateQuestion K} (stored : q ∈ db.questions.rows) (asked : q.id = a.templateQuestionId) :
    strip q.stem ∈ answeredStems db studentId := by
  refine List.mem_map.mpr ⟨q, List.mem_filter.mpr ⟨stored, ?_⟩, rfl⟩
  rw [List.any_eq_true]
  refine ⟨a, answered, ?_⟩
  have found : db.responses.get? a.examResponseId = some r := of ▸ Table.get?_of_mem given
  simp [asked, found, own]

section
variable [Field K] [LinearOrder K] [FloorRing K]

theorem blueprint_cases {digest : Preview K × List (Option (Content K)) → String} {cfg : Config K} {papers : Papers K}
    {g : KpGraph K} {kbVersion : KbVersion} {student : Student} {kpId : Nat} {mode : DiagnosticMode} {attributionId : Option Nat}
    {asOf : DateTime} {blueprint : Blueprint K}
    (done : diagnosticBlueprint digest cfg papers g kbVersion student kpId mode attributionId asOf = .ok blueprint) :
    Filled papers g (coveredKpIds papers.db student.classId (some asOf)) (answeredStems papers.db student.id) blueprint.preview.slots ∧
      blueprint.preview.ready = blueprint.preview.slots.all (fun slot => slot.question.isSome) ∧
      blueprint.previewToken = digest (blueprint.preview, blueprint.preview.slots.map (contentOf papers)) := by
  unfold diagnosticBlueprint at done
  dsimp only at done
  split at done
  · cases done
  · split at done
    · cases done
    · rename_i selected chosen
      split at done
      · cases done
      · cases done
        exact ⟨selectSlots_filled (fun _ listed => mem_candidates listed) chosen, rfl, rfl⟩

theorem blueprint_measures {digest : Preview K × List (Option (Content K)) → String} {cfg : Config K} {papers : Papers K}
    {g : KpGraph K} {kbVersion : KbVersion} {student : Student} {kpId : Nat} {mode : DiagnosticMode} {attributionId : Option Nat}
    {asOf : DateTime} {blueprint : Blueprint K}
    (done : diagnosticBlueprint digest cfg papers g kbVersion student kpId mode attributionId asOf = .ok blueprint) :
    Measures papers g student asOf blueprint.preview := by
  obtain ⟨filled, _, _⟩ := blueprint_cases done
  refine ⟨filled.distinct, ?_, filled.isolates, ?_⟩
  · intro view chosen r given own a answered of q stored asked same
    exact filled.fresh view chosen (same ▸ mem_answeredStems given own answered of stored asked)
  · intro slot listed view question
    obtain ⟨covered, current⟩ := filled.covered slot listed view question
    exact ⟨taught_of_covered covered, current⟩

end

/-- The rows behind a slot's content. -/
structure Behind (papers : Papers K) (slot : SlotView K) (c : Content K) (q : TemplateQuestion K) (tag : QuestionKp K) : Prop where
  asked : slot.question.bind (fun view => papers.db.questions.get? view.id) = some q
  tagged : (questionTags papers.db q.id).head? = some tag
  reviewed : papers.columns.reviewedAt tag.id = some c.reviewedAt
  same : c = ⟨q.id, q.stem, q.qType, q.fullScore, q.cogLevel, q.difficultyEst, q.nOptions, papers.columns.subItems q.id, tag.kpId,
    tag.weight, c.reviewedAt⟩

theorem contentOf_eq_some_iff {papers : Papers K} {slot : SlotView K} {c : Content K} :
    contentOf papers slot = some c ↔ ∃ q tag, Behind papers slot c q tag := by
  unfold contentOf
  constructor
  · intro made
    obtain ⟨view, question, made⟩ := Option.bind_eq_some_iff.mp made
    obtain ⟨q, stored, made⟩ := Option.bind_eq_some_iff.mp made
    obtain ⟨tag, first, made⟩ := Option.bind_eq_some_iff.mp made
    obtain ⟨reviewed, known, rfl⟩ := Option.map_eq_some_iff.mp made
    exact ⟨q, tag, by rw [question]; exact stored, first, known, rfl⟩
  · intro behind
    obtain ⟨q, tag, behind⟩ := behind
    obtain ⟨view, question, stored⟩ := Option.bind_eq_some_iff.mp behind.asked
    rw [question, Option.bind_some, stored, Option.bind_some, behind.tagged, Option.bind_some, behind.reviewed, Option.map_some,
      Option.some.injEq]
    exact behind.same.symm

/-- A filled slot has a content. -/
theorem contentOf_isSome {papers : Papers K} {slot : SlotView K} {view : QuestionView K} (question : slot.question = some view)
    (isolates : Isolates papers slot.kpId view) : (contentOf papers slot).isSome := by
  obtain ⟨q, stored, _⟩ := isolates.stored
  obtain ⟨tag, single, _, reviewed⟩ := isolates.tagged
  obtain ⟨day, known⟩ := Option.isSome_iff_exists.mp reviewed
  have own : q.id = view.id := Table.get?_key stored
  simp [contentOf, question, stored, own, single, known]

theorem questionTags_copyQuestion {papers : Papers K} {examId : Nat} {idx : Int} {original : TemplateQuestion K} {tag : QuestionKp K}
    {questionId : Nat} (old : questionId ≠ papers.db.questions.nextId) :
    questionTags (copyQuestion papers examId idx original tag).db questionId = questionTags papers.db questionId := by
  have other : ¬ (papers.db.questions.nextId = questionId) := fun same => old same.symm
  simp [questionTags, copyQuestion, Table.select, List.filter_append, copiedTag, other]

/-- What stands behind a slot stays there while other questions are copied. -/
theorem Behind.copyQuestion {papers : Papers K} {slot : SlotView K} {c : Content K} {q original : TemplateQuestion K}
    {tag other : QuestionKp K} (behind : Behind papers slot c q tag) (examId : Nat) (idx : Int) :
    Behind (copyQuestion papers examId idx original other) slot c q tag := by
  obtain ⟨view, question, stored⟩ := Option.bind_eq_some_iff.mp behind.asked
  have listed := Table.get?_mem stored
  have below : q.id < papers.db.questions.nextId := papers.db.questions.issued q listed
  have among := List.mem_of_head? behind.tagged
  have tagBelow : tag.id < papers.db.questionKps.nextId := papers.db.questionKps.issued tag (List.mem_filter.mp among).1
  refine ⟨?_, ?_, ?_, ?_⟩
  · have own : q.id = view.id := Table.get?_key stored
    have found : (Diagnosis.copyQuestion papers examId idx original other).db.questions.get? view.id = some q := by
      unfold Diagnosis.copyQuestion
      rw [Table.get?_insert, if_neg (by omega), stored]
    rw [question, Option.bind_some, found]
  · rw [questionTags_copyQuestion (by omega)]
    exact behind.tagged
  · show Function.update papers.columns.reviewedAt papers.db.questionKps.nextId none tag.id = _
    rw [Function.update_of_ne (by omega)]
    exact behind.reviewed
  · have subItems : (Diagnosis.copyQuestion papers examId idx original other).columns.subItems q.id = papers.columns.subItems q.id :=
      Function.update_of_ne (by omega) _ _
    rw [subItems]
    exact behind.same

/-- The copies of the contents, from the numbers on that are given. -/
structure Copies (before after : Papers K) (examId : Nat) (idx : Int) (contents : List (Content K)) : Prop where
  templates : after.db.templates = before.db.templates
  questions : after.db.questions.rows = before.db.questions.rows ++ contents.mapIdx (fun i c =>
    ⟨before.db.questions.nextId + i, examId, idx + i, c.stem, c.qType, c.fullScore, c.cogLevel, c.difficultyEst, c.nOptions⟩)
  tags : after.db.questionKps.rows = before.db.questionKps.rows ++ contents.mapIdx (fun i c =>
    ⟨before.db.questionKps.nextId + i, before.db.questions.nextId + i, c.kpId, c.weight⟩)
  kept : ∀ k < before.db.questions.nextId, after.columns.subItems k = before.columns.subItems k
  subItems : ∀ i c, contents[i]? = some c → after.columns.subItems (before.db.questions.nextId + i) = c.subItems

theorem copySlots_copies {examId : Nat} {slots : List (SlotView K)} {contents : List (Content K)} {papers after : Papers K} {idx : Int}
    (behind : List.Forall₂ (fun slot c => ∃ q tag, Behind papers slot c q tag) slots contents)
    (done : copySlots examId papers idx slots = .ok after) : Copies papers after examId idx contents := by
  induction slots generalizing contents papers idx with
  | nil =>
    cases behind
    cases done
    exact ⟨rfl, by simp, by simp, fun _ _ => rfl, by simp⟩
  | cons slot slots ih =>
    cases behind with
    | cons first rest =>
      rename_i c contents
      obtain ⟨q, tag, first⟩ := first
      unfold copySlots at done
      rw [first.asked] at done
      dsimp only at done
      split at done
      · cases done
      · rename_i tag' others listed
        have same : tag' = tag := by simpa [listed] using first.tagged
        subst same
        have later : List.Forall₂ (fun slot c => ∃ p t, Behind (copyQuestion papers examId idx q tag') slot c p t) slots contents :=
          rest.imp (fun slot c behind => by
            obtain ⟨p, t, behind⟩ := behind
            exact ⟨p, t, behind.copyQuestion examId idx⟩)
        have tail := ih later done
        have copy : copiedQuestion examId idx q papers.db.questions.nextId = ⟨papers.db.questions.nextId, examId, idx, c.stem, c.qType,
            c.fullScore, c.cogLevel, c.difficultyEst, c.nOptions⟩ := by
          rw [first.same]
          rfl
        have tagCopy : copiedTag papers.db.questions.nextId tag' papers.db.questionKps.nextId =
            ⟨papers.db.questionKps.nextId, papers.db.questions.nextId, c.kpId, c.weight⟩ := by
          rw [first.same]
          rfl
        have here : (copyQuestion papers examId idx q tag').columns.subItems papers.db.questions.nextId = c.subItems := by
          rw [first.same]
          exact Function.update_self _ _ _
        have next : (copyQuestion papers examId idx q tag').db.questions.nextId = papers.db.questions.nextId + 1 := rfl
        have nextTag : (copyQuestion papers examId idx q tag').db.questionKps.nextId = papers.db.questionKps.nextId + 1 := rfl
        refine ⟨tail.templates, ?_, ?_, ?_, ?_⟩
        · have rows : (copyQuestion papers examId idx q tag').db.questions.rows = papers.db.questions.rows ++
              [copiedQuestion examId idx q papers.db.questions.nextId] := rfl
          rw [tail.questions, next, rows, copy, List.mapIdx_cons, List.append_assoc, List.singleton_append, Nat.add_zero]
          congr 3
          · simp
          · funext i d
            rw [Nat.add_assoc, Nat.add_comm 1 i, Nat.cast_add, Nat.cast_one, add_assoc, add_comm 1 (i : Int)]
        · have rows : (copyQuestion papers examId idx q tag').db.questionKps.rows = papers.db.questionKps.rows ++
              [copiedTag papers.db.questions.nextId tag' papers.db.questionKps.nextId] := rfl
          rw [tail.tags, next, nextTag, rows, tagCopy, List.mapIdx_cons, List.append_assoc, List.singleton_append, Nat.add_zero,
            Nat.add_zero]
          congr 3
          funext i d
          rw [Nat.add_assoc, Nat.add_assoc, Nat.add_comm 1 i]
        · intro k below
          rw [tail.kept k (by omega)]
          exact Function.update_of_ne (by omega) _ _
        · intro i d listed
          cases i with
          | zero =>
            rw [List.getElem?_cons_zero, Option.some.injEq] at listed
            rw [Nat.add_zero, tail.kept _ (by omega), here, listed]
          | succ i =>
            have place : papers.db.questions.nextId + (i + 1) = papers.db.questions.nextId + 1 + i := by omega
            rw [place]
            exact tail.subItems i d listed

theorem map_some_filterMap {α β : Type} {f : α → Option β} {list : List α} (all : ∀ x ∈ list, (f x).isSome) :
    list.map f = (list.filterMap f).map some := by
  induction list with
  | nil => rfl
  | cons x list ih =>
    obtain ⟨here, rest⟩ := List.forall_mem_cons.mp all
    obtain ⟨y, same⟩ := Option.isSome_iff_exists.mp here
    rw [List.map_cons, List.filterMap_cons_some same, List.map_cons, ih rest, same]

theorem forall₂_of_map_eq {α β : Type} {f : α → Option β} {list : List α} {values : List β} (same : list.map f = values.map some) :
    List.Forall₂ (fun x y => f x = some y) list values := by
  induction list generalizing values with
  | nil =>
    cases values with
    | nil => exact .nil
    | cons _ _ => cases same
  | cons x list ih =>
    cases values with
    | nil => cases same
    | cons y values =>
      rw [List.map_cons, List.map_cons, List.cons.injEq] at same
      exact .cons same.1 (ih same.2)

/-- An exam that is created has the contents of the blueprint for its questions. -/
theorem createDiagnosticExam_copied {papers after : Papers K} {student : Student} {blueprint : Blueprint K} {questionIds : List Nat}
    {today examDate : Date} {previewToken : String} {exam : ExamTemplate} {contents : List (Content K)}
    (full : blueprint.preview.slots.map (contentOf papers) = contents.map some)
    (done : createDiagnosticExam papers student blueprint questionIds today examDate previewToken = .ok (after, exam)) :
    previewToken = blueprint.previewToken ∧ Copied papers after student exam contents := by
  unfold createDiagnosticExam at done
  dsimp only at done
  split at done
  · cases done
  · split at done
    · cases done
    · rename_i agreed
      rw [not_or, not_or, not_not, not_not] at agreed
      split at done
      · cases done
      · rename_i copied
        cases done
        refine ⟨agreed.2.2, ?_⟩
        have behind := (forall₂_of_map_eq full).imp (fun slot c made => contentOf_eq_some_iff.mp made)
        have copies := copySlots_copies (behind.imp (fun slot c given => by
          obtain ⟨q, tag, given⟩ := given
          exact ⟨q, tag, given.asked, given.tagged, given.reviewed, given.same⟩)) copied
        refine ⟨⟨rfl, rfl, rfl⟩, ?_, ?_, copies.tags, copies.subItems⟩
        · rw [copies.templates]
          rfl
        · rw [copies.questions]
          congr 2
          funext i c
          rw [add_comm (1 : Int) i]
          rfl

section
variable [Field K] [LinearOrder K] [FloorRing K]

/-- What a confirmation leaves, told by the preview the teacher has seen. -/
structure Agreed (seen now : Papers K) (shown made : Blueprint K) (after : Papers K) (student : Student) (exam : ExamTemplate) : Prop where
  filled : ∀ slot ∈ made.preview.slots, slot.question.isSome
  previews : made.preview = shown.preview
  contents : ∃ contents, shown.preview.slots.map (contentOf seen) = contents.map some ∧
    made.preview.slots.map (contentOf now) = contents.map some ∧ Copied now after student exam contents

theorem confirm_agreed {digest : Preview K × List (Option (Content K)) → String} (collisionFree : Function.Injective digest)
    {seen now after : Papers K} {shown made : Blueprint K} {cfg : Config K} {g : KpGraph K} {kbVersion : KbVersion} {student : Student}
    {req : Confirmation} {asOf : DateTime} {today : Date} {exam : ExamTemplate}
    (token : shown.previewToken = digest (shown.preview, shown.preview.slots.map (contentOf seen)))
    (same : req.previewToken = shown.previewToken)
    (done : confirm digest cfg now g kbVersion student req asOf today = .ok (made, after, exam)) :
    Agreed seen now shown made after student exam := by
  unfold confirm at done
  split at done
  · cases done
  · rename_i blueprint planned
    split at done
    · cases done
    · rename_i created
      cases done
      obtain ⟨filled, ready, sealed⟩ := blueprint_cases planned
      have all : ∀ slot ∈ made.preview.slots, slot.question.isSome := by
        unfold createDiagnosticExam at created
        dsimp only at created
        split at created
        · cases created
        · split at created
          · cases created
          · rename_i agreed
            rw [not_or, Bool.not_eq_false, ready, List.all_eq_true] at agreed
            exact agreed.1
      have made_ : ∀ slot ∈ made.preview.slots, (contentOf now slot).isSome := by
        intro slot listed
        obtain ⟨view, question⟩ := Option.isSome_iff_exists.mp (all slot listed)
        exact contentOf_isSome question (filled.isolates slot listed view question)
      have full := map_some_filterMap made_
      obtain ⟨agreed, copied⟩ := createDiagnosticExam_copied full created
      have documents : (shown.preview, shown.preview.slots.map (contentOf seen)) =
          (made.preview, made.preview.slots.map (contentOf now)) := by
        apply collisionFree
        rw [← token, ← sealed, ← agreed, same]
      rw [Prod.mk.injEq] at documents
      exact ⟨all, documents.1.symm, _, documents.2.trans full, full, copied⟩

/-- A diagnostic paper measures what it claims, and what is confirmed is what was previewed. -/
theorem diagnostic_papers (digest : Preview K × List (Option (Content K)) → String) (collisionFree : Function.Injective digest)
    (cfg : Config K) (seen : Papers K) (g : KpGraph K) (kbVersion : KbVersion) (student : Student) (kpId : Nat)
    (mode : DiagnosticMode) (attributionId : Option Nat) (asOf : DateTime) (shown : Blueprint K)
    (previewed : diagnosticBlueprint digest cfg seen g kbVersion student kpId mode attributionId asOf = .ok shown) :
    Measures seen g student asOf shown.preview ∧
      ∀ (cfg' : Config K) (now : Papers K) (g' : KpGraph K) (kbVersion' : KbVersion) (student' : Student) (req : Confirmation)
        (asOf' : DateTime) (today : Date) (made : Blueprint K) (after : Papers K) (exam : ExamTemplate),
        req.previewToken = shown.previewToken →
        confirm digest cfg' now g' kbVersion' student' req asOf' today = .ok (made, after, exam) →
        Agreed seen now shown made after student' exam := by
  refine ⟨blueprint_measures previewed, ?_⟩
  intro cfg' now g' kbVersion' student' req asOf' today made after exam same done
  exact confirm_agreed collisionFree (blueprint_cases previewed).2.2 same done

end

instance encodableChar : Encodable Char := Encodable.ofLeftInverse Char.toNat Char.ofNat Char.ofNat_toNat

instance encodableString : Encodable String := Encodable.ofLeftInverse String.toList String.ofList (fun _ => String.ofList_toList)

deriving instance Encodable for CogLevel, DiagnosticMode, QuestionType, QuestionView, SlotView, Preview, Content

def additionPoint : KnowledgePoint ℚ := ⟨7, 1, "A1", "加法", "", 7, 0, "", [], 0, ratio 6 10, .basic, false⟩

/-- One class, one student, one point that is taught, and one exam of two questions. -/
def smallPapers : Papers ℚ where
  db := { Db.empty ℚ with
    classes := .ofList [⟨1, 7⟩]
    students := .ofList [⟨1, 1, "甲"⟩]
    knowledgePoints := .ofList [additionPoint]
    progress := .ofList [⟨1, 1, 7, 0⟩]
    templates := .ofList [⟨1, 1, 0, .unit, .other "excel"⟩]
    questions := .ofList [⟨1, 1, 1, "1+1=?", .other "填空", 5, .understand, ratio 1 2, none⟩,
      ⟨2, 1, 2, "2+3=?", .other "填空", 5, .apply, ratio 1 2, none⟩]
    questionKps := .ofList [⟨1, 1, 7, 1⟩, ⟨2, 2, 7, 1⟩] }
  columns := ⟨fun _ => "数学", fun _ => some "数学", fun _ => "周测", fun _ => true, fun _ => none, fun _ => true, fun _ => some 0⟩

def smallGraph : KpGraph ℚ := .discrete [additionPoint] (by simp)

def smallPreview : Preview ℚ where
  studentId := 1
  kpId := 7
  kpName := "加法"
  subject := "数学"
  mode := .evidence
  attributionId := none
  slots := [⟨7, "加法", "理解检查", some ⟨1, "1+1=?", 5, .understand, 1, "周测", 1⟩⟩,
    ⟨7, "加法", "独立应用", some ⟨2, "2+3=?", 5, .apply, 1, "周测", 2⟩⟩]
  ready := true
  guidance := "补充独立作答后重新评估；题数达到门槛不保证足够判定。"
  limitation := limitation

def smallDocument : Preview ℚ × List (Option (Content ℚ)) :=
  (smallPreview, [some ⟨1, "1+1=?", .other "填空", 5, .understand, ratio 1 2, none, none, 7, 1, 0⟩,
    some ⟨2, "2+3=?", .other "填空", 5, .apply, ratio 1 2, none, none, 7, 1, 0⟩])

/-- The hash of this document, and a number of its own for every other. -/
def smallDigest (document : Preview ℚ × List (Option (Content ℚ))) : String :=
  if document = smallDocument then "61ab0e57d99c13df3066d27861ab4848c05bfc38e524a0109707edcfd38f8ab6"
  else "#" ++ toString (Encodable.encode document)

theorem smallDigest_injective : Function.Injective smallDigest := by
  have marked : ∀ n : Nat, "#" ++ toString n ≠ "61ab0e57d99c13df3066d27861ab4848c05bfc38e524a0109707edcfd38f8ab6" := by
    intro n same
    have first := congrArg (fun s : String => s.toList.head?) same
    simp [String.toList_append] at first
  intro left right same
  unfold smallDigest at same
  split at same
  · rename_i here
    split at same
    · rename_i there
      rw [here, there]
    · exact absurd same.symm (marked _)
  · split at same
    · exact absurd same (marked _)
    · have texts := congrArg String.toList same
      rw [String.toList_append, String.toList_append, List.append_cancel_left_eq] at texts
      exact Encodable.encode_injective (toString_injective (String.toList_injective texts))

def smallVersion : KbVersion := ⟨1, "数学", some 7, "人教版", "1", .active⟩

def smallToken : String := "61ab0e57d99c13df3066d27861ab4848c05bfc38e524a0109707edcfd38f8ab6"

def smallRequest : Confirmation := ⟨7, .evidence, none, [1, 2], 3, smallToken⟩

theorem small_blueprint : diagnosticBlueprint smallDigest .rational smallPapers smallGraph smallVersion ⟨1, 1, "甲"⟩ 7 .evidence none 0 =
    .ok ⟨smallPreview, smallToken⟩ := by
  decide +kernel

theorem diagnostic_papers_small :
    Measures smallPapers smallGraph ⟨1, 1, "甲"⟩ 0 smallPreview ∧
      ∃ made after exam, confirm smallDigest .rational smallPapers smallGraph smallVersion ⟨1, 1, "甲"⟩ smallRequest 0 0 =
          .ok (made, after, exam) ∧
        Agreed smallPapers smallPapers ⟨smallPreview, smallToken⟩ made after ⟨1, 1, "甲"⟩ exam := by
  obtain ⟨measures, confirmed⟩ := diagnostic_papers smallDigest smallDigest_injective .rational smallPapers smallGraph smallVersion
    ⟨1, 1, "甲"⟩ 7 .evidence none 0 ⟨smallPreview, smallToken⟩ small_blueprint
  refine ⟨measures, ?_⟩
  have created : (confirm smallDigest .rational smallPapers smallGraph smallVersion ⟨1, 1, "甲"⟩ smallRequest 0 0).toOption.isSome =
      true := by decide +kernel
  cases done : confirm smallDigest .rational smallPapers smallGraph smallVersion ⟨1, 1, "甲"⟩ smallRequest 0 0 with
  | error e =>
    rw [done] at created
    cases created
  | ok outcome =>
    obtain ⟨made, after, exam⟩ := outcome
    exact ⟨made, after, exam, rfl, confirmed .rational smallPapers smallGraph smallVersion ⟨1, 1, "甲"⟩ smallRequest 0 0 made after exam
      rfl done⟩

end KnowledgeGap.Diagnosis
