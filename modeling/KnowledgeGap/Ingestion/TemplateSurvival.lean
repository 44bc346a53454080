import KnowledgeGap.Ingestion.TemplateStoring

namespace KnowledgeGap.Ingestion.Template

open Relational

variable {K : Type}

/-- The questions a parse has added. -/
def newQuestions (db after : Desk K) : List (StoredQuestion K) := after.questions.rows.drop db.questions.rows.length

/-- The points a stored question is tagged with. -/
def pointsOf (db : Desk K) (s : StoredQuestion K) : List Nat :=
  (db.tags.select (fun t => t.tag.templateQuestionId == s.id)).map (fun t => t.tag.kpId)

section
variable [Field K] [LinearOrder K] (r : Language K) (kps : Dict String (KnowledgePoint K))

/-- All that a teacher must be told of a question that is stored under the number `idx`: one entry for a number that is not
    its own, for a score that is replaced, for each tag that is dropped, and for having none left. -/
def notices (position : Nat) (q : Fields K) (idx : Int) : List String :=
  let shown := if ownNumber q = some idx then field q "idx" else .int idx
  (if ownNumber q = some idx then [] else [numberRemark r q position]) ++
    (if scoreRefused r (field q "full_score") then [scoreRemark r shown (field q "full_score")] else []) ++
    codeRemarks r kps shown (tagList q) ++
    if (tagList q).all (fun tag => (tagPoint kps tag).isNone) then [untaggedRemark r shown] else []

/-- What a parse leaves of the questions it was given. -/
structure Survival (db after : Desk K) (questions : List (Fields K)) (result : PhotoParseResult) : Prop where
  old : db.questions.rows <+: after.questions.rows
  all : (newQuestions db after).length = questions.length
  distinct : ((newQuestions db after).map (fun s => s.question.idx)).Nodup
  scores : ∀ s ∈ newQuestions db after, ∃ x, s.question.fullScore = .fin x ∧ 0 < x
  once : ∀ s ∈ newQuestions db after, (pointsOf after s).Nodup
  closed : ∀ e ∈ questions.zip (newQuestions db after), ∀ kpId,
    kpId ∈ pointsOf after e.2 ↔ ∃ tag ∈ tagList e.1, ∃ kp, tagPoint kps tag = some kp ∧ kp.id = kpId
  told : ((questions.zip ((newQuestions db after).map (fun s => s.question.idx))).mapIdx
    (fun i e => notices r kps (i + 1) e.1 e.2)).flatten.Subperm result.warnings

/-- The parse completes and keeps all it can. -/
def Survives (db : Desk K) (questions : List (Fields K)) (outcome : Except TemplateError (Desk K × PhotoParseResult)) : Prop :=
  ∃ after result, outcome = .ok (after, result) ∧ Survival r kps db after questions result

/-- The questions the parse can cope with. -/
structure Tractable (questions : List (Fields K)) : Prop where
  readable : ∀ q ∈ questions, AllReadable r kps q
  numbers : ∀ (i : Nat) q, questions[i]? = some q → ∀ n, Numbered questions i q n → storable n = true
  options : ∀ q ∈ questions, (wholeNumber (field q "n_options")).all storable = true
  positions : FreePositions questions
  codes : ∀ q ∈ questions, (((tagList q).filterMap (tagPoint kps)).map KnowledgePoint.id).Nodup
  scores : ∀ q ∈ questions, toFloat r.number (field q "full_score") ≠ .ok .nan ∧ toFloat r.number (field q "full_score") ≠ .ok .posInf
  told : ∀ (i : Nat) q, questions[i]? = some q → i + 1 < questions.length →
    ¬ Renumbered questions i ∧ (∀ tag ∈ tagList q, (tagPoint kps tag).isSome) ∧ tagList q ≠ []

variable {r kps}

omit [Field K] [LinearOrder K] in
theorem Numbered.unique {questions : List (Fields K)} {i : Nat} {q : Fields K} {m n : Int} (first : Numbered questions i q m)
    (second : Numbered questions i q n) : m = n := by
  rcases first with ⟨moved, rfl⟩ | ⟨stays, own⟩
  · rcases second with ⟨_, rfl⟩ | ⟨stays, _⟩
    · rfl
    · exact absurd moved stays
  · rcases second with ⟨moved, _⟩ | ⟨_, same⟩
    · exact absurd moved stays
    · rw [own, Option.some.injEq] at same
      exact same

theorem keptTags_points (tags : List (Fields K)) :
    (keptTags r kps tags).map Prod.fst = (tags.filterMap (tagPoint kps)).map KnowledgePoint.id := by
  simp [keptTags, List.map_filterMap, Function.comp_def]

theorem mem_keptTags_iff {tags : List (Fields K)} {kpId : Nat} :
    kpId ∈ (keptTags r kps tags).map Prod.fst ↔ ∃ tag ∈ tags, ∃ kp, tagPoint kps tag = some kp ∧ kp.id = kpId := by
  rw [keptTags_points]
  simp only [List.mem_map, List.mem_filterMap]
  constructor
  · intro kept
    obtain ⟨kp, ⟨tag, listed, point⟩, same⟩ := kept
    exact ⟨tag, listed, kp, point, same⟩
  · intro kept
    obtain ⟨tag, listed, kp, point, same⟩ := kept
    exact ⟨kp, ⟨tag, listed, point⟩, same⟩

theorem keptTags_isEmpty (tags : List (Fields K)) :
    (keptTags r kps tags).isEmpty = tags.all (fun tag => (tagPoint kps tag).isNone) := by
  rw [Bool.eq_iff_iff, List.isEmpty_iff, List.all_eq_true]
  simp [keptTags, List.filterMap_eq_nil_iff]

variable (r) in
/-- The questions of one parse as they are read. -/
abbrev readings (examId : Nat) (questions : List (Fields K)) : List (Head K) := heads r examId [] 1 questions

theorem readings_at {examId : Nat} {questions : List (Fields K)} {i : Nat} {q : Fields K} {head : Head K}
    (here : questions[i]? = some q) (read : (readings r examId questions)[i]? = some head) :
    HeadAt r examId questions i q head := by
  have known : ∀ n, n ∈ ([] : List Int) ↔ Taken questions 0 n := by
    intro n
    simp [Taken]
  have place := heads_at (k := 0) (List.drop_zero) known i (by rw [Nat.zero_add]; exact here) read
  rw [Nat.zero_add] at place
  exact place

theorem HeadAt.fullScore {examId : Nat} {questions : List (Fields K)} {i : Nat} {q : Fields K} {head : Head K}
    (at_ : HeadAt r examId questions i q head) : head.question.fullScore = scoreOf r (field q "full_score") := by
  obtain ⟨seen, known, rfl⟩ := at_
  rfl

theorem HeadAt.nOptions {examId : Nat} {questions : List (Fields K)} {i : Nat} {q : Fields K} {head : Head K}
    (at_ : HeadAt r examId questions i q head) : head.question.nOptions = wholeNumber (field q "n_options") := by
  obtain ⟨seen, known, rfl⟩ := at_
  rfl

theorem HeadAt.scoreRemarks {examId : Nat} {questions : List (Fields K)} {i : Nat} {q : Fields K} {head : Head K}
    (at_ : HeadAt r examId questions i q head) :
    head.scoreRemarks =
      if scoreRefused r (field q "full_score") then [scoreRemark r head.idx (field q "full_score")] else [] := by
  obtain ⟨seen, known, rfl⟩ := at_
  rfl

theorem exists_question {examId : Nat} {questions : List (Fields K)} {i : Nat} {head : Head K}
    (read : (readings r examId questions)[i]? = some head) : ∃ q, questions[i]? = some q := by
  have length := length_heads (r := r) examId [] 1 questions
  have inside : i < questions.length := length ▸ (List.getElem?_eq_some_iff.mp read).1
  exact ⟨_, List.getElem?_eq_getElem inside⟩

theorem exists_reading (examId : Nat) {questions : List (Fields K)} {i : Nat} {q : Fields K} (here : questions[i]? = some q) :
    ∃ head, (readings r examId questions)[i]? = some head := by
  have length := length_heads (r := r) examId [] 1 questions
  have inside : i < (readings r examId questions).length := length ▸ (List.getElem?_eq_some_iff.mp here).1
  exact ⟨_, List.getElem?_eq_getElem inside⟩

theorem storable_iff {examId : Nat} {questions : List (Fields K)} :
    (∀ head ∈ readings r examId questions, Storable head.question) ↔
      (∀ (i : Nat) q, questions[i]? = some q → ∀ n, Numbered questions i q n → storable n = true) ∧
        (∀ q ∈ questions, (wholeNumber (field q "n_options")).all storable = true) ∧
        ∀ q ∈ questions, toFloat r.number (field q "full_score") ≠ .ok .nan := by
  constructor
  · intro fits
    have fit : ∀ (i : Nat) q, questions[i]? = some q → ∃ head, HeadAt r examId questions i q head ∧ Storable head.question := by
      intro i q here
      obtain ⟨head, read⟩ := exists_reading (r := r) examId here
      exact ⟨head, readings_at here read, fits head (List.mem_of_getElem? read)⟩
    refine ⟨?_, ?_, ?_⟩
    · intro i q here n numbered
      obtain ⟨head, at_, stored⟩ := fit i q here
      rw [numbered.unique (at_.numbered here)]
      exact stored.idx
    · intro q listed
      obtain ⟨i, here⟩ := List.mem_iff_getElem?.mp listed
      obtain ⟨head, at_, stored⟩ := fit i q here
      exact at_.nOptions ▸ stored.nOptions
    · intro q listed nan
      obtain ⟨i, here⟩ := List.mem_iff_getElem?.mp listed
      obtain ⟨head, at_, stored⟩ := fit i q here
      exact stored.fullScore (at_.fullScore.trans (scoreOf_nan.mpr nan))
  · intro given head listed
    obtain ⟨numbers, options, scores⟩ := given
    obtain ⟨i, read⟩ := List.mem_iff_getElem?.mp listed
    obtain ⟨q, here⟩ := exists_question read
    have at_ := readings_at here read
    have among := List.mem_of_getElem? here
    refine ⟨numbers i q here _ (at_.numbered here), at_.nOptions ▸ options q among, ?_⟩
    intro nan
    exact scores q among (scoreOf_nan.mp (at_.fullScore ▸ nan))

theorem distinct_iff {examId : Nat} {questions : List (Fields K)} :
    ((readings r examId questions).map (fun head => head.question.idx)).Nodup ↔ FreePositions questions := by
  apply numbers_nodup_iff
  · rw [List.length_map, length_heads]
  · intro i q n here number
    rw [List.getElem?_map, Option.map_eq_some_iff] at number
    obtain ⟨head, read, rfl⟩ := number
    exact (readings_at here read).numbered here

theorem positive_iff [IsStrictOrderedRing K] {examId : Nat} {questions : List (Fields K)} :
    (∀ head ∈ readings r examId questions, ∃ x, head.question.fullScore = .fin x ∧ 0 < x) ↔
      ∀ q ∈ questions, toFloat r.number (field q "full_score") ≠ .ok .nan ∧ toFloat r.number (field q "full_score") ≠ .ok .posInf := by
  constructor
  · intro positive q listed
    obtain ⟨i, here⟩ := List.mem_iff_getElem?.mp listed
    obtain ⟨head, read⟩ := exists_reading (r := r) examId here
    have own := positive head (List.mem_of_getElem? read)
    rw [(readings_at here read).fullScore] at own
    exact scoreOf_positive.mp own
  · intro scores head listed
    obtain ⟨i, read⟩ := List.mem_iff_getElem?.mp listed
    obtain ⟨q, here⟩ := exists_question read
    rw [(readings_at here read).fullScore]
    exact scoreOf_positive.mpr (scores q (List.mem_of_getElem? here))

theorem localRemarks_eq_nil {examId : Nat} {questions : List (Fields K)} {i : Nat} {q : Fields K} {head : Head K}
    (at_ : HeadAt r examId questions i q head) (here : questions[i]? = some q) :
    localRemarks r kps (q, head) = [] ↔
      ¬ Renumbered questions i ∧ (∀ tag ∈ tagList q, (tagPoint kps tag).isSome) ∧ tagList q ≠ [] := by
  have number : head.numberRemarks = [] ↔ ¬ Renumbered questions i := by
    rcases at_.remarks here with ⟨moved, remarked, _⟩ | ⟨stays, silent, _⟩
    · simp [moved, remarked]
    · simp [stays, silent]
  have codes : codeRemarks r kps head.idx (tagList q) = [] ↔ ∀ tag ∈ tagList q, (tagPoint kps tag).isSome := by
    simp [codeRemarks, List.filter_eq_nil_iff, Option.isSome_iff_ne_none]
  unfold localRemarks
  rw [List.append_eq_nil_iff, List.append_eq_nil_iff, number, codes, keptTags_isEmpty]
  constructor
  · intro silent
    obtain ⟨⟨stays, known⟩, tagged⟩ := silent
    refine ⟨stays, known, ?_⟩
    intro none
    rw [none] at tagged
    cases tagged
  · intro given
    obtain ⟨stays, known, tagged⟩ := given
    refine ⟨⟨stays, known⟩, ?_⟩
    obtain ⟨tag, listed⟩ := List.exists_mem_of_ne_nil _ tagged
    have some_kept : (tagList q).all (fun tag => (tagPoint kps tag).isNone) = false := by
      rw [List.all_eq_false]
      exact ⟨tag, listed, by simpa using Option.isSome_iff_ne_none.mp (known tag listed)⟩
    rw [some_kept]
    rfl

/-- Where the positions are free, what is due for a question is what its turn has remarked. -/
theorem notices_eq {examId : Nat} {questions : List (Fields K)} (free : FreePositions questions) {i : Nat} {q : Fields K}
    {head : Head K} (at_ : HeadAt r examId questions i q head) (here : questions[i]? = some q) :
    notices r kps (i + 1) q head.question.idx =
      head.numberRemarks ++ head.scoreRemarks ++ codeRemarks r kps head.idx (tagList q) ++
        if (keptTags r kps (tagList q)).isEmpty then [untaggedRemark r head.idx] else [] := by
  have numbered := at_.numbered here
  unfold notices
  rw [at_.scoreRemarks, keptTags_isEmpty]
  rcases at_.remarks here with ⟨moved, remarked, shown⟩ | ⟨stays, silent, shown⟩
  · have position : head.question.idx = (i : Int) + 1 := by
      rcases numbered with ⟨_, same⟩ | ⟨stays, _⟩
      · exact same
      · exact absurd moved stays
    have foreign : ownNumber q ≠ some head.question.idx := by
      intro own
      rw [position] at own
      rcases (renumbered_iff here).mp moved _ own with ⟨j, earlier, before, there, same⟩ | ⟨m, before, same, _⟩
      · exact free i moved j earlier before there same
      · omega
    have shown' : head.idx = .int head.question.idx := by
      rw [shown, position]
      push_cast
      rfl
    rw [if_neg foreign, if_neg foreign, remarked, shown']
  · have own : ownNumber q = some head.question.idx := by
      rcases numbered with ⟨moved, _⟩ | ⟨_, own⟩
      · exact absurd moved stays
      · exact own
    rw [if_pos own, if_pos own, silent, shown]

variable (r kps) in
/-- All the remarks of a turn. -/
def turnRemarks (e : Fields K × Head K) : List String :=
  e.2.numberRemarks ++ e.2.scoreRemarks ++ codeRemarks r kps e.2.idx (tagList e.1) ++
    if (keptTags r kps (tagList e.1)).isEmpty then [untaggedRemark r e.2.idx] else []

theorem turnRemarks_perm (e : Fields K × Head K) : (turnRemarks r kps e).Perm (e.2.scoreRemarks ++ localRemarks r kps e) := by
  unfold turnRemarks localRemarks
  rw [← List.append_assoc, ← List.append_assoc]
  exact (List.perm_append_comm.append_right _).append_right _

theorem turns_perm (list : List (Fields K × Head K)) :
    (list.flatMap (turnRemarks r kps)).Perm (list.flatMap (fun e => e.2.scoreRemarks) ++ list.flatMap (localRemarks r kps)) :=
  (List.Perm.flatMap_left list (fun e _ => turnRemarks_perm e)).trans (List.flatMap_append_perm list _ _).symm

/-- Nothing is missing exactly when no turn but the last had anything of its own to say. -/
theorem subperm_lastRemarks_iff (list : List (Fields K × Head K)) :
    (list.flatMap (turnRemarks r kps)).Subperm (list.flatMap (fun e => e.2.scoreRemarks) ++ lastRemarks r kps [] list) ↔
      ∀ e ∈ list.dropLast, localRemarks r kps e = [] := by
  have all : (list.flatMap (turnRemarks r kps)).Perm _ := turns_perm list
  induction list using List.reverseRecOn with
  | nil => simp [lastRemarks]
  | append_singleton list e _ =>
    rw [lastRemarks_append, List.dropLast_concat]
    rw [List.flatMap_append (f := localRemarks r kps)] at all
    constructor
    · intro told
      have shorter := told.length_le
      rw [all.length_eq] at shorter
      simp only [List.length_append, List.flatMap_singleton] at shorter
      have nothing : list.flatMap (localRemarks r kps) = [] := List.length_eq_zero_iff.mp (by omega)
      exact List.flatMap_eq_nil_iff.mp nothing
    · intro silent
      have nothing : list.flatMap (localRemarks r kps) = [] := List.flatMap_eq_nil_iff.mpr silent
      rw [nothing, List.nil_append, List.flatMap_singleton] at all
      exact all.subperm

theorem mem_dropLast_iff {α : Type} {list : List α} {x : α} :
    x ∈ list.dropLast ↔ ∃ i, i + 1 < list.length ∧ list[i]? = some x := by
  rw [List.mem_iff_getElem?]
  constructor
  · intro member
    obtain ⟨i, here⟩ := member
    have inside := (List.getElem?_eq_some_iff.mp here).1
    rw [List.length_dropLast] at inside
    rw [List.getElem?_dropLast, if_pos inside] at here
    exact ⟨i, by omega, here⟩
  · intro member
    obtain ⟨i, inside, here⟩ := member
    exact ⟨i, by rw [List.getElem?_dropLast, if_pos (by omega), here]⟩

theorem told_iff {examId : Nat} {questions : List (Fields K)} :
    (∀ e ∈ (questions.zip (readings r examId questions)).dropLast, localRemarks r kps e = []) ↔
      ∀ (i : Nat) q, questions[i]? = some q → i + 1 < questions.length →
        ¬ Renumbered questions i ∧ (∀ tag ∈ tagList q, (tagPoint kps tag).isSome) ∧ tagList q ≠ [] := by
  have length : (questions.zip (readings r examId questions)).length = questions.length := by
    rw [List.length_zip, length_heads, Nat.min_self]
  constructor
  · intro silent i q here inside
    obtain ⟨head, read⟩ := exists_reading (r := r) examId here
    rw [← localRemarks_eq_nil (readings_at here read) here]
    exact silent _ (mem_dropLast_iff.mpr ⟨i, length ▸ inside, List.getElem?_zip_eq_some.mpr ⟨here, read⟩⟩)
  · intro told e member
    obtain ⟨i, inside, both⟩ := mem_dropLast_iff.mp member
    obtain ⟨here, read⟩ := List.getElem?_zip_eq_some.mp both
    exact (localRemarks_eq_nil (readings_at here read) here).mpr (told i e.1 here (length ▸ inside))

theorem notices_flatten {examId : Nat} {questions : List (Fields K)} (free : FreePositions questions) :
    ((questions.zip ((readings r examId questions).map (fun head => head.question.idx))).mapIdx
      (fun i e => notices r kps (i + 1) e.1 e.2)).flatten =
      (questions.zip (readings r examId questions)).flatMap (turnRemarks r kps) := by
  rw [List.flatMap_def]
  congr 1
  apply List.ext_getElem?
  intro i
  rw [List.getElem?_mapIdx, List.getElem?_map, List.zip_map_right, List.getElem?_map]
  cases both : (questions.zip (readings r examId questions))[i]? with
  | none => rfl
  | some e =>
    obtain ⟨here, read⟩ := List.getElem?_zip_eq_some.mp both
    simp only [Option.map_some, Prod.map, id_eq]
    rw [notices_eq free (readings_at here read) here]
    rfl

/-- A parse of some questions completes when all of them can be read and stored. -/
theorem parse_ok_iff {payload : Fields K} {questions : List (Fields K)} (given : questions ≠ [])
    (listed : payload.lookup "questions" = some (.arr (questions.map .obj))) (tagged : ∀ q ∈ questions, HasTagList q)
    {db : Desk K} {kbVersionId classId : Nat} {name : String} {examDate : Date} {type : ExamType}
    {stored : Table (StoredQuestion K)} {tags : Table (StoredTag K)} {warnings : List String} :
    (∃ after result, parseTemplateFromPhoto r (.ok payload) db kbVersionId classId name examDate type = .ok (after, result) ∧
        after.questions = stored ∧ after.tags = tags ∧ result.warnings = warnings) ↔
      (∀ q ∈ questions, AllReadable r (kpRows db kbVersionId) q) ∧
        addAll ((readings r db.exams.nextId questions).map Head.question) db.questions = .ok stored ∧
        flushTags (tagsFrom r (kpRows db kbVersionId) db.questions.nextId (questions.zip (readings r db.exams.nextId questions)))
          db.tags = .ok tags ∧
        warnings = (readings r db.exams.nextId questions).flatMap Head.scoreRemarks ++
          lastRemarks r (kpRows db kbVersionId) [] (questions.zip (readings r db.exams.nextId questions)) := by
  have present : truthy (Json.arr (questions.map Json.obj) : Json K) = true := by
    cases questions with
    | nil => exact absurd rfl given
    | cons q questions => rfl
  let start : Stage K := ⟨⟨db.questions, db.tags, []⟩, [], [], [], 0⟩
  have loop : (∃ s, turns r (kpRows db kbVersionId) db.exams.nextId start 1 (questions.map .obj) = .ok s ∧
      Outcome s stored tags warnings) ↔ _ := turns_ok_iff tagged
  simp only [start, List.nil_append] at loop
  rw [← loop]
  unfold parseTemplateFromPhoto
  dsimp only
  rw [listed, Option.getD_some, if_neg (by simp [present])]
  dsimp only [questionItems]
  constructor
  · intro done
    obtain ⟨after, result, done, rfl, rfl, rfl⟩ := done
    split at done
    · cases done
    · rename_i s looped
      split at done
      · cases done
      · rename_i tags flushed
        cases done
        exact ⟨s, looped, rfl, flushed, rfl⟩
  · intro done
    obtain ⟨s, looped, outcome⟩ := done
    rw [looped]
    dsimp only
    rw [outcome.tags]
    exact ⟨_, _, rfl, outcome.questions, rfl, outcome.warnings⟩

omit [Field K] [LinearOrder K] in
theorem newQuestions_eq {db after : Desk K} {added : List (Question K)}
    (stored : after.questions = db.questions.insertAll storedQuestion key_storedQuestion added) :
    newQuestions db after = added.mapIdx (fun n q => storedQuestion q (db.questions.nextId + n)) := by
  rw [newQuestions, stored, Table.rows_insertAll, List.drop_left]

omit [Field K] [LinearOrder K] in
theorem map_newQuestions {β : Type} {db after : Desk K} {heads : List (Head K)} (f : Question K → β)
    (stored : after.questions = db.questions.insertAll storedQuestion key_storedQuestion (heads.map Head.question)) :
    (newQuestions db after).map (fun s => f s.question) = heads.map (fun head => f head.question) := by
  rw [newQuestions_eq stored]
  apply List.ext_getElem?
  intro i
  rw [List.getElem?_map, List.getElem?_mapIdx, List.getElem?_map, List.getElem?_map]
  cases heads[i]? with
  | none => rfl
  | some head => rfl

theorem pointsOf_eq {db after : Desk K} (linked : db.Linked) {list : List (Fields K × Head K)}
    (stored : after.tags = db.tags.insertAll storedTag key_storedTag (tagsFrom r kps db.questions.nextId list)) {i : Nat}
    {e : Fields K × Head K} (here : list[i]? = some e) {q : Question K} :
    pointsOf after ⟨db.questions.nextId + i, q⟩ = (keptTags r kps (tagList e.1)).map Prod.fst := by
  let own : Tag K → Bool := fun t => t.templateQuestionId == db.questions.nextId + i
  have tags : after.tags.rows.map StoredTag.tag = db.tags.rows.map StoredTag.tag ++ tagsFrom r kps db.questions.nextId list := by
    rw [stored, Table.rows_insertAll, List.map_append]
    congr 1
    apply List.ext_getElem
    · simp
    · simp [storedTag]
  have old : (db.tags.rows.map StoredTag.tag).filter own = [] := by
    rw [List.filter_eq_nil_iff]
    intro t listed same
    obtain ⟨s, among, rfl⟩ := List.mem_map.mp listed
    have below := linked.tags s among
    have equal : s.tag.templateQuestionId = db.questions.nextId + i := by simpa [own] using same
    omega
  have rows : (after.tags.select (fun t => own t.tag)).map StoredTag.tag = headTags r kps (db.questions.nextId + i) e := by
    have swap : (after.tags.rows.filter (own ∘ StoredTag.tag)).map StoredTag.tag = (after.tags.rows.map StoredTag.tag).filter own :=
      List.filter_map.symm
    rw [Table.select, ← tagsFrom_filter here]
    exact swap.trans (by rw [tags, List.filter_append, old, List.nil_append])
  calc pointsOf after ⟨db.questions.nextId + i, q⟩
      = ((after.tags.select (fun t => own t.tag)).map StoredTag.tag).map Tag.kpId := by
        rw [List.map_map]
        rfl
    _ = (keptTags r kps (tagList e.1)).map Prod.fst := by
        rw [rows, headTags, List.map_map]
        rfl

/-- Every new question with its reading, and the tags that were kept of it. -/
theorem newQuestions_at {db after : Desk K} (linked : db.Linked) {questions : List (Fields K)} {examId : Nat}
    (stored : after.questions = db.questions.insertAll storedQuestion key_storedQuestion
      ((readings r examId questions).map Head.question))
    (tagged : after.tags = db.tags.insertAll storedTag key_storedTag
      (tagsFrom r kps db.questions.nextId (questions.zip (readings r examId questions)))) {i : Nat} {s : StoredQuestion K}
    (here : (newQuestions db after)[i]? = some s) :
    ∃ q head, questions[i]? = some q ∧ (readings r examId questions)[i]? = some head ∧ s.question = head.question ∧
      pointsOf after s = (keptTags r kps (tagList q)).map Prod.fst := by
  rw [newQuestions_eq stored, List.getElem?_mapIdx, List.getElem?_map, Option.map_map, Option.map_eq_some_iff] at here
  obtain ⟨head, read, rfl⟩ := here
  obtain ⟨q, there⟩ := exists_question read
  have both : (questions.zip (readings r examId questions))[i]? = some (q, head) := List.getElem?_zip_eq_some.mpr ⟨there, read⟩
  exact ⟨q, head, there, read, rfl, pointsOf_eq linked tagged both⟩

/-- A parse that completes has stored questions and tags that the tables can hold. -/
theorem added_iff {db : Desk K} (linked : db.Linked) {questions : List (Fields K)} {stored : Table (StoredQuestion K)} :
    addAll ((readings r db.exams.nextId questions).map Head.question) db.questions = .ok stored ↔
      (∀ head ∈ readings r db.exams.nextId questions, Storable head.question) ∧ FreePositions questions ∧
        stored = db.questions.insertAll storedQuestion key_storedQuestion
          ((readings r db.exams.nextId questions).map Head.question) := by
  have one : ∀ q ∈ (readings r db.exams.nextId questions).map Head.question, q.examTemplateId = db.exams.nextId := by
    intro q listed
    obtain ⟨head, among, rfl⟩ := List.mem_map.mp listed
    obtain ⟨i, read⟩ := List.mem_iff_getElem?.mp among
    obtain ⟨p, here⟩ := exists_question read
    obtain ⟨seen, _, rfl⟩ := readings_at here read
    rfl
  have fresh : ∀ q ∈ (readings r db.exams.nextId questions).map Head.question, ∀ s ∈ db.questions.rows,
      s.question.examTemplateId = db.exams.nextId → s.question.idx ≠ q.idx := by
    intro q _ s listed same
    exact absurd same (Nat.ne_of_lt (linked.questions s listed))
  rw [addAll_ok_iff one, List.map_map]
  constructor
  · intro given
    obtain ⟨fits, distinct, _, same⟩ := given
    exact ⟨List.forall_mem_map.mp fits, distinct_iff.mp distinct, same⟩
  · intro given
    obtain ⟨fits, free, same⟩ := given
    exact ⟨List.forall_mem_map.mpr fits, distinct_iff.mpr free, fresh, same⟩

theorem tagged_iff {db : Desk K} (linked : db.Linked) {questions : List (Fields K)} {tags : Table (StoredTag K)} :
    flushTags (tagsFrom r kps db.questions.nextId (questions.zip (readings r db.exams.nextId questions))) db.tags = .ok tags ↔
      (∀ q ∈ questions, (((tagList q).filterMap (tagPoint kps)).map KnowledgePoint.id).Nodup) ∧
        tags = db.tags.insertAll storedTag key_storedTag
          (tagsFrom r kps db.questions.nextId (questions.zip (readings r db.exams.nextId questions))) := by
  have fresh : ∀ t ∈ tagsFrom r kps db.questions.nextId (questions.zip (readings r db.exams.nextId questions)),
      ∀ s ∈ db.tags.rows, s.tag.pair ≠ t.pair := by
    intro t listed s among same
    have below := linked.tags s among
    have above := questionId_le_of_tagsFrom listed
    have equal : s.tag.templateQuestionId = t.templateQuestionId := (Prod.mk.inj same).1
    omega
  have distinct : (∀ e ∈ questions.zip (readings r db.exams.nextId questions), ((keptTags r kps (tagList e.1)).map Prod.fst).Nodup) ↔
      ∀ q ∈ questions, (((tagList q).filterMap (tagPoint kps)).map KnowledgePoint.id).Nodup := by
    constructor
    · intro all q listed
      obtain ⟨i, here⟩ := List.mem_iff_getElem?.mp listed
      obtain ⟨head, read⟩ := exists_reading (r := r) db.exams.nextId here
      rw [← keptTags_points (r := r)]
      exact all (q, head) (List.mem_of_getElem? (List.getElem?_zip_eq_some.mpr ⟨here, read⟩))
    · intro all e listed
      rw [keptTags_points]
      exact all e.1 (List.of_mem_zip listed).1
  rw [flushTags_ok_iff, tagsFrom_nodup_iff, distinct]
  exact and_congr_right (fun _ => ⟨fun given => given.2, fun same => ⟨fresh, same⟩⟩)

/-- What is stored of questions that can be stored is as it should be, but for scores that are no number one can reach and
    remarks that the next turn forgets. -/
theorem survival_iff [IsStrictOrderedRing K] {db after : Desk K} (linked : db.Linked) {questions : List (Fields K)}
    {result : PhotoParseResult} (free : FreePositions questions)
    (codes : ∀ q ∈ questions, (((tagList q).filterMap (tagPoint kps)).map KnowledgePoint.id).Nodup)
    (stored : after.questions = db.questions.insertAll storedQuestion key_storedQuestion
      ((readings r db.exams.nextId questions).map Head.question))
    (tagged : after.tags = db.tags.insertAll storedTag key_storedTag
      (tagsFrom r kps db.questions.nextId (questions.zip (readings r db.exams.nextId questions))))
    (warned : result.warnings = (readings r db.exams.nextId questions).flatMap Head.scoreRemarks ++
      lastRemarks r kps [] (questions.zip (readings r db.exams.nextId questions))) :
    Survival r kps db after questions result ↔
      (∀ head ∈ readings r db.exams.nextId questions, ∃ x, head.question.fullScore = .fin x ∧ 0 < x) ∧
        ∀ e ∈ (questions.zip (readings r db.exams.nextId questions)).dropLast, localRemarks r kps e = [] := by
  have scores : (∀ s ∈ newQuestions db after, ∃ x, s.question.fullScore = .fin x ∧ 0 < x) ↔
      ∀ head ∈ readings r db.exams.nextId questions, ∃ x, head.question.fullScore = .fin x ∧ 0 < x := by
    have same := map_newQuestions Question.fullScore stored
    constructor
    · intro all head listed
      have member : head.question.fullScore ∈ (newQuestions db after).map (fun s => s.question.fullScore) :=
        same ▸ List.mem_map_of_mem listed
      obtain ⟨s, among, equal⟩ := List.mem_map.mp member
      exact equal ▸ all s among
    · intro all s listed
      have member : s.question.fullScore ∈ (readings r db.exams.nextId questions).map (fun head => head.question.fullScore) :=
        same ▸ List.mem_map_of_mem listed
      obtain ⟨head, among, equal⟩ := List.mem_map.mp member
      exact equal ▸ all head among
  have heads : (readings r db.exams.nextId questions).flatMap Head.scoreRemarks =
      (questions.zip (readings r db.exams.nextId questions)).flatMap (fun e => e.2.scoreRemarks) := by
    have second : (questions.zip (readings r db.exams.nextId questions)).map Prod.snd = readings r db.exams.nextId questions :=
      List.map_snd_zip (by rw [length_heads])
    conv_lhs => rw [← second]
    rw [List.flatMap_map]
  have told : ((questions.zip ((newQuestions db after).map (fun s => s.question.idx))).mapIdx
      (fun i e => notices r kps (i + 1) e.1 e.2)).flatten.Subperm result.warnings ↔
        ∀ e ∈ (questions.zip (readings r db.exams.nextId questions)).dropLast, localRemarks r kps e = [] := by
    rw [map_newQuestions Question.idx stored, notices_flatten free, warned, heads, subperm_lastRemarks_iff]
  constructor
  · intro survival
    exact ⟨scores.mp survival.scores, told.mp survival.told⟩
  · intro given
    refine ⟨?_, ?_, ?_, scores.mpr given.1, ?_, ?_, told.mpr given.2⟩
    · rw [stored, Table.rows_insertAll]
      exact List.prefix_append _ _
    · rw [newQuestions_eq stored, List.length_mapIdx, List.length_map, length_heads]
    · rw [map_newQuestions Question.idx stored]
      exact distinct_iff.mpr free
    · intro s listed
      obtain ⟨i, here⟩ := List.mem_iff_getElem?.mp listed
      obtain ⟨q, head, there, _, _, points⟩ := newQuestions_at linked stored tagged here
      rw [points, keptTags_points]
      exact codes q (List.mem_of_getElem? there)
    · intro e listed kpId
      obtain ⟨i, here⟩ := List.mem_iff_getElem?.mp listed
      obtain ⟨first, second⟩ := List.getElem?_zip_eq_some.mp here
      obtain ⟨q, head, there, _, _, points⟩ := newQuestions_at linked stored tagged second
      rw [first, Option.some.injEq] at there
      rw [points, ← there]
      exact mem_keptTags_iff

theorem survives_nil {db : Desk K} {payload : Fields K} (listed : payload.lookup "questions" = some (.arr []))
    {kbVersionId classId : Nat} {name : String} {examDate : Date} {type : ExamType} :
    Survives r kps db [] (parseTemplateFromPhoto r (.ok payload) db kbVersionId classId name examDate type) := by
  obtain ⟨after, result, done, same⟩ : ∃ after result,
      parseTemplateFromPhoto r (.ok payload) db kbVersionId classId name examDate type = .ok (after, result) ∧
        after.questions = db.questions := by
    unfold parseTemplateFromPhoto
    dsimp only
    have empty : truthy (Json.arr [] : Json K) = false := rfl
    rw [listed, Option.getD_some, if_pos empty]
    exact ⟨_, _, rfl, rfl⟩
  have nothing : newQuestions db after = [] := by
    rw [newQuestions, same, List.drop_length]
  refine ⟨after, result, done, ⟨same ▸ List.prefix_refl _, ?_, ?_, ?_, ?_, ?_, ?_⟩⟩ <;> simp [nothing]

/-- A parse survives what the model wrote exactly when the questions are tractable. -/
theorem survives_iff [IsStrictOrderedRing K] (r : Language K) (payload : Fields K) (questions : List (Fields K))
    (listed : payload.lookup "questions" = some (.arr (questions.map .obj))) (tagged : ∀ q ∈ questions, HasTagList q)
    (db : Desk K) (linked : db.Linked) (kbVersionId classId : Nat) (name : String) (examDate : Date) (type : ExamType) :
    Survives r (kpRows db kbVersionId) db questions
        (parseTemplateFromPhoto r (.ok payload) db kbVersionId classId name examDate type) ↔
      Tractable r (kpRows db kbVersionId) questions := by
  by_cases given : questions = []
  · subst given
    constructor
    · intro _
      refine ⟨by simp, by simp, by simp, ?_, by simp, by simp, by simp⟩
      intro i _ j q _ here
      simp at here
    · exact fun _ => survives_nil listed
  · constructor
    · intro survives
      obtain ⟨after, result, done, survival⟩ := survives
      obtain ⟨readable, added, flushed, warned⟩ := (parse_ok_iff given listed tagged).mp ⟨after, result, done, rfl, rfl, rfl⟩
      obtain ⟨fits, free, stored⟩ := (added_iff linked).mp added
      obtain ⟨codes, kept⟩ := (tagged_iff linked).mp flushed
      obtain ⟨numbers, options, _⟩ := storable_iff.mp fits
      obtain ⟨positive, told⟩ := (survival_iff linked free codes stored kept warned).mp survival
      exact ⟨readable, numbers, options, free, codes, positive_iff.mp positive, told_iff.mp told⟩
    · intro tractable
      have fits : ∀ head ∈ readings r db.exams.nextId questions, Storable head.question :=
        storable_iff.mpr ⟨tractable.numbers, tractable.options, fun q among => (tractable.scores q among).1⟩
      have added := (added_iff (r := r) linked).mpr ⟨fits, tractable.positions, rfl⟩
      have flushed := (tagged_iff (r := r) linked).mpr ⟨tractable.codes, rfl⟩
      obtain ⟨after, result, done, stored, kept, warned⟩ :=
        (parse_ok_iff given listed tagged).mpr ⟨tractable.readable, added, flushed, rfl⟩
      refine ⟨after, result, done, (survival_iff linked tractable.positions tractable.codes stored kept warned).mpr ?_⟩
      exact ⟨positive_iff.mpr tractable.scores, told_iff.mpr tractable.told⟩

end

def plainLanguage : Language ℚ where
  number _ := none
  str
    | .int n => toString n
    | .str s => s
    | _ => ""
  repr
    | .int n => toString n
    | .str s => "'" ++ s ++ "'"
    | _ => "None"

/-- A knowledge base of one point. -/
def onePoint : Desk ℚ where
  kbVersions := .ofList []
  points := .ofList [⟨7, 1, "A1", "加法", "", 3, 0, "", [], 0, 0, .basic, false⟩]
  jobs := .ofList []
  exams := .ofList []
  questions := .ofList []
  tags := .ofList []

def sheetQuestion (idx : Int) (codes : List String) : Fields ℚ :=
  [("idx", .int idx), ("q_type", .str "填空"), ("full_score", .int 5), ("cog_level", .str "应用"),
    ("kp_tags", .arr (codes.map (fun code => .obj [("code", .str code)])))]

def sheetPayload (questions : List (Fields ℚ)) : Fields ℚ := [("questions", .arr (questions.map .obj))]

def parseSheet (questions : List (Fields ℚ)) : Except TemplateError (Desk ℚ × PhotoParseResult) :=
  parseTemplateFromPhoto plainLanguage (.ok (sheetPayload questions)) onePoint 1 1 "周测" 738000 .unit

/-- The last question repeats the number of the first one and has no tag that is known. -/
def lastFlawed : List (Fields ℚ) := [sheetQuestion 1 ["A1"], sheetQuestion 1 ["B9"]]

theorem survives_lastFlawed : Survives plainLanguage (kpRows onePoint 1) onePoint lastFlawed (parseSheet lastFlawed) := by
  have linked : onePoint.Linked := ⟨by decide +kernel, by decide +kernel⟩
  have tagged : ∀ q ∈ lastFlawed, HasTagList q := by
    intro q listed
    rcases List.mem_pair.mp listed with rfl | rfl <;> rfl
  refine (survives_iff plainLanguage (sheetPayload lastFlawed) lastFlawed rfl tagged onePoint linked 1 1 "周测" 738000 .unit).mpr ?_
  have own : ∀ (i : Nat) q, lastFlawed[i]? = some q → i < 2 ∧ ownNumber q = some 1 := by
    intro i q here
    have inside : i < 2 := (List.getElem?_eq_some_iff.mp here).1
    have cases : i = 0 ∨ i = 1 := by omega
    rcases cases with rfl | rfl <;> cases here <;> exact ⟨inside, rfl⟩
  have first : ¬ Renumbered lastFlawed 0 := by
    intro moved
    cases moved with
    | illegal _ q here none =>
      rw [(own 0 q here).2] at none
      cases none
    | repeated _ j _ _ _ before _ _ _ _ => exact absurd before (Nat.not_lt_zero j)
    | taken _ m _ before _ _ _ => exact absurd before (Nat.not_lt_zero m)
  refine ⟨?_, ?_, ?_, ?_, ?_, ?_, ?_⟩
  · intro q listed
    rcases List.mem_pair.mp listed with rfl | rfl
    · refine ⟨⟨by unfold Convertible; decide +kernel, rfl, by unfold Convertible; decide +kernel, rfl⟩, ?_⟩
      intro tag among
      rw [List.mem_singleton.mp among]
      exact ⟨rfl, fun _ => by unfold Convertible; decide +kernel⟩
    · refine ⟨⟨by unfold Convertible; decide +kernel, rfl, by unfold Convertible; decide +kernel, rfl⟩, ?_⟩
      intro tag among
      rw [List.mem_singleton.mp among]
      exact ⟨rfl, fun _ => by unfold Convertible; decide +kernel⟩
  · intro i q here n numbered
    obtain ⟨inside, number⟩ := own i q here
    have small : n = 1 ∨ n = 2 := by
      rcases numbered with ⟨_, rfl⟩ | ⟨_, same⟩
      · omega
      · rw [number, Option.some.injEq] at same
        exact .inl same.symm
    rcases small with rfl | rfl <;> rfl
  · intro q listed
    rcases List.mem_pair.mp listed with rfl | rfl <;> rfl
  · intro i moved j q before there same
    obtain ⟨_, number⟩ := own j q there
    rw [number, Option.some.injEq] at same
    omega
  · intro q listed
    rcases List.mem_pair.mp listed with rfl | rfl <;> decide +kernel
  · intro q listed
    rcases List.mem_pair.mp listed with rfl | rfl <;> decide +kernel
  · intro i q here inside
    have zero : i = 0 := by
      have short : i + 1 < 2 := inside
      omega
    subst zero
    cases here
    refine ⟨first, ?_, List.cons_ne_nil _ _⟩
    intro tag among
    rw [List.mem_singleton.mp among]
    decide +kernel

theorem template_counterexample :
    ¬ Survives plainLanguage (kpRows onePoint 1) onePoint [sheetQuestion 2 ["A1"], sheetQuestion 0 ["A1"]]
        (parseSheet [sheetQuestion 2 ["A1"], sheetQuestion 0 ["A1"]]) ∧
      (parseSheet [sheetQuestion 2 ["A1"], sheetQuestion 0 ["A1"]]).map (fun o => o.2.warnings) = .error .integrity ∧
      (parseSheet [sheetQuestion 1 ["A1", "A1"]]).map (fun o => o.2.warnings) = .error .integrity ∧
      (parseSheet [sheetQuestion 1 [], sheetQuestion 2 ["A1"]]).map (fun o => o.2.warnings) = .ok [] := by
  have clash : (parseSheet [sheetQuestion 2 ["A1"], sheetQuestion 0 ["A1"]]).map (fun o => o.2.warnings) = .error .integrity := by
    decide +kernel
  refine ⟨?_, clash, by decide +kernel, by decide +kernel⟩
  intro survives
  obtain ⟨after, result, done, _⟩ := survives
  rw [done] at clash
  cases clash

end KnowledgeGap.Ingestion.Template
