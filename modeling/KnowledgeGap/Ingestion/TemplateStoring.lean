import KnowledgeGap.Ingestion.TemplateNumbers

namespace KnowledgeGap.Ingestion.Template

open Relational

variable {K : Type}

/-- What `uq_q_kp` keeps apart. -/
def Tag.pair (t : Tag K) : Nat × Nat := (t.templateQuestionId, t.kpId)

theorem insertAll_cons {ρ ι : Type} [Keyed ρ] (t : Table ρ) (mk : ι → Nat → ρ) (keyed : ∀ i n, Keyed.key (mk i n) = n) (x : ι)
    (items : List ι) : (t.insert (mk x) (keyed x)).insertAll mk keyed items = t.insertAll mk keyed (x :: items) := by
  apply Table.ext
  · rw [Table.rows_insertAll, Table.rows_insertAll, Table.rows_insert, Table.nextId_insert, List.mapIdx_cons, List.append_assoc,
      List.singleton_append, Nat.add_zero]
    congr 3
    funext n i
    rw [Nat.add_assoc, Nat.add_comm 1 n]
  · rw [Table.nextId_insertAll, Table.nextId_insertAll, Table.nextId_insert, List.length_cons]
    omega

theorem flushTags_ok_iff {pending : List (Tag K)} {tags after : Table (StoredTag K)} :
    flushTags pending tags = .ok after ↔ (pending.map Tag.pair).Nodup ∧
      (∀ t ∈ pending, ∀ s ∈ tags.rows, s.tag.pair ≠ t.pair) ∧ after = tags.insertAll storedTag key_storedTag pending := by
  induction pending generalizing tags with
  | nil =>
    have nothing : tags.insertAll storedTag key_storedTag [] = tags := by
      apply Table.ext <;> simp
    simp [flushTags, nothing, eq_comm]
  | cons t rest ih =>
    have clash : (tags.rows.any (fun s => s.tag.templateQuestionId == t.templateQuestionId && s.tag.kpId == t.kpId)) = true ↔
        ∃ s ∈ tags.rows, s.tag.pair = t.pair := by
      simp [Tag.pair]
    unfold flushTags
    by_cases met : ∃ s ∈ tags.rows, s.tag.pair = t.pair
    · rw [if_pos (clash.mpr met)]
      obtain ⟨s, stored, same⟩ := met
      simp only [reduceCtorEq, false_iff, not_and]
      intro _ apart
      exact absurd same (apart t List.mem_cons_self s stored)
    · rw [if_neg (fun hit => met (clash.mp hit)), ih, insertAll_cons tags storedTag key_storedTag, List.map_cons, List.nodup_cons,
        List.forall_mem_cons]
      have fresh : ∀ s ∈ tags.rows, s.tag.pair ≠ t.pair := fun s stored same => met ⟨s, stored, same⟩
      simp only [Table.rows_insert, List.forall_mem_append, List.forall_mem_singleton, storedTag, List.mem_map, not_exists, not_and]
      constructor
      · intro given
        obtain ⟨distinct, apart, same⟩ := given
        exact ⟨⟨fun u listed alike => (apart u listed).2 alike.symm, distinct⟩, ⟨fresh, fun u listed => (apart u listed).1⟩, same⟩
      · intro given
        obtain ⟨⟨single, distinct⟩, ⟨_, apart⟩, same⟩ := given
        exact ⟨distinct, fun u listed => ⟨apart u listed, fun alike => single u listed alike.symm⟩, same⟩

theorem flushTags_append {first second : List (Tag K)} {tags after : Table (StoredTag K)} :
    flushTags (first ++ second) tags = .ok after ↔ ∃ middle, flushTags first tags = .ok middle ∧ flushTags second middle = .ok after := by
  induction first generalizing tags with
  | nil => simp [flushTags]
  | cons t first ih =>
    simp only [List.cons_append, flushTags]
    split
    · simp
    · exact ih

/-- The columns can hold the question. -/
structure Storable (q : Question K) : Prop where
  idx : storable q.idx = true
  nOptions : q.nOptions.all storable = true
  fullScore : q.fullScore ≠ .nan

theorem addQuestion_ok_iff {questions after : Table (StoredQuestion K)} {q : Question K} :
    addQuestion questions q = .ok after ↔ Storable q ∧
      (∀ s ∈ questions.rows, s.question.examTemplateId = q.examTemplateId → s.question.idx ≠ q.idx) ∧
      after = questions.insert (storedQuestion q) (key_storedQuestion q) := by
  have clash : questions.rows.any (fun s => s.question.examTemplateId == q.examTemplateId && s.question.idx == q.idx) = false ↔
      ∀ s ∈ questions.rows, s.question.examTemplateId = q.examTemplateId → s.question.idx ≠ q.idx := by
    simp
  rw [← clash]
  unfold addQuestion
  constructor
  · intro done
    split at done
    · cases done
    · rename_i fits
      rw [not_or, Bool.not_eq_false, Bool.not_eq_false] at fits
      split at done
      · cases done
      · rename_i number
        split at done
        · cases done
        · rename_i fresh
          cases done
          exact ⟨⟨fits.1, fits.2, number⟩, Bool.eq_false_of_not_eq_true fresh, rfl⟩
  · intro given
    obtain ⟨fits, fresh, rfl⟩ := given
    rw [if_neg (by simp [fits.idx, fits.nOptions])]
    split
    · rename_i number
      exact absurd number fits.fullScore
    · rw [if_neg (by simp [fresh])]

/-- The questions of one exam go into the table one by one. -/
def addAll : List (Question K) → Table (StoredQuestion K) → Except TemplateError (Table (StoredQuestion K))
  | [], questions => .ok questions
  | q :: rest, questions =>
    match addQuestion questions q with
    | .error e => .error e
    | .ok questions => addAll rest questions

theorem addAll_ok_iff {examId : Nat} {added : List (Question K)} (one : ∀ q ∈ added, q.examTemplateId = examId)
    {questions after : Table (StoredQuestion K)} :
    addAll added questions = .ok after ↔ (∀ q ∈ added, Storable q) ∧ (added.map Question.idx).Nodup ∧
      (∀ q ∈ added, ∀ s ∈ questions.rows, s.question.examTemplateId = examId → s.question.idx ≠ q.idx) ∧
      after = questions.insertAll storedQuestion key_storedQuestion added := by
  induction added generalizing questions with
  | nil =>
    have nothing : questions.insertAll storedQuestion key_storedQuestion [] = questions := by
      apply Table.ext <;> simp
    simp [addAll, nothing, eq_comm]
  | cons q rest ih =>
    obtain ⟨own, others⟩ := List.forall_mem_cons.mp one
    unfold addAll
    cases done : addQuestion questions q with
    | error e =>
      simp only [reduceCtorEq, List.forall_mem_cons, false_iff, not_and]
      intro fits _ apart
      have ok := addQuestion_ok_iff.mpr ⟨fits.1, fun s stored => own ▸ apart.1 s stored, rfl⟩
      rw [done] at ok
      cases ok
    | ok middle =>
      obtain ⟨fits, fresh, rfl⟩ := addQuestion_ok_iff.mp done
      dsimp only
      rw [ih others, insertAll_cons questions storedQuestion key_storedQuestion, List.map_cons, List.nodup_cons]
      simp only [Table.rows_insert, List.forall_mem_append, List.forall_mem_singleton, storedQuestion, List.mem_map, not_exists,
        not_and, List.forall_mem_cons]
      constructor
      · intro given
        obtain ⟨all, distinct, apart, same⟩ := given
        exact ⟨⟨fits, all⟩, ⟨fun p listed alike => (apart p listed).2 own alike.symm, distinct⟩,
          ⟨fun s stored => own ▸ fresh s stored, fun p listed => (apart p listed).1⟩, same⟩
      · intro given
        obtain ⟨⟨_, all⟩, ⟨single, distinct⟩, ⟨_, apart⟩, same⟩ := given
        exact ⟨all, distinct, fun p listed => ⟨apart p listed, fun _ alike => single p listed alike.symm⟩, same⟩

def asObject : Json K → Option (Fields K)
  | .obj fields => some fields
  | _ => none

section
variable [Field K] [LinearOrder K]

/-- The tags of a question. -/
def tagList (q : Fields K) : List (Fields K) :=
  match tagItems (field q "kp_tags") with
  | .ok items => items.filterMap asObject
  | .error _ => []

/-- The tags of a question are a list of objects, or nothing at all. -/
def HasTagList (q : Fields K) : Prop := tagItems (field q "kp_tags") = .ok ((tagList q).map .obj)

variable (r : Language K) (kps : Dict String (KnowledgePoint K))

/-- Nothing in a question and its tags stops the reading of it. -/
structure AllReadable (q : Fields K) : Prop where
  question : Readable r q
  tags : ∀ tag ∈ tagList q, TagReadable r kps tag

/-- The remarks that only the last turn of the loop leaves. -/
def localRemarks (e : Fields K × Head K) : List String :=
  e.2.numberRemarks ++ codeRemarks r kps e.2.idx (tagList e.1) ++
    if (keptTags r kps (tagList e.1)).isEmpty then [untaggedRemark r e.2.idx] else []

def headTags (questionId : Nat) (e : Fields K × Head K) : List (Tag K) :=
  (keptTags r kps (tagList e.1)).map (fun k => ⟨questionId, k.1, k.2, e.2.confidence⟩)

def tagsFrom : Nat → List (Fields K × Head K) → List (Tag K)
  | _, [] => []
  | questionId, e :: rest => headTags r kps questionId e ++ tagsFrom (questionId + 1) rest

/-- The remarks of the latest turn, once the rest has been gone over. -/
def lastRemarks : List String → List (Fields K × Head K) → List String
  | last, [] => last
  | _, e :: rest => lastRemarks (localRemarks r kps e) rest

variable {r kps}

theorem turn_ok_iff {examId : Nat} {s after : Stage K} {fallbackIdx : Nat} {q : Fields K} (tagged : HasTagList q) :
    turn r kps examId s fallbackIdx (.obj q) = .ok after ↔
      AllReadable r kps q ∧ ∃ questions tags,
        addQuestion s.shelf.questions (headOf r examId s.seen fallbackIdx q).question = .ok questions ∧
        flushTags s.shelf.pending s.shelf.tags = .ok tags ∧
        after = {
          shelf := ⟨questions, tags, headTags r kps s.shelf.questions.nextId (q, headOf r examId s.seen fallbackIdx q)⟩
          seen := (headOf r examId s.seen fallbackIdx q).question.idx :: s.seen
          last := localRemarks r kps (q, headOf r examId s.seen fallbackIdx q)
          warnings := s.warnings ++ (headOf r examId s.seen fallbackIdx q).scoreRemarks
          questions := s.questions + 1 } := by
  unfold HasTagList at tagged
  constructor
  · intro done
    unfold turn at done
    dsimp only at done
    split at done
    · cases done
    · rename_i head read
      obtain ⟨readable, rfl⟩ := readQuestion_ok_iff.mp read
      split at done
      · cases done
      · rename_i shelf stored
        rw [tagged] at done
        dsimp only at done
        split at done
        · cases done
        · rename_i kept remarks listed
          obtain ⟨tags, rfl, rfl⟩ := readTags_ok_iff.mp listed
          cases done
          unfold store at stored
          split at stored
          · cases stored
          · rename_i questions added
            split at stored
            · cases stored
            · rename_i flushed here
              cases stored
              exact ⟨⟨readable, tags⟩, questions, flushed, added, here, rfl⟩
  · intro given
    obtain ⟨readable, questions, flushed, added, here, rfl⟩ := given
    have read : readQuestion r examId s.seen fallbackIdx q = .ok _ := readQuestion_ok_iff.mpr ⟨readable.question, rfl⟩
    have listed : readTags r kps (headOf r examId s.seen fallbackIdx q).idx ((tagList q).map .obj) = .ok (_, _) :=
      readTags_ok_iff.mpr ⟨readable.tags, rfl, rfl⟩
    have stored : store s.shelf (headOf r examId s.seen fallbackIdx q).question = .ok ⟨questions, flushed, []⟩ := by
      unfold store
      rw [added]
      dsimp only
      rw [here]
    unfold turn
    dsimp only
    rw [read]
    dsimp only
    rw [stored]
    dsimp only
    rw [tagged]
    dsimp only
    rw [listed]
    rfl

/-- What is left once the tags of the last question are stored. -/
structure Outcome (s : Stage K) (questions : Table (StoredQuestion K)) (tags : Table (StoredTag K))
    (warnings : List String) : Prop where
  questions : s.shelf.questions = questions
  tags : flushTags s.shelf.pending s.shelf.tags = .ok tags
  warnings : s.warnings ++ s.last = warnings

/-- The loop succeeds when every question can be read and all of them and their tags can be stored. -/
theorem turns_ok_iff {examId : Nat} {list : List (Fields K)} (tagged : ∀ q ∈ list, HasTagList q) {s : Stage K} {fallbackIdx : Nat}
    {questions : Table (StoredQuestion K)} {tags : Table (StoredTag K)} {warnings : List String} :
    (∃ after, turns r kps examId s fallbackIdx (list.map .obj) = .ok after ∧ Outcome after questions tags warnings) ↔
      (∀ q ∈ list, AllReadable r kps q) ∧
        addAll ((heads r examId s.seen fallbackIdx list).map Head.question) s.shelf.questions = .ok questions ∧
        flushTags (s.shelf.pending ++ tagsFrom r kps s.shelf.questions.nextId (list.zip (heads r examId s.seen fallbackIdx list)))
          s.shelf.tags = .ok tags ∧
        warnings = s.warnings ++ (heads r examId s.seen fallbackIdx list).flatMap Head.scoreRemarks ++
          lastRemarks r kps s.last (list.zip (heads r examId s.seen fallbackIdx list)) := by
  induction list generalizing s fallbackIdx with
  | nil =>
    constructor
    · intro done
      obtain ⟨after, done, outcome⟩ := done
      cases done
      exact ⟨by simp, by rw [← outcome.questions]; rfl, by simpa [tagsFrom, heads] using outcome.tags,
        by simpa [heads, lastRemarks] using outcome.warnings.symm⟩
    · intro given
      obtain ⟨_, added, flushed, rfl⟩ := given
      refine ⟨s, rfl, ⟨?_, by simpa [tagsFrom, heads] using flushed, by simp [heads, lastRemarks]⟩⟩
      simpa [heads, addAll] using added
  | cons q list ih =>
    obtain ⟨mine, others⟩ := List.forall_mem_cons.mp tagged
    let head := headOf r examId s.seen fallbackIdx q
    have unfolded : heads r examId s.seen fallbackIdx (q :: list) =
        head :: heads r examId (head.question.idx :: s.seen) (fallbackIdx + 1) list := rfl
    rw [List.forall_mem_cons, unfolded]
    simp only [List.map_cons, List.zip_cons_cons, tagsFrom, lastRemarks, List.flatMap_cons, turns]
    rw [flushTags_append]
    constructor
    · intro done
      obtain ⟨after, done, outcome⟩ := done
      split at done
      · cases done
      · rename_i middle here
        obtain ⟨readable, stored, flushed, added, tagged, rfl⟩ := (turn_ok_iff mine).mp here
        obtain ⟨all, rest, remaining, remarks⟩ := (ih others).mp ⟨after, done, outcome⟩
        have next : stored.nextId = s.shelf.questions.nextId + 1 := by rw [(addQuestion_ok_iff.mp added).2.2]; rfl
        dsimp only at rest remaining remarks
        rw [next] at remaining
        refine ⟨⟨readable, all⟩, ?_, ⟨flushed, tagged, remaining⟩, ?_⟩
        · unfold addAll
          rw [added]
          exact rest
        · rw [remarks, List.append_assoc s.warnings]
    · intro given
      obtain ⟨⟨readable, all⟩, rest, ⟨flushed, tagged, remaining⟩, remarks⟩ := given
      unfold addAll at rest
      split at rest
      · cases rest
      · rename_i stored added
        have next : stored.nextId = s.shelf.questions.nextId + 1 := by rw [(addQuestion_ok_iff.mp added).2.2]; rfl
        have here : turn r kps examId s fallbackIdx (.obj q) = .ok _ :=
          (turn_ok_iff mine).mpr ⟨readable, stored, flushed, added, tagged, rfl⟩
        rw [here]
        refine (ih others).mpr ⟨all, rest, ?_, ?_⟩
        · dsimp only
          rw [next]
          exact remaining
        · dsimp only
          rw [remarks, ← List.append_assoc s.warnings]

theorem questionId_headTags {questionId : Nat} {e : Fields K × Head K} {t : Tag K} (listed : t ∈ headTags r kps questionId e) :
    t.templateQuestionId = questionId := by
  obtain ⟨k, _, rfl⟩ := List.mem_map.mp listed
  rfl

theorem questionId_le_of_tagsFrom {questionId : Nat} {list : List (Fields K × Head K)} {t : Tag K}
    (listed : t ∈ tagsFrom r kps questionId list) : questionId ≤ t.templateQuestionId := by
  induction list generalizing questionId with
  | nil => simp [tagsFrom] at listed
  | cons e rest ih =>
    rcases List.mem_append.mp listed with own | later
    · exact (questionId_headTags own).ge
    · exact Nat.le_of_succ_le (ih later)

/-- Tags of different questions never meet. -/
theorem tagsFrom_nodup_iff {questionId : Nat} {list : List (Fields K × Head K)} :
    ((tagsFrom r kps questionId list).map Tag.pair).Nodup ↔
      ∀ e ∈ list, ((keptTags r kps (tagList e.1)).map Prod.fst).Nodup := by
  induction list generalizing questionId with
  | nil => simp [tagsFrom]
  | cons e rest ih =>
    have inj : Function.Injective (fun k : Nat => (questionId, k)) := fun a b same => (Prod.mk.inj same).2
    have own : ((headTags r kps questionId e).map Tag.pair).Nodup ↔ ((keptTags r kps (tagList e.1)).map Prod.fst).Nodup := by
      have pairs : (headTags r kps questionId e).map Tag.pair =
          ((keptTags r kps (tagList e.1)).map Prod.fst).map (fun k => (questionId, k)) := by
        simp [headTags, Tag.pair]
      rw [pairs, List.nodup_map_iff inj]
    have apart : ∀ a ∈ (headTags r kps questionId e).map Tag.pair, ∀ b ∈ (tagsFrom r kps (questionId + 1) rest).map Tag.pair,
        a ≠ b := by
      intro a first b second same
      obtain ⟨t, early, rfl⟩ := List.mem_map.mp first
      obtain ⟨u, late, rfl⟩ := List.mem_map.mp second
      have here := questionId_headTags early
      have above := questionId_le_of_tagsFrom late
      have equal : t.templateQuestionId = u.templateQuestionId := (Prod.mk.inj same).1
      omega
    have later : ((tagsFrom r kps (questionId + 1) rest).map Tag.pair).Nodup ↔ _ := ih
    rw [tagsFrom, List.map_append, List.nodup_append, own, later, List.forall_mem_cons]
    constructor
    · intro given
      exact ⟨given.1, given.2.1⟩
    · intro given
      exact ⟨given.1, given.2, apart⟩

/-- The tags of a question are found by its key. -/
theorem tagsFrom_filter {questionId : Nat} {list : List (Fields K × Head K)} {i : Nat} {e : Fields K × Head K}
    (here : list[i]? = some e) :
    (tagsFrom r kps questionId list).filter (fun t => t.templateQuestionId == questionId + i) =
      headTags r kps (questionId + i) e := by
  induction list generalizing questionId i with
  | nil => simp at here
  | cons first rest ih =>
    rw [tagsFrom, List.filter_append]
    cases i with
    | zero =>
      rw [List.getElem?_cons_zero, Option.some.injEq] at here
      have all : (headTags r kps questionId first).filter (fun t => t.templateQuestionId == questionId + 0) =
          headTags r kps questionId first := by
        rw [List.filter_eq_self]
        intro t listed
        simpa using questionId_headTags listed
      have none : (tagsFrom r kps (questionId + 1) rest).filter (fun t => t.templateQuestionId == questionId + 0) = [] := by
        rw [List.filter_eq_nil_iff]
        intro t listed same
        have above := questionId_le_of_tagsFrom listed
        have equal : t.templateQuestionId = questionId := by simpa using same
        omega
      rw [all, none, List.append_nil, here, Nat.add_zero]
    | succ i =>
      rw [List.getElem?_cons_succ] at here
      have none : (headTags r kps questionId first).filter (fun t => t.templateQuestionId == questionId + (i + 1)) = [] := by
        rw [List.filter_eq_nil_iff]
        intro t listed same
        have own := questionId_headTags listed
        have equal : t.templateQuestionId = questionId + (i + 1) := by simpa using same
        omega
      have place : questionId + (i + 1) = questionId + 1 + i := by omega
      rw [none, List.nil_append, place]
      exact ih here

theorem lastRemarks_append (last : List String) (list : List (Fields K × Head K)) (e : Fields K × Head K) :
    lastRemarks r kps last (list ++ [e]) = localRemarks r kps e := by
  induction list generalizing last with
  | nil => rfl
  | cons _ list ih => exact ih _

end

end KnowledgeGap.Ingestion.Template
