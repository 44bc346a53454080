import KnowledgeGap.Ingestion.TemplateReading

namespace KnowledgeGap.Ingestion.Template

open Relational

variable {K : Type}

/-- The questions, counted from 0, that cannot keep their own number: it is none, an earlier question gives it too, or it is
    the position of an earlier question that cannot keep its own. -/
inductive Renumbered (questions : List (Fields K)) : Nat → Prop
  | illegal (i : Nat) (q : Fields K) (here : questions[i]? = some q) (none : ownNumber q = none) : Renumbered questions i
  | repeated (i j : Nat) (q earlier : Fields K) (n : Int) (before : j < i) (here : questions[i]? = some q)
      (own : ownNumber q = some n) (there : questions[j]? = some earlier) (same : ownNumber earlier = some n) :
      Renumbered questions i
  | taken (i m : Nat) (q : Fields K) (before : m < i) (here : questions[i]? = some q) (own : ownNumber q = some ((m : Int) + 1))
      (moved : Renumbered questions m) : Renumbered questions i

/-- The number is out of reach for the question at `k`. -/
def Taken (questions : List (Fields K)) (k : Nat) (n : Int) : Prop :=
  (∃ j q, j < k ∧ questions[j]? = some q ∧ ownNumber q = some n) ∨ ∃ m, m < k ∧ n = m + 1 ∧ Renumbered questions m

/-- A question keeps its own number or takes that of its position. -/
def Numbered (questions : List (Fields K)) (i : Nat) (q : Fields K) (n : Int) : Prop :=
  (Renumbered questions i ∧ n = i + 1) ∨ (¬ Renumbered questions i ∧ ownNumber q = some n)

theorem renumbered_iff {questions : List (Fields K)} {i : Nat} {q : Fields K} (here : questions[i]? = some q) :
    Renumbered questions i ↔ ∀ n, ownNumber q = some n → Taken questions i n := by
  constructor
  · intro moved n own
    cases moved with
    | illegal _ q' here' none =>
      rw [here, Option.some.injEq] at here'
      rw [← here', own] at none
      cases none
    | repeated _ j q' earlier n' before here' own' there same =>
      rw [here, Option.some.injEq] at here'
      rw [← here', own, Option.some.injEq] at own'
      exact .inl ⟨j, earlier, before, there, own' ▸ same⟩
    | taken _ m q' before here' own' moved =>
      rw [here, Option.some.injEq] at here'
      rw [← here', own, Option.some.injEq] at own'
      exact .inr ⟨m, before, own', moved⟩
  · intro known
    cases own : ownNumber q with
    | none => exact .illegal i q here own
    | some n =>
      rcases known n own with ⟨j, earlier, before, there, same⟩ | ⟨m, before, rfl, moved⟩
      · exact .repeated i j q earlier n before here own there same
      · exact .taken i m q before here own moved

theorem taken_succ {questions : List (Fields K)} {k : Nat} {q : Fields K} (here : questions[k]? = some q) {n : Int}
    (numbered : Numbered questions k q n) (m : Int) : Taken questions (k + 1) m ↔ m = n ∨ Taken questions k m := by
  constructor
  · intro taken
    rcases taken with ⟨j, earlier, before, there, own⟩ | ⟨j, before, rfl, moved⟩
    · rcases Nat.lt_succ_iff_lt_or_eq.mp before with below | rfl
      · exact .inr (.inl ⟨j, earlier, below, there, own⟩)
      · rw [here, Option.some.injEq] at there
        rw [← there] at own
        rcases numbered with ⟨moved, _⟩ | ⟨_, kept⟩
        · exact .inr ((renumbered_iff here).mp moved m own)
        · rw [kept, Option.some.injEq] at own
          exact .inl own.symm
    · rcases Nat.lt_succ_iff_lt_or_eq.mp before with below | rfl
      · exact .inr (.inr ⟨j, below, rfl, moved⟩)
      · rcases numbered with ⟨_, rfl⟩ | ⟨stays, _⟩
        · exact .inl rfl
        · exact absurd moved stays
  · intro known
    rcases known with rfl | taken
    · rcases numbered with ⟨moved, rfl⟩ | ⟨_, kept⟩
      · exact .inr ⟨k, Nat.lt_succ_self k, rfl, moved⟩
      · exact .inl ⟨k, q, Nat.lt_succ_self k, here, kept⟩
    · rcases taken with ⟨j, earlier, before, there, own⟩ | ⟨j, before, same, moved⟩
      · exact .inl ⟨j, earlier, Nat.lt_succ_of_lt before, there, own⟩
      · exact .inr ⟨j, Nat.lt_succ_of_lt before, same, moved⟩

/-- No question that has to be renumbered stands at a position that an earlier question has for its number. -/
def FreePositions (questions : List (Fields K)) : Prop :=
  ∀ i, Renumbered questions i → ∀ j q, j < i → questions[j]? = some q → ownNumber q ≠ some ((i : Int) + 1)

/-- The first question with a number keeps it, unless an earlier one has been moved there. -/
theorem exists_kept {questions : List (Fields K)} {i : Nat} (j : Nat) {q : Fields K} (before : j < i) (there : questions[j]? = some q)
    (own : ownNumber q = some ((i : Int) + 1)) :
    ∃ j' q', j' < i ∧ questions[j']? = some q' ∧ ownNumber q' = some ((i : Int) + 1) ∧ ¬ Renumbered questions j' := by
  induction j using Nat.strong_induction_on generalizing q with
  | _ j ih =>
    by_cases moved : Renumbered questions j
    · rcases (renumbered_iff there).mp moved _ own with ⟨j', earlier, below, first, same⟩ | ⟨m, below, same, _⟩
      · exact ih j' below (Nat.lt_trans below before) first same
      · have position : i = m := by omega
        omega
    · exact ⟨j, q, before, there, own, moved⟩

theorem numbers_nodup_iff {questions : List (Fields K)} {numbers : List Int} (length : numbers.length = questions.length)
    (numbered : ∀ i q n, questions[i]? = some q → numbers[i]? = some n → Numbered questions i q n) :
    numbers.Nodup ↔ FreePositions questions := by
  have number : ∀ (i : Nat) q, questions[i]? = some q → ∃ n, numbers[i]? = some n := by
    intro i q here
    have inside : i < numbers.length := length ▸ (List.getElem?_eq_some_iff.mp here).1
    exact ⟨numbers[i], List.getElem?_eq_getElem inside⟩
  have question : ∀ (i : Nat) n, numbers[i]? = some n → ∃ q, questions[i]? = some q := by
    intro i n here
    have inside : i < questions.length := length ▸ (List.getElem?_eq_some_iff.mp here).1
    exact ⟨questions[i], List.getElem?_eq_getElem inside⟩
  constructor
  · intro distinct i moved j q before there own
    obtain ⟨j', q', below, first, same, stays⟩ := exists_kept j before there own
    obtain ⟨p, here⟩ : ∃ p, questions[i]? = some p := by
      cases moved with
      | illegal _ p here _ => exact ⟨p, here⟩
      | repeated _ _ p _ _ _ here _ _ _ => exact ⟨p, here⟩
      | taken _ _ p _ here _ _ => exact ⟨p, here⟩
    obtain ⟨n, mine⟩ := number i p here
    obtain ⟨n', yours⟩ := number j' q' first
    have position : n = i + 1 := by
      rcases numbered i p n here mine with ⟨_, same⟩ | ⟨unmoved, _⟩
      · exact same
      · exact absurd moved unmoved
    have kept : n' = i + 1 := by
      rcases numbered j' q' n' first yours with ⟨gone, _⟩ | ⟨_, own'⟩
      · exact absurd gone stays
      · rw [same, Option.some.injEq] at own'
        exact own'.symm
    have inside := (List.getElem?_eq_some_iff.mp mine).1
    exact List.nodup_iff_getElem?_ne_getElem?.mp distinct j' i below inside (by rw [mine, yours, position, kept])
  · intro free
    rw [List.nodup_iff_getElem?_ne_getElem?]
    intro i j before inside clash
    obtain ⟨n, later⟩ : ∃ n, numbers[j]? = some n := ⟨numbers[j], List.getElem?_eq_getElem inside⟩
    have earlier : numbers[i]? = some n := clash.trans later
    obtain ⟨q, there⟩ := question i n earlier
    obtain ⟨p, here⟩ := question j n later
    rcases numbered i q n there earlier with ⟨moved, position⟩ | ⟨stays, own⟩
    · rcases numbered j p n here later with ⟨_, other⟩ | ⟨unmoved, own'⟩
      · omega
      · exact unmoved (.taken j i p before here (position ▸ own') moved)
    · rcases numbered j p n here later with ⟨moved, position⟩ | ⟨unmoved, own'⟩
      · exact free j moved i q before there (position ▸ own)
      · exact unmoved (.repeated j i p q n before here own' there own)

section
variable {r : Language K}

theorem validateQuestion_of_renumbered {questions : List (Fields K)} {k : Nat} {q : Fields K} (here : questions[k]? = some q)
    {seen : List Int} (known : ∀ n, n ∈ seen ↔ Taken questions k n) (moved : Renumbered questions k) :
    validateQuestion r q seen (k + 1) = ([numberRemark r q (k + 1)], Json.int (k + 1 : Nat), ((k + 1 : Nat) : Int)) := by
  unfold validateQuestion
  cases own : ownNumber q with
  | none => rfl
  | some n =>
    have met : n ∈ seen := (known n).mpr ((renumbered_iff here).mp moved n own)
    dsimp only
    rw [if_pos met]

theorem validateQuestion_of_kept {questions : List (Fields K)} {k : Nat} {q : Fields K} (here : questions[k]? = some q)
    {seen : List Int} (known : ∀ n, n ∈ seen ↔ Taken questions k n) (stays : ¬ Renumbered questions k) :
    ∃ n, ownNumber q = some n ∧ validateQuestion r q seen (k + 1) = ([], field q "idx", n) := by
  cases own : ownNumber q with
  | none => exact absurd (.illegal k q here own) stays
  | some n =>
    have fresh : n ∉ seen := by
      intro met
      apply stays
      rw [renumbered_iff here]
      intro m same
      rw [own, Option.some.injEq] at same
      exact same ▸ (known n).mp met
    refine ⟨n, rfl, ?_⟩
    unfold validateQuestion
    rw [own]
    dsimp only
    rw [if_neg fresh]

theorem numbered_of_validate {questions : List (Fields K)} {k : Nat} {q : Fields K} (here : questions[k]? = some q)
    {seen : List Int} (known : ∀ n, n ∈ seen ↔ Taken questions k n) :
    Numbered questions k q (validateQuestion r q seen (k + 1)).2.2 := by
  by_cases moved : Renumbered questions k
  · rw [validateQuestion_of_renumbered here known moved]
    exact .inl ⟨moved, by push_cast; rfl⟩
  · obtain ⟨n, own, valid⟩ := validateQuestion_of_kept (r := r) here known moved
    rw [valid]
    exact .inr ⟨moved, own⟩

variable [Field K] [LinearOrder K]

variable (r) in
/-- What the loop reads the questions as. -/
def heads (examId : Nat) : List Int → Nat → List (Fields K) → List (Head K)
  | _, _, [] => []
  | seen, fallbackIdx, q :: rest =>
    let head := headOf r examId seen fallbackIdx q
    head :: heads examId (head.question.idx :: seen) (fallbackIdx + 1) rest

variable (r) in
/-- The question at a position as the loop reads it after all the questions before. -/
def HeadAt (examId : Nat) (questions : List (Fields K)) (i : Nat) (q : Fields K) (head : Head K) : Prop :=
  ∃ seen, (∀ n, n ∈ seen ↔ Taken questions i n) ∧ head = headOf r examId seen (i + 1) q

theorem length_heads (examId : Nat) (seen : List Int) (fallbackIdx : Nat) (rest : List (Fields K)) :
    (heads r examId seen fallbackIdx rest).length = rest.length := by
  induction rest generalizing seen fallbackIdx with
  | nil => rfl
  | cons q rest ih => simp [heads, ih]

theorem heads_at {examId : Nat} {questions : List (Fields K)} {k : Nat} {rest : List (Fields K)} (suffix : questions.drop k = rest)
    {seen : List Int} (known : ∀ n, n ∈ seen ↔ Taken questions k n) (i : Nat) {q : Fields K} {head : Head K}
    (here : questions[k + i]? = some q) (read : (heads r examId seen (k + 1) rest)[i]? = some head) :
    HeadAt r examId questions (k + i) q head := by
  induction rest generalizing k seen i with
  | nil => simp [heads] at read
  | cons p rest ih =>
    have first : questions[k]? = some p := by
      rw [← Nat.add_zero k, ← List.getElem?_drop, suffix]
      rfl
    cases i with
    | zero =>
      rw [Nat.add_zero, first, Option.some.injEq] at here
      rw [heads, List.getElem?_cons_zero, Option.some.injEq] at read
      exact ⟨seen, known, by rw [← read, here]⟩
    | succ i =>
      have next : questions.drop (k + 1) = rest := by rw [← List.tail_drop, suffix, List.tail_cons]
      have grown : ∀ n, n ∈ (headOf r examId seen (k + 1) p).question.idx :: seen ↔ Taken questions (k + 1) n := by
        intro n
        rw [List.mem_cons, known, taken_succ first (numbered_of_validate (r := r) first known)]
        rfl
      rw [heads, List.getElem?_cons_succ] at read
      have place : k + (i + 1) = k + 1 + i := by omega
      rw [place] at here ⊢
      exact ih next grown i here read

theorem HeadAt.numbered {examId : Nat} {questions : List (Fields K)} {i : Nat} {q : Fields K} {head : Head K}
    (at_ : HeadAt r examId questions i q head) (here : questions[i]? = some q) : Numbered questions i q head.question.idx := by
  obtain ⟨seen, known, rfl⟩ := at_
  exact numbered_of_validate here known

/-- The number of a question stands in its remarks as the question gives it, if it keeps it. -/
theorem HeadAt.remarks {examId : Nat} {questions : List (Fields K)} {i : Nat} {q : Fields K} {head : Head K}
    (at_ : HeadAt r examId questions i q head) (here : questions[i]? = some q) :
    (Renumbered questions i ∧ head.numberRemarks = [numberRemark r q (i + 1)] ∧ head.idx = .int ((i + 1 : Nat) : Int)) ∨
      (¬ Renumbered questions i ∧ head.numberRemarks = [] ∧ head.idx = field q "idx") := by
  obtain ⟨seen, known, rfl⟩ := at_
  by_cases moved : Renumbered questions i
  · have valid := validateQuestion_of_renumbered (r := r) here known moved
    exact .inl ⟨moved, by simp [headOf, valid], by simp [headOf, valid]⟩
  · obtain ⟨n, _, valid⟩ := validateQuestion_of_kept (r := r) here known moved
    exact .inr ⟨moved, by simp [headOf, valid], by simp [headOf, valid]⟩

end

end KnowledgeGap.Ingestion.Template
