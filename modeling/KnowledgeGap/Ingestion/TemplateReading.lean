import KnowledgeGap.Ingestion.Template

namespace KnowledgeGap.Ingestion.Template

open Relational

variable {K : Type}

section
variable [Field K] [LinearOrder K] (r : Language K) (kps : Dict String (KnowledgePoint K))

/-- The value as a number, or what stands for it. -/
def numberOr (default : PyFloat K) (raw : Json K) : PyFloat K :=
  match confidence r.number raw default with
  | .ok x => x
  | .error _ => default

/-- `float` does not give up on the value for its size. -/
def Convertible (raw : Json K) : Prop := toFloat r.number raw ≠ .error .overflowError

/-- The score of a question is replaced. -/
def scoreRefused (raw : Json K) : Bool :=
  match toFloat r.number raw with
  | .ok score => score.le (.fin 0)
  | .error _ => true

/-- The score a question is stored with. -/
def scoreOf (raw : Json K) : PyFloat K :=
  if scoreRefused r raw then fallbackScore else (toFloat r.number raw).toOption.getD fallbackScore

variable {r}

theorem confidence_ok_iff {raw : Json K} {default x : PyFloat K} :
    confidence r.number raw default = .ok x ↔ Convertible r raw ∧ x = numberOr r default raw := by
  unfold numberOr confidence Convertible
  cases toFloat r.number raw with
  | ok given => simp [eq_comm]
  | error e => cases e <;> simp [eq_comm]

theorem safeScore_ok_iff {raw idx : Json K} {score : PyFloat K} {remarks : List String} :
    safeScore r raw idx = .ok (score, remarks) ↔
      Convertible r raw ∧ score = scoreOf r raw ∧ remarks = if scoreRefused r raw then [scoreRemark r idx raw] else [] := by
  unfold safeScore scoreOf scoreRefused Convertible
  cases toFloat r.number raw with
  | ok given => cases refused : given.le (.fin 0) <;> simp [refused, Except.toOption, eq_comm]
  | error e => cases e <;> simp [eq_comm]

theorem scoreOf_nan {raw : Json K} : scoreOf r raw = .nan ↔ toFloat r.number raw = .ok .nan := by
  unfold scoreOf scoreRefused fallbackScore
  cases toFloat r.number raw with
  | ok given =>
    cases given with
    | fin x =>
      dsimp only [Except.toOption, Option.getD_some]
      split <;> simp
    | nan | negInf | posInf => simp [PyFloat.le, Except.toOption]
  | error e => simp

/-- A stored score is right as long as `float` makes neither of the two values out of it that pass for positive. -/
theorem scoreOf_positive [IsStrictOrderedRing K] {raw : Json K} :
    (∃ x, scoreOf r raw = .fin x ∧ 0 < x) ↔ toFloat r.number raw ≠ .ok .nan ∧ toFloat r.number raw ≠ .ok .posInf := by
  have ten : (0 : K) < 10 := by norm_num
  unfold scoreOf scoreRefused fallbackScore
  cases toFloat r.number raw with
  | ok given =>
    cases given with
    | nan => simp [PyFloat.le, Except.toOption]
    | posInf => simp [PyFloat.le, Except.toOption]
    | negInf => simp [PyFloat.le, ten]
    | fin x =>
      by_cases low : x ≤ 0
      · simp [low, ten]
      · simp [low, not_le.mp low, Except.toOption]
  | error e => simp [ten]

variable (r)

/-- Nothing in the question itself stops the reading of it. -/
structure Readable (q : Fields K) : Prop where
  confidence : Convertible r (field q "confidence")
  qType : hashable (field q "q_type") = true
  fullScore : Convertible r (field q "full_score")
  cogLevel : hashable (field q "cog_level") = true

def headOf (examId : Nat) (seen : List Int) (fallbackIdx : Nat) (q : Fields K) : Head K :=
  let number := validateQuestion r q seen fallbackIdx
  ⟨⟨examId, number.2.2, String.ofList ((r.str ((q.lookup "stem").getD (.str ""))).toList.take 200), questionType (field q "q_type"),
      scoreOf r (field q "full_score"), cogLevel (field q "cog_level"), wholeNumber (field q "n_options")⟩,
    number.2.1, numberOr r (.fin (ratio 1 2)) (field q "confidence"), number.1,
    if scoreRefused r (field q "full_score") then [scoreRemark r number.2.1 (field q "full_score")] else []⟩

variable {r}

theorem readQuestion_ok_iff {examId : Nat} {seen : List Int} {fallbackIdx : Nat} {q : Fields K} {head : Head K} :
    readQuestion r examId seen fallbackIdx q = .ok head ↔ Readable r q ∧ head = headOf r examId seen fallbackIdx q := by
  constructor
  · intro done
    unfold readQuestion at done
    dsimp only at done
    split at done
    · cases done
    · rename_i conf sure
      split at done
      · cases done
      · rename_i typed
        split at done
        · cases done
        · rename_i fullScore remarks scored
          split at done
          · cases done
          · rename_i level
            obtain ⟨certain, rfl⟩ := confidence_ok_iff.mp sure
            obtain ⟨sized, rfl, rfl⟩ := safeScore_ok_iff.mp scored
            cases done
            exact ⟨⟨certain, by simpa using typed, sized, by simpa using level⟩, rfl⟩
  · intro known
    obtain ⟨readable, rfl⟩ := known
    have sure : confidence r.number (field q "confidence") (.fin (ratio 1 2)) =
        .ok (numberOr r (.fin (ratio 1 2)) (field q "confidence")) := confidence_ok_iff.mpr ⟨readable.confidence, rfl⟩
    have scored : safeScore r (field q "full_score") (validateQuestion r q seen fallbackIdx).2.1 = .ok (_, _) :=
      safeScore_ok_iff.mpr ⟨readable.fullScore, rfl, rfl⟩
    unfold readQuestion
    dsimp only
    rw [sure]
    dsimp only
    rw [if_neg (by simp [readable.qType]), scored]
    dsimp only
    rw [if_neg (by simp [readable.cogLevel])]
    rfl

/-- The point of a tag, if it is kept. -/
def tagPoint (tag : Fields K) : Option (KnowledgePoint K) := knownPoint kps (field tag "code")

variable (r) in
/-- The tags that are kept, by point and weight. -/
def keptTags (tags : List (Fields K)) : List (Nat × PyFloat K) :=
  tags.filterMap (fun tag => (tagPoint kps tag).map
    (fun kp => (kp.id, numberOr r (.fin 0) ((tag.lookup "weight").getD (.float (.fin 1))))))

variable (r) in
def codeRemarks (idx : Json K) (tags : List (Fields K)) : List String :=
  (tags.filter (fun tag => (tagPoint kps tag).isNone)).map (fun tag => codeRemark r idx (field tag "code"))

variable (r) in
/-- Nothing in the tag itself stops the reading of it. -/
structure TagReadable (tag : Fields K) : Prop where
  code : hashable (field tag "code") = true
  weight : (tagPoint kps tag).isSome → Convertible r ((tag.lookup "weight").getD (.float (.fin 1)))

variable {kps}

theorem readTags_ok_iff {idx : Json K} {tags : List (Fields K)} {kept : List (Nat × PyFloat K)} {remarks : List String} :
    readTags r kps idx (tags.map .obj) = .ok (kept, remarks) ↔
      (∀ tag ∈ tags, TagReadable r kps tag) ∧ kept = keptTags r kps tags ∧ remarks = codeRemarks r kps idx tags := by
  induction tags generalizing kept remarks with
  | nil => simp [readTags, keptTags, codeRemarks, eq_comm]
  | cons tag tags ih =>
    rw [List.forall_mem_cons]
    simp only [List.map_cons, readTags]
    cases code : hashable (field tag "code") with
    | false =>
      simp only [if_true, reduceCtorEq, false_iff, not_and]
      intro readable
      rw [readable.1.code] at code
      cases code
    | true =>
      simp only [Bool.true_eq_false, if_false]
      cases point : tagPoint kps tag with
      | none =>
        have unknown : knownPoint kps (field tag "code") = none := point
        have readable : TagReadable r kps tag := ⟨code, by simp [point]⟩
        rw [unknown]
        dsimp only
        cases rest : readTags r kps idx (tags.map .obj) with
        | error e =>
          simp only [reduceCtorEq, false_iff, not_and]
          intro all
          have done := ih.mpr ⟨all.2, rfl, rfl⟩
          rw [rest] at done
          cases done
        | ok given =>
          obtain ⟨given, others⟩ := given
          obtain ⟨all, rfl, rfl⟩ := ih.mp rest
          have kept_cons : keptTags r kps (tag :: tags) = keptTags r kps tags := by simp [keptTags, point]
          have remarks_cons : codeRemarks r kps idx (tag :: tags) =
              codeRemark r idx (field tag "code") :: codeRemarks r kps idx tags := by simp [codeRemarks, point]
          rw [kept_cons, remarks_cons, Except.ok.injEq, Prod.mk.injEq]
          constructor
          · intro same
            exact ⟨⟨readable, all⟩, same.1.symm, same.2.symm⟩
          · intro known
            exact ⟨known.2.1.symm, known.2.2.symm⟩
      | some kp =>
        have known : knownPoint kps (field tag "code") = some kp := point
        rw [known]
        dsimp only
        cases weighed : confidence r.number ((tag.lookup "weight").getD (.float (.fin 1))) (.fin 0) with
        | error e =>
          simp only [reduceCtorEq, false_iff, not_and]
          intro all
          have sized := all.1.weight (by simp [point])
          have done : confidence r.number ((tag.lookup "weight").getD (.float (.fin 1))) (.fin 0) = .ok _ :=
            confidence_ok_iff.mpr ⟨sized, rfl⟩
          rw [weighed] at done
          cases done
        | ok weight =>
          obtain ⟨sized, same⟩ := confidence_ok_iff.mp weighed
          have readable : TagReadable r kps tag := ⟨code, fun _ => sized⟩
          dsimp only
          cases rest : readTags r kps idx (tags.map .obj) with
          | error e =>
            simp only [reduceCtorEq, false_iff, not_and]
            intro all
            have done := ih.mpr ⟨all.2, rfl, rfl⟩
            rw [rest] at done
            cases done
          | ok given =>
            obtain ⟨given, others⟩ := given
            obtain ⟨all, rfl, rfl⟩ := ih.mp rest
            have kept_cons : keptTags r kps (tag :: tags) = (kp.id, weight) :: keptTags r kps tags := by
              simp [keptTags, point, same]
            have remarks_cons : codeRemarks r kps idx (tag :: tags) = codeRemarks r kps idx tags := by
              simp [codeRemarks, point]
            rw [kept_cons, remarks_cons, Except.ok.injEq, Prod.mk.injEq]
            constructor
            · intro same
              exact ⟨⟨readable, all⟩, same.1.symm, same.2.symm⟩
            · intro known
              exact ⟨known.2.1.symm, known.2.2.symm⟩

end

end KnowledgeGap.Ingestion.Template
