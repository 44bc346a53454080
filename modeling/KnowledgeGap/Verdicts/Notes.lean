import KnowledgeGap.Verdicts.Lifecycle
import Mathlib.Data.List.Infix

namespace KnowledgeGap.Verdicts

/-! What is read back out of the notes that a verification and a teacher leave. -/

/-- `needle in text` -/
def mentions (needle text : String) : Bool := decide (needle.toList <:+: text.toList)

/-- The marks of the three outcomes; the first also holds the end of the second. -/
def classifyVerdict (note : Option String) : Option Finding :=
  match note with
  | none => none
  | some text =>
    if text = "" then none
    else if mentions "无法证伪" text then some .inconclusive
    else if mentions "诊断题证伪" text then some .falsified
    else if mentions "诊断题证实" text then some .supported
    else none

/-- A root's name does not change how the note of an outcome is read. -/
def Legible : Finding → String → Prop
  | .inconclusive, _ => True
  | .falsified, name => mentions "无法证伪" name = false
  | .supported, name => mentions "无法证伪" name = false ∧ mentions "诊断题证伪" name = false

section
variable {α : Type} {needle left right : List α}

theorem infix_append_cons {c : α} (apart : c ∉ needle) :
    needle <:+: left ++ c :: right ↔ needle <:+: left ∨ needle <:+: right := by
  constructor
  · intro within
    rcases List.infix_append_iff_ne_nil.mp within with before | after | ⟨first, second, _, some_, same, _, start⟩
    · exact Or.inl before
    · rcases List.infix_cons_iff.mp after with start | later
      · cases needle with
        | nil => exact Or.inl List.nil_infix
        | cons d rest =>
          rw [List.cons_prefix_cons] at start
          exact absurd (start.1 ▸ List.mem_cons_self) apart
      · exact Or.inr later
    · cases second with
      | nil => exact absurd rfl some_
      | cons d rest =>
        rw [List.cons_prefix_cons] at start
        rw [same, start.1] at apart
        exact absurd (List.mem_append_right _ List.mem_cons_self) apart
  · intro held
    rcases held with before | after
    · exact List.infix_append_of_infix_left before
    · exact List.infix_append_of_infix_right (List.infix_cons after)

theorem not_infix_of_absent {c : α} (mark : c ∈ needle) (blank : c ∉ left) : ¬ needle <:+: left :=
  fun within => blank (within.subset mark)

end

/-! The date and the figure in a note are of digits, hyphens and points. -/

theorem digit_of_mem_toString {n : Nat} {c : Char} (listed : c ∈ (toString n).toList) : c.isDigit = true := by
  rw [Nat.toString_eq_repr, Nat.toList_repr] at listed
  exact Nat.isDigit_of_mem_toDigits (by decide) (by decide) listed

theorem digit_of_mem_padded {width : Nat} {n : Int} {c : Char} (listed : c ∈ (padded width n).toList) :
    c.isDigit = true := by
  unfold padded at listed
  rw [String.toList_append, String.toList_ofList, List.mem_append] at listed
  rcases listed with zero | digit
  · rw [List.eq_of_mem_replicate zero]
    rfl
  · exact digit_of_mem_toString digit

theorem mem_isoDate {d : Date} {c : Char} (listed : c ∈ (isoDate d).toList) : c.isDigit = true ∨ c = '-' := by
  unfold isoDate at listed
  simp only [String.toList_append, List.mem_append] at listed
  rcases listed with (((year | hyphen) | month) | hyphen) | day
  · exact Or.inl (digit_of_mem_padded year)
  · exact Or.inr (List.mem_singleton.mp hyphen)
  · exact Or.inl (digit_of_mem_padded month)
  · exact Or.inr (List.mem_singleton.mp hyphen)
  · exact Or.inl (digit_of_mem_padded day)

section
variable {K : Type} [Field K] [LinearOrder K] [FloorRing K]

theorem mem_fixed2 {x : K} {c : Char} (listed : c ∈ (fixed2 x).toList) : c.isDigit = true ∨ c = '-' ∨ c = '.' := by
  unfold fixed2 at listed
  simp only [String.toList_append, List.mem_append] at listed
  rcases listed with (((sign | whole) | point) | zero) | cents
  · right
    left
    split at sign
    · exact List.mem_singleton.mp sign
    · cases sign
  · exact Or.inl (digit_of_mem_toString whole)
  · exact Or.inr (Or.inr (List.mem_singleton.mp point))
  · left
    split at zero
    · rw [List.mem_singleton.mp zero]
      rfl
    · cases zero
  · exact Or.inl (digit_of_mem_toString cents)

theorem isoDate_blank (d : Date) : '证' ∉ (isoDate d).toList := by
  intro listed
  rcases mem_isoDate listed with digit | hyphen
  · revert digit
    decide
  · revert hyphen
    decide

theorem fixed2_blank (x : K) : '证' ∉ (fixed2 x).toList := by
  intro listed
  rcases mem_fixed2 listed with digit | hyphen | point
  · revert digit
    decide
  · revert hyphen
    decide
  · revert point
    decide

end

/-- A mark in a note of a verification that came to an outcome is in its first words or in the root's name. -/
theorem infix_note {mark head root last date figure : List Char} (marks : '证' ∈ mark) (opening : '（' ∉ mark)
    (quote : '「' ∉ mark) (unquote : '」' ∉ mark) (dated : '证' ∉ date) (measured : '证' ∉ figure) (closing : '证' ∉ last) :
    mark <:+: head ++ '（' :: ((date ++ "）：前置点".toList) ++ '「' :: (root ++ '」' :: ("掌握度 ".toList ++ figure ++ last))) ↔
      mark <:+: head ∨ mark <:+: root := by
  have before : ¬ mark <:+: date ++ "）：前置点".toList := by
    apply not_infix_of_absent marks
    intro listed
    rcases List.mem_append.mp listed with dates | words
    · exact dated dates
    · revert words
      decide
  have after : ¬ mark <:+: "掌握度 ".toList ++ figure ++ last := by
    apply not_infix_of_absent marks
    intro listed
    rcases List.mem_append.mp listed with earlier | ending
    · rcases List.mem_append.mp earlier with words | figures
      · revert words
        decide
      · exact measured figures
    · exact closing ending
  rw [infix_append_cons opening, infix_append_cons quote, infix_append_cons unquote]
  simp only [before, after, false_or, or_false]

section
variable {K : Type} [Field K] [LinearOrder K] [FloorRing K] {cfg : Config K} {count : Nat} {mastery : Option K}

/-- The text of an outcome, with the marks of its ends. -/
theorem toList_concluded (head root last : String) (asOf : DateTime) (m : K) :
    (head ++ "（" ++ isoDate (dateOf asOf) ++ "）：前置点「" ++ root ++ "」掌握度 " ++ fixed2 m ++ last).toList =
      head.toList ++ '（' :: (((isoDate (dateOf asOf)).toList ++ "）：前置点".toList) ++ '「' ::
        (root.toList ++ '」' :: ("掌握度 ".toList ++ (fixed2 m).toList ++ last.toList))) := by
  have opening : "（".toList = ['（'] := by decide
  have quote : "）：前置点「".toList = "）：前置点".toList ++ ['「'] := by decide
  have unquote : "」掌握度 ".toList = '」' :: "掌握度 ".toList := by decide
  simp only [String.toList_append, opening, quote, unquote, List.append_assoc, List.cons_append, List.nil_append]

theorem mentions_concluded {mark head last : String} (root : String) (asOf : DateTime) (m : K)
    (marks : '证' ∈ mark.toList) (opening : '（' ∉ mark.toList) (quote : '「' ∉ mark.toList) (unquote : '」' ∉ mark.toList)
    (closing : '证' ∉ last.toList) :
    mentions mark (head ++ "（" ++ isoDate (dateOf asOf) ++ "）：前置点「" ++ root ++ "」掌握度 " ++ fixed2 m ++ last) =
      (mentions mark head || mentions mark root) := by
  unfold mentions
  rw [toList_concluded, Bool.eq_iff_iff, Bool.or_eq_true, decide_eq_true_eq, decide_eq_true_eq, decide_eq_true_eq]
  exact infix_note marks opening quote unquote (isoDate_blank _) (fixed2_blank m) closing

omit [Field K] [LinearOrder K] [FloorRing K] in
theorem classifyVerdict_some (text : String) : classifyVerdict (some text) =
    if mentions "无法证伪" text then some .inconclusive
    else if mentions "诊断题证伪" text then some .falsified
    else if mentions "诊断题证实" text then some .supported
    else none := by
  unfold classifyVerdict
  dsimp only
  split
  · rename_i empty
    rw [empty]
    decide
  · rfl

theorem note_inconclusive (short : judgeRoot cfg count mastery = .inconclusive) (root : String) (asOf : DateTime) :
    classifyVerdict (some (verificationNote cfg count mastery root asOf)) = some .inconclusive := by
  have mark : "），无法证伪（".toList = "），".toList ++ "无法证伪".toList ++ "（".toList := by decide
  have mentioned : mentions "无法证伪" (verificationNote cfg count mastery root asOf) = true := by
    unfold verificationNote mentions
    rw [short, decide_eq_true_eq]
    simp only [String.toList_append, mark]
    refine ⟨"诊断证据不足（".toList ++ (toString count).toList ++ " 题 < ".toList ++ (toString cfg.minEvidenceCount).toList ++
      "），".toList, "（".toList ++ (isoDate (dateOf asOf)).toList ++ "）".toList, ?_⟩
    simp only [List.append_assoc]
  rw [classifyVerdict_some, if_pos mentioned]

/-- The note of a verification is read as its outcome just when the root's name holds none of the marks that are looked
    for before. -/
theorem classify_verificationNote (root : String) (asOf : DateTime) :
    classifyVerdict (some (verificationNote cfg count mastery root asOf)) = some (judgeRoot cfg count mastery) ↔
      Legible (judgeRoot cfg count mastery) root := by
  cases outcome : judgeRoot cfg count mastery with
  | inconclusive => exact iff_of_true (note_inconclusive outcome root asOf) trivial
  | falsified =>
    have text : verificationNote cfg count mastery root asOf = "诊断题证伪" ++ "（" ++ isoDate (dateOf asOf) ++
        "）：前置点「" ++ root ++ "」掌握度 " ++ fixed2 (mastery.getD 0) ++ " 已达标（≥0.6），前置缺陷假设不成立" := by
      unfold verificationNote
      rw [outcome]
      rfl
    have undecided : mentions "无法证伪" "诊断题证伪" = false := by decide
    have falsified : mentions "诊断题证伪" "诊断题证伪" = true := by decide
    rw [classifyVerdict_some, text, mentions_concluded root asOf _ (by decide) (by decide) (by decide) (by decide)
      (by decide), mentions_concluded root asOf _ (by decide) (by decide) (by decide) (by decide) (by decide), undecided,
      falsified, Bool.false_or, Bool.true_or, Legible]
    cases mentions "无法证伪" root with
    | true => simp
    | false => simp
  | supported =>
    have text : verificationNote cfg count mastery root asOf = "诊断题证实" ++ "（" ++ isoDate (dateOf asOf) ++
        "）：前置点「" ++ root ++ "」掌握度 " ++ fixed2 (mastery.getD 0) ++ " 仍低于阈值，假设成立" := by
      unfold verificationNote
      rw [outcome]
      rfl
    have undecided : mentions "无法证伪" "诊断题证实" = false := by decide
    have falsified : mentions "诊断题证伪" "诊断题证实" = false := by decide
    have supported : mentions "诊断题证实" "诊断题证实" = true := by decide
    rw [classifyVerdict_some, text, mentions_concluded root asOf _ (by decide) (by decide) (by decide) (by decide)
      (by decide), mentions_concluded root asOf _ (by decide) (by decide) (by decide) (by decide) (by decide),
      mentions_concluded root asOf _ (by decide) (by decide) (by decide) (by decide) (by decide), undecided, falsified,
      supported, Bool.false_or, Bool.false_or, Bool.true_or, Legible]
    cases mentions "无法证伪" root with
    | true => simp
    | false => cases mentions "诊断题证伪" root <;> simp

end

end KnowledgeGap.Verdicts
