import Mathlib.Tactic.Common

namespace KnowledgeGap

/-- What the language knows of characters beyond ASCII: decimal digits of other scripts, and blanks. -/
structure Characters where
  digit : Char → Option Nat
  blank : Char → Bool
  digit_ascii : ∀ c : Char, c.isDigit → digit c = some (c.toNat - '0'.toNat)
  digit_minus : digit '-' = none
  blank_minus : blank '-' = false
  blank_digit : ∀ c : Char, c.isDigit → blank c = false

namespace Characters

variable (t : Characters)

/-- The digits of a numeral: single underscores may stand between two of them. -/
def numeral : Bool → List Char → Option (List Nat)
  | after, [] => if after then some [] else none
  | after, c :: rest =>
    if c = '_' then if after then numeral false rest else none
    else
      match t.digit c with
      | none => none
      | some d => (numeral true rest).map (d :: ·)

/-- The length of a numeral `int` reads and `str` writes. -/
def maxDigits : Nat := 4300

def value (digits : List Nat) : Nat := digits.foldl (fun n d => 10 * n + d) 0

def natural (text : List Char) : Option Nat :=
  (t.numeral false text).bind fun digits => if digits.length ≤ maxDigits then some (value digits) else none

def stripped (text : List Char) : List Char := ((text.dropWhile t.blank).reverse.dropWhile t.blank).reverse

/-- `int` of a string. -/
def readInt (s : String) : Option Int :=
  match t.stripped s.toList with
  | '-' :: rest => (t.natural rest).map (fun n => -Int.ofNat n)
  | '+' :: rest => (t.natural rest).map Int.ofNat
  | text => (t.natural text).map Int.ofNat

end Characters

/-- `str` of an integer; it refuses one too long to write. -/
def writeInt (n : Int) : Option String :=
  if (Nat.toDigits 10 n.natAbs).length ≤ Characters.maxDigits then some (toString n) else none

theorem toList_toString (n : Int) : (toString n).toList =
    if n < 0 then '-' :: Nat.toDigits 10 n.natAbs else Nat.toDigits 10 n.natAbs := by
  cases n with
  | ofNat m => exact Nat.toList_repr.trans (if_neg (Int.not_lt.mpr (Int.natCast_nonneg m))).symm
  | negSucc m =>
    rw [if_pos (by omega)]
    simp [toString, Int.repr, Nat.toList_repr]

namespace Characters

variable (t : Characters)

def asciiDigits (text : List Char) : List Nat := text.map (fun c => c.toNat - '0'.toNat)

theorem numeral_ascii (after : Bool) {text : List Char} (ascii : ∀ c ∈ text, c.isDigit) (some_ : after = true ∨ text ≠ []) :
    t.numeral after text = some (asciiDigits text) := by
  induction text generalizing after with
  | nil =>
    rw [some_.resolve_right (fun none_ => none_ rfl)]
    rfl
  | cons c rest ih =>
    have here := ascii c List.mem_cons_self
    have line : c ≠ '_' := by
      intro same
      rw [same] at here
      cases here
    have later := ih true (fun d member => ascii d (List.mem_cons_of_mem _ member)) (.inl rfl)
    rw [numeral, if_neg line, t.digit_ascii c here, later]
    rfl

theorem natural_toDigits {n : Nat} (short : (Nat.toDigits 10 n).length ≤ maxDigits) :
    t.natural (Nat.toDigits 10 n) = some n := by
  have ascii : ∀ c ∈ Nat.toDigits 10 n, c.isDigit := fun c member =>
    Nat.isDigit_of_mem_toDigits (by omega) (by omega) member
  have worth : value (asciiDigits (Nat.toDigits 10 n)) = n := by
    rw [value, asciiDigits, List.foldl_map]
    exact Nat.ofDigitChars_ten_toDigits
  rw [natural, t.numeral_ascii false ascii (.inr Nat.toDigits_ne_nil), Option.bind_some, worth, asciiDigits, List.length_map,
    if_pos short]

theorem stripped_tight {text : List Char} (tight : ∀ c ∈ text, t.blank c = false) : t.stripped text = text := by
  have drop : ∀ cs : List Char, (∀ c ∈ cs, t.blank c = false) → cs.dropWhile t.blank = cs := by
    intro cs tight
    cases cs with
    | nil => rfl
    | cons c rest => rw [List.dropWhile_cons, tight c List.mem_cons_self, if_neg Bool.false_ne_true]
  rw [stripped, drop text tight, drop _ (fun c member => tight c (List.mem_reverse.mp member)), List.reverse_reverse]

/-- What `str` writes, `int` reads back. -/
theorem readInt_writeInt {n : Int} {s : String} (written : writeInt n = some s) : t.readInt s = some n := by
  rw [writeInt] at written
  split at written
  · rename_i short
    cases written
    have ascii : ∀ c ∈ Nat.toDigits 10 n.natAbs, c.isDigit := fun c member =>
      Nat.isDigit_of_mem_toDigits (by omega) (by omega) member
    have read := t.natural_toDigits short
    rw [readInt, toList_toString]
    by_cases negative : n < 0
    · rw [if_pos negative, stripped_tight]
      · change (t.natural (Nat.toDigits 10 n.natAbs)).map (fun n => -Int.ofNat n) = some n
        rw [read, Option.map_some, Option.some.injEq, Int.ofNat_eq_natCast]
        omega
      · intro c member
        rcases List.mem_cons.mp member with sign | digit
        · rw [sign]
          exact t.blank_minus
        · exact t.blank_digit c (ascii c digit)
    · rw [if_neg negative, stripped_tight t (fun c member => t.blank_digit c (ascii c member))]
      split
      · rename_i rest shape
        have sign := ascii '-' (shape ▸ List.mem_cons_self)
        cases sign
      · rename_i rest shape
        have sign := ascii '+' (shape ▸ List.mem_cons_self)
        cases sign
      · rw [read, Option.map_some, Option.some.injEq, Int.ofNat_eq_natCast]
        omega
  · cases written

end Characters

theorem writeInt_plain {n : Int} {s : String} (written : writeInt n = some s) : '.' ∉ s.toList := by
  rw [writeInt] at written
  split at written
  · cases written
    have ascii : '.' ∉ Nat.toDigits 10 n.natAbs := by
      intro member
      cases Nat.isDigit_of_mem_toDigits (by omega) (by omega) member
    rw [toList_toString]
    split
    · intro member
      rcases List.mem_cons.mp member with sign | digit
      · cases sign
      · exact ascii digit
    · exact ascii
  · cases written

end KnowledgeGap
