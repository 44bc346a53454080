import KnowledgeGap.Llm.JsonText
import KnowledgeGap.Relational.Totals

namespace KnowledgeGap.Llm

open Relational Ingestion

/-! Numbers. -/

theorem endsNumber_nil : EndsNumber [] := by
  intro c more same
  cases same

theorem endsNumber_cons {c : Char} {rest : List Char} (digit : c.isDigit = false) (dot : c ≠ '.') (e : c ≠ 'e') (E : c ≠ 'E') :
    EndsNumber (c :: rest) := by
  intro d more same
  cases same
  exact ⟨digit, dot, e, E⟩

/-- What may follow a number's digits without belonging to them. -/
def EndsDigits (rest : List Char) : Prop := ∀ c more, rest = c :: more → c.isDigit = false

theorem EndsNumber.digits {rest : List Char} (ends : EndsNumber rest) : EndsDigits rest := fun c more same => (ends c more same).1

theorem digitsOf_append {digits rest : List Char} (all : ∀ c ∈ digits, c.isDigit = true) (ends : EndsDigits rest) :
    digitsOf (digits ++ rest) = (digits, rest) := by
  have stop : rest.takeWhile Char.isDigit = [] ∧ rest.dropWhile Char.isDigit = rest := by
    cases rest with
    | nil => exact ⟨rfl, rfl⟩
    | cons c more =>
      have digit := ends c more rfl
      simp [digit]
  rw [digitsOf, List.takeWhile_append_of_pos all, List.dropWhile_append_of_pos all, stop.1, stop.2, List.append_nil]

theorem scanTail_end {rest : List Char} (ends : EndsNumber rest) (sign whole : List Char) :
    scanTail sign whole rest = ⟨sign, whole, [], [], rest⟩ := by
  cases rest with
  | nil => rfl
  | cons c more =>
    obtain ⟨_, dot, e, E⟩ := ends c more rfl
    have fraction : scanFraction (c :: more) = ([], c :: more) := by
      unfold scanFraction
      split
      · rename_i same
        cases same
        exact absurd rfl dot
      · rfl
    simp [scanTail, fraction, scanExponent, e, E]

/-- The digits of a positive number start with no zero. -/
theorem head_toDigits (n : Nat) : 0 < n → ∀ cs, Nat.toDigits 10 n ≠ '0' :: cs := by
  induction n using Nat.strongRecOn with
  | ind n ih =>
    intro positive cs same
    by_cases small : n < 10
    · rw [Nat.toDigits_of_lt_base small] at same
      have digit : ∀ m : Fin 10, 0 < m.val → Nat.digitChar m.val ≠ '0' := by decide
      exact digit ⟨n, small⟩ positive (List.cons.inj same).1
    · rw [Nat.toDigits_of_base_le (by omega) (by omega)] at same
      cases front : Nat.toDigits 10 (n / 10) with
      | nil => exact Nat.toDigits_ne_nil front
      | cons c more =>
        rw [front, List.cons_append] at same
        have zero := (List.cons.inj same).1
        rw [zero] at front
        exact ih (n / 10) (by omega) (by omega) more front

theorem isDigit_toDigits {m : Nat} {c : Char} (member : c ∈ Nat.toDigits 10 m) : c.isDigit = true :=
  Nat.isDigit_of_mem_toDigits (by omega) (by omega) member

theorem scanWhole_digits (m : Nat) {rest : List Char} (ends : EndsDigits rest) (sign : List Char) :
    scanWhole sign (Nat.toDigits 10 m ++ rest) = some (scanTail sign (Nat.toDigits 10 m) rest) := by
  unfold scanWhole
  split
  · rename_i rest' same
    by_cases zero : m = 0
    · subst zero
      rw [Nat.toDigits_zero, List.singleton_append, List.cons.injEq] at same
      rw [← same.2, Nat.toDigits_zero]
    · cases digits : Nat.toDigits 10 m with
      | nil => exact absurd digits Nat.toDigits_ne_nil
      | cons c more =>
        rw [digits, List.cons_append, List.cons.injEq] at same
        rw [same.1] at digits
        exact absurd digits (head_toDigits m (by omega) more)
  · rw [digitsOf_append (fun _ member => isDigit_toDigits member) ends]
    split
    · rename_i none_
      exact absurd (Prod.mk.inj none_).1 Nat.toDigits_ne_nil
    · rename_i digits rest' some_ same
      cases same
      rfl

theorem scanNumeral_whole (n : Int) {rest : List Char} (ends : EndsDigits rest) :
    scanNumeral ((toString n).toList ++ rest) = some (scanTail (if n < 0 then ['-'] else []) (Nat.toDigits 10 n.natAbs) rest) := by
  rw [toList_toString]
  by_cases negative : n < 0
  · rw [if_pos negative, if_pos negative]
    exact scanWhole_digits n.natAbs ends ['-']
  · rw [if_neg negative, if_neg negative]
    unfold scanNumeral
    split
    · rename_i rest' same
      cases digits : Nat.toDigits 10 n.natAbs with
      | nil => exact absurd digits Nat.toDigits_ne_nil
      | cons c more =>
        rw [digits, List.cons_append, List.cons.injEq] at same
        have digit : c.isDigit = true := isDigit_toDigits (digits ▸ List.mem_cons_self)
        rw [same.1] at digit
        cases digit
    · exact scanWhole_digits n.natAbs ends []

theorem scanNumeral_int (n : Int) {rest : List Char} (ends : EndsNumber rest) :
    scanNumeral ((toString n).toList ++ rest) =
      some ⟨if n < 0 then ['-'] else [], Nat.toDigits 10 n.natAbs, [], [], rest⟩ := by
  rw [scanNumeral_whole n ends.digits, scanTail_end ends]

theorem signedValue_int (n : Int) (fraction rest : List Char) :
    signedValue ⟨if n < 0 then ['-'] else [], Nat.toDigits 10 n.natAbs, fraction, [], rest⟩ = n := by
  unfold signedValue
  dsimp only
  rw [Nat.ofDigitChars_ten_toDigits]
  by_cases negative : n < 0
  · rw [if_pos negative, if_neg (by simp)]
    omega
  · rw [if_neg negative, if_pos rfl]
    omega

/-! Strings. -/

theorem hexValue_digitChar : ∀ d : Fin 16, hexValue (Nat.digitChar d.val) = some d.val := by decide

theorem hex4_digits {n : Nat} (bound : n < 65536) :
    hex4 (Nat.digitChar (n / 4096)) (Nat.digitChar (n / 256 % 16)) (Nat.digitChar (n / 16 % 16)) (Nat.digitChar (n % 16)) = some n := by
  have value : ∀ d, d < 16 → hexValue (Nat.digitChar d) = some d := fun d small => hexValue_digitChar ⟨d, small⟩
  rw [hex4, value _ (by omega), value _ (by omega), value _ (by omega), value _ (by omega)]
  simp only [Option.some.injEq]
  omega

theorem scanUnits_unicode {n : Nat} (bound : n < 65536) (rest : List Char) :
    scanUnits (unicodeEscape n ++ rest) = (scanUnits rest).map fun p => (.code n :: p.1, p.2) := by
  rw [unicodeEscape]
  simp only [List.cons_append, List.nil_append]
  rw [scanUnits, hex4_digits bound]

/-- The units a character is written as. -/
def unitsOf (c : Char) : List CodeUnit :=
  match shortEscape c with
  | some _ => [.char c]
  | none =>
    if 32 ≤ c.toNat ∧ c.toNat ≤ 126 then [.char c]
    else if c.toNat < 65536 then [.code c.toNat]
    else [.code (highHalf c.toNat), .code (lowHalf c.toNat)]

theorem toNat_lt (c : Char) : c.toNat < 1114112 := by
  have valid := c.valid
  rcases valid with low | high
  · exact Nat.lt_of_lt_of_le low (by decide)
  · exact high.2

theorem not_half (c : Char) : c.toNat < 55296 ∨ 57344 ≤ c.toNat := by
  have valid := c.valid
  rcases valid with low | high
  · exact Or.inl low
  · exact Or.inr (Nat.succ_le_of_lt high.1)

theorem eq_of_toNat {c : Char} {n : Nat} (same : c.toNat = n) : c = Char.ofNat n := by
  rw [← same, Char.ofNat_toNat]

theorem shortEscape_spec {c e : Char} (short : shortEscape c = some e) : unescape e = some c ∧ e ≠ 'u' := by
  unfold shortEscape at short
  repeat' split at short
  all_goals rename_i same; cases short
  · exact ⟨congrArg some same.symm, by decide⟩
  · exact ⟨congrArg some same.symm, by decide⟩
  · exact ⟨congrArg some same.symm, by decide⟩
  · exact ⟨congrArg some same.symm, by decide⟩
  · exact ⟨congrArg some same.symm, by decide⟩
  · exact ⟨congrArg some (eq_of_toNat same).symm, by decide⟩
  · exact ⟨congrArg some (eq_of_toNat same).symm, by decide⟩

theorem scanUnits_short {c e : Char} (short : shortEscape c = some e) (rest : List Char) :
    scanUnits ('\\' :: e :: rest) = (scanUnits rest).map fun p => (.char c :: p.1, p.2) := by
  obtain ⟨meant, other⟩ := shortEscape_spec short
  conv_lhs => unfold scanUnits
  split
  · rename_i same
    cases same
  · rename_i same
    cases same
  · rename_i same
    cases same
    exact absurd rfl other
  · rename_i same
    cases same
    rw [meant]
  · rename_i plain same
    cases same
    exact (plain e rest rfl rfl).elim

theorem shortEscape_none {c : Char} (none_ : shortEscape c = none) : c ≠ '"' ∧ c ≠ '\\' := by
  constructor
  · rintro rfl
    cases none_
  · rintro rfl
    cases none_

theorem scanUnits_plain {c : Char} (quote : c ≠ '"') (escape : c ≠ '\\') (printable : 32 ≤ c.toNat) (rest : List Char) :
    scanUnits (c :: rest) = (scanUnits rest).map fun p => (.char c :: p.1, p.2) := by
  conv_lhs => unfold scanUnits
  split
  · rename_i same
    cases same
  · rename_i same
    cases same
    exact absurd rfl quote
  · rename_i same
    cases same
    exact absurd rfl escape
  · rename_i same
    cases same
    exact absurd rfl escape
  · rename_i same
    cases same
    rw [if_neg (by omega)]

theorem scanUnits_escapeChar (c : Char) (rest : List Char) :
    scanUnits (escapeChar c ++ rest) = (scanUnits rest).map fun p => (unitsOf c ++ p.1, p.2) := by
  have bound := toNat_lt c
  unfold escapeChar unitsOf
  cases short : shortEscape c with
  | some e => exact scanUnits_short short rest
  | none =>
    obtain ⟨quote, escape⟩ := shortEscape_none short
    dsimp only
    split
    · rename_i printable
      exact scanUnits_plain quote escape printable.1 rest
    · split
      · rename_i small
        exact scanUnits_unicode small rest
      · rw [List.append_assoc, scanUnits_unicode (by unfold highHalf; omega), scanUnits_unicode (by unfold lowHalf; omega)]
        cases scanUnits rest <;> rfl

theorem joined_whole {n : Nat} (high : isHigh n = false) (low : isLow n = false) (units : List CodeUnit) :
    joined (.code n :: units) = (joined units).map (Char.ofNat n :: ·) := by
  cases units with
  | nil => simp [joined, high, low]
  | cons u units =>
    cases u with
    | char c => simp [joined, high, low]
    | code m =>
      conv_lhs => unfold joined
      simp [high, low]

theorem joined_halves {n m : Nat} (high : isHigh n = true) (low : isLow m = true) (units : List CodeUnit) :
    joined (.code n :: .code m :: units) = (joined units).map (Char.ofNat (65536 + 1024 * (n - 55296) + (m - 56320)) :: ·) := by
  rw [joined, high, low]
  rfl

theorem joined_unitsOf (c : Char) (units : List CodeUnit) : joined (unitsOf c ++ units) = (joined units).map (c :: ·) := by
  have bound := toNat_lt c
  have apart := not_half c
  unfold unitsOf
  split
  · rfl
  · split
    · rfl
    · split
      · have high : isHigh c.toNat = false := decide_eq_false (by omega)
        have low : isLow c.toNat = false := decide_eq_false (by omega)
        rw [List.singleton_append, joined_whole high low, Char.ofNat_toNat]
      · have high : isHigh (highHalf c.toNat) = true := decide_eq_true (by unfold highHalf; omega)
        have low : isLow (lowHalf c.toNat) = true := decide_eq_true (by unfold lowHalf; omega)
        have value : 65536 + 1024 * (highHalf c.toNat - 55296) + (lowHalf c.toNat - 56320) = c.toNat := by
          unfold highHalf lowHalf
          omega
        rw [List.cons_append, List.singleton_append, joined_halves high low, value, Char.ofNat_toNat]

theorem scanUnits_escaped (s rest : List Char) : scanUnits (escaped s ++ '"' :: rest) = .ok (s.flatMap unitsOf, rest) := by
  induction s with
  | nil => rfl
  | cons c s ih =>
    rw [escaped, List.flatMap_cons, List.append_assoc, scanUnits_escapeChar]
    rw [escaped] at ih
    rw [ih]
    rfl

theorem joined_flatMap (s : List Char) : joined (s.flatMap unitsOf) = some s := by
  induction s with
  | nil => rfl
  | cons c s ih => rw [List.flatMap_cons, joined_unitsOf, ih, Option.map_some]

/-- A string literal is read as it was written. -/
theorem scanString_escaped (s : String) (rest : List Char) : scanString (escaped s.toList ++ '"' :: rest) = .ok (s, rest) := by
  rw [scanString, scanUnits_escaped]
  dsimp only
  rw [joined_flatMap]
  simp

/-! Values. -/

section
variable {K : Type} (f : FloatText K)

mutual

/-- A value the language can hold and write: no name twice in an object, and no integer too long to write. -/
def Proper : Json K → Prop
  | .int n => (Nat.toDigits 10 n.natAbs).length ≤ Characters.maxDigits
  | .arr items => ProperItems items
  | .obj fields => (fields.map Prod.fst).Nodup ∧ ProperFields fields
  | _ => True

def ProperItems : List (Json K) → Prop
  | [] => True
  | v :: items => Proper v ∧ ProperItems items

def ProperFields : List (String × Json K) → Prop
  | [] => True
  | (_, v) :: fields => Proper v ∧ ProperFields fields

end

theorem skip_cons {c : Char} (visible : isJsonSpace c = false) (rest : List Char) : skip (c :: rest) = c :: rest := by
  rw [skip, List.dropWhile_cons, visible, if_neg Bool.false_ne_true]

theorem isJsonSpace_of_numeric {c : Char} (number : numeric c = true) : isJsonSpace c = false ∧ c ≠ ']' := by
  constructor
  · rw [Bool.eq_false_iff]
    intro space
    simp only [isJsonSpace, Bool.or_eq_true, beq_iff_eq] at space
    rcases space with ((rfl | rfl) | rfl) | rfl <;> cases number
  · rintro rfl
    cases number

theorem numeric_int {n : Int} {c : Char} (member : c ∈ (toString n).toList) : numeric c = true := by
  rw [toList_toString] at member
  split at member
  · rcases List.mem_cons.mp member with rfl | digit
    · rfl
    · simp [numeric, isDigit_toDigits digit]
  · simp [numeric, isDigit_toDigits member]

/-- A value starts with a character of its own. -/
theorem dumps_head (v : Json K) : ∃ c cs, dumps f v = c :: cs ∧ isJsonSpace c = false ∧ c ≠ ']' := by
  have number : ∀ s : List Char, s ≠ [] → (∀ c ∈ s, numeric c = true) → ∃ c cs, s = c :: cs ∧ isJsonSpace c = false ∧ c ≠ ']' := by
    intro s some_ all
    cases s with
    | nil => exact absurd rfl some_
    | cons c cs => exact ⟨c, cs, rfl, isJsonSpace_of_numeric (all c List.mem_cons_self)⟩
  cases v with
  | null => exact ⟨'n', _, rfl, rfl, by decide⟩
  | bool b =>
    cases b with
    | true => exact ⟨'t', _, rfl, rfl, by decide⟩
    | false => exact ⟨'f', _, rfl, rfl, by decide⟩
  | int n =>
    refine number _ ?_ (fun c member => numeric_int member)
    rw [dumps, toList_toString]
    split
    · simp
    · exact Nat.toDigits_ne_nil
  | float x =>
    cases x with
    | fin x =>
      refine number _ ?_ (f.numeric_repr x)
      intro empty
      obtain ⟨n, scanned, _⟩ := f.scan_repr x [] endsNumber_nil
      rw [show f.repr x = [] from empty] at scanned
      cases scanned
    | nan => exact ⟨'N', _, rfl, rfl, by decide⟩
    | posInf => exact ⟨'I', _, rfl, rfl, by decide⟩
    | negInf => exact ⟨'-', _, rfl, rfl, by decide⟩
  | str s => exact ⟨'"', _, rfl, rfl, by decide⟩
  | arr items =>
    cases items with
    | nil => exact ⟨'[', _, rfl, rfl, by decide⟩
    | cons v items => exact ⟨'[', _, by rw [dumps], rfl, by decide⟩
  | obj fields =>
    cases fields with
    | nil => exact ⟨'{', _, rfl, rfl, by decide⟩
    | cons p fields => exact ⟨'{', _, by rw [dumps], rfl, by decide⟩

theorem skip_dumps (v : Json K) (rest : List Char) : skip (dumps f v ++ rest) = dumps f v ++ rest := by
  obtain ⟨c, cs, shape, visible, _⟩ := dumps_head f v
  rw [shape, List.cons_append, skip_cons visible]

theorem dumps_pos (v : Json K) : 0 < (dumps f v).length := by
  obtain ⟨c, cs, shape, _⟩ := dumps_head f v
  rw [shape]
  simp

/-- What the scanner takes for a number, none of the other values could be. -/
theorem scanOnce_numeral {s : List Char} {n : Numeral} (scanned : scanNumeral s = some n) (m : Nat) :
    scanOnce f (m + 1) s = scanNumber f s := by
  unfold scanOnce
  split <;> first
    | cases scanned
    | rfl

theorem scanOnce_int {n : Int} (short : (Nat.toDigits 10 n.natAbs).length ≤ Characters.maxDigits) {rest : List Char}
    (ends : EndsNumber rest) (m : Nat) : scanOnce f (m + 1) ((toString n).toList ++ rest) = .ok (.int n, rest) := by
  have scanned := scanNumeral_int n ends
  rw [scanOnce_numeral f scanned, scanNumber, scanned]
  dsimp only
  rw [if_pos ⟨rfl, rfl⟩, if_neg (by omega), signedValue_int]

theorem scanOnce_float (x : K) {rest : List Char} (ends : EndsNumber rest) (m : Nat) :
    scanOnce f (m + 1) (f.repr x ++ rest) = .ok (.float (.fin x), rest) := by
  obtain ⟨n, scanned, after, text, fractional⟩ := f.scan_repr x rest ends
  rw [scanOnce_numeral f scanned, scanNumber, scanned]
  dsimp only
  rw [if_neg fractional, text, after, f.float_repr]

theorem asDict_distinct {fields : List (String × Json K)} (distinct : (fields.map Prod.fst).Nodup) : asDict fields = .obj fields := by
  rw [asDict, Dict.entries_ofList distinct]

theorem scanItems_last {n : Nat} {s rest : List Char} {v : Json K} (read : scanOnce f n s = .ok (v, ']' :: rest)) :
    scanItems f (n + 1) s = .ok ([v], rest) := by
  rw [scanItems, read]
  rfl

theorem scanItems_more {n : Nat} {s rest rest' : List Char} {v : Json K} {items : List (Json K)}
    (read : scanOnce f n s = .ok (v, ',' :: rest)) (later : scanItems f n (skip rest) = .ok (items, rest')) :
    scanItems f (n + 1) s = .ok (v :: items, rest') := by
  rw [scanItems, read]
  change (scanItems f n (skip rest)).map (fun p => (v :: p.1, p.2)) = _
  rw [later]
  rfl

theorem scanFields_colon {n : Nat} {k : String} {s : List Char} {v : Json K} {after : List Char}
    (read : scanOnce f n (skip s) = .ok (v, after)) :
    scanFields f (n + 1) (escaped k.toList ++ '"' :: ':' :: s) = scanMore (scanFields f n) k v (skip after) := by
  rw [scanFields, scanString_escaped]
  change scanValue (scanFields f n) k (scanOnce f n (skip s)) = _
  rw [read]
  rfl

theorem scanFields_last {n : Nat} {k : String} {s rest : List Char} {v : Json K} (read : scanOnce f n (skip s) = .ok (v, '}' :: rest)) :
    scanFields f (n + 1) (escaped k.toList ++ '"' :: ':' :: s) = .ok ([(k, v)], rest) :=
  scanFields_colon f read

theorem scanFields_more {n : Nat} {k : String} {s rest rest' : List Char} {v : Json K} {fields : List (String × Json K)}
    (read : scanOnce f n (skip s) = .ok (v, ',' :: ' ' :: '"' :: rest)) (later : scanFields f n rest = .ok (fields, rest')) :
    scanFields f (n + 1) (escaped k.toList ++ '"' :: ':' :: s) = .ok ((k, v) :: fields, rest') := by
  rw [scanFields_colon f read]
  change (scanFields f n rest).map (fun p => ((k, v) :: p.1, p.2)) = _
  rw [later]
  rfl

theorem length_quoted (k : String) : 2 ≤ (quoted k).length := by
  simp [quoted]

mutual

theorem scanOnce_dumps : ∀ (v : Json K) (n : Nat) (rest : List Char), Proper v → 2 * (dumps f v).length ≤ n → EndsNumber rest →
    scanOnce f n (dumps f v ++ rest) = .ok (v, rest)
  | v, 0, rest, _, steps, _ => absurd (dumps_pos f v) (by omega)
  | .null, n + 1, rest, _, _, _ => rfl
  | .bool true, n + 1, rest, _, _, _ => rfl
  | .bool false, n + 1, rest, _, _, _ => rfl
  | .int m, n + 1, rest, proper, _, ends => scanOnce_int f proper ends n
  | .float (.fin x), n + 1, rest, _, _, ends => scanOnce_float f x ends n
  | .float .nan, n + 1, rest, _, _, _ => rfl
  | .float .posInf, n + 1, rest, _, _, _ => rfl
  | .float .negInf, n + 1, rest, _, _, _ => rfl
  | .str s, n + 1, rest, _, _, _ => by
    rw [dumps, quoted, List.cons_append, List.append_assoc, List.singleton_append, scanOnce, scanString_escaped]
    rfl
  | .arr [], n + 1, rest, _, _, _ => rfl
  | .arr (v :: items), n + 1, rest, proper, steps, ends => by
    rw [dumps, List.length_cons, List.length_append] at steps
    have read := scanItems_dumps v items n rest proper.1 proper.2 (by omega)
    obtain ⟨c, cs, shape, visible, other⟩ := dumps_head f v
    rw [dumps, List.cons_append, scanOnce, List.append_assoc, skip_dumps]
    rw [List.append_assoc, shape, List.cons_append] at read
    rw [shape, List.cons_append]
    split
    · rename_i same
      cases same
      exact absurd rfl other
    · rw [read]
      rfl
  | .obj [], n + 1, rest, _, _, _ => rfl
  | .obj ((k, v) :: fields), n + 1, rest, proper, steps, ends => by
    obtain ⟨distinct, own, others⟩ := proper
    rw [dumps, List.length_cons, List.length_append, List.length_cons, List.length_cons, List.length_append] at steps
    have long := length_quoted k
    have read := scanFields_dumps k v fields n rest own others (by omega)
    rw [dumps, quoted]
    simp only [List.cons_append, List.append_assoc, List.nil_append] at read ⊢
    rw [scanOnce]
    change (scanFields f n _).map (fun p => (asDict p.1, p.2)) = _
    rw [read]
    exact congrArg Except.ok (Prod.ext (asDict_distinct distinct) rfl)

theorem scanItems_dumps : ∀ (v : Json K) (items : List (Json K)) (n : Nat) (rest : List Char), Proper v → ProperItems items →
    2 * ((dumps f v).length + (dumpsItems f items).length) + 1 ≤ n →
    scanItems f n (dumps f v ++ dumpsItems f items ++ rest) = .ok (v :: items, rest)
  | v, items, 0, rest, _, _, steps => by omega
  | v, [], n + 1, rest, own, _, steps => by
    rw [dumpsItems, List.append_assoc, List.singleton_append]
    apply scanItems_last
    exact scanOnce_dumps v n _ own (by omega) (endsNumber_cons rfl (by decide) (by decide) (by decide))
  | v, w :: items, n + 1, rest, own, others, steps => by
    rw [dumpsItems, List.length_cons, List.length_cons, List.length_append] at steps
    have later := scanItems_dumps w items n rest others.1 others.2 (by omega)
    rw [dumpsItems, List.append_assoc, List.cons_append, List.cons_append]
    have read := scanOnce_dumps v n (',' :: ' ' :: (dumps f w ++ dumpsItems f items ++ rest)) own (by omega)
      (endsNumber_cons rfl (by decide) (by decide) (by decide))
    refine scanItems_more f read ?_
    rw [show skip (' ' :: (dumps f w ++ dumpsItems f items ++ rest)) = skip (dumps f w ++ dumpsItems f items ++ rest) from rfl,
      List.append_assoc, skip_dumps, ← List.append_assoc]
    exact later

theorem scanFields_dumps : ∀ (k : String) (v : Json K) (fields : List (String × Json K)) (n : Nat) (rest : List Char), Proper v →
    ProperFields fields → 2 * ((dumps f v).length + (dumpsFields f fields).length) + 1 ≤ n →
    scanFields f n (escaped k.toList ++ '"' :: ':' :: ' ' :: (dumps f v ++ dumpsFields f fields ++ rest)) = .ok ((k, v) :: fields, rest)
  | k, v, fields, 0, rest, _, _, steps => by omega
  | k, v, [], n + 1, rest, own, _, steps => by
    apply scanFields_last
    rw [dumpsFields, List.append_assoc, List.singleton_append,
      show skip (' ' :: (dumps f v ++ '}' :: rest)) = skip (dumps f v ++ '}' :: rest) from rfl, skip_dumps]
    exact scanOnce_dumps v n _ own (by omega) (endsNumber_cons rfl (by decide) (by decide) (by decide))
  | k, v, (j, w) :: fields, n + 1, rest, own, others, steps => by
    rw [dumpsFields, List.length_cons, List.length_cons, List.length_append, List.length_cons, List.length_cons, List.length_append] at steps
    have long := length_quoted j
    have later := scanFields_dumps j w fields n rest others.1 others.2 (by omega)
    refine scanFields_more f ?_ later
    rw [dumpsFields, quoted]
    simp only [List.cons_append, List.append_assoc, List.nil_append]
    rw [show ∀ s, skip (' ' :: (dumps f v ++ s)) = skip (dumps f v ++ s) from fun _ => rfl, skip_dumps]
    exact scanOnce_dumps v n _ own (by omega) (endsNumber_cons rfl (by decide) (by decide) (by decide))

end

/-- What `dumps` writes, `loads` reads back. -/
theorem loads_dumps {v : Json K} (proper : Proper v) : loads f (dumps f v) = .ok v := by
  have start := skip_dumps f v []
  have read := scanOnce_dumps f v (2 * (dumps f v).length + 1) [] proper (by omega) endsNumber_nil
  rw [List.append_nil] at start read
  rw [loads, start, read]
  rfl

end

end KnowledgeGap.Llm
