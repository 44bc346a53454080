import Mathlib.Data.Nat.Notation
import Mathlib.Tactic.Common

namespace Text

abbrev Bytes := List UInt8

section
variable {α : Type} [DecidableEq α]

/-- A list taken apart at a separator, with so many cuts at most. -/
def splitAtMost (sep : α) : Nat → List α → List (List α)
  | 0, xs => [xs]
  | n + 1, xs =>
    match xs.dropWhile (fun x => decide (x ≠ sep)) with
    | [] => [xs]
    | _ :: rest => xs.takeWhile (fun x => decide (x ≠ sep)) :: splitAtMost sep n rest

theorem span_of_absent {sep : α} {first : List α} (absent : sep ∉ first) (rest : List α) :
    (first ++ sep :: rest).dropWhile (fun x => decide (x ≠ sep)) = sep :: rest ∧
      (first ++ sep :: rest).takeWhile (fun x => decide (x ≠ sep)) = first := by
  induction first with
  | nil => simp
  | cons x first ih =>
    obtain ⟨other, later⟩ := not_or.mp (mt List.mem_cons.mpr absent)
    have here : decide (x ≠ sep) = true := decide_eq_true (fun same => other same.symm)
    obtain ⟨dropped, taken⟩ := ih later
    rw [List.cons_append, List.dropWhile_cons, List.takeWhile_cons, if_pos here, dropped, here, taken]
    exact ⟨rfl, rfl⟩

theorem splitAtMost_of_absent {sep : α} {first : List α} (absent : sep ∉ first) (n : Nat) (rest : List α) :
    splitAtMost sep (n + 1) (first ++ sep :: rest) = first :: splitAtMost sep n rest := by
  obtain ⟨dropped, taken⟩ := span_of_absent absent rest
  rw [splitAtMost, dropped, taken]

end

/-! ASCII. -/

def encodeAscii (text : List Char) : Bytes := text.map fun c => UInt8.ofNat c.toNat

/-- Every byte as the character of its number. -/
def latin (bytes : Bytes) : List Char := bytes.map fun b => Char.ofNat b.toNat

def decodeAscii (bytes : Bytes) : Option (List Char) :=
  if bytes.all (fun b => decide (b.toNat < 128)) then some (latin bytes) else none

def IsAscii (text : List Char) : Prop := ∀ c ∈ text, c.toNat < 128

theorem toNat_encode {c : Char} (ascii : c.toNat < 128) : (UInt8.ofNat c.toNat).toNat = c.toNat := by
  rw [UInt8.toNat_ofNat']
  omega

theorem latin_encodeAscii {text : List Char} (ascii : IsAscii text) : latin (encodeAscii text) = text := by
  rw [latin, encodeAscii, List.map_map]
  conv_rhs => rw [← List.map_id text]
  apply List.map_congr_left
  intro c member
  rw [Function.comp_apply, toNat_encode (ascii c member), Char.ofNat_toNat]
  rfl

theorem decodeAscii_encodeAscii {text : List Char} (ascii : IsAscii text) : decodeAscii (encodeAscii text) = some text := by
  rw [decodeAscii, if_pos, latin_encodeAscii ascii]
  rw [encodeAscii, List.all_map, List.all_eq_true]
  intro c member
  rw [Function.comp_apply, toNat_encode (ascii c member)]
  exact decide_eq_true (ascii c member)

theorem mem_encodeAscii {text : List Char} (ascii : IsAscii text) {d : Char} (small : d.toNat < 128) :
    UInt8.ofNat d.toNat ∈ encodeAscii text ↔ d ∈ text := by
  rw [encodeAscii, List.mem_map]
  constructor
  · rintro ⟨c, member, same⟩
    have number : c.toNat = d.toNat := by
      rw [← toNat_encode (ascii c member), ← toNat_encode small, same]
    rwa [Char.toNat_inj.mp number] at member
  · intro member
    exact ⟨d, member, rfl⟩

/-! Base sixteen. -/

def hexValue (c : Char) : Option Nat :=
  if '0' ≤ c ∧ c ≤ '9' then some (c.toNat - '0'.toNat)
  else if 'a' ≤ c ∧ c ≤ 'f' then some (c.toNat - 'a'.toNat + 10)
  else if 'A' ≤ c ∧ c ≤ 'F' then some (c.toNat - 'A'.toNat + 10)
  else none

def isAsciiSpace (c : Char) : Bool := decide (9 ≤ c.toNat ∧ c.toNat ≤ 13) || c.toNat == 32

/-- Two lower-case digits a byte. -/
def hex (bytes : Bytes) : List Char := bytes.flatMap fun b => [Nat.digitChar (b.toNat / 16), Nat.digitChar (b.toNat % 16)]

/-- Digits of either case in pairs; white space may stand between two bytes, not within one. -/
def fromHex : List Char → Option Bytes
  | [] => some []
  | [c] => if isAsciiSpace c then some [] else none
  | c :: d :: rest =>
    if isAsciiSpace c then fromHex (d :: rest)
    else
      match hexValue c, hexValue d with
      | some high, some low => (fromHex rest).map (UInt8.ofNat (16 * high + low) :: ·)
      | _, _ => none

theorem digitChar_hex : ∀ n < 16, hexValue (Nat.digitChar n) = some n ∧ isAsciiSpace (Nat.digitChar n) = false ∧
    (Nat.digitChar n).toNat < 128 := by
  decide

theorem fromHex_hex (bytes : Bytes) : fromHex (hex bytes) = some bytes := by
  induction bytes with
  | nil => rfl
  | cons b rest ih =>
    have bound := b.toNat_lt
    obtain ⟨high, tight, -⟩ := digitChar_hex (b.toNat / 16) (by omega)
    obtain ⟨low, -, -⟩ := digitChar_hex (b.toNat % 16) (by omega)
    change fromHex (Nat.digitChar (b.toNat / 16) :: Nat.digitChar (b.toNat % 16) :: hex rest) = _
    rw [fromHex, tight, if_neg Bool.false_ne_true, high, low]
    change (fromHex (hex rest)).map _ = _
    rw [ih, Option.map_some, Nat.div_add_mod, UInt8.ofNat_toNat]

theorem isAscii_hex (bytes : Bytes) : IsAscii (hex bytes) := by
  intro c member
  obtain ⟨b, -, spelled⟩ := List.mem_flatMap.mp member
  have bound := b.toNat_lt
  rcases List.mem_cons.mp spelled with rfl | second
  · exact (digitChar_hex (b.toNat / 16) (by omega)).2.2
  · rw [List.mem_singleton.mp second]
    exact (digitChar_hex (b.toNat % 16) (by omega)).2.2

end Text
