import KnowledgeGap.Data.Integer
import KnowledgeGap.Text.Bytes

namespace KnowledgeGap.Auth

open Text

/-- `hashlib.pbkdf2_hmac("sha256", ..)`: password, salt, iterations. -/
structure Pbkdf2 where
  hash : String → Bytes → Nat → Bytes
  length_hash : ∀ password salt iterations, (hash password salt iterations).length = 32

def byteDigit (c : Char) : Option Nat := if c.isDigit then some (c.toNat - '0'.toNat) else none

theorem byteDigit_ascii (c : Char) (digit : c.isDigit) : byteDigit c = some (c.toNat - '0'.toNat) := if_pos digit

theorem byteDigit_minus : byteDigit '-' = none := rfl

theorem space_minus : isAsciiSpace '-' = false := rfl

theorem space_digit (c : Char) (digit : c.isDigit) : isAsciiSpace c = false := by
  rw [Char.isDigit, Bool.and_eq_true, decide_eq_true_eq, decide_eq_true_eq] at digit
  have low : 48 ≤ c.toNat := digit.1
  rw [isAsciiSpace, Bool.or_eq_false_iff, decide_eq_false_iff_not, beq_eq_false_iff_ne]
  omega

/-- What `int` makes of bytes: they are digits, signs and blanks of ASCII or nothing. -/
def byteCharacters : Characters where
  digit := byteDigit
  blank := isAsciiSpace
  digit_ascii := byteDigit_ascii
  digit_minus := byteDigit_minus
  blank_minus := space_minus
  blank_digit := space_digit

def pbkdf2Iters : Nat := 60000

def currentPbkdf2Iters : Nat := 120000

def passwordHashPrefix : Bytes := encodeAscii "pbkdf2-sha256".toList

def dollar : UInt8 := 36

/-- What stored bytes say of how to check a password. -/
structure Stored where
  iterations : Nat
  expected : Bytes
  needsUpgrade : Bool
  deriving DecidableEq

/-- The reading of stored bytes at the head of `verify_password`; nothing where the mark is malformed. -/
def readStored (stored : Bytes) : Option Stored :=
  if (passwordHashPrefix ++ [dollar]).isPrefixOf stored then
    match splitAtMost dollar 2 stored with
    | [algorithm, count, digest] =>
      if algorithm = passwordHashPrefix then
        (byteCharacters.readInt (String.ofList (latin count))).bind fun iterations =>
          ((decodeAscii digest).bind fromHex).bind fun expected =>
            if iterations ≤ 0 ∨ expected.length ≠ 32 then none
            else some ⟨iterations.toNat, expected, decide (iterations < currentPbkdf2Iters)⟩
      else none
    | _ => none
  else some ⟨pbkdf2Iters, stored, true⟩

/-- The outcome of a check, with the iterations of the derivation it has cost. -/
structure Checked where
  valid : Bool
  needsUpgrade : Bool
  spent : Nat
  deriving DecidableEq

/-- `_burn_password_hash_budget` -/
def burnPasswordHashBudget (iterations : Nat) : Nat := currentPbkdf2Iters - iterations

section
variable (kdf : Pbkdf2)

def hashPasswordForStorage (password : String) (salt : Bytes) (iterations : Nat) : Bytes :=
  passwordHashPrefix ++ [dollar] ++ encodeAscii (toString (iterations : Int)).toList ++ [dollar] ++
    encodeAscii (hex (kdf.hash password salt iterations))

def verifyPassword (password : String) (salt stored : Bytes) : Checked :=
  match readStored stored with
  | none => ⟨false, false, burnPasswordHashBudget 0⟩
  | some found =>
    let valid := decide (kdf.hash password salt found.iterations = found.expected)
    ⟨valid, valid && found.needsUpgrade, found.iterations + if valid then 0 else burnPasswordHashBudget found.iterations⟩

/-! What is stored is read back. -/

theorem isAscii_toDigits (n : Nat) : IsAscii (Nat.toDigits 10 n) := by
  intro c member
  have digit := Nat.isDigit_of_mem_toDigits (by omega) (by omega) member
  rw [Char.isDigit, Bool.and_eq_true, decide_eq_true_eq, decide_eq_true_eq] at digit
  have high : c.toNat ≤ 57 := digit.2
  omega

theorem toList_toString_natCast (n : Nat) : (toString (n : Int)).toList = Nat.toDigits 10 n := by
  rw [toList_toString, if_neg (by omega), Int.natAbs_natCast]

theorem dollar_absent {n : Nat} : dollar ∉ encodeAscii (toString (n : Int)).toList := by
  rw [toList_toString_natCast]
  intro member
  have digit := (mem_encodeAscii (isAscii_toDigits n) (d := '$') (by decide)).mp member
  exact absurd (Nat.isDigit_of_mem_toDigits (by omega) (by omega) digit) (by decide)

/-- What the derivation takes as a number of iterations has few digits. -/
theorem length_toDigits_le {n : Nat} (small : n ≤ 2147483647) : (Nat.toDigits 10 n).length ≤ Characters.maxDigits := by
  have short : (Nat.toDigits 10 n).length ≤ 10 := (Nat.length_toDigits_le_iff (by omega) (by omega)).mpr (by omega)
  rw [Characters.maxDigits]
  omega

theorem readStored_hashPasswordForStorage (password : String) (salt : Bytes) {iterations : Nat} (positive : 0 < iterations)
    (small : iterations ≤ 2147483647) : readStored (hashPasswordForStorage kdf password salt iterations) =
      some ⟨iterations, kdf.hash password salt iterations, decide (iterations < currentPbkdf2Iters)⟩ := by
  have shape : hashPasswordForStorage kdf password salt iterations = passwordHashPrefix ++ dollar ::
      (encodeAscii (toString (iterations : Int)).toList ++ dollar :: encodeAscii (hex (kdf.hash password salt iterations))) := by
    simp only [hashPasswordForStorage, List.append_assoc, List.cons_append, List.nil_append]
  have marked : (passwordHashPrefix ++ [dollar]).isPrefixOf (hashPasswordForStorage kdf password salt iterations) = true := by
    rw [List.isPrefixOf_iff_prefix, shape, ← List.singleton_append, ← List.append_assoc]
    exact List.prefix_append _ _
  have cut : splitAtMost dollar 2 (hashPasswordForStorage kdf password salt iterations) = [passwordHashPrefix,
      encodeAscii (toString (iterations : Int)).toList, encodeAscii (hex (kdf.hash password salt iterations))] := by
    rw [shape, splitAtMost_of_absent (by decide), splitAtMost_of_absent dollar_absent]
    rfl
  have number : byteCharacters.readInt (String.ofList (latin (encodeAscii (toString (iterations : Int)).toList))) =
      some (iterations : Int) := by
    rw [latin_encodeAscii (by rw [toList_toString_natCast]; exact isAscii_toDigits iterations), String.ofList_toList]
    exact byteCharacters.readInt_writeInt (by rw [writeInt, Int.natAbs_natCast, if_pos (length_toDigits_le small)])
  have digest : (decodeAscii (encodeAscii (hex (kdf.hash password salt iterations)))).bind fromHex =
      some (kdf.hash password salt iterations) := by
    rw [decodeAscii_encodeAscii (isAscii_hex _), Option.bind_some, fromHex_hex]
  rw [readStored, if_pos marked, cut]
  simp only [if_true, number, digest, Option.bind_some]
  have cheap : decide ((iterations : Int) < (currentPbkdf2Iters : Int)) = decide (iterations < currentPbkdf2Iters) :=
    decide_eq_decide.mpr (by omega)
  rw [if_neg (by rw [kdf.length_hash]; omega), Int.toNat_natCast, cheap]

/-- What is stored of a password opens to the passwords of its digest, calls for an upgrade where it is cheaper than the
    current cost, and lets no other password off with less than that cost. -/
theorem verifyPassword_hashPasswordForStorage (password attempt : String) (salt : Bytes) (iterations : Nat)
    (positive : 0 < iterations) (small : iterations ≤ 2147483647) :
    verifyPassword kdf attempt salt (hashPasswordForStorage kdf password salt iterations) =
      if kdf.hash attempt salt iterations = kdf.hash password salt iterations then
        ⟨true, decide (iterations < currentPbkdf2Iters), iterations⟩
      else ⟨false, false, max iterations currentPbkdf2Iters⟩ := by
  rw [verifyPassword, readStored_hashPasswordForStorage kdf password salt positive small]
  by_cases same : kdf.hash attempt salt iterations = kdf.hash password salt iterations
  · simp only [same, decide_true, Bool.true_and, if_true, Nat.add_zero]
  · have cost : iterations + burnPasswordHashBudget iterations = max iterations currentPbkdf2Iters := by
      rw [burnPasswordHashBudget]
      omega
    simp only [same, decide_false, Bool.false_and, Bool.false_eq_true, if_false, cost]

end

def legacySalt : Bytes := (List.range 16).map UInt8.ofNat

def upgradeSalt : Bytes := (List.range' 16 16).map UInt8.ofNat

def pupilSalt : Bytes := (List.range' 32 16).map UInt8.ofNat

/-- The digests of the real derivation, for the passwords and salts below. -/
def digests (password : String) (salt : Bytes) (iterations : Nat) : Bytes :=
  if password = "pass123" ∧ salt = legacySalt ∧ iterations = 60000 then
    [181, 148, 232, 173, 37, 173, 76, 131, 140, 41, 75, 208, 36, 74, 88, 0, 63, 170, 152, 117, 11, 119, 233, 125, 52, 20, 42, 9, 58, 249, 170, 119]
  else if password = "pass123" ∧ salt = upgradeSalt ∧ iterations = 120000 then
    [32, 27, 6, 216, 177, 19, 121, 235, 132, 55, 112, 118, 27, 255, 94, 32, 208, 172, 87, 124, 185, 19, 134, 237, 177, 96, 249, 19, 128, 20, 115, 201]
  else if password = "wrong" ∧ salt = upgradeSalt ∧ iterations = 120000 then
    [175, 189, 31, 54, 54, 238, 114, 217, 6, 243, 119, 125, 119, 127, 218, 238, 191, 8, 25, 180, 198, 59, 89, 234, 208, 48, 65, 58, 250, 214, 98, 240]
  else if password = "pass456" ∧ salt = pupilSalt ∧ iterations = 120000 then
    [73, 138, 227, 122, 209, 156, 28, 117, 50, 63, 59, 181, 64, 59, 151, 220, 135, 172, 135, 105, 121, 218, 139, 204, 95, 3, 85, 197, 183, 191, 163, 254]
  else List.replicate 32 0

def digestKdf : Pbkdf2 where
  hash := digests
  length_hash := by
    intro password salt iterations
    rw [digests]
    split
    · rfl
    · split
      · rfl
      · split
        · rfl
        · split
          · rfl
          · exact List.length_replicate

theorem verifyPassword_hashPasswordForStorage_wrong :
    verifyPassword digestKdf "wrong" upgradeSalt (hashPasswordForStorage digestKdf "pass123" upgradeSalt 120000) =
      ⟨false, false, 120000⟩ :=
  (verifyPassword_hashPasswordForStorage digestKdf "pass123" "wrong" upgradeSalt 120000 (by decide) (by decide)).trans
    (if_neg (by decide +kernel))

end KnowledgeGap.Auth
