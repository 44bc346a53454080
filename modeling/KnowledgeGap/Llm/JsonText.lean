import KnowledgeGap.Data.Integer
import KnowledgeGap.Ingestion.PhotoScores

namespace KnowledgeGap.Llm

open Relational Ingestion

/-! `json.dumps` -/

/-- What may follow a number without belonging to it. -/
def EndsNumber (rest : List Char) : Prop := ∀ c more, rest = c :: more → c.isDigit = false ∧ c ≠ '.' ∧ c ≠ 'e' ∧ c ≠ 'E'

/-- A character that stands in a number. -/
def numeric (c : Char) : Bool := c.isDigit || c == '-' || c == '+' || c == '.' || c == 'e' || c == 'E'

/-- The parts of a number: its sign, whole digits, fraction and exponent, and what follows it. -/
structure Numeral where
  sign : List Char
  whole : List Char
  fraction : List Char
  exponent : List Char
  rest : List Char
  deriving DecidableEq, Repr

def digitsOf (s : List Char) : List Char × List Char := (s.takeWhile Char.isDigit, s.dropWhile Char.isDigit)

def scanFraction : List Char → List Char × List Char
  | '.' :: rest =>
    match digitsOf rest with
    | ([], _) => ([], '.' :: rest)
    | (digits, more) => ('.' :: digits, more)
  | s => ([], s)

/-- The digits of an exponent, under the characters before them. -/
def scanPower (before rest whole : List Char) : List Char × List Char :=
  match digitsOf rest with
  | ([], _) => ([], whole)
  | (digits, more) => (before ++ digits, more)

def scanExponent (s : List Char) : List Char × List Char :=
  match s with
  | c :: rest =>
    if c = 'e' ∨ c = 'E' then
      match rest with
      | sign :: more => if sign = '+' ∨ sign = '-' then scanPower [c, sign] more s else scanPower [c] rest s
      | [] => ([], s)
    else ([], s)
  | [] => ([], s)

def scanTail (sign whole s : List Char) : Numeral :=
  let fraction := scanFraction s
  let exponent := scanExponent fraction.2
  ⟨sign, whole, fraction.1, exponent.1, exponent.2⟩

def scanWhole (sign : List Char) : List Char → Option Numeral
  | '0' :: rest => some (scanTail sign ['0'] rest)
  | s =>
    match digitsOf s with
    | ([], _) => none
    | (digits, rest) => some (scanTail sign digits rest)

/-- `(-?(?:0|[1-9]\d*))(\.\d+)?([eE][-+]?\d+)?` -/
def scanNumeral : List Char → Option Numeral
  | '-' :: rest => scanWhole ['-'] rest
  | s => scanWhole [] s

/-- How the language writes a finite float, and how it reads the text of a number with a fraction or an exponent. -/
structure FloatText (K : Type) where
  repr : K → List Char
  float : List Char → PyFloat K
  float_repr : ∀ x, float (repr x) = .fin x
  numeric_repr : ∀ x, ∀ c ∈ repr x, numeric c = true
  scan_repr : ∀ x rest, EndsNumber rest → ∃ n, scanNumeral (repr x ++ rest) = some n ∧ n.rest = rest ∧
    n.sign ++ n.whole ++ n.fraction ++ n.exponent = repr x ∧ ¬ (n.fraction = [] ∧ n.exponent = [])

def unicodeEscape (n : Nat) : List Char :=
  ['\\', 'u', Nat.digitChar (n / 4096), Nat.digitChar (n / 256 % 16), Nat.digitChar (n / 16 % 16), Nat.digitChar (n % 16)]

/-- The characters with a short escape, and its second character. -/
def shortEscape (c : Char) : Option Char :=
  if c = '"' then some '"' else if c = '\\' then some '\\' else if c = '\n' then some 'n' else if c = '\r' then some 'r'
  else if c = '\t' then some 't' else if c.toNat = 12 then some 'f' else if c.toNat = 8 then some 'b' else none

def highHalf (n : Nat) : Nat := 55296 + (n - 65536) / 1024

def lowHalf (n : Nat) : Nat := 56320 + (n - 65536) % 1024

/-- Everything beyond printable ASCII is escaped, in two halves where sixteen bits do not hold it. -/
def escapeChar (c : Char) : List Char :=
  match shortEscape c with
  | some e => ['\\', e]
  | none =>
    if 32 ≤ c.toNat ∧ c.toNat ≤ 126 then [c]
    else if c.toNat < 65536 then unicodeEscape c.toNat
    else unicodeEscape (highHalf c.toNat) ++ unicodeEscape (lowHalf c.toNat)

def escaped (s : List Char) : List Char := s.flatMap escapeChar

def quoted (s : String) : List Char := '"' :: (escaped s.toList ++ ['"'])

section
variable {K : Type} (f : FloatText K)

def floatChars : PyFloat K → List Char
  | .fin x => f.repr x
  | .nan => ['N', 'a', 'N']
  | .posInf => ['I', 'n', 'f', 'i', 'n', 'i', 't', 'y']
  | .negInf => ['-', 'I', 'n', 'f', 'i', 'n', 'i', 't', 'y']

mutual

def dumps : Json K → List Char
  | .null => ['n', 'u', 'l', 'l']
  | .bool true => ['t', 'r', 'u', 'e']
  | .bool false => ['f', 'a', 'l', 's', 'e']
  | .int n => (toString n).toList
  | .float x => floatChars f x
  | .str s => quoted s
  | .arr [] => ['[', ']']
  | .arr (v :: items) => '[' :: (dumps v ++ dumpsItems items)
  | .obj [] => ['{', '}']
  | .obj ((k, v) :: fields) => '{' :: (quoted k ++ ':' :: ' ' :: (dumps v ++ dumpsFields fields))

def dumpsItems : List (Json K) → List Char
  | [] => [']']
  | v :: items => ',' :: ' ' :: (dumps v ++ dumpsItems items)

def dumpsFields : List (String × Json K) → List Char
  | [] => ['}']
  | (k, v) :: fields => ',' :: ' ' :: (quoted k ++ ':' :: ' ' :: (dumps v ++ dumpsFields fields))

end

end

/-! `json.loads` -/

inductive JsonError
  | expectingValue
  | expectingName
  | expectingColon
  | expectingComma
  | extraData
  | unterminated
  | control
  | badEscape
  /-- Half a character, which the strings here do not hold. -/
  | loneHalf
  /-- A number with more digits than `int` reads. -/
  | tooLong
  /-- Never met: the texts are shorter than what they are read with. -/
  | exhausted
  deriving DecidableEq, Repr

def hexValue (c : Char) : Option Nat :=
  if c.isDigit then some (c.toNat - 48)
  else if 97 ≤ c.toNat ∧ c.toNat ≤ 102 then some (c.toNat - 87)
  else if 65 ≤ c.toNat ∧ c.toNat ≤ 70 then some (c.toNat - 55)
  else none

def hex4 (a b c d : Char) : Option Nat :=
  match hexValue a, hexValue b, hexValue c, hexValue d with
  | some a, some b, some c, some d => some (4096 * a + 256 * b + 16 * c + d)
  | _, _, _, _ => none

def unescape : Char → Option Char
  | '"' => some '"'
  | '\\' => some '\\'
  | '/' => some '/'
  | 'b' => some (Char.ofNat 8)
  | 'f' => some (Char.ofNat 12)
  | 'n' => some '\n'
  | 'r' => some '\r'
  | 't' => some '\t'
  | _ => none

/-- What a string literal is made of: characters, and codes of sixteen bits. -/
inductive CodeUnit
  | char (c : Char)
  | code (n : Nat)
  deriving DecidableEq, Repr

/-- The units of a string literal whose opening quote is read, and what follows the closing one. -/
def scanUnits : List Char → Except JsonError (List CodeUnit × List Char)
  | [] => .error .unterminated
  | '"' :: rest => .ok ([], rest)
  | '\\' :: 'u' :: a :: b :: c :: d :: rest =>
    match hex4 a b c d with
    | none => .error .badEscape
    | some n => (scanUnits rest).map fun p => (.code n :: p.1, p.2)
  | '\\' :: e :: rest =>
    match unescape e with
    | none => .error .badEscape
    | some c => (scanUnits rest).map fun p => (.char c :: p.1, p.2)
  | c :: rest => if c.toNat < 32 then .error .control else (scanUnits rest).map fun p => (.char c :: p.1, p.2)

def isHigh (n : Nat) : Bool := decide (55296 ≤ n ∧ n < 56320)

def isLow (n : Nat) : Bool := decide (56320 ≤ n ∧ n < 57344)

/-- Two halves that follow each other are one character. -/
def joined : List CodeUnit → Option (List Char)
  | [] => some []
  | .char c :: units => (joined units).map (c :: ·)
  | .code n :: .code m :: units =>
    if isHigh n && isLow m then (joined units).map (Char.ofNat (65536 + 1024 * (n - 55296) + (m - 56320)) :: ·)
    else if isHigh n || isLow n then none
    else (joined (.code m :: units)).map (Char.ofNat n :: ·)
  | .code n :: units => if isHigh n || isLow n then none else (joined units).map (Char.ofNat n :: ·)

def scanString (s : List Char) : Except JsonError (String × List Char) :=
  match scanUnits s with
  | .error e => .error e
  | .ok (units, rest) =>
    match joined units with
    | none => .error .loneHalf
    | some chars => .ok (String.ofList chars, rest)

def isJsonSpace (c : Char) : Bool := c == ' ' || c == '\t' || c == '\n' || c == '\r'

def skip (s : List Char) : List Char := s.dropWhile isJsonSpace

def signedValue (n : Numeral) : Int :=
  if n.sign = [] then (Nat.ofDigitChars 10 n.whole 0 : Nat) else -((Nat.ofDigitChars 10 n.whole 0 : Nat) : Int)

section
variable {K : Type} (f : FloatText K)

def scanNumber (s : List Char) : Except JsonError (Json K × List Char) :=
  match scanNumeral s with
  | none => .error .expectingValue
  | some n =>
    if n.fraction = [] ∧ n.exponent = [] then
      if Characters.maxDigits < n.whole.length then .error .tooLong else .ok (.int (signedValue n), n.rest)
    else .ok (.float (f.float (n.sign ++ n.whole ++ n.fraction ++ n.exponent)), n.rest)

/-- `dict(pairs)` -/
def asDict (pairs : List (String × Json K)) : Json K := .obj (Dict.ofList pairs).entries

/-- The end of a field, and the fields after it, which `later` reads. -/
def scanMore (later : List Char → Except JsonError (List (String × Json K) × List Char)) (k : String) (v : Json K) :
    List Char → Except JsonError (List (String × Json K) × List Char)
  | '}' :: more => .ok ([(k, v)], more)
  | ',' :: more =>
    match skip more with
    | '"' :: more => (later more).map fun p => ((k, v) :: p.1, p.2)
    | _ => .error .expectingName
  | _ => .error .expectingComma

/-- A field whose value is read. -/
def scanValue (later : List Char → Except JsonError (List (String × Json K) × List Char)) (k : String) :
    Except JsonError (Json K × List Char) → Except JsonError (List (String × Json K) × List Char)
  | .error e => .error e
  | .ok (v, rest) => scanMore later k v (skip rest)

mutual

/-- `scan_once`; two steps take a character at least, so that twice as many steps as there are characters are enough. -/
def scanOnce : Nat → List Char → Except JsonError (Json K × List Char)
  | 0, _ => .error .exhausted
  | n + 1, s =>
    match s with
    | '"' :: rest => (scanString rest).map fun p => (.str p.1, p.2)
    | '{' :: rest =>
      match skip rest with
      | '}' :: more => .ok (.obj [], more)
      | '"' :: more => (scanFields n more).map fun p => (asDict p.1, p.2)
      | _ => .error .expectingName
    | '[' :: rest =>
      match skip rest with
      | ']' :: more => .ok (.arr [], more)
      | more => (scanItems n more).map fun p => (.arr p.1, p.2)
    | 'n' :: 'u' :: 'l' :: 'l' :: rest => .ok (.null, rest)
    | 't' :: 'r' :: 'u' :: 'e' :: rest => .ok (.bool true, rest)
    | 'f' :: 'a' :: 'l' :: 's' :: 'e' :: rest => .ok (.bool false, rest)
    | 'N' :: 'a' :: 'N' :: rest => .ok (.float .nan, rest)
    | 'I' :: 'n' :: 'f' :: 'i' :: 'n' :: 'i' :: 't' :: 'y' :: rest => .ok (.float .posInf, rest)
    | '-' :: 'I' :: 'n' :: 'f' :: 'i' :: 'n' :: 'i' :: 't' :: 'y' :: rest => .ok (.float .negInf, rest)
    | s => scanNumber f s

/-- The items from the first one on, up to the closing bracket. -/
def scanItems : Nat → List Char → Except JsonError (List (Json K) × List Char)
  | 0, _ => .error .exhausted
  | n + 1, s =>
    match scanOnce n s with
    | .error e => .error e
    | .ok (v, rest) =>
      match skip rest with
      | ']' :: more => .ok ([v], more)
      | ',' :: more => (scanItems n (skip more)).map fun p => (v :: p.1, p.2)
      | _ => .error .expectingComma

/-- The fields from the first name on, its opening quote being read, up to the closing brace. -/
def scanFields : Nat → List Char → Except JsonError (List (String × Json K) × List Char)
  | 0, _ => .error .exhausted
  | n + 1, s =>
    match scanString s with
    | .error e => .error e
    | .ok (k, rest) =>
      match skip rest with
      | ':' :: more => scanValue (scanFields n) k (scanOnce n (skip more))
      | _ => .error .expectingColon

end

def loads (s : List Char) : Except JsonError (Json K) :=
  match scanOnce f (2 * s.length + 1) (skip s) with
  | .error e => .error e
  | .ok (v, rest) => if skip rest = [] then .ok v else .error .extraData

end

end KnowledgeGap.Llm
