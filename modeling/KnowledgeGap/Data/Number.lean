import Mathlib.Algebra.Order.Floor.Ring
import Mathlib.Algebra.Order.Field.Basic
import Mathlib.Tactic.Ring

namespace KnowledgeGap

variable {K : Type} [Field K]

def ratio (numerator denominator : Nat) : K := numerator / denominator

variable [LinearOrder K] [FloorRing K]

/-- The nearest integer, ties to the even one. -/
def roundHalfEven (x : K) : Int :=
  let below := ⌊x⌋
  let rest := x - below
  if rest < ratio 1 2 then below
  else if ratio 1 2 < rest then below + 1
  else if below % 2 = 0 then below
  else below + 1

def roundTo (places : Nat) (x : K) : K := (roundHalfEven (x * (10 : Nat) ^ places) : K) / (10 : Nat) ^ places

def fixed2 (x : K) : String :=
  let hundredths := roundHalfEven (x * (100 : Nat))
  let n := hundredths.natAbs
  let cents := n % 100
  (if hundredths < 0 then "-" else "") ++ toString (n / 100) ++ "." ++
    (if cents < 10 then "0" else "") ++ toString cents

def pySum (values : List K) : K := values.foldl (· + ·) 0

def mean (values : List K) : K := pySum values / values.length

def change : Option K → Option K → Option K
  | some pre, some post => some (post - pre)
  | _, _ => none

def gain (pre : K) : Option K → K
  | some post => post - pre
  | none => 0

def adjust (delta : K) : Option K → K
  | some classDelta => delta - classDelta
  | none => delta

end KnowledgeGap
