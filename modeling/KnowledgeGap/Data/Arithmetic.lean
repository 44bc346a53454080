import KnowledgeGap.Data.Float
import Mathlib.Data.Rat.Floor

namespace KnowledgeGap

/-- What the exact result of an operation becomes as a float. -/
structure Arithmetic (K : Type) where
  fit : K → PyFloat K

namespace Arithmetic

variable {K : Type}

/-- Nothing is rounded and nothing overflows. -/
def exact : Arithmetic K := ⟨.fin⟩

section
variable [Field K] (arith : Arithmetic K)

def add : PyFloat K → PyFloat K → PyFloat K
  | .fin x, .fin y => arith.fit (x + y)
  | x, y => x.add y

def sub (x y : PyFloat K) : PyFloat K := arith.add x y.neg

def sum (values : List (PyFloat K)) : PyFloat K := values.foldl arith.add (.fin 0)

/-- The quotient, where the divisor is not zero. -/
def div [LinearOrder K] : PyFloat K → PyFloat K → PyFloat K
  | .fin x, .fin y => arith.fit (x / y)
  | .fin _, .posInf | .fin _, .negInf => .fin 0
  | .posInf, .fin y => if y < 0 then .negInf else .posInf
  | .negInf, .fin y => if y < 0 then .posInf else .negInf
  | _, _ => .nan

def round [LinearOrder K] [FloorRing K] (places : Nat) : PyFloat K → PyFloat K
  | .fin x => arith.fit (roundTo places x)
  | x => x

end

section
variable [Field K]

theorem exact_add : (exact : Arithmetic K).add = PyFloat.add := by
  funext x y
  cases x <;> cases y <;> rfl

@[simp] theorem exact_sub (x y : PyFloat K) : exact.sub x y = x.sub y := by
  rw [sub, exact_add, PyFloat.sub]

@[simp] theorem exact_sum (values : List (PyFloat K)) : exact.sum values = PyFloat.sum values := by
  rw [sum, exact_add, PyFloat.sum]

@[simp] theorem exact_round [LinearOrder K] [FloorRing K] (places : Nat) (x : PyFloat K) :
    exact.round places x = x.round places := by
  cases x <;> rfl

end

end Arithmetic

/-! Binary64. -/

/-- The exponent of the last place of the floats next to a number. -/
def lastPlace (x : ℚ) : Int :=
  let e : Int := (x.num.natAbs.log2 : Int) - x.den.log2
  max (-1074) ((if |x| < 2 ^ e then e - 1 else e) - 52)

/-- The nearest float, short of overflow; the even one of two. -/
def nearest (x : ℚ) : ℚ := roundHalfEven (x / 2 ^ lastPlace x) * 2 ^ lastPlace x

def binary64 : Arithmetic ℚ where
  fit x := if |nearest x| < 2 ^ 1024 then .fin (nearest x) else if 0 < x then .posInf else .negInf

/-- A tenth and a fifth are not three tenths. -/
example : binary64.sum [binary64.fit (1 / 10), binary64.fit (2 / 10)] = .fin (5404319552844596 / 2 ^ 54) ∧
    binary64.fit (3 / 10) = .fin (5404319552844595 / 2 ^ 54) := by decide +kernel

end KnowledgeGap
