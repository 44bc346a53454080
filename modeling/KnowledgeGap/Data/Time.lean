import Mathlib.Tactic.Common

namespace KnowledgeGap

/-- Naive timestamps count microseconds, the resolution of `datetime`. -/
abbrev DateTime := Int

/-- Calendar dates count days from 1970-01-01. -/
abbrev Date := Int

def seconds (n : Nat) : Int := n * 1000000

def day : Int := seconds 86400

def dateOf (t : DateTime) : Date := t / day

/-- `timedelta.days`, rounded towards the past as `timedelta` does. -/
def daysOf (delta : Int) : Int := delta / day

def noon (d : Date) : DateTime := d * day + seconds 43200

def dayEnd (d : Date) : DateTime := d * day + seconds 86340

/-- Year, month and day of the proleptic Gregorian calendar, counted in eras of 400 years that start
    in March. -/
def civil (d : Date) : Int × Int × Int :=
  let z := d + 719468
  let era := z / 146097
  let doe := z % 146097
  let yoe := (doe - doe / 1460 + doe / 36524 - doe / 146096) / 365
  let doy := doe - (365 * yoe + yoe / 4 - yoe / 100)
  let mp := (5 * doy + 2) / 153
  let m := if mp < 10 then mp + 3 else mp - 9
  (yoe + era * 400 + (if m ≤ 2 then 1 else 0), m, doy - (153 * mp + 2) / 5 + 1)

theorem toString_injective {left right : Nat} (same : toString left = toString right) : left = right := by
  have chars : Nat.toDigits 10 left = Nat.toDigits 10 right := by
    have texts := congrArg String.toList same
    simpa only [Nat.toString_eq_repr, Nat.toList_repr] using texts
  calc
    left = Nat.ofDigitChars 10 (Nat.toDigits 10 left) 0 := Nat.ofDigitChars_ten_toDigits.symm
    _ = Nat.ofDigitChars 10 (Nat.toDigits 10 right) 0 := by rw [chars]
    _ = right := Nat.ofDigitChars_ten_toDigits

def padded (width : Nat) (n : Int) : String :=
  let text := toString n.natAbs
  String.ofList (List.replicate (width - text.length) '0') ++ text

def isoDate (d : Date) : String :=
  let (y, m, day) := civil d
  padded 4 y ++ "-" ++ padded 2 m ++ "-" ++ padded 2 day

example : isoDate 0 = "1970-01-01" := by decide
example : isoDate 19782 = "2024-02-29" := by decide

end KnowledgeGap
