import KnowledgeGap.Data.Outcome
import KnowledgeGap.Llm.JsonRoundTrip

namespace KnowledgeGap.Llm

open Relational Ingestion

/-- The quotes of a text that no backslash stands before. -/
def quotes : List Char → Nat
  | [] => 0
  | '\\' :: _ :: rest => quotes rest
  | '"' :: rest => quotes rest + 1
  | _ :: rest => quotes rest

/-- Inside a string or outside of it, after a text in which backslashes and backticks stand inside of strings only. -/
def walk : Bool → List Char → Option Bool
  | inside, [] => some inside
  | inside, '\\' :: c :: rest => if inside && c != '`' then walk inside rest else none
  | inside, '"' :: rest => walk (!inside) rest
  | inside, c :: rest => if c = '\\' ∨ (c = '`' ∧ inside = false) then none else walk inside rest

theorem quotes_plain {c : Char} (escape : c ≠ '\\') (quote : c ≠ '"') (rest : List Char) : quotes (c :: rest) = quotes rest := by
  conv_lhs => unfold quotes
  split
  · rename_i same
    cases same
  · rename_i same
    cases same
    exact absurd rfl escape
  · rename_i same
    cases same
    exact absurd rfl quote
  · rename_i same
    cases same
    rfl

theorem walk_plain {inside : Bool} {c : Char} (escape : c ≠ '\\') (quote : c ≠ '"') (tick : c = '`' → inside = true) (rest : List Char) :
    walk inside (c :: rest) = walk inside rest := by
  conv_lhs => unfold walk
  split
  · rename_i same
    cases same
  · rename_i same
    cases same
    exact absurd rfl escape
  · rename_i same
    cases same
    exact absurd rfl quote
  · rename_i same
    cases same
    rw [if_neg]
    rintro (bad | ⟨back, outside⟩)
    · exact escape bad
    · rw [tick back] at outside
      cases outside

/-- A walk goes on over its first character as that character says. -/
theorem walk_cases {inside after : Bool} {s : List Char} (walked : walk inside s = some after) :
    (s = [] ∧ after = inside) ∨
      (∃ c rest, s = '\\' :: c :: rest ∧ inside = true ∧ c ≠ '`' ∧ walk inside rest = some after) ∨
      (∃ rest, s = '"' :: rest ∧ walk (!inside) rest = some after) ∨
      ∃ c rest, s = c :: rest ∧ c ≠ '\\' ∧ c ≠ '"' ∧ (c = '`' → inside = true) ∧ walk inside rest = some after := by
  unfold walk at walked
  split at walked
  · exact .inl ⟨rfl, (Option.some.inj walked).symm⟩
  · split at walked
    · rename_i c rest allowed
      rw [Bool.and_eq_true, bne_iff_ne] at allowed
      exact .inr (.inl ⟨c, rest, rfl, allowed.1, allowed.2, walked⟩)
    · cases walked
  · exact .inr (.inr (.inl ⟨_, rfl, walked⟩))
  · split at walked
    · cases walked
    · rename_i c rest _ quote allowed
      rw [not_or, not_and] at allowed
      refine .inr (.inr (.inr ⟨c, rest, rfl, allowed.1, ?_, ?_, walked⟩))
      · rintro rfl
        exact quote rfl
      · intro tick
        exact Bool.eq_true_of_not_eq_false (allowed.2 tick)

theorem walk_append {s : List Char} {inside after : Bool} (walked : walk inside s = some after) (b : List Char) :
    walk inside (s ++ b) = walk after b ∧ quotes (s ++ b) = quotes s + quotes b := by
  induction len : s.length using Nat.strongRecOn generalizing s inside with
  | ind n ih =>
    rcases walk_cases walked with ⟨rfl, rfl⟩ | ⟨c, rest, rfl, rfl, tick, later⟩ | ⟨rest, rfl, later⟩ |
      ⟨c, rest, rfl, escape, quote, tick, later⟩
    · exact ⟨rfl, (Nat.zero_add _).symm⟩
    · obtain ⟨walks, count⟩ := ih rest.length (by rw [← len]; simp only [List.length_cons]; omega) later rfl
      constructor
      · rw [List.cons_append, List.cons_append, walk, if_pos (by simpa using tick), walks]
      · rw [List.cons_append, List.cons_append, quotes, quotes, count]
    · obtain ⟨walks, count⟩ := ih rest.length (by rw [← len, List.length_cons]; omega) later rfl
      constructor
      · rw [List.cons_append, walk, walks]
      · rw [List.cons_append, quotes, quotes, count]
        omega
    · obtain ⟨walks, count⟩ := ih rest.length (by rw [← len, List.length_cons]; omega) later rfl
      constructor
      · rw [List.cons_append, walk_plain escape quote tick, walks]
      · rw [List.cons_append, quotes_plain escape quote, quotes_plain escape quote, count]

/-- Between the outside and the inside of a string there is a quote. -/
theorem walk_toggled {s : List Char} {inside after : Bool} (walked : walk inside s = some after) (toggled : after ≠ inside) :
    1 ≤ quotes s := by
  induction len : s.length using Nat.strongRecOn generalizing s inside with
  | ind n ih =>
    rcases walk_cases walked with ⟨rfl, rfl⟩ | ⟨c, rest, rfl, rfl, tick, later⟩ | ⟨rest, rfl, later⟩ |
      ⟨c, rest, rfl, escape, quote, tick, later⟩
    · exact absurd rfl toggled
    · rw [quotes]
      exact ih rest.length (by rw [← len]; simp only [List.length_cons]; omega) later toggled rfl
    · rw [quotes]
      omega
    · rw [quotes_plain escape quote]
      exact ih rest.length (by rw [← len, List.length_cons]; omega) later toggled rfl

/-- A backtick stands inside of a string. -/
theorem walk_tick {s b : List Char} {inside after : Bool} (walked : walk inside (s ++ '`' :: b) = some after) :
    walk inside s = some true ∧ walk true b = some after := by
  induction len : s.length using Nat.strongRecOn generalizing s inside with
  | ind n ih =>
    cases s with
    | nil =>
      rcases walk_cases walked with ⟨same, _⟩ | ⟨c, rest, same, _⟩ | ⟨rest, same, _⟩ | ⟨c, rest, same, escape, quote, tick, later⟩
      · cases same
      · cases same
      · cases same
      · cases same
        rw [tick rfl] at later ⊢
        exact ⟨rfl, later⟩
    | cons x s =>
      rcases walk_cases walked with ⟨same, _⟩ | ⟨c, rest, same, rfl, tick, later⟩ | ⟨rest, same, later⟩ |
        ⟨c, rest, same, escape, quote, tick, later⟩
      · cases same
      · cases s with
        | nil =>
          cases same
          exact absurd rfl tick
        | cons y s =>
          cases same
          obtain ⟨before, rest⟩ := ih s.length (by rw [← len]; simp only [List.length_cons]; omega) later rfl
          exact ⟨by rw [walk, if_pos (by simpa using tick), before], rest⟩
      · cases same
        obtain ⟨before, rest⟩ := ih s.length (by rw [← len, List.length_cons]; omega) later rfl
        exact ⟨by rw [walk, before], rest⟩
      · cases same
        obtain ⟨before, rest⟩ := ih s.length (by rw [← len, List.length_cons]; omega) later rfl
        exact ⟨by rw [walk_plain escape quote tick, before], rest⟩

/-! The quotes of what is written. -/

/-- A text that leaves off where it began, with so many quotes. -/
structure Written (inside : Bool) (s : List Char) (n : Nat) : Prop where
  closed : walk inside s = some inside
  count : quotes s = n

theorem Written.append {inside : Bool} {s t : List Char} {n m : Nat} (first : Written inside s n) (second : Written inside t m) :
    Written inside (s ++ t) (n + m) := by
  obtain ⟨walks, count⟩ := walk_append first.closed t
  exact ⟨walks.trans second.closed, by rw [count, first.count, second.count]⟩

theorem Written.cons {inside : Bool} {c : Char} {s : List Char} {n : Nat} (escape : c ≠ '\\') (quote : c ≠ '"')
    (tick : c = '`' → inside = true) (rest : Written inside s n) : Written inside (c :: s) n :=
  ⟨by rw [walk_plain escape quote tick, rest.closed], by rw [quotes_plain escape quote, rest.count]⟩

theorem Written.nil (inside : Bool) : Written inside [] 0 := ⟨rfl, rfl⟩

/-- A character that means nothing to the walk. -/
def plain (c : Char) : Bool := c != '\\' && c != '"' && c != '`'

theorem plain_spec {c : Char} (is_plain : plain c = true) : c ≠ '\\' ∧ c ≠ '"' ∧ c ≠ '`' := by
  unfold plain at is_plain
  simpa [and_assoc] using is_plain

theorem written_plain (inside : Bool) {s : List Char} (plain : ∀ c ∈ s, c ≠ '\\' ∧ c ≠ '"' ∧ c ≠ '`') : Written inside s 0 := by
  induction s with
  | nil => exact .nil inside
  | cons c s ih =>
    obtain ⟨escape, quote, tick⟩ := plain c List.mem_cons_self
    exact (ih (fun d member => plain d (List.mem_cons_of_mem c member))).cons escape quote (fun same => absurd same tick)

theorem written_word (inside : Bool) {s : List Char} (all : s.all plain = true) : Written inside s 0 :=
  written_plain inside (fun c member => plain_spec (List.all_eq_true.mp all c member))

theorem plain_of_numeric {c : Char} (number : numeric c = true) : c ≠ '\\' ∧ c ≠ '"' ∧ c ≠ '`' := by
  refine ⟨?_, ?_, ?_⟩ <;> rintro rfl <;> cases number

theorem plain_hex : ∀ d : Fin 16, Nat.digitChar d.val ≠ '\\' ∧ Nat.digitChar d.val ≠ '"' ∧ Nat.digitChar d.val ≠ '`' := by decide

theorem written_escape {c : Char} (other : c ≠ '`') {s : List Char} {n : Nat} (rest : Written true s n) :
    Written true ('\\' :: c :: s) n :=
  ⟨by rw [walk, if_pos (by simpa using other), rest.closed], by rw [quotes, rest.count]⟩

theorem written_unicode {n : Nat} (bound : n < 65536) : Written true (unicodeEscape n) 0 := by
  have hex : ∀ d, d < 16 → Nat.digitChar d ≠ '\\' ∧ Nat.digitChar d ≠ '"' ∧ Nat.digitChar d ≠ '`' := fun d small => plain_hex ⟨d, small⟩
  apply written_escape (by decide)
  apply written_plain
  intro c member
  simp only [List.mem_cons, List.not_mem_nil, or_false] at member
  rcases member with rfl | rfl | rfl | rfl
  · exact hex _ (by omega)
  · exact hex _ (by omega)
  · exact hex _ (by omega)
  · exact hex _ (by omega)

theorem written_escapeChar (c : Char) : Written true (escapeChar c) 0 := by
  have bound := toNat_lt c
  unfold escapeChar
  cases short : shortEscape c with
  | some e =>
    obtain ⟨meant, _⟩ := shortEscape_spec short
    refine written_escape ?_ (.nil true)
    rintro rfl
    cases meant
  | none =>
    obtain ⟨quote, escape⟩ := shortEscape_none short
    dsimp only
    split
    · exact (Written.nil true).cons escape quote (fun _ => rfl)
    · split
      · rename_i small
        exact written_unicode small
      · exact (written_unicode (by unfold highHalf; omega)).append (written_unicode (by unfold lowHalf; omega))

theorem written_escaped (s : List Char) : Written true (escaped s) 0 := by
  induction s with
  | nil => exact .nil true
  | cons c s ih => exact (written_escapeChar c).append ih

theorem written_quoted (s : String) : Written false (quoted s) 2 := by
  obtain ⟨closed, count⟩ := written_escaped s.toList
  obtain ⟨walks, total⟩ := walk_append closed ['"']
  constructor
  · rw [quoted, walk]
    exact walks
  · rw [quoted, quotes, total, count]
    rfl

section
variable {K : Type} (f : FloatText K)

mutual

/-- The strings of a value, the names of its objects among them. -/
def strings : Json K → Nat
  | .str _ => 1
  | .arr items => stringsItems items
  | .obj fields => stringsFields fields
  | _ => 0

def stringsItems : List (Json K) → Nat
  | [] => 0
  | v :: items => strings v + stringsItems items

def stringsFields : List (String × Json K) → Nat
  | [] => 0
  | (_, v) :: fields => 1 + strings v + stringsFields fields

end

theorem written_number {x : PyFloat K} : Written false (floatChars f x) 0 := by
  cases x with
  | fin x => exact written_plain false (fun c member => plain_of_numeric (f.numeric_repr x c member))
  | nan => exact written_word false (by rfl : ['N', 'a', 'N'].all plain = true)
  | posInf => exact written_word false (by rfl : ['I', 'n', 'f', 'i', 'n', 'i', 't', 'y'].all plain = true)
  | negInf => exact written_word false (by rfl : ['-', 'I', 'n', 'f', 'i', 'n', 'i', 't', 'y'].all plain = true)

mutual

/-- Every string is written with two quotes, and nothing else is written with one. -/
theorem written_dumps : ∀ v : Json K, Written false (dumps f v) (2 * strings v)
  | .null => ⟨rfl, rfl⟩
  | .bool true => ⟨rfl, rfl⟩
  | .bool false => ⟨rfl, rfl⟩
  | .int _ => written_plain false (fun _ member => plain_of_numeric (numeric_int member))
  | .float _ => written_number f
  | .str s => written_quoted s
  | .arr [] => ⟨rfl, rfl⟩
  | .arr (v :: items) => by
    have both := (written_dumps v).append (written_dumpsItems items)
    rw [← Nat.mul_add] at both
    rw [dumps]
    exact both.cons (by decide) (by decide) (by decide)
  | .obj [] => ⟨rfl, rfl⟩
  | .obj ((k, v) :: fields) => by
    have tail := ((written_dumps v).append (written_dumpsFields fields)).cons (c := ' ') (by decide) (by decide) (by decide)
    have all := (written_quoted k).append (tail.cons (c := ':') (by decide) (by decide) (by decide))
    have count : 2 + (2 * strings v + 2 * stringsFields fields) = 2 * strings (.obj ((k, v) :: fields)) := by
      rw [strings, stringsFields]
      omega
    rw [count] at all
    rw [dumps]
    exact all.cons (by decide) (by decide) (by decide)

theorem written_dumpsItems : ∀ items : List (Json K), Written false (dumpsItems f items) (2 * stringsItems items)
  | [] => ⟨rfl, rfl⟩
  | v :: items => by
    have both := (written_dumps v).append (written_dumpsItems items)
    rw [← Nat.mul_add] at both
    rw [dumpsItems]
    exact (both.cons (by decide) (by decide) (by decide)).cons (by decide) (by decide) (by decide)

theorem written_dumpsFields : ∀ fields : List (String × Json K), Written false (dumpsFields f fields) (2 * stringsFields fields)
  | [] => ⟨rfl, rfl⟩
  | (k, v) :: fields => by
    have tail := ((written_dumps v).append (written_dumpsFields fields)).cons (c := ' ') (by decide) (by decide) (by decide)
    have all := (written_quoted k).append (tail.cons (c := ':') (by decide) (by decide) (by decide))
    have count : 2 + (2 * strings v + 2 * stringsFields fields) = 2 * stringsFields ((k, v) :: fields) := by
      rw [stringsFields]
      omega
    rw [count] at all
    rw [dumpsFields]
    exact (all.cons (by decide) (by decide) (by decide)).cons (by decide) (by decide) (by decide)

end

/-! The quotes of what is read. -/

theorem quotes_dropWhile {p : Char → Bool} (plain : ∀ c, p c = true → c ≠ '\\' ∧ c ≠ '"') (s : List Char) :
    quotes (s.dropWhile p) = quotes s := by
  induction s with
  | nil => rfl
  | cons c s ih =>
    rw [List.dropWhile_cons]
    split
    · rename_i passed
      rw [ih, quotes_plain (plain c passed).1 (plain c passed).2]
    · rfl

theorem quotes_skip (s : List Char) : quotes (skip s) = quotes s := by
  refine quotes_dropWhile ?_ s
  intro c space
  constructor <;> rintro rfl <;> cases space

theorem plain_digit {c : Char} (digit : c.isDigit = true) : c ≠ '\\' ∧ c ≠ '"' := by
  constructor <;> rintro rfl <;> cases digit

theorem quotes_digitsOf (s : List Char) : quotes (digitsOf s).2 = quotes s := quotes_dropWhile (fun _ digit => plain_digit digit) s

theorem quotes_scanFraction (s : List Char) : quotes (scanFraction s).2 = quotes s := by
  unfold scanFraction
  split
  · rename_i rest
    have count := quotes_digitsOf rest
    split
    · rfl
    · rename_i digits more _ read
      rw [read] at count
      rw [quotes_plain (by decide) (by decide)]
      exact count
  · rfl

theorem quotes_scanPower (before : List Char) {rest whole : List Char} (same : quotes whole = quotes rest) :
    quotes (scanPower before rest whole).2 = quotes whole := by
  have count := quotes_digitsOf rest
  unfold scanPower
  split
  · rfl
  · rename_i digits more _ read
    rw [read] at count
    rw [same]
    exact count

theorem quotes_scanExponent (s : List Char) : quotes (scanExponent s).2 = quotes s := by
  unfold scanExponent
  split
  · rename_i c rest
    split
    · rename_i e
      have first : ∀ more, quotes (c :: more) = quotes more := by
        intro more
        rcases e with rfl | rfl <;> exact quotes_plain (by decide) (by decide) more
      split
      · rename_i sign more
        split
        · rename_i signed
          apply quotes_scanPower
          rw [first]
          rcases signed with rfl | rfl <;> exact quotes_plain (by decide) (by decide) more
        · exact quotes_scanPower _ (first _)
      · rfl
    · rfl
  · rfl

theorem quotes_scanWhole {sign s : List Char} {n : Numeral} (scanned : scanWhole sign s = some n) : quotes n.rest = quotes s := by
  have tail : ∀ whole more, quotes (scanTail sign whole more).rest = quotes more := by
    intro whole more
    exact (quotes_scanExponent _).trans (quotes_scanFraction more)
  have count := quotes_digitsOf s
  unfold scanWhole at scanned
  split at scanned
  · cases scanned
    rw [tail, quotes_plain (by decide) (by decide)]
  · split at scanned
    · cases scanned
    · rename_i digits rest _ read
      cases scanned
      rw [read] at count
      rw [tail]
      exact count

theorem quotes_scanNumeral {s : List Char} {n : Numeral} (scanned : scanNumeral s = some n) : quotes n.rest = quotes s := by
  unfold scanNumeral at scanned
  split at scanned
  · rw [quotes_scanWhole scanned, quotes_plain (by decide) (by decide)]
  · exact quotes_scanWhole scanned

theorem plain_of_hexValue {c : Char} {n : Nat} (hex : hexValue c = some n) : c ≠ '\\' ∧ c ≠ '"' := by
  constructor <;> rintro rfl <;> cases hex

theorem plain_of_hex4 {a b c d : Char} {n : Nat} (hex : hex4 a b c d = some n) (rest : List Char) :
    quotes (a :: b :: c :: d :: rest) = quotes rest := by
  unfold hex4 at hex
  split at hex
  · rename_i first second third fourth
    rw [quotes_plain (plain_of_hexValue first).1 (plain_of_hexValue first).2,
      quotes_plain (plain_of_hexValue second).1 (plain_of_hexValue second).2,
      quotes_plain (plain_of_hexValue third).1 (plain_of_hexValue third).2,
      quotes_plain (plain_of_hexValue fourth).1 (plain_of_hexValue fourth).2]
  · cases hex

/-- A string literal ends at its quote. -/
theorem quotes_scanUnits {s rest : List Char} {units : List CodeUnit} (read : scanUnits s = .ok (units, rest)) :
    quotes s = quotes rest + 1 := by
  induction s using scanUnits.induct generalizing units rest with
  | case1 => cases read
  | case2 more =>
    cases read
    rfl
  | case3 a b c d more bad =>
    rw [scanUnits] at read
    split at read
    · cases read
    · rename_i n hex
      rw [bad] at hex
      cases hex
  | case4 a b c d more n hex ih =>
    rw [scanUnits] at read
    split at read
    · cases read
    · obtain ⟨p, later, last⟩ := map_ok read
      cases last
      rw [quotes, plain_of_hex4 hex]
      exact ih later
  | case5 e more other bad =>
    rw [scanUnits, bad] at read
    · cases read
    · exact other
  | case6 e more other c meant ih =>
    rw [scanUnits, meant] at read
    · obtain ⟨p, later, last⟩ := map_ok read
      cases last
      rw [quotes]
      exact ih later
    · exact other
  | case7 c more quote code escape low =>
    rw [scanUnits, if_pos low] at read
    · cases read
    · exact quote
    · exact code
    · exact escape
  | case8 c more quote code escape high ih =>
    rw [scanUnits, if_neg high] at read
    · obtain ⟨p, later, last⟩ := map_ok read
      cases last
      have back : c ≠ '\\' := by
        rintro rfl
        cases more with
        | nil => cases later
        | cons e more => exact escape e more rfl rfl
      rw [quotes_plain back quote]
      exact ih later
    · exact quote
    · exact code
    · exact escape

theorem quotes_scanString {s rest : List Char} {k : String} (read : scanString s = .ok (k, rest)) : quotes s = quotes rest + 1 := by
  unfold scanString at read
  split at read
  · cases read
  · rename_i units rest' scanned
    split at read
    · cases read
    · cases read
      exact quotes_scanUnits scanned

theorem stringsFields_eq (fields : List (String × Json K)) : stringsFields fields = (fields.map (fun e => 1 + strings e.2)).sum := by
  induction fields with
  | nil => rfl
  | cons e fields ih => rw [stringsFields, List.map_cons, List.sum_cons, ih]

/-- A name that stands twice keeps one value. -/
theorem strings_asDict (pairs : List (String × Json K)) : strings (asDict pairs) ≤ stringsFields pairs := by
  rw [asDict, strings, stringsFields_eq, stringsFields_eq]
  exact Dict.total_ofList_le (fun v => 1 + strings v) pairs

theorem quotes_scanNumber {s rest : List Char} {v : Json K} (read : scanNumber f s = .ok (v, rest)) :
    2 * strings v + quotes rest = quotes s := by
  unfold scanNumber at read
  split at read
  · cases read
  · rename_i n scanned
    have count := quotes_scanNumeral scanned
    split at read
    · split at read
      · cases read
      · cases read
        exact (Nat.zero_add _).trans count
    · cases read
      exact (Nat.zero_add _).trans count

/-- The values read leave the quotes that their strings do not take. -/
structure Counts (n : Nat) : Prop where
  once : ∀ {s rest v}, scanOnce f n s = .ok (v, rest) → 2 * strings v + quotes rest ≤ quotes s
  items : ∀ {s rest items}, scanItems f n s = .ok (items, rest) → 2 * stringsItems items + quotes rest ≤ quotes s
  fields : ∀ {s rest pairs}, scanFields f n s = .ok (pairs, rest) → 2 * stringsFields pairs + quotes rest ≤ quotes s + 1

theorem quotes_word {w : List Char} (all : w.all plain = true) (rest : List Char) : quotes (w ++ rest) = quotes rest := by
  have word := written_word false all
  rw [(walk_append word.closed rest).2, word.count, Nat.zero_add]

variable {f}

theorem Counts.succ_once {n : Nat} (ih : Counts f n) {s rest : List Char} {v : Json K} (read : scanOnce f (n + 1) s = .ok (v, rest)) :
    2 * strings v + quotes rest ≤ quotes s := by
  have word : ∀ w : List Char, w.all plain = true → 0 + quotes rest ≤ quotes (w ++ rest) := by
    intro w all
    rw [quotes_word all, Nat.zero_add]
  unfold scanOnce at read
  split at read
  · rename_i text
    obtain ⟨p, scanned, last⟩ := map_ok read
    cases last
    have count := quotes_scanString scanned
    rw [strings, quotes]
    omega
  · rename_i text
    have blanks := quotes_skip text
    rw [quotes_plain (by decide) (by decide)]
    split at read
    · rename_i more shape
      cases read
      rw [shape, quotes_plain (by decide) (by decide)] at blanks
      rw [strings, stringsFields]
      omega
    · rename_i more shape
      obtain ⟨p, scanned, last⟩ := map_ok read
      cases last
      have count := ih.fields scanned
      have once := strings_asDict p.1
      rw [shape, quotes] at blanks
      omega
    · cases read
  · rename_i text
    have blanks := quotes_skip text
    rw [quotes_plain (by decide) (by decide)]
    split at read
    · rename_i more shape
      cases read
      rw [shape, quotes_plain (by decide) (by decide)] at blanks
      rw [strings, stringsItems]
      omega
    · obtain ⟨p, scanned, last⟩ := map_ok read
      cases last
      have count := ih.items scanned
      rw [strings]
      omega
  · cases read
    exact word ['n', 'u', 'l', 'l'] rfl
  · cases read
    exact word ['t', 'r', 'u', 'e'] rfl
  · cases read
    exact word ['f', 'a', 'l', 's', 'e'] rfl
  · cases read
    exact word ['N', 'a', 'N'] rfl
  · cases read
    exact word ['I', 'n', 'f', 'i', 'n', 'i', 't', 'y'] rfl
  · cases read
    exact word ['-', 'I', 'n', 'f', 'i', 'n', 'i', 't', 'y'] rfl
  · exact (quotes_scanNumber f read).le

theorem Counts.succ_items {n : Nat} (ih : Counts f n) {s rest : List Char} {items : List (Json K)}
    (read : scanItems f (n + 1) s = .ok (items, rest)) : 2 * stringsItems items + quotes rest ≤ quotes s := by
  unfold scanItems at read
  split at read
  · cases read
  · rename_i v after first
    have count := ih.once first
    have blanks := quotes_skip after
    split at read
    · rename_i more shape
      cases read
      rw [shape, quotes_plain (by decide) (by decide)] at blanks
      rw [stringsItems, stringsItems]
      omega
    · rename_i more shape
      obtain ⟨p, later, last⟩ := map_ok read
      cases last
      have others := ih.items later
      rw [quotes_skip] at others
      rw [shape, quotes_plain (by decide) (by decide)] at blanks
      rw [stringsItems]
      omega
    · cases read

theorem Counts.more {n : Nat} (ih : Counts f n) {s rest : List Char} {k : String} {v : Json K} {pairs : List (String × Json K)}
    (read : scanMore (scanFields f n) k v s = .ok (pairs, rest)) :
    2 * stringsFields pairs + quotes rest ≤ quotes s + 2 + 2 * strings v := by
  unfold scanMore at read
  split at read
  · cases read
    rw [stringsFields, stringsFields, quotes_plain (by decide) (by decide)]
    omega
  · rename_i more
    have blanks := quotes_skip more
    rw [quotes_plain (by decide) (by decide)]
    split at read
    · rename_i text shape
      obtain ⟨p, later, last⟩ := map_ok read
      cases last
      have others := ih.fields later
      rw [shape, quotes] at blanks
      rw [stringsFields]
      omega
    · cases read
  · cases read

theorem Counts.succ_fields {n : Nat} (ih : Counts f n) {s rest : List Char} {pairs : List (String × Json K)}
    (read : scanFields f (n + 1) s = .ok (pairs, rest)) : 2 * stringsFields pairs + quotes rest ≤ quotes s + 1 := by
  unfold scanFields at read
  split at read
  · cases read
  · rename_i k after name
    have start := quotes_scanString name
    have blanks := quotes_skip after
    split at read
    · rename_i more shape
      rw [shape, quotes_plain (by decide) (by decide)] at blanks
      have colon := quotes_skip more
      unfold scanValue at read
      split at read
      · cases read
      · rename_i v tail value
        have first := ih.once value
        have others := ih.more read
        rw [quotes_skip] at others
        omega
    · cases read

theorem counts (n : Nat) : Counts f n := by
  induction n with
  | zero => exact ⟨nofun, nofun, nofun⟩
  | succ n ih => exact ⟨ih.succ_once, ih.succ_items, ih.succ_fields⟩

/-- A text is read as no more strings than it has quotes for. -/
theorem quotes_loads {s : List Char} {v : Json K} (read : loads f s = .ok v) : 2 * strings v ≤ quotes s := by
  unfold loads at read
  split at read
  · cases read
  · rename_i v rest scanned
    split at read
    · cases read
      have count := (counts _).once scanned
      rw [quotes_skip] at count
      omega
    · cases read

end

end KnowledgeGap.Llm
