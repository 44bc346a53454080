import KnowledgeGap.Llm.JsonQuotes
import Mathlib.Data.List.TakeWhile

namespace KnowledgeGap.Llm

open Relational Ingestion

/-! `BaseClient._extract_json` -/

def fence : List Char := ['`', '`', '`']

def stripped (text : List Char) : List Char := ((text.dropWhile isSpace).reverse.dropWhile isSpace).reverse

/-- Blanks and a fence come next. -/
def closing (s : List Char) : Bool := fence.isPrefixOf (s.dropWhile isSpace)

/-- `.*?\}` with `\s*` and a fence behind it: the text up to the first brace that ends it so. -/
def body : List Char → Option (List Char)
  | [] => none
  | c :: rest => if c = '}' ∧ closing rest = true then some [c] else (body rest).map (c :: ·)

/-- What follows `(?:json)?`. -/
def unlabelled : List Char → List Char
  | 'j' :: 's' :: 'o' :: 'n' :: rest => rest
  | s => s

/-- The expression at the start of a text, and its group. -/
def fencedAt : List Char → Option (List Char)
  | '`' :: '`' :: '`' :: rest =>
    match (unlabelled rest).dropWhile isSpace with
    | '{' :: more => (body more).map ('{' :: ·)
    | _ => none
  | _ => none

/-- `re.search`: the expression at the first place that has it. -/
def search : List Char → Option (List Char)
  | [] => none
  | c :: rest =>
    match fencedAt (c :: rest) with
    | some group => some group
    | none => search rest

def find (c : Char) (s : List Char) : Option Nat := s.findIdx? (· == c)

def rfind (c : Char) (s : List Char) : Option Nat := (s.reverse.findIdx? (· == c)).map (s.length - 1 - ·)

/-- `text[start : end + 1]` from the first opening brace to the last closing one. -/
def outermost (s : List Char) : Option (List Char) :=
  match find '{' s, rfind '}' s with
  | some start, some last => if last ≤ start then none else some ((s.take (last + 1)).drop start)
  | _, _ => none

inductive ExtractError
  /-- `LLMError`, with the first characters of what the model wrote. -/
  | noJson (text : List Char)
  | invalid (cause : JsonError)
  /-- `ValueError`, which no handler of the caller expects: an integer too long to read. -/
  | valueError
  deriving DecidableEq, Repr

section
variable {K : Type} (f : FloatText K)

def parsed (s : List Char) : Except ExtractError (Json K) :=
  match loads f s with
  | .ok v => .ok v
  | .error .tooLong => .error .valueError
  | .error e => .error (.invalid e)

def extractJson (text : List Char) : Except ExtractError (Json K) :=
  match search (stripped text) with
  | some inner => parsed f inner
  | none =>
    match outermost (stripped text) with
    | some inner => parsed f inner
    | none => .error (.noJson ((stripped text).take 200))

end

/-! What the expression finds. -/

def Blank (s : List Char) : Prop := ∀ c ∈ s, isSpace c = true

def json : List Char := ['j', 's', 'o', 'n']

/-- A closing brace stands somewhere, with blanks and a fence behind it. -/
def Closed (s : List Char) : Prop := ∃ before blanks after, Blank blanks ∧ s = before ++ '}' :: (blanks ++ (fence ++ after))

/-- A fence stands somewhere, `json` or nothing, blanks and an opening brace behind it, and an end as above behind these. -/
def Fenced (s : List Char) : Prop :=
  ∃ before label blanks rest, (label = [] ∨ label = json) ∧ Blank blanks ∧ s = before ++ (fence ++ (label ++ (blanks ++ '{' :: rest))) ∧ Closed rest

/-- A text with no brace and no fence in it. -/
structure Unmarked (s : List Char) : Prop where
  opening : '{' ∉ s
  closing : '}' ∉ s
  fence : ¬ fence <:+: s

theorem dropWhile_stop {p : Char → Bool} (s : List Char) {c : Char} (stop : p c = false) (rest : List Char) :
    (s ++ c :: rest).dropWhile p = s.dropWhile p ++ c :: rest := by
  induction s with
  | nil => rw [List.nil_append, List.dropWhile_cons, stop, if_neg Bool.false_ne_true, List.dropWhile_nil, List.nil_append]
  | cons d s ih =>
    rw [List.cons_append, List.dropWhile_cons, List.dropWhile_cons]
    split
    · exact ih
    · rfl

theorem dropWhile_blank {s : List Char} (blank : Blank s) {c : Char} (visible : isSpace c = false) (rest : List Char) :
    (s ++ c :: rest).dropWhile isSpace = c :: rest := by
  have none_left : s.dropWhile isSpace = [] := List.dropWhile_eq_nil_iff.mpr blank
  rw [dropWhile_stop s visible, none_left, List.nil_append]

theorem closing_iff (s : List Char) : closing s = true ↔ ∃ blanks after, Blank blanks ∧ s = blanks ++ (fence ++ after) := by
  constructor
  · intro ends
    obtain ⟨after, shape⟩ := List.isPrefixOf_iff_prefix.mp ends
    refine ⟨s.takeWhile isSpace, after, ?_, ?_⟩
    · exact fun c member => List.mem_takeWhile_imp member
    · rw [shape, List.takeWhile_append_dropWhile]
  · rintro ⟨blanks, after, blank, rfl⟩
    have drops : (blanks ++ (fence ++ after)).dropWhile isSpace = fence ++ after := dropWhile_blank blank (by decide) _
    rw [closing, drops]
    exact List.isPrefixOf_iff_prefix.mpr (List.prefix_append fence after)

theorem body_some {s x : List Char} (found : body s = some x) : ∃ b rest, x = b ++ ['}'] ∧ s = x ++ rest ∧ closing rest = true := by
  induction s generalizing x with
  | nil => cases found
  | cons c s ih =>
    rw [body] at found
    split at found
    · rename_i ends
      obtain ⟨rfl, after⟩ := ends
      cases found
      exact ⟨[], s, rfl, rfl, after⟩
    · obtain ⟨y, later, rfl⟩ := Option.map_eq_some_iff.mp found
      obtain ⟨b, rest, rfl, rfl, after⟩ := ih later
      exact ⟨c :: b, rest, rfl, rfl, after⟩

theorem body_none_iff (s : List Char) : body s = none ↔ ¬ Closed s := by
  induction s with
  | nil =>
    refine iff_of_true rfl ?_
    rintro ⟨before, blanks, after, _, same⟩
    cases before <;> cases same
  | cons c s ih =>
    rw [body]
    split
    · rename_i ends
      obtain ⟨rfl, behind⟩ := ends
      refine iff_of_false nofun (not_not.mpr ?_)
      obtain ⟨blanks, after, blank, rfl⟩ := (closing_iff s).mp behind
      exact ⟨[], blanks, after, blank, rfl⟩
    · rename_i other
      rw [Option.map_eq_none_iff, ih, not_iff_not]
      constructor
      · rintro ⟨before, blanks, after, blank, rfl⟩
        exact ⟨c :: before, blanks, after, blank, rfl⟩
      · rintro ⟨before, blanks, after, blank, same⟩
        cases before with
        | nil =>
          cases same
          exact absurd ⟨rfl, (closing_iff _).mpr ⟨blanks, after, blank, rfl⟩⟩ other
        | cons d before =>
          cases same
          exact ⟨before, blanks, after, blank, rfl⟩

theorem fencedAt_label {label blanks : List Char} (named : label = [] ∨ label = json) (blank : Blank blanks) (rest : List Char) :
    fencedAt (fence ++ (label ++ (blanks ++ '{' :: rest))) = (body rest).map ('{' :: ·) := by
  have bare : unlabelled (label ++ (blanks ++ '{' :: rest)) = blanks ++ '{' :: rest := by
    rcases named with rfl | rfl
    · cases blanks with
      | nil => rfl
      | cons c blanks =>
        have space := blank c List.mem_cons_self
        rw [List.nil_append, List.cons_append]
        unfold unlabelled
        split
        · rename_i same
          rw [(List.cons.inj same).1] at space
          cases space
        · rfl
    · rfl
  have drops := dropWhile_blank blank (by decide : isSpace '{' = false) rest
  change (match (unlabelled (label ++ (blanks ++ '{' :: rest))).dropWhile isSpace with
    | '{' :: more => (body more).map ('{' :: ·)
    | _ => none) = _
  rw [bare, drops]
  rfl

theorem fencedAt_some {s x : List Char} (found : fencedAt s = some x) : ∃ label blanks rest y, (label = [] ∨ label = json) ∧ Blank blanks ∧
    s = fence ++ (label ++ (blanks ++ '{' :: rest)) ∧ x = '{' :: y ∧ body rest = some y := by
  unfold fencedAt at found
  split at found
  · rename_i rest
    split at found
    · rename_i more shape
      obtain ⟨y, inner, rfl⟩ := Option.map_eq_some_iff.mp found
      have parts : unlabelled rest = (unlabelled rest).takeWhile isSpace ++ '{' :: more := by
        rw [← shape, List.takeWhile_append_dropWhile]
      have blank : Blank ((unlabelled rest).takeWhile isSpace) := fun c member => List.mem_takeWhile_imp member
      have named : ∃ label, (label = [] ∨ label = json) ∧ rest = label ++ unlabelled rest := by
        unfold unlabelled
        split
        · exact ⟨json, .inr rfl, rfl⟩
        · exact ⟨[], .inl rfl, rfl⟩
      obtain ⟨label, either, whole⟩ := named
      refine ⟨label, _, more, y, either, blank, ?_, rfl, inner⟩
      rw [← parts, ← whole]
      rfl
    · cases found
  · cases found

theorem search_some {s x : List Char} (found : search s = some x) : ∃ before rest, s = before ++ rest ∧ fencedAt rest = some x := by
  induction s with
  | nil => cases found
  | cons c s ih =>
    rw [search] at found
    split at found
    · rename_i group here
      cases found
      exact ⟨[], c :: s, rfl, here⟩
    · obtain ⟨before, rest, rfl, later⟩ := ih found
      exact ⟨c :: before, rest, rfl, later⟩

theorem search_none {s : List Char} (absent : search s = none) (before rest : List Char) (parts : s = before ++ rest) : fencedAt rest = none := by
  induction s generalizing before with
  | nil =>
    obtain ⟨rfl, rfl⟩ := List.nil_eq_append_iff.mp parts
    rfl
  | cons c s ih =>
    rw [search] at absent
    split at absent
    · cases absent
    · rename_i here
      cases before with
      | nil =>
        cases parts
        exact here
      | cons d before =>
        cases parts
        exact ih absent before rfl

theorem search_none_iff (s : List Char) : search s = none ↔ ¬ Fenced s := by
  constructor
  · rintro absent ⟨before, label, blanks, rest, named, blank, parts, closed⟩
    have nothing := search_none absent before _ parts
    rw [fencedAt_label named blank, Option.map_eq_none_iff] at nothing
    exact (body_none_iff rest).mp nothing closed
  · intro unfenced
    rw [Option.eq_none_iff_forall_not_mem]
    intro x found
    obtain ⟨before, rest, rfl, here⟩ := search_some found
    obtain ⟨label, blanks, rest, y, named, blank, rfl, rfl, inner⟩ := fencedAt_some here
    refine unfenced ⟨before, label, blanks, rest, named, blank, rfl, ?_⟩
    by_contra unclosed
    rw [(body_none_iff rest).mpr unclosed] at inner
    cases inner

/-! Text around the braces changes nothing. -/

theorem not_closed {s : List Char} (absent : '}' ∉ s) : ¬ Closed s := by
  rintro ⟨before, blanks, after, _, rfl⟩
  exact absent (by simp)

theorem fence_of_fencedAt {s x : List Char} (found : fencedAt s = some x) : fence <+: s := by
  obtain ⟨label, blanks, rest, y, _, _, rfl, _⟩ := fencedAt_some found
  exact List.prefix_append fence _

theorem search_unmarked {s : List Char} (unmarked : ¬ fence <:+: s) : search s = none := by
  rw [search_none_iff]
  rintro ⟨before, label, blanks, rest, _, _, rfl, _⟩
  exact unmarked ⟨before, _, (List.append_assoc before fence _).trans rfl⟩

/-- A word does not reach over a character that it has not. -/
theorem prefix_short {w s rest : List Char} {c : Char} (other : c ∉ w) (found : w <+: s ++ c :: rest) : w <+: s := by
  induction s generalizing w with
  | nil =>
    cases w with
    | nil => exact List.nil_prefix
    | cons d w =>
      obtain ⟨_, same⟩ := found
      cases same
      exact absurd List.mem_cons_self other
  | cons d s ih =>
    cases w with
    | nil => exact List.nil_prefix
    | cons e w =>
      rw [List.cons_append, List.cons_prefix_cons] at found
      exact List.cons_prefix_cons.mpr ⟨found.1, ih (fun member => other (List.mem_cons_of_mem e member)) found.2⟩

theorem search_before {s : List Char} (unmarked : ¬ fence <:+: s) {c : Char} (other : c ∉ fence) (rest : List Char) :
    search (s ++ c :: rest) = search (c :: rest) := by
  induction s with
  | nil => rfl
  | cons d s ih =>
    have nothing : fencedAt (d :: s ++ c :: rest) = none := by
      rw [Option.eq_none_iff_forall_not_mem]
      intro x found
      exact unmarked (prefix_short other (fence_of_fencedAt found)).isInfix
    have later : ¬ fence <:+: s := fun inside => unmarked (inside.trans (List.suffix_cons d s).isInfix)
    rw [List.cons_append] at nothing ⊢
    rw [search, nothing]
    exact ih later

theorem closing_behind {s : List Char} (post m : List Char) (shape : s = m ++ ['}']) : closing (s ++ post) = closing s := by
  have passed : ∀ rest, (s ++ rest).dropWhile isSpace = m.dropWhile isSpace ++ '}' :: rest := by
    intro rest
    rw [shape, List.append_assoc, List.singleton_append]
    exact dropWhile_stop m (by decide) rest
  have alone := passed []
  rw [List.append_nil] at alone
  rw [Bool.eq_iff_iff, closing, closing, passed, alone, List.isPrefixOf_iff_prefix, List.isPrefixOf_iff_prefix]
  constructor
  · exact fun found => (prefix_short (by decide) found).trans (List.prefix_append _ _)
  · exact fun found => (prefix_short (by decide) found).trans (List.prefix_append _ _)

theorem body_behind {post : List Char} (unmarked : Unmarked post) (m : List Char) : body (m ++ '}' :: post) = body (m ++ ['}']) := by
  have nothing : body post = none := (body_none_iff post).mpr (not_closed unmarked.closing)
  have unclosed : closing post = false := by
    rw [Bool.eq_false_iff]
    intro ends
    obtain ⟨blanks, after, _, rfl⟩ := (closing_iff post).mp ends
    exact unmarked.fence ⟨blanks, after, List.append_assoc ..⟩
  induction m with
  | nil =>
    rw [List.nil_append, List.nil_append, body, body, if_neg (by simp [unclosed]), if_neg (by decide), nothing]
    rfl
  | cons c m ih =>
    have same : closing (m ++ '}' :: post) = closing (m ++ ['}']) := by
      rw [← closing_behind post m rfl, List.append_assoc, List.singleton_append]
    rw [List.cons_append, List.cons_append, body, body, ih, same]

theorem unlabelled_behind (m : List Char) : ∃ m', ∀ post, unlabelled (m ++ '}' :: post) = m' ++ '}' :: post := by
  by_cases named : json <+: m
  · obtain ⟨m', rfl⟩ := named
    exact ⟨m', fun post => rfl⟩
  · refine ⟨m, ?_⟩
    intro post
    unfold unlabelled
    split
    · rename_i rest same
      have found : json <+: m ++ '}' :: post := ⟨rest, same.symm⟩
      exact absurd (prefix_short (by decide) found) named
    · rfl

theorem fencedAt_behind {post : List Char} (unmarked : Unmarked post) (m : List Char) :
    fencedAt (m ++ '}' :: post) = fencedAt (m ++ ['}']) := by
  by_cases marked : fence <+: m
  · obtain ⟨m, rfl⟩ := marked
    obtain ⟨m', bare⟩ := unlabelled_behind m
    have step : ∀ post, fencedAt (fence ++ m ++ '}' :: post) = match m'.dropWhile isSpace ++ '}' :: post with
        | '{' :: more => (body more).map ('{' :: ·)
        | _ => none := by
      intro post
      rw [← dropWhile_stop m' (by decide), ← bare]
      rfl
    rw [step, step]
    cases m'.dropWhile isSpace with
    | nil => rfl
    | cons c q =>
      by_cases opening : c = '{'
      · rw [opening]
        exact congrArg (Option.map ('{' :: ·)) (body_behind unmarked q)
      · simp [opening]
  · have nothing : ∀ post, fencedAt (m ++ '}' :: post) = none := by
      intro post
      rw [Option.eq_none_iff_forall_not_mem]
      intro x found
      exact marked (prefix_short (by decide) (fence_of_fencedAt found))
    rw [nothing, nothing]

theorem search_behind {post : List Char} (unmarked : Unmarked post) (m : List Char) :
    search (m ++ '}' :: post) = search (m ++ ['}']) := by
  induction m with
  | nil =>
    have here := fencedAt_behind unmarked []
    rw [List.nil_append, List.nil_append] at here ⊢
    rw [search, search, here, search_unmarked unmarked.fence]
    rfl
  | cons c m ih =>
    have here := fencedAt_behind unmarked (c :: m)
    rw [List.cons_append, List.cons_append] at here ⊢
    rw [search, search, here, ih]

/-- Where the text around is unmarked, the expression finds what it finds in the object alone. -/
theorem search_around {pre post : List Char} (before : Unmarked pre) (behind : Unmarked post) (m : List Char) :
    search (pre ++ '{' :: (m ++ '}' :: post)) = search ('{' :: (m ++ ['}'])) := by
  rw [search_before before.fence (by decide), ← List.cons_append, search_behind behind, List.cons_append]

theorem Unmarked.of_infix {s t : List Char} (unmarked : Unmarked t) (inside : s <:+: t) : Unmarked s :=
  ⟨fun member => unmarked.opening (inside.subset member), fun member => unmarked.closing (inside.subset member),
    fun found => unmarked.fence (found.trans inside)⟩

/-- Stripping takes blanks of the text around. -/
theorem stripped_around {pre post : List Char} (before : Unmarked pre) (behind : Unmarked post) (m : List Char) :
    ∃ pre' post', Unmarked pre' ∧ Unmarked post' ∧ stripped (pre ++ '{' :: (m ++ '}' :: post)) = pre' ++ '{' :: (m ++ '}' :: post') := by
  refine ⟨pre.dropWhile isSpace, (post.reverse.dropWhile isSpace).reverse, before.of_infix (List.dropWhile_suffix _).isInfix, ?_, ?_⟩
  · apply behind.of_infix
    have tail := List.reverse_prefix.mpr (List.dropWhile_suffix (l := post.reverse) isSpace)
    rw [List.reverse_reverse] at tail
    exact tail.isInfix
  · have front : (pre ++ '{' :: (m ++ '}' :: post)).dropWhile isSpace = (pre.dropWhile isSpace ++ '{' :: m) ++ '}' :: post := by
      rw [dropWhile_stop pre (by decide), List.append_assoc, List.cons_append]
    have back : ∀ s : List Char, ((s ++ '}' :: post).reverse.dropWhile isSpace).reverse = s ++ '}' :: (post.reverse.dropWhile isSpace).reverse := by
      intro s
      rw [List.reverse_append, List.reverse_cons, List.append_assoc, List.singleton_append, dropWhile_stop post.reverse (by decide)]
      simp
    rw [stripped, front, back, List.append_assoc, List.cons_append]

theorem find_first {c : Char} {s : List Char} (absent : c ∉ s) (rest : List Char) : find c (s ++ c :: rest) = some s.length := by
  have nothing : s.findIdx? (· == c) = none := by
    rw [List.findIdx?_eq_none_iff]
    intro d member
    rw [beq_eq_false_iff_ne]
    rintro rfl
    exact absent member
  rw [find, List.findIdx?_append, nothing, List.findIdx?_cons, if_pos (beq_self_eq_true c)]
  simp

theorem rfind_last {c : Char} {s : List Char} (absent : c ∉ s) (front : List Char) : rfind c (front ++ c :: s) = some front.length := by
  have read := find_first (c := c) (s := s.reverse) (by rwa [List.mem_reverse]) front.reverse
  have turned : (front ++ c :: s).reverse = s.reverse ++ c :: front.reverse := by simp
  rw [find, ← turned] at read
  rw [rfind, read, Option.map_some, List.length_append, List.length_cons, List.length_reverse]
  congr 1
  omega

/-- Between the outermost braces stands the object. -/
theorem outermost_around {pre post : List Char} (before : Unmarked pre) (behind : Unmarked post) (m : List Char) :
    outermost (pre ++ '{' :: (m ++ '}' :: post)) = some ('{' :: (m ++ ['}'])) := by
  have start := find_first before.opening (m ++ '}' :: post)
  have last := rfind_last behind.closing (pre ++ '{' :: m)
  rw [List.append_assoc, List.cons_append] at last
  have order : ¬ (pre ++ '{' :: m).length ≤ pre.length := by simp
  have whole : pre ++ '{' :: (m ++ '}' :: post) = (pre ++ '{' :: (m ++ ['}'])) ++ post := by simp
  have stop : (pre ++ '{' :: m).length + 1 = (pre ++ '{' :: (m ++ ['}'])).length := by
    simp only [List.length_append, List.length_cons, List.length_nil]
    omega
  rw [outermost, start, last]
  dsimp only
  rw [if_neg order, stop, whole, List.take_left, List.drop_left]

/-! Objects. -/

section
variable {K : Type} (f : FloatText K)

/-- A JSON object that can be written. -/
structure Document (K : Type) where
  fields : List (String × Json K)
  proper : Proper (.obj fields)

def Document.value (o : Document K) : Json K := .obj o.fields

def Document.text (o : Document K) : List Char := dumps f o.value

theorem dumpsFields_closing (fields : List (String × Json K)) : ∃ m, dumpsFields f fields = m ++ ['}'] := by
  induction fields with
  | nil => exact ⟨[], rfl⟩
  | cons e fields ih =>
    obtain ⟨m, tail⟩ := ih
    refine ⟨',' :: ' ' :: (quoted e.1 ++ ':' :: ' ' :: (dumps f e.2 ++ m)), ?_⟩
    rw [dumpsFields, tail]
    simp

theorem Document.braces (o : Document K) : ∃ m, o.text f = '{' :: (m ++ ['}']) := by
  obtain ⟨fields, proper⟩ := o
  cases fields with
  | nil => exact ⟨[], rfl⟩
  | cons e fields =>
    obtain ⟨m, tail⟩ := dumpsFields_closing f fields
    refine ⟨quoted e.1 ++ ':' :: ' ' :: (dumps f e.2 ++ m), ?_⟩
    rw [Document.text, Document.value, dumps, tail]
    simp

theorem Document.loads (o : Document K) : loads f (o.text f) = .ok o.value := loads_dumps f o.proper

theorem parsed_ok_iff (s : List Char) (v : Json K) : parsed f s = .ok v ↔ Llm.loads f s = .ok v := by
  unfold parsed
  cases Llm.loads f s with
  | ok w => exact ⟨fun same => Except.ok.inj same ▸ rfl, fun same => Except.ok.inj same ▸ rfl⟩
  | error e =>
    refine iff_of_false ?_ nofun
    cases e <;> exact nofun

theorem quotes_le_append (s t : List Char) : quotes s ≤ quotes (s ++ t) := by
  induction s using quotes.induct with
  | case1 => exact Nat.zero_le _
  | case2 c rest ih =>
    rw [List.cons_append, List.cons_append, quotes, quotes]
    exact ih
  | case3 rest ih =>
    rw [List.cons_append, quotes, quotes]
    exact Nat.succ_le_succ ih
  | case4 c rest escape quote ih =>
    by_cases back : c = '\\'
    · cases rest with
      | nil =>
        rw [back]
        exact Nat.zero_le _
      | cons d rest => exact absurd rfl (escape d rest back)
    · rw [List.cons_append, quotes_plain back quote, quotes_plain back quote]
      exact ih

theorem quotes_blank {s : List Char} (blank : Blank s) (rest : List Char) : quotes (s ++ rest) = quotes rest := by
  induction s with
  | nil => rfl
  | cons c s ih =>
    have space := blank c List.mem_cons_self
    have escape : c ≠ '\\' := by
      rintro rfl
      cases space
    have quote : c ≠ '"' := by
      rintro rfl
      cases space
    rw [List.cons_append, quotes_plain escape quote, ih (fun d member => blank d (List.mem_cons_of_mem c member))]

/-- Before a backtick of an object there are quotes, and after it. -/
theorem Document.tick (o : Document K) {s b : List Char} (parts : o.text f = s ++ '`' :: b) :
    2 * strings o.value = quotes s + quotes b ∧ 1 ≤ quotes s ∧ 1 ≤ quotes b := by
  obtain ⟨closed, count⟩ := written_dumps f o.value
  rw [← Document.text, parts] at closed count
  obtain ⟨before, behind⟩ := walk_tick closed
  have sum := (walk_append before ('`' :: b)).2
  rw [count, quotes_plain (by decide) (by decide)] at sum
  exact ⟨sum, walk_toggled before (by decide), walk_toggled behind (by decide)⟩

/-- A text with fewer quotes than the strings of an object need is not read as the object. -/
theorem Document.not_read (o : Document K) {x : List Char} (fewer : quotes x < 2 * strings o.value) : parsed f x ≠ .ok o.value := by
  rw [Ne, parsed_ok_iff]
  intro read
  have enough := quotes_loads read
  omega

/-- What stands between the fences of an object is less than the object. -/
theorem Document.fenced_less (o : Document K) {x : List Char} (found : search (o.text f) = some x) : parsed f x ≠ .ok o.value := by
  obtain ⟨before, rest, parts, here⟩ := search_some found
  obtain ⟨label, blanks, rest, y, named, blank, rfl, rfl, inner⟩ := fencedAt_some here
  obtain ⟨b, tail, rfl, rfl, _⟩ := body_some inner
  have split_ : o.text f = before ++ '`' :: '`' :: '`' :: (label ++ (blanks ++ '{' :: (b ++ ['}'] ++ tail))) := parts
  obtain ⟨sum, first, _⟩ := o.tick f split_
  have label_plain : label.all plain = true := by
    rcases named with rfl | rfl <;> rfl
  have less := quotes_le_append ('{' :: (b ++ ['}'])) tail
  rw [quotes_plain (by decide) (by decide), quotes_plain (by decide) (by decide), quotes_word label_plain, quotes_blank blank] at sum
  apply o.not_read f
  rw [List.cons_append] at less
  omega

/-- What stands before a fence of an object is less than the object. -/
theorem Document.closed_less (o : Document K) {m x : List Char} (shape : o.text f = '{' :: m) (found : body m = some x) :
    parsed f ('{' :: x) ≠ .ok o.value := by
  obtain ⟨b, rest, rfl, rfl, ends⟩ := body_some found
  obtain ⟨blanks, after, _, rfl⟩ := (closing_iff rest).mp ends
  have parts : o.text f = ('{' :: (b ++ ['}']) ++ blanks) ++ '`' :: '`' :: '`' :: after := by
    rw [shape]
    simp [fence]
  obtain ⟨sum, _, last⟩ := o.tick f parts
  have less := quotes_le_append ('{' :: (b ++ ['}'])) blanks
  apply o.not_read f
  omega

/-- What is read from a text in which the expression finds what it finds in the object, and the braces are the object's. -/
theorem extractJson_around (o : Document K) {pre post : List Char} (before : Unmarked pre) (behind : Unmarked post) :
    extractJson f (pre ++ (o.text f ++ post)) = .ok o.value ↔ ¬ Fenced (o.text f) := by
  obtain ⟨m, shape⟩ := o.braces f
  have regroup : ∀ rest, '{' :: (m ++ ['}']) ++ rest = '{' :: (m ++ '}' :: rest) := by simp
  obtain ⟨pre', post', before', behind', strips⟩ := stripped_around before behind m
  have finds := search_around before' behind' m
  have cuts := outermost_around before' behind' m
  rw [← shape] at finds cuts
  rw [extractJson, shape, regroup, strips, finds, cuts, ← shape, ← search_none_iff]
  cases found : search (o.text f) with
  | none => exact iff_of_true ((parsed_ok_iff f _ _).mpr (o.loads f)) rfl
  | some x => exact iff_of_false (o.fenced_less f found) nofun

theorem stripped_fences (m : List Char) : stripped (fence ++ (m ++ fence)) = fence ++ (m ++ fence) := by
  have turned : (fence ++ (m ++ fence)).reverse = fence ++ (m.reverse ++ fence) := by simp [fence]
  have kept : ∀ s, (fence ++ s).dropWhile isSpace = fence ++ s := by
    intro s
    rfl
  rw [stripped, kept, turned, kept, ← turned, List.reverse_reverse]

/-- Up to the fence behind an object the group is the object, unless it ends inside of it. -/
theorem body_fence {ws : List Char} (blank : Blank ws) (m : List Char) :
    body (m ++ '}' :: (ws ++ fence)) = some ((body (m ++ ['}'])).getD (m ++ ['}'])) := by
  induction m with
  | nil =>
    have ends : closing (ws ++ fence) = true := (closing_iff _).mpr ⟨ws, [], blank, rfl⟩
    rw [List.nil_append, body, if_pos ⟨rfl, ends⟩]
    rfl
  | cons c m ih =>
    have same : closing (m ++ '}' :: (ws ++ fence)) = closing (m ++ ['}']) := by
      rw [← closing_behind (ws ++ fence) m rfl, List.append_assoc, List.singleton_append]
    rw [List.cons_append, List.cons_append, body, body, same]
    split
    · rfl
    · rw [ih]
      cases body (m ++ ['}']) <;> rfl

theorem closed_cons_iff (s : List Char) : Closed ('{' :: s) ↔ Closed s := by
  have step : body ('{' :: s) = (body s).map ('{' :: ·) := by
    rw [body, if_neg]
    rintro ⟨same, _⟩
    cases same
  rw [← not_iff_not, ← body_none_iff, ← body_none_iff, step, Option.map_eq_none_iff]

/-- What is read from an object between fences. -/
theorem extractJson_fenced (o : Document K) {ws ws' : List Char} (front : Blank ws) (back : Blank ws') :
    extractJson f (fence ++ (json ++ (ws ++ (o.text f ++ (ws' ++ fence))))) = .ok o.value ↔ ¬ Closed (o.text f) := by
  obtain ⟨m, shape⟩ := o.braces f
  have strips := stripped_fences (json ++ (ws ++ (o.text f ++ ws')))
  simp only [List.append_assoc] at strips
  have spread : o.text f ++ (ws' ++ fence) = '{' :: (m ++ '}' :: (ws' ++ fence)) := by
    rw [shape]
    simp
  have here := fencedAt_label (.inr rfl) front (m ++ '}' :: (ws' ++ fence))
  rw [body_fence back, Option.map_some, ← spread] at here
  have finds : search (fence ++ (json ++ (ws ++ (o.text f ++ (ws' ++ fence))))) = some ('{' :: (body (m ++ ['}'])).getD (m ++ ['}'])) := by
    change search ('`' :: _) = _
    rw [search]
    change (match fencedAt (fence ++ (json ++ (ws ++ (o.text f ++ (ws' ++ fence))))) with
      | some group => some group
      | none => _) = _
    rw [here]
  rw [extractJson, strips, finds]
  change parsed f _ = _ ↔ _
  rw [shape, closed_cons_iff, ← body_none_iff]
  cases found : body (m ++ ['}']) with
  | none =>
    rw [Option.getD_none, ← shape]
    exact iff_of_true ((parsed_ok_iff f _ _).mpr (o.loads f)) rfl
  | some x => exact iff_of_false (o.closed_less f shape found) nofun

theorem unmarked_nil : Unmarked [] := ⟨List.not_mem_nil, List.not_mem_nil, by decide⟩

/-- An object is read back from its text, between fences and with text around, unless a string of it makes the expression or its end
    match inside. -/
theorem extractJson_iff (o : Document K) :
    (extractJson f (o.text f) = .ok o.value ↔ ¬ Fenced (o.text f)) ∧
      (∀ ws ws', Blank ws → Blank ws' →
        (extractJson f (fence ++ (json ++ (ws ++ (o.text f ++ (ws' ++ fence))))) = .ok o.value ↔ ¬ Closed (o.text f))) ∧
      ∀ pre post, Unmarked pre → Unmarked post → (extractJson f (pre ++ (o.text f ++ post)) = .ok o.value ↔ ¬ Fenced (o.text f)) := by
  refine ⟨?_, ?_, ?_⟩
  · have alone := extractJson_around f o unmarked_nil unmarked_nil
    rwa [List.nil_append, List.append_nil] at alone
  · exact fun ws ws' front back => extractJson_fenced f o front back
  · exact fun pre post before behind => extractJson_around f o before behind

end

/-- Floats without a fraction, as they are written up to sixteen digits. -/
def wholeFloats : FloatText Int where
  repr n := (toString n).toList ++ ['.', '0']
  float s :=
    match scanNumeral s with
    | some n => .fin (signedValue n)
    | none => .nan
  float_repr n := by
    have dot : EndsDigits ['.', '0'] := by
      intro c more same
      cases same
      rfl
    rw [scanNumeral_whole n dot]
    exact congrArg PyFloat.fin (signedValue_int n ['.', '0'] [])
  numeric_repr n c member := by
    rcases List.mem_append.mp member with digit | tail
    · exact numeric_int digit
    · rcases List.mem_cons.mp tail with rfl | tail
      · rfl
      · rcases List.mem_cons.mp tail with rfl | tail
        · rfl
        · cases tail
  scan_repr n rest ends := by
    have dot : EndsDigits (['.', '0'] ++ rest) := by
      intro c more same
      cases same
      rfl
    have zero : ∀ c ∈ ['0'], c.isDigit = true := by
      intro c member
      rw [List.mem_singleton.mp member]
      rfl
    have digits : digitsOf ('0' :: rest) = (['0'], rest) := digitsOf_append zero ends.digits
    have fraction : scanFraction ('.' :: '0' :: rest) = (['.', '0'], rest) := by
      rw [scanFraction, digits]
    have exponent : scanExponent rest = ([], rest) := by
      cases rest with
      | nil => rfl
      | cons c more =>
        obtain ⟨_, _, e, E⟩ := ends c more rfl
        simp [scanExponent, e, E]
    refine ⟨⟨if n < 0 then ['-'] else [], Nat.toDigits 10 n.natAbs, ['.', '0'], [], rest⟩, ?_, rfl, ?_, nofun⟩
    · rw [List.append_assoc, scanNumeral_whole n dot, scanTail, List.cons_append, List.singleton_append, fraction]
      dsimp only
      rw [exponent]
    · rw [toList_toString]
      split <;> simp

/-- `{"a": "```{}```"}` -/
def fencedNote : Document Int where
  fields := [(String.ofList ['a'], .str (String.ofList ['`', '`', '`', '{', '}', '`', '`', '`']))]
  proper := ⟨by simp, trivial, trivial⟩

theorem fencedNote_text : fencedNote.text wholeFloats =
    ['{', '"', 'a', '"', ':', ' ', '"', '`', '`', '`', '{', '}', '`', '`', '`', '"', '}'] := by
  rw [Document.text, Document.value, fencedNote, dumps, dumpsFields, dumps, quoted, quoted, String.toList_ofList, String.toList_ofList]
  rfl

theorem extractJson_counterexample : ¬ ∀ o : Document Int, extractJson wholeFloats (o.text wholeFloats) = .ok o.value := by
  intro claim
  have read := claim fencedNote
  rw [fencedNote_text] at read
  have cut : extractJson wholeFloats ['{', '"', 'a', '"', ':', ' ', '"', '`', '`', '`', '{', '}', '`', '`', '`', '"', '}'] = .ok (.obj []) := rfl
  rw [cut] at read
  injection read with same
  injection same with fields
  cases fields

/-- `{"a": "{x}"}` between fences -/
def bracedNote : Document Int where
  fields := [(String.ofList ['a'], .str (String.ofList ['{', 'x', '}']))]
  proper := ⟨by simp, trivial, trivial⟩

theorem bracedNote_text : bracedNote.text wholeFloats = ['{', '"', 'a', '"', ':', ' ', '"', '{', 'x', '}', '"', '}'] := by
  rw [Document.text, Document.value, bracedNote, dumps, dumpsFields, dumps, quoted, quoted, String.toList_ofList, String.toList_ofList]
  rfl

theorem extractJson_iff_braced :
    extractJson wholeFloats (fence ++ (json ++ (['\n'] ++ (bracedNote.text wholeFloats ++ (['\n'] ++ fence))))) = .ok bracedNote.value := by
  have blank : Blank ['\n'] := by
    intro c member
    rw [List.mem_singleton.mp member]
    rfl
  refine ((extractJson_iff wholeFloats bracedNote).2.1 ['\n'] ['\n'] blank blank).mpr ?_
  rw [bracedNote_text, ← body_none_iff]
  rfl

end KnowledgeGap.Llm
