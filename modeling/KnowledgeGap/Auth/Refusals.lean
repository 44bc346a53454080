import KnowledgeGap.Auth.TokenSoundness
import KnowledgeGap.Relational.Dict

namespace KnowledgeGap.Auth

open Relational

variable {K : Type}

/-- `Session` of the gateway. -/
structure LocalSession (K : Type) where
  token : String
  username : String
  teacherId : Int
  createdAt : K
  deriving DecidableEq

inductive Rejection
  | httpException (status : Nat) (detail : String)
  | typeError (text : String)
  deriving DecidableEq

section
variable [IntCast K] [LT K] [DecidableLT K] (t : Characters) (hmac : Hmac) (d : Deployment) (now created : K)

/-- `require_auth` of the gateway. -/
def requireAuth (sessions : Dict String (LocalSession K)) (authorization : String) : Except Rejection (LocalSession K) :=
  if "Bearer ".toList.isPrefixOf authorization.toList then
    let token := String.ofList (authorization.toList.drop 7)
    match sessions.get? token with
    | some sess => .ok sess
    | none =>
      match verifyBackendToken t hmac d now token with
      -- `int` reads no number that is too long to write
      | .ok teacherId => .ok ⟨token, "t" ++ toString teacherId, teacherId, created⟩
      | .error (.invalid text) => .error (.httpException 401 text)
      | .error (.typeError text) => .error (.typeError text)
  else .error (.httpException 401 "缺少 Bearer token")

end

/-- What the callers of a verifier are told to expect: a value, or the exception they translate. -/
def Documented {α : Type} (answer : Except TokenError α) : Prop :=
  (∃ a, answer = .ok a) ∨ ∃ text, answer = .error (.invalid text)

/-- A request is let in or answered with 401. -/
def Settled {α : Type} (answer : Except Rejection α) : Prop :=
  (∃ a, answer = .ok a) ∨ ∃ text, answer = .error (.httpException 401 text)

def Ascii (s : String) : Prop := ∀ c ∈ s.toList, c.toNat < 128

def hexDigit (c : Char) : Bool := c.isDigit || (decide ('a'.toNat ≤ c.toNat) && decide (c.toNat ≤ 'f'.toNat))

/-- `hexdigest` writes hexadecimal digits. -/
def Hexadecimal (hmac : Hmac) : Prop := ∀ secret body, (hmac secret body).toList.all hexDigit = true

/-- The tag of a token that has one is all ASCII: behind one of the kinds, or in the older form. -/
def PlainTag (kinds : List String) (token : String) : Prop :=
  (∀ kind uidRaw expRaw sig, pieces token = [kind, uidRaw, expRaw, sig] → kind ∈ kinds → Ascii sig) ∧
    ∀ uidRaw expRaw sig, pieces token = [uidRaw, expRaw, sig] → Ascii sig

/-! The tag of a token. -/

theorem plainTag_four {kinds : List String} {token kind uidRaw expRaw sig : String} (shape : pieces token = [kind, uidRaw, expRaw, sig]) :
    PlainTag kinds token ↔ (kind ∈ kinds → Ascii sig) := by
  constructor
  · intro plain
    exact plain.1 kind uidRaw expRaw sig shape
  · intro ascii
    constructor
    · intro kind' uidRaw' expRaw' sig' same
      rw [shape] at same
      cases same
      exact ascii
    · intro uidRaw' expRaw' sig' same
      rw [shape] at same
      cases same

theorem plainTag_three {kinds : List String} {token uidRaw expRaw sig : String} (shape : pieces token = [uidRaw, expRaw, sig]) :
    PlainTag kinds token ↔ Ascii sig := by
  constructor
  · intro plain
    exact plain.2 uidRaw expRaw sig shape
  · intro ascii
    constructor
    · intro kind' uidRaw' expRaw' sig' same
      rw [shape] at same
      cases same
    · intro uidRaw' expRaw' sig' same
      rw [shape] at same
      cases same
      exact ascii

/-! What a comparison of tags does. -/

theorem documented_error {α : Type} (text : String) : Documented (.error (.invalid text) : Except TokenError α) := Or.inr ⟨text, rfl⟩

theorem not_documented {α : Type} (text : String) : ¬ Documented (.error (.typeError text) : Except TokenError α) := by
  intro documented
  rcases documented with value | refused
  · obtain ⟨a, same⟩ := value
    cases same
  · obtain ⟨text', same⟩ := refused
    cases same

theorem not_settled {α : Type} (text : String) : ¬ Settled (.error (.typeError text) : Except Rejection α) := by
  intro settled
  rcases settled with value | refused
  · obtain ⟨a, same⟩ := value
    cases same
  · obtain ⟨text', same⟩ := refused
    cases same

theorem documented_map {α β : Type} {answer : Except TokenError α} {f : α → β} : Documented (answer.map f) ↔ Documented answer := by
  cases answer with
  | ok a => exact ⟨fun _ => Or.inl ⟨a, rfl⟩, fun _ => Or.inl ⟨f a, rfl⟩⟩
  | error e =>
    cases e with
    | invalid text => exact ⟨fun _ => documented_error text, fun _ => documented_error text⟩
    | typeError text =>
      exact ⟨fun documented => absurd documented (not_documented text), fun documented => absurd documented (not_documented text)⟩

theorem hexadecimal_ascii {hmac : Hmac} (hexadecimal : Hexadecimal hmac) (secret body : String) : Ascii (hmac secret body) := by
  intro c listed
  have digit := List.all_eq_true.mp (hexadecimal secret body) c listed
  rw [hexDigit, Bool.or_eq_true, Bool.and_eq_true, decide_eq_true_eq, decide_eq_true_eq] at digit
  rcases digit with digit | letter
  · rw [Char.isDigit, Bool.and_eq_true, decide_eq_true_eq, decide_eq_true_eq] at digit
    have upto : c.toNat ≤ '9'.toNat := digit.2
    exact Nat.lt_of_le_of_lt upto (by decide)
  · exact Nat.lt_of_le_of_lt letter.2 (by decide)

theorem compareDigest_of_ascii {expect sig : String} (plain : Ascii expect) (ascii : Ascii sig) :
    compareDigest expect sig = .ok (decide (expect = sig)) := by
  rw [compareDigest, if_pos]
  rw [Bool.and_eq_true, List.all_eq_true, List.all_eq_true]
  exact ⟨fun c listed => decide_eq_true (plain c listed), fun c listed => decide_eq_true (ascii c listed)⟩

theorem compareDigest_of_not_ascii (expect : String) {sig : String} (odd : ¬ Ascii sig) :
    ∃ text, compareDigest expect sig = .error (.typeError text) := by
  rw [compareDigest, if_neg]
  · exact ⟨_, rfl⟩
  · intro plain
    rw [Bool.and_eq_true, List.all_eq_true, List.all_eq_true] at plain
    exact odd (fun c listed => of_decide_eq_true (plain.2 c listed))

section
variable [IntCast K] [LT K] [DecidableLT K] {t : Characters} {hmac : Hmac} {d : Deployment} {now : K} {token : String}

theorem verifySigned_documented (hexadecimal : Hexadecimal hmac) {secret body uidRaw expRaw sig : String} :
    Documented (verifySigned t hmac now secret body uidRaw expRaw sig) ↔ Ascii sig := by
  by_cases ascii : Ascii sig
  · refine ⟨fun _ => ascii, fun _ => ?_⟩
    rw [verifySigned, compareDigest_of_ascii (hexadecimal_ascii hexadecimal secret body) ascii]
    change Documented (if decide (hmac secret body = sig) = true then _ else _)
    split
    · split
      · split
        · exact documented_error _
        · exact Or.inl ⟨_, rfl⟩
      · exact documented_error _
    · exact documented_error _
  · refine ⟨fun documented => ?_, fun plain => absurd plain ascii⟩
    obtain ⟨text, failed⟩ := compareDigest_of_not_ascii (hmac secret body) ascii
    rw [verifySigned, failed] at documented
    exact absurd documented (not_documented text)

theorem parseToken_documented (hexadecimal : Hexadecimal hmac) :
    Documented (parseToken t hmac d now token) ↔ PlainTag ["t", "s"] token := by
  unfold parseToken
  split
  · rename_i kind uidRaw expRaw sig shape
    rw [plainTag_four shape]
    by_cases known : kind = "t" ∨ kind = "s"
    · have listed : kind ∈ ["t", "s"] := by simpa using known
      rw [if_pos known, documented_map, verifySigned_documented hexadecimal]
      exact ⟨fun ascii _ => ascii, fun ascii => ascii listed⟩
    · have unlisted : kind ∉ ["t", "s"] := by simpa using known
      rw [if_neg known]
      exact ⟨fun _ listed => absurd listed unlisted, fun _ => documented_error _⟩
  · rename_i uidRaw expRaw sig shape
    rw [plainTag_three shape, documented_map, verifySigned_documented hexadecimal]
  · rename_i four three
    exact ⟨fun _ => ⟨fun _ _ _ _ shape => absurd shape (four _ _ _ _), fun _ _ _ shape => absurd shape (three _ _ _)⟩,
      fun _ => documented_error _⟩

theorem verifyBackendToken_documented (hexadecimal : Hexadecimal hmac) :
    Documented (verifyBackendToken t hmac d now token) ↔ d.configured = "" ∨ PlainTag ["t"] token := by
  unfold verifyBackendToken
  by_cases unset : d.configured = ""
  · rw [if_pos unset]
    exact ⟨fun _ => Or.inl unset, fun _ => documented_error _⟩
  · rw [if_neg unset, or_iff_right unset]
    split
    · rename_i kind uidRaw expRaw sig shape
      rw [plainTag_four shape, List.mem_singleton]
      by_cases known : kind = "t"
      · rw [if_pos known, verifySigned_documented hexadecimal]
        exact ⟨fun ascii _ => ascii, fun ascii => ascii known⟩
      · rw [if_neg known]
        exact ⟨fun _ same => absurd same known, fun _ => documented_error _⟩
    · rename_i uidRaw expRaw sig shape
      rw [plainTag_three shape, verifySigned_documented hexadecimal]
    · rename_i four three
      exact ⟨fun _ => ⟨fun _ _ _ _ shape => absurd shape (four _ _ _ _), fun _ _ _ shape => absurd shape (three _ _ _)⟩,
        fun _ => documented_error _⟩

/-- A request with a token is settled by its local session, or as the verifier answers. -/
theorem requireAuth_settled (sessions : Dict String (LocalSession K)) (created : K) :
    Settled (requireAuth t hmac d now created sessions ("Bearer " ++ token)) ↔
      (sessions.get? token).isSome ∨ Documented (verifyBackendToken t hmac d now token) := by
  have bearer : "Bearer ".toList.isPrefixOf ("Bearer " ++ token).toList = true := by
    rw [String.toList_append, List.isPrefixOf_iff_prefix]
    exact List.prefix_append _ _
  have rest : String.ofList (("Bearer " ++ token).toList.drop 7) = token := by
    rw [String.toList_append, List.drop_left' (by decide), String.ofList_toList]
  unfold requireAuth
  rw [if_pos bearer, rest]
  dsimp only
  cases sessions.get? token with
  | some sess => exact ⟨fun _ => Or.inl rfl, fun _ => Or.inl ⟨sess, rfl⟩⟩
  | none =>
    dsimp only [Option.isSome_none]
    rw [or_iff_right Bool.false_ne_true]
    cases verifyBackendToken t hmac d now token with
    | ok teacherId => exact ⟨fun _ => Or.inl ⟨teacherId, rfl⟩, fun _ => Or.inl ⟨_, rfl⟩⟩
    | error e =>
      cases e with
      | invalid text => exact ⟨fun _ => documented_error text, fun _ => Or.inr ⟨text, rfl⟩⟩
      | typeError text => exact ⟨fun settled => absurd settled (not_settled text), fun documented => absurd documented (not_documented text)⟩

/-- Exactly the tokens whose tag is not all ASCII, where it is compared, are refused outside the documented way. -/
theorem bad_tokens_refused (hexadecimal : Hexadecimal hmac) (sessions : Dict String (LocalSession K)) (created : K) :
    (Documented (verifyPrincipalToken t hmac d now token) ↔ PlainTag ["t", "s"] token) ∧
      (Documented (verifyBackendToken t hmac d now token) ↔ d.configured = "" ∨ PlainTag ["t"] token) ∧
      (Settled (requireAuth t hmac d now created sessions ("Bearer " ++ token)) ↔
        (sessions.get? token).isSome ∨ d.configured = "" ∨ PlainTag ["t"] token) := by
  refine ⟨parseToken_documented hexadecimal, verifyBackendToken_documented hexadecimal, ?_⟩
  rw [requireAuth_settled, verifyBackendToken_documented hexadecimal]

end

theorem hexadecimal_login : Hexadecimal loginHmac := by
  intro secret body
  unfold loginHmac
  split
  · decide +kernel
  · rfl

theorem bad_tokens_refused_login :
    (Documented (verifyPrincipalToken asciiCharacters loginHmac ⟨"k", ""⟩ (1700000001 : Int) loginToken) ↔
        PlainTag ["t", "s"] loginToken) ∧
      (Documented (verifyBackendToken asciiCharacters loginHmac ⟨"k", ""⟩ (1700000001 : Int) loginToken) ↔
        "k" = "" ∨ PlainTag ["t"] loginToken) ∧
      (Settled (requireAuth asciiCharacters loginHmac ⟨"k", ""⟩ (1700000001 : Int) 1700000002 Dict.empty ("Bearer " ++ loginToken)) ↔
        (Dict.get? (Dict.empty : Dict String (LocalSession Int)) loginToken).isSome ∨ "k" = "" ∨ PlainTag ["t"] loginToken) :=
  bad_tokens_refused hexadecimal_login Dict.empty 1700000002

/-- A tag of one letter beyond ASCII. -/
theorem bad_tokens_counterexample :
    ¬ Documented (verifyPrincipalToken asciiCharacters loginHmac ⟨"k", ""⟩ (1700000001 : Int) "t.7.1700604800.é") ∧
      ¬ Documented (verifyBackendToken asciiCharacters loginHmac ⟨"k", ""⟩ (1700000001 : Int) "t.7.1700604800.é") ∧
      ¬ Settled (requireAuth asciiCharacters loginHmac ⟨"k", ""⟩ (1700000001 : Int) 1700000002 Dict.empty "Bearer t.7.1700604800.é") := by
  have backend : verifyPrincipalToken asciiCharacters loginHmac ⟨"k", ""⟩ (1700000001 : Int) "t.7.1700604800.é" =
      .error (.typeError "comparing strings with non-ASCII characters is not supported") := by decide +kernel
  have gateway : verifyBackendToken asciiCharacters loginHmac ⟨"k", ""⟩ (1700000001 : Int) "t.7.1700604800.é" =
      .error (.typeError "comparing strings with non-ASCII characters is not supported") := by decide +kernel
  have request : requireAuth asciiCharacters loginHmac ⟨"k", ""⟩ (1700000001 : Int) 1700000002 Dict.empty "Bearer t.7.1700604800.é" =
      .error (.typeError "comparing strings with non-ASCII characters is not supported") := by decide +kernel
  rw [backend, gateway, request]
  exact ⟨not_documented _, not_documented _, not_settled _⟩

end KnowledgeGap.Auth
