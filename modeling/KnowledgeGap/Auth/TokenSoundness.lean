import KnowledgeGap.Auth.Tokens
import KnowledgeGap.Data.Outcome

namespace KnowledgeGap.Auth

variable {K : Type}

/-! Strings between dots. -/

theorem pieces_dot (a b : String) : pieces (a ++ "." ++ b) = pieces a ++ pieces b := by
  have spelled : (a ++ "." ++ b).toList = a.toList ++ '.' :: b.toList := by simp
  rw [pieces, pieces, pieces, spelled, List.splitOn_append_cons_self, List.map_append]

theorem pieces_plain {s : String} (plain : '.' ∉ s.toList) : pieces s = [s] := by
  rw [pieces, List.splitOn_eq_singleton plain, List.map_singleton, String.ofList_toList]

theorem not_mem_of_mem_splitOn {a : Char} {text piece : List Char} (member : piece ∈ text.splitOn a) : a ∉ piece := by
  induction text generalizing piece with
  | nil =>
    rw [List.splitOn_nil, List.mem_singleton] at member
    rw [member]
    exact List.not_mem_nil
  | cons c rest ih =>
    rw [List.splitOn_cons_eq_if_modifyHead] at member
    split at member
    · rcases List.mem_cons.mp member with empty | later
      · rw [empty]
        exact List.not_mem_nil
      · exact ih later
    · rename_i other
      cases shape : rest.splitOn a with
      | nil => exact absurd shape (List.splitOn_ne_nil a rest)
      | cons first more =>
        rw [shape] at member ih
        rcases List.mem_cons.mp member with head | later
        · rw [head]
          intro inside
          rcases List.mem_cons.mp inside with same | before
          · exact other (beq_iff_eq.mpr same.symm)
          · exact ih List.mem_cons_self before
        · exact ih (List.mem_cons_of_mem _ later)

theorem plain_of_mem_pieces {s p : String} (member : p ∈ pieces s) : '.' ∉ p.toList := by
  obtain ⟨piece, inside, shape⟩ := List.mem_map.mp member
  rw [← shape, String.toList_ofList]
  exact not_mem_of_mem_splitOn inside

theorem join_pieces (s : String) : s.toList = ['.'].intercalate ((pieces s).map String.toList) := by
  have back : (pieces s).map String.toList = s.toList.splitOn '.' := by
    rw [pieces, List.map_map]
    refine (List.map_congr_left ?_).trans (List.map_id _)
    intro piece _
    exact String.toList_ofList
  rw [back, List.intercalate_splitOn]

theorem eq_of_pieces {s a : String} (shape : pieces s = [a]) : s = a := by
  have spelled := join_pieces s
  rw [shape] at spelled
  exact String.toList_inj.mp (by simpa using spelled)

theorem three_pieces {s a b c : String} (shape : pieces s = [a, b, c]) : s = a ++ "." ++ b ++ "." ++ c := by
  have spelled := join_pieces s
  rw [shape] at spelled
  apply String.toList_inj.mp
  rw [spelled]
  simp [List.intercalate]

theorem four_pieces {s a b c e : String} (shape : pieces s = [a, b, c, e]) : s = tokenBody a b c ++ "." ++ e := by
  have spelled := join_pieces s
  rw [shape] at spelled
  apply String.toList_inj.mp
  rw [spelled]
  simp [List.intercalate, tokenBody]

theorem pieces_body {kind uid exp : String} (plain_uid : '.' ∉ uid.toList) (plain_exp : '.' ∉ exp.toList) :
    pieces (tokenBody kind uid exp) = pieces kind ++ [uid, exp] := by
  rw [tokenBody, pieces_dot, pieces_dot, pieces_plain plain_uid, pieces_plain plain_exp, List.append_assoc]
  rfl

/-! Issued tokens. -/

theorem body_written {i : Issue} {body : String} (written : i.body = some body) :
    ∃ uid exp, writeInt i.uid = some uid ∧ writeInt i.exp = some exp ∧ body = tokenBody i.kind uid exp := by
  obtain ⟨uid, first, rest⟩ := Option.bind_eq_some_iff.mp written
  obtain ⟨exp, second, shape⟩ := Option.map_eq_some_iff.mp rest
  exact ⟨uid, exp, first, second, shape.symm⟩

theorem pieces_issued {i : Issue} {body : String} (written : i.body = some body) :
    ∃ uid exp, writeInt i.uid = some uid ∧ writeInt i.exp = some exp ∧ pieces body = pieces i.kind ++ [uid, exp] := by
  obtain ⟨uid, exp, first, second, shape⟩ := body_written written
  rw [shape]
  exact ⟨uid, exp, first, second, pieces_body (writeInt_plain first) (writeInt_plain second)⟩

/-- A body of three pieces was issued for just these. -/
theorem issued_exactly {i : Issue} {kind uid exp : String} (written : i.body = some (tokenBody kind uid exp))
    (plain_kind : '.' ∉ kind.toList) (plain_uid : '.' ∉ uid.toList) (plain_exp : '.' ∉ exp.toList) :
    i.kind = kind ∧ writeInt i.uid = some uid ∧ writeInt i.exp = some exp := by
  obtain ⟨uid', exp', first, second, shape⟩ := pieces_issued written
  rw [pieces_body plain_uid plain_exp, pieces_plain plain_kind] at shape
  have same : [kind] = pieces i.kind ∧ [uid, exp] = [uid', exp'] := List.append_inj' shape rfl
  rw [List.cons.injEq, List.cons.injEq] at same
  rw [same.2.1, same.2.2.1]
  exact ⟨eq_of_pieces same.1.symm, first, second⟩

/-- No signed body is of two pieces. -/
theorem issued_not_two {i : Issue} {a b : String} (written : i.body = some (a ++ "." ++ b)) (plain_a : '.' ∉ a.toList)
    (plain_b : '.' ∉ b.toList) : False := by
  obtain ⟨uid, exp, _, _, shape⟩ := pieces_issued written
  rw [pieces_dot, pieces_plain plain_a, pieces_plain plain_b] at shape
  have some_ : pieces i.kind ≠ [] := by simp [pieces]
  have long := congrArg List.length shape
  have first := List.length_pos_iff.mpr some_
  rw [List.length_append, List.length_append] at long
  simp only [List.length_cons, List.length_nil] at long
  omega

/-- Ideal signing: wherever the token is taken apart, a tag that fits its body was made by a signer for that body. -/
def Unforged (hmac : Hmac) (secret : String) (calls : List Signing) (token : String) : Prop :=
  ∀ body sig, token = body ++ "." ++ sig → sig = hmac secret body → ∃ call ∈ calls, call.issue.body = some body

section
variable [IntCast K] [LT K] [DecidableLT K] {t : Characters} {hmac : Hmac} {d : Deployment} {now : K} {token : String}

theorem compareDigest_true {expect sig : String} (same : compareDigest expect sig = .ok true) : expect = sig := by
  rw [compareDigest] at same
  split at same
  · rw [Except.ok.injEq, decide_eq_true_eq] at same
    exact same
  · cases same

theorem verifySigned_ok {secret body uidRaw expRaw sig : String} {uid : Int}
    (accepted : verifySigned t hmac now secret body uidRaw expRaw sig = .ok uid) :
    sig = hmac secret body ∧ t.readInt uidRaw = some uid ∧ ∃ exp, t.readInt expRaw = some exp ∧ ¬ (exp : K) < now := by
  rw [verifySigned] at accepted
  cases compared : compareDigest (hmac secret body) sig with
  | error e =>
    rw [compared] at accepted
    cases accepted
  | ok same =>
    rw [compared] at accepted
    cases same with
    | false => cases accepted
    | true =>
      simp only [Except.bind, if_true] at accepted
      split at accepted
      · rename_i uid' exp first second
        split at accepted
        · cases accepted
        · rename_i valid
          cases accepted
          exact ⟨(compareDigest_true compared).symm, first, exp, second, valid⟩
      · cases accepted

/-- What an accepted string is made of: four pieces, or three under the older reading. -/
theorem parseToken_ok {kind : String} {uid : Int} (accepted : parseToken t hmac d now token = .ok (kind, uid)) :
    (∃ uidRaw expRaw sig, pieces token = [kind, uidRaw, expRaw, sig] ∧ (kind = "t" ∨ kind = "s") ∧
      verifySigned t hmac now d.secret (tokenBody kind uidRaw expRaw) uidRaw expRaw sig = .ok uid) ∨
    (∃ uidRaw expRaw sig, pieces token = [uidRaw, expRaw, sig] ∧ kind = "t" ∧
      verifySigned t hmac now d.secret (uidRaw ++ "." ++ expRaw) uidRaw expRaw sig = .ok uid) := by
  unfold parseToken at accepted
  split at accepted
  · rename_i kind' uidRaw expRaw sig shape
    split at accepted
    · rename_i known
      obtain ⟨uid', checked, same⟩ := map_ok accepted
      cases same
      exact .inl ⟨uidRaw, expRaw, sig, shape, known, checked⟩
    · cases accepted
  · rename_i uidRaw expRaw sig shape
    obtain ⟨uid', checked, same⟩ := map_ok accepted
    cases same
    exact .inr ⟨uidRaw, expRaw, sig, shape, rfl, checked⟩
  · cases accepted

theorem parseToken_issued {calls : List Signing} {kind : String} {uid : Int}
    (shared : d.secret = d.configured) (unforged : Unforged hmac d.configured calls token)
    (accepted : parseToken t hmac d now token = .ok (kind, uid)) :
    (pieces token).length = 4 ∧ ∃ call ∈ calls, call.issue.kind = kind ∧ call.issue.uid = uid ∧
      ¬ (call.issue.exp : K) < now ∧ call.issue.token hmac d.configured = some token := by
  rcases parseToken_ok accepted with four | three
  · obtain ⟨uidRaw, expRaw, sig, shape, _, checked⟩ := four
    obtain ⟨tag, read_uid, exp, read_exp, valid⟩ := verifySigned_ok checked
    rw [shared] at tag
    have spelled := four_pieces shape
    obtain ⟨call, member, signed⟩ := unforged _ sig spelled tag
    have plain : ∀ p ∈ [kind, uidRaw, expRaw, sig], '.' ∉ p.toList := fun p inside => plain_of_mem_pieces (shape ▸ inside)
    obtain ⟨same_kind, wrote_uid, wrote_exp⟩ :=
      issued_exactly signed (plain _ (by simp)) (plain _ (by simp)) (plain _ (by simp))
    rw [t.readInt_writeInt wrote_uid, Option.some.injEq] at read_uid
    rw [t.readInt_writeInt wrote_exp, Option.some.injEq] at read_exp
    refine ⟨congrArg List.length shape, call, member, same_kind, read_uid, read_exp ▸ valid, ?_⟩
    rw [Issue.token, signed, Option.map_some, ← tag, ← spelled]
  · obtain ⟨uidRaw, expRaw, sig, shape, _, checked⟩ := three
    obtain ⟨tag, _⟩ := verifySigned_ok checked
    rw [shared] at tag
    obtain ⟨call, member, signed⟩ := unforged (uidRaw ++ "." ++ expRaw) sig (three_pieces shape) tag
    have plain : ∀ p ∈ [uidRaw, expRaw, sig], '.' ∉ p.toList := fun p inside => plain_of_mem_pieces (shape ▸ inside)
    exact (issued_not_two signed (plain _ (by simp)) (plain _ (by simp))).elim

/-- A token of a student is no token of a teacher under either reading. -/
theorem parseToken_student {i : Issue} {secret : String} {uid : Int} (student : i.kind = "s") (issued : i.token hmac secret = some token) :
    parseToken t hmac d now token ≠ .ok ("t", uid) := by
  intro accepted
  obtain ⟨body, written, spelled⟩ := Option.map_eq_some_iff.mp issued
  obtain ⟨uid', exp', _, _, split⟩ := pieces_issued written
  have whole : pieces token = "s" :: uid' :: exp' :: pieces (hmac secret body) := by
    rw [← spelled, pieces_dot, split, student, pieces_plain (by decide)]
    rfl
  have tag : pieces (hmac secret body) ≠ [] := by simp [pieces]
  rcases parseToken_ok accepted with four | three
  · obtain ⟨uidRaw, expRaw, sig, shape, _, _⟩ := four
    rw [whole, List.cons.injEq] at shape
    exact absurd shape.1 (by decide)
  · obtain ⟨uidRaw, expRaw, sig, shape, _, _⟩ := three
    rw [whole, List.cons.injEq, List.cons.injEq, List.cons.injEq] at shape
    exact tag shape.2.2.2

theorem verifyToken_ok {uid : Int} : verifyToken t hmac d now token = .ok uid ↔ parseToken t hmac d now token = .ok ("t", uid) := by
  constructor
  · intro accepted
    obtain ⟨who, parsed, teacher⟩ := bind_ok accepted
    split at teacher
    · rename_i kind
      rw [parsed, ← kind, ← Except.ok.inj teacher]
    · cases teacher
  · intro parsed
    rw [verifyToken, parsed]
    rfl

/-- The two verifiers read a token alike. -/
theorem verifyBackendToken_ok {uid : Int} (shared : d.configured ≠ "") :
    verifyBackendToken t hmac d now token = .ok uid ↔ parseToken t hmac d now token = .ok ("t", uid) := by
  have secret : d.secret = d.configured := if_neg shared
  have named : ∀ (x : Except TokenError Int) kind, x.map (kind, ·) = .ok ("t", uid) ↔ kind = "t" ∧ x = .ok uid := by
    intro x kind
    cases x with
    | error e => exact ⟨nofun, fun both => nomatch both.2⟩
    | ok v =>
      change Except.ok (kind, v) = .ok ("t", uid) ↔ _
      rw [Except.ok.injEq, Except.ok.injEq, Prod.mk.injEq]
  unfold verifyBackendToken parseToken
  rw [if_neg shared, secret]
  split
  · rename_i kind uidRaw expRaw sig shape
    by_cases teacher : kind = "t"
    · rw [if_pos teacher, if_pos (Or.inl teacher), named]
      exact ⟨fun accepted => ⟨teacher, accepted⟩, fun both => both.2⟩
    · rw [if_neg teacher]
      constructor
      · exact nofun
      · intro accepted
        split at accepted
        · exact absurd ((named _ kind).mp accepted).1 teacher
        · cases accepted
  · rename_i uidRaw expRaw sig shape
    rw [named]
    exact ⟨fun accepted => ⟨rfl, accepted⟩, fun both => both.2⟩
  · exact ⟨nofun, nofun⟩

/-- Accepted tokens were issued for whom they name and have not expired; a student's token is none of a teacher, the older
    form is dead, and the two services agree. -/
theorem tokens_sound (t : Characters) (hmac : Hmac) (d : Deployment) (calls : List Signing) (now : K)
    (shared : d.configured ≠ "") :
    (∀ token kind uid, Unforged hmac d.configured calls token →
      verifyPrincipalToken t hmac d now token = .ok (kind, uid) →
      ∃ call ∈ calls, call.issue.kind = kind ∧ call.issue.uid = uid ∧ ¬ (call.issue.exp : K) < now ∧
        call.issue.token hmac d.configured = some token) ∧
    (∀ (i : Issue) token uid, i.kind = "s" → i.token hmac d.configured = some token →
      verifyToken t hmac d now token ≠ .ok uid ∧ verifyBackendToken t hmac d now token ≠ .ok uid) ∧
    (∀ token, Unforged hmac d.configured calls token → (pieces token).length = 3 →
      (∀ who, verifyPrincipalToken t hmac d now token ≠ .ok who) ∧ (∀ uid, verifyToken t hmac d now token ≠ .ok uid) ∧
        ∀ uid, verifyBackendToken t hmac d now token ≠ .ok uid) ∧
    (∀ token uid, verifyToken t hmac d now token = .ok uid ↔ verifyBackendToken t hmac d now token = .ok uid) := by
  have secret : d.secret = d.configured := if_neg shared
  have legacy : ∀ token, Unforged hmac d.configured calls token → (pieces token).length = 3 →
      ∀ who, parseToken t hmac d now token ≠ .ok who := by
    intro token unforged three who accepted
    have four := (parseToken_issued secret unforged accepted).1
    omega
  refine ⟨?_, ?_, ?_, ?_⟩
  · intro token kind uid unforged accepted
    exact (parseToken_issued secret unforged accepted).2
  · intro i token uid student issued
    rw [Ne, Ne, verifyToken_ok, verifyBackendToken_ok shared]
    exact ⟨parseToken_student student issued, parseToken_student student issued⟩
  · intro token unforged three
    refine ⟨legacy token unforged three, ?_, ?_⟩
    · intro uid accepted
      exact legacy token unforged three _ (verifyToken_ok.mp accepted)
    · intro uid accepted
      exact legacy token unforged three _ ((verifyBackendToken_ok shared).mp accepted)
  · intro token uid
    rw [verifyToken_ok, verifyBackendToken_ok shared]

end

def asciiCharacters : Characters where
  digit c := if c.isDigit then some (c.toNat - '0'.toNat) else none
  blank c := c.isWhitespace
  digit_ascii := fun _ digit => if_pos digit
  digit_minus := rfl
  blank_minus := rfl
  blank_digit := by
    intro c digit
    rw [Bool.eq_false_iff]
    intro blank
    simp only [Char.isWhitespace, Bool.or_eq_true, decide_eq_true_eq] at blank
    rcases blank with ((rfl | rfl) | rfl) | rfl <;> cases digit

def loginToken : String := "t.7.1700604800.04f4a886ac07874cf970dca9115968ef286db35793132866779900171775f656"

/-- What the key derivation yields for the one body that is signed here. -/
def loginHmac : Hmac := fun _ body =>
  if body = "t.7.1700604800" then "04f4a886ac07874cf970dca9115968ef286db35793132866779900171775f656" else ""

theorem tokens_sound_login : ∃ call ∈ [Signing.sign "t" 7 604800 1700000000], call.issue.kind = "t" ∧ call.issue.uid = 7 ∧
    ¬ (call.issue.exp : Int) < 1700000001 ∧ call.issue.token loginHmac "k" = some loginToken := by
  refine (tokens_sound asciiCharacters loginHmac ⟨"k", ""⟩ [.sign "t" 7 604800 1700000000]
    (1700000001 : Int) (by decide)).1 loginToken "t" 7 ?_ (by decide +kernel)
  intro body sig spelled tag
  by_cases signed : body = "t.7.1700604800"
  · exact ⟨_, List.mem_singleton_self _, by rw [signed]; decide +kernel⟩
  · rw [loginHmac, if_neg signed] at tag
    rw [tag] at spelled
    have last := congrArg (fun s => s.toList.getLast?) spelled
    simp [loginToken] at last

end KnowledgeGap.Auth
