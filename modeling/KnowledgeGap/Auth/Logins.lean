import KnowledgeGap.Auth.Accounts

namespace KnowledgeGap.Auth

open Relational Text Protocol

/-! One table. -/

section
variable {ρ : Type} [LoginRow ρ] {t : Table ρ} {k : Nat} {username : String}

theorem credentialsAt_setCredentials {c : Credentials} {d : Credentials} (present : credentialsAt t k = some c) (j : Nat) :
    credentialsAt (setCredentials t k d) j = if j = k then some d else credentialsAt t j := by
  obtain ⟨r, found, -⟩ := Option.map_eq_some_iff.mp present
  by_cases same : j = k
  · rw [if_pos same, same, credentialsAt, setCredentials, Table.get?_modify_self _ found, Option.map_some,
      LoginRow.credentials_with]
  · rw [if_neg same, credentialsAt, setCredentials, Table.get?_modify_other _ _ _ _ same, credentialsAt]

theorem credentialsAt_insert (mk : Nat → ρ) (keyed : ∀ n, Keyed.key (mk n) = n) (j : Nat) :
    credentialsAt (t.insert mk keyed) j =
      if j = t.nextId then some (LoginRow.credentials (mk t.nextId)) else credentialsAt t j := by
  rw [credentialsAt, Table.get?_insert]
  split <;> rfl

theorem credentialsAt_nextId : credentialsAt t t.nextId = none := by
  rw [credentialsAt, Table.get?_none_of_nextId_le t (Nat.le_refl _), Option.map_none]

theorem credentialsAt_of_holder {r : ρ} (found : holder t username = some r) :
    credentialsAt t (Keyed.key r) = some (LoginRow.credentials r) ∧ (LoginRow.credentials r).username = some username := by
  refine ⟨?_, ?_⟩
  · rw [credentialsAt, Table.get?_of_mem (List.mem_of_find?_eq_some found), Option.map_some]
  · have named := List.find?_some found
    exact of_decide_eq_true named

theorem holder_eq_none_iff : holder t username = none ↔
    ∀ k c, credentialsAt t k = some c → c.username ≠ some username := by
  rw [holder, List.find?_eq_none]
  constructor
  · intro absent k c found named
    obtain ⟨r, stored, rfl⟩ := Option.map_eq_some_iff.mp found
    exact absent r (Table.get?_mem stored) (decide_eq_true named)
  · intro free r member named
    exact free (Keyed.key r) _ (by rw [credentialsAt, Table.get?_of_mem member, Option.map_some]) (of_decide_eq_true named)

end

/-! The accounts of both tables. -/

section
variable {db : AccountDb} {c d : Credentials} {k : Nat} {username : String}

theorem accounts_teacher {db' : AccountDb} (teachers : ∀ j, credentialsAt db'.teachers j =
    if j = k then some d else credentialsAt db.teachers j) (students : db'.students = db.students) :
    db'.accounts = Function.update db.accounts (.teacher k) (some d) := by
  funext p
  cases p with
  | teacher j =>
    by_cases same : j = k
    · rw [same, Function.update_self]
      exact (teachers k).trans (if_pos rfl)
    · rw [Function.update_of_ne (by rwa [Ne, Principal.teacher.injEq])]
      exact (teachers j).trans (if_neg same)
  | student j =>
    rw [Function.update_of_ne (by simp), AccountDb.accounts, students]
    rfl

theorem accounts_student {db' : AccountDb} (students : ∀ j, credentialsAt db'.students j =
    if j = k then some d else credentialsAt db.students j) (teachers : db'.teachers = db.teachers) :
    db'.accounts = Function.update db.accounts (.student k) (some d) := by
  funext p
  cases p with
  | teacher j =>
    rw [Function.update_of_ne (by simp), AccountDb.accounts, teachers]
    rfl
  | student j =>
    by_cases same : j = k
    · rw [same, Function.update_self]
      exact (students k).trans (if_pos rfl)
    · rw [Function.update_of_ne (by rwa [Ne, Principal.student.injEq])]
      exact (students j).trans (if_neg same)

theorem accounts_write {p : Principal} (held : db.accounts p = some c) :
    (db.write p d).accounts = Function.update db.accounts p (some d) := by
  cases p with
  | teacher k => exact accounts_teacher (credentialsAt_setCredentials held) rfl
  | student k => exact accounts_student (credentialsAt_setCredentials held) rfl

theorem accounts_addTeacher (kdf : Pbkdf2) (req : TeacherCreate) (salt : Bytes) : (addTeacher kdf db req salt).accounts =
    Function.update db.accounts (.teacher db.teachers.nextId) (some (stored kdf req.username req.password salt)) :=
  accounts_teacher (credentialsAt_insert _ _) rfl

theorem accounts_addStudent (schoolId : Int) (classId : Nat) (nameOrAlias externalCode : String) :
    (addStudent db schoolId classId nameOrAlias externalCode).accounts =
      Function.update db.accounts (.student db.students.nextId) (some ⟨none, none, none⟩) :=
  accounts_student (credentialsAt_insert _ _) rfl

/-- Nobody logs in under the name. -/
def AccountDb.Free (db : AccountDb) (username : String) : Prop :=
  ∀ p c, db.accounts p = some c → c.username ≠ some username

theorem free_of_unique (teachers : holder db.teachers username = none) (students : holder db.students username = none) :
    db.Free username := by
  intro p c held
  cases p with
  | teacher k => exact holder_eq_none_iff.mp teachers k c held
  | student k => exact holder_eq_none_iff.mp students k c held

theorem uniqueUsername_iff :
    uniqueUsername db username = true ↔ holder db.teachers username = none ∧ holder db.students username = none := by
  rw [uniqueUsername, Bool.and_eq_true, Option.isNone_iff_eq_none, Option.isNone_iff_eq_none]

end

/-! What one event does. -/

section
variable (kdf : Pbkdf2) (db : AccountDb)

/-- All that an event can show to be good for an account, and all that it can do to the accounts. -/
inductive Effect (e : AccountEvent) : Option Opened → (Principal → Option Credentials) → Prop
  | nothing : Effect e none db.accounts
  | entered {p : Principal} {username password : String} {c : Credentials} (held : db.accounts p = some c)
      (named : c.username = some username) (valid : (c.check kdf password).valid = true)
      (settled : (c.check kdf password).needsUpgrade = false) : Effect e (some ⟨p, username, password⟩) db.accounts
  | upgraded {p : Principal} {username password : String} {c : Credentials} (salt : Bytes) (held : db.accounts p = some c)
      (named : c.username = some username) (old : (c.check kdf password).needsUpgrade = true) :
      Effect e (some ⟨p, username, password⟩) (Function.update db.accounts p (some (stored kdf username password salt)))
  | set {p : Principal} {username : String} (password : String) (salt : Bytes)
      (free : db.Allowed e → (db.accounts p).bind Credentials.username = some username ∨ db.Free username)
      (own : db.accounts p = none ∨ e.Resets p) :
      Effect e (some ⟨p, username, password⟩) (Function.update db.accounts p (some (stored kdf username password salt)))
  | added {p : Principal} (absent : db.accounts p = none) :
      Effect e none (Function.update db.accounts p (some ⟨none, none, none⟩))

variable {kdf db}

theorem enter_effect (e : AccountEvent) {p : Principal} {c : Credentials} {username : String} (held : db.accounts p = some c)
    (named : c.username = some username) (password : String) (fresh : Bytes) :
    Effect kdf db e (opened (db.enter p (c.verifyRowPassword kdf password fresh)).who (⟨·, username, password⟩))
      (db.enter p (c.verifyRowPassword kdf password fresh)).db.accounts := by
  rw [AccountDb.enter]
  split
  · rename_i valid
    change Effect kdf db e (some ⟨p, username, password⟩) (db.write p (c.verifyRowPassword kdf password fresh).2).accounts
    rw [accounts_write held]
    by_cases old : (c.check kdf password).needsUpgrade = true
    · have written : (c.verifyRowPassword kdf password fresh).2 = stored kdf username password fresh := by
        have valid : (c.check kdf password).valid = true := valid
        simp only [Credentials.verifyRowPassword, valid, old, Bool.and_self, if_true, named, stored]
      rw [written]
      exact .upgraded fresh held named old
    · have settled : (c.check kdf password).needsUpgrade = false := Bool.not_eq_true _ ▸ old
      have kept : (c.verifyRowPassword kdf password fresh).2 = c := by
        simp only [Credentials.verifyRowPassword, settled, Bool.and_false, Bool.false_eq_true, if_false]
      rw [kept, ← held, Function.update_eq_self]
      exact .entered held named valid settled
  · exact .nothing

theorem authenticateAny_effect (e : AccountEvent) (username password : String) (fresh : Bytes) :
    Effect kdf db e (opened (authenticateAny kdf db username password fresh).who (⟨·, username, password⟩))
      (authenticateAny kdf db username password fresh).db.accounts := by
  rw [authenticateAny]
  split
  · rename_i row found
    obtain ⟨held, named⟩ := credentialsAt_of_holder found
    exact enter_effect (p := .teacher row.id) e held named password fresh
  · split
    · rename_i row found
      obtain ⟨held, named⟩ := credentialsAt_of_holder found
      exact enter_effect (p := .student row.id) e held named password fresh
    · exact .nothing

theorem addTeacher_effect (e : AccountEvent) (req : TeacherCreate) (salt : Bytes) (teachers : holder db.teachers req.username = none)
    (students : db.Allowed e → holder db.students req.username = none) :
    Effect kdf db e (some ⟨.teacher db.teachers.nextId, req.username, req.password⟩) (addTeacher kdf db req salt).accounts := by
  rw [accounts_addTeacher]
  exact .set req.password salt (fun allowed => .inr (free_of_unique teachers (students allowed))) (.inl credentialsAt_nextId)

theorem enableStudentLogin_effect (e : AccountEvent) (studentId : Nat) (resets : e.Resets (.student studentId)) (password : String)
    (username : Option String) (salt : Bytes) :
    Effect kdf db e (opened (enableStudentLogin kdf db studentId password username salt).1 (⟨.student studentId, ·, password⟩))
      (enableStudentLogin kdf db studentId password username salt).2.accounts := by
  rw [enableStudentLogin]
  split
  · exact .nothing
  · rename_i stu found
    have held : db.accounts (.student studentId) = some stu.credentials := by
      rw [AccountDb.accounts, credentialsAt, found]
      rfl
    extract_lets asked uname
    split
    · exact .nothing
    · split
      · exact .nothing
      · rename_i given taken
        change Effect kdf db e (some ⟨.student studentId, uname, password⟩) _
        change Effect kdf db e _ (db.write (.student studentId) (stored kdf uname password salt)).accounts
        rw [accounts_write held]
        refine .set password salt (fun _ => ?_) (.inr resets)
        by_cases own : stu.credentials.username.getD "" = uname
        · refine .inl ?_
          rw [held, Option.bind_some]
          cases name : stu.credentials.username with
          | none =>
            rw [name] at own
            exact absurd own.symm given
          | some old =>
            rw [name] at own
            exact congrArg some own
        · simp only [ne_eq, own, not_false_eq_true, decide_true, Bool.true_and, Bool.not_eq_true', Bool.not_eq_false] at taken
          have unique := uniqueUsername_iff.mp taken
          exact .inr (free_of_unique unique.1 unique.2)

theorem enableStudent_effect (e : AccountEvent) (allowed : Bool) (studentId : Nat) (resets : e.Resets (.student studentId))
    (req : StudentEnableRequest) (salt : Bytes) :
    Effect kdf db e (opened (enableStudent kdf db allowed studentId req salt).1 (⟨.student studentId, ·, req.password⟩))
      (enableStudent kdf db allowed studentId req salt).2.accounts := by
  have inner := @enableStudentLogin_effect kdf db e studentId resets req.password req.username salt
  rw [enableStudent]
  split
  · split
    · exact .nothing
    · split
      · exact .nothing
      · split
        · exact .nothing
        · exact inner
  · exact .nothing

theorem perform_effect (e : AccountEvent) : Effect kdf db e (db.perform kdf e).1 (db.step kdf e).accounts := by
  rw [AccountDb.step]
  cases e with
  | login req salt =>
    rw [AccountDb.perform]
    split
    · exact authenticateAny_effect _ req.username req.password salt
    · exact .nothing
  | createTeacher req salt =>
    rw [AccountDb.perform, createTeacher]
    split
    · split
      · rename_i unique
        rw [uniqueUsername_iff] at unique
        exact addTeacher_effect _ req salt unique.1 (fun _ => unique.2)
      · exact .nothing
    · exact .nothing
  | createTeacherScript name username password school admin salt =>
    rw [AccountDb.perform, createTeacherScript]
    split
    · rename_i unused
      rw [Option.isNone_iff_eq_none] at unused
      exact addTeacher_effect _ ⟨name, username, password, school, admin, false⟩ salt unused id
    · exact .nothing
  | enableStudent allowed studentId req salt => exact enableStudent_effect (.enableStudent allowed studentId req salt) allowed studentId rfl req salt
  | enableStudentScript studentId password username salt =>
    exact enableStudentLogin_effect (.enableStudentScript studentId password username salt) studentId rfl password username salt
  | addStudent schoolId classId nameOrAlias externalCode =>
    rw [AccountDb.perform, accounts_addStudent]
    exact .added credentialsAt_nextId

/-! What a rejected login costs. -/

/-- No stored mark asks for more than the current cost. -/
def WithinBudget (accounts : Principal → Option Credentials) : Prop :=
  ∀ p c, accounts p = some c → ∀ found, readStored (c.passwordHash.getD []) = some found → found.iterations ≤ currentPbkdf2Iters

theorem readStored_stored (username password : String) (salt : Bytes) :
    readStored ((stored kdf username password salt).passwordHash.getD []) =
      some ⟨currentPbkdf2Iters, kdf.hash password salt currentPbkdf2Iters, false⟩ :=
  readStored_hashPasswordForStorage kdf password salt (by decide) (by decide)

theorem Effect.withinBudget {e : AccountEvent} {shown : Option Opened} {after : Principal → Option Credentials}
    (effect : Effect kdf db e shown after) (within : WithinBudget db.accounts) : WithinBudget after := by
  have written : ∀ p c, (∀ found, readStored (c.passwordHash.getD []) = some found → found.iterations ≤ currentPbkdf2Iters) →
      WithinBudget (Function.update db.accounts p (some c)) := by
    intro p c cheap q d held
    by_cases same : q = p
    · rw [same, Function.update_self, Option.some.injEq] at held
      exact held ▸ cheap
    · rw [Function.update_of_ne same] at held
      exact within q d held
  have current : ∀ username password salt found,
      readStored ((stored kdf username password salt).passwordHash.getD []) = some found →
        found.iterations ≤ currentPbkdf2Iters := by
    intro username password salt found read
    rw [readStored_stored, Option.some.injEq] at read
    rw [← read]
  cases effect with
  | nothing => exact within
  | entered held named valid settled => exact within
  | upgraded salt held named old => exact written _ _ (current _ _ salt)
  | set password salt free own => exact written _ _ (current _ _ salt)
  | added absent =>
    refine written _ _ ?_
    intro found read
    have raw : some (⟨pbkdf2Iters, [], true⟩ : Stored) = some found := read
    rw [← Option.some.inj raw]
    decide

theorem spent_of_invalid {c : Credentials} {password : String} (invalid : (c.check kdf password).valid = false)
    (within : ∀ found, readStored (c.passwordHash.getD []) = some found → found.iterations ≤ currentPbkdf2Iters) :
    (c.check kdf password).spent = currentPbkdf2Iters := by
  rw [Credentials.check, verifyPassword] at invalid ⊢
  cases read : readStored (c.passwordHash.getD []) with
  | none => rfl
  | some found =>
    have cheap := within found read
    rw [read] at invalid
    have wrong : decide (kdf.hash password (c.salt.getD []) found.iterations = found.expected) = false := invalid
    simp only [wrong, Bool.false_eq_true, if_false, burnPasswordHashBudget]
    omega

theorem enter_spent {p : Principal} {c : Credentials} (within : WithinBudget db.accounts) (held : db.accounts p = some c)
    {password : String} {fresh : Bytes} {text : String}
    (rejected : (db.enter p (c.verifyRowPassword kdf password fresh)).who = .error text) :
    (db.enter p (c.verifyRowPassword kdf password fresh)).spent = currentPbkdf2Iters := by
  rw [AccountDb.enter] at rejected ⊢
  split at rejected
  · cases rejected
  · rename_i invalid
    rw [if_neg invalid]
    exact spent_of_invalid (Bool.not_eq_true _ ▸ invalid) (within p c held)

/-- In no state that a run reaches does the work of a rejected login tell whether the name exists, whether its account
    has a password, or how old the stored digest is. -/
theorem rejected_login_cost (start : AccountDb) (within : WithinBudget start.accounts) (events : List AccountEvent)
    (username password : String) (fresh : Bytes) (text : String)
    (rejected : (authenticateAny kdf (run (AccountDb.step kdf) start events) username password fresh).who = .error text) :
    (authenticateAny kdf (run (AccountDb.step kdf) start events) username password fresh).spent = currentPbkdf2Iters := by
  have kept : WithinBudget (run (AccountDb.step kdf) start events).accounts :=
    @run_invariant _ _ (AccountDb.step kdf) (fun db => WithinBudget db.accounts)
      (fun _ e within => (perform_effect e).withinBudget within) events start within
  rw [authenticateAny] at rejected ⊢
  split at rejected
  · rename_i row found
    exact enter_spent (p := .teacher row.id) kept (credentialsAt_of_holder found).1 rejected
  · split at rejected
    · rename_i row found
      exact enter_spent (p := .student row.id) kept (credentialsAt_of_holder found).1 rejected
    · rfl

/-! A name and its account. -/

def Distinct (accounts : Principal → Option Credentials) : Prop :=
  ∀ p q c d username, accounts p = some c → accounts q = some d → c.username = some username →
    d.username = some username → p = q

/-- A name stays one account's where it is given to an account that has it or where nobody has it. -/
theorem distinct_update {p : Principal} {c : Credentials} (distinct : Distinct db.accounts)
    (free : ∀ username, c.username = some username →
      (db.accounts p).bind Credentials.username = some username ∨ db.Free username) :
    Distinct (Function.update db.accounts p (some c)) := by
  have clash : ∀ q d username, q ≠ p → db.accounts q = some d → d.username = some username → c.username ≠ some username := by
    intro q d username other held taken named
    rcases free username named with own | unused
    · obtain ⟨b, before, same⟩ := Option.bind_eq_some_iff.mp own
      exact other (distinct q p d b username held before taken same)
    · exact unused q d held taken
  intro q r d b username left right named taken
  by_cases here : q = p
  · by_cases there : r = p
    · exact here.trans there.symm
    · rw [here, Function.update_self, Option.some.injEq] at left
      rw [Function.update_of_ne there] at right
      exact absurd (left ▸ named) (clash r b username there right taken)
  · rw [Function.update_of_ne here] at left
    by_cases there : r = p
    · rw [there, Function.update_self, Option.some.injEq] at right
      exact absurd (right ▸ taken) (clash q d username here left named)
    · rw [Function.update_of_ne there] at right
      exact distinct q r d b username left right named taken

theorem Effect.distinct {e : AccountEvent} {shown : Option Opened} {after : Principal → Option Credentials}
    (effect : Effect kdf db e shown after) (allowed : db.Allowed e) (distinct : Distinct db.accounts) : Distinct after := by
  cases effect with
  | nothing => exact distinct
  | entered held named valid settled => exact distinct
  | upgraded salt held named old =>
    refine distinct_update distinct ?_
    intro username same
    cases same
    exact .inl (by rw [held, Option.bind_some, named])
  | set password salt free own =>
    refine distinct_update distinct ?_
    intro username same
    cases same
    exact free allowed
  | added absent =>
    refine distinct_update distinct ?_
    intro username same
    cases same

/-- The name and the password open the account, and the digest is one that no login replaces. -/
def StaysOpen (kdf : Pbkdf2) (accounts : Principal → Option Credentials) (o : Opened) : Prop :=
  ∃ c, accounts o.who = some c ∧ c.username = some o.username ∧ (c.check kdf o.password).valid = true ∧
    (c.check kdf o.password).needsUpgrade = false

/-- Whether a digest is to be replaced is a matter of the digest, not of the password. -/
theorem needsUpgrade_of_other {c : Credentials} {password other : String}
    (old : (c.check kdf password).needsUpgrade = true) (valid : (c.check kdf other).valid = true) :
    (c.check kdf other).needsUpgrade = true := by
  rw [Credentials.check, verifyPassword] at old valid ⊢
  cases read : readStored (c.passwordHash.getD []) with
  | none =>
    rw [read] at old
    cases old
  | some found =>
    rw [read] at old valid
    exact Bool.and_eq_true_iff.mpr ⟨valid, (Bool.and_eq_true_iff.mp old).2⟩

theorem settled_stored (p : Principal) (username password : String) (salt : Bytes) (accounts : Principal → Option Credentials) :
    StaysOpen kdf (Function.update accounts p (some (stored kdf username password salt))) ⟨p, username, password⟩ := by
  have read := @readStored_stored kdf username password salt
  refine ⟨_, Function.update_self .., rfl, ?_, ?_⟩
  · rw [Credentials.check, verifyPassword, read]
    exact decide_eq_true rfl
  · rw [Credentials.check, verifyPassword, read]
    exact Bool.and_false _

theorem Effect.shown {e : AccountEvent} {o : Opened} {after : Principal → Option Credentials}
    (effect : Effect kdf db e (some o) after) : StaysOpen kdf after o := by
  cases effect with
  | entered held named valid settled => exact ⟨_, held, named, valid, settled⟩
  | upgraded salt held named old => exact settled_stored ..
  | set password salt free own => exact settled_stored ..

theorem Effect.settled {e : AccountEvent} {shown : Option Opened} {after : Principal → Option Credentials} {o : Opened}
    (effect : Effect kdf db e shown after) (spared : ¬ e.Resets o.who) (before : StaysOpen kdf db.accounts o) :
    StaysOpen kdf after o := by
  obtain ⟨c, held, named, valid, settled⟩ := before
  have elsewhere : ∀ p d, p ≠ o.who → StaysOpen kdf (Function.update db.accounts p (some d)) o := by
    intro p d other
    exact ⟨c, (Function.update_of_ne (Ne.symm other) ..).trans held, named, valid, settled⟩
  cases effect with
  | nothing => exact ⟨c, held, named, valid, settled⟩
  | entered _ _ _ _ => exact ⟨c, held, named, valid, settled⟩
  | upgraded salt stale _ old =>
    refine elsewhere _ _ ?_
    intro same
    rw [same, held, Option.some.injEq] at stale
    rw [needsUpgrade_of_other (stale ▸ old) valid] at settled
    cases settled
  | set password salt free own =>
    refine elsewhere _ _ ?_
    intro same
    rw [same] at own
    rcases own with absent | resets
    · rw [held] at absent
      cases absent
    · exact spared resets
  | added absent =>
    refine elsewhere _ _ ?_
    intro same
    rw [same, held] at absent
    cases absent

theorem authenticateAny_settled {o : Opened} (distinct : Distinct db.accounts) (settled : StaysOpen kdf db.accounts o)
    (fresh : Bytes) : (authenticateAny kdf db o.username o.password fresh).who = .ok o.who := by
  obtain ⟨c, held, named, valid, -⟩ := settled
  have enters : ∀ p d, db.accounts p = some d → d.username = some o.username →
      (db.enter p (d.verifyRowPassword kdf o.password fresh)).who = .ok o.who := by
    intro p d present taken
    have same := distinct p o.who d c o.username present held taken named
    rw [same, held, Option.some.injEq] at present
    rw [AccountDb.enter, if_pos (present ▸ valid), same]
  rw [authenticateAny]
  split
  · rename_i row found
    obtain ⟨present, taken⟩ := credentialsAt_of_holder found
    exact enters (.teacher row.id) _ present taken
  · rename_i teachers
    split
    · rename_i row found
      obtain ⟨present, taken⟩ := credentialsAt_of_holder found
      exact enters (.student row.id) _ present taken
    · rename_i students
      exact absurd named (free_of_unique teachers students o.who c held)

theorem distinct_run (start : AccountDb) (distinct : Distinct start.accounts) (events : List AccountEvent)
    (along : Along (AccountDb.step kdf) AccountDb.Allowed start events) :
    Distinct (run (AccountDb.step kdf) start events).accounts :=
  @run_invariant_along _ _ (AccountDb.step kdf) (fun db => Distinct db.accounts) AccountDb.Allowed
    (fun _ e distinct allowed => (perform_effect e).distinct allowed distinct) events start along distinct

/-- A name and a password that have opened an account, or that it was given, open that account until it is given others. -/
theorem login_lasts (start : AccountDb) (distinct : Distinct start.accounts) (before later : List AccountEvent) (e : AccountEvent)
    (along : Along (AccountDb.step kdf) AccountDb.Allowed start (before ++ e :: later)) (o : Opened)
    (shown : ((run (AccountDb.step kdf) start before).perform kdf e).1 = some o) (spared : ∀ a ∈ later, ¬ a.Resets o.who)
    (fresh : Bytes) :
    (authenticateAny kdf (run (AccountDb.step kdf) start (before ++ e :: later)) o.username o.password fresh).who = .ok o.who := by
  refine authenticateAny_settled (distinct_run start distinct _ along) ?_ fresh
  have now : StaysOpen kdf ((run (AccountDb.step kdf) start before).step kdf e).accounts o := by
    have effect := @perform_effect kdf (run (AccountDb.step kdf) start before) e
    rw [shown] at effect
    exact effect.shown
  rw [run_append, run_cons]
  exact @run_invariant_along _ _ (AccountDb.step kdf) (fun db => StaysOpen kdf db.accounts o) (fun _ a => ¬ a.Resets o.who)
    (fun _ a settled spared => (perform_effect a).settled spared settled) later _
    (along_of_forall (fun a member _ => spared a member) _) now

/-- In no state that a run reaches does it matter that teachers come first. -/
theorem login_unambiguous (start : AccountDb) (distinct : Distinct start.accounts) (events : List AccountEvent)
    (along : Along (AccountDb.step kdf) AccountDb.Allowed start events) (username password : String) (fresh : Bytes) :
    let db := run (AccountDb.step kdf) start events
    (holder db.teachers username = none ∨ holder db.students username = none) ∧
      authenticateAny kdf db username password fresh =
        if (holder db.students username).isSome then authenticateStudent kdf db username password fresh
        else authenticate kdf db username password fresh := by
  intro db
  have apart : holder db.teachers username = none ∨ holder db.students username = none := by
    cases teacher : holder db.teachers username with
    | none => exact .inl rfl
    | some t =>
      cases student : holder db.students username with
      | none => exact .inr rfl
      | some s =>
        obtain ⟨left, named⟩ := credentialsAt_of_holder teacher
        obtain ⟨right, taken⟩ := credentialsAt_of_holder student
        cases distinct_run start distinct events along (.teacher t.id) (.student s.id) _ _ username left right named taken
  refine ⟨apart, ?_⟩
  rw [authenticateAny, authenticate, authenticateStudent]
  rcases apart with teachers | students
  · rw [teachers]
    cases holder db.students username <;> rfl
  · rw [students]
    cases holder db.teachers username <;> rfl

end

def noAccounts : AccountDb := ⟨.empty, .empty⟩

theorem accounts_noAccounts (p : Principal) : noAccounts.accounts p = none := by
  cases p <;> rfl

theorem distinct_noAccounts : Distinct noAccounts.accounts := by
  intro p q c d username held
  rw [accounts_noAccounts] at held
  cases held

def legacyCredentials : Credentials := ⟨some "li", some (digests "pass123" legacySalt 60000), some legacySalt⟩

/-- One teacher, with a digest of the old kind. -/
def legacyDb : AccountDb :=
  ⟨Table.empty.insert (fun id => ⟨id, 1, "李老师", legacyCredentials, false, false⟩) (fun _ => rfl), .empty⟩

theorem accounts_legacyDb : legacyDb.accounts = Function.update noAccounts.accounts (.teacher 1) (some legacyCredentials) :=
  accounts_teacher (credentialsAt_insert _ _) rfl

theorem distinct_legacyDb : Distinct legacyDb.accounts := by
  rw [accounts_legacyDb]
  refine distinct_update distinct_noAccounts ?_
  intro username _
  refine .inr ?_
  intro p c held
  rw [accounts_noAccounts] at held
  cases held

theorem withinBudget_legacyDb : WithinBudget legacyDb.accounts := by
  rw [accounts_legacyDb]
  intro p c held found read
  by_cases same : p = .teacher 1
  · rw [same, Function.update_self, Option.some.injEq] at held
    rw [← held] at read
    have raw : readStored (legacyCredentials.passwordHash.getD []) = some ⟨pbkdf2Iters, digests "pass123" legacySalt 60000, true⟩ := by
      decide +kernel
    rw [raw, Option.some.injEq] at read
    rw [← read]
    decide
  · rw [Function.update_of_ne same, accounts_noAccounts] at held
    cases held

theorem rejected_login_cost_wrong :
    (authenticateAny digestKdf (run (AccountDb.step digestKdf) legacyDb [.login ⟨"li", "pass123"⟩ upgradeSalt])
      "li" "wrong" []).spent = 120000 :=
  rejected_login_cost legacyDb withinBudget_legacyDb [.login ⟨"li", "pass123"⟩ upgradeSalt] "li" "wrong" [] authError
    (by decide +kernel)

theorem login_lasts_upgraded :
    (authenticateAny digestKdf (run (AccountDb.step digestKdf) legacyDb
      [.login ⟨"li", "pass123"⟩ upgradeSalt, .login ⟨"li", "wrong"⟩ []]) "li" "pass123" []).who = .ok (.teacher 1) :=
  login_lasts legacyDb distinct_legacyDb [] [.login ⟨"li", "wrong"⟩ []] (.login ⟨"li", "pass123"⟩ upgradeSalt)
    ⟨trivial, trivial, trivial⟩ ⟨.teacher 1, "li", "pass123"⟩ (by decide +kernel)
    (by
      intro a member
      rw [List.mem_singleton.mp member]
      exact id) []

/-- A teacher is made, a pupil comes and is given a login under its code, and that code is refused to a second teacher. -/
def schoolDay : List AccountEvent :=
  [.createTeacher { name := "李老师", username := "li", password := "pass123", schoolId := 1 } upgradeSalt,
    .addStudent 1 1 "小明" "s-001", .enableStudent true 1 { password := "pass456" } pupilSalt,
    .createTeacher { name := "王老师", username := "s-001", password := "pass123", schoolId := 1 } legacySalt]

theorem login_unambiguous_pupil :
    authenticateAny digestKdf (run (AccountDb.step digestKdf) noAccounts schoolDay) "s-001" "pass456" [] =
        authenticateStudent digestKdf (run (AccountDb.step digestKdf) noAccounts schoolDay) "s-001" "pass456" [] ∧
      (authenticateStudent digestKdf (run (AccountDb.step digestKdf) noAccounts schoolDay) "s-001" "pass456" []).who =
        .ok (.student 1) ∧
      (holder (run (AccountDb.step digestKdf) noAccounts schoolDay).teachers "li").isSome :=
  ⟨(login_unambiguous noAccounts distinct_noAccounts schoolDay ⟨trivial, trivial, trivial, trivial, trivial⟩ "s-001"
      "pass456" []).2.trans (if_pos (by decide +kernel)), by decide +kernel, by decide +kernel⟩

end KnowledgeGap.Auth
