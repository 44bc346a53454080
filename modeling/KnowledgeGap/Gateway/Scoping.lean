import KnowledgeGap.Data.Outcome
import KnowledgeGap.Gateway.Scope

namespace KnowledgeGap.Gateway

open Relational Ingestion Protocol

variable {K T : Type}

theorem insert_kept (scopes : Scopes) (teacherId : Int) (threadId : String) (classId : Int) {key : Int × String} {held : Int}
    (bound : scopes.get? key = some held) : (scopes.insert teacherId threadId classId).get? key = some held := by
  unfold Scopes.insert
  cases there : scopes.get? (teacherId, threadId) with
  | some old => exact bound
  | none =>
    have other : key ≠ (teacherId, threadId) := by
      intro same
      rw [same, there] at bound
      cases bound
    exact (Dict.get?_set _ _ _ _).trans ((if_neg other).trans bound)

theorem bind_kept (scopes : Scopes) (teacherId : Int) (threadId : String) (classId : Int) {key : Int × String} {held : Int}
    (bound : scopes.get? key = some held) : (scopes.bind teacherId threadId classId).1.get? key = some held := by
  unfold Scopes.bind
  split
  · exact insert_kept scopes teacherId threadId classId bound
  · exact bound

section
variable [Field K] [DecidableEq K]

/-- The backend's answer lists the class under this name. -/
def Listed (classId : Int) (name : Json K) (reply : BackendReply K) : Prop :=
  ∃ status fields rows row, reply = .answered status (some (.obj fields)) ∧ 200 ≤ status ∧ status < 300 ∧
    fields.lookup "classes" = some (.arr rows) ∧ .obj row ∈ rows ∧ Json.equalsInt classId (field row "class_id") = true ∧
    row.lookup "name" = some name

theorem findClass_found {classId : Int} {rows : List (Json K)} {row : Params K}
    (found : findClass classId rows = .ok (some row)) :
    .obj row ∈ rows ∧ Json.equalsInt classId (field row "class_id") = true := by
  induction rows with
  | nil => cases found
  | cons first rows ih =>
    cases first with
    | obj fields =>
      rw [findClass] at found
      by_cases same : Json.equalsInt classId (field fields "class_id") = true
      · rw [if_pos same] at found
        cases found
        exact ⟨List.mem_cons_self, same⟩
      · rw [if_neg same] at found
        exact ⟨List.mem_cons_of_mem _ (ih found).1, (ih found).2⟩
    | _ => cases found

omit [Field K] [DecidableEq K] in
theorem classRow_ok {classId : Int} {found : Option (Params K)} {scope : Json K} (verified : classRow classId found = .ok scope) :
    ∃ row name, found = some row ∧ row.lookup "name" = some name ∧ scope = classScope classId name := by
  cases found with
  | none => cases verified
  | some row =>
    rw [classRow] at verified
    cases named : row.lookup "name" with
    | none =>
      rw [named] at verified
      cases verified
    | some name =>
      rw [named] at verified
      exact ⟨row, name, rfl, named, (Except.ok.inj verified).symm⟩

omit [Field K] [DecidableEq K] in
theorem classesOf_ok {body : Option (Json K)} {rows : List (Json K)} (read : classesOf body = .ok rows) :
    ∃ fields, body = some (.obj fields) ∧ fields.lookup "classes" = some (.arr rows) := by
  unfold classesOf at read
  split at read
  · rename_i fields
    split at read
    · rename_i listed
      cases read
      exact ⟨fields, rfl, listed⟩
    · cases read
  · cases read

theorem authorizedClass_ok {classId : Int} {reply : BackendReply K} {scope : Json K}
    (verified : authorizedClass classId reply = .ok scope) :
    ∃ name, scope = classScope classId name ∧ Listed classId name reply := by
  cases reply with
  | failed => cases verified
  | answered status body =>
    rw [authorizedClass] at verified
    by_cases denied : status = 401 ∨ status = 403
    · rw [if_pos denied] at verified
      cases verified
    · rw [if_neg denied] at verified
      by_cases unsuccessful : status < 200 ∨ 300 ≤ status
      · rw [if_pos unsuccessful] at verified
        cases verified
      · rw [if_neg unsuccessful] at verified
        obtain ⟨rows, read, rest⟩ := bind_ok verified
        obtain ⟨found, search, last⟩ := bind_ok rest
        obtain ⟨row, name, row_found, named, shape⟩ := classRow_ok last
        obtain ⟨fields, shown, listed⟩ := classesOf_ok read
        rw [row_found] at search
        have here := findClass_found search
        rw [shown]
        exact ⟨name, shape, status, fields, rows, row, rfl, by omega, by omega, listed, here.1, here.2, named⟩

/-- What a turn that was sent on rests on. -/
def Authorized (env : ScopeEnv K) (scopes : Scopes) (f : Forward K) : Prop :=
  ∃ classId name inputs reply, scopes.lookup f.request.teacherId (threadIdOf env f.params) = some classId ∧
    f.request.selected = .int classId ∧ f.reply = some reply ∧ Listed classId name reply ∧
    field f.request.forwarded "input" = .arr inputs ∧
    field f.params "input" = .arr (contextBlock env (classScope classId name) :: inputs) ∧
    ∀ key ≠ "input", field f.params key = field f.request.forwarded key

theorem Authorized.mono {env : ScopeEnv K} {scopes later : Scopes} (kept : ∀ key held, scopes.get? key = some held → later.get? key = some held)
    {f : Forward K} (authorized : Authorized env scopes f) : Authorized env later f := by
  obtain ⟨classId, name, inputs, reply, bound, rest⟩ := authorized
  exact ⟨classId, name, inputs, reply, kept _ _ bound, rest⟩

omit [Field K] [DecidableEq K] in
theorem lookup_withInput (params : Params K) (input : Json K) (key : String) :
    (withInput params input).lookup key = if key = "input" then (params.lookup key).map (fun _ => input) else params.lookup key := by
  induction params with
  | nil => simp [withInput]
  | cons e params ih =>
    rw [withInput] at ih ⊢
    rw [List.map_cons]
    by_cases named : e.1 = "input" <;> by_cases here : key = e.1 <;> grind

omit [Field K] [DecidableEq K] in
theorem field_withInput {params : Params K} {input : Json K} {inputs : List (Json K)}
    (present : field params "input" = .arr inputs) : field (withInput params input) "input" = input := by
  unfold field at present ⊢
  rw [lookup_withInput, if_pos rfl]
  cases there : params.lookup "input" with
  | none =>
    rw [there] at present
    cases present
  | some value => rfl

theorem threadIdOf_withInput (env : ScopeEnv K) (params : Params K) (input : Json K) :
    threadIdOf env (withInput params input) = threadIdOf env params := by
  have same : field (withInput params input) "threadId" = field params "threadId" := by
    unfold field
    rw [lookup_withInput, if_neg (by decide)]
  rw [threadIdOf, threadIdOf, same]

omit [Field K] [DecidableEq K] in
theorem classIdOf_ok {value : Json K} {n : Int} (read : classIdOf value = .ok n) : value = .int n := by
  cases value with
  | int m =>
    rw [classIdOf] at read
    split at read
    · cases read
      rfl
    · cases read
  | _ => cases read

/-- A turn gets past the first checks only where its thread is bound to the class it names. -/
theorem opening_turn {env : ScopeEnv K} {scopes : Scopes} {r : ScopedRequest K} {asked : Option Int}
    (turn : r.method = "turn/start") (opened : opening env scopes r = .ok asked) :
    ∃ classId, asked = some classId ∧ scopes.lookup r.teacherId (r.threadId env) = some classId ∧ r.selected = .int classId := by
  rw [opening, if_neg (by rw [turn]; decide)] at opened
  by_cases anonymous : r.threadId env = ""
  · rw [if_pos anonymous] at opened
    cases opened
  · rw [if_neg anonymous, if_pos turn] at opened
    cases bound : scopes.lookup r.teacherId (r.threadId env) with
    | none =>
      rw [bound] at opened
      cases opened
    | some classId =>
      rw [bound] at opened
      obtain ⟨n, read, rest⟩ := bind_ok opened
      by_cases same : n = classId
      · rw [if_pos same] at rest
        rw [same] at read
        exact ⟨classId, (Except.ok.inj rest).symm, rfl, classIdOf_ok read⟩
      · rw [if_neg same] at rest
        cases rest

omit [Field K] [DecidableEq K] in
theorem assemble_turn {env : ScopeEnv K} {r : ScopedRequest K} {scope : Json K} {params : Params K}
    (turn : r.method = "turn/start") (assembled : assemble env r scope = .ok params) :
    ∃ inputs, field r.forwarded "input" = .arr inputs ∧
      params = withInput r.forwarded (.arr (contextBlock env scope :: inputs)) := by
  rw [assemble, if_pos turn] at assembled
  split at assembled
  · rename_i inputs given
    exact ⟨inputs, given, (Except.ok.inj assembled).symm⟩
  · cases assembled

omit [Field K] [DecidableEq K] in
theorem field_withInput_of_ne (params : Params K) (input : Json K) {key : String} (other : key ≠ "input") :
    field (withInput params input) key = field params key := by
  unfold field
  rw [lookup_withInput, if_neg other]

end

namespace ScopedGateway

section
variable {s : ScopedGateway K T} {c d : Nat} {r : ScopedRequest K} {phase : RpcPhase K}

theorem place_rpcs (s : ScopedGateway K T) (c d : Nat) (r : ScopedRequest K) (phase : RpcPhase K) :
    (s.place c r phase).rpcs.get? d = if d = c then some ⟨r, phase⟩ else s.rpcs.get? d := Dict.get?_set _ _ _ _

section
variable [Field K] [DecidableEq K]

/-- The bindings held once are still there, a turn sent on is authorized, and one that waits for the backend is bound to
    the class it is to be sent for. -/
structure Scoped (env : ScopeEnv K) (held : Scopes) (s : ScopedGateway K T) : Prop where
  kept : ∀ key classId, held.get? key = some classId → s.scopes.get? key = some classId
  sent : ∀ f ∈ s.forwards, f.request.method = "turn/start" → Authorized env s.scopes f
  bound : ∀ c rpc classId, s.rpcs.get? c = some rpc → rpc.phase = .authorizing classId → rpc.request.method = "turn/start" →
    s.scopes.lookup rpc.request.teacherId (rpc.request.threadId env) = some classId ∧ rpc.request.selected = .int classId

variable {env : ScopeEnv K} {held : Scopes}

/-- Only bindings are added, and no call moves. -/
theorem Scoped.more (tidy : s.Scoped env held) {scopes : Scopes}
    (kept : ∀ key held, s.scopes.get? key = some held → scopes.get? key = some held) :
    ({ s with scopes } : ScopedGateway K T).Scoped env held where
  kept := fun key classId before => kept key classId (tidy.kept key classId before)
  sent := fun f member turn => (tidy.sent f member turn).mono kept
  bound := by
    intro c rpc classId found waits turn
    have before := tidy.bound c rpc classId found waits turn
    exact ⟨kept _ _ before.1, before.2⟩

theorem Scoped.rebase (tidy : s.Scoped env held) : s.Scoped env s.scopes := ⟨fun _ _ => id, tidy.sent, tidy.bound⟩

theorem Scoped.guarded (tidy : s.Scoped env held) (guard : BudgetGuard T) : ({ s with guard } : ScopedGateway K T).Scoped env held :=
  ⟨tidy.kept, tidy.sent, tidy.bound⟩

theorem Scoped.place (tidy : s.Scoped env held) (settled : ∀ classId, phase = .authorizing classId → r.method = "turn/start" →
    s.scopes.lookup r.teacherId (r.threadId env) = some classId ∧ r.selected = .int classId) :
    (s.place c r phase).Scoped env held where
  kept := tidy.kept
  sent := tidy.sent
  bound := by
    intro d rpc classId found waits turn
    rw [place_rpcs] at found
    by_cases same : d = c
    · rw [if_pos same, Option.some.injEq] at found
      rw [← found] at waits turn ⊢
      exact settled classId waits turn
    · rw [if_neg same] at found
      exact tidy.bound d rpc classId found waits turn

theorem Scoped.refuse (tidy : s.Scoped env held) (e : RpcError) : (s.refuse c r e).Scoped env held :=
  tidy.place (fun _ waits => by cases waits)

theorem Scoped.done (tidy : s.Scoped env held) (result : Except RpcError (Json K)) : (s.place c r (.done result)).Scoped env held :=
  tidy.place (fun _ waits => by cases waits)

variable {reply : Option (BackendReply K)} {asked : Option Int} {scope : Json K} {params : Params K}

theorem Scoped.forward (tidy : s.Scoped env held)
    (authorized : r.method = "turn/start" → Authorized env s.scopes ⟨c, r, reply, params⟩) :
    (s.forward c r reply asked scope params).Scoped env held where
  kept := tidy.kept
  sent := by
    intro f member turn
    rcases List.mem_append.mp member with before | new
    · exact tidy.sent f before turn
    · rw [List.mem_singleton] at new
      rw [new] at turn ⊢
      exact authorized turn
  bound := (Scoped.place tidy (c := c) (r := r) (fun _ waits => by cases waits)).bound

variable [Sub T] [LT T] [DecidableLT T] {cfg : BudgetConfig T}

theorem Scoped.send (tidy : s.Scoped env held) (m : Moments T)
    (authorized : r.method = "turn/start" → Authorized env s.scopes ⟨c, r, reply, params⟩) :
    (s.send env cfg c r reply asked scope params m).Scoped env held := by
  unfold ScopedGateway.send
  split
  · split
    · exact (tidy.guarded _).refuse _
    · exact (tidy.guarded _).forward authorized
  · exact tidy.forward authorized

theorem Scoped.enter (tidy : s.Scoped env held) (c : Nat) (r : ScopedRequest K) (m : Moments T) :
    (s.enter env cfg c r m).Scoped env held := by
  unfold ScopedGateway.enter
  split
  · split
    · exact tidy.refuse _
    · rename_i classId opened
      apply tidy.place
      intro named waits turn
      obtain ⟨bound, asked, found, selected⟩ := opening_turn turn opened
      cases asked
      cases waits
      exact ⟨found, selected⟩
    · rename_i opened
      apply tidy.send
      intro turn
      obtain ⟨bound, asked, _⟩ := opening_turn turn opened
      cases asked
  · rename_i free
    apply tidy.send
    intro turn
    rw [turn] at free
    exact absurd (by decide) free

theorem Scoped.authorized (tidy : s.Scoped env held) (c : Nat) {classId : Int} (answer : BackendReply K) (m : Moments T)
    (bound : r.method = "turn/start" →
      s.scopes.lookup r.teacherId (r.threadId env) = some classId ∧ r.selected = .int classId) :
    (s.authorized env cfg c r classId answer m).Scoped env held := by
  unfold ScopedGateway.authorized
  split
  · exact tidy.refuse _
  · rename_i scope verified
    split
    · exact tidy.refuse _
    · rename_i params assembled
      apply tidy.send
      intro turn
      obtain ⟨name, shape, listed⟩ := authorizedClass_ok verified
      obtain ⟨inputs, given, sent⟩ := assemble_turn turn assembled
      rw [shape] at sent
      refine ⟨classId, name, inputs, answer, ?_, (bound turn).2, rfl, listed, given, ?_, ?_⟩
      · dsimp only
        rw [sent, threadIdOf_withInput]
        exact (bound turn).1
      · dsimp only
        rw [sent]
        exact field_withInput given
      · intro key other
        dsimp only
        rw [sent]
        exact field_withInput_of_ne _ _ other

omit [Sub T] [LT T] [DecidableLT T] in
theorem started_scoped (tidy : s.Scoped env held) (c : Nat) (r : ScopedRequest K) (classId : Int) (scope : Json K)
    (result : Params K) : (started env s c r classId scope result).Scoped env held := by
  unfold started
  split
  · exact tidy.refuse _
  · split
    · exact (tidy.more (fun key held => bind_kept s.scopes _ _ _)).refuse _
    · exact (tidy.more (fun key held => bind_kept s.scopes _ _ _)).done _

omit [Sub T] [LT T] [DecidableLT T] in
theorem answered_scoped (tidy : s.Scoped env held) (c : Nat) (r : ScopedRequest K) (classId : Option Int) (scope : Json K)
    (result : Json K) : (answered env s c r classId scope result).Scoped env held := by
  unfold answered
  split
  · split
    · split
      · exact started_scoped tidy c r _ scope _
      · exact tidy.done _
    · exact tidy.refuse _
  · split
    · split <;> exact tidy.done _
    · split
      · split <;> exact tidy.done _
      · exact tidy.done _

theorem Scoped.step (tidy : s.Scoped env held) (e : Event K T) : (s.step env cfg e).Scoped env held := by
  cases e with
  | rpc c r m =>
    dsimp only [ScopedGateway.step]
    split
    · exact tidy
    · exact tidy.enter c r m
  | backend c reply m =>
    dsimp only [ScopedGateway.step, atRpc]
    split
    · exact tidy
    · rename_i rpc found
      unfold backendStep
      split
      · rename_i classId waits
        exact tidy.authorized c reply m (tidy.bound c rpc classId found waits)
      · exact tidy
  | answer c result =>
    dsimp only [ScopedGateway.step, atRpc]
    split
    · exact tidy
    · unfold answerStep
      split
      · split
        · exact tidy.refuse _
        · exact answered_scoped tidy c _ _ _ _
      · exact tidy
  | cancel c =>
    dsimp only [ScopedGateway.step, atRpc]
    split
    · exact tidy
    · unfold cancelStep
      split
      · exact tidy
      · exact tidy.refuse _
  | trigger teacherId threadId classId => exact tidy.more (fun key held => bind_kept s.scopes _ _ _)
  | spend call => exact tidy.guarded _

/-! Rejected turns. -/

/-- The call an event is a step of. -/
def Event.call : Event K T → Option Nat
  | .rpc c _ _ | .backend c _ _ | .answer c _ | .cancel c => some c
  | .trigger _ _ _ | .spend _ => none

/-- A turn that is still being verified, or was rejected. -/
def Unsent : RpcPhase K → Prop
  | .authorizing _ => True
  | .done (.error (.http _)) => True
  | _ => False

def Same (s t : ScopedGateway K T) : Prop := t.scopes = s.scopes ∧ t.guard = s.guard ∧ t.forwards = s.forwards

/-- Call `c` moves on, and if it is a turn, to a phase like this. -/
def Moves (s t : ScopedGateway K T) (c : Nat) (r : ScopedRequest K) (Like : RpcPhase K → Prop) : Prop :=
  ∃ phase, t.rpcs = s.rpcs.set c ⟨r, phase⟩ ∧ (r.method = "turn/start" → Like phase)

theorem send_moves (s : ScopedGateway K T) (c : Nat) (r : ScopedRequest K) (m : Moments T) :
    Moves s (s.send env cfg c r reply asked scope params m) c r (fun phase => ¬ Unsent phase) := by
  unfold ScopedGateway.send
  split
  · split
    · exact ⟨_, rfl, fun _ => id⟩
    · exact ⟨_, rfl, fun _ => id⟩
  · exact ⟨_, rfl, fun _ => id⟩

omit [Field K] [DecidableEq K] [Sub T] [LT T] [DecidableLT T] in
theorem Moves.quietly {s t : ScopedGateway K T} (moves : Moves s t c r (fun phase => ¬ Unsent phase)) :
    Moves s t c r (fun phase => Unsent phase → Same s t) := by
  obtain ⟨phase, set, sent⟩ := moves
  exact ⟨phase, set, fun turn unsent => absurd unsent (sent turn)⟩

omit [Field K] [DecidableEq K] [Sub T] [LT T] [DecidableLT T] in
theorem place_moves (s : ScopedGateway K T) (c : Nat) (r : ScopedRequest K) (phase : RpcPhase K) :
    Moves s (s.place c r phase) c r (fun phase' => Unsent phase' → Same s (s.place c r phase)) :=
  ⟨phase, rfl, fun _ _ => ⟨rfl, rfl, rfl⟩⟩

theorem enter_moves (s : ScopedGateway K T) (c : Nat) (r : ScopedRequest K) (m : Moments T) :
    Moves s (s.enter env cfg c r m) c r (fun phase => Unsent phase → Same s (s.enter env cfg c r m)) := by
  unfold ScopedGateway.enter
  split
  · split
    · exact place_moves s c r _
    · exact place_moves s c r _
    · exact (send_moves s c r m).quietly
  · exact (send_moves s c r m).quietly

theorem authorized_moves (s : ScopedGateway K T) (c : Nat) (r : ScopedRequest K) (classId : Int) (answer : BackendReply K)
    (m : Moments T) : Moves s (s.authorized env cfg c r classId answer m) c r
      (fun phase => Unsent phase → Same s (s.authorized env cfg c r classId answer m)) := by
  unfold ScopedGateway.authorized
  split
  · exact place_moves s c r _
  · split
    · exact place_moves s c r _
    · exact (send_moves s c r m).quietly

omit [Field K] [DecidableEq K] [Sub T] [LT T] [DecidableLT T] in
theorem started_moves (s : ScopedGateway K T) (c : Nat) (classId : Int) (scope : Json K) (result : Params K)
    (starts : r.method = "thread/start") :
    Moves s (started env s c r classId scope result) c r (fun phase => ¬ Unsent phase) := by
  have other : r.method ≠ "turn/start" := by rw [starts]; decide
  unfold started
  split
  · exact ⟨_, rfl, fun turn => absurd turn other⟩
  · split
    · exact ⟨_, rfl, fun turn => absurd turn other⟩
    · exact ⟨_, rfl, fun turn => absurd turn other⟩

omit [Field K] [DecidableEq K] [Sub T] [LT T] [DecidableLT T] in
theorem answered_moves (s : ScopedGateway K T) (c : Nat) (r : ScopedRequest K) (classId : Option Int) (scope result : Json K) :
    Moves s (answered env s c r classId scope result) c r (fun phase => ¬ Unsent phase) := by
  unfold answered
  split
  · rename_i threads
    have other : r.method ≠ "turn/start" := by
      rcases threads with start | resume
      · rw [start]; decide
      · rw [resume]; decide
    split
    · split
      · rename_i starts
        exact started_moves s c _ scope _ starts
      · exact ⟨_, rfl, fun turn => absurd turn other⟩
    · exact ⟨_, rfl, fun turn => absurd turn other⟩
  · split
    · split <;> exact ⟨_, rfl, fun _ => id⟩
    · split
      · split <;> exact ⟨_, rfl, fun _ => id⟩
      · exact ⟨_, rfl, fun _ => id⟩

/-- What one step does to the calls: nothing, the first steps of one of them, or the last. -/
theorem step_moves (env : ScopeEnv K) (cfg : BudgetConfig T) (s : ScopedGateway K T) (e : Event K T) :
    ((s.step env cfg e).rpcs = s.rpcs ∧ (∀ c, e.call = some c → s.step env cfg e = s)) ∨
    (∃ c r, e.call = some c ∧ (∀ rpc, s.rpcs.get? c = some rpc → rpc.request = r ∧ Unsent rpc.phase) ∧
      Moves s (s.step env cfg e) c r (fun phase => Unsent phase → Same s (s.step env cfg e))) ∨
    (∃ c r, e.call = some c ∧ (∀ rpc, s.rpcs.get? c = some rpc → rpc.request = r) ∧
      Moves s (s.step env cfg e) c r (fun phase => ¬ Unsent phase)) := by
  cases e with
  | rpc c r m =>
    dsimp only [ScopedGateway.step]
    cases there : s.rpcs.get? c with
    | some rpc => exact .inl ⟨rfl, fun _ _ => rfl⟩
    | none => exact .inr (.inl ⟨c, r, rfl, fun _ found => absurd (there.symm.trans found) nofun, enter_moves s c r m⟩)
  | backend c answer m =>
    dsimp only [ScopedGateway.step, atRpc]
    cases there : s.rpcs.get? c with
    | none => exact .inl ⟨rfl, fun _ _ => rfl⟩
    | some rpc =>
      dsimp only
      cases waits : rpc.phase with
      | authorizing classId =>
        rw [backendStep, waits]
        refine .inr (.inl ⟨c, rpc.request, rfl, ?_, authorized_moves s c _ classId answer m⟩)
        intro found same
        rw [there, Option.some.injEq] at same
        rw [← same, waits]
        exact ⟨rfl, trivial⟩
      | waiting classId scope =>
        rw [backendStep, waits]
        exact .inl ⟨rfl, fun _ _ => rfl⟩
      | done result =>
        rw [backendStep, waits]
        exact .inl ⟨rfl, fun _ _ => rfl⟩
  | answer c result =>
    dsimp only [ScopedGateway.step, atRpc]
    cases there : s.rpcs.get? c with
    | none => exact .inl ⟨rfl, fun _ _ => rfl⟩
    | some rpc =>
      have requested : ∀ rpc', s.rpcs.get? c = some rpc' → rpc'.request = rpc.request :=
        fun _ found => congrArg Rpc.request (Option.some.inj (found.symm.trans there))
      dsimp only
      cases waits : rpc.phase with
      | waiting classId scope =>
        rw [answerStep, waits]
        refine .inr (.inr ⟨c, rpc.request, rfl, fun _ => requested _, ?_⟩)
        cases result with
        | error text => exact ⟨_, rfl, fun _ => id⟩
        | ok value => exact answered_moves s c _ classId scope value
      | authorizing classId =>
        rw [answerStep, waits]
        exact .inl ⟨rfl, fun _ _ => rfl⟩
      | done result' =>
        rw [answerStep, waits]
        exact .inl ⟨rfl, fun _ _ => rfl⟩
  | cancel c =>
    dsimp only [ScopedGateway.step, atRpc]
    cases there : s.rpcs.get? c with
    | none => exact .inl ⟨rfl, fun _ _ => rfl⟩
    | some rpc =>
      have requested : ∀ rpc', s.rpcs.get? c = some rpc' → rpc'.request = rpc.request :=
        fun _ found => congrArg Rpc.request (Option.some.inj (found.symm.trans there))
      dsimp only
      cases waits : rpc.phase with
      | done result =>
        rw [cancelStep, waits]
        exact .inl ⟨rfl, fun _ _ => rfl⟩
      | authorizing classId =>
        rw [cancelStep, waits]
        exact .inr (.inr ⟨c, rpc.request, rfl, fun _ => requested _, _, rfl, fun _ => id⟩)
      | waiting classId scope =>
        rw [cancelStep, waits]
        exact .inr (.inr ⟨c, rpc.request, rfl, fun _ => requested _, _, rfl, fun _ => id⟩)
  | trigger teacherId threadId classId => exact .inl ⟨rfl, fun _ other => absurd other nofun⟩
  | spend call => exact .inl ⟨rfl, fun _ other => absurd other nofun⟩

omit [Field K] [DecidableEq K] [Sub T] [LT T] [DecidableLT T] in
theorem Moves.read {s t : ScopedGateway K T} {Like : RpcPhase K → Prop} (moves : Moves s t c r Like) (d : Nat) :
    ∃ phase, t.rpcs.get? d = (if d = c then some ⟨r, phase⟩ else s.rpcs.get? d) ∧ (r.method = "turn/start" → Like phase) := by
  obtain ⟨phase, set, like⟩ := moves
  exact ⟨phase, set ▸ Dict.get?_set _ _ _ _, like⟩

/-- Call `c` is for this request, and if it is a turn, it was sent on or failed otherwise. -/
def Past (c : Nat) (r : ScopedRequest K) (s : ScopedGateway K T) : Prop :=
  ∃ phase, s.rpcs.get? c = some ⟨r, phase⟩ ∧ (r.method = "turn/start" → ¬ Unsent phase)

theorem step_request (e : Event K T) (found : ∃ phase, s.rpcs.get? c = some ⟨r, phase⟩) :
    ∃ phase, (s.step env cfg e).rpcs.get? c = some ⟨r, phase⟩ := by
  obtain ⟨phase, found⟩ := found
  have moved : ∀ d r' Like, (∀ rpc, s.rpcs.get? d = some rpc → rpc.request = r') → Moves s (s.step env cfg e) d r' Like →
      ∃ phase, (s.step env cfg e).rpcs.get? c = some ⟨r, phase⟩ := by
    intro d r' Like own moves
    obtain ⟨later, read, _⟩ := moves.read c
    rw [read]
    by_cases same : c = d
    · rw [if_pos same, ← own _ (same ▸ found)]
      exact ⟨later, rfl⟩
    · rw [if_neg same]
      exact ⟨phase, found⟩
  rcases step_moves env cfg s e with still | first | last
  · rw [still.1]
    exact ⟨phase, found⟩
  · obtain ⟨d, r', _, own, moves⟩ := first
    exact moved d r' _ (fun rpc here => (own rpc here).1) moves
  · obtain ⟨d, r', _, own, moves⟩ := last
    exact moved d r' _ own moves

theorem step_past (e : Event K T) (past : Past c r s) : Past c r (s.step env cfg e) := by
  obtain ⟨phase, found, sent⟩ := past
  rcases step_moves env cfg s e with still | first | last
  · rw [Past, still.1]
    exact ⟨phase, found, sent⟩
  · obtain ⟨d, r', _, own, moves⟩ := first
    obtain ⟨later, read, _⟩ := moves.read c
    rw [Past, read]
    by_cases same : c = d
    · have here := own _ (same ▸ found)
      rw [if_pos same, ← here.1]
      exact ⟨later, rfl, fun turn => absurd here.2 (sent turn)⟩
    · rw [if_neg same]
      exact ⟨phase, found, sent⟩
  · obtain ⟨d, r', _, own, moves⟩ := last
    obtain ⟨later, read, unsent⟩ := moves.read c
    rw [Past, read]
    by_cases same : c = d
    · rw [if_pos same]
      rw [← own _ (same ▸ found)] at unsent ⊢
      exact ⟨later, rfl, unsent⟩
    · rw [if_neg same]
      exact ⟨phase, found, sent⟩

/-- Every step of a turn that ends rejected leaves the bindings, the budget and the app-server alone. -/
theorem rejected_same {s : ScopedGateway K T} {e : Event K T} {rest : List (Event K T)} {err : HttpError}
    (own : e.call = some c) (turn : r.method = "turn/start")
    (rejected : (run (step env cfg) (s.step env cfg e) rest).rpcs.get? c = some ⟨r, .done (.error (.http err))⟩) :
    Same s (s.step env cfg e) := by
  have final : ∀ r' phase, (s.step env cfg e).rpcs.get? c = some ⟨r', phase⟩ →
      (r'.method = "turn/start" → ¬ Unsent phase) → False := by
    intro r' phase here sent
    have later : Past c r' (run (step env cfg) (s.step env cfg e) rest) :=
      run_invariant (fun _ e' => step_past e') rest _ ⟨phase, here, sent⟩
    obtain ⟨last, found, past⟩ := later
    rw [rejected, Option.some.injEq, Rpc.mk.injEq] at found
    rw [← found.1, ← found.2] at past
    exact past turn trivial
  have request : ∀ r' phase, (s.step env cfg e).rpcs.get? c = some ⟨r', phase⟩ → r' = r := by
    intro r' phase here
    obtain ⟨last, found⟩ := run_invariant (fun t e' => step_request (s := t) (c := c) (r := r') e') rest _ ⟨phase, here⟩
    rw [rejected, Option.some.injEq, Rpc.mk.injEq] at found
    exact found.1.symm
  rcases step_moves env cfg s e with still | first | last
  · rw [still.2 c own]
    exact ⟨rfl, rfl, rfl⟩
  · obtain ⟨d, r', about, _, moves⟩ := first
    cases own.symm.trans about
    obtain ⟨phase, read, quiet⟩ := moves.read c
    rw [if_pos rfl] at read
    have turns : r'.method = "turn/start" := request r' phase read ▸ turn
    by_cases unsent : Unsent phase
    · exact quiet turns unsent
    · exact (final r' phase read (fun _ => unsent)).elim
  · obtain ⟨d, r', about, _, moves⟩ := last
    cases own.symm.trans about
    obtain ⟨phase, read, sent⟩ := moves.read c
    rw [if_pos rfl] at read
    exact (final r' phase read sent).elim

/-- Whatever teachers call, whatever the backend and the app-server answer and whatever triggers bind, a thread keeps
    its class, a turn is sent on only under it, and a rejected turn leaves no trace. -/
theorem conversation_keeps_class (env : ScopeEnv K) (cfg : BudgetConfig T) (scopes : Scopes) (events : List (Event K T)) :
    (∀ first rest key held, events = first ++ rest → (run (step env cfg) (init scopes) first).scopes.get? key = some held →
      (run (step env cfg) (init scopes) events).scopes.get? key = some held) ∧
    (∀ f ∈ (run (step env cfg) (init scopes) events).forwards, f.request.method = "turn/start" →
      Authorized env (run (step env cfg) (init scopes) events).scopes f) ∧
    (∀ first e rest c r err, events = first ++ e :: rest → e.call = some c → r.method = "turn/start" →
      (run (step env cfg) (init scopes) events).rpcs.get? c = some ⟨r, .done (.error (.http err))⟩ →
      Same (run (step env cfg) (init scopes) first) ((run (step env cfg) (init scopes) first).step env cfg e)) := by
  have start : (init scopes : ScopedGateway K T).Scoped env scopes := ⟨fun _ _ => id, nofun, nofun⟩
  refine ⟨?_, ?_, ?_⟩
  · intro first rest key held split bound
    have tidy : (run (step env cfg) (init scopes) first).Scoped env scopes :=
      run_invariant (fun _ e tidy => tidy.step e) first _ start
    rw [split, run_append]
    exact (run_invariant (fun _ e tidy => tidy.step e) rest _ (tidy.rebase)).kept key held bound
  · exact (run_invariant (fun _ e tidy => tidy.step e) events _ start).sent
  · intro first e rest c r err split own turn rejected
    rw [split, run_append, run_cons] at rejected
    exact rejected_same own turn rejected

end

end

end ScopedGateway

end KnowledgeGap.Gateway
