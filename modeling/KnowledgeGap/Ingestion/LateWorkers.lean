import KnowledgeGap.Ingestion.Batch

namespace KnowledgeGap.Ingestion

open Relational Protocol

variable {K : Type}

theorem get?_rewrite_self {items : Table (ParseBatchItem K)} {new it : ParseBatchItem K}
    (found : items.get? new.id = some it) : (rewrite items new).get? new.id = some new := by
  have key : it.id = new.id := Table.get?_key found
  unfold rewrite Table.modify
  rw [Table.get?_updateWhere, found, Option.map_some, if_pos (by simpa [Keyed.key] using key), ParseBatchItem.write, key]

theorem get?_rewrite_other {items : Table (ParseBatchItem K)} {new : ParseBatchItem K} {j : Nat} (other : j ≠ new.id) :
    (rewrite items new).get? j = items.get? j := by
  unfold rewrite Table.modify
  rw [Table.get?_updateWhere]
  cases found : items.get? j with
  | none => rfl
  | some it =>
    have key : it.id = j := Table.get?_key found
    rw [Option.map_some, if_neg]
    simpa [Keyed.key, key] using other

theorem get?_rewrite {items : Table (ParseBatchItem K)} {new it : ParseBatchItem K} {j : Nat}
    (found : items.get? j = some it) :
    (rewrite items new).get? j = some (if j = new.id then new else it) := by
  by_cases here : j = new.id
  · rw [if_pos here]
    rw [here] at found ⊢
    exact get?_rewrite_self found
  · rw [if_neg here, get?_rewrite_other here, found]

theorem get?_rewrite_none {items : Table (ParseBatchItem K)} {new : ParseBatchItem K} {j : Nat}
    (absent : items.get? j = none) : (rewrite items new).get? j = none := by
  unfold rewrite Table.modify
  rw [Table.get?_updateWhere, absent]
  rfl

section
variable [Field K] [LinearOrder K] [FloorRing K] (roster : Roster)

/-- How a session that parses or assigns a sheet ends: with a response of its own, or with none at all. -/
structure Outcome (db after : Db K) (examTemplateId : Nat) (it new : ParseBatchItem K) : Prop where
  key : new.id = it.id
  exam : new.examTemplateId = it.examTemplateId
  result : (after = db ∧ new.status ≠ .matched) ∨
    ∃ studentId responseId, Created db after examTemplateId studentId responseId ∧
      new.responseId = some responseId ∧ new.matchedStudentId = some studentId

theorem persistBatchResult_outcome {db after : Db K} {it new : ParseBatchItem K} {examTemplateId : Nat}
    {payload : Option (Payload K)} {warnings : List (Warning K)}
    (result : persistBatchResult roster db it examTemplateId payload warnings = .ok (after, new)) :
    Outcome db after examTemplateId it new := by
  cases persistBatchResult_persisted roster result with
  | failed => exact ⟨rfl, rfl, Or.inl ⟨rfl, nofun⟩⟩
  | unmatched => exact ⟨rfl, rfl, Or.inl ⟨rfl, nofun⟩⟩
  | matched _ template _ _ _ _ _ _ known created =>
    have exam : template.id = examTemplateId := Table.get?_key known
    rw [← exam]
    exact ⟨rfl, rfl, Or.inr ⟨_, _, persistResponseFromPayload_ok created, rfl, rfl⟩⟩
  | duplicate => exact ⟨rfl, rfl, Or.inl ⟨rfl, nofun⟩⟩

omit [Field K] [LinearOrder K] [FloorRing K] in
theorem Outcome.dropFile {db after : Db K} {examTemplateId : Nat} {it new : ParseBatchItem K}
    (outcome : Outcome db after examTemplateId it new) : Outcome db after examTemplateId it (dropFile new) := by
  unfold Ingestion.dropFile
  split
  · exact ⟨outcome.key, outcome.exam, outcome.result⟩
  · exact outcome

theorem assigned_outcome {db after : Db K} {it new : ParseBatchItem K} {studentId : Nat}
    (result : assigned db it studentId = some (after, new)) : Outcome db after it.examTemplateId it new := by
  cases assigned_cases result with
  | matched _ template _ _ _ _ _ known created =>
    have exam : template.id = it.examTemplateId := Table.get?_key known
    rw [← exam]
    exact ⟨rfl, exam.symm ▸ rfl, Or.inr ⟨_, _, persistResponseFromPayload_ok created, rfl, rfl⟩⟩
  | duplicate => exact ⟨rfl, rfl, Or.inl ⟨rfl, nofun⟩⟩

end

/-- What an event can do to the one row it is aimed at, and to the tables of the exam. -/
inductive Move (s : State K) (after : Db K) : Event K → ParseBatchItem K → ParseBatchItem K → Prop
  | start (it : ParseBatchItem K) (now : DateTime) (queued : it.status = .queued) (same : after = s.db) :
      Move s after (.start it.id now) it { it with status := .parsing, startedAt := some now }
  | complete (a : Attempt) (it new : ParseBatchItem K) (payload : Option (Payload K)) (warnings : List (Warning K))
      (no : Nat) (flying : s.attempt no = some a) (own : a.itemId = it.id)
      (outcome : Outcome s.db after a.examTemplateId it new) : Move s after (.complete no payload warnings) it new
  | lost (a : Attempt) (it : ParseBatchItem K) (no : Nat) (flying : s.attempt no = some a) (own : a.itemId = it.id)
      (same : after = s.db) : Move s after (.lost no) it (markFailed .fileLost it)
  | crash (a : Attempt) (it : ParseBatchItem K) (no : Nat) (error : String) (flying : s.attempt no = some a)
      (own : a.itemId = it.id) (pending : it.status.terminal = false) (same : after = s.db) :
      Move s after (.crash no error) it (markFailed (.crashed error) it)
  | retry (it : ParseBatchItem K) (fileExists : Bool) (failed : it.status = .failed) (same : after = s.db) :
      Move s after (.retry it.id fileExists) it { it with status := .queued, warnings := [], detectedName := none }
  | discard (it : ParseBatchItem K) (rejected : it.status = .unmatched ∨ it.status = .failed) (same : after = s.db) :
      Move s after (.discard it.id) it { it with status := .discarded, detectedName := none, filePath := none }
  | assign (it new : ParseBatchItem K) (studentId : Nat) (unmatched : it.status = .unmatched)
      (outcome : Outcome s.db after it.examTemplateId it new) : Move s after (.assign it.id studentId) it new

/-- Everything one event can do. -/
inductive Change (s s' : State K) : Event K → Prop
  | idle (e : Event K) (items : s'.items = s.items) (db : s'.db = s.db) : Change s s' e
  | row (e : Event K) (it new : ParseBatchItem K) (read : s.items.get? it.id = some it)
      (move : Move s s'.db e it new) (items : s'.items = rewrite s.items new) : Change s s' e
  | expire (now : DateTime) (items : s'.items = s.items.updateWhere (timedOut now) expire key_expire)
      (db : s'.db = s.db) : Change s s' (.watchdog now)
  | upload (examTemplateId : Nat) (paths : List String)
      (items : s'.items = s.items.insertAll (freshItem examTemplateId s.jobs.nextId) (key_freshItem _ _) paths)
      (db : s'.db = s.db) : Change s s' (.upload examTemplateId paths)

section
variable {s : State K} {i : Nat} {it : ParseBatchItem K}

theorem get?_self (found : s.items.get? i = some it) : it.id = i ∧ s.items.get? it.id = some it := by
  have key : it.id = i := Table.get?_key found
  exact ⟨key, key.symm ▸ found⟩

end

theorem Move.key {s : State K} {after : Db K} {e : Event K} {it new : ParseBatchItem K} (move : Move s after e it new) :
    new.id = it.id ∧ new.examTemplateId = it.examTemplateId := by
  cases move with
  | start | lost | crash | retry | discard => exact ⟨rfl, rfl⟩
  | complete _ _ _ _ _ _ _ _ outcome => exact ⟨outcome.key, outcome.exam⟩
  | assign _ _ _ _ outcome => exact ⟨outcome.key, outcome.exam⟩

/-- How a row that was on file looks after an event. -/
inductive Moved (s s' : State K) (e : Event K) (it : ParseBatchItem K) : ParseBatchItem K → Prop
  | kept : Moved s s' e it it
  | aimed (new : ParseBatchItem K) (move : Move s s'.db e it new) : Moved s s' e it new
  | expired (parsing : it.status = .parsing) : Moved s s' e it (expire it)

theorem Moved.key {s s' : State K} {e : Event K} {it new : ParseBatchItem K} (moved : Moved s s' e it new) :
    new.id = it.id ∧ new.examTemplateId = it.examTemplateId := by
  cases moved with
  | kept => exact ⟨rfl, rfl⟩
  | aimed _ move => exact move.key
  | expired => exact ⟨rfl, rfl⟩

theorem Change.row_after {s s' : State K} {e : Event K} (change : Change s s' e) {j : Nat} {it : ParseBatchItem K}
    (found : s.items.get? j = some it) : ∃ new, s'.items.get? j = some new ∧ Moved s s' e it new := by
  cases change with
  | idle _ items => exact ⟨it, items ▸ found, .kept⟩
  | row _ r new read move items =>
    rw [items, get?_rewrite found]
    refine ⟨_, rfl, ?_⟩
    by_cases here : j = new.id
    · rw [if_pos here]
      rw [here, move.key.1, read] at found
      cases found
      exact .aimed new move
    · rw [if_neg here]
      exact .kept
  | expire now items =>
    rw [items, Table.get?_updateWhere, found, Option.map_some]
    refine ⟨_, rfl, ?_⟩
    by_cases old : timedOut now it = true
    · rw [if_pos old]
      simp only [timedOut, Bool.and_eq_true, beq_iff_eq] at old
      exact .expired old.1
    · rw [if_neg old]
      exact .kept
  | upload examTemplateId paths items =>
    refine ⟨it, ?_, .kept⟩
    rw [Table.get?_eq_some_iff] at found ⊢
    rw [items, Table.rows_insertAll]
    exact ⟨List.mem_append_left _ found.1, found.2⟩

/-- A row that was not on file is a sheet just uploaded. -/
theorem Change.row_new {s s' : State K} {e : Event K} (change : Change s s' e) {j : Nat} {it : ParseBatchItem K}
    (absent : s.items.get? j = none) (found : s'.items.get? j = some it) : it.status = .queued := by
  cases change with
  | idle _ items =>
    rw [items, absent] at found
    cases found
  | row _ _ _ _ _ items =>
    rw [items, get?_rewrite_none absent] at found
    cases found
  | expire _ items =>
    rw [items, Table.get?_updateWhere, absent] at found
    cases found
  | upload _ _ items =>
    rw [items, Table.get?_eq_some_iff, Table.rows_insertAll, List.mem_append] at found
    rcases found with ⟨old | new, key⟩
    · rw [(Table.get?_eq_some_iff _ _ _).mpr ⟨old, key⟩] at absent
      cases absent
    · obtain ⟨n, inside, rfl⟩ := List.mem_mapIdx.mp new
      rfl

theorem Outcome.grows {db after : Db K} {examTemplateId : Nat} {it new : ParseBatchItem K}
    (outcome : Outcome db after examTemplateId it new) {r : ExamResponse K} (stored : r ∈ db.responses.rows) :
    r ∈ after.responses.rows := by
  rcases outcome.result with unchanged | ⟨_, _, created, _⟩
  · rw [unchanged.1]
    exact stored
  · obtain ⟨_, rows⟩ := created.rows
    rw [rows]
    exact List.mem_append_left _ stored

/-- No event takes a response away. -/
theorem Change.grows {s s' : State K} {e : Event K} (change : Change s s' e) {r : ExamResponse K}
    (stored : r ∈ s.db.responses.rows) : r ∈ s'.db.responses.rows := by
  cases change with
  | idle _ _ db | expire _ _ db | upload _ _ _ db => exact db ▸ stored
  | row _ _ _ _ move =>
    cases move with
    | start _ _ _ same | lost _ _ _ _ _ same | crash _ _ _ _ _ _ _ same | retry _ _ _ same | discard _ _ same =>
      exact same ▸ stored
    | complete _ _ _ _ _ _ _ _ outcome => exact outcome.grows stored
    | assign _ _ _ _ outcome => exact outcome.grows stored

/-- The attempt still holds its item: it was the last to take it up, and nobody took it back since. -/
def live (s : State K) (a : Attempt) : Bool :=
  s.lastStart a.itemId == some a.no && (s.items.get? a.itemId).any (fun it => it.status == .parsing)

/-- A worker ends in time: it still holds its item or, on the way out of an error, finds it settled. -/
def timely (s : State K) : Event K → Bool
  | .complete no _ _ => (s.attempt no).all (live s)
  | .lost no => (s.attempt no).all (live s)
  | .crash no _ =>
    (s.attempt no).all (fun a => live s a || (s.items.get? a.itemId).all (fun it => it.status.terminal))
  | _ => true

theorem parsing_of_live {s : State K} {a : Attempt} {it : ParseBatchItem K} (found : s.items.get? a.itemId = some it)
    (held : live s a = true) : it.status = .parsing := by
  simp only [live, found, Option.any_some, Bool.and_eq_true, beq_iff_eq] at held
  exact held.2

/-- What a discarded or matched row is to every timely event. -/
theorem Moved.settled {s s' : State K} {e : Event K} {it new : ParseBatchItem K} (moved : Moved s s' e it new)
    (read : s.items.get? it.id = some it) (intime : timely s e = true)
    (settled : it.status = .discarded ∨ it.status = .matched) : new = it := by
  cases moved with
  | kept => rfl
  | expired parsing => rcases settled with status | status <;> simp [status] at parsing
  | aimed _ move =>
    cases move with
    | start _ _ queued => rcases settled with status | status <;> simp [status] at queued
    | retry _ _ failed => rcases settled with status | status <;> simp [status] at failed
    | discard _ rejected => rcases settled with status | status <;> simp [status] at rejected
    | assign _ _ _ unmatched => rcases settled with status | status <;> simp [status] at unmatched
    | crash _ _ _ _ _ _ pending => rcases settled with status | status <;> simp [status, ItemStatus.terminal] at pending
    | complete _ _ _ _ _ _ flying own =>
      simp only [timely, flying, Option.all_some] at intime
      have parsing := parsing_of_live (own ▸ read) intime
      rcases settled with status | status <;> simp [status] at parsing
    | lost _ _ _ flying own =>
      simp only [timely, flying, Option.all_some] at intime
      have parsing := parsing_of_live (own ▸ read) intime
      rcases settled with status | status <;> simp [status] at parsing

/-- The item an event is aimed at. -/
def Event.itemId (s : State K) : Event K → Option Nat
  | .start itemId _ | .retry itemId _ | .discard itemId | .assign itemId _ => some itemId
  | .complete no _ _ | .lost no | .crash no _ => (s.attempt no).map Attempt.itemId
  | .upload _ _ | .watchdog _ => none

/-- Every matched item has a response of its own exam and student, and no other item has that response. -/
structure Linked (s : State K) : Prop where
  points : ∀ it ∈ s.items.rows, it.status = .matched → ∃ r ∈ s.db.responses.rows,
    it.responseId = some r.id ∧ r.examTemplateId = it.examTemplateId ∧ it.matchedStudentId = some r.studentId
  apart : ∀ it ∈ s.items.rows, ∀ other ∈ s.items.rows, it.status = .matched → other.status = .matched →
    it.responseId = other.responseId → it = other

/-- Every worker carries the exam of its item. -/
def Aligned (s : State K) : Prop :=
  ∀ a ∈ s.inFlight, ∃ it, s.items.get? a.itemId = some it ∧ it.examTemplateId = a.examTemplateId

/-- The row was matched by this event, to a response made for it. -/
structure JustMatched (s s' : State K) (e : Event K) (it new : ParseBatchItem K) : Prop where
  aimed : e.itemId s = some it.id
  link : ∃ studentId responseId, Created s.db s'.db it.examTemplateId studentId responseId ∧
    new.responseId = some responseId ∧ new.matchedStudentId = some studentId

theorem Moved.matched {s s' : State K} {e : Event K} {it new : ParseBatchItem K} (moved : Moved s s' e it new)
    (aligned : Aligned s) (read : s.items.get? it.id = some it) (matched : new.status = .matched) :
    new = it ∨ JustMatched s s' e it new := by
  cases moved with
  | kept => exact Or.inl rfl
  | expired => cases matched
  | aimed _ move =>
    right
    cases move with
    | start | lost | crash | retry | discard => cases matched
    | complete a _ _ _ _ _ flying own outcome =>
      obtain ⟨r, found, exam⟩ := aligned a (List.mem_of_find?_eq_some flying)
      rw [own, read] at found
      cases found
      rcases outcome.result with unchanged | created
      · exact absurd matched unchanged.2
      · exact ⟨by rw [Event.itemId, flying, Option.map_some, own], exam ▸ created⟩
    | assign _ _ _ _ outcome =>
      rcases outcome.result with unchanged | created
      · exact absurd matched unchanged.2
      · exact ⟨rfl, created⟩

/-- A matched row was matched before, or is matched by this very event. -/
theorem Change.matched_origin {s s' : State K} {e : Event K} (change : Change s s' e) (aligned : Aligned s)
    {x : ParseBatchItem K} (stored : x ∈ s'.items.rows) (matched : x.status = .matched) :
    x ∈ s.items.rows ∨ ∃ it ∈ s.items.rows, x.id = it.id ∧ x.examTemplateId = it.examTemplateId ∧
      JustMatched s s' e it x := by
  have found := Table.get?_of_mem stored
  cases before : s.items.get? (Keyed.key x) with
  | none =>
    rw [change.row_new before found] at matched
    cases matched
  | some it =>
    obtain ⟨new, after, moved⟩ := change.row_after before
    rw [found] at after
    cases after
    rcases moved.matched aligned (get?_self before).2 matched with same | just
    · exact Or.inl (same ▸ Table.get?_mem before)
    · exact Or.inr ⟨it, Table.get?_mem before, moved.key.1, moved.key.2, just⟩

theorem Linked.response_lt {s : State K} (linked : Linked s) {it : ParseBatchItem K} (stored : it ∈ s.items.rows)
    (matched : it.status = .matched) {id : Nat} (known : it.responseId = some id) : id < s.db.responses.nextId := by
  obtain ⟨r, listed, own, _⟩ := linked.points it stored matched
  rw [known] at own
  cases own
  exact s.db.responses.issued r listed

theorem Linked.change {s s' : State K} {e : Event K} (linked : Linked s) (aligned : Aligned s) (change : Change s s' e) :
    Linked s' := by
  refine ⟨?_, ?_⟩
  · intro x stored matched
    rcases change.matched_origin aligned stored matched with old | ⟨it, before, _, exam, just⟩
    · obtain ⟨r, listed, link⟩ := linked.points x old matched
      exact ⟨r, change.grows listed, link⟩
    · obtain ⟨studentId, responseId, created, response, student⟩ := just.link
      obtain ⟨totalScore, rows⟩ := created.rows
      refine ⟨responseRow it.examTemplateId studentId totalScore responseId, ?_, response, exam.symm, student⟩
      rw [rows]
      exact List.mem_append_right _ (List.mem_singleton_self _)
  · intro x storedX y storedY matchedX matchedY same
    rcases change.matched_origin aligned storedX matchedX with oldX | ⟨p, beforeP, keyX, _, justX⟩
    · rcases change.matched_origin aligned storedY matchedY with oldY | ⟨q, beforeQ, keyY, _, justY⟩
      · exact linked.apart x oldX y oldY matchedX matchedY same
      · obtain ⟨_, responseId, created, response, _⟩ := justY.link
        have below := linked.response_lt oldX matchedX (same.trans response)
        have next := created.key
        omega
    · rcases change.matched_origin aligned storedY matchedY with oldY | ⟨q, beforeQ, keyY, _, justY⟩
      · obtain ⟨_, responseId, created, response, _⟩ := justX.link
        have below := linked.response_lt oldY matchedY (same.symm.trans response)
        have next := created.key
        omega
      · have aim := justX.aimed
        rw [justY.aimed] at aim
        apply s'.items.key_inj storedX storedY
        show x.id = y.id
        rw [keyX, keyY, Option.some.inj aim]

/-- The worker whose session an event is. -/
def Event.worker (s : State K) : Event K → Option Attempt
  | .complete no _ _ | .lost no | .crash no _ => s.attempt no
  | _ => none

theorem Change.of_discarded {s s' : State K} {e : Event K} (change : Change s s' e) (intime : timely s e = true) {i : Nat}
    {it : ParseBatchItem K} (found : s.items.get? i = some it) (discarded : it.status = .discarded)
    (aimed : e.itemId s = some i) : s'.db = s.db := by
  cases change with
  | idle _ _ db | expire _ _ db | upload _ _ _ db => exact db
  | row _ r new read move =>
    cases move with
    | start _ _ _ same | lost _ _ _ _ _ same | crash _ _ _ _ _ _ _ same | retry _ _ _ same | discard _ _ same => exact same
    | complete a _ _ _ _ _ flying own =>
      simp only [timely, flying, Option.all_some] at intime
      have here : a.itemId = i := by simpa [Event.itemId, flying] using aimed
      have parsing := parsing_of_live (here.symm ▸ found) intime
      simp [discarded] at parsing
    | assign _ _ _ unmatched =>
      have here : r.id = i := by simpa [Event.itemId] using aimed
      rw [here, found] at read
      cases read
      simp [discarded] at unmatched

/-- A worker that lost its item and ends in time writes nothing. -/
theorem Change.of_late {s s' : State K} {e : Event K} (change : Change s s' e) (intime : timely s e = true) {a : Attempt}
    (worker : e.worker s = some a) (late : live s a = false) : s'.items = s.items ∧ s'.db = s.db := by
  cases change with
  | idle _ items db => exact ⟨items, db⟩
  | expire | upload => cases worker
  | row _ r new read move =>
    cases move with
    | start | retry | discard | assign => cases worker
    | complete b _ _ _ _ _ flying =>
      have same : b = a := by simpa [Event.worker, flying] using worker
      simp [timely, flying, same, late] at intime
    | lost b _ _ flying =>
      have same : b = a := by simpa [Event.worker, flying] using worker
      simp [timely, flying, same, late] at intime
    | crash b _ _ _ flying own pending =>
      have same : b = a := by simpa [Event.worker, flying] using worker
      rw [same] at own
      simp [timely, flying, same, late, own, read, pending] at intime

section
variable [Field K] [LinearOrder K] [FloorRing K] (roster : Roster)

theorem complete_change (s : State K) (no : Nat) (payload : Option (Payload K)) (warnings : List (Warning K)) :
    Change s (complete roster s no payload warnings) (.complete no payload warnings) := by
  unfold complete
  split
  · exact .idle _ rfl rfl
  · rename_i a flying
    split
    · exact .idle _ rfl rfl
    · rename_i it found
      split
      · exact .idle _ rfl rfl
      · rename_i db new result
        obtain ⟨key, read⟩ := get?_self found
        have outcome := (persistBatchResult_outcome roster result).dropFile
        exact .row _ it (dropFile new) read (.complete a it _ payload warnings no flying key.symm outcome) rfl

theorem assign_change (s : State K) (itemId studentId : Nat) :
    Change s (assignItem s itemId studentId) (.assign itemId studentId) := by
  unfold assignItem
  split
  · exact .idle _ rfl rfl
  · rename_i it found
    obtain ⟨key, read⟩ := get?_self found
    split
    · exact .idle _ rfl rfl
    · rename_i unmatched
      split
      · exact .idle _ rfl rfl
      · rename_i db new result
        subst key
        exact .row _ it new read (.assign it new studentId (not_not.mp unmatched) (assigned_outcome result)) rfl

theorem step_change (s : State K) (e : Event K) : Change s (step roster s e) e := by
  cases e with
  | upload examTemplateId paths => exact .upload examTemplateId paths rfl rfl
  | watchdog now => exact .expire now rfl rfl
  | complete no payload warnings => exact complete_change roster s no payload warnings
  | assign itemId studentId => exact assign_change s itemId studentId
  | start itemId now =>
    show Change s (start s itemId now) _
    unfold start
    split
    · exact .idle _ rfl rfl
    · rename_i it found
      obtain ⟨key, read⟩ := get?_self found
      split
      · exact .idle _ rfl rfl
      · rename_i queued
        subst key
        exact .row _ it _ read (.start it now (not_not.mp queued) rfl) rfl
  | lost no =>
    show Change s (lost s no) _
    unfold lost
    split
    · exact .idle _ rfl rfl
    · rename_i a flying
      dsimp only
      split
      · exact .idle _ rfl rfl
      · rename_i it found
        obtain ⟨key, read⟩ := get?_self found
        exact .row _ it _ read (.lost a it no flying key.symm rfl) rfl
  | crash no error =>
    show Change s (crash s no error) _
    unfold crash
    split
    · exact .idle _ rfl rfl
    · rename_i a flying
      split
      · exact .idle _ rfl rfl
      · rename_i it found
        obtain ⟨key, read⟩ := get?_self found
        dsimp only
        split
        · exact .idle _ rfl rfl
        · rename_i pending
          exact .row _ it _ read (.crash a it no error flying key.symm (Bool.eq_false_of_not_eq_true pending) rfl) rfl
  | retry itemId fileExists =>
    show Change s (retryItem s itemId fileExists) _
    unfold retryItem
    split
    · exact .idle _ rfl rfl
    · rename_i it found
      obtain ⟨key, read⟩ := get?_self found
      split
      · exact .idle _ rfl rfl
      · rename_i failed
        split
        · exact .idle _ rfl rfl
        · subst key
          exact .row _ it _ read (.retry it fileExists (not_not.mp failed) rfl) rfl
  | discard itemId =>
    show Change s (discardItem s itemId) _
    unfold discardItem
    split
    · exact .idle _ rfl rfl
    · rename_i it found
      obtain ⟨key, read⟩ := get?_self found
      split
      · exact .idle _ rfl rfl
      · rename_i rejected
        subst key
        have open_ : it.status = .unmatched ∨ it.status = .failed := by
          by_contra neither
          exact rejected (not_or.mp neither)
        exact .row _ it _ read (.discard it open_ rfl) rfl

/-- A worker under way was under way before, or has just taken up its item. -/
theorem step_inFlight (s : State K) (e : Event K) {a : Attempt} (flying : a ∈ (step roster s e).inFlight) :
    a ∈ s.inFlight ∨ ∃ it, s.items.get? a.itemId = some it ∧ it.examTemplateId = a.examTemplateId := by
  have left : ∀ no, a ∈ s.leave no → a ∈ s.inFlight := fun no kept => List.mem_of_mem_filter kept
  cases e with
  | upload | watchdog => exact Or.inl flying
  | start itemId now =>
    have among : a ∈ (start s itemId now).inFlight := flying
    unfold start at among
    split at among
    · exact Or.inl among
    · rename_i it found
      split at among
      · exact Or.inl among
      · rcases List.mem_append.mp among with old | new
        · exact Or.inl old
        · rw [List.mem_singleton.mp new]
          exact Or.inr ⟨it, found, rfl⟩
  | complete no payload warnings =>
    left
    have among : a ∈ (complete roster s no payload warnings).inFlight := flying
    unfold complete at among
    split at among
    · exact among
    · split at among
      · exact left no among
      · split at among
        · exact among
        · exact left no among
  | lost no =>
    left
    have among : a ∈ (lost s no).inFlight := flying
    unfold lost at among
    split at among
    · exact among
    · exact left no among
  | crash no error =>
    left
    have among : a ∈ (crash s no error).inFlight := flying
    unfold crash at among
    split at among
    · exact among
    · split at among <;> exact left no among
  | retry itemId fileExists =>
    left
    have among : a ∈ (retryItem s itemId fileExists).inFlight := flying
    unfold retryItem at among
    split at among
    · exact among
    · split at among
      · exact among
      · split at among <;> exact among
  | discard itemId =>
    left
    have among : a ∈ (discardItem s itemId).inFlight := flying
    unfold discardItem at among
    split at among
    · exact among
    · split at among <;> exact among
  | assign itemId studentId =>
    left
    have among : a ∈ (assignItem s itemId studentId).inFlight := flying
    unfold assignItem at among
    split at among
    · exact among
    · split at among
      · exact among
      · split at among <;> exact among

theorem step_aligned {s : State K} (aligned : Aligned s) (e : Event K) : Aligned (step roster s e) := by
  intro a flying
  have before : ∃ it, s.items.get? a.itemId = some it ∧ it.examTemplateId = a.examTemplateId := by
    rcases step_inFlight roster s e flying with old | new
    · exact aligned a old
    · exact new
  obtain ⟨it, found, exam⟩ := before
  obtain ⟨new, after, moved⟩ := (step_change roster s e).row_after found
  exact ⟨new, after, moved.key.2.trans exam⟩

/-- Sheets uploaded, and no worker under way. -/
structure Fresh (s : State K) : Prop where
  idle : s.inFlight = []
  queued : ∀ it ∈ s.items.rows, it.status = .queued

theorem run_linked {s : State K} (fresh : Fresh s) (events : List (Event K)) : Linked (run (step roster) s events) := by
  have start : Linked s ∧ Aligned s := by
    refine ⟨⟨?_, ?_⟩, ?_⟩
    · intro it stored matched
      rw [fresh.queued it stored] at matched
      cases matched
    · intro it stored _ _ matched
      rw [fresh.queued it stored] at matched
      cases matched
    · intro a flying
      rw [fresh.idle] at flying
      cases flying
  have preserve : ∀ (s : State K) (e : Event K), Linked s ∧ Aligned s →
      Linked (step roster s e) ∧ Aligned (step roster s e) := by
    intro s e held
    exact ⟨held.1.change held.2 (step_change roster s e), step_aligned roster held.2 e⟩
  exact (run_invariant preserve events s start).1

theorem run_settled {s : State K} {i : Nat} {it : ParseBatchItem K} (settled : it.status = .discarded ∨ it.status = .matched)
    (events : List (Event K)) (found : s.items.get? i = some it)
    (intime : Along (step roster) (fun s e => timely s e = true) s events) :
    (run (step roster) s events).items.get? i = some it := by
  have preserve : ∀ (s : State K) (e : Event K), s.items.get? i = some it → timely s e = true →
      (step roster s e).items.get? i = some it := by
    intro s e found intime
    obtain ⟨new, after, moved⟩ := (step_change roster s e).row_after found
    rw [moved.settled (get?_self found).2 intime settled] at after
    exact after
  exact run_invariant_along preserve events s intime found

/-- Every run keeps matched items and responses paired. Where every worker ends in time, discarded and matched
    items stay as they are, nothing is made of a discarded one, and a worker that lost its item writes nothing. -/
theorem late_workers {s : State K} (fresh : Fresh s) (events : List (Event K)) :
    Linked (run (step roster) s events) ∧
      (Along (step roster) (fun s e => timely s e = true) s events →
        (∀ first rest, events = first ++ rest → ∀ i it, (run (step roster) s first).items.get? i = some it →
          it.status = .discarded ∨ it.status = .matched → (run (step roster) s events).items.get? i = some it) ∧
        ∀ first e rest, events = first ++ e :: rest →
          (∀ i it, (run (step roster) s first).items.get? i = some it → it.status = .discarded →
            e.itemId (run (step roster) s first) = some i →
              (run (step roster) s (first ++ [e])).db = (run (step roster) s first).db) ∧
          ∀ a, e.worker (run (step roster) s first) = some a → live (run (step roster) s first) a = false →
            (run (step roster) s (first ++ [e])).items = (run (step roster) s first).items ∧
              (run (step roster) s (first ++ [e])).db = (run (step roster) s first).db) := by
  refine ⟨run_linked roster fresh events, ?_⟩
  intro intime
  constructor
  · intro first rest split i it found settled
    rw [split] at intime ⊢
    rw [run_append]
    exact run_settled roster settled rest found (along_append.mp intime).2
  · intro first e rest split
    rw [split] at intime
    have here := (along_append.mp intime).2.1
    have change := step_change roster (run (step roster) s first) e
    have after : run (step roster) s (first ++ [e]) = step roster (run (step roster) s first) e := run_append ..
    rw [after]
    exact ⟨fun i it found discarded aimed => change.of_discarded here found discarded aimed,
      fun a worker late => change.of_late here worker late⟩

end

def plainRoster : Roster := ⟨id, fun _ => none⟩

/-- A class of one, and one sheet of its exam in the queue. -/
def oneSheet : State ℚ where
  db := { Db.empty ℚ with
    students := Table.ofList [⟨1, 1, "甲"⟩]
    templates := Table.ofList [⟨1, 1, 0, .unit, .other "excel"⟩] }
  jobs := Table.ofList [⟨1, .running⟩]
  items := Table.ofList [freshItem 1 1 "sc_batch_1" 1]
  inFlight := []
  started := 0
  lastStart := fun _ => none

theorem oneSheet_fresh : Fresh oneSheet where
  idle := rfl
  queued := by decide

def sheetRead : Payload ℚ := ⟨some "甲", []⟩

def readInTime : List (Event ℚ) := [.start 1 0, .complete 0 (some sheetRead) []]

theorem late_workers_in_time :
    Linked (run (step plainRoster) oneSheet readInTime) ∧
      ((run (step plainRoster) oneSheet readInTime).items.get? 1).map ParseBatchItem.status = some .matched := by
  have intime : Along (step plainRoster) (fun s e => timely s e = true) oneSheet readInTime := by
    decide +kernel
  have settled := (late_workers plainRoster oneSheet_fresh readInTime).2 intime
  refine ⟨(late_workers plainRoster oneSheet_fresh readInTime).1, ?_⟩
  have matched : ∃ it, (run (step plainRoster) oneSheet readInTime).items.get? 1 = some it ∧ it.status = .matched := by
    decide +kernel
  obtain ⟨it, found, status⟩ := matched
  rw [settled.1 readInTime [] rfl 1 it found (Or.inr status), Option.map_some, status]

/-- The watchdog gives the sheet up and the teacher discards it; then the first worker comes back. -/
def readTooLate : List (Event ℚ) :=
  [.start 1 0, .watchdog (seconds 300), .discard 1, .complete 0 (some sheetRead) []]

theorem late_completion :
    ((run (step plainRoster) oneSheet (readTooLate.take 3)).items.get? 1).map ParseBatchItem.status = some .discarded ∧
      (run (step plainRoster) oneSheet (readTooLate.take 3)).db.responses.rows = [] ∧
      ((run (step plainRoster) oneSheet readTooLate).items.get? 1).map ParseBatchItem.status = some .matched ∧
      (run (step plainRoster) oneSheet readTooLate).db.responses.rows = [responseRow 1 1 0 1] := by
  decide +kernel

end KnowledgeGap.Ingestion
