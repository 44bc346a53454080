import KnowledgeGap.Ingestion.Queued

namespace KnowledgeGap.Ingestion

open Relational Protocol

variable {K : Type}

section
variable [Field K] [LinearOrder K] [FloorRing K] (roster : Roster)

/-- Where a row can come from that a request leaves on file. -/
inductive Origin (s : State K) (r : Request K) : ParseBatchItem K → Prop
  | old (it : ParseBatchItem K) (stored : it ∈ s.items.rows) : Origin s r it
  | fresh (examTemplateId jobId : Nat) (path : String) (id : Nat) : Origin s r (freshItem examTemplateId jobId path id)
  | started (it : ParseBatchItem K) (stored : it ∈ s.items.rows) (queued : it.status = .queued) (now : DateTime) :
      Origin s r { it with status := .parsing, startedAt := some now }
  | parsed (db after : Db K) (it new : ParseBatchItem K) (examTemplateId : Nat) (payload : Option (Payload K))
      (warnings : List (Warning K))
      (result : persistBatchResult roster db it examTemplateId payload warnings = .ok (after, new)) :
      Origin s r (dropFile new)
  | lost (a : Attempt) (no : Nat) (it : ParseBatchItem K) (request : r = .batch (.lost no))
      (flying : s.attempt no = some a) (found : s.items.get? a.itemId = some it) : Origin s r (markFailed .fileLost it)
  | lostSync (it : ParseBatchItem K) (origin : Origin s r it) (queued : it.status = .queued) (now : DateTime) :
      Origin s r (markFailed .fileLost { it with status := .parsing, startedAt := some now })
  | crashed (it : ParseBatchItem K) (stored : it ∈ s.items.rows) (pending : it.status.terminal = false) (error : String) :
      Origin s r (markFailed (.crashed error) it)
  | givenUp (it : ParseBatchItem K) (origin : Origin s r it) (pending : it.status.terminal = false) (warning : Warning K) :
      Origin s r (giveUp warning it)
  | retried (it : ParseBatchItem K) (stored : it ∈ s.items.rows) (failed : it.status = .failed) :
      Origin s r { it with status := .queued, warnings := [], detectedName := none }
  | discarded (itemId : Nat) (it : ParseBatchItem K) (request : r = .batch (.discard itemId))
      (found : s.items.get? itemId = some it) (rejected : it.status = .unmatched ∨ it.status = .failed) :
      Origin s r { it with status := .discarded, detectedName := none, filePath := none }
  | assigned (itemId studentId : Nat) (after : Db K) (it new : ParseBatchItem K)
      (request : r = .batch (.assign itemId studentId)) (found : s.items.get? itemId = some it)
      (unmatched : it.status = .unmatched) (result : assigned s.db it studentId = some (after, new)) : Origin s r new

variable {roster}

theorem origin_giveUp {s : State K} {r : Request K} {items : Table (ParseBatchItem K)}
    (before : ∀ it ∈ items.rows, Origin roster s r it) {p : ParseBatchItem K → Bool}
    (pending : ∀ it, p it = true → it.status.terminal = false) (warning : Warning K) :
    ∀ it ∈ (items.updateWhere p (giveUp warning) (key_giveUp _)).rows, Origin roster s r it :=
  updateWhere_rows (key_giveUp _) before (fun it _ origin hit => .givenUp it origin (pending it hit) warning)

theorem origin_rewrite {s : State K} {r : Request K} {new : ParseBatchItem K} (fits : Origin roster s r new) :
    ∀ it ∈ (rewrite s.items new).rows, Origin roster s r it :=
  rewrite_rows (fun it stored _ => .old it stored) fits

theorem reconcileStaleRuntime_origin (s : State K) (r : Request K) (now : DateTime) :
    ∀ it ∈ (reconcileStaleRuntime s now).items.rows, Origin roster s r it := by
  apply origin_giveUp (fun it stored => .old it stored)
  intro it hit
  simp only [timedOut, Bool.and_eq_true, beq_iff_eq] at hit
  rw [hit.1]
  rfl

theorem tidyJob_origin {s : State K} {r : Request K} {t : State K} (before : ∀ it ∈ t.items.rows, Origin roster s r it)
    (jobId : Nat) : ∀ it ∈ (tidyJob t jobId).items.rows, Origin roster s r it := by
  unfold tidyJob
  dsimp only
  split
  · exact before
  · split
    · exact before
    · split
      · exact before
      · split
        · apply origin_giveUp before
          intro it hit
          simpa using (Bool.and_eq_true_iff.mp hit).2
        · exact before

theorem getBatchJob_origin (s : State K) (r : Request K) (jobId : Nat) (now : DateTime) :
    ∀ it ∈ (getBatchJob s jobId now).1.items.rows, Origin roster s r it := by
  unfold getBatchJob
  split
  · exact fun it stored => .old it stored
  · exact tidyJob_origin (reconcileStaleRuntime_origin s r now) jobId

theorem restart_origin (s : State K) (r : Request K) : ∀ it ∈ (restart s).items.rows, Origin roster s r it := by
  unfold restart reconcileStale
  dsimp only
  split
  · exact fun it stored => .old it stored
  · apply origin_giveUp (fun it stored => .old it stored)
    intro it hit
    simpa using (Bool.and_eq_true_iff.mp hit).2

theorem upload_origin (s : State K) (r : Request K) (examTemplateId : Nat) (paths : List String) :
    ∀ it ∈ (upload s examTemplateId paths).items.rows, Origin roster s r it := by
  intro it stored
  rw [upload, Table.rows_insertAll, List.mem_append] at stored
  rcases stored with old | new
  · exact .old it old
  · obtain ⟨n, inside, rfl⟩ := List.mem_mapIdx.mp new
    exact .fresh ..

theorem runItemSync_origin {s t t' : State K} {r : Request K} {itemId : Nat} {now : DateTime} {reading : Reading K}
    (before : ∀ it ∈ t.items.rows, Origin roster s r it) (done : runItemSync roster t itemId now reading = some t') :
    ∀ it ∈ t'.items.rows, Origin roster s r it := by
  unfold runItemSync at done
  split at done
  · cases done
    exact before
  · rename_i item found
    split at done
    · cases done
      exact before
    · rename_i queued
      dsimp only at done
      split at done
      · cases done
        apply rewrite_rows (fun it stored _ => before it stored)
        exact .lostSync item (before item (Table.get?_mem found)) (not_not.mp queued) now
      · split at done
        · cases done
        · rename_i result
          cases done
          exact rewrite_rows (fun it stored _ => before it stored) (.parsed _ _ _ _ _ _ _ result)

theorem runItemsSync_origin {s : State K} {r : Request K} {now : DateTime} (readings : List (Reading K)) {t t' : State K}
    {itemId : Nat} (before : ∀ it ∈ t.items.rows, Origin roster s r it)
    (done : runItemsSync roster now t itemId readings = some t') : ∀ it ∈ t'.items.rows, Origin roster s r it := by
  induction readings generalizing t itemId with
  | nil =>
    cases done
    exact before
  | cons reading readings ih =>
    rw [runItemsSync, Option.bind_eq_some_iff] at done
    obtain ⟨between, first, rest⟩ := done
    exact ih (runItemSync_origin before first) rest

theorem retryItem_origin (s : State K) (r : Request K) (itemId : Nat) (fileExists : Bool) :
    ∀ it ∈ (retryItem s itemId fileExists).items.rows, Origin roster s r it := by
  cases accepted : retried s itemId fileExists with
  | false =>
    rw [retryItem_refused accepted]
    exact fun it stored => .old it stored
  | true =>
    obtain ⟨item, found, failed, items, _⟩ := retryItem_accepted accepted
    rw [items]
    exact origin_rewrite (.retried item (Table.get?_mem found) failed)

theorem step_origin (s : State K) (e : Event K) :
    ∀ it ∈ (step roster s e).items.rows, Origin roster s (.batch e) it := by
  have same : ∀ it ∈ s.items.rows, Origin roster s (.batch e) it := fun it stored => .old it stored
  cases e with
  | upload examTemplateId paths => exact upload_origin s _ examTemplateId paths
  | watchdog now => exact reconcileStaleRuntime_origin s _ now
  | retry itemId fileExists => exact retryItem_origin s _ itemId fileExists
  | start itemId now =>
    dsimp only [step]
    unfold start
    split
    · exact same
    · rename_i item found
      split
      · exact same
      · rename_i queued
        exact origin_rewrite (.started item (Table.get?_mem found) (not_not.mp queued) now)
  | complete no payload warnings =>
    dsimp only [step]
    unfold complete
    split
    · exact same
    · split
      · exact same
      · split
        · exact same
        · rename_i result
          exact origin_rewrite (.parsed _ _ _ _ _ _ _ result)
  | lost no =>
    dsimp only [step]
    unfold lost
    split
    · exact same
    · rename_i a flying
      dsimp only
      split
      · exact same
      · rename_i item found
        exact origin_rewrite (.lost a no item rfl flying found)
  | crash no error =>
    dsimp only [step]
    unfold crash
    split
    · exact same
    · split
      · exact same
      · rename_i item found
        dsimp only
        split
        · exact same
        · rename_i pending
          exact origin_rewrite (.crashed item (Table.get?_mem found) (Bool.eq_false_of_not_eq_true pending) error)
  | discard itemId =>
    dsimp only [step]
    unfold discardItem
    split
    · exact same
    · rename_i item found
      split
      · exact same
      · rename_i rejected
        have waits : item.status = .unmatched ∨ item.status = .failed := by
          by_contra neither
          exact rejected (not_or.mp neither)
        exact origin_rewrite (.discarded itemId item rfl found waits)
  | assign itemId studentId =>
    dsimp only [step]
    unfold assignItem
    split
    · exact same
    · rename_i item found
      split
      · exact same
      · rename_i unmatched
        split
        · exact same
        · rename_i result
          exact origin_rewrite (.assigned itemId studentId _ item _ rfl found (not_not.mp unmatched) result)

theorem serve_origin (s : State K) (r : Request K) : ∀ it ∈ (serve roster s r).items.rows, Origin roster s r it := by
  have same : ∀ it ∈ s.items.rows, Origin roster s r it := fun it stored => .old it stored
  cases r with
  | batch e => exact step_origin s e
  | elsewhere => exact same
  | poll jobId now => exact getBatchJob_origin s _ jobId now
  | restart => exact restart_origin s _
  | uploadSync examTemplateId sheets now =>
    dsimp only [serve]
    unfold uploadSync
    cases done : runItemsSync roster now (upload s examTemplateId (sheets.map Prod.fst)) s.items.nextId (sheets.map Prod.snd) with
    | none => exact same
    | some t => exact runItemsSync_origin _ (upload_origin s _ _ _) done
  | retrySync itemId fileExists reading now =>
    dsimp only [serve]
    unfold retrySync
    split
    · cases done : runItemSync roster (retryItem s itemId fileExists) itemId now reading with
      | none => exact same
      | some t => exact runItemSync_origin (retryItem_origin s _ itemId fileExists) done
    · exact same

end

/-- Only a sheet that waits for its student keeps a name and what was read off it. -/
def NameKept (it : ParseBatchItem K) : Prop :=
  it.status ≠ .unmatched → it.detectedName = none ∧ it.payload = none

/-- A sheet that waits for its student can still be assigned without another reading. -/
def SheetKept (it : ParseBatchItem K) : Prop := it.status = .unmatched → it.payload.isSome = true

/-- `assign_item` raises nothing. -/
def assignable (db : Db K) (it : ParseBatchItem K) (studentId : Nat) : Bool :=
  it.status == .unmatched &&
    match it.payload, db.templates.get? it.examTemplateId, db.students.get? studentId with
    | some payload, some template, some student =>
      !payload.answers.isEmpty && student.classId == template.classId && (assertExamStudent db template studentId).isOk
    | _, _, _ => false

/-- Nothing is assigned by hand, no unmatched sheet is discarded, and no worker misses the file of an unmatched one. -/
def discreet (s : State K) : Request K → Bool
  | .batch (.assign itemId studentId) => (s.items.get? itemId).all (fun it => !assignable s.db it studentId)
  | .batch (.discard itemId) => (s.items.get? itemId).all (fun it => it.status != .unmatched)
  | .batch (.lost no) =>
    (s.attempt no).all (fun a => (s.items.get? a.itemId).all (fun it => it.status != .unmatched))
  | _ => true

theorem NameKept.of_pending {it : ParseBatchItem K} (kept : NameKept it) (pending : it.status.terminal = false) :
    it.detectedName = none ∧ it.payload = none := by
  apply kept
  intro unmatched
  simp [unmatched, ItemStatus.terminal] at pending

theorem dropFile_sheet (it : ParseBatchItem K) :
    (dropFile it).detectedName = it.detectedName ∧ (dropFile it).payload = it.payload := by
  unfold dropFile
  split <;> exact ⟨rfl, rfl⟩

theorem dropFile_kept {it : ParseBatchItem K} (kept : NameKept it ∧ SheetKept it) :
    NameKept (dropFile it) ∧ SheetKept (dropFile it) := by
  obtain ⟨name, sheet⟩ := dropFile_sheet it
  unfold NameKept SheetKept
  rw [(dropFile_settled it).2, name, sheet]
  exact kept

section
variable [Field K] [LinearOrder K] [FloorRing K] {roster : Roster}

theorem persistBatchResult_kept {db after : Db K} {it new : ParseBatchItem K} {examTemplateId : Nat}
    {payload : Option (Payload K)} {warnings : List (Warning K)}
    (result : persistBatchResult roster db it examTemplateId payload warnings = .ok (after, new)) :
    NameKept new ∧ SheetKept new := by
  cases persistBatchResult_persisted roster result with
  | failed => exact ⟨fun _ => ⟨rfl, rfl⟩, by simp [SheetKept]⟩
  | unmatched => exact ⟨fun waits => absurd rfl waits, fun _ => rfl⟩
  | matched => exact ⟨fun _ => ⟨rfl, rfl⟩, by simp [SheetKept]⟩
  | duplicate => exact ⟨fun _ => ⟨rfl, rfl⟩, by simp [SheetKept]⟩

/-- An assignment that goes through leaves the sheet it was made from on the row. -/
theorem assigned_sheet {db after : Db K} {it new : ParseBatchItem K} {studentId : Nat}
    (result : assigned db it studentId = some (after, new)) :
    new.payload = it.payload ∧ it.payload.isSome = true ∧ new.status ≠ .unmatched := by
  cases assigned_cases result with
  | matched _ _ _ _ _ _ read => exact ⟨rfl, by rw [read]; rfl, by simp⟩
  | duplicate _ _ _ read => exact ⟨rfl, by rw [read]; rfl, by simp⟩

theorem assigned_iff (db : Db K) (it : ParseBatchItem K) (studentId : Nat) (unmatched : it.status = .unmatched) :
    (assigned db it studentId).isSome = assignable db it studentId := by
  unfold assigned assignable
  rw [unmatched]
  cases sheet : it.payload with
  | none => rfl
  | some payload =>
    cases stored : db.templates.get? it.examTemplateId with
    | none => rfl
    | some template =>
      cases known : db.students.get? studentId with
      | none => rfl
      | some student =>
        by_cases refused : payload.answers = [] ∨ student.classId ≠ template.classId
        · simp only [if_pos refused]
          rcases refused with nothing | elsewhere
          · simp [nothing]
          · simp [elsewhere]
        · simp only [if_neg refused]
          rw [not_or, not_not] at refused
          unfold persistResponseFromPayload
          cases scope : assertExamStudent db template studentId with
          | error e => simp [Except.isOk, Except.toBool]
          | ok _ =>
            by_cases before : (answered db template.id studentId).isSome = true
            · simp [before, refused, Except.isOk, Except.toBool]
            · simp [before, refused, Except.isOk, Except.toBool]

theorem Origin.sheetKept {s : State K} {r : Request K} {x : ParseBatchItem K} (origin : Origin roster s r x)
    (before : ∀ it ∈ s.items.rows, SheetKept it) : SheetKept x := by
  cases origin with
  | old _ stored => exact before x stored
  | parsed _ _ _ _ _ _ _ result => exact (dropFile_kept (persistBatchResult_kept result)).2
  | assigned _ _ _ _ _ _ _ _ result => exact fun unmatched => absurd unmatched (assigned_sheet result).2.2
  | fresh | started | lost | lostSync | crashed | givenUp | retried | discarded => intro unmatched; cases unmatched

theorem Origin.nameKept {s : State K} {r : Request K} {x : ParseBatchItem K} (origin : Origin roster s r x)
    (before : ∀ it ∈ s.items.rows, NameKept it) (allowed : discreet s r = true) : NameKept x := by
  induction origin with
  | old it stored => exact before it stored
  | fresh => exact fun _ => ⟨rfl, rfl⟩
  | parsed _ _ _ _ _ _ _ result => exact (dropFile_kept (persistBatchResult_kept result)).1
  | started it stored queued =>
    exact fun _ => before it stored (by simp [queued])
  | lost a no it request flying found =>
    simp only [request, discreet, flying, found, Option.all_some, bne_iff_ne] at allowed
    exact fun _ => ⟨rfl, (before it (Table.get?_mem found) allowed).2⟩
  | lostSync it _ queued _ kept => exact fun _ => ⟨rfl, (kept (by simp [queued])).2⟩
  | crashed it stored pending => exact fun _ => ⟨rfl, ((before it stored).of_pending pending).2⟩
  | givenUp it _ pending _ kept => exact fun _ => kept.of_pending pending
  | retried it stored failed => exact fun _ => ⟨rfl, (before it stored (by simp [failed])).2⟩
  | discarded itemId it request found =>
    simp only [request, discreet, found, Option.all_some, bne_iff_ne] at allowed
    exact fun _ => ⟨rfl, (before it (Table.get?_mem found) allowed).2⟩
  | assigned itemId studentId _ it _ request found unmatched result =>
    simp only [request, discreet, found, Option.all_some, ← assigned_iff s.db it studentId unmatched, result] at allowed
    cases allowed

/-- A request that is not discreet leaves the sheet of a settled item on file. -/
theorem indiscreet (roster : Roster) {s : State K} {r : Request K} (before : ∀ it ∈ s.items.rows, SheetKept it)
    (careless : discreet s r = false) : ∃ it ∈ (serve roster s r).items.rows, ¬ NameKept it := by
  have exposed : ∀ {items : Table (ParseBatchItem K)} {it new : ParseBatchItem K}, items.get? new.id = some it →
      new.payload.isSome = true → new.status ≠ .unmatched → ∃ x ∈ (rewrite items new).rows, ¬ NameKept x := by
    intro items it new found sheet settled
    refine ⟨new, Table.get?_mem (get?_rewrite_self found), ?_⟩
    intro kept
    rw [(kept settled).2] at sheet
    cases sheet
  cases r with
  | batch e =>
    cases e with
    | assign itemId studentId =>
      cases found : s.items.get? itemId with
      | none => simp [discreet, found] at careless
      | some it =>
        simp only [discreet, found, Option.all_some, Bool.not_eq_false'] at careless
        have unmatched : it.status = .unmatched := by
          unfold assignable at careless
          simpa using (Bool.and_eq_true_iff.mp careless).1
        rw [← assigned_iff s.db it studentId unmatched, Option.isSome_iff_exists] at careless
        obtain ⟨⟨db, new⟩, result⟩ := careless
        obtain ⟨sheet, read, settled⟩ := assigned_sheet result
        have key : new.id = itemId := (assigned_outcome result).key.trans (Table.get?_key found)
        dsimp only [serve, step]
        unfold assignItem
        simp only [found, unmatched, ne_eq, not_true_eq_false, if_false, result]
        exact exposed (key ▸ found) (sheet ▸ read) settled
    | discard itemId =>
      cases found : s.items.get? itemId with
      | none => simp [discreet, found] at careless
      | some it =>
        have unmatched : it.status = .unmatched := by simpa [discreet, found] using careless
        dsimp only [serve, step]
        unfold discardItem
        simp only [found, unmatched, ne_eq, not_true_eq_false, false_and, if_false]
        exact exposed (get?_self found).2 (before it (Table.get?_mem found) unmatched) (by simp)
    | lost no =>
      cases flying : s.attempt no with
      | none => simp [discreet, flying] at careless
      | some a =>
        cases found : s.items.get? a.itemId with
        | none => simp [discreet, flying, found] at careless
        | some it =>
          have unmatched : it.status = .unmatched := by simpa [discreet, flying, found] using careless
          dsimp only [serve, step]
          unfold lost
          simp only [flying, found]
          exact exposed (get?_self found).2 (before it (Table.get?_mem found) unmatched) (by simp [markFailed])
    | upload | start | complete | crash | watchdog | retry => cases careless
  | uploadSync | retrySync | poll | restart | elsewhere => cases careless

theorem serve_sheetKept {s : State K} (r : Request K) (before : ∀ it ∈ s.items.rows, SheetKept it) :
    ∀ it ∈ (serve roster s r).items.rows, SheetKept it :=
  fun it stored => (serve_origin s r it stored).sheetKept before

theorem serve_nameKept_iff {s : State K} (r : Request K) (sheets : ∀ it ∈ s.items.rows, SheetKept it)
    (names : ∀ it ∈ s.items.rows, NameKept it) :
    (∀ it ∈ (serve roster s r).items.rows, NameKept it) ↔ discreet s r = true := by
  constructor
  · intro after
    by_contra careless
    obtain ⟨it, stored, exposed⟩ := indiscreet roster sheets (Bool.eq_false_of_not_eq_true careless)
    exact exposed (after it stored)
  · intro allowed it stored
    exact (serve_origin s r it stored).nameKept names allowed

/-- A run never leaves a name or a sheet on a settled item exactly when all its requests are discreet. -/
theorem names_kept_iff {s : State K} (empty : s.items.rows = []) (requests : List (Request K)) :
    (∀ first rest, requests = first ++ rest → ∀ it ∈ (run (serve roster) s first).items.rows,
      it.status ≠ .unmatched → it.detectedName = none ∧ it.payload = none) ↔
      Along (serve roster) (fun s r => discreet s r = true) s requests := by
  have base : ∀ (s : State K) (r : Request K), (∀ it ∈ s.items.rows, SheetKept it) →
      ∀ it ∈ (serve roster s r).items.rows, SheetKept it := fun _ r before => serve_sheetKept r before
  have exact_ : ∀ (s : State K) (r : Request K), (∀ it ∈ s.items.rows, SheetKept it) → (∀ it ∈ s.items.rows, NameKept it) →
      ((∀ it ∈ (serve roster s r).items.rows, NameKept it) ↔ discreet s r = true) :=
    fun _ r sheets names => serve_nameKept_iff r sheets names
  apply along_iff_kept base exact_
  · simp [empty]
  · simp [empty]

end

/-- A sheet that names nobody of the class. -/
def sheetOfNobody : Payload ℚ := ⟨some "乙", [some ⟨some 1, some 3, none⟩]⟩

def leftWaiting : List (Request ℚ) :=
  [.batch (.upload 1 ["sc_batch_1"]), .batch (.start 1 0), .batch (.complete 0 (some sheetOfNobody) [])]

theorem names_kept_while_waiting :
    Along (serve plainRoster) (fun s r => discreet s r = true) noSheet leftWaiting ∧
      ∀ it ∈ (run (serve plainRoster) noSheet leftWaiting).items.rows,
        it.status ≠ .unmatched → it.detectedName = none ∧ it.payload = none := by
  have along : Along (serve plainRoster) (fun s r => discreet s r = true) noSheet leftWaiting := by
    decide +kernel
  exact ⟨along, (names_kept_iff rfl leftWaiting).mpr along leftWaiting [] rfl⟩

theorem settled_sheet_kept :
    (∃ it ∈ (run (serve plainRoster) noSheet (leftWaiting ++ [.batch (.discard 1)])).items.rows,
      it.status = .discarded ∧ it.payload = some sheetOfNobody) ∧
    ∃ it ∈ (run (serve plainRoster) noSheet (leftWaiting ++ [.batch (.assign 1 1)])).items.rows,
      it.status = .matched ∧ it.payload = some sheetOfNobody := by
  decide +kernel

end KnowledgeGap.Ingestion
