import KnowledgeGap.Ingestion.Service

namespace KnowledgeGap.Ingestion

open Relational Protocol

variable {K : Type}

theorem rewrite_rows {P : ParseBatchItem K → Prop} {items : Table (ParseBatchItem K)} {new : ParseBatchItem K}
    (others : ∀ it ∈ items.rows, it.id ≠ new.id → P it) (fits : P new) : ∀ it ∈ (rewrite items new).rows, P it := by
  intro x stored
  rw [rewrite, Table.rows_modify, List.mem_map] at stored
  obtain ⟨it, before, rfl⟩ := stored
  by_cases here : Keyed.key it = new.id
  · have same : new.write it = new := by
      rw [ParseBatchItem.write, show it.id = new.id from here]
    simpa [here, same] using fits
  · simpa [here] using others it before here

theorem updateWhere_rows {P : ParseBatchItem K → Prop} {items : Table (ParseBatchItem K)} {p : ParseBatchItem K → Bool}
    {f : ParseBatchItem K → ParseBatchItem K} (keeps : ∀ it, Keyed.key (f it) = Keyed.key it)
    (held : ∀ it ∈ items.rows, P it) (fits : ∀ it ∈ items.rows, P it → p it = true → P (f it)) :
    ∀ it ∈ (items.updateWhere p f keeps).rows, P it := by
  intro x stored
  rw [Table.rows_updateWhere, List.mem_map] at stored
  obtain ⟨it, before, rfl⟩ := stored
  split
  · rename_i hit
    exact fits it before (held it before) hit
  · exact held it before

/-- The item's job is on file, and open as long as the item is. -/
def Tracked (jobs : Table ParseJob) (it : ParseBatchItem K) : Prop :=
  ∃ job, jobs.get? it.parseJobId = some job ∧ (it.status.terminal = true ∨ job.status = .running)

def Consistent (items : Table (ParseBatchItem K)) (jobs : Table ParseJob) : Prop :=
  ∀ it ∈ items.rows, Tracked jobs it

/-- A row that is settled now may replace any row of the same job. -/
theorem Tracked.settle {jobs : Table ParseJob} {it new : ParseBatchItem K} (tracked : Tracked jobs it)
    (job : new.parseJobId = it.parseJobId) (settled : new.status.terminal = true) : Tracked jobs new := by
  obtain ⟨known, found, _⟩ := tracked
  exact ⟨known, job ▸ found, Or.inl settled⟩

theorem Tracked.setJobRunning {jobs : Table ParseJob} {it : ParseBatchItem K} (tracked : Tracked jobs it) (jobId : Nat) :
    Tracked (setJobRunning jobs jobId) it := by
  obtain ⟨job, found, state⟩ := tracked
  unfold Tracked Ingestion.setJobRunning Table.modify
  rw [Table.get?_updateWhere, found, Option.map_some]
  refine ⟨_, rfl, ?_⟩
  split
  · exact Or.inr rfl
  · exact state

theorem setJobRunning_get? {jobs : Table ParseJob} {jobId : Nat} {job : ParseJob} (filed : jobs.get? jobId = some job) :
    ∃ running, (setJobRunning jobs jobId).get? jobId = some running ∧ running.status = .running := by
  have key : Keyed.key job = jobId := Table.get?_key filed
  unfold setJobRunning Table.modify
  rw [Table.get?_updateWhere, filed, Option.map_some, if_pos (by simpa using key)]
  exact ⟨_, rfl, rfl⟩

theorem Consistent.setJobRunning {items : Table (ParseBatchItem K)} {jobs : Table ParseJob}
    (consistent : Consistent items jobs) (jobId : Nat) : Consistent items (setJobRunning jobs jobId) :=
  fun it stored => (consistent it stored).setJobRunning jobId

/-- A job is closed only over settled items. -/
theorem Consistent.close {items : Table (ParseBatchItem K)} {jobs : Table ParseJob} (consistent : Consistent items jobs)
    {jobId : Nat} (settled : (items.select (fun it => it.parseJobId == jobId)).all (fun it => it.status.terminal) = true) :
    Consistent items (jobs.modify jobId (ParseJob.withStatus .done) (key_withStatus _)) := by
  intro it stored
  obtain ⟨job, found, state⟩ := consistent it stored
  have key : Keyed.key job = it.parseJobId := Table.get?_key found
  unfold Tracked Table.modify
  rw [Table.get?_updateWhere, found, Option.map_some]
  refine ⟨_, rfl, ?_⟩
  split
  · rename_i here
    left
    rw [List.all_eq_true] at settled
    apply settled it
    rw [Table.select, List.mem_filter]
    exact ⟨stored, by simpa [key] using here⟩
  · exact state

theorem Consistent.finalizeJob {items : Table (ParseBatchItem K)} {jobs : Table ParseJob}
    (consistent : Consistent items jobs) (jobId : Nat) : Consistent items (finalizeJob items jobs jobId) := by
  unfold Ingestion.finalizeJob
  dsimp only
  split
  · rename_i settled
    exact consistent.close (Bool.and_eq_true_iff.mp settled).2
  · exact consistent

theorem Consistent.finalizeJobs {items : Table (ParseBatchItem K)} (jobIds : List Nat) {jobs : Table ParseJob}
    (consistent : Consistent items jobs) : Consistent items (jobIds.foldl (Ingestion.finalizeJob items) jobs) := by
  induction jobIds generalizing jobs with
  | nil => exact consistent
  | cons jobId jobIds ih => exact ih (consistent.finalizeJob jobId)

theorem Consistent.settle {items : Table (ParseBatchItem K)} {jobs : Table ParseJob} (consistent : Consistent items jobs)
    {it new : ParseBatchItem K} (stored : it ∈ items.rows) (job : new.parseJobId = it.parseJobId)
    (settled : new.status.terminal = true) : Consistent (rewrite items new) jobs :=
  rewrite_rows (fun other kept _ => consistent other kept) ((consistent it stored).settle job settled)

theorem Consistent.giveUp {items : Table (ParseBatchItem K)} {jobs : Table ParseJob} (consistent : Consistent items jobs)
    (p : ParseBatchItem K → Bool) (warning : Warning K) :
    Consistent (items.updateWhere p (giveUp warning) (key_giveUp _)) jobs :=
  updateWhere_rows (key_giveUp _) consistent (fun _ _ tracked _ => tracked.settle rfl rfl)

theorem reconcileStaleRuntime_consistent {s : State K} (consistent : Consistent s.items s.jobs) (now : DateTime) :
    Consistent (reconcileStaleRuntime s now).items (reconcileStaleRuntime s now).jobs :=
  (consistent.giveUp (timedOut now) .timedOut).finalizeJobs _

theorem tidyJob_consistent {s : State K} (consistent : Consistent s.items s.jobs) (jobId : Nat) :
    Consistent (tidyJob s jobId).items (tidyJob s jobId).jobs := by
  unfold tidyJob
  dsimp only
  split
  · exact consistent
  · split
    · exact consistent
    · split
      · rename_i settled
        exact consistent.close settled
      · split
        · exact consistent.giveUp _ _
        · exact consistent

theorem getBatchJob_consistent {s : State K} (consistent : Consistent s.items s.jobs) (jobId : Nat) (now : DateTime) :
    Consistent (getBatchJob s jobId now).1.items (getBatchJob s jobId now).1.jobs := by
  unfold getBatchJob
  split
  · exact consistent
  · exact tidyJob_consistent (reconcileStaleRuntime_consistent consistent now) jobId

theorem upload_consistent {s : State K} (consistent : Consistent s.items s.jobs) (examTemplateId : Nat) (paths : List String) :
    Consistent (upload s examTemplateId paths).items (upload s examTemplateId paths).jobs := by
  intro it stored
  rw [upload, Table.rows_insertAll, List.mem_append] at stored
  unfold Tracked upload
  rw [Table.get?_insert]
  rcases stored with old | new
  · obtain ⟨job, found, state⟩ := consistent it old
    split
    · exact ⟨_, rfl, Or.inr rfl⟩
    · exact ⟨job, found, state⟩
  · obtain ⟨n, inside, rfl⟩ := List.mem_mapIdx.mp new
    exact ⟨_, if_pos rfl, Or.inr rfl⟩

/-- Whatever its job was before, the item a worker takes up has an open one from then on. -/
theorem start_consistent {s : State K} {itemId : Nat} {item : ParseBatchItem K} (now : DateTime)
    (found : s.items.get? itemId = some item) (queued : item.status = .queued)
    (known : ∃ job, s.jobs.get? item.parseJobId = some job)
    (others : ∀ it ∈ s.items.rows, it.id ≠ itemId → Tracked s.jobs it) :
    Consistent (start s itemId now).items (start s itemId now).jobs := by
  have key : item.id = itemId := Table.get?_key found
  unfold start
  rw [found]
  dsimp only
  rw [if_neg (not_not.mpr queued)]
  apply rewrite_rows
  · intro it stored other
    exact (others it stored (fun same => other (same.trans key.symm))).setJobRunning _
  · obtain ⟨job, filed⟩ := known
    obtain ⟨running, after, state⟩ := setJobRunning_get? filed
    exact ⟨running, after, Or.inr state⟩

theorem start_idle {s : State K} {itemId : Nat} {now : DateTime}
    (idle : ¬ ∃ item, s.items.get? itemId = some item ∧ item.status = .queued) : start s itemId now = s := by
  unfold start
  split
  · rfl
  · rename_i item found
    exact if_pos (fun queued => idle ⟨item, found, queued⟩)

theorem lost_consistent {s : State K} (consistent : Consistent s.items s.jobs) (no : Nat) :
    Consistent (lost s no).items (lost s no).jobs := by
  unfold lost
  split
  · exact consistent
  · dsimp only
    split
    · exact consistent.finalizeJob _
    · rename_i item found
      have failed : Consistent (rewrite s.items (markFailed .fileLost item)) s.jobs :=
        consistent.settle (Table.get?_mem found) rfl rfl
      exact failed.finalizeJob _

theorem crash_consistent {s : State K} (consistent : Consistent s.items s.jobs) (no : Nat) (error : String) :
    Consistent (crash s no error).items (crash s no error).jobs := by
  unfold crash
  split
  · exact consistent
  · split
    · exact consistent
    · rename_i item found
      dsimp only
      split
      · exact consistent.finalizeJob _
      · have failed : Consistent (rewrite s.items (markFailed (.crashed error) item)) s.jobs :=
          consistent.settle (Table.get?_mem found) rfl rfl
        exact failed.finalizeJob _

/-- The row that `retry_item` puts back waits for an open job. -/
def jobOpen (s : State K) (itemId : Nat) : Bool :=
  (s.items.get? itemId).all (fun it => (s.jobs.get? it.parseJobId).all (fun job => job.status == .running))

theorem retryItem_accepted {s : State K} {itemId : Nat} {fileExists : Bool} (accepted : retried s itemId fileExists = true) :
    ∃ item, s.items.get? itemId = some item ∧ item.status = .failed ∧
      (retryItem s itemId fileExists).items =
        rewrite s.items { item with status := .queued, warnings := [], detectedName := none } ∧
      (retryItem s itemId fileExists).jobs = s.jobs := by
  unfold retried at accepted
  cases found : s.items.get? itemId with
  | none => simp [found] at accepted
  | some item =>
    simp only [found, Option.any_some, Bool.and_eq_true, beq_iff_eq, Bool.not_eq_true', Bool.eq_false_iff] at accepted
    obtain ⟨⟨failed, path⟩, stored⟩ := accepted
    refine ⟨item, rfl, failed, ?_⟩
    simp [retryItem, found, failed, path, stored]

theorem retryItem_refused {s : State K} {itemId : Nat} {fileExists : Bool} (refused : retried s itemId fileExists = false) :
    retryItem s itemId fileExists = s := by
  unfold retryItem
  split
  · rfl
  · rename_i item found
    split
    · rfl
    · rename_i failed
      split
      · rfl
      · rename_i file
        rw [not_or] at file
        simp [retried, found, not_not.mp failed, file] at refused

theorem retryItem_consistent {s : State K} (consistent : Consistent s.items s.jobs) {itemId : Nat} {fileExists : Bool}
    (orderly : retried s itemId fileExists = true → jobOpen s itemId = true) :
    Consistent (retryItem s itemId fileExists).items (retryItem s itemId fileExists).jobs := by
  cases accepted : retried s itemId fileExists with
  | false =>
    rw [retryItem_refused accepted]
    exact consistent
  | true =>
    obtain ⟨item, found, _, items, jobs⟩ := retryItem_accepted accepted
    rw [items, jobs]
    apply rewrite_rows (fun other kept _ => consistent other kept)
    obtain ⟨job, filed, _⟩ := consistent item (Table.get?_mem found)
    have state := orderly accepted
    simp only [jobOpen, found, filed, Option.all_some, beq_iff_eq] at state
    exact ⟨job, filed, Or.inr state⟩

theorem discardItem_consistent {s : State K} (consistent : Consistent s.items s.jobs) (itemId : Nat) :
    Consistent (discardItem s itemId).items (discardItem s itemId).jobs := by
  unfold discardItem
  split
  · exact consistent
  · rename_i item found
    split
    · exact consistent
    · exact consistent.settle (Table.get?_mem found) rfl rfl

section
variable [Field K] [LinearOrder K] [FloorRing K] (roster : Roster)

/-- A worker's result settles its item and leaves it with its job. -/
theorem persistBatchResult_settled {db after : Db K} {it new : ParseBatchItem K} {examTemplateId : Nat}
    {payload : Option (Payload K)} {warnings : List (Warning K)}
    (result : persistBatchResult roster db it examTemplateId payload warnings = .ok (after, new)) :
    new.parseJobId = it.parseJobId ∧ new.status.terminal = true := by
  cases persistBatchResult_persisted roster result <;> exact ⟨rfl, rfl⟩

theorem assigned_settled {db after : Db K} {it new : ParseBatchItem K} {studentId : Nat}
    (result : assigned db it studentId = some (after, new)) :
    new.parseJobId = it.parseJobId ∧ new.status.terminal = true := by
  cases assigned_cases result <;> exact ⟨rfl, rfl⟩

omit [Field K] [LinearOrder K] [FloorRing K] in
theorem dropFile_settled (it : ParseBatchItem K) :
    (dropFile it).parseJobId = it.parseJobId ∧ (dropFile it).status = it.status := by
  unfold dropFile
  split <;> exact ⟨rfl, rfl⟩

theorem complete_consistent {s : State K} (consistent : Consistent s.items s.jobs) (no : Nat)
    (payload : Option (Payload K)) (warnings : List (Warning K)) :
    Consistent (complete roster s no payload warnings).items (complete roster s no payload warnings).jobs := by
  unfold complete
  split
  · exact consistent
  · split
    · exact consistent.finalizeJob _
    · rename_i item found
      split
      · exact consistent
      · rename_i db new result
        obtain ⟨job, settled⟩ := persistBatchResult_settled roster result
        obtain ⟨sameJob, sameStatus⟩ := dropFile_settled new
        rw [← sameStatus] at settled
        exact (consistent.settle (Table.get?_mem found) (sameJob.trans job) settled).finalizeJob _

theorem assignItem_consistent {s : State K} (consistent : Consistent s.items s.jobs) (itemId studentId : Nat) :
    Consistent (assignItem s itemId studentId).items (assignItem s itemId studentId).jobs := by
  unfold assignItem
  split
  · exact consistent
  · rename_i item found
    split
    · exact consistent
    · split
      · exact consistent
      · rename_i db new result
        obtain ⟨job, settled⟩ := assigned_settled result
        exact consistent.settle (Table.get?_mem found) job settled

/-- What a reading in the request's own session writes: the one row, settled, and its job. -/
theorem runItemSync_writes {s s' : State K} {itemId : Nat} {now : DateTime} {reading : Reading K}
    (done : runItemSync roster s itemId now reading = some s') :
    (s' = s ∧ ∀ item, s.items.get? itemId = some item → item.status ≠ .queued) ∨
    ∃ item new, s.items.get? itemId = some item ∧ item.status = .queued ∧ new.id = itemId ∧
      new.parseJobId = item.parseJobId ∧ new.status.terminal = true ∧ s'.items = rewrite s.items new ∧
      s'.jobs = finalizeJob s'.items (setJobRunning s.jobs item.parseJobId) item.parseJobId := by
  unfold runItemSync at done
  split at done
  · rename_i absent
    simp [absent, (Option.some.inj done).symm]
  · rename_i item found
    have key : item.id = itemId := Table.get?_key found
    split at done
    · rename_i other
      simp [found, other, (Option.some.inj done).symm]
    · rename_i queued
      right
      dsimp only at done
      split at done
      · cases done
        exact ⟨item, markFailed .fileLost { item with status := .parsing, startedAt := some now }, found,
          not_not.mp queued, key, rfl, rfl, rfl, rfl⟩
      · split at done
        · cases done
        · rename_i db new result
          cases done
          obtain ⟨job, settled⟩ := persistBatchResult_settled roster result
          obtain ⟨sameJob, sameStatus⟩ := dropFile_settled new
          have sameKey := (persistBatchResult_outcome roster result).dropFile.key
          rw [← sameStatus] at settled
          exact ⟨item, _, found, not_not.mp queued, sameKey.trans key, sameJob.trans job, settled, rfl, rfl⟩

theorem runItemSync_consistent {s s' : State K} {itemId : Nat} {now : DateTime} {reading : Reading K}
    (done : runItemSync roster s itemId now reading = some s')
    (others : ∀ it ∈ s.items.rows, it.id ≠ itemId → Tracked s.jobs it)
    (own : ∀ it, s.items.get? itemId = some it →
      (∃ job, s.jobs.get? it.parseJobId = some job) ∧ (it.status ≠ .queued → Tracked s.jobs it)) :
    Consistent s'.items s'.jobs := by
  rcases runItemSync_writes roster done with ⟨same, idle⟩ | ⟨item, new, found, _, key, job, settled, items, jobs⟩
  · rw [same]
    intro it stored
    by_cases here : it.id = itemId
    · have found : s.items.get? itemId = some it := here ▸ Table.get?_of_mem stored
      exact (own it found).2 (idle it found)
    · exact others it stored here
  · rw [jobs, items]
    apply Consistent.finalizeJob
    obtain ⟨filed, known⟩ := (own item found).1
    obtain ⟨running, after, _⟩ := setJobRunning_get? known
    apply rewrite_rows
    · intro it stored other
      exact (others it stored (fun here => other (here.trans key.symm))).setJobRunning _
    · exact ⟨running, job ▸ after, Or.inl settled⟩

theorem runItemsSync_consistent {now : DateTime} (readings : List (Reading K)) {s s' : State K} {itemId : Nat}
    (done : runItemsSync roster now s itemId readings = some s') (consistent : Consistent s.items s.jobs) :
    Consistent s'.items s'.jobs := by
  induction readings generalizing s itemId with
  | nil =>
    cases done
    exact consistent
  | cons reading readings ih =>
    rw [runItemsSync, Option.bind_eq_some_iff] at done
    obtain ⟨between, first, rest⟩ := done
    apply ih rest
    apply runItemSync_consistent roster first (fun it stored _ => consistent it stored)
    intro it found
    obtain ⟨job, filed, state⟩ := consistent it (Table.get?_mem found)
    exact ⟨⟨job, filed⟩, fun _ => ⟨job, filed, state⟩⟩

theorem uploadSync_consistent {s : State K} (consistent : Consistent s.items s.jobs) (examTemplateId : Nat)
    (sheets : List (String × Reading K)) (now : DateTime) :
    Consistent (uploadSync roster s examTemplateId sheets now).items (uploadSync roster s examTemplateId sheets now).jobs := by
  unfold uploadSync
  cases done : runItemsSync roster now (upload s examTemplateId (sheets.map Prod.fst)) s.items.nextId (sheets.map Prod.snd) with
  | none => exact consistent
  | some s' => exact runItemsSync_consistent roster _ done (upload_consistent consistent _ _)

/-- A retry in the request's own session may find its job closed: the reading opens it again. -/
theorem retrySync_consistent {s : State K} (consistent : Consistent s.items s.jobs) (itemId : Nat) (fileExists : Bool)
    (reading : Reading K) (now : DateTime) :
    Consistent (retrySync roster s itemId fileExists reading now).items
      (retrySync roster s itemId fileExists reading now).jobs := by
  unfold retrySync
  split
  · rename_i accepted
    cases done : runItemSync roster (retryItem s itemId fileExists) itemId now reading with
    | none => exact consistent
    | some s' =>
      obtain ⟨item, found, failed, items, jobs⟩ := retryItem_accepted accepted
      obtain ⟨job, filed, _⟩ := consistent item (Table.get?_mem found)
      have key : item.id = itemId := Table.get?_key found
      apply runItemSync_consistent roster done
      · rw [jobs, items]
        apply rewrite_rows
        · intro it stored _ _
          exact consistent it stored
        · intro other
          exact absurd key other
      · intro it again
        subst key
        rw [items, get?_rewrite found, if_pos rfl] at again
        cases again
        rw [jobs]
        exact ⟨⟨job, filed⟩, fun waiting => absurd rfl waiting⟩
  · exact consistent

end

theorem reconcileStale_settles {s : State K} (consistent : Consistent s.items s.jobs) :
    ∀ it ∈ (reconcileStale s).items.rows, it.status.terminal = true := by
  have open_ : ∀ it ∈ s.items.rows, it.status.terminal = false →
      ∃ job ∈ s.jobs.select (fun j => j.status == .running), job.id = it.parseJobId := by
    intro it stored pending
    obtain ⟨job, filed, settled | running⟩ := consistent it stored
    · simp [pending] at settled
    · refine ⟨job, ?_, Table.get?_key filed⟩
      rw [Table.select, List.mem_filter]
      exact ⟨Table.get?_mem filed, by simpa using running⟩
  intro x stored
  unfold reconcileStale at stored
  dsimp only at stored
  split at stored
  · rename_i none
    by_contra pending
    obtain ⟨job, listed, _⟩ := open_ x stored (Bool.eq_false_of_not_eq_true pending)
    rw [List.isEmpty_iff.mp none] at listed
    cases listed
  · rw [Table.rows_updateWhere, List.mem_map] at stored
    obtain ⟨it, before, rfl⟩ := stored
    split
    · rfl
    · rename_i kept
      by_contra pending
      have unsettled := Bool.eq_false_of_not_eq_true pending
      obtain ⟨job, listed, same⟩ := open_ it before unsettled
      apply kept
      rw [unsettled, Bool.and_eq_true]
      exact ⟨List.contains_iff_mem.mpr (List.mem_map.mpr ⟨job, listed, same⟩), rfl⟩

theorem reconcileStale_consistent {s : State K} (consistent : Consistent s.items s.jobs) :
    Consistent (reconcileStale s).items (reconcileStale s).jobs := by
  have known : ∀ it ∈ (reconcileStale s).items.rows, ∃ job, (reconcileStale s).jobs.get? it.parseJobId = some job := by
    have before : ∀ it ∈ s.items.rows, ∃ job, s.jobs.get? it.parseJobId = some job := by
      intro it stored
      obtain ⟨job, filed, _⟩ := consistent it stored
      exact ⟨job, filed⟩
    unfold reconcileStale
    dsimp only
    split
    · exact before
    · have closed : ∀ it ∈ s.items.rows, ∃ job, (s.jobs.updateWhere (fun j => j.status == .running)
          (ParseJob.withStatus .done) (key_withStatus _)).get? it.parseJobId = some job := by
        intro it stored
        obtain ⟨job, filed⟩ := before it stored
        rw [Table.get?_updateWhere, filed]
        exact ⟨_, rfl⟩
      exact updateWhere_rows (key_giveUp _) closed (fun _ _ filed _ => filed)
  intro it stored
  obtain ⟨job, filed⟩ := known it stored
  exact ⟨job, filed, Or.inl (reconcileStale_settles consistent it stored)⟩

/-- No worker ends on a sheet that waits again, and a sheet is put back only while its job is open. -/
def orderly (s : State K) : Request K → Bool
  | .batch (.retry itemId fileExists) => !retried s itemId fileExists || jobOpen s itemId
  | .batch (.complete no _ _) | .batch (.lost no) | .batch (.crash no _) =>
    (s.attempt no).all (fun a => (s.items.get? a.itemId).all (fun it => it.status != .queued))
  | _ => true

section
variable [Field K] [LinearOrder K] [FloorRing K] (roster : Roster)

theorem serve_consistent {s : State K} (consistent : Consistent s.items s.jobs) (r : Request K)
    (allowed : orderly s r = true) : Consistent (serve roster s r).items (serve roster s r).jobs := by
  cases r with
  | elsewhere => exact consistent
  | restart => exact reconcileStale_consistent consistent
  | poll jobId now => exact getBatchJob_consistent consistent jobId now
  | uploadSync examTemplateId sheets now => exact uploadSync_consistent roster consistent examTemplateId sheets now
  | retrySync itemId fileExists reading now =>
    exact retrySync_consistent roster consistent itemId fileExists reading now
  | batch e =>
    cases e with
    | upload examTemplateId paths => exact upload_consistent consistent examTemplateId paths
    | start itemId now =>
      by_cases waiting : ∃ item, s.items.get? itemId = some item ∧ item.status = .queued
      · obtain ⟨item, found, queued⟩ := waiting
        obtain ⟨job, filed, _⟩ := consistent item (Table.get?_mem found)
        exact start_consistent now found queued ⟨job, filed⟩ (fun it stored _ => consistent it stored)
      · show Consistent (start s itemId now).items (start s itemId now).jobs
        rw [start_idle waiting]
        exact consistent
    | complete no payload warnings => exact complete_consistent roster consistent no payload warnings
    | lost no => exact lost_consistent consistent no
    | crash no error => exact crash_consistent consistent no error
    | watchdog now => exact reconcileStaleRuntime_consistent consistent now
    | retry itemId fileExists =>
      apply retryItem_consistent consistent
      intro accepted
      simpa [orderly, accepted] using allowed
    | discard itemId => exact discardItem_consistent consistent itemId
    | assign itemId studentId => exact assignItem_consistent consistent itemId studentId

end

theorem upload_kept {s : State K} (examTemplateId : Nat) (paths : List String) {i : Nat} {it : ParseBatchItem K}
    (found : s.items.get? i = some it) : (upload s examTemplateId paths).items.get? i = some it := by
  rw [Table.get?_eq_some_iff] at found ⊢
  rw [upload, Table.rows_insertAll]
  exact ⟨List.mem_append_left _ found.1, found.2⟩

theorem tidyJob_queued {s : State K} (consistent : Consistent s.items s.jobs) (jobId : Nat) {i : Nat} {it : ParseBatchItem K}
    (found : s.items.get? i = some it) (queued : it.status = .queued) : (tidyJob s jobId).items.get? i = some it := by
  unfold tidyJob
  dsimp only
  split
  · exact found
  · rename_i job filed
    split
    · exact found
    · split
      · exact found
      · split
        · rename_i closed
          apply Table.get?_updateWhere_of_neg (key_giveUp _) found
          by_contra hit
          simp only [Bool.not_eq_false, Bool.and_eq_true, beq_iff_eq] at hit
          obtain ⟨own, known, state⟩ := consistent it (Table.get?_mem found)
          rw [hit.1, filed] at known
          cases known
          simp [queued, closed, ItemStatus.terminal] at state
        · exact found

theorem reconcileStaleRuntime_queued {s : State K} (now : DateTime) {i : Nat} {it : ParseBatchItem K}
    (found : s.items.get? i = some it) (queued : it.status = .queued) :
    (reconcileStaleRuntime s now).items.get? i = some it :=
  Table.get?_updateWhere_of_neg key_expire found (by simp [timedOut, queued])

/-- Looking at a job fails no sheet that still waits. -/
theorem getBatchJob_queued {s : State K} (consistent : Consistent s.items s.jobs) (jobId : Nat) (now : DateTime) {i : Nat}
    {it : ParseBatchItem K} (found : s.items.get? i = some it) (queued : it.status = .queued) :
    (getBatchJob s jobId now).1.items.get? i = some it := by
  unfold getBatchJob
  split
  · exact found
  · exact tidyJob_queued (reconcileStaleRuntime_consistent consistent now) jobId
      (reconcileStaleRuntime_queued now found queued) queued

section
variable [Field K] [LinearOrder K] [FloorRing K] (roster : Roster)

theorem runItemSync_other {s s' : State K} {itemId i : Nat} {now : DateTime} {reading : Reading K}
    (done : runItemSync roster s itemId now reading = some s') (other : i ≠ itemId) :
    s'.items.get? i = s.items.get? i := by
  rcases runItemSync_writes roster done with ⟨same, _⟩ | ⟨_, new, _, _, key, _, _, items, _⟩
  · rw [same]
  · rw [items, get?_rewrite_other (fun here => other (here.trans key))]

theorem runItemsSync_below {now : DateTime} (readings : List (Reading K)) {s s' : State K} {itemId i : Nat}
    (done : runItemsSync roster now s itemId readings = some s') (below : i < itemId) :
    s'.items.get? i = s.items.get? i := by
  induction readings generalizing s itemId with
  | nil =>
    cases done
    rfl
  | cons reading readings ih =>
    rw [runItemsSync, Option.bind_eq_some_iff] at done
    obtain ⟨between, first, rest⟩ := done
    rw [ih rest (by omega), runItemSync_other roster first (by omega)]

theorem uploadSync_kept {s : State K} (examTemplateId : Nat) (sheets : List (String × Reading K)) (now : DateTime) {i : Nat}
    {it : ParseBatchItem K} (found : s.items.get? i = some it) :
    (uploadSync roster s examTemplateId sheets now).items.get? i = some it := by
  unfold uploadSync
  cases done : runItemsSync roster now (upload s examTemplateId (sheets.map Prod.fst)) s.items.nextId (sheets.map Prod.snd) with
  | none => exact found
  | some s' =>
    have below : i < s.items.nextId := by
      have key := Table.get?_key found
      have bound := s.items.issued it (Table.get?_mem found)
      omega
    rw [Option.getD_some, runItemsSync_below roster _ done below]
    exact upload_kept examTemplateId _ found

theorem retrySync_queued {s : State K} (itemId : Nat) (fileExists : Bool) (reading : Reading K) (now : DateTime) {i : Nat}
    {it : ParseBatchItem K} (found : s.items.get? i = some it) (queued : it.status = .queued) :
    (retrySync roster s itemId fileExists reading now).items.get? i = some it := by
  unfold retrySync
  split
  · rename_i accepted
    cases done : runItemSync roster (retryItem s itemId fileExists) itemId now reading with
    | none => exact found
    | some s' =>
      obtain ⟨item, target, failed, items, _⟩ := retryItem_accepted accepted
      have key : item.id = itemId := Table.get?_key target
      have other : i ≠ itemId := by
        intro here
        rw [here, target] at found
        cases found
        simp [queued] at failed
      rw [Option.getD_some, runItemSync_other roster done other, items, get?_rewrite found,
        if_neg (fun here => other (here.trans key))]
  · exact found

/-- What waits goes on waiting, or is taken up by a worker. -/
theorem serve_queued {s : State K} (consistent : Consistent s.items s.jobs) (r : Request K) (allowed : orderly s r = true)
    (alive : r ≠ .restart) {i : Nat} {it : ParseBatchItem K} (found : s.items.get? i = some it) (queued : it.status = .queued) :
    (serve roster s r).items.get? i = some it ∨ ∃ now, r = .batch (.start i now) := by
  cases r with
  | restart => exact absurd rfl alive
  | elsewhere => exact Or.inl found
  | poll jobId now => exact Or.inl (getBatchJob_queued consistent jobId now found queued)
  | uploadSync examTemplateId sheets now => exact Or.inl (uploadSync_kept roster examTemplateId sheets now found)
  | retrySync itemId fileExists reading now =>
    exact Or.inl (retrySync_queued roster itemId fileExists reading now found queued)
  | batch e =>
    obtain ⟨new, after, moved⟩ := (step_change roster s e).row_after found
    have read := (get?_self found).2
    cases moved with
    | kept => exact Or.inl after
    | expired parsing => simp [queued] at parsing
    | aimed _ move =>
      cases move with
      | start _ now => exact Or.inr ⟨now, by rw [(get?_self found).1]⟩
      | retry _ _ failed => simp [queued] at failed
      | discard _ rejected => simp [queued] at rejected
      | assign _ _ _ unmatched => simp [queued] at unmatched
      | complete a _ _ _ _ _ flying own => simp [orderly, flying, own, read, queued] at allowed
      | lost a _ _ flying own => simp [orderly, flying, own, read, queued] at allowed
      | crash a _ _ _ flying own => simp [orderly, flying, own, read, queued] at allowed

theorem run_consistent {s : State K} (empty : s.items.rows = []) (requests : List (Request K))
    (along : Along (serve roster) (fun s r => orderly s r = true) s requests) :
    Consistent (run (serve roster) s requests).items (run (serve roster) s requests).jobs := by
  have preserve : ∀ (s : State K) (r : Request K), Consistent s.items s.jobs → orderly s r = true →
      Consistent (serve roster s r).items (serve roster s r).jobs :=
    fun s r consistent allowed => serve_consistent roster consistent r allowed
  apply run_invariant_along preserve requests s along
  intro it stored
  rw [empty] at stored
  cases stored

/-- Along every orderly run a sheet leaves the queue by a worker's hand only, as long as the process lives; the
    sheets of a done job are settled; and a restart leaves nothing waiting or half read. -/
theorem queued_sheets {s : State K} (empty : s.items.rows = []) (requests : List (Request K))
    (along : Along (serve roster) (fun s r => orderly s r = true) s requests) :
    (∀ first r rest, requests = first ++ r :: rest → r ≠ .restart →
      ∀ i it, (run (serve roster) s first).items.get? i = some it → it.status = .queued →
        (run (serve roster) s (first ++ [r])).items.get? i = some it ∨ ∃ now, r = .batch (.start i now)) ∧
    (∀ first rest, requests = first ++ rest → ∀ job ∈ (run (serve roster) s first).jobs.rows, job.status = .done →
      ∀ it ∈ (run (serve roster) s first).items.rows, it.parseJobId = job.id → it.status.terminal = true) ∧
    ∀ first rest, requests = first ++ .restart :: rest →
      ∀ it ∈ (run (serve roster) s (first ++ [.restart])).items.rows, it.status.terminal = true := by
  refine ⟨?_, ?_, ?_⟩
  · intro first r rest split alive i it found queued
    rw [split, along_append] at along
    rw [run_append]
    exact serve_queued roster (run_consistent roster empty first along.1) r along.2.1 alive found queued
  · intro first rest split job stored closed it listed own
    rw [split, along_append] at along
    obtain ⟨known, filed, settled | running⟩ := run_consistent roster empty first along.1 it listed
    · exact settled
    · have found := Table.get?_of_mem stored
      rw [own] at filed
      rw [show Keyed.key job = job.id from rfl, filed] at found
      cases found
      simp [closed] at running
  · intro first rest split
    rw [split, along_append] at along
    rw [run_append]
    exact reconcileStale_settles (run_consistent roster empty first along.1)

end

/-- A class of one and its exam, before anything is uploaded. -/
def noSheet : State ℚ where
  db := { Db.empty ℚ with
    students := Table.ofList [⟨1, 1, "甲"⟩]
    templates := Table.ofList [⟨1, 1, 0, .unit, .other "excel"⟩] }
  jobs := .empty
  items := .empty
  inFlight := []
  started := 0
  lastStart := fun _ => none

/-- Two sheets; the first is lost, comes back while the other is still read, and the process dies over both. -/
def putBackInTime : List (Request ℚ) :=
  [.batch (.upload 1 ["sc_batch_1", "sc_batch_2"]), .batch (.start 1 0), .batch (.start 2 0), .batch (.complete 0 none []),
    .batch (.retry 1 true), .poll 1 0, .restart]

theorem queued_sheets_in_time :
    ((run (serve plainRoster) noSheet (putBackInTime.take 6)).items.get? 1).map ParseBatchItem.status = some .queued ∧
      ∀ it ∈ (run (serve plainRoster) noSheet putBackInTime).items.rows, it.status.terminal = true := by
  have along : Along (serve plainRoster) (fun s r => orderly s r = true) noSheet putBackInTime := by
    decide +kernel
  have waiting : ∃ it, (run (serve plainRoster) noSheet (putBackInTime.take 5)).items.get? 1 = some it ∧ it.status = .queued := by
    decide +kernel
  obtain ⟨kept, _, settled⟩ := queued_sheets plainRoster rfl putBackInTime along
  refine ⟨?_, settled (putBackInTime.take 6) [] rfl⟩
  obtain ⟨it, found, queued⟩ := waiting
  rcases kept (putBackInTime.take 5) (.poll 1 0) [.restart] rfl (by simp) 1 it found queued with still | ⟨_, started⟩
  · have split : putBackInTime.take 6 = putBackInTime.take 5 ++ [.poll 1 0] := rfl
    rw [split, still, Option.map_some, queued]
  · cases started

/-- One sheet whose reading fails closes its job; put back, it waits under a job that is done. -/
def putBackTooLate : List (Request ℚ) :=
  [.batch (.upload 1 ["sc_batch_1"]), .batch (.start 1 0), .batch (.complete 0 none []), .batch (.retry 1 true)]

theorem put_back_lost :
    let waiting := run (serve plainRoster) noSheet putBackTooLate
    (waiting.jobs.get? 1).map ParseJob.status = some .done ∧
      (waiting.items.get? 1).map ParseBatchItem.status = some .queued ∧
      ((serve plainRoster waiting (.poll 1 0)).items.get? 1).map ParseBatchItem.status = some .failed ∧
      ((serve plainRoster waiting .restart).items.get? 1).map ParseBatchItem.status = some .queued := by
  decide +kernel

end KnowledgeGap.Ingestion
