import PromptPipeline.Job.Tracker
/-!
The laws of the tracker's records.

An item's status moves only from pending to running, from running to done or to error, and from
pending to cancelled (`ItemStatus.Advances`), so a final status is never left. Every operation
keeps each record's marks in line with its status (`ItemRecord.Consistent`): started once a worker
took the item, finished once it reached a final status, a cause exactly when it failed. A refused
operation gives no tracker, so the one before it stands. Cancelling a job's pending items says how
many it moved; taken one turn at a time, as concurrent callers see it, a turn moves its item
exactly when it finds it pending (`Tracker.markCancelled_eq_ok_iff`). Registering gives a number
above every job before, with the items numbered from 0 in input order. All of it holds after
every sequence of operations from the empty tracker (`Tracker.laws_of_replay`).
-/
namespace PromptPipeline

namespace ItemStatus

/-- The moves of an item's status: a worker takes a pending item, a running item finishes or
fails, a pending item is cancelled. -/
inductive Advances : ItemStatus → ItemStatus → Prop
  | take : Advances .pending .running
  | finish : Advances .running .done
  | fail : Advances .running .error
  | cancel : Advances .pending .cancelled

theorem Advances.not_terminal {a b : ItemStatus} (moved : Advances a b) : a.isTerminal = false := by
  cases moved <;> rfl

/-- Whether a worker has taken an item with this status. -/
def taken : ItemStatus → Bool
  | .running | .done | .error => true
  | .pending | .cancelled => false

end ItemStatus

/-- A record whose marks agree with its status: started once a worker took the item, finished
once it reached a final status, and a cause exactly when it failed. -/
structure ItemRecord.Consistent (r : ItemRecord) : Prop where
  started : r.started = r.status.taken
  finished : r.finished = r.status.isTerminal
  failed : r.error.isSome ↔ r.status = .error

namespace Tracker

/-! How the records of a job are read and replaced. -/

theorem lookup_update (l : List (Nat × List ItemRecord)) (job job' : Nat) (rs : List ItemRecord) :
    (l.map fun (j, old) => if j == job then (j, rs) else (j, old)).lookup job' =
      if job' = job then (l.lookup job').map fun _ => rs else l.lookup job' := by
  induction l with
  | nil => simp
  | cons e l ih =>
    obtain ⟨j, old⟩ := e
    by_cases h : j = job <;> by_cases h' : job' = j <;>
      simp_all [List.lookup_cons, beq_false_of_ne, Ne.symm]

theorem records_setRecords (t : Tracker) (job job' : Nat) (rs : List ItemRecord) :
    (t.setRecords job rs).records job' =
      if job' = job then (fun _ => rs) <$> t.records job' else t.records job' := by
  simp only [records, setRecords, lookup_update]
  by_cases h : job' = job <;> cases t.jobs.lookup job' <;> simp [h, Functor.map, Except.map]

@[simp] theorem records_setRecords_self {t : Tracker} {job : Nat} {rs rs' : List ItemRecord}
    (listed : t.records job = .ok rs) : (t.setRecords job rs').records job = .ok rs' := by
  rw [records_setRecords, if_pos rfl, listed]
  rfl

theorem records_setRecords_of_ne (t : Tracker) {job job' : Nat} (rs : List ItemRecord)
    (other : job' ≠ job) : (t.setRecords job rs).records job' = t.records job' := by
  rw [records_setRecords, if_neg other]

@[simp] theorem setRecords_lastId (t : Tracker) (job : Nat) (rs : List ItemRecord) :
    (t.setRecords job rs).lastId = t.lastId := rfl

theorem records_eq_ok {t : Tracker} {job : Nat} {rs : List ItemRecord} :
    t.records job = .ok rs ↔ t.jobs.lookup job = some rs := by
  unfold records
  cases t.jobs.lookup job <;> simp

theorem item_eq_ok {t : Tracker} {job i : Nat} {r : ItemRecord} :
    t.item job i = .ok r ↔ ∃ rs, t.records job = .ok rs ∧ rs[i]? = some r := by
  unfold item
  cases t.records job with
  | error e => simp [bind, Except.bind]
  | ok rs =>
    cases found : rs[i]? <;> simp [bind, Except.bind, pure, Except.pure, throw, throwThe,
      MonadExceptOf.throw, found]

/-- What a successful move does: the item had status `source`, and its record becomes the
updated one with status `target`; nothing else changes. -/
theorem transition_eq_ok {t t' : Tracker} {job item : Nat} {source target : ItemStatus}
    {update : ItemRecord → ItemRecord} :
    t.transition job item source target update = .ok t' ↔
      ∃ rs r, t.records job = .ok rs ∧ rs[item]? = some r ∧ r.status = source ∧
        t' = t.setRecords job (rs.set item (update { r with status := target })) := by
  unfold transition Tracker.item
  cases hr : t.records job with
  | error e => simp [bind, Except.bind]
  | ok rs =>
    cases hi : rs[item]? with
    | none => simp [bind, Except.bind, hi, throw, throwThe, MonadExceptOf.throw]
    | some r =>
      by_cases hs : r.status = source
      · simp [bind, Except.bind, hi, hs, pure, Except.pure, eq_comm]
      · simp [bind, Except.bind, hi, hs, pure, Except.pure]

/-- A pending record cancelled, any other kept. -/
def cancelIfPending (r : ItemRecord) : ItemRecord :=
  if r.status == .pending then { r with status := .cancelled, finished := true } else r

theorem cancelIfPending_status (r : ItemRecord) :
    (cancelIfPending r).status = if r.status = .pending then .cancelled else r.status := by
  unfold cancelIfPending
  by_cases pending : r.status = .pending <;> simp [pending]

/-- What cancelling a job's pending items does: each pending record is cancelled and finished,
the others stay, and the count is the number of pending items. -/
theorem cancelPending_eq_ok {t t' : Tracker} {job n : Nat} :
    t.cancelPending job = .ok (n, t') ↔
      ∃ rs, t.records job = .ok rs ∧ n = (rs.filter (·.status == .pending)).length ∧
        t' = t.setRecords job (rs.map cancelIfPending) := by
  unfold cancelPending
  cases t.records job with
  | error e => simp [bind, Except.bind]
  | ok rs =>
    simp only [bind, Except.bind, pure, Except.pure, Except.ok.injEq, Prod.mk.injEq]
    constructor
    · rintro ⟨rfl, rfl⟩
      exact ⟨rs, rfl, rfl, rfl⟩
    · rintro ⟨rs', listed, rfl, rfl⟩
      cases listed
      exact ⟨rfl, rfl⟩

/-- The records a job is registered with: one pending record per input, numbered from 0. -/
def fresh (inputs : List ItemInput) : List ItemRecord :=
  inputs.zipIdx.map fun (input, i) => { itemId := i, input }

theorem register_eq (t : Tracker) (inputs : List ItemInput) :
    t.register inputs = (t.lastId + 1,
      { jobs := t.jobs ++ [(t.lastId + 1, fresh inputs)], lastId := t.lastId + 1 }) := rfl

end Tracker

/-! Operations in sequence. -/

namespace Tracker

/-- An operation a caller makes on the tracker. Cancelling a job's pending items is one
operation; callers working at the same time see it as one turn per item, `markCancelled`, taken in
item order. -/
inductive Op where
  | register (inputs : List ItemInput)
  | markRunning (job item : Nat)
  | markDone (job item : Nat) (o : ItemOutcome)
  | markError (job item : Nat) (cause : Failure) (o : ItemOutcome)
  | markCancelled (job item : Nat)
  | cancelPending (job : Nat)

/-- What an operation gives back: the number of a new job, how many items were cancelled, or
nothing. -/
inductive Reply where
  | job (n : Nat)
  | count (n : Nat)
  | done

/-- The reply of a move, and the tracker after it: the one before when the move is refused. -/
def settle (t : Tracker) : Except TrackerError Tracker → Except TrackerError Reply × Tracker
  | .ok t' => (.ok .done, t')
  | .error e => (.error e, t)

/-- Makes an operation: its reply, and the tracker afterwards. -/
def call (t : Tracker) : Op → Except TrackerError Reply × Tracker
  | .register inputs => ((.ok (.job (t.register inputs).1)), (t.register inputs).2)
  | .markRunning job item => t.settle (t.markRunning job item)
  | .markDone job item o => t.settle (t.markDone job item o)
  | .markError job item cause o => t.settle (t.markError job item cause o)
  | .markCancelled job item => t.settle (t.markCancelled job item)
  | .cancelPending job =>
    match t.cancelPending job with
    | .ok (n, t') => (.ok (.count n), t')
    | .error e => (.error e, t)

/-- The tracker after a sequence of operations. -/
def replay (t : Tracker) (ops : List Op) : Tracker := ops.foldl (fun t op => (t.call op).2) t

end Tracker

/-! Every tracker keeps its shape. -/

/-- What every tracker keeps: job numbers ascending and none above the last one given out, each
record numbered by its place in its job and consistent with its status. -/
structure Tracker.Sound (t : Tracker) : Prop where
  ascending : (t.jobs.map Prod.fst).Pairwise (· < ·)
  bounded : ∀ j ∈ t.jobs.map Prod.fst, j ≤ t.lastId
  numbered : ∀ (job : Nat) (rs : List ItemRecord), (job, rs) ∈ t.jobs →
    ∀ (i : Nat) (r : ItemRecord), rs[i]? = some r → r.itemId = i
  consistent : ∀ (job : Nat) (rs : List ItemRecord), (job, rs) ∈ t.jobs → ∀ r ∈ rs, r.Consistent

/-- Every item of `t` is still in `t'`, with the same status or one move on. -/
def Tracker.Follows (t t' : Tracker) : Prop :=
  ∀ job item r, t.item job item = .ok r →
    ∃ r', t'.item job item = .ok r' ∧ (r'.status = r.status ∨ r.status.Advances r'.status)

namespace Tracker

theorem Follows.refl (t : Tracker) : t.Follows t :=
  fun _ _ r listed => ⟨r, listed, .inl rfl⟩

theorem mem_of_records {t : Tracker} {job : Nat} {rs : List ItemRecord}
    (listed : t.records job = .ok rs) : (job, rs) ∈ t.jobs := by
  obtain ⟨before, after, split, -⟩ := List.lookup_eq_some_iff.1 (records_eq_ok.1 listed)
  rw [split]
  simp

/-- Replacing a job's records by records numbered and consistent keeps a tracker sound. -/
theorem Sound.setRecords {t : Tracker} (sound : t.Sound) (job : Nat) {rs : List ItemRecord}
    (numbered : ∀ (i : Nat) (r : ItemRecord), rs[i]? = some r → r.itemId = i) (consistent : ∀ r ∈ rs, r.Consistent) :
    (t.setRecords job rs).Sound := by
  have keys : (t.setRecords job rs).jobs.map Prod.fst = t.jobs.map Prod.fst := by
    simp only [Tracker.setRecords, List.map_map]
    congr 1
    funext e
    simp only [Function.comp_apply]
    split <;> rfl
  -- an entry of the new tracker is the job's new records or an old entry
  have entries : ∀ j rs', (j, rs') ∈ (t.setRecords job rs).jobs → rs' = rs ∨ (j, rs') ∈ t.jobs := by
    intro j rs' member
    obtain ⟨⟨j₀, old⟩, present, replaced⟩ := List.mem_map.1 member
    by_cases same : j₀ = job
    · simp only [same, beq_self_eq_true, if_true, Prod.mk.injEq] at replaced
      exact .inl replaced.2.symm
    · simp only [beq_false_of_ne same, Bool.false_eq_true, if_false, Prod.mk.injEq] at replaced
      obtain ⟨rfl, rfl⟩ := replaced
      exact .inr present
  refine ⟨keys ▸ sound.ascending, keys ▸ sound.bounded, fun j rs' member => ?_,
    fun j rs' member => ?_⟩
  · rcases entries j rs' member with rfl | old
    · exact numbered
    · exact sound.numbered j rs' old
  · rcases entries j rs' member with rfl | old
    · exact consistent
    · exact sound.consistent j rs' old

/-- A tracker whose job's records are replaced record for record, each kept or moved one step,
follows the tracker before. -/
theorem Follows.setRecords {t : Tracker} {job : Nat} {rs rs' : List ItemRecord}
    (listed : t.records job = .ok rs) (length : rs'.length = rs.length)
    (moves : ∀ (i : Nat) (r r' : ItemRecord), rs[i]? = some r → rs'[i]? = some r' →
      r'.status = r.status ∨ r.status.Advances r'.status) :
    t.Follows (t.setRecords job rs') := by
  intro job' i r found
  obtain ⟨old, oldListed, at_⟩ := item_eq_ok.1 found
  by_cases same : job' = job
  · subst same
    rw [listed] at oldListed
    cases oldListed
    have inside : i < rs'.length := length ▸ (List.getElem?_eq_some_iff.1 at_).1
    refine ⟨rs'[i], item_eq_ok.2 ⟨rs', records_setRecords_self listed, by simp [inside]⟩, ?_⟩
    exact moves i r _ at_ (by simp [inside])
  · exact ⟨r, item_eq_ok.2 ⟨old, by rw [records_setRecords_of_ne t rs' same, oldListed], at_⟩,
      .inl rfl⟩

/-! Each operation keeps a tracker sound and moves its items only forward. -/

/-- A move from `source` to `target` whose update keeps the status and the number of a record,
and makes a consistent record of a consistent one with status `target`, keeps the tracker sound
and moves exactly one item one step. -/
theorem transition_laws {t t' : Tracker} (sound : t.Sound) {job item : Nat}
    {source target : ItemStatus} {update : ItemRecord → ItemRecord}
    (moved : t.transition job item source target update = .ok t') (advances : source.Advances target)
    (keeps : ∀ r, (update r).status = r.status ∧ (update r).itemId = r.itemId)
    (consistent : ∀ r : ItemRecord, r.status = source → r.Consistent →
      (update { r with status := target }).Consistent) : t'.Sound ∧ t.Follows t' := by
  obtain ⟨rs, r, listed, at_, was, rfl⟩ := transition_eq_ok.1 moved
  have member := mem_of_records listed
  have number := sound.numbered job rs member item r at_
  have updated := consistent r was (sound.consistent job rs member r (List.mem_of_getElem? at_))
  refine ⟨sound.setRecords job (fun i x found => ?_) (fun x present => ?_),
    Follows.setRecords listed (List.length_set ..) (fun i x x' found found' => ?_)⟩
  · rw [List.getElem?_set] at found
    split at found
    · rename_i same
      subst same
      simp only [(List.getElem?_eq_some_iff.1 at_).1, if_true, Option.some.injEq] at found
      subst found
      rw [(keeps _).2, number]
    · exact sound.numbered job rs member i x found
  · rcases List.mem_or_eq_of_mem_set present with old | rfl
    · exact sound.consistent job rs member x old
    · exact updated
  · rw [List.getElem?_set] at found'
    split at found'
    · rename_i same
      subst same
      rw [at_] at found
      cases found
      simp only [(List.getElem?_eq_some_iff.1 at_).1, if_true, Option.some.injEq] at found'
      subst found'
      rw [(keeps _).1, was]
      exact .inr advances
    · rw [found] at found'
      cases found'
      exact .inl rfl

theorem markRunning_laws {t t' : Tracker} (sound : t.Sound) {job item : Nat}
    (moved : t.markRunning job item = .ok t') : t'.Sound ∧ t.Follows t' :=
  transition_laws sound moved .take (fun _ => ⟨rfl, rfl⟩) fun r was old =>
    ⟨rfl, by simpa [was, ItemStatus.isTerminal] using old.finished, by simpa [was] using old.failed⟩

theorem markDone_laws {t t' : Tracker} (sound : t.Sound) {job item : Nat} {o : ItemOutcome}
    (moved : t.markDone job item o = .ok t') : t'.Sound ∧ t.Follows t' :=
  transition_laws sound moved .finish (fun _ => ⟨rfl, rfl⟩) fun r was old =>
    ⟨by simpa [was, ItemStatus.taken] using old.started, rfl, by simpa [was] using old.failed⟩

theorem markError_laws {t t' : Tracker} (sound : t.Sound) {job item : Nat} {cause : Failure}
    {o : ItemOutcome} (moved : t.markError job item cause o = .ok t') : t'.Sound ∧ t.Follows t' :=
  transition_laws sound moved .fail (fun _ => ⟨rfl, rfl⟩) fun r was old =>
    ⟨by simpa [was, ItemStatus.taken] using old.started, rfl, by simp⟩

theorem markCancelled_laws {t t' : Tracker} (sound : t.Sound) {job item : Nat}
    (moved : t.markCancelled job item = .ok t') : t'.Sound ∧ t.Follows t' :=
  transition_laws sound moved .cancel (fun _ => ⟨rfl, rfl⟩) fun r was old =>
    ⟨by simpa [was, ItemStatus.taken] using old.started, rfl, by simpa [was] using old.failed⟩

/-- The count of pending records is the count of records that cancelling moves. -/
theorem length_filter_pending (rs : List ItemRecord) :
    (rs.filter (·.status == .pending)).length =
      ((rs.zip (rs.map cancelIfPending)).filter fun p =>
        p.1.status = .pending ∧ p.2.status = .cancelled).length := by
  induction rs with
  | nil => rfl
  | cons r rest ih =>
    by_cases pending : r.status = .pending <;>
      simp [pending, cancelIfPending_status, ih]

theorem cancelPending_laws {t t' : Tracker} (sound : t.Sound) {job n : Nat}
    (cancelled : t.cancelPending job = .ok (n, t')) :
    t'.Sound ∧ t.Follows t' ∧ ∃ rs rs', t.records job = .ok rs ∧ t'.records job = .ok rs' ∧
      n = ((rs.zip rs').filter fun p => p.1.status = .pending ∧ p.2.status = .cancelled).length := by
  obtain ⟨rs, listed, rfl, rfl⟩ := cancelPending_eq_ok.1 cancelled
  have member := mem_of_records listed
  refine ⟨sound.setRecords job (fun i x found => ?_) (fun x present => ?_),
    Follows.setRecords listed (List.length_map ..) (fun i x x' found found' => ?_),
    rs, rs.map cancelIfPending, listed, records_setRecords_self listed, length_filter_pending rs⟩
  · rw [List.getElem?_map] at found
    obtain ⟨r, at_, rfl⟩ := Option.map_eq_some_iff.1 found
    have number := sound.numbered job rs member i r at_
    unfold cancelIfPending
    split <;> exact number
  · obtain ⟨r, kept, rfl⟩ := List.mem_map.1 present
    have old := sound.consistent job rs member r kept
    unfold cancelIfPending
    by_cases pending : r.status = .pending
    · have started := old.started
      have failed := old.failed
      simp only [pending, ItemStatus.taken, reduceCtorEq, iff_false] at started failed
      exact ⟨by simp [pending, started, ItemStatus.taken], by simp [pending, ItemStatus.isTerminal],
        by simp [pending, failed]⟩
    · simpa [pending] using old
  · rw [List.getElem?_map] at found'
    obtain ⟨r, at_, rfl⟩ := Option.map_eq_some_iff.1 found'
    rw [at_] at found
    cases found
    rw [cancelIfPending_status]
    split
    · rename_i pending
      rw [pending]
      exact .inr .cancel
    · exact .inl rfl

theorem fresh_numbered (inputs : List ItemInput) (i : Nat) (r : ItemRecord)
    (found : (fresh inputs)[i]? = some r) : r.itemId = i := by
  rw [fresh, List.getElem?_map] at found
  obtain ⟨⟨input, k⟩, at_, rfl⟩ := Option.map_eq_some_iff.1 found
  rw [List.getElem?_zipIdx] at at_
  obtain ⟨_, -, same⟩ := Option.map_eq_some_iff.1 at_
  cases same
  simp

theorem fresh_consistent (inputs : List ItemInput) : ∀ r ∈ fresh inputs, r.Consistent := by
  intro r present
  obtain ⟨⟨input, k⟩, -, rfl⟩ := List.mem_map.1 present
  exact ⟨rfl, rfl, by simp⟩

theorem register_laws {t : Tracker} (sound : t.Sound) (inputs : List ItemInput) :
    (t.register inputs).2.Sound ∧ t.Follows (t.register inputs).2 ∧
      (∀ j ∈ t.jobs.map Prod.fst, j < (t.register inputs).1) ∧
      (t.register inputs).2.records (t.register inputs).1 = .ok (fresh inputs) := by
  rw [register_eq]
  have above : ∀ j ∈ t.jobs.map Prod.fst, j < t.lastId + 1 :=
    fun j member => Nat.lt_succ_of_le (sound.bounded j member)
  have absent : t.jobs.lookup (t.lastId + 1) = none := by
    refine List.lookup_eq_none_iff.2 fun p member => ?_
    have := above p.1 (List.mem_map_of_mem member)
    simp only [bne_iff_ne, ne_eq]
    omega
  refine ⟨⟨?_, ?_, fun job rs member => ?_, fun job rs member => ?_⟩, ?_, above, ?_⟩
  · simp only [List.map_append, List.map_cons, List.map_nil]
    exact List.pairwise_append.2 ⟨sound.ascending, List.pairwise_singleton _ _,
      fun a member b single => by rw [List.mem_singleton.1 single]; exact above a member⟩
  · intro j member
    simp only [List.map_append, List.map_cons, List.map_nil, List.mem_append,
      List.mem_singleton] at member
    rcases member with old | rfl
    · exact Nat.le_succ_of_le (sound.bounded j old)
    · exact Nat.le_refl _
  · rcases List.mem_append.1 member with old | new
    · exact sound.numbered job rs old
    · cases List.mem_singleton.1 new
      exact fresh_numbered inputs
  · rcases List.mem_append.1 member with old | new
    · exact sound.consistent job rs old
    · cases List.mem_singleton.1 new
      exact fresh_consistent inputs
  · intro job i r found
    obtain ⟨rs, listed, at_⟩ := item_eq_ok.1 found
    refine ⟨r, item_eq_ok.2 ⟨rs, ?_, at_⟩, .inl rfl⟩
    simp only [records_eq_ok, List.lookup_append] at listed ⊢
    simp [listed]
  · simp [records_eq_ok, List.lookup_append, absent]

/-- A turn of a cancel succeeds exactly when it finds its item pending, and leaves it
cancelled: so a cancel taken one turn at a time counts the items it moved. -/
theorem markCancelled_eq_ok_iff {t : Tracker} {job item : Nat} :
    (∃ t', t.markCancelled job item = .ok t') ↔ ∃ r, t.item job item = .ok r ∧ r.status = .pending := by
  constructor
  · rintro ⟨t', moved⟩
    obtain ⟨rs, r, listed, at_, was, -⟩ := transition_eq_ok.1 moved
    exact ⟨r, item_eq_ok.2 ⟨rs, listed, at_⟩, was⟩
  · rintro ⟨r, found, was⟩
    obtain ⟨rs, listed, at_⟩ := item_eq_ok.1 found
    exact ⟨_, transition_eq_ok.2 ⟨rs, r, listed, at_, was, rfl⟩⟩

theorem item_markCancelled {t t' : Tracker} {job item : Nat} (moved : t.markCancelled job item = .ok t') :
    ∃ r, t'.item job item = .ok r ∧ r.status = .cancelled := by
  obtain ⟨rs, r, listed, at_, -, rfl⟩ := transition_eq_ok.1 moved
  have inside := (List.getElem?_eq_some_iff.1 at_).1
  exact ⟨_, item_eq_ok.2 ⟨_, records_setRecords_self listed, List.getElem?_set_self inside⟩, rfl⟩

/-! Sequences of operations. -/

theorem settle_laws {t : Tracker} (sound : t.Sound) {moved : Except TrackerError Tracker}
    (laws : ∀ t', moved = .ok t' → t'.Sound ∧ t.Follows t') :
    (t.settle moved).2.Sound ∧ t.Follows (t.settle moved).2 ∧
      ∀ e, (t.settle moved).1 = .error e → (t.settle moved).2 = t := by
  cases moved with
  | ok t' => exact ⟨(laws t' rfl).1, (laws t' rfl).2, fun e refused => by cases refused⟩
  | error e => exact ⟨sound, .refl t, fun _ _ => rfl⟩

/-- One operation keeps a sound tracker sound, moves items only forward, and changes nothing
when it is refused. -/
theorem call_laws {t : Tracker} (sound : t.Sound) (op : Op) :
    (t.call op).2.Sound ∧ t.Follows (t.call op).2 ∧
      ∀ e, (t.call op).1 = .error e → (t.call op).2 = t := by
  cases op with
  | register inputs =>
    obtain ⟨sound', follows, -, -⟩ := register_laws sound inputs
    exact ⟨sound', follows, fun e refused => by cases refused⟩
  | markRunning job item => exact settle_laws sound fun _ => markRunning_laws sound
  | markDone job item o => exact settle_laws sound fun _ => markDone_laws sound
  | markError job item cause o => exact settle_laws sound fun _ => markError_laws sound
  | markCancelled job item => exact settle_laws sound fun _ => markCancelled_laws sound
  | cancelPending job =>
    simp only [call]
    cases cancelled : t.cancelPending job with
    | ok result =>
      obtain ⟨n, t'⟩ := result
      obtain ⟨sound', follows, -⟩ := cancelPending_laws sound cancelled
      exact ⟨sound', follows, fun e refused => by cases refused⟩
    | error e => exact ⟨sound, .refl t, fun _ _ => rfl⟩

theorem empty_sound : ({} : Tracker).Sound :=
  ⟨.nil, fun _ absent => (List.not_mem_nil absent).elim,
    fun _ _ absent => (List.not_mem_nil absent).elim, fun _ _ absent => (List.not_mem_nil absent).elim⟩

theorem replay_sound (ops : List Op) : ∀ {t : Tracker}, t.Sound → (t.replay ops).Sound := by
  induction ops with
  | nil => exact fun sound => sound
  | cons op ops ih => exact fun sound => ih (call_laws sound op).1

end Tracker

/-- The laws of the tracker after every sequence of operations from the empty tracker, where a
cancel may also be taken one item at a time between other operations: every record is numbered by
its place and consistent with its status (started once taken, finished once final, a cause exactly
when failed); the next operation moves each item's status at most one step forward (pending to
running, running to done or to error, pending to cancelled), so a final status is never left; a
refused operation leaves the tracker as it was; cancelling a job's pending items counts exactly
the items it moved from pending to cancelled; and registering gives a number above every job
before, with one pending record per input, numbered from 0 in input order. -/
theorem Tracker.laws_of_replay (ops : List Tracker.Op) (op : Tracker.Op) :
    let t := Tracker.replay {} ops
    t.Sound ∧ (t.call op).2.Sound ∧ t.Follows (t.call op).2 ∧
    (∀ e, (t.call op).1 = .error e → (t.call op).2 = t) ∧
    (∀ job n, op = .cancelPending job → (t.call op).1 = .ok (.count n) →
      ∃ rs rs', t.records job = .ok rs ∧ (t.call op).2.records job = .ok rs' ∧
        n = ((rs.zip rs').filter fun p => p.1.status = .pending ∧ p.2.status = .cancelled).length) ∧
    (∀ job item, op = .markCancelled job item → ((t.call op).1 = .ok .done ↔
      ∃ r r', t.item job item = .ok r ∧ (t.call op).2.item job item = .ok r' ∧
        r.status = .pending ∧ r'.status = .cancelled)) ∧
    (∀ inputs, op = .register inputs → ∃ job, (t.call op).1 = .ok (.job job) ∧
      (∀ j ∈ t.jobs.map Prod.fst, j < job) ∧
      (t.call op).2.records job = .ok (inputs.zipIdx.map fun (input, i) => { itemId := i, input })) := by
  intro t
  have sound : t.Sound := Tracker.replay_sound ops Tracker.empty_sound
  obtain ⟨sound', follows, refused⟩ := Tracker.call_laws sound op
  refine ⟨sound, sound', follows, refused, fun job n same counted => ?_, fun job item same => ?_,
    fun inputs same => ?_⟩
  · subst same
    simp only [Tracker.call] at counted ⊢
    cases cancelled : t.cancelPending job with
    | ok result =>
      obtain ⟨m, t'⟩ := result
      rw [cancelled] at counted
      cases counted
      exact (Tracker.cancelPending_laws sound cancelled).2.2
    | error e => rw [cancelled] at counted; cases counted
  · subst same
    simp only [Tracker.call]
    cases moved : t.markCancelled job item with
    | ok t' =>
      obtain ⟨r, found, was⟩ := Tracker.markCancelled_eq_ok_iff.1 ⟨t', moved⟩
      obtain ⟨r', found', now⟩ := Tracker.item_markCancelled moved
      exact ⟨fun _ => ⟨r, r', found, found', was, now⟩, fun _ => rfl⟩
    | error e =>
      refine ⟨fun refusedReply => (by cases refusedReply), ?_⟩
      rintro ⟨r, r', found, found', was, now⟩
      simp only [Tracker.settle, found, Except.ok.injEq] at found'
      rw [← found', was] at now
      cases now
  · subst same
    obtain ⟨-, -, above, listed⟩ := Tracker.register_laws sound inputs
    exact ⟨_, rfl, above, listed⟩

end PromptPipeline
