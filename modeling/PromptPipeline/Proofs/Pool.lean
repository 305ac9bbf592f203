import PromptPipeline.Job.Pool
import PromptPipeline.Proofs.Records
import Mathlib
/-!
What a job keeps whatever the interleaving of its workers and cancel calls.

Each item of a job is at one place: in the queue, held by one worker, or let go by the worker that
held it (`Pool.place`). At each place its record, the number of times it was handed to the
interpreter, and the completions sent for it agree (`Pool.Account`): an item not yet marked is
pending or cancelled and was never handed over; a marked item is running; an item is handed over
once, after it was marked; and an item let go was either cancelled before it ran or was reported
exactly once, with its record's status and cause. Together with the bookkeeping of the cancel
calls this is kept by every step (`Pool.Sound.step`), so it holds along every run. When the job
has settled no item is pending or running, the completions are those of the items handed over,
and the counts the cancel calls returned add up to the items cancelled (`Pool.safe_of_reaches`).
-/
namespace PromptPipeline

variable {σ : Type}

/-! Lists of workers changed at one position. -/

namespace List

variable {α β : Type}

theorem find?_set_of_not {p : α → Bool} :
    ∀ {l : List α} {k : Nat} {a : α}, (∀ b, l[k]? = some b → p b = false) → p a = false →
      (l.set k a).find? p = l.find? p
  | [], _, _, _, _ => rfl
  | b :: l, 0, a, old, new => by
    simp [new, old b rfl]
  | b :: l, k + 1, a, old, new => by
    simp only [List.set_cons_succ, List.find?_cons]
    rw [find?_set_of_not (l := l) (k := k) (fun c found => old c (by simpa using found)) new]

theorem filterMap_set_of_eq {f : α → Option β} :
    ∀ {l : List α} {k : Nat} {a a' : α}, l[k]? = some a → f a' = f a →
      (l.set k a').filterMap f = l.filterMap f
  | [], _, _, _, found, _ => by simp at found
  | b :: l, 0, a, a', found, same => by
    simp only [List.getElem?_cons_zero, Option.some.injEq] at found
    subst found
    simp [List.filterMap_cons, same]
  | b :: l, k + 1, a, a', found, same => by
    simp only [List.set_cons_succ, List.filterMap_cons]
    rw [filterMap_set_of_eq (l := l) (by simpa using found) same]

theorem filterMap_set_sublist {f : α → Option β} :
    ∀ {l : List α} {k : Nat} {a' : α}, f a' = none → ((l.set k a').filterMap f).Sublist (l.filterMap f)
  | [], _, _, _ => by simp
  | b :: l, 0, a', none' => by
    simp only [List.set_cons_zero, List.filterMap_cons, none']
    split
    · exact .refl _
    · exact .cons _ (.refl _)
  | b :: l, k + 1, a', none' => by
    simp only [List.set_cons_succ, List.filterMap_cons]
    split
    · exact filterMap_set_sublist none'
    · exact .cons_cons _ (filterMap_set_sublist none')

theorem filterMap_set_perm {f : α → Option β} {x : β} :
    ∀ {l : List α} {k : Nat} {a a' : α}, l[k]? = some a → f a = none → f a' = some x →
      ((l.set k a').filterMap f).Perm (x :: l.filterMap f)
  | [], _, _, _, found, _, _ => by simp at found
  | b :: l, 0, a, a', found, none', some' => by
    simp only [List.getElem?_cons_zero, Option.some.injEq] at found
    subst found
    simp [none', some']
  | b :: l, k + 1, a, a', found, none', some' => by
    simp only [List.set_cons_succ, List.filterMap_cons]
    have rest := filterMap_set_perm (l := l) (k := k) (by simpa using found) none' some'
    split
    · exact rest
    · exact (rest.cons _).trans (.swap _ _ _)

theorem countP_set_of_eq {p : α → Bool} {l : List α} {k : Nat} {a a' : α} (found : l[k]? = some a)
    (same : p a' = p a) : (l.set k a').countP p = l.countP p := by
  obtain ⟨inside, rfl⟩ := List.getElem?_eq_some_iff.1 found
  rw [List.countP_set inside, same]
  by_cases counted : p l[k] = true
  · have : 0 < l.countP p := List.countP_pos_iff.2 ⟨l[k], List.getElem_mem inside, counted⟩
    simp only [counted, if_true]
    omega
  · simp [counted]

end List

/-! The counts of a job's progress. -/

namespace Progress

theorem foldl_count : ∀ (l : List ItemStatus) (p : Progress),
    l.foldl count p =
      { p with total := p.total + l.length, pending := p.pending + l.count .pending,
               running := p.running + l.count .running, done := p.done + l.count .done,
               error := p.error + l.count .error, cancelled := p.cancelled + l.count .cancelled }
  | [], p => by simp
  | a :: l, p => by
    rw [List.foldl_cons, foldl_count l]
    cases a <;> simp [count] <;> omega

theorem count_statuses : ∀ l : List ItemStatus,
    l.count .pending + l.count .running + l.count .done + l.count .error + l.count .cancelled =
      l.length
  | [] => rfl
  | a :: l => by
    have := count_statuses l
    cases a <;> simp <;> omega

@[simp] theorem ofStatuses_total (l : List ItemStatus) : (ofStatuses l).total = l.length := by
  simp [ofStatuses, foldl_count]

@[simp] theorem ofStatuses_pending (l : List ItemStatus) :
    (ofStatuses l).pending = l.count .pending := by
  simp [ofStatuses, foldl_count]

@[simp] theorem ofStatuses_running (l : List ItemStatus) :
    (ofStatuses l).running = l.count .running := by
  simp [ofStatuses, foldl_count]

@[simp] theorem ofStatuses_done (l : List ItemStatus) : (ofStatuses l).done = l.count .done := by
  simp [ofStatuses, foldl_count]

@[simp] theorem ofStatuses_error (l : List ItemStatus) : (ofStatuses l).error = l.count .error := by
  simp [ofStatuses, foldl_count]

@[simp] theorem ofStatuses_cancelled (l : List ItemStatus) :
    (ofStatuses l).cancelled = l.count .cancelled := by
  simp [ofStatuses, foldl_count]

end Progress

/-! Where the items of a job are. -/

/-- Where an item of a job is: in the queue, held by a worker in some state, or let go by the
worker that held it. -/
inductive Place (σ : Type) where
  | queued
  | held (w : Worker σ)
  | released

/-- A record no worker has marked: pending, or cancelled by a cancel call, and without a cause. -/
def ItemRecord.Unmarked (r : ItemRecord) : Prop :=
  (r.status = .pending ∨ r.status = .cancelled) ∧ r.error = none

/-- A record a worker has marked and not yet recorded: running, started, and without a cause. -/
def ItemRecord.Marked (r : ItemRecord) : Prop :=
  r.status = .running ∧ r.started = true ∧ r.error = none

/-- A record that a completion reports: the item ran and finished, done or failed, with the
completion's status and cause. -/
def ItemRecord.Reports (r : ItemRecord) (c : Completion) : Prop :=
  r.status = c.status ∧ r.error = c.error ∧ (c.status = .done ∨ c.status = .error) ∧ r.started = true

/-- The status an item's run is recorded with: done when it went to the end, else error. -/
def ItemOutcome.recordedStatus (o : ItemOutcome) : ItemStatus :=
  match o.error with
  | none => .done
  | some _ => .error

theorem ItemOutcome.recordedStatus_final (o : ItemOutcome) :
    o.recordedStatus = .done ∨ o.recordedStatus = .error := by
  unfold ItemOutcome.recordedStatus
  split
  · exact .inl rfl
  · exact .inr rfl

/-- The record of item `i` whose run ended with outcome `o`. -/
def ItemRecord.ofOutcome (i : Nat) (input : ItemInput) (o : ItemOutcome) : ItemRecord :=
  { itemId := i, input, status := o.recordedStatus, outputRows := o.outputRows, error := o.error,
    rawText := o.rawText, turnaroundMs := o.turnaroundMs, started := true, finished := true }

/-- The completion sent for item `i` of job `job` whose run ended with outcome `o`. -/
def Completion.ofOutcome (job i : Nat) (o : ItemOutcome) : Completion :=
  ⟨job, i, o.recordedStatus, o.error, o.turnaroundMs⟩

/-- What the record of an item, the number of times it was handed to the interpreter and the
completions sent for it say at each place: an item not yet marked is pending or cancelled, never
handed over and never reported; a marked item is running, handed over once the interpreter has
it; a recorded item's record reports the completion its worker holds; and an item let go was
cancelled before it ran, or was reported exactly once. -/
def Account (r : ItemRecord) (count : Nat) (cs : List Completion) : Place σ → Prop
  | .queued | .held (.took _ _) => r.Unmarked ∧ count = 0 ∧ cs = []
  | .held (.marked _ _) => r.Marked ∧ count = 0 ∧ cs = []
  | .held (.running ..) | .held (.ran _ _) => r.Marked ∧ count = 1 ∧ cs = []
  | .held (.sending c) => r.Reports c ∧ count = 1 ∧ cs = []
  | .held .idle | .held .taking | .held .exited => False
  | .released => (r.status = .cancelled ∧ count = 0 ∧ cs = []) ∨
      (∃ c, r.Reports c ∧ count = 1 ∧ cs = [c])

theorem ItemRecord.Reports.final {r : ItemRecord} {c : Completion} (reports : r.Reports c) :
    r.status = .done ∨ r.status = .error := by
  rw [reports.1]
  exact reports.2.2.1

/-- What every account says, wherever the item is: it was handed over at most once and reported
at most as often, each report agreeing with the record; once handed over it was marked, and is
running or finished, done or failed. -/
theorem Account.summary {r : ItemRecord} {count : Nat} {cs : List Completion} {p : Place σ}
    (account : Account r count cs p) :
    count ≤ 1 ∧ cs.length ≤ count ∧ (∀ c ∈ cs, r.Reports c) ∧
      (count = 1 → r.started = true ∧
        (r.status = .running ∨ r.status = .done ∨ r.status = .error)) := by
  cases p with
  | queued =>
    obtain ⟨-, rfl, rfl⟩ := account
    simp
  | held w =>
    cases w with
    | took | marked =>
      obtain ⟨-, rfl, rfl⟩ := account
      simp
    | running | ran =>
      obtain ⟨⟨running, started, -⟩, rfl, rfl⟩ := account
      simp [running, started]
    | sending c =>
      obtain ⟨reports, rfl, rfl⟩ := account
      exact ⟨Nat.le_refl 1, Nat.zero_le 1, fun _ absent => (List.not_mem_nil absent).elim,
        fun _ => ⟨reports.2.2.2, .inr reports.final⟩⟩
    | idle | taking | exited => exact account.elim
  | released =>
    rcases account with ⟨-, rfl, rfl⟩ | ⟨c, reports, rfl, rfl⟩
    · simp
    · refine ⟨Nat.le_refl 1, Nat.le_refl 1, fun c' member => ?_, fun _ => ⟨reports.2.2.2, .inr reports.final⟩⟩
      rw [List.mem_singleton.1 member]
      exact reports

/-- Cancelling a pending item keeps its account: only an item not yet marked is pending. -/
theorem Account.cancel {r : ItemRecord} {count : Nat} {cs : List Completion} {p : Place σ}
    (account : Account r count cs p) (pending : r.status = .pending) :
    Account { r with status := .cancelled, finished := true } count cs p := by
  have notMarked : ¬ r.Marked := fun marked => by simp [marked.1] at pending
  have notReported : ∀ c, ¬ r.Reports c := fun c reports => by
    rcases reports.2.2.1 with final | final <;> simp [reports.1, final] at pending
  cases p with
  | queued => exact ⟨⟨.inr rfl, account.1.2⟩, account.2⟩
  | held w =>
    cases w with
    | took => exact ⟨⟨.inr rfl, account.1.2⟩, account.2⟩
    | marked | running | ran => exact (notMarked account.1).elim
    | sending c => exact (notReported c account.1).elim
    | idle | taking | exited => exact account.elim
  | released =>
    rcases account with ⟨cancelled, -⟩ | ⟨c, reports, -⟩
    · simp [cancelled] at pending
    · exact (notReported c reports).elim

namespace Pool

/-- The records of the job. -/
def records (s : Pool σ) : List ItemRecord :=
  match s.tracker.records s.job with
  | .ok rs => rs
  | .error _ => []

theorem records_eq {s : Pool σ} {rs : List ItemRecord} (listed : s.tracker.records s.job = .ok rs) :
    s.records = rs := by
  simp [records, listed]

/-- The completions sent for an item. -/
def sentFor (s : Pool σ) (i : Nat) : List Completion := s.sent.filter (·.itemId == i)

theorem mem_sentFor {s : Pool σ} {i : Nat} {c : Completion} :
    c ∈ s.sentFor i ↔ c ∈ s.sent ∧ c.itemId = i := by
  simp [sentFor]

/-- The items the workers hold. -/
def holding (s : Pool σ) : List Nat := s.workers.filterMap Worker.held

/-- Where an item is. -/
def place (s : Pool σ) (i : Nat) : Place σ :=
  if i ∈ s.queue.map Prod.fst then .queued
  else match s.workers.find? (·.held == some i) with
    | some w => .held w
    | none => .released

theorem mem_holding {s : Pool σ} {i : Nat} :
    i ∈ s.holding ↔ ∃ (k : Nat) (w : Worker σ), s.workers[k]? = some w ∧ w.held = some i := by
  simp only [holding, List.mem_filterMap]
  constructor
  · rintro ⟨w, member, held⟩
    obtain ⟨k, at_⟩ := List.mem_iff_getElem?.1 member
    exact ⟨k, w, at_, held⟩
  · rintro ⟨k, w, at_, held⟩
    exact ⟨w, List.mem_of_getElem? at_, held⟩

theorem not_mem_filterMap_set {f : Worker σ → Option Nat} {x : Nat} :
    ∀ {l : List (Worker σ)} {k : Nat} {a a' : Worker σ}, (l.filterMap f).Nodup → l[k]? = some a →
      f a = some x → f a' = none → x ∉ (l.set k a').filterMap f
  | [], _, _, _, _, found, _, _ => by simp at found
  | b :: l, 0, a, a', distinct, found, some', none' => by
    simp only [List.getElem?_cons_zero, Option.some.injEq] at found
    subst found
    rw [List.filterMap_cons, some'] at distinct
    simpa [List.filterMap_cons, none'] using (List.nodup_cons.1 distinct).1
  | b :: l, k + 1, a, a', distinct, found, some', none' => by
    have inner : l[k]? = some a := by simpa using found
    have rest : (l.filterMap f).Nodup := by
      rw [List.filterMap_cons] at distinct
      split at distinct
      · exact distinct
      · exact (List.nodup_cons.1 distinct).2
    have other : f b ≠ some x := by
      intro same
      rw [List.filterMap_cons, same] at distinct
      exact (List.nodup_cons.1 distinct).1
        (List.mem_filterMap.2 ⟨a, List.mem_of_getElem? inner, some'⟩)
    simp only [List.set_cons_succ, List.filterMap_cons]
    split
    · exact not_mem_filterMap_set rest inner some' none'
    · rename_i y found'
      rw [List.mem_cons, not_or]
      exact ⟨fun same => other (same ▸ found'), not_mem_filterMap_set rest inner some' none'⟩

theorem find?_held {i : Nat} :
    ∀ {l : List (Worker σ)} {k : Nat} {w : Worker σ}, (l.filterMap Worker.held).Nodup →
      l[k]? = some w → w.held = some i → l.find? (·.held == some i) = some w
  | [], _, _, _, found, _ => by simp at found
  | v :: l, 0, w, _, found, held => by
    simp only [List.getElem?_cons_zero, Option.some.injEq] at found
    subst found
    simp [held]
  | v :: l, k + 1, w, distinct, found, held => by
    have inner : l[k]? = some w := by simpa using found
    have other : v.held ≠ some i := by
      intro same
      rw [List.filterMap_cons, same] at distinct
      exact (List.nodup_cons.1 distinct).1
        (List.mem_filterMap.2 ⟨w, List.mem_of_getElem? inner, held⟩)
    have rest : (l.filterMap Worker.held).Nodup := by
      rw [List.filterMap_cons] at distinct
      split at distinct
      · exact distinct
      · exact (List.nodup_cons.1 distinct).2
    simp [other, find?_held rest inner held]

theorem place_held {s : Pool σ} (distinct : (s.queue.map Prod.fst ++ s.holding).Nodup) {k i : Nat}
    {w : Worker σ} (at_ : s.workers[k]? = some w) (held : w.held = some i) :
    s.place i = .held w := by
  have inside : i ∈ s.holding := mem_holding.2 ⟨k, w, at_, held⟩
  have notQueued : i ∉ s.queue.map Prod.fst :=
    fun queued => (List.nodup_append.1 distinct).2.2 i queued i inside rfl
  simp only [place, notQueued, if_false]
  rw [find?_held (List.nodup_append.1 distinct).2.1 at_ held]

theorem place_released {s : Pool σ} {i : Nat} (notQueued : i ∉ s.queue.map Prod.fst)
    (notHeld : i ∉ s.holding) : s.place i = .released := by
  simp only [place, notQueued, if_false]
  rw [List.find?_eq_none.2 fun w member same => notHeld (by
    simpa [holding] using ⟨w, member, by simpa using same⟩)]

theorem place_queued {s : Pool σ} {i : Nat} (queued : i ∈ s.queue.map Prod.fst) :
    s.place i = .queued := by
  simp [place, queued]

/-- Changing a worker that holds neither before nor after an item leaves the item's place. -/
theorem place_setWorker {s : Pool σ} {k i : Nat} {w w' : Worker σ} (at_ : s.workers[k]? = some w)
    (old : w.held ≠ some i) (new : w'.held ≠ some i) : (s.setWorker k w').place i = s.place i := by
  have kept : (s.workers.set k w').find? (·.held == some i) = s.workers.find? (·.held == some i) :=
    List.find?_set_of_not (fun b found => by
      rw [at_] at found
      cases found
      simpa using old) (by simpa using new)
  unfold place
  rw [show (s.setWorker k w').workers = s.workers.set k w' from rfl, kept]
  rfl

/-! What a job keeps. -/

/-- What a job keeps at every step, whatever the interleaving; `n` is its number of items. -/
structure Sound (s : Pool σ) (n : Nat) : Prop where
  listed : s.tracker.records s.job = .ok s.records
  length : s.records.length = n
  /-- no item is queued twice, held by two workers, or both -/
  distinct : (s.queue.map Prod.fst ++ s.holding).Nodup
  queuedWithin : ∀ i ∈ s.queue.map Prod.fst, i < n
  heldWithin : ∀ i ∈ s.holding, i < n
  handedWithin : ∀ i ∈ s.handed, i < n
  sentWithin : ∀ c ∈ s.sent, c.itemId < n
  accounts : ∀ i r, s.records[i]? = some r → Account r (s.handed.count i) (s.sentFor i) (s.place i)
  /-- a worker leaves when the queue is empty or the flag is set -/
  exits : Worker.exited ∈ s.workers → s.queue = [] ∨ s.cancelled = true
  /-- the flag is set by a cancel call, under way or returned -/
  flagged : s.cancelled = true → s.cancelling.isSome ∨ s.returned ≠ []
  unflagged : s.cancelled = false → s.cancelling = none ∧ s.returned = []
  /-- the queued items a cancel call passed, and all queued items once one returned, are
  cancelled -/
  swept : ∀ i ∈ s.queue.map Prod.fst, ∀ r, s.records[i]? = some r →
    (∀ k c, s.cancelling = some (k, c) → i < k → r.status = .cancelled) ∧
    (s.returned ≠ [] → r.status = .cancelled)
  /-- the counts of the cancel calls, returned and under way, add up to the items cancelled -/
  counted : s.returned.sum + (s.cancelling.map Prod.snd).getD 0 =
    s.records.countP (·.status == .cancelled)

theorem queue_launch (t : Tracker) (agent : σ) (program : Program) (inputs : List ItemInput)
    (workers : Nat) : (launch t agent program inputs workers).queue.map Prod.fst =
      List.range inputs.length := by
  simp only [launch, List.map_map]
  rw [show (Prod.fst ∘ fun (e : ItemInput × Nat) => (e.2, e.1.bindings)) = Prod.snd from rfl,
    List.zipIdx_map_snd, List.range_eq_range']

/-- A job starts with a fresh record for each of its inputs. -/
theorem records_launch {t : Tracker} (sound : t.Sound) (agent : σ) (program : Program)
    (inputs : List ItemInput) (workers : Nat) :
    (launch t agent program inputs workers).records = Tracker.fresh inputs :=
  records_eq (Tracker.register_laws sound inputs).2.2.2

/-- A job starts sound: every item queued and pending, no worker holding any, no cancel call. -/
theorem sound_launch {t : Tracker} (sound : t.Sound) (agent : σ) (program : Program)
    (inputs : List ItemInput) (workers : Nat) :
    (launch t agent program inputs workers).Sound inputs.length := by
  obtain ⟨-, -, -, listed⟩ := Tracker.register_laws sound inputs
  have records := records_launch sound agent program inputs workers
  have idle : (launch t agent program inputs workers).holding = [] := by
    simp [holding, launch, List.filterMap_replicate, Worker.held]
  have queued := queue_launch t agent program inputs workers
  refine ⟨records ▸ listed, ?_, ?_, ?_, ?_, fun _ absent => (List.not_mem_nil absent).elim,
    fun _ absent => (List.not_mem_nil absent).elim, ?_, ?_, fun flag => (nomatch flag),
    fun _ => ⟨rfl, rfl⟩, fun _ _ _ _ => ⟨fun _ _ free => (nomatch free),
      fun kept => (kept rfl).elim⟩, ?_⟩
  · simp [records, Tracker.fresh]
  · rw [queued, idle, List.append_nil]
    exact List.nodup_range
  · intro i member
    rw [queued] at member
    exact List.mem_range.1 member
  · rw [idle]
    exact fun _ absent => (List.not_mem_nil absent).elim
  · intro i r found
    have inside : i < inputs.length := by
      have := (List.getElem?_eq_some_iff.1 found).1
      simpa [records, Tracker.fresh] using this
    rw [place_queued (by rw [queued]; exact List.mem_range.2 inside)]
    rw [records, Tracker.fresh, List.getElem?_map, List.getElem?_zipIdx] at found
    obtain ⟨input, -, rfl⟩ := Option.map_eq_some_iff.1 (by simpa using found)
    exact ⟨⟨.inl rfl, rfl⟩, by simp [launch], by simp [launch, sentFor]⟩
  · intro exited
    simp [launch, List.mem_replicate] at exited
  · have none : (Tracker.fresh inputs).countP (·.status == .cancelled) = 0 := by
      rw [List.countP_eq_zero]
      intro r member
      obtain ⟨⟨input, k⟩, -, rfl⟩ := List.mem_map.1 member
      simp
    rw [records, none]
    rfl

/-! One step keeps a job sound, one lemma for each kind of step. A worker taking the queue's
front moves the item from the queue to the worker; marking finds the item pending; the item is
handed over once, and the interpreter's steps leave it marked; recording makes the record the
outcome gives, done without a cause and failed with one, and is never refused; sending reports
the item once. A worker whose item a cancel call took first skips it. The cancel call sets the
flag and cancels the items still pending, one turn each, and every item still queued when it
returns is cancelled. -/

section Steps

variable {s : Pool σ} {n k j : Nat} {w w' : Worker σ}

/-- The accounts of the items a step leaves alone stay as they were. -/
theorem accounts_frame {s' : Pool σ} {j : Nat}
    (accounts : ∀ i r, s.records[i]? = some r → Account r (s.handed.count i) (s.sentFor i) (s.place i))
    (records : ∀ i, i ≠ j → s'.records[i]? = s.records[i]?)
    (handed : ∀ i, i ≠ j → s'.handed.count i = s.handed.count i)
    (sent : ∀ i, i ≠ j → s'.sentFor i = s.sentFor i) (placed : ∀ i, i ≠ j → s'.place i = s.place i)
    (own : ∀ r, s'.records[j]? = some r → Account r (s'.handed.count j) (s'.sentFor j) (s'.place j)) :
    ∀ i r, s'.records[i]? = some r → Account r (s'.handed.count i) (s'.sentFor i) (s'.place i) := by
  intro i r found
  by_cases same : i = j
  · subst same
    exact own r found
  · rw [handed i same, sent i same, placed i same]
    exact accounts i r (by rwa [← records i same])

theorem holding_setWorker (at_ : s.workers[k]? = some w) (same : w'.held = w.held) :
    (s.setWorker k w').holding = s.holding :=
  List.filterMap_set_of_eq at_ same

theorem exits_setWorker (exits : Worker.exited ∈ s.workers → s.queue = [] ∨ s.cancelled = true)
    (leaves : w' = .exited → s.queue = [] ∨ s.cancelled = true) :
    Worker.exited ∈ (s.setWorker k w').workers → s.queue = [] ∨ s.cancelled = true := by
  intro member
  rcases List.mem_or_eq_of_mem_set member with old | new
  · exact exits old
  · exact leaves new.symm

/-- A worker moving between two states that hold no item keeps the job sound, when it leaves
only once the queue is empty or the flag set. -/
theorem Sound.setWorker_free (sound : s.Sound n) (at_ : s.workers[k]? = some w)
    (before : w.held = none) (after : w'.held = none)
    (leaves : w' = .exited → s.queue = [] ∨ s.cancelled = true) : (s.setWorker k w').Sound n := by
  have holding := holding_setWorker at_ (after.trans before.symm)
  have placed : ∀ i, (s.setWorker k w').place i = s.place i := fun i =>
    place_setWorker at_ (by simp [before]) (by simp [after])
  exact ⟨sound.listed, sound.length, holding ▸ sound.distinct, sound.queuedWithin,
    holding ▸ sound.heldWithin, sound.handedWithin, sound.sentWithin,
    fun i r found => (placed i).symm ▸ sound.accounts i r found, exits_setWorker sound.exits leaves,
    sound.flagged, sound.unflagged, sound.swept, sound.counted⟩

theorem Sound.look (sound : s.Sound n) (at_ : s.workers[k]? = some .idle) :
    (s.setWorker k (if s.cancelled then .exited else .taking)).Sound n := by
  refine sound.setWorker_free at_ rfl (by split <;> rfl) fun left => ?_
  split at left
  · rename_i flag
    exact .inr flag
  · cases left

theorem Sound.drained (sound : s.Sound n) (at_ : s.workers[k]? = some .taking) (empty : s.queue = []) :
    (s.setWorker k .exited).Sound n :=
  sound.setWorker_free at_ rfl rfl fun _ => .inl empty

theorem Sound.account_held (sound : s.Sound n) (at_ : s.workers[k]? = some w) (held : w.held = some j)
    {r : ItemRecord} (found : s.records[j]? = some r) :
    Account r (s.handed.count j) (s.sentFor j) (.held w) :=
  place_held sound.distinct at_ held ▸ sound.accounts j r found

theorem Sound.ne_held (sound : s.Sound n) {i : Nat} (queued : i ∈ s.queue.map Prod.fst)
    (at_ : s.workers[k]? = some w) (held : w.held = some j) : i ≠ j :=
  (List.nodup_append.1 sound.distinct).2.2 i queued j (mem_holding.2 ⟨k, w, at_, held⟩)

theorem Sound.found_held (sound : s.Sound n) (at_ : s.workers[k]? = some w) (held : w.held = some j) :
    ∃ r, s.records[j]? = some r := by
  have inside : j < s.records.length :=
    sound.length ▸ sound.heldWithin j (mem_holding.2 ⟨k, w, at_, held⟩)
  exact ⟨s.records[j], List.getElem?_eq_getElem inside⟩

/-- A move of item `j` by the tracker replaces its record in the job's records. -/
theorem Sound.transition (sound : s.Sound n) {source target : ItemStatus}
    {update : ItemRecord → ItemRecord} {t : Tracker}
    (moved : s.tracker.transition s.job j source target update = .ok t) :
    ∃ r, s.records[j]? = some r ∧ r.status = source ∧
      t.records s.job = .ok (s.records.set j (update { r with status := target })) := by
  obtain ⟨rs, r, listed, found, was, rfl⟩ := Tracker.transition_eq_ok.1 moved
  rw [sound.listed, Except.ok.injEq] at listed
  subst listed
  exact ⟨r, found, was, Tracker.records_setRecords_self sound.listed⟩

/-- A step of the worker holding item `j` that still holds it afterwards: it may replace the
item's record by one that is cancelled exactly when the old one was, and hand the item over; the
job stays sound when the item's account holds at the worker's new state. -/
theorem Sound.holder (sound : s.Sound n) (at_ : s.workers[k]? = some w) (held : w.held = some j)
    (held' : w'.held = some j) {t : Tracker} {r' : ItemRecord} {handed : List Nat} (agent : σ)
    (cancelled : ∀ r, s.records[j]? = some r → (r'.status = .cancelled ↔ r.status = .cancelled))
    (records : t.records s.job = .ok (s.records.set j r'))
    (handedWithin : ∀ i ∈ handed, i < n)
    (handedOthers : ∀ i, i ≠ j → handed.count i = s.handed.count i)
    (own : ∀ r, s.records[j]? = some r → Account r' (handed.count j) (s.sentFor j) (.held w')) :
    { s with workers := s.workers.set k w', tracker := t, handed, agent }.Sound n := by
  have holding : (s.setWorker k w').holding = s.holding :=
    holding_setWorker at_ (held'.trans held.symm)
  obtain ⟨r, found⟩ := sound.found_held at_ held
  have same : (s.records.set j r').countP (·.status == .cancelled) =
      s.records.countP (·.status == .cancelled) :=
    List.countP_set_of_eq found (by
      rw [Bool.eq_iff_iff, beq_iff_eq, beq_iff_eq]
      exact cancelled r found)
  have unchanged : ∀ i, i ≠ j → (s.records.set j r')[i]? = s.records[i]? := fun i other =>
    List.getElem?_set_ne (Ne.symm other)
  have records' := records_eq (s := { s with workers := s.workers.set k w', tracker := t, handed, agent })
    records
  have at' : (s.workers.set k w')[k]? = some w' :=
    List.getElem?_set_self (List.getElem?_eq_some_iff.1 at_).1
  refine ⟨records'.symm ▸ records, by rw [records', List.length_set, sound.length],
    holding ▸ sound.distinct, sound.queuedWithin, holding ▸ sound.heldWithin, handedWithin,
    sound.sentWithin, ?_, exits_setWorker sound.exits ?_, sound.flagged, sound.unflagged, ?_, ?_⟩
  · refine accounts_frame sound.accounts (fun i other => records' ▸ unchanged i other) handedOthers
      (fun _ _ => rfl) (fun i other => place_setWorker at_ ?_ ?_) fun r'' found' => ?_
    · rw [held]
      exact fun same => other (Option.some.inj same).symm
    · rw [held']
      exact fun same => other (Option.some.inj same).symm
    rw [records', List.getElem?_set_self (List.getElem?_eq_some_iff.1 found).1,
      Option.some.injEq] at found'
    subst found'
    rw [place_held (holding ▸ sound.distinct) at' held']
    exact own r found
  · intro left
    cases left
    cases held'
  · intro i queued r'' found'
    rw [records', unchanged i (sound.ne_held queued at_ held)] at found'
    exact sound.swept i queued r'' found'
  · rw [records', same]
    exact sound.counted

theorem place_queue {p : Pool σ} {q : List (Nat × Map)} {i : Nat}
    (same : i ∈ q.map Prod.fst ↔ i ∈ p.queue.map Prod.fst) :
    { p with queue := q }.place i = p.place i := by
  unfold place
  simp only [same]

theorem Sound.take (sound : s.Sound n) {bindings : Map} {rest : List (Nat × Map)}
    (at_ : s.workers[k]? = some .taking) (front : s.queue = (j, bindings) :: rest) :
    { s.setWorker k (.took j bindings) with queue := rest }.Sound n := by
  have holding : (s.setWorker k (.took j bindings)).holding.Perm (j :: s.holding) :=
    List.filterMap_set_perm at_ rfl rfl
  have queued : s.queue.map Prod.fst = j :: rest.map Prod.fst := by
    rw [front, List.map_cons]
  have distinct : (rest.map Prod.fst ++ (s.setWorker k (.took j bindings)).holding).Nodup := by
    have old := sound.distinct
    rw [queued, List.cons_append] at old
    exact ((holding.append_left _).trans List.perm_middle).nodup_iff.2 old
  have at' : (s.setWorker k (.took j bindings)).workers[k]? = some (.took j bindings) :=
    List.getElem?_set_self (List.getElem?_eq_some_iff.1 at_).1
  have placed : ∀ i, i ≠ j →
      { s.setWorker k (.took j bindings) with queue := rest }.place i = s.place i := by
    intro i other
    rw [place_queue (p := s.setWorker k (.took j bindings))
      (by rw [show (s.setWorker k _).queue = s.queue from rfl, queued, List.mem_cons, or_iff_right other])]
    exact place_setWorker at_ (by simp [Worker.held])
      (by simpa [Worker.held] using fun same => other same.symm)
  refine ⟨sound.listed, sound.length, distinct, fun i member => sound.queuedWithin i ?_, ?_,
    sound.handedWithin, sound.sentWithin, ?_, ?_, sound.flagged, sound.unflagged,
    fun i member => sound.swept i ?_, sound.counted⟩
  · rw [queued]
    exact List.mem_cons_of_mem _ member
  · intro i member
    rcases List.mem_cons.1 (holding.subset member) with rfl | old
    · exact sound.queuedWithin i (by rw [queued]; exact List.mem_cons_self)
    · exact sound.heldWithin i old
  · refine accounts_frame sound.accounts (fun _ _ => rfl) (fun _ _ => rfl) (fun _ _ => rfl) placed
      fun r found => ?_
    have account : Account r (s.handed.count j) (s.sentFor j) (.queued : Place σ) :=
      place_queued (by rw [queued]; exact List.mem_cons_self) ▸ sound.accounts j r found
    show Account r (s.handed.count j) (s.sentFor j)
      ({ s.setWorker k (.took j bindings) with queue := rest }.place j)
    rw [place_held (s := { s.setWorker k (.took j bindings) with queue := rest }) distinct at' rfl]
    exact account
  · intro member
    rcases List.mem_or_eq_of_mem_set member with old | new
    · rcases sound.exits old with empty | flag
      · rw [front] at empty
        cases empty
      · exact .inr flag
    · cases new
  · rw [queued]
    exact List.mem_cons_of_mem _ member

theorem Sound.mark (sound : s.Sound n) {bindings : Map} {t : Tracker}
    (at_ : s.workers[k]? = some (.took j bindings)) (marked : s.tracker.markRunning s.job j = .ok t) :
    { s.setWorker k (.marked j bindings) with tracker := t }.Sound n := by
  obtain ⟨r, found, pending, records⟩ := sound.transition marked
  refine sound.holder at_ rfl rfl s.agent (fun r' found' => ?_) records sound.handedWithin
    (fun _ _ => rfl) fun r' found' => ?_
  all_goals
    rw [found, Option.some.injEq] at found'
    subst found'
  · simp [pending]
  · obtain ⟨⟨-, clean⟩, count, sent⟩ := sound.account_held at_ rfl found
    exact ⟨⟨rfl, rfl, clean⟩, count, sent⟩

theorem Sound.hand (sound : s.Sound n) {bindings : Map} {limit : Nat} {m : Machine σ}
    (at_ : s.workers[k]? = some (.marked j bindings)) :
    { s.setWorker k (.running j limit 0 m) with handed := s.handed ++ [j] }.Sound n := by
  obtain ⟨r, found⟩ := sound.found_held at_ rfl
  have same : s.records.set j r = s.records := by
    obtain ⟨inside, rfl⟩ := List.getElem?_eq_some_iff.1 found
    exact List.set_getElem_self inside
  refine sound.holder at_ rfl rfl s.agent (fun _ found' => by rw [Option.some.inj (found.symm.trans found')]) (same ▸ sound.listed) ?_ ?_ ?_
  · intro i member
    rcases List.mem_append.1 member with old | new
    · exact sound.handedWithin i old
    · rw [List.mem_singleton.1 new]
      exact sound.heldWithin j (mem_holding.2 ⟨k, _, at_, rfl⟩)
  · intro i other
    simp [List.count_append, Ne.symm other]
  · intro r' found'
    rw [found, Option.some.injEq] at found'
    subst found'
    obtain ⟨marked, count, sent⟩ := sound.account_held at_ rfl found
    exact ⟨marked, by simp [List.count_append, count], sent⟩

theorem Sound.interpret (sound : s.Sound n) {remaining pc : Nat} {m : Machine σ} (agent : σ)
    (at_ : s.workers[k]? = some (.running j remaining pc m)) (held' : w'.held = some j)
    (same : ∀ r, Account r 1 [] (.held (.running j remaining pc m)) → Account r 1 [] (.held w')) :
    { s.setWorker k w' with agent }.Sound n := by
  obtain ⟨r, found⟩ := sound.found_held at_ rfl
  have kept : s.records.set j r = s.records := by
    obtain ⟨inside, rfl⟩ := List.getElem?_eq_some_iff.1 found
    exact List.set_getElem_self inside
  refine sound.holder at_ rfl held' agent (fun _ found' => by rw [Option.some.inj (found.symm.trans found')]) (kept ▸ sound.listed) sound.handedWithin
    (fun _ _ => rfl) fun r' found' => ?_
  rw [found, Option.some.injEq] at found'
  subst found'
  obtain ⟨marked, count, sent⟩ := sound.account_held at_ rfl found
  show Account r (s.handed.count j) (s.sentFor j) (.held w')
  rw [count, sent]
  exact same r ⟨marked, rfl, rfl⟩

/-- Recording the outcome of a marked item: the status recorded is the outcome's, and the item's
record becomes the one the outcome makes. -/
theorem Sound.recordOutcome_eq (sound : s.Sound n) {o : ItemOutcome} {status : ItemStatus}
    {t : Tracker} (at_ : s.workers[k]? = some (.ran j o))
    (recorded : s.tracker.recordOutcome s.job j o = (status, .ok t)) :
    ∃ r, s.records[j]? = some r ∧ status = o.recordedStatus ∧
      t.records s.job = .ok (s.records.set j (ItemRecord.ofOutcome r.itemId r.input o)) := by
  obtain ⟨r, found⟩ := sound.found_held at_ rfl
  obtain ⟨⟨-, started, clean⟩, -⟩ := sound.account_held at_ rfl found
  refine ⟨r, found, ?_⟩
  obtain ⟨itemId, input, _, _, _, _, _, _, _⟩ := r
  simp only at started clean
  subst started clean
  -- the outcome decides between marking the item done and marking it failed
  unfold Tracker.recordOutcome at recorded
  split at recorded <;> rename_i ended <;> simp only [Prod.mk.injEq] at recorded <;>
    obtain ⟨rfl, moved⟩ := recorded <;>
    obtain ⟨r', found', -, records⟩ := sound.transition moved <;>
    cases found.symm.trans found' <;>
    simp [records, ItemRecord.ofOutcome, ItemOutcome.recordedStatus, ended]

theorem Sound.record (sound : s.Sound n) {o : ItemOutcome} {status : ItemStatus} {t : Tracker}
    (at_ : s.workers[k]? = some (.ran j o))
    (recorded : s.tracker.recordOutcome s.job j o = (status, .ok t)) :
    { s.setWorker k (.sending ⟨s.job, j, status, o.error, o.turnaroundMs⟩) with tracker := t }.Sound n := by
  obtain ⟨r, found, rfl, records⟩ := sound.recordOutcome_eq at_ recorded
  obtain ⟨⟨running, -⟩, count, sent⟩ := sound.account_held at_ rfl found
  have final := o.recordedStatus_final
  refine sound.holder at_ rfl rfl s.agent (fun r' found' => ?_) records sound.handedWithin
    (fun _ _ => rfl) fun _ _ => ⟨⟨rfl, rfl, final, rfl⟩, count, sent⟩
  cases found.symm.trans found'
  rw [running]
  rcases final with final | final <;> simp [ItemRecord.ofOutcome, final]

theorem Sound.recordOutcome_ok (sound : s.Sound n) {o : ItemOutcome}
    (at_ : s.workers[k]? = some (.ran j o)) : ∃ t, (s.tracker.recordOutcome s.job j o).2 = .ok t := by
  obtain ⟨r, found⟩ := sound.found_held at_ rfl
  obtain ⟨⟨running, -⟩, -⟩ := sound.account_held at_ rfl found
  unfold Tracker.recordOutcome
  split <;> dsimp only <;>
    exact ⟨_, Tracker.transition_eq_ok.2 ⟨s.records, r, sound.listed, found, running, rfl⟩⟩

/-- A worker lets go of its item `j` and goes back to the head of its loop, the completions sent
becoming `sent`: the job stays sound when the item's account holds once let go. -/
theorem Sound.release (sound : s.Sound n) (at_ : s.workers[k]? = some w) (held : w.held = some j)
    {sent : List Completion} (sentWithin : ∀ c ∈ sent, c.itemId < n)
    (sentOthers : ∀ i, i ≠ j → sent.filter (·.itemId == i) = s.sentFor i)
    (own : ∀ r, s.records[j]? = some r →
      Account r (s.handed.count j) (sent.filter (·.itemId == j)) (.released : Place σ)) :
    { s.setWorker k .idle with sent }.Sound n := by
  have fewer : (s.setWorker k .idle).holding.Sublist s.holding := List.filterMap_set_sublist rfl
  have distinct : (s.queue.map Prod.fst ++ (s.setWorker k .idle).holding).Nodup :=
    sound.distinct.sublist (fewer.append_left _)
  have gone : j ∉ (s.setWorker k .idle).holding :=
    not_mem_filterMap_set (List.nodup_append.1 sound.distinct).2.1 at_ held rfl
  refine ⟨sound.listed, sound.length, distinct, sound.queuedWithin,
    fun i member => sound.heldWithin i (fewer.subset member), sound.handedWithin, sentWithin, ?_,
    exits_setWorker sound.exits fun left => (nomatch left), sound.flagged, sound.unflagged,
    sound.swept, sound.counted⟩
  refine accounts_frame sound.accounts (fun _ _ => rfl) (fun _ _ => rfl) sentOthers
    (fun i other => place_setWorker at_ ?_ (by simp [Worker.held])) fun r found => ?_
  · rw [held]
    exact fun same => other (Option.some.inj same).symm
  · show Account r (s.handed.count j) (sent.filter (·.itemId == j)) ((s.setWorker k .idle).place j)
    rw [place_released (s := s.setWorker k .idle) (fun queued => sound.ne_held queued at_ held rfl) gone]
    exact own r found

/-- An item whose worker could not mark it was cancelled by a cancel call first. -/
theorem Sound.refused_cancelled (sound : s.Sound n) {bindings : Map} {e : TrackerError}
    (at_ : s.workers[k]? = some (.took j bindings))
    (refused : s.tracker.markRunning s.job j = .error e) {r : ItemRecord}
    (found : s.records[j]? = some r) : r.status = .cancelled := by
  obtain ⟨⟨pending | cancelled, -⟩, -⟩ := sound.account_held at_ rfl found
  · have marked : s.tracker.markRunning s.job j = .ok _ :=
      Tracker.transition_eq_ok.2 ⟨s.records, r, sound.listed, found, pending, rfl⟩
    rw [marked] at refused
    cases refused
  · exact cancelled

theorem Sound.skip (sound : s.Sound n) {bindings : Map} {e : TrackerError}
    (at_ : s.workers[k]? = some (.took j bindings))
    (refused : s.tracker.markRunning s.job j = .error e) : (s.setWorker k .idle).Sound n := by
  refine (sound.release at_ rfl sound.sentWithin (fun _ _ => rfl) fun r found => ?_ :
    { s.setWorker k .idle with sent := s.sent }.Sound n)
  obtain ⟨-, count, sent⟩ := sound.account_held at_ rfl found
  exact .inl ⟨sound.refused_cancelled at_ refused found, count, sent⟩

theorem Sound.send (sound : s.Sound n) {c : Completion} (at_ : s.workers[k]? = some (.sending c)) :
    { s.setWorker k .idle with sent := s.sent ++ [c] }.Sound n := by
  refine sound.release at_ rfl ?_ ?_ fun r found => ?_
  · intro c' member
    rcases List.mem_append.1 member with old | new
    · exact sound.sentWithin c' old
    · rw [List.mem_singleton.1 new]
      exact sound.heldWithin _ (mem_holding.2 ⟨k, _, at_, rfl⟩)
  · intro i other
    simp [List.filter_append, sentFor, Ne.symm other]
  · obtain ⟨reports, count, sent⟩ := sound.account_held at_ rfl found
    refine .inr ⟨c, reports, count, ?_⟩
    rw [List.filter_append]
    show s.sentFor c.itemId ++ _ = _
    simp [sent]

theorem Sound.flag_of_cancelling (sound : s.Sound n) {x : Nat × Nat} (at_ : s.cancelling = some x) :
    s.cancelled = true := by
  cases flag : s.cancelled
  · rw [(sound.unflagged flag).1] at at_
    cases at_
  · rfl

theorem Sound.cancel (sound : s.Sound n) (free : s.cancelling = none) :
    { s with cancelled := true, cancelling := some (0, 0) }.Sound n := by
  refine ⟨sound.listed, sound.length, sound.distinct, sound.queuedWithin, sound.heldWithin,
    sound.handedWithin, sound.sentWithin, sound.accounts, fun _ => .inr rfl, fun _ => .inl rfl,
    fun flag => (nomatch flag),
    fun i queued r found => ⟨fun k c now before => ?_, (sound.swept i queued r found).2⟩, ?_⟩
  · cases now
    exact absurd before (Nat.not_lt_zero i)
  · have counted := sound.counted
    rw [free] at counted
    exact counted

theorem Sound.cancelOne (sound : s.Sound n) {item count : Nat} {t : Tracker}
    (at_ : s.cancelling = some (item, count))
    (cancelled : s.tracker.markCancelled s.job item = .ok t) :
    { s with tracker := t, cancelling := some (item + 1, count + 1) }.Sound n := by
  obtain ⟨r, found, pending, records⟩ := sound.transition cancelled
  have records' := records_eq (s := { s with tracker := t, cancelling := some (item + 1, count + 1) })
    records
  have inside : item < s.records.length := (List.getElem?_eq_some_iff.1 found).1
  have r_eq : s.records[item] = r := (List.getElem?_eq_some_iff.1 found).2
  have more : (s.records.set item { r with status := .cancelled, finished := true }).countP
      (·.status == .cancelled) = s.records.countP (·.status == .cancelled) + 1 := by
    rw [List.countP_set inside, r_eq]
    simp [pending]
  refine ⟨records'.symm ▸ records, by rw [records', List.length_set, sound.length],
    sound.distinct, sound.queuedWithin, sound.heldWithin, sound.handedWithin, sound.sentWithin, ?_,
    sound.exits, fun _ => .inl rfl, fun flag => ?_, ?_, ?_⟩
  · refine accounts_frame sound.accounts
      (fun i other => records' ▸ List.getElem?_set_ne (Ne.symm other)) (fun _ _ => rfl)
      (fun _ _ => rfl) (fun _ _ => rfl) fun r' found' => ?_
    rw [records', List.getElem?_set_self inside, Option.some.injEq] at found'
    subst found'
    exact Account.cancel (r := r) (sound.accounts item r found) pending
  · exact (Bool.eq_false_iff.1 flag (sound.flag_of_cancelling at_)).elim
  · intro i queued r' found'
    rw [records'] at found'
    by_cases same : i = item
    · subst same
      rw [List.getElem?_set_self inside, Option.some.injEq] at found'
      subst found'
      exact ⟨fun _ _ _ _ => rfl, fun _ => rfl⟩
    · rw [List.getElem?_set_ne (Ne.symm same)] at found'
      obtain ⟨passed, returned⟩ := sound.swept i queued r' found'
      refine ⟨fun k c now before => ?_, returned⟩
      cases now
      exact passed item count at_ (by omega)
  · have counted := sound.counted
    rw [at_] at counted
    rw [records', more]
    simp only [Option.map_some, Option.getD_some] at counted ⊢
    omega

theorem Sound.cancelPass (sound : s.Sound n) {item count : Nat} {e : TrackerError}
    (at_ : s.cancelling = some (item, count))
    (refused : s.tracker.markCancelled s.job item = .error e) :
    { s with cancelling := some (item + 1, count) }.Sound n := by
  refine ⟨sound.listed, sound.length, sound.distinct, sound.queuedWithin, sound.heldWithin,
    sound.handedWithin, sound.sentWithin, sound.accounts, sound.exits, fun _ => .inl rfl,
    fun flag => (Bool.eq_false_iff.1 flag (sound.flag_of_cancelling at_)).elim,
    fun i queued r found => ⟨fun k c now before => ?_, (sound.swept i queued r found).2⟩, ?_⟩
  · cases now
    by_cases same : i = item
    · subst same
      have account : Account r (s.handed.count i) (s.sentFor i) (.queued : Place σ) :=
        place_queued queued ▸ sound.accounts i r found
      rcases account.1.1 with pending | cancelled
      · have moved : s.tracker.markCancelled s.job i = .ok _ :=
          Tracker.transition_eq_ok.2 ⟨s.records, r, sound.listed, found, pending, rfl⟩
        rw [moved] at refused
        cases refused
      · exact cancelled
    · exact (sound.swept i queued r found).1 item count at_ (by omega)
  · have counted := sound.counted
    rw [at_] at counted
    exact counted

theorem Sound.cancelDone (sound : s.Sound n) {item count : Nat}
    (at_ : s.cancelling = some (item, count)) (past : n ≤ item) :
    { s with cancelling := none, returned := s.returned ++ [count] }.Sound n := by
  refine ⟨sound.listed, sound.length, sound.distinct, sound.queuedWithin, sound.heldWithin,
    sound.handedWithin, sound.sentWithin, sound.accounts, sound.exits, fun _ => .inr (by simp),
    fun flag => (Bool.eq_false_iff.1 flag (sound.flag_of_cancelling at_)).elim,
    fun i queued r found => ⟨fun _ _ free => (nomatch free), fun _ =>
      (sound.swept i queued r found).1 item count at_ (by
        have := sound.queuedWithin i queued
        omega)⟩, ?_⟩
  have counted := sound.counted
  rw [at_] at counted
  simp only [Option.map_some, Option.getD_some] at counted
  change (s.returned ++ [count]).sum + 0 = s.records.countP (·.status == .cancelled)
  rw [List.sum_append, List.sum_singleton, Nat.add_zero, counted]

/-- Every step keeps a job sound. -/
theorem Sound.step {agents : Agents σ} {maxSteps : Nat} {s' : Pool σ} (sound : s.Sound n)
    (step : Step agents maxSteps s s') : s'.Sound n := by
  cases step with
  | look at_ => exact sound.look at_
  | drained at_ empty => exact sound.drained at_ empty
  | take at_ front => exact sound.take at_ front
  | mark at_ marked => exact sound.mark at_ marked
  | skip at_ refused => exact sound.skip at_ refused
  | hand at_ => exact sound.hand at_
  | tick at_ => exact sound.interpret _ at_ rfl fun _ account => account
  | finish at_ => exact sound.interpret _ at_ rfl fun _ account => account
  | record at_ recorded => exact sound.record at_ recorded
  | unrecorded at_ refused =>
    obtain ⟨t, recorded⟩ := sound.recordOutcome_ok at_
    rw [recorded] at refused
    cases refused
  | send at_ => exact sound.send at_
  | cancel free => exact sound.cancel free
  | cancelOne at_ cancelled => exact sound.cancelOne at_ cancelled
  | cancelPass at_ _ _ refused => exact sound.cancelPass at_ refused
  | cancelDone at_ listed past =>
    refine sound.cancelDone at_ ?_
    rw [← sound.length, records_eq listed]
    exact past

end Steps

/-! What holds along every run. -/

theorem Sound.run {agents : Agents σ} {maxSteps n : Nat} {s s' : Pool σ} (sound : s.Sound n)
    (run : Relation.ReflTransGen (Step agents maxSteps) s s') : s'.Sound n := by
  induction run with
  | refl => exact sound
  | tail _ step kept => exact kept.step step

/-- No step changes the job's number or program, or adds or removes a worker. -/
theorem Step.frame {agents : Agents σ} {maxSteps : Nat} {s s' : Pool σ}
    (step : Step agents maxSteps s s') :
    s'.job = s.job ∧ s'.program = s.program ∧ s'.workers.length = s.workers.length := by
  cases step <;> simp [setWorker]

theorem frame_of_run {agents : Agents σ} {maxSteps : Nat} {s s' : Pool σ}
    (run : Relation.ReflTransGen (Step agents maxSteps) s s') :
    s'.job = s.job ∧ s'.program = s.program ∧ s'.workers.length = s.workers.length := by
  induction run with
  | refl => exact ⟨rfl, rfl, rfl⟩
  | tail _ step same =>
    obtain ⟨job, program, length⟩ := step.frame
    exact ⟨job.trans same.1, program.trans same.2.1, length.trans same.2.2⟩

/-- A job run from its launch keeps its number, its program and its number of workers. -/
theorem frame_of_launch {agents : Agents σ} {maxSteps : Nat} {t : Tracker} {agent : σ}
    {program : Program} {inputs : List ItemInput} {workers : Nat} {s : Pool σ}
    (run : Relation.ReflTransGen (Step agents maxSteps) (launch t agent program inputs workers) s) :
    s.job = (t.register inputs).1 ∧ s.program = program ∧ s.workers.length = workers := by
  obtain ⟨job, same, length⟩ := frame_of_run run
  refine ⟨job, same, ?_⟩
  rw [length]
  exact List.length_replicate

theorem count_sent (s : Pool σ) (i : Nat) :
    (s.sent.map (·.itemId)).count i = (s.sentFor i).length := by
  rw [List.count, List.countP_map, List.countP_eq_length_filter]
  rfl

theorem count_map_status (rs : List ItemRecord) (status : ItemStatus) :
    (rs.map (·.status)).count status = rs.countP (·.status == status) := by
  rw [List.count, List.countP_map]
  rfl

section Reading

variable {s : Pool σ} {n : Nat}

theorem Sound.snapshot (sound : s.Sound n) :
    s.tracker.snapshot s.job = .ok (Progress.ofStatuses (s.records.map (·.status))) := by
  simp only [Tracker.snapshot, sound.listed]
  rfl

theorem Sound.untouched (sound : s.Sound n) {i : Nat} (absent : s.records[i]? = none) :
    s.handed.count i = 0 ∧ s.sentFor i = [] := by
  rw [List.getElem?_eq_none_iff, sound.length] at absent
  refine ⟨List.count_eq_zero_of_not_mem fun member => ?_,
    List.filter_eq_nil_iff.2 fun c member => ?_⟩
  · have := sound.handedWithin i member
    omega
  · have := sound.sentWithin c member
    simp only [beq_iff_eq]
    omega

theorem Sound.count_le_one (sound : s.Sound n) (i : Nat) :
    s.handed.count i ≤ 1 ∧ (s.sentFor i).length ≤ 1 := by
  cases found : s.records[i]? with
  | none =>
    obtain ⟨zero, none⟩ := sound.untouched found
    simp [zero, none]
  | some r =>
    obtain ⟨once, reported, -⟩ := (sound.accounts i r found).summary
    exact ⟨once, Nat.le_trans reported once⟩

theorem Sound.handed_nodup (sound : s.Sound n) : s.handed.Nodup :=
  List.nodup_iff_count_le_one.2 fun i => (sound.count_le_one i).1

theorem Sound.sent_nodup (sound : s.Sound n) : (s.sent.map (·.itemId)).Nodup :=
  List.nodup_iff_count_le_one.2 fun i => count_sent s i ▸ (sound.count_le_one i).2

/-- An item handed over was marked first: it is running or finished, done or failed. -/
theorem Sound.handed_marked (sound : s.Sound n) {i : Nat} (member : i ∈ s.handed) :
    ∃ r, s.records[i]? = some r ∧ r.started = true ∧
      (r.status = .running ∨ r.status = .done ∨ r.status = .error) := by
  have handed : 0 < s.handed.count i := List.count_pos_iff.2 member
  cases found : s.records[i]? with
  | none =>
    have := (sound.untouched found).1
    omega
  | some r =>
    obtain ⟨once, -, -, marked⟩ := (sound.accounts i r found).summary
    exact ⟨r, rfl, marked (by omega)⟩

theorem Sound.sent_reports (sound : s.Sound n) {c : Completion} (member : c ∈ s.sent) :
    ∃ r, s.records[c.itemId]? = some r ∧ r.Reports c := by
  have inside : c.itemId < s.records.length := sound.length ▸ sound.sentWithin c member
  have mine : c ∈ s.sentFor c.itemId := mem_sentFor.2 ⟨member, rfl⟩
  obtain ⟨-, -, reports, -⟩ := (sound.accounts _ _ (List.getElem?_eq_getElem inside)).summary
  exact ⟨_, List.getElem?_eq_getElem inside, reports c mine⟩

/-- Once a job has settled every item is let go: cancelled before it ran, or reported once. -/
theorem Sound.settled (sound : s.Sound n) (settled : s.Settled) (staffed : 0 < s.workers.length)
    {i : Nat} {r : ItemRecord} (found : s.records[i]? = some r) :
    Account r (s.handed.count i) (s.sentFor i) (.released : Place σ) := by
  have account := sound.accounts i r found
  have notHeld : i ∉ s.holding := fun member => by
    obtain ⟨k, w, at_, held⟩ := mem_holding.1 member
    rw [settled.1 w (List.mem_of_getElem? at_)] at held
    cases held
  by_cases queued : i ∈ s.queue.map Prod.fst
  · -- the workers left with items queued, so the flag was set and a cancel call swept them
    rw [place_queued queued] at account
    have exited : Worker.exited ∈ s.workers := by
      obtain ⟨w, member⟩ := List.exists_mem_of_length_pos staffed
      exact settled.1 w member ▸ member
    rcases sound.exits exited with empty | flag
    · rw [empty] at queued
      exact (List.not_mem_nil queued).elim
    · have returned : s.returned ≠ [] := by
        rcases sound.flagged flag with busy | returned
        · rw [settled.2] at busy
          cases busy
        · exact returned
      exact .inl ⟨(sound.swept i queued r found).2 returned, account.2⟩
  · rwa [place_released queued notHeld] at account

theorem Sound.settled_perm (sound : s.Sound n) (settled : s.Settled)
    (staffed : 0 < s.workers.length) : (s.sent.map (·.itemId)).Perm s.handed := by
  refine List.perm_iff_count.2 fun i => ?_
  rw [count_sent]
  cases found : s.records[i]? with
  | none =>
    obtain ⟨zero, none⟩ := sound.untouched found
    rw [zero, none]
    rfl
  | some r =>
    rcases sound.settled settled staffed found with ⟨-, zero, none⟩ | ⟨c, -, one, only⟩
    · rw [zero, none]
      rfl
    · rw [one, only]
      rfl

theorem Sound.settled_status (sound : s.Sound n) (settled : s.Settled)
    (staffed : 0 < s.workers.length) (status : ItemStatus) (open_ : status.isTerminal = false) :
    (s.records.map (·.status)).count status = 0 := by
  refine List.count_eq_zero.2 fun member => ?_
  obtain ⟨r, inside, rfl⟩ := List.mem_map.1 member
  obtain ⟨i, found⟩ := List.mem_iff_getElem?.1 inside
  rcases sound.settled settled staffed found with ⟨cancelled, -⟩ | ⟨c, reports, -⟩
  · rw [cancelled] at open_
    cases open_
  · rcases reports.final with final | final <;> rw [final] at open_ <;> cases open_

theorem Sound.flag_of_cancelled (sound : s.Sound n) {i : Nat} {r : ItemRecord}
    (found : s.records[i]? = some r) (cancelled : r.status = .cancelled) : s.cancelled = true := by
  cases flag : s.cancelled
  · obtain ⟨free, none⟩ := sound.unflagged flag
    have counted := sound.counted
    rw [free, none] at counted
    have := List.countP_eq_zero.1 counted.symm r (List.mem_of_getElem? found)
    simp [cancelled] at this
  · rfl

/-- Once a job has settled with no cancel call made, every item was reported once. -/
theorem Sound.reported (sound : s.Sound n) (settled : s.Settled) (staffed : 0 < s.workers.length)
    (uncancelled : s.cancelled = false) {i : Nat} {r : ItemRecord}
    (found : s.records[i]? = some r) : ∃ c, r.Reports c ∧ s.sentFor i = [c] := by
  have none : s.records.countP (·.status == .cancelled) = 0 := by
    have counted := sound.counted
    rw [settled.2, (sound.unflagged uncancelled).2] at counted
    exact counted.symm
  rcases sound.settled settled staffed found with ⟨cancelled, -⟩ | ⟨c, reports, -, only⟩
  · have := List.countP_eq_zero.1 none r (List.mem_of_getElem? found)
    simp [cancelled] at this
  · exact ⟨c, reports, only⟩

end Reading

/-- What holds at every state of a run of a job of `n` items. -/
structure Safe (s : Pool σ) (n : Nat) : Prop where
  /-- an item is handed to the interpreter at most once -/
  handedOnce : s.handed.Nodup
  /-- and only once it was marked running, so it is never cancelled -/
  handedMarked : ∀ i ∈ s.handed, ∃ r, s.records[i]? = some r ∧ r.started = true ∧
    (r.status = .running ∨ r.status = .done ∨ r.status = .error)
  /-- at most one completion is sent for an item -/
  sentOnce : (s.sent.map (·.itemId)).Nodup
  /-- a completion has its item's final status and cause -/
  sentReports : ∀ c ∈ s.sent, ∃ r, s.records[c.itemId]? = some r ∧ r.status = c.status ∧
    r.error = c.error ∧ (c.status = .done ∨ c.status = .error)
  /-- with no cancel call midway, the counts the cancel calls returned add up to the items
  cancelled -/
  counted : s.cancelling = none → s.returned.sum = s.records.countP (·.status == .cancelled)
  /-- once the job has settled, one completion was sent per item handed over, and the progress
  shows no item pending or running, the cancelled ones counted by the cancel calls, and, when
  no cancel call was made, every item done or failed -/
  settled : s.Settled → (s.sent.map (·.itemId)).Perm s.handed ∧
    ∃ p, s.tracker.snapshot s.job = .ok p ∧ p.total = n ∧ p.pending = 0 ∧ p.running = 0 ∧
      p.cancelled = s.returned.sum ∧ (s.returned = [] → p.done + p.error = n)

/-- Whatever the interleaving of a job's workers and of any cancel calls, an item is run at most
once and only after it was marked, never both run and cancelled; each item that ran is reported
once with its final record; the cancel calls count the items cancelled; and the job settles with
no item pending or running. -/
theorem safe_of_reaches (agents : Agents σ) (maxSteps : Nat) {workers : Nat} {t : Tracker}
    {agent : σ} {program : Program} {inputs : List ItemInput} {s : Pool σ} (sound : t.Sound)
    (staffed : 0 < workers)
    (run : Relation.ReflTransGen (Step agents maxSteps) (launch t agent program inputs workers) s) :
    s.Safe inputs.length := by
  have kept := (sound_launch sound agent program inputs workers).run run
  have staffed' : 0 < s.workers.length := (frame_of_launch run).2.2 ▸ staffed
  have counted : s.cancelling = none → s.returned.sum = s.records.countP (·.status == .cancelled) := by
    intro free
    have counted := kept.counted
    rw [free] at counted
    exact counted
  refine ⟨kept.handed_nodup, fun i member => kept.handed_marked member, kept.sent_nodup,
    fun c member => ?_, counted, fun settled => ⟨kept.settled_perm settled staffed', ?_⟩⟩
  · obtain ⟨r, found, status, error, final, -⟩ := kept.sent_reports member
    exact ⟨r, found, status, error, final⟩
  · have total := Progress.count_statuses (s.records.map (·.status))
    have pending := kept.settled_status settled staffed' .pending rfl
    have running := kept.settled_status settled staffed' .running rfl
    have cancelled : (s.records.map (·.status)).count .cancelled = s.returned.sum := by
      rw [count_map_status, counted settled.2]
    refine ⟨_, kept.snapshot, by simp [kept.length], by simp [pending], by simp [running],
      by simp [cancelled], fun none => ?_⟩
    rw [none, List.sum_nil] at cancelled
    simp only [Progress.ofStatuses_done, Progress.ofStatuses_error]
    rw [List.length_map, kept.length] at total
    omega

end Pool

/-- Collaborators that send each template as written and read each answer as one field `TEXT`;
the provider answers with the request's text, its time the number of requests before it. -/
def Agents.counting : Agents Nat where
  render n template _ := (.ok template, n)
  answer n request := (.ok { rawText := request.text, turnaroundMs := n.toUInt64 }, n + 1)
  read n raw _ := (.ok [("TEXT", .str raw)], n)

/-- One prompt, then a row with the item's iteration. -/
def Program.askThenRow : Program :=
  ⟨"w", [.prompt "p" { template := "q" }, .output [("i", .var "iteration")]], [none, none], [0, 0],
    none⟩

namespace Pool

set_option maxRecDepth 4000 in
/-- Two workers and a cancel call racing them: the second worker has taken item 1 but not marked
it when the call cancels it, so it skips the item, while item 0 runs to the end. -/
theorem safe_of_reaches_cancel_race : ∃ s : Pool Nat,
    Relation.ReflTransGen (Step Agents.counting 10)
      (launch {} 0 Program.askThenRow [.pass 0, .pass 1] 2) s ∧
    s.Settled ∧ s.handed = [0] ∧ s.returned = [1] ∧ s.Safe 2 := by
  have run : Relation.ReflTransGen (Step Agents.counting 10)
      (launch {} 0 Program.askThenRow [.pass 0, .pass 1] 2) _ :=
    .tail (.tail (.tail (.tail (.tail (.tail (.tail (.tail (.tail (.tail (.tail (.tail (.tail (.tail
      (.tail (.tail (.tail (.tail .refl
      (Step.look (k := 0) rfl)) (Step.take (k := 0) rfl rfl)) (Step.mark (k := 0) rfl rfl))
      (Step.hand (k := 0) rfl)) (Step.look (k := 1) rfl)) (Step.take (k := 1) rfl rfl))
      (Step.cancel rfl)) (Step.cancelPass rfl rfl (by decide) rfl)) (Step.cancelOne rfl rfl))
      (Step.cancelDone rfl rfl (by decide))) (Step.skip (k := 1) rfl rfl))
      (Step.look (k := 1) rfl)) (Step.tick (k := 0) rfl rfl)) (Step.tick (k := 0) rfl rfl))
      (Step.finish (k := 0) rfl rfl)) (Step.record (k := 0) rfl rfl)) (Step.send (k := 0) rfl))
      (Step.look (k := 0) rfl)
  refine ⟨_, run, ⟨fun w member => ?_, rfl⟩, rfl, rfl,
    safe_of_reaches Agents.counting 10 Tracker.empty_sound (by decide) run⟩
  have listed : w ∈ [Worker.exited, Worker.exited] := member
  simp only [List.mem_cons, List.not_mem_nil, or_false, or_self] at listed
  exact listed

end Pool

end PromptPipeline
