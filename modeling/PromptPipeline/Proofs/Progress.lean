import PromptPipeline.Proofs.Pool
/-!
The progress of a job.

A snapshot counts a job's items by status, and its percent is the share of finished items,
rounded down, with 100 for a job without items (`Progress.ofStatuses_eq`). So the counts add up
to the number of items, the percent is at most 100 and is 100 exactly when every item has
finished, and the job status is running exactly while an item is pending or running, and
cancelled exactly when the job has items and all of them were cancelled.

Every operation of the tracker keeps the number of a job's items and moves each of their statuses
at most one step on (`Tracker.call_statuses`), so along any sequence of operations a status only
moves forward, and a final one stays (`Tracker.replay_statuses`). Hence the counts of finished
items and the percent never fall, and a job that is no longer running keeps its status
(`Tracker.progress_of_replay`).
-/
namespace PromptPipeline

open Relation

namespace ItemStatus

/-- A status reached from a final one is that status. -/
theorem eq_of_reaches {s s' : ItemStatus} (final : s.isTerminal) (reaches : ReflTransGen Advances s s') :
    s' = s := by
  induction reaches with
  | refl => rfl
  | tail _ moved same =>
    subst same
    have := moved.not_terminal
    simp_all

end ItemStatus

/-! Counting statuses. -/

namespace Progress

/-- The progress of a list of statuses: each count, and the finished share in percent. -/
theorem ofStatuses_eq (l : List ItemStatus) :
    ofStatuses l =
      { total := l.length, pending := l.count .pending, running := l.count .running,
        done := l.count .done, error := l.count .error, cancelled := l.count .cancelled,
        percent := if l.length = 0 then 100 else
          (l.count .done + l.count .error + l.count .cancelled) * 100 / l.length } := by
  simp [ofStatuses, foldl_count, terminal]

/-- The finished items are those done, failed or cancelled. -/
theorem count_terminal (l : List ItemStatus) :
    l.count .done + l.count .error + l.count .cancelled = l.countP (·.isTerminal) := by
  induction l with
  | nil => rfl
  | cons s rest ih =>
    rw [List.countP_cons, ← ih]
    cases s <;> simp [ItemStatus.isTerminal] <;> omega

/-- The share of `finished` items out of `n` in percent, rounded down; 100 when there are none. -/
theorem share_le {finished n : Nat} (within : finished ≤ n) :
    (if n = 0 then 100 else finished * 100 / n) ≤ 100 := by
  split
  · exact Nat.le_refl _
  · exact Nat.div_le_of_le_mul (Nat.mul_le_mul_right 100 within)

theorem share_eq_hundred {finished n : Nat} (within : finished ≤ n) :
    (if n = 0 then 100 else finished * 100 / n) = 100 ↔ finished = n := by
  split
  · rename_i empty
    subst empty
    omega
  · rename_i present
    constructor
    · intro full
      by_contra short
      have below : finished * 100 < 100 * n := by
        rw [Nat.mul_comm 100]
        exact Nat.mul_lt_mul_of_pos_right (Nat.lt_of_le_of_ne within short) (by decide)
      have := (Nat.div_lt_iff_lt_mul (Nat.pos_of_ne_zero present)).2 below
      omega
    · rintro rfl
      exact Nat.mul_div_cancel_left 100 (Nat.pos_of_ne_zero present)

theorem share_mono {finished finished' n : Nat} (more : finished ≤ finished') :
    (if n = 0 then 100 else finished * 100 / n) ≤ (if n = 0 then 100 else finished' * 100 / n) := by
  split
  · exact Nat.le_refl _
  · exact Nat.div_le_div_right (Nat.mul_le_mul_right 100 more)

theorem jobStatus_eq_running_iff (p : Progress) : p.jobStatus = .running ↔ 0 < p.pending + p.running := by
  unfold jobStatus
  split_ifs <;> simp_all

theorem jobStatus_eq_cancelled_iff (p : Progress) :
    p.jobStatus = .cancelled ↔ p.pending + p.running = 0 ∧ 0 < p.total ∧ p.cancelled = p.total := by
  unfold jobStatus
  split_ifs <;> simp_all
  omega

end Progress

/-! What each operation does to the statuses of a job. -/

namespace Tracker

/-- Statuses compared item by item: each kept, or moved by `R`. -/
theorem forall₂_trans {R S T : ItemStatus → ItemStatus → Prop} (compose : ∀ a b c, R a b → S b c → T a c) :
    ∀ {l₁ l₂ l₃ : List ItemStatus}, List.Forall₂ R l₁ l₂ → List.Forall₂ S l₂ l₃ → List.Forall₂ T l₁ l₃
  | [], [], [], .nil, .nil => .nil
  | _ :: _, _ :: _, _ :: _, .cons first rest, .cons first' rest' =>
    .cons (compose _ _ _ first first') (forall₂_trans compose rest rest')

/-- Replacing one entry by a later one, all else kept. -/
theorem forall₂_set {R : ItemStatus → ItemStatus → Prop} (refl : ∀ a, R a a) :
    ∀ (l : List ItemStatus) (i : Nat) (b : ItemStatus), (∀ a, l[i]? = some a → R a b) →
      List.Forall₂ R l (l.set i b)
  | [], _, _, _ => .nil
  | a :: _, 0, _, moved => .cons (moved a rfl) (List.forall₂_same.2 fun x _ => refl x)
  | a :: l, i + 1, b, moved => .cons (refl a) (forall₂_set refl l i b fun x found => moved x found)

variable {t t' : Tracker} {job : Nat} {rs : List ItemRecord}

theorem snapshot_eq (listed : t.records job = .ok rs) :
    t.snapshot job = .ok (Progress.ofStatuses (rs.map (·.status))) := by
  simp [snapshot, listed, bind, Except.bind, pure, Except.pure]

theorem status_eq (listed : t.records job = .ok rs) :
    t.status job = .ok (Progress.ofStatuses (rs.map (·.status))).jobStatus := by
  simp [status, snapshot_eq listed, Functor.map, Except.map]

/-- A move of one item, to a status one step on, keeps every job's number of items and moves at
most that item. -/
theorem transition_statuses {job' item : Nat} {source target : ItemStatus}
    {update : ItemRecord → ItemRecord} (moved : t.transition job' item source target update = .ok t')
    (advances : source.Advances target) (keeps : ∀ r, (update r).status = r.status)
    (listed : t.records job = .ok rs) :
    ∃ rs', t'.records job = .ok rs' ∧
      List.Forall₂ (ReflGen ItemStatus.Advances) (rs.map (·.status)) (rs'.map (·.status)) := by
  obtain ⟨rs₀, r, listed₀, at_, was, rfl⟩ := transition_eq_ok.1 moved
  by_cases same : job = job'
  · subst same
    rw [listed] at listed₀
    cases listed₀
    refine ⟨_, records_setRecords_self listed, ?_⟩
    rw [List.map_set, keeps]
    refine forall₂_set (fun _ => .refl) _ item target fun a found => ?_
    rw [List.getElem?_map, at_] at found
    cases found
    dsimp only
    rw [was]
    exact .single advances
  · rw [records_setRecords_of_ne t _ same]
    exact ⟨rs, listed, List.forall₂_same.2 fun _ _ => .refl⟩

theorem settle_statuses {moved : Except TrackerError Tracker} (listed : t.records job = .ok rs)
    (kept : ∀ t', moved = .ok t' → ∃ rs', t'.records job = .ok rs' ∧
      List.Forall₂ (ReflGen ItemStatus.Advances) (rs.map (·.status)) (rs'.map (·.status))) :
    ∃ rs', (t.settle moved).2.records job = .ok rs' ∧
      List.Forall₂ (ReflGen ItemStatus.Advances) (rs.map (·.status)) (rs'.map (·.status)) := by
  cases moved with
  | ok t' => exact kept t' rfl
  | error e => exact ⟨rs, listed, List.forall₂_same.2 fun _ _ => .refl⟩

/-- Any operation keeps the number of a job's items and moves each of their statuses at most
one step on. -/
theorem call_statuses (op : Op) (listed : t.records job = .ok rs) :
    ∃ rs', (t.call op).2.records job = .ok rs' ∧
      List.Forall₂ (ReflGen ItemStatus.Advances) (rs.map (·.status)) (rs'.map (·.status)) := by
  cases op with
  | register inputs =>
    -- a new job comes after the others, so a job's records are found where they were
    refine ⟨rs, ?_, List.forall₂_same.2 fun _ _ => .refl⟩
    show (t.register inputs).2.records job = _
    rw [register_eq]
    simp only [records_eq_ok, List.lookup_append] at listed ⊢
    simp [listed]
  | markRunning job' item =>
    exact settle_statuses listed fun _ moved => transition_statuses moved .take (fun _ => rfl) listed
  | markDone job' item o =>
    exact settle_statuses listed fun _ moved => transition_statuses moved .finish (fun _ => rfl) listed
  | markError job' item cause o =>
    exact settle_statuses listed fun _ moved => transition_statuses moved .fail (fun _ => rfl) listed
  | markCancelled job' item =>
    exact settle_statuses listed fun _ moved => transition_statuses moved .cancel (fun _ => rfl) listed
  | cancelPending job' =>
    simp only [call]
    cases cancelled : t.cancelPending job' with
    | error e => exact ⟨rs, listed, List.forall₂_same.2 fun _ _ => .refl⟩
    | ok result =>
      obtain ⟨n, t'⟩ := result
      obtain ⟨rs₀, listed₀, -, rfl⟩ := cancelPending_eq_ok.1 cancelled
      by_cases same : job = job'
      · subst same
        rw [listed] at listed₀
        cases listed₀
        refine ⟨_, records_setRecords_self listed, ?_⟩
        rw [List.map_map, List.forall₂_map_left_iff, List.forall₂_map_right_iff]
        refine List.forall₂_same.2 fun r _ => ?_
        simp only [Function.comp_apply, cancelIfPending_status]
        split
        · rename_i pending
          rw [pending]
          exact .single .cancel
        · exact .refl
      · rw [records_setRecords_of_ne t _ same]
        exact ⟨rs, listed, List.forall₂_same.2 fun _ _ => .refl⟩

/-- Along any sequence of operations a job keeps its number of items, and each status only moves
forward. -/
theorem replay_statuses (ops : List Op) : ∀ {t : Tracker} {rs : List ItemRecord},
    t.records job = .ok rs → ∃ rs', (t.replay ops).records job = .ok rs' ∧
      List.Forall₂ (ReflTransGen ItemStatus.Advances) (rs.map (·.status)) (rs'.map (·.status)) := by
  induction ops with
  | nil => exact fun listed => ⟨_, listed, List.forall₂_same.2 fun _ _ => .refl⟩
  | cons op ops ih =>
    intro t rs listed
    obtain ⟨rs₁, listed₁, moved⟩ := call_statuses op listed
    obtain ⟨rs', listed', later⟩ := ih listed₁
    refine ⟨rs', listed', forall₂_trans (fun a b c first rest => ?_) moved later⟩
    cases first with
    | refl => exact rest
    | single step => exact ReflTransGen.head step rest

/-- A count of final statuses never falls along statuses that only move forward. -/
theorem count_le_of_reaches {s : ItemStatus} (final : s.isTerminal) :
    ∀ {l l' : List ItemStatus}, List.Forall₂ (ReflTransGen ItemStatus.Advances) l l' →
      l.count s ≤ l'.count s
  | [], [], .nil => Nat.le_refl _
  | a :: l, b :: l', .cons reaches rest => by
    have ih := count_le_of_reaches final rest
    by_cases here : a = s
    · subst here
      rw [ItemStatus.eq_of_reaches final reaches]
      simpa [List.count_cons] using ih
    · -- the item was not counted before; it may be now
      have dropped : (a :: l).count s = l.count s := by simp [here]
      rw [dropped]
      exact ih.trans List.count_le_count_cons

/-- Statuses that are all final no longer move. -/
theorem eq_of_reaches_all :
    ∀ {l l' : List ItemStatus}, (∀ s ∈ l, s.isTerminal) →
      List.Forall₂ (ReflTransGen ItemStatus.Advances) l l' → l' = l
  | [], [], _, .nil => rfl
  | a :: l, b :: l', final, .cons reaches rest => by
    rw [List.forall_mem_cons] at final
    rw [ItemStatus.eq_of_reaches final.1 reaches, eq_of_reaches_all final.2 rest]

end Tracker

/-- For a job with `n` items at any tracker reachable by operations from the empty one, the
snapshot counts its items by status, the counts adding up to `n`, with the percent of finished
items rounded down (100 when `n = 0`), so that the percent is at most 100 and is 100 exactly when
every item has finished; the job status is running exactly while some item is pending or running,
and cancelled exactly when `n > 0` and every item was cancelled. After any further operations the
counts of done, failed and cancelled items and the percent are no lower, and a job status other
than running is unchanged. -/
theorem Tracker.progress_of_replay (ops : List Tracker.Op) (job : Nat) (rs : List ItemRecord)
    (listed : (Tracker.replay {} ops).records job = .ok rs) :
    let t := Tracker.replay {} ops
    let n := rs.length
    ∃ p, t.snapshot job = .ok p ∧
      p.pending + p.running + p.done + p.error + p.cancelled = p.total ∧ p.total = n ∧
      p.percent = (if n = 0 then 100 else (p.done + p.error + p.cancelled) * 100 / n) ∧
      p.percent ≤ 100 ∧ (p.percent = 100 ↔ ∀ r ∈ rs, r.status.isTerminal) ∧
      t.status job = .ok p.jobStatus ∧
      (p.jobStatus = .running ↔ ∃ r ∈ rs, r.status = .pending ∨ r.status = .running) ∧
      (p.jobStatus = .cancelled ↔ 0 < n ∧ ∀ r ∈ rs, r.status = .cancelled) ∧
      ∀ more, ∃ p', (t.replay more).snapshot job = .ok p' ∧
        p.done ≤ p'.done ∧ p.error ≤ p'.error ∧ p.cancelled ≤ p'.cancelled ∧
        p.percent ≤ p'.percent ∧
        (p.jobStatus ≠ .running → (t.replay more).status job = .ok p.jobStatus) := by
  intro t n
  obtain ⟨l, hl⟩ : ∃ l, rs.map (·.status) = l := ⟨_, rfl⟩
  have length : l.length = n := by rw [← hl, List.length_map]
  have sum := Progress.count_statuses l
  have finished : l.count .done + l.count .error + l.count .cancelled ≤ l.length := by omega
  refine ⟨_, Tracker.snapshot_eq listed, ?_⟩
  rw [hl, Progress.ofStatuses_eq]
  dsimp only
  refine ⟨sum, length, by rw [length], Progress.share_le finished, ?_,
    by rw [Tracker.status_eq listed, hl, Progress.ofStatuses_eq], ?_, ?_, fun more => ?_⟩
  · -- the share is full exactly when every status is final
    rw [Progress.share_eq_hundred finished, Progress.count_terminal, List.countP_eq_length, ← hl]
    simp
  · rw [Progress.jobStatus_eq_running_iff, ← hl]
    simp only [Nat.add_pos_iff_pos_or_pos, List.count_pos_iff, List.mem_map]
    constructor
    · rintro (⟨r, member, pending⟩ | ⟨r, member, running⟩)
      · exact ⟨r, member, .inl pending⟩
      · exact ⟨r, member, .inr running⟩
    · rintro ⟨r, member, pending | running⟩
      · exact .inl ⟨r, member, pending⟩
      · exact .inr ⟨r, member, running⟩
  · rw [Progress.jobStatus_eq_cancelled_iff]
    dsimp only
    constructor
    · rintro ⟨-, present, all⟩
      refine ⟨length ▸ present, fun r member => ?_⟩
      exact (List.count_eq_length.1 all r.status (hl ▸ List.mem_map_of_mem member)).symm
    · rintro ⟨present, all⟩
      have every : l.count .cancelled = l.length :=
        List.count_eq_length.2 fun s member => by
          rw [← hl] at member
          obtain ⟨r, kept, rfl⟩ := List.mem_map.1 member
          exact (all r kept).symm
      exact ⟨by omega, by omega, every⟩
  · obtain ⟨rs', listed', later⟩ := Tracker.replay_statuses more listed
    obtain ⟨l', hl'⟩ : ∃ l', rs'.map (·.status) = l' := ⟨_, rfl⟩
    rw [hl, hl'] at later
    have length' := later.length_eq
    refine ⟨_, Tracker.snapshot_eq listed', ?_⟩
    rw [hl', Progress.ofStatuses_eq]
    dsimp only
    -- a final status stays, so every count of final statuses can only grow
    have done := Tracker.count_le_of_reaches (s := .done) rfl later
    have error := Tracker.count_le_of_reaches (s := .error) rfl later
    have cancelled := Tracker.count_le_of_reaches (s := .cancelled) rfl later
    refine ⟨done, error, cancelled, ?_, fun stopped => ?_⟩
    · rw [← length', length]
      exact Progress.share_mono (by omega)
    · -- no item is pending or running, so no status moves any more
      rw [ne_eq, Progress.jobStatus_eq_running_iff] at stopped
      dsimp only at stopped
      have final : ∀ s ∈ l, s.isTerminal := by
        intro s member
        cases s with
        | pending => exact absurd (List.count_pos_iff.2 member) (by omega)
        | running => exact absurd (List.count_pos_iff.2 member) (by omega)
        | done | error | cancelled => rfl
      rw [Tracker.status_eq listed', hl', Tracker.eq_of_reaches_all final later,
        Progress.ofStatuses_eq]

/-- A job of two items, one of them taken by a worker. -/
theorem Tracker.progress_of_replay_one_running :
    let ops : List Tracker.Op := [.register [.pass 0, .pass 1], .markRunning 1 0]
    let rs : List ItemRecord :=
      [{ itemId := 0, input := .pass 0, status := .running, started := true },
        { itemId := 1, input := .pass 1 }]
    (Tracker.replay {} ops).records 1 = .ok rs ∧
      let t := Tracker.replay {} ops
      let n := rs.length
      ∃ p, t.snapshot 1 = .ok p ∧
        p.pending + p.running + p.done + p.error + p.cancelled = p.total ∧ p.total = n ∧
        p.percent = (if n = 0 then 100 else (p.done + p.error + p.cancelled) * 100 / n) ∧
        p.percent ≤ 100 ∧ (p.percent = 100 ↔ ∀ r ∈ rs, r.status.isTerminal) ∧
        t.status 1 = .ok p.jobStatus ∧
        (p.jobStatus = .running ↔ ∃ r ∈ rs, r.status = .pending ∨ r.status = .running) ∧
        (p.jobStatus = .cancelled ↔ 0 < n ∧ ∀ r ∈ rs, r.status = .cancelled) ∧
        ∀ more, ∃ p', (t.replay more).snapshot 1 = .ok p' ∧
          p.done ≤ p'.done ∧ p.error ≤ p'.error ∧ p.cancelled ≤ p'.cancelled ∧
          p.percent ≤ p'.percent ∧
          (p.jobStatus ≠ .running → (t.replay more).status 1 = .ok p.jobStatus) :=
  ⟨rfl, Tracker.progress_of_replay _ 1 _ rfl⟩

end PromptPipeline
