import MattermostCloud.Supervisor.Supervise

/-!
# Any number of supervisors: the lock, and the table

Every interleaving of any number of supervisor instances (one `Proc` per `instanceID`, so the
IDs are distinct by construction).

* **The lock invariants.** `HoldInv`: an instance inside `Supervise` of a cluster installation is
  named by its `LockAcquiredBy`. Every step of the system keeps it (`HoldInv.step`), writes
  without the lock and failed lock and unlock calls included, so it holds in every run from a
  world with no lock and no instance at work, and mutual exclusion (`HoldInv.unique`) follows
  (`locks_held_exclusively`). `LockInv`, the converse as well, is kept by every step whose
  `UnlockClusterInstallations` call succeeds (`LockInv.step`); after one that fails, the lock
  names an instance that has left `Supervise` for good (`failed_unlock_strands_lock`).
* **The table invariant** `SerialInv`: in a run where only supervisors write and the store keeps
  deleted rows readable, the row of the cluster installation an instance supervises is what the
  instance's phase expects (`PhaseInv`): the re-fetched record itself until the transition, a
  state the new state is reachable from in one table step until the pre-write re-fetch, the old
  state of the pending write until it is made.
* From them: every step changes every row's state by at most one row of the spec's transition
  table (`SerialInv.rowStep`), so every persisted state is reachable from every earlier one and a
  terminal state is never left (`supervisors_serialize`).
* The event log: the change an instance records after its write is the table row the write made
  (`PhaseInv` of the metrics and event phases), so every event the supervisors append records a
  row of the table (`supervisors_log_table_transitions`).
-/

namespace MattermostCloud.Supervisor

open ClusterInstallationState World

/-! ## The lock -/

/-- Instance `i` is between a successful `TryLock` of `id` and its `Unlock`. -/
def World.Holds (w : World) (i id : String) : Prop := (w.procs i).holding = some id

/-- An instance inside `Supervise` of a cluster installation is named by its lock. -/
def HoldInv (w : World) : Prop :=
  ∀ id i, w.Holds i id → w.store.lockAcquiredBy id = some i

/-- The lock of a cluster installation names exactly the instance inside `Supervise` of it. -/
def LockInv (w : World) : Prop :=
  ∀ id i, w.store.lockAcquiredBy id = some i ↔ w.Holds i id

/-- The action's `UnlockClusterInstallations` call, if it makes one, succeeds. -/
def Action.UnlockSucceeds : Action → Prop
  | .supervisor _ r => r.unlocked = true
  | _ => True

/-- A world where no lock is held and no instance is at work. -/
structure World.Initial (w : World) : Prop where
  idle : ∀ i, w.procs i = .idle
  unlocked : ∀ id, w.store.lockAcquiredBy id = none

/-- The world at the start, over a store with no lock held, is initial. -/
theorem start_initial (s : Store) (h : ∀ id, s.lockAcquiredBy id = none) : (start s).Initial :=
  ⟨fun _ => rfl, h⟩

variable {w : World}

/-- Mutual exclusion: two instances inside `Supervise` of one cluster installation are one. -/
theorem HoldInv.unique (h : HoldInv w) {id i j : String} (hi : w.Holds i id)
    (hj : w.Holds j id) : i = j :=
  Option.some.inj ((h id i hi).symm.trans (h id j hj))

/-- The two-way lock invariant gives the one from the holder's side. -/
theorem LockInv.holdInv (h : LockInv w) : HoldInv w := fun id i => (h id i).2

/-- With no lock held and no instance at work, the lock invariant holds. -/
theorem lockInv_of_initial (h : w.Initial) : LockInv w := by
  intro id i
  simp [World.Holds, h.idle i, h.unlocked id, Proc.holding]

/-- An instance that changes its place but not what it holds changes no holding. -/
theorem World.setProc_holding {i : String} {p : Proc} (hp : p.holding = (w.procs i).holding)
    (k : String) : ((w.setProc i p).procs k).holding = (w.procs k).holding := by
  by_cases hk : k = i
  · subst hk; simp [World.setProc, hp]
  · simp [World.setProc, Function.update_noteq hk]

/-- Who holds what once instance `i` has become `p`. -/
theorem World.holds_setProc {i : String} {p : Proc} (j id : String) :
    (w.setProc i p).Holds j id ↔ (j = i ∧ p.holding = some id) ∨ (j ≠ i ∧ w.Holds j id) := by
  by_cases hj : j = i
  · subst hj; simp [World.Holds, World.setProc]
  · simp [World.Holds, World.setProc, Function.update_noteq hj, hj]

/-- An instance holds one cluster installation at a time. -/
theorem World.Holds.unique_id {i id id' : String} (h : w.Holds i id) (h' : w.Holds i id') :
    id = id' :=
  Option.some.inj (h.symm.trans h')

/-- A step that changes no lock and no instance's holding keeps the holders named. -/
theorem HoldInv.of_frame {w' : World} (h : HoldInv w)
    (hl : w'.store.lockAcquiredBy = w.store.lockAcquiredBy)
    (hp : ∀ k, (w'.procs k).holding = (w.procs k).holding) : HoldInv w' := by
  intro id k hk
  simp only [World.Holds, hp] at hk
  rw [hl]
  exact h id k hk

/-- **A successful `TryLock`** of a free lock by instance `i` in `Do`'s loop: the lock names `i`,
and `i` holds the cluster installation. -/
theorem acquire_effect {i : String} {ci : ClusterInstallation} {pending : List ClusterInstallation}
    (hfree : w.store.lockAcquiredBy ci.id = none) :
    let w' : World := { w.setProc i (.supervising ci .refetch pending) with
      store := (w.store.lockClusterInstallations [ci.id] i).2 }
    w'.store.lockAcquiredBy = Function.update w.store.lockAcquiredBy ci.id (some i) ∧
    ∀ j id, w'.Holds j id ↔ (j = i ∧ id = ci.id) ∨ (j ≠ i ∧ w.Holds j id) :=
  ⟨by simp [(Store.lockClusterInstallations_singleton ci.id i).2, hfree], fun j id =>
    (World.holds_setProc j id).trans (by simp only [Proc.holding, Option.some.injEq,
      @eq_comm _ ci.id])⟩

/-- **The deferred `Unlock`** of instance `i`, inside `Supervise` of `ci`: the lock of `ci` is
cleared when the call succeeds and the lock names `i`, no other lock changes, and `i` leaves. -/
theorem release_effect {i : String} {ci : ClusterInstallation} {p : Bool}
    {pending : List ClusterInstallation} (hi : w.procs i = .supervising ci (.unlock p) pending)
    (r : Reply) :
    (∀ id, (w.step (.supervisor i r)).store.lockAcquiredBy id =
      if r.unlocked ∧ id = ci.id ∧ w.store.lockAcquiredBy id = some i then none
      else w.store.lockAcquiredBy id) ∧
    ∀ j id, (w.step (.supervisor i r)).Holds j id ↔ j ≠ i ∧ w.Holds j id := by
  have hres : ((if p then Next.panicked else Next.returned).resume ci pending).holding = none := by
    cases p <;> rfl
  simp only [World.step, stepInstance_supervising hi]
  refine ⟨fun id => ?_, fun j id => ?_⟩
  · cases hu : r.unlocked <;> simp [superviseStep, hu, Store.unlockClusterInstallations_singleton]
  · by_cases hj : j = i
    · subst hj; simp [World.Holds, superviseStep, hres]
    · simp [World.Holds, Function.update_noteq hj, hj]

/-- **What a step does to the locks**: nothing, to the locks or to who holds them; a `TryLock`
of a free lock that succeeds, by an instance that held nothing; or the deferred `Unlock` of an
instance inside `Supervise`. -/
theorem step_lock_cases (w : World) (a : Action) :
    ((w.step a).store.lockAcquiredBy = w.store.lockAcquiredBy ∧
      ∀ j id, (w.step a).Holds j id ↔ w.Holds j id) ∨
    (∃ i id, w.store.lockAcquiredBy id = none ∧ (∀ id', ¬w.Holds i id') ∧
      (w.step a).store.lockAcquiredBy = Function.update w.store.lockAcquiredBy id (some i) ∧
      ∀ j id', (w.step a).Holds j id' ↔ (j = i ∧ id' = id) ∨ (j ≠ i ∧ w.Holds j id')) ∨
    (∃ i r id, a = .supervisor i r ∧ w.Holds i id ∧
      (∀ id', (w.step a).store.lockAcquiredBy id' =
        if r.unlocked ∧ id' = id ∧ w.store.lockAcquiredBy id' = some i then none
        else w.store.lockAcquiredBy id') ∧
      ∀ j id', (w.step a).Holds j id' ↔ j ≠ i ∧ w.Holds j id') := by
  -- a step that changes no lock and no holding
  have hframe : ∀ w' : World, w'.store.lockAcquiredBy = w.store.lockAcquiredBy →
      (∀ k, (w'.procs k).holding = (w.procs k).holding) →
      w'.store.lockAcquiredBy = w.store.lockAcquiredBy ∧ ∀ j id, w'.Holds j id ↔ w.Holds j id :=
    fun _ hl hp => ⟨hl, fun j id => by simp only [World.Holds, hp]⟩
  cases a with
  | writeState id st => exact .inl (hframe _ rfl fun _ => rfl)
  | removeRow id => exact .inl (hframe _ rfl fun _ => rfl)
  | supervisor i r =>
    cases hi : w.procs i with
    | idle =>
      simp only [World.step, stepInstance, hi]
      split
      · exact .inl (hframe _ rfl (World.setProc_holding (by rw [hi]; rfl)))
      · exact .inl (hframe _ rfl fun _ => rfl)
    | crashed => simp [World.step, stepInstance, hi]
    | doing pending =>
      cases pending with
      | nil =>
        simp only [World.step, stepInstance, hi]
        exact .inl (hframe _ rfl (World.setProc_holding (by rw [hi]; rfl)))
      | cons ci pending =>
        simp only [World.step, stepInstance, hi]
        split
        · rename_i hok
          have hfree : w.store.lockAcquiredBy ci.id = none := by
            rw [← Option.isNone_iff_eq_none, ← (Store.lockClusterInstallations_singleton ci.id i).1]
            exact ((Bool.and_eq_true _ _).mp hok).2
          exact .inr (.inl ⟨i, ci.id, hfree,
            fun _ h => by simp [World.Holds, hi, Proc.holding] at h, acquire_effect hfree⟩)
        · exact .inl (hframe _ rfl (World.setProc_holding (by rw [hi]; rfl)))
    | supervising ci ph pending =>
      by_cases hph : ∃ p, ph = .unlock p
      · obtain ⟨p, rfl⟩ := hph
        exact .inr (.inr ⟨i, r, ci.id, rfl, by simp [World.Holds, hi, Proc.holding],
          release_effect hi r⟩)
      · push_neg at hph
        obtain ⟨hl, ph', hph'⟩ := superviseStep_lock i ci r w.toShared hph
        simp only [World.step]
        rw [stepInstance_supervising hi]
        refine .inl (hframe _ hl fun k => ?_)
        by_cases hk : k = i
        · subst hk; simp [hph', Next.resume, hi, Proc.holding]
        · simp [Function.update_noteq hk]

/-- **Every step keeps the holders named by their locks**, whoever takes it and whatever the
store answers, failed lock and unlock calls included. -/
theorem HoldInv.step (h : HoldInv w) (a : Action) : HoldInv (w.step a) := by
  rcases step_lock_cases w a with ⟨hl, hp⟩ | ⟨i, id, hfree, -, hl, hp⟩ | ⟨i, r, id, -, -, hl, hp⟩
  · -- nothing changes
    intro id' j hj
    rw [hl]
    exact h id' j ((hp j id').mp hj)
  · -- `TryLock`: the new holder is named, and no other lock moves
    intro id' j hj
    rw [hl]
    rcases (hp j id').mp hj with ⟨rfl, rfl⟩ | ⟨-, hj⟩
    · exact Function.update_same _ _ _
    · have hne : id' ≠ id := fun he => by rw [← he, h id' j hj] at hfree; cases hfree
      rw [Function.update_noteq hne]
      exact h id' j hj
  · -- `Unlock`: the instance leaving is the only one whose lock may be cleared
    intro id' j hj
    obtain ⟨hji, hj⟩ := (hp j id').mp hj
    rw [hl, if_neg]
    · exact h id' j hj
    · exact fun hc => hji (Option.some.inj ((h id' j hj).symm.trans hc.2.2))

/-- **Every step whose unlock call succeeds keeps the lock invariant.** -/
theorem LockInv.step (h : LockInv w) (a : Action) (ha : a.UnlockSucceeds) :
    LockInv (w.step a) := by
  rcases step_lock_cases w a with ⟨hl, hp⟩ | ⟨i, id, hfree, hnone, hl, hp⟩ |
    ⟨i, r, id, rfl, hi, hl, hp⟩
  · -- nothing changes
    intro id' j
    rw [hl, hp]
    exact h id' j
  · -- `TryLock`: the free lock now names the instance that took it
    intro id' j
    rw [hl, hp]
    by_cases hid : id' = id
    · subst hid
      have : ¬w.Holds j id' := fun hj => by rw [(h id' j).2 hj] at hfree; cases hfree
      simp [this, eq_comm]
    · rw [Function.update_noteq hid, h id' j]
      have hji : w.Holds j id' → j ≠ i := fun hj hji => hnone id' (hji ▸ hj)
      simp only [hid, and_false, false_or]
      exact ⟨fun hj => ⟨hji hj, hj⟩, And.right⟩
  · -- `Unlock`, its call succeeding: the lock of the instance leaving is cleared
    intro id' j
    have hlock : w.store.lockAcquiredBy id = some i := (h id i).2 hi
    rw [hl, hp]
    simp only [show r.unlocked = true from ha, true_and]
    by_cases hid : id' = id
    · subst hid
      simp only [hlock, and_self, if_true]
      exact ⟨(fun h' => nomatch h'),
        fun ⟨hji, hj⟩ => (hji (Option.some.inj (((h id' j).2 hj).symm.trans hlock))).elim⟩
    · simp only [hid, false_and, if_false]
      rw [h id' j]
      exact ⟨fun hj => ⟨fun hji => hid (hi.unique_id (hji ▸ hj)).symm, hj⟩, And.right⟩

/-- Over every run, the instances inside `Supervise` are named by their locks. -/
theorem HoldInv.run (h : HoldInv w) (as : List Action) : HoldInv (w.run as) := by
  induction as generalizing w with
  | nil => exact h
  | cons a as ih => exact ih (h.step a)

/-- Over every run whose unlock calls succeed, the lock invariant holds throughout. -/
theorem LockInv.run (h : LockInv w) (as : List Action) (has : ∀ a ∈ as, a.UnlockSucceeds) :
    LockInv (w.run as) := by
  induction as generalizing w with
  | nil => exact h
  | cons a as ih =>
    exact ih (h.step a (has a (List.mem_cons_self a as))) fun b hb =>
      has b (List.mem_cons_of_mem a hb)

/-- **Mutual exclusion, whoever acts and whatever the store answers.** From a world with no lock
held and no instance at work, in every interleaving of any number of supervisor instances with
writes and removals of rows by parties that do not take the lock, and whichever lock and unlock
calls fail: each cluster installation is held by at most one instance, and an instance inside
`Supervise` of it is named by its lock. Along a run whose unlock calls succeed, the lock names an
instance only while that instance is inside `Supervise` of it. -/
theorem locks_held_exclusively (w₀ : World) (h₀ : w₀.Initial) (as : List Action) :
    (∀ id i j, (w₀.run as).Holds i id → (w₀.run as).Holds j id → i = j) ∧
    (∀ id i, (w₀.run as).Holds i id → (w₀.run as).store.lockAcquiredBy id = some i) ∧
    ((∀ a ∈ as, a.UnlockSucceeds) →
      ∀ id i, (w₀.run as).store.lockAcquiredBy id = some i → (w₀.run as).Holds i id) :=
  have h := (lockInv_of_initial h₀).holdInv.run as
  ⟨fun _ _ _ hi hj => h.unique hi hj, h,
    fun has id i => ((lockInv_of_initial h₀).run as has id i).1⟩

/-- One row in CreationRequested, on a store that keeps deleted rows. -/
def creationStore : Store :=
  Store.ofRows [⟨"ci", "cluster", "installation", .creationRequested⟩] true

/-- Two instances discover the row; `a` takes its lock, another party writes its state, `b` fails
to take the lock, another party removes the row. -/
def contendedRun : List Action :=
  [.supervisor "a" { found := ["ci"] }, .supervisor "b" { found := ["ci"] }, .supervisor "a" {},
    .writeState "ci" .deletionRequested, .supervisor "b" {}, .removeRow "ci"]

/-- In that run, too, each row is held by at most one instance, and, every unlock call
succeeding, exactly while its lock names it. -/
theorem locks_held_exclusively_contended :
    (start creationStore).Initial ∧ (∀ a ∈ contendedRun, a.UnlockSucceeds) ∧
    ((∀ id i j, ((start creationStore).run contendedRun).Holds i id →
      ((start creationStore).run contendedRun).Holds j id → i = j) ∧
    (∀ id i, ((start creationStore).run contendedRun).Holds i id →
      ((start creationStore).run contendedRun).store.lockAcquiredBy id = some i) ∧
    ((∀ a ∈ contendedRun, a.UnlockSucceeds) → ∀ id i,
      ((start creationStore).run contendedRun).store.lockAcquiredBy id = some i →
      ((start creationStore).run contendedRun).Holds i id)) :=
  have h₀ := start_initial creationStore fun _ => rfl
  ⟨h₀, by simp [contendedRun, Action.UnlockSucceeds], locks_held_exclusively _ h₀ _⟩

/-! ## A failed unlock -/

/-- The lock of `id` names `i`, and no instance is inside `Supervise` of `id`: no `TryLock` of
`id` can succeed. -/
def World.Stranded (w : World) (id i : String) : Prop :=
  w.store.lockAcquiredBy id = some i ∧ ∀ j, ¬ w.Holds j id

/-- A stranded lock stays stranded: no step takes it or clears it. -/
theorem World.Stranded.step {id i : String} (h : w.Stranded id i) (a : Action) :
    (w.step a).Stranded id i := by
  rcases step_lock_cases w a with ⟨hl, hp⟩ | ⟨k, id', hfree, -, hl, hp⟩ |
    ⟨k, r, id', -, hk, hl, hp⟩
  · exact ⟨hl ▸ h.1, fun j hj => h.2 j ((hp j id).mp hj)⟩
  · -- a `TryLock` takes a free lock, not this one
    have hne : id ≠ id' := fun he => by rw [← he, h.1] at hfree; cases hfree
    refine ⟨by rw [hl, Function.update_noteq hne, h.1], fun j hj => ?_⟩
    rcases (hp j id).mp hj with ⟨-, he⟩ | ⟨-, hj⟩
    exacts [hne he, h.2 j hj]
  · -- an `Unlock` clears the lock of what its instance holds, not this one
    have hne : id ≠ id' := fun he => h.2 k (he ▸ hk)
    refine ⟨?_, fun j hj => h.2 j ((hp j id).mp hj).2⟩
    rw [hl, if_neg]
    · exact h.1
    · exact fun hc => hne hc.2.1

/-- A stranded lock stays stranded over every run. -/
theorem World.Stranded.run {id i : String} (h : w.Stranded id i) (as : List Action) :
    (w.run as).Stranded id i := by
  induction as generalizing w with
  | nil => exact h
  | cons a as ih => exact ih (h.step a)

/-- **A failed unlock strands the lock.** From a world with no lock held and no instance at
work, in every interleaving: if instance `i` reaches the deferred `Unlock` of a cluster
installation and its `UnlockClusterInstallations` call fails, the lock names `i` from then on
while no instance is inside `Supervise` of it, whoever acts afterwards, so no `TryLock` of it
succeeds again. -/
theorem failed_unlock_strands_lock (w₀ : World) (h₀ : w₀.Initial) (as₁ as₂ : List Action)
    (i : String) (r : Reply) (ci : ClusterInstallation) (p : Bool)
    (pending : List ClusterInstallation)
    (hi : (w₀.run as₁).procs i = .supervising ci (.unlock p) pending) (hr : r.unlocked = false) :
    (w₀.run (as₁ ++ .supervisor i r :: as₂)).Stranded ci.id i := by
  have hhold := (lockInv_of_initial h₀).holdInv.run as₁
  have hheld : (w₀.run as₁).Holds i ci.id := by simp [World.Holds, hi, Proc.holding]
  obtain ⟨hl, hp⟩ := release_effect hi r
  have hstep : ((w₀.run as₁).step (.supervisor i r)).Stranded ci.id i :=
    ⟨by rw [hl, hr]; simpa using hhold ci.id i hheld,
      fun j hj => ((hp j ci.id).mp hj).elim fun hji hj => hji (hhold.unique hj hheld)⟩
  rw [run_append, run_cons]
  exact hstep.run as₂

/-- Instance `a` alone discovers the CreationRequested row and supervises it, its unlock call
failing. -/
def strandedPrefix : List Action :=
  .supervisor "a" { found := ["ci"] } :: List.replicate 7 (.supervisor "a" {})

/-- After that run, and whatever follows it, the row's lock names `a` and no instance holds it. -/
theorem failed_unlock_strands_lock_solo :
    (start creationStore).Initial ∧
    ((start creationStore).run strandedPrefix).procs "a" =
      .supervising ⟨"ci", "cluster", "installation", .creationRequested⟩ (.unlock false) [] ∧
    ({ unlocked := false } : Reply).unlocked = false ∧
    ∀ as₂, ((start creationStore).run (strandedPrefix ++ .supervisor "a" { unlocked := false } ::
      as₂)).Stranded "ci" "a" :=
  have h₀ := start_initial creationStore fun _ => rfl
  have hi : ((start creationStore).run strandedPrefix).procs "a" =
      .supervising ⟨"ci", "cluster", "installation", .creationRequested⟩ (.unlock false) [] := by
    decide
  ⟨h₀, hi, rfl, fun as₂ => failed_unlock_strands_lock _ h₀ strandedPrefix as₂ "a"
    { unlocked := false } _ false [] hi rfl⟩

/-! ## The table -/

/-- A change of a row's persisted state in one step: none, or one row of the table. -/
def RowStep (o o' : Option ClusterInstallationState) : Prop :=
  o' = o ∨ ∃ s t, o = some s ∧ o' = some t ∧ ValidTransition s t

/-- What the row of the cluster installation an instance supervises holds, by the instance's
phase: the re-fetched record until the transition; a state the new state stays at or follows
in the table until the pre-write re-fetch; the old state of the pending write until it is
made; and, once it is made, the change it made is a row of the table. -/
def PhaseInv (row : Option ClusterInstallation) (id : String) : Phase → Prop
  | .transition c => row = some c
  | .refetchForUpdate newState => ∃ c, row = some c ∧ StaysOrAdvances c.state newState
  | .update c oldState =>
    c.id = id ∧ ∃ c₀, row = some c₀ ∧ c₀.state = oldState ∧ ValidTransition oldState c.state
  | .processMetrics c oldState => ValidTransition oldState c.state
  | .produceEvent c oldState => ValidTransition oldState c.state
  | _ => True

/-- The invariant of the runs in which only supervisors write and deleted rows stay readable. -/
structure SerialInv (w : World) : Prop where
  lock : HoldInv w
  softDelete : w.store.softDelete = true
  phase : ∀ i ci ph pending, w.procs i = .supervising ci ph pending →
    PhaseInv (w.store.clusterInstallations ci.id) ci.id ph

/-- The actions of supervisor instances. -/
def Action.BySupervisor : Action → Prop
  | .supervisor _ _ => True
  | _ => False

/-- A step that leaves the row's state is a row step. -/
theorem RowStep.refl (o : Option ClusterInstallationState) : RowStep o o := .inl rfl

/-- **One call of the supervising instance**: it changes no other row, changes its own row's
state by at most one table row, and leaves its next phase's expectation true. -/
theorem superviseStep_serial (i : String) (r : Reply) {ci : ClusterInstallation} {e : Shared}
    {ph : Phase} (hsoft : e.store.softDelete = true)
    (hph : PhaseInv (e.store.clusterInstallations ci.id) ci.id ph) :
    (∀ id, id ≠ ci.id → (superviseStep i ci r e ph).1.store.clusterInstallations id =
      e.store.clusterInstallations id) ∧
    RowStep ((e.store.clusterInstallations ci.id).map (·.state))
      (((superviseStep i ci r e ph).1.store.clusterInstallations ci.id).map (·.state)) ∧
    (superviseStep i ci r e ph).1.store.softDelete = true ∧
    (∀ ph', (superviseStep i ci r e ph).2 = .phase ph' →
      PhaseInv ((superviseStep i ci r e ph).1.store.clusterInstallations ci.id) ci.id ph') := by
  cases ph with
  | refetch =>
    simp only [superviseStep, Store.getClusterInstallation]
    split
    · simp [RowStep.refl, hsoft, PhaseInv]
    · split
      · simp [RowStep.refl, hsoft, PhaseInv]
      · rename_i c hc
        split <;> simp [RowStep.refl, hsoft, PhaseInv, hc]
  | transition c =>
    have hrow : e.store.clusterInstallations ci.id = some c := hph
    have hid : c.id = ci.id := e.store.wf _ _ hrow
    have hvalid := transitionClusterInstallation_valid r.backend e.store c
    simp only [superviseStep]
    rcases transitionClusterInstallation_cases r.backend e.store c with
      ⟨h, -⟩ | ⟨-, -, h⟩ | ⟨-, -, h⟩
    · rw [h]
      refine ⟨fun _ _ => rfl, RowStep.refl _, hsoft, fun ph' h' => ?_⟩
      cases h'
      exact ⟨c, hph, hvalid⟩
    · rw [h]
      refine ⟨fun id hne => ?_, ?_, hsoft, fun ph' h' => ?_⟩
      · simp [Store.updateClusterInstallation_row, hid, hne]
      · simp [Store.updateClusterInstallation_row, hid, hrow, RowStep.refl]
      · cases h'
        exact ⟨c, by simp [Store.updateClusterInstallation_row, hid, hrow], hvalid⟩
    · rw [h, Store.deleteClusterInstallation_of_softDelete hsoft]
      refine ⟨fun _ _ => rfl, RowStep.refl _, hsoft, fun ph' h' => ?_⟩
      cases h'
      exact ⟨c, hph, hvalid⟩
  | refetchForUpdate newState =>
    obtain ⟨c, hc, hstays⟩ := hph
    simp only [superviseStep, Store.getClusterInstallation, hc]
    split
    · simp [RowStep.refl, hsoft, PhaseInv, hc]
    · split
      · simp [RowStep.refl, hsoft, PhaseInv, hc]
      · rename_i hne
        refine ⟨fun _ _ => rfl, by simp [hc, RowStep.refl], hsoft, fun ph' h' => ?_⟩
        cases h'
        exact ⟨e.store.wf ci.id c hc, c, hc, rfl, hstays.resolve_left (Ne.symm hne)⟩
  | update c oldState =>
    obtain ⟨hid, c₀, hc₀, hold, hvalid⟩ := hph
    simp only [superviseStep]
    split
    · simp [RowStep.refl, hsoft, PhaseInv]
    · refine ⟨fun id hne => by simp [Store.updateClusterInstallation_row, hid, hne], ?_, hsoft,
        fun ph' h' => by cases h'; exact hvalid⟩
      simp only [Store.updateClusterInstallation_row, hid, if_true, hc₀]
      exact .inr ⟨oldState, c.state, by simp [hold], rfl, hvalid⟩
  | processMetrics c oldState =>
    exact ⟨fun _ _ => rfl, RowStep.refl _, hsoft, fun ph' h' => by cases h'; exact hph⟩
  | produceEvent c oldState => simp [superviseStep, RowStep.refl, hsoft, PhaseInv]
  | unlock p =>
    simp only [superviseStep]
    split <;> cases p <;> simp [RowStep.refl, hsoft]

/-- A step that keeps the rows and the lock invariant, and whose only new supervising instance is
at its re-fetch, keeps the table invariant. -/
theorem SerialInv.of_rows {w' : World} (h : SerialInv w') (hlock : HoldInv w)
    (hrows : w.store.clusterInstallations = w'.store.clusterInstallations)
    (hsoft : w.store.softDelete = w'.store.softDelete)
    (hprocs : ∀ k ci ph pending, w.procs k = .supervising ci ph pending →
      w'.procs k = .supervising ci ph pending ∨ ph = .refetch) : SerialInv w where
  lock := hlock
  softDelete := hsoft.trans h.softDelete
  phase k ci ph pending hk := by
    rcases hprocs k ci ph pending hk with hk' | rfl
    · rw [hrows]; exact h.phase k ci ph pending hk'
    · trivial

/-- An instance that moves without changing what it holds, and enters `Supervise` only at its
re-fetch, keeps the table invariant. -/
theorem SerialInv.setProc (h : SerialInv w) {i : String} {p : Proc}
    (hp : p.holding = (w.procs i).holding)
    (hnew : ∀ ci ph pending, p = .supervising ci ph pending → ph = .refetch) :
    SerialInv (w.setProc i p) :=
  h.of_rows (h.lock.of_frame rfl (World.setProc_holding hp)) rfl rfl fun k ci ph pending hk => by
    by_cases hki : k = i
    · subst hki
      simp only [World.setProc, Function.update_same] at hk
      exact .inr (hnew ci ph pending hk)
    · simp only [World.setProc, Function.update_noteq hki] at hk
      exact .inl hk

/-- A row step from a state reaches, by the table, the state it leaves. -/
theorem RowStep.reachable {s : ClusterInstallationState} {o' : Option ClusterInstallationState}
    (h : RowStep (some s) o') : ∃ t, o' = some t ∧ Reachable s t := by
  rcases h with rfl | ⟨_, t, hs, rfl, hv⟩
  · exact ⟨s, rfl, .refl⟩
  · cases hs
    exact ⟨t, rfl, .single hv⟩

/-- **One step of a supervisor keeps the table invariant, and changes every row's state by at
most one row of the table.** -/
theorem SerialInv.step (h : SerialInv w) {a : Action} (ha : a.BySupervisor) :
    SerialInv (w.step a) ∧ ∀ id, RowStep (w.stateOf id) ((w.step a).stateOf id) := by
  cases a with
  | writeState => exact ha.elim
  | removeRow => exact ha.elim
  | supervisor i r =>
    have hlock := h.lock.step (.supervisor i r)
    simp only [World.step] at hlock ⊢
    cases hi : w.procs i with
    | idle =>
      simp only [stepInstance, hi]
      split
      · exact ⟨h.setProc (by rw [hi]; rfl) (by simp), fun _ => .refl _⟩
      · exact ⟨h, fun _ => .refl _⟩
    | crashed =>
      simp only [stepInstance, hi]
      exact ⟨h, fun _ => .refl _⟩
    | doing pending =>
      cases pending with
      | nil =>
        simp only [stepInstance, hi]
        exact ⟨h.setProc (by rw [hi]; rfl) (by simp), fun _ => .refl _⟩
      | cons ci pending =>
        simp only [stepInstance, hi] at hlock ⊢
        split
        · rename_i hok
          rw [if_pos hok] at hlock
          refine ⟨h.of_rows hlock (by simp) (by simp) fun k ci' ph pending' hk => ?_,
            fun id => by simp [World.stateOf, RowStep.refl]⟩
          by_cases hki : k = i
          · subst hki
            simp only [World.setProc, Function.update_same, Proc.supervising.injEq] at hk
            exact .inr hk.2.1.symm
          · simp only [World.setProc, Function.update_noteq hki] at hk
            exact .inl hk
        · exact ⟨h.setProc (by rw [hi]; rfl) (by simp), fun _ => .refl _⟩
    | supervising ci ph pending =>
      rw [stepInstance_supervising hi] at hlock ⊢
      obtain ⟨hother, hrow, hsoft', hnext⟩ :=
        superviseStep_serial i r h.softDelete (h.phase i ci ph pending hi)
      refine ⟨⟨hlock, hsoft', fun k ck phk pk hk => ?_⟩, fun id => ?_⟩
      · by_cases hki : k = i
        · subst hki
          simp only [Function.update_same] at hk
          cases hn : (superviseStep k ci r w.toShared ph).2 with
          | phase ph' =>
            simp only [hn, Next.resume, Proc.supervising.injEq] at hk
            obtain ⟨rfl, rfl, rfl⟩ := hk
            exact hnext ph' hn
          | returned => simp [hn, Next.resume] at hk
          | panicked => simp [hn, Next.resume] at hk
        · simp only [Function.update_noteq hki] at hk
          have hne : ck.id ≠ ci.id := fun heq => hki (h.lock.unique
            (show w.Holds k ci.id by simp [World.Holds, hk, Proc.holding, heq])
            (show w.Holds i ci.id by simp [World.Holds, hi, Proc.holding]))
          rw [hother ck.id hne]
          exact h.phase k ck phk pk hk
      · by_cases hid : id = ci.id
        · subst hid; exact hrow
        · simp only [World.stateOf, hother id hid]
          exact .refl _

/-- With no lock held and no instance at work, on a store that keeps deleted rows, the table
invariant holds. -/
theorem serialInv_of_initial (h : w.Initial) (hsoft : w.store.softDelete = true) :
    SerialInv w where
  lock := (lockInv_of_initial h).holdInv
  softDelete := hsoft
  phase i _ _ _ hi := by simp [h.idle i] at hi

/-- **Over a run of supervisors** the table invariant holds throughout, and every persisted state
is reachable by the table from the state the row had at the start. -/
theorem SerialInv.run (h : SerialInv w) (as : List Action) (has : ∀ a ∈ as, a.BySupervisor) :
    SerialInv (w.run as) ∧ ∀ id s, w.stateOf id = some s →
      ∃ t, (w.run as).stateOf id = some t ∧ Reachable s t := by
  induction as generalizing w with
  | nil => exact ⟨h, fun _ s hs => ⟨s, hs, .refl⟩⟩
  | cons a as ih =>
    obtain ⟨hstep, hrow⟩ := h.step (has a (List.mem_cons_self a as))
    obtain ⟨hrun, hreach⟩ := ih hstep fun b hb => has b (List.mem_cons_of_mem a hb)
    refine ⟨hrun, fun id s hs => ?_⟩
    obtain ⟨t₁, ht₁, hst₁⟩ := RowStep.reachable (hs ▸ hrow id)
    obtain ⟨t, ht, ht₁t⟩ := hreach id t₁ ht₁
    exact ⟨t, ht, hst₁.trans ht₁t⟩

/-- **Any number of supervisors, any interleaving.** From a world with no lock held and no
instance at work, over a store whose deletes keep rows readable, along every run in which only
supervisors act and every `UnlockClusterInstallations` call succeeds (the store's unlock clears
the holder's lock): (a) at most one instance is inside `Supervise` of a cluster installation, and
its lock names exactly that instance; (b) every further step changes every row's state by at most
one row of the spec's transition table, and the state at the end of the run is reachable by the
table from the state at every earlier point, so a terminal state is never left. -/
theorem supervisors_serialize (w₀ : World) (h₀ : w₀.Initial)
    (hsoft : w₀.store.softDelete = true) (as : List Action) (has : ∀ a ∈ as, a.BySupervisor)
    (hunlock : ∀ a ∈ as, a.UnlockSucceeds) :
    (∀ id i j, (w₀.run as).Holds i id → (w₀.run as).Holds j id → i = j) ∧
    (∀ id i, (w₀.run as).store.lockAcquiredBy id = some i ↔ (w₀.run as).Holds i id) ∧
    (∀ a, a.BySupervisor → ∀ id,
      RowStep ((w₀.run as).stateOf id) (((w₀.run as).step a).stateOf id)) ∧
    (∀ bs cs, as = bs ++ cs → ∀ id s, (w₀.run bs).stateOf id = some s →
      ∃ t, (w₀.run as).stateOf id = some t ∧ Reachable s t ∧ (Terminal s → t = s)) := by
  have h₀' := serialInv_of_initial h₀ hsoft
  have hrun := (h₀'.run as has).1
  refine ⟨fun _ _ _ => hrun.lock.unique, (lockInv_of_initial h₀).run as hunlock,
    fun _ ha => (hrun.step ha).2,
    fun bs cs hsplit id s hs => ?_⟩
  subst hsplit
  have hbs := (h₀'.run bs fun a ha => has a (List.mem_append_left cs ha)).1
  obtain ⟨t, ht, hreach⟩ := (hbs.run cs fun a ha => has a (List.mem_append_right bs ha)).2 id s hs
  rw [run_append]
  exact ⟨t, ht, hreach, fun hterm => hreach.eq_of_terminal hterm⟩

/-- Two instances race for one CreationRequested installation: `b`'s `TryLock` fails while `a`
holds the lock, and `a` drives the row to Reconciling. -/
theorem supervisors_serialize_two_instances :
    let w₀ := start (Store.ofRows [⟨"ci", "cluster", "installation", .creationRequested⟩] true)
    let as := [Action.supervisor "a" { found := ["ci"] }, .supervisor "b" { found := ["ci"] },
      .supervisor "a" {}, .supervisor "b" {}, .supervisor "a" {}, .supervisor "a" {},
      .supervisor "a" {}, .supervisor "a" {}]
    w₀.Initial ∧ w₀.store.softDelete = true ∧ (∀ a ∈ as, a.BySupervisor) ∧
    (∀ a ∈ as, a.UnlockSucceeds) ∧
    ((∀ id i j, (w₀.run as).Holds i id → (w₀.run as).Holds j id → i = j) ∧
    (∀ id i, (w₀.run as).store.lockAcquiredBy id = some i ↔ (w₀.run as).Holds i id) ∧
    (∀ a, a.BySupervisor → ∀ id,
      RowStep ((w₀.run as).stateOf id) (((w₀.run as).step a).stateOf id)) ∧
    (∀ bs cs, as = bs ++ cs → ∀ id s, (w₀.run bs).stateOf id = some s →
      ∃ t, (w₀.run as).stateOf id = some t ∧ Reachable s t ∧ (Terminal s → t = s))) ∧
    (w₀.run as).stateOf "ci" = some .reconciling := by
  intro w₀ as
  have hinit : w₀.Initial := start_initial _ fun _ => rfl
  have hsup : ∀ a ∈ as, a.BySupervisor := by simp [as, Action.BySupervisor]
  have hunlock : ∀ a ∈ as, a.UnlockSucceeds := by simp [as, Action.UnlockSucceeds]
  exact ⟨hinit, rfl, hsup, hunlock, supervisors_serialize w₀ hinit rfl as hsup hunlock, by decide⟩

/-! ## The event log -/

/-- A call of `Supervise` appends at most one event to the log, and the change it records is a
row of the table. -/
theorem superviseStep_events (i : String) (r : Reply) {ci : ClusterInstallation} {e : Shared}
    {ph : Phase} (hph : PhaseInv (e.store.clusterInstallations ci.id) ci.id ph) :
    (superviseStep i ci r e ph).1.store.stateChangeEvents = e.store.stateChangeEvents ∨
    ∃ ev, (superviseStep i ci r e ph).1.store.stateChangeEvents = ev :: e.store.stateChangeEvents ∧
      ValidTransition ev.oldState ev.newState := by
  cases ph with
  | transition c => exact .inl (by simp [superviseStep, transitionClusterInstallation_frame])
  | produceEvent c oldState =>
    simp only [superviseStep, produceClusterInstallationStateChangeEvent]
    split
    · exact .inr ⟨_, rfl, hph⟩
    · exact .inl rfl
  | _ =>
    left
    simp only [superviseStep]
    repeat' split
    all_goals simp

/-- The events appended to the log since `w₀` each record a row of the spec's transition
table. -/
def EventsValid (w₀ w : World) : Prop :=
  ∃ new, w.store.stateChangeEvents = new ++ w₀.store.stateChangeEvents ∧
    ∀ ev ∈ new, ValidTransition ev.oldState ev.newState

/-- A step of a supervisor appends to the log only events that record a table row. -/
theorem EventsValid.step {w₀ : World} (hv : EventsValid w₀ w) (h : SerialInv w) {a : Action}
    (ha : a.BySupervisor) : EventsValid w₀ (w.step a) := by
  obtain ⟨new, hnew, hvalid⟩ := hv
  cases a with
  | writeState => exact ha.elim
  | removeRow => exact ha.elim
  | supervisor i r =>
    simp only [World.step]
    cases hi : w.procs i with
    | idle =>
      simp only [stepInstance, hi]
      split <;> exact ⟨new, hnew, hvalid⟩
    | crashed => simp only [stepInstance, hi]; exact ⟨new, hnew, hvalid⟩
    | doing pending =>
      cases pending with
      | nil => simp only [stepInstance, hi]; exact ⟨new, hnew, hvalid⟩
      | cons ci pending =>
        simp only [stepInstance, hi]
        split
        · exact ⟨new, by simpa using hnew, hvalid⟩
        · exact ⟨new, hnew, hvalid⟩
    | supervising ci ph pending =>
      rw [stepInstance_supervising hi]
      rcases superviseStep_events i r (h.phase i ci ph pending hi) with h' | ⟨ev, h', hev⟩
      · exact ⟨new, h'.trans hnew, hvalid⟩
      · exact ⟨ev :: new, by rw [h', hnew]; rfl, List.forall_mem_cons.mpr ⟨hev, hvalid⟩⟩

/-- Over a run of supervisors the events appended each record a table row. -/
theorem EventsValid.run {w₀ : World} (hv : EventsValid w₀ w) (h : SerialInv w)
    (as : List Action) (has : ∀ a ∈ as, a.BySupervisor) : EventsValid w₀ (w.run as) := by
  induction as generalizing w with
  | nil => exact hv
  | cons a as ih =>
    have ha := has a (List.mem_cons_self a as)
    exact ih (hv.step h ha) (h.step ha).1 fun b hb => has b (List.mem_cons_of_mem a hb)

/-- **The event log records the table.** From a world with no lock held and no instance at work,
over a store whose deletes keep rows readable, along every run in which only supervisors act,
every state-change event the supervisors append records a row of the spec's transition table.
(With writers that do not take the lock it need not: see `supervise_overwrites_write_in_window`.)
-/
theorem supervisors_log_table_transitions (w₀ : World) (h₀ : w₀.Initial)
    (hsoft : w₀.store.softDelete = true) (as : List Action) (has : ∀ a ∈ as, a.BySupervisor) :
    ∃ new, (w₀.run as).store.stateChangeEvents = new ++ w₀.store.stateChangeEvents ∧
      ∀ ev ∈ new, ValidTransition ev.oldState ev.newState :=
  EventsValid.run ⟨[], rfl, by simp⟩ (serialInv_of_initial h₀ hsoft) as has

/-- Instance `a` alone discovers the CreationRequested row, takes its lock and supervises it,
every call succeeding. -/
def soloCreation : List Action :=
  .supervisor "a" { found := ["ci"] } :: List.replicate 8 (.supervisor "a" {})

/-- That run drives the row to Reconciling, and the log gains one event. -/
theorem supervisors_log_table_transitions_creation :
    (start creationStore).Initial ∧ creationStore.softDelete = true ∧
    (∀ a ∈ soloCreation, a.BySupervisor) ∧
    (∃ new, ((start creationStore).run soloCreation).store.stateChangeEvents =
        new ++ creationStore.stateChangeEvents ∧
      ∀ ev ∈ new, ValidTransition ev.oldState ev.newState) ∧
    ((start creationStore).run soloCreation).store.stateChangeEvents.length = 1 := by
  have h₀ := start_initial creationStore fun _ => rfl
  have has : ∀ a ∈ soloCreation, a.BySupervisor := by
    simp [soloCreation, List.mem_replicate, Action.BySupervisor]
  exact ⟨h₀, rfl, has, supervisors_log_table_transitions _ h₀ rfl _ has, by decide⟩

end MattermostCloud.Supervisor
