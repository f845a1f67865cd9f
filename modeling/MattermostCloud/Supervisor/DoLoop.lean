import MattermostCloud.Supervisor.Serialize
import MattermostCloud.Supervisor.Outcome
import MattermostCloud.Supervisor.AbsentRecord

/-!
# A whole call of `Do`, with no other party acting

`ClusterInstallationSupervisor.Do` (`cluster_installation.go` lines 79-91) runs `Supervise` on
each cluster installation the discovery query returned, in order; each `Supervise` takes the
lock, re-fetches, transitions, persists and unlocks. `doAlone` is that loop for one instance
with no other party acting, each turn (its `TryLock` and its `Supervise`) answered by a `Calls`
record chosen per cluster installation; `run_doAlone` and `run_doCycle` show that the
interleaving model's steps of the instance compute it, one turn of the loop after the other.

* `superviseAlone_stops` — from its re-fetch, `Supervise` returns or panics within seven calls,
  whatever it is answered.
* `superviseAlone_serial`, `superviseAlone_lockAcquiredBy` — a run changes no other row, and
  changes the locks only by its deferred unlock, when that call succeeds.
* `superviseAlone_row_solo` — on a store that keeps deleted rows, the state a run leaves for the
  discovered record: the transition's new state when the re-fetch, the pre-write re-fetch and
  the write succeed, the discovered state otherwise.
* `superviseAlone_returned` — a run whose record stays readable returns: it does not panic.
* `doAlone_turn`, `doAlone_rows` — the loop, turn by turn, over rows with free locks named once;
  and `do_supervises_every_discovered_row` — **one call of `Do`**: on a store that keeps deleted
  rows and whose discovery query names each row once, whatever the store answers, a row whose
  `TryLock` call fails is skipped, every other one is supervised and ends in the state its own
  run persists; no other row changes; no panic stops the loop; and the lock table is as it was
  but for the locks whose unlock call failed, which name the instance.
* `superviseEach` — cycles of `Do` that each discover one row;
  `supervise_repeated_failure_keeps_state` — the spec's idempotence: cycles whose runs fail or
  keep the state leave the rows, the log and the observations as they were; `run_superviseEach`
  — those cycles are runs of the interleaving model.
* `do_converges_in_two_cycles` — **convergence**: two cycles of `Do` in which every call
  succeeds, both lookups find their record, no backup runs and the resource is ready leave every
  row the query is asked about in a terminal state, a creation request being rediscovered as
  Reconciling by the second query.
-/

namespace MattermostCloud.Supervisor

open ClusterInstallationState World

section alone

variable (i : String) (ci : ClusterInstallation) (c : Calls)

/-- From its re-fetch, `Supervise` returns or panics within seven calls. -/
theorem superviseAlone_stops (e : Shared) (n : Nat) :
    (superviseAlone i ci c (n + 7) e .refetch).2 = .returned ∨
    (superviseAlone i ci c (n + 7) e .refetch).2 = .panicked := by
  cases hre : c.refetch
  · exact .inl (by rw [superviseAlone_refetch_error i ci c e (n + 5) hre])
  cases hr : e.store.clusterInstallations ci.id with
  | none =>
    exact .inr (by
      simp [superviseAlone, superviseStep, Calls.reply, hre, Store.getClusterInstallation, hr])
  | some c₀ =>
    by_cases hs : c₀.state = ci.state
    · rw [show n + 7 = n + 5 + 2 from rfl, superviseAlone_refetch_transition i ci c hr hs hre]
      exact (superviseAlone_refetchForUpdate i ci c _ _ n).1.imp_right And.left
    · exact .inl (by
        simp [superviseAlone, superviseStep, Calls.reply, hre, Store.getClusterInstallation, hr,
          hs])

/-- **A run changes no other row.** On a store that keeps deleted rows, from a phase whose
expectation of the row holds, a run of `Supervise` of `ci` leaves every other row as it was, and
the store keeps deleted rows. -/
theorem superviseAlone_serial (n : Nat) (e : Shared) (ph : Phase)
    (hsoft : e.store.softDelete = true)
    (hph : PhaseInv (e.store.clusterInstallations ci.id) ci.id ph) :
    (∀ id, id ≠ ci.id →
      (superviseAlone i ci c n e ph).1.store.clusterInstallations id =
        e.store.clusterInstallations id) ∧
    (superviseAlone i ci c n e ph).1.store.softDelete = true := by
  induction n generalizing e ph with
  | zero => exact ⟨fun _ _ => rfl, hsoft⟩
  | succ n ih =>
    obtain ⟨hother, -, hsoft', hnext⟩ := superviseStep_serial i (c.reply ph) hsoft hph
    rcases hs : superviseStep i ci (c.reply ph) e ph with ⟨e', ph' | _ | _⟩
    all_goals rw [hs] at hother hsoft' hnext
    case phase =>
      obtain ⟨ih₁, ih₂⟩ := ih e' ph' hsoft' (hnext ph' rfl)
      simp only [superviseAlone, hs]
      exact ⟨fun id hid => (ih₁ id hid).trans (hother id hid), ih₂⟩
    all_goals
      simp only [superviseAlone, hs]
      exact ⟨hother, hsoft'⟩

/-- **A run changes the locks only by its deferred unlock**, and not at all when that unlock call
fails. -/
theorem superviseAlone_lockAcquiredBy (n : Nat) (e : Shared) (ph : Phase)
    (h : ∀ ph', (superviseAlone i ci c n e ph).2 ≠ .phase ph') :
    (superviseAlone i ci c n e ph).1.store.lockAcquiredBy =
      (if c.unlock then e.store.unlockClusterInstallations [ci.id] i false
        else e.store).lockAcquiredBy := by
  induction n generalizing e ph with
  | zero => exact absurd rfl (h ph)
  | succ n ih =>
    by_cases hph : ∃ p, ph = .unlock p
    · obtain ⟨p, rfl⟩ := hph
      cases p <;> rfl
    push_neg at hph
    obtain ⟨hl, ph', hph'⟩ := superviseStep_lock i ci (c.reply ph) e hph
    rcases hs : superviseStep i ci (c.reply ph) e ph with ⟨e', nxt⟩
    rw [hs] at hl hph'
    dsimp only at hl hph'
    subst hph'
    simp only [superviseAlone, hs] at h ⊢
    rw [ih _ _ h]
    split <;> simp only [Store.unlockClusterInstallations, hl]

/-- **The state a run persists**, on a store that keeps deleted rows, for a record that is the
row itself: the transition's new state when the re-fetch, the pre-write re-fetch and the write
succeed, and the record's state otherwise. -/
theorem superviseAlone_row_solo {e : Shared} (hrow : e.store.clusterInstallations ci.id = some ci)
    (hsoft : e.store.softDelete = true) :
    ((superviseAlone i ci c 7 e .refetch).1.store.clusterInstallations ci.id).map (·.state) =
      some (if c.refetch && c.refetchForUpdate && c.update then
        (transitionClusterInstallation c.backend e.store ci).newState else ci.state) := by
  cases hre : c.refetch
  · simp [superviseAlone_refetch_error i ci c e 5 hre, hrow]
  -- the row survives the transition and still holds the discovered state
  have hleft : (transitionClusterInstallation c.backend e.store ci).store.clusterInstallations
      ci.id = some ci := by
    rcases transitionClusterInstallation_rows c.backend e.store ci hrow with h | ⟨-, -, h⟩
    · rw [h, hrow]
    · rw [h, Store.deleteClusterInstallation_of_softDelete hsoft, hrow]
  obtain ⟨-, -, hrows, -⟩ := superviseAlone_refetchForUpdate i ci c _
    (transitionClusterInstallation c.backend e.store ci).newState 0
  rw [← superviseAlone_refetch_transition i ci c hrow rfl hre 5] at hrows
  rw [hrows]
  simp [hleft]

/-- A run whose record is present, on a store that keeps deleted rows, does not panic. -/
theorem superviseAlone_ne_panicked (n : Nat) (e : Shared) (ph : Phase)
    (hsoft : e.store.softDelete = true) (hrow : (e.store.clusterInstallations ci.id).isSome)
    (hph : ph ≠ .unlock true) :
    (superviseAlone i ci c n e ph).2 ≠ .panicked := by
  induction n generalizing e ph with
  | zero => simp [superviseAlone]
  | succ n ih =>
    obtain ⟨hnp, hnu⟩ := superviseStep_not_panicking i ci (c.reply ph) e ph hrow hph
    obtain ⟨hrow', hsoft'⟩ := superviseStep_keeps_rows i ci (c.reply ph) ph hsoft _ hrow
    rcases hs : superviseStep i ci (c.reply ph) e ph with ⟨e', _ | _ | _⟩
    all_goals
      rw [hs] at hnp hnu hrow' hsoft'
      simp only [superviseAlone, hs]
    case phase ph' => exact ih e' ph' hsoft' hrow' fun h => hnu (by simp [h])
    all_goals exact hnp

/-- **A run from the re-fetch returns** when its record is present on a store that keeps
deleted rows. -/
theorem superviseAlone_returned {e : Shared} (hsoft : e.store.softDelete = true)
    (hrow : (e.store.clusterInstallations ci.id).isSome) :
    (superviseAlone i ci c 7 e .refetch).2 = .returned :=
  (superviseAlone_stops i ci c e 0).resolve_right
    (superviseAlone_ne_panicked i ci c 7 e .refetch hsoft hrow (by simp))

end alone

/-! ## The loop -/

/-- One call of `Do` by instance `i` with no other party acting, over the cluster installations
the discovery query returned: for each, `TryLock`, its `LockClusterInstallations` call answered
by `calls` for that cluster installation, and when it succeeds a run of `Supervise` answered by
the same record, until the list is done or a `Supervise` panics. Returns the shared state, and
whether a panic stopped the loop.
Source: `cluster_installation.go` lines 79-104. -/
def doAlone (i : String) (calls : ClusterInstallation → Calls) :
    List ClusterInstallation → Shared → Shared × Bool
  | [], e => (e, false)
  | ci :: pending, e =>
    if (calls ci).lock && (e.store.lockClusterInstallations [ci.id] i).1 then
      match superviseAlone i ci (calls ci) 7
          { e with store := (e.store.lockClusterInstallations [ci.id] i).2 } .refetch with
      | (e', .panicked) => (e', true)
      | (e', _) => doAlone i calls pending e'
    else doAlone i calls pending e

/-- **The loop is what the interleaving model does when only instance `i` acts**: a list of its
own steps takes the world from `Do`'s loop over `pending` to the shared state `doAlone`
computes, with `i` at the end of its loop, or stopped by a panic. -/
theorem run_doAlone {w : World} {i : String} {pending : List ClusterInstallation}
    (h : w.procs i = .doing pending) (calls : ClusterInstallation → Calls) :
    ∃ rs : List Reply, w.run (rs.map (.supervisor i)) =
      { (doAlone i calls pending w.toShared).1 with
        procs := Function.update w.procs i
          (if (doAlone i calls pending w.toShared).2 then .crashed else .doing []) } := by
  induction pending generalizing w with
  | nil =>
    refine ⟨[], ?_⟩
    simp only [doAlone, Bool.false_eq_true, ite_false, ← h, Function.update_eq_self]
    rfl
  | cons ci pending ih =>
    by_cases hlock : ((calls ci).lock && (w.store.lockClusterInstallations [ci.id] i).1) = true
    · -- `TryLock` succeeds: the instance is inside `Supervise`
      set e₁ : Shared :=
        { w.toShared with store := (w.store.lockClusterInstallations [ci.id] i).2 } with he₁
      set w₁ : World := ⟨e₁, Function.update w.procs i (.supervising ci .refetch pending)⟩
        with hw₁
      have hstep : w.step (.supervisor i { ok := (calls ci).lock }) = w₁ := by
        simp [World.step, stepInstance, h, hlock, hw₁, he₁, World.setProc]
      have hdo : doAlone i calls (ci :: pending) w.toShared =
          match superviseAlone i ci (calls ci) 7 e₁ .refetch with
          | (e', .panicked) => (e', true)
          | (e', _) => doAlone i calls pending e' := by
        rw [doAlone, if_pos hlock]
      have h₁ : w₁.procs i = .supervising ci .refetch pending := by simp [hw₁]
      obtain ⟨rs₁, -, hrun₁⟩ := run_superviseAlone h₁ (calls ci) 7
      rw [show w₁.toShared = e₁ from rfl] at hrun₁
      rcases hsa : superviseAlone i ci (calls ci) 7 e₁ .refetch with ⟨e', nxt⟩
      rw [hsa] at hrun₁ hdo
      rcases superviseAlone_stops i ci (calls ci) e₁ 0 with hn | hn <;>
        rw [show 0 + 7 = 7 from rfl, hsa] at hn <;> subst hn <;>
        simp only [Next.resume] at hrun₁ hdo
      · -- `Supervise` returned: the loop goes on
        obtain ⟨rs₂, hrun₂⟩ :=
          ih (w := ⟨e', Function.update w₁.procs i (.doing pending)⟩) (by simp)
        refine ⟨{ ok := (calls ci).lock } :: rs₁ ++ rs₂, ?_⟩
        rw [List.map_append, run_append, List.map_cons, run_cons, hstep, hrun₁, hrun₂, hdo]
        simp [hw₁]
      · -- `Supervise` panicked: the instance has stopped
        refine ⟨{ ok := (calls ci).lock } :: rs₁, ?_⟩
        rw [List.map_cons, run_cons, hstep, hrun₁, hdo]
        simp [hw₁]
    · -- `TryLock` fails: the next turn of the loop
      have hstep : w.step (.supervisor i { ok := (calls ci).lock }) =
          w.setProc i (.doing pending) := by
        simp [World.step, stepInstance, h, hlock]
      obtain ⟨rs, hrun⟩ := ih (w := w.setProc i (.doing pending)) (by simp [World.setProc])
      refine ⟨{ ok := (calls ci).lock } :: rs, ?_⟩
      rw [List.map_cons, run_cons, hstep, hrun]
      simp [doAlone, hlock, World.setProc]

/-- **A whole call of `Do`** from an instance at rest: its query, answered with `found`, then the
loop over the rows the query returns; afterwards the instance is at rest again, unless a panic
stopped it. -/
theorem run_doCycle {w : World} {i : String} (h : w.procs i = .idle) (found : List String)
    (calls : ClusterInstallation → Calls) :
    ∃ rs : List Reply, w.run (rs.map (.supervisor i)) =
      { (doAlone i calls (w.store.getUnlockedClusterInstallationsPendingWork found)
          w.toShared).1 with
        procs := Function.update w.procs i
          (if (doAlone i calls (w.store.getUnlockedClusterInstallationsPendingWork found)
            w.toShared).2 then .crashed else .idle) } := by
  set L := w.store.getUnlockedClusterInstallationsPendingWork found
  have hq : w.step (.supervisor i { found := found }) = w.setProc i (.doing L) := by
    simp [World.step, stepInstance, h, L]
  obtain ⟨rs, hrun⟩ := run_doAlone
    (show (w.setProc i (.doing L)).procs i = .doing L by simp [World.setProc]) calls
  cases hp : (doAlone i calls L w.toShared).2
  · -- the loop ran to its end: one more step and the instance is at rest
    refine ⟨{ found := found } :: rs ++ [({} : Reply)], ?_⟩
    rw [List.map_append, run_append, List.map_cons, run_cons, hq, hrun]
    simp [World.step, stepInstance, World.setProc, hp]
  · refine ⟨{ found := found } :: rs, ?_⟩
    rw [List.map_cons, run_cons, hq, hrun]
    simp [World.setProc, hp]

/-- **One turn of `Do`'s loop** over a row with a free lock, on a store that keeps deleted rows:
the loop goes on from a shared state in which the row holds the state its run persists (its own
state when `TryLock`'s call fails), no other row and no other lock changed, and the row's lock
names `i` exactly when `TryLock` took it and the unlock call failed. -/
theorem doAlone_turn (i : String) (calls : ClusterInstallation → Calls) (ci : ClusterInstallation)
    (L : List ClusterInstallation) (e : Shared) (hsoft : e.store.softDelete = true)
    (hrow : e.store.clusterInstallations ci.id = some ci)
    (hfree : e.store.lockAcquiredBy ci.id = none) :
    ∃ e', doAlone i calls (ci :: L) e = doAlone i calls L e' ∧
      (e'.store.clusterInstallations ci.id).map (·.state) =
        some (if (calls ci).lock && (calls ci).refetch && (calls ci).refetchForUpdate &&
            (calls ci).update then
          (transitionClusterInstallation (calls ci).backend e.store ci).newState else ci.state) ∧
      (∀ id, id ≠ ci.id → e'.store.clusterInstallations id = e.store.clusterInstallations id) ∧
      e'.store.lockAcquiredBy ci.id =
        (if (calls ci).lock && !(calls ci).unlock then some i else none) ∧
      (∀ id, id ≠ ci.id → e'.store.lockAcquiredBy id = e.store.lockAcquiredBy id) ∧
      e'.store.softDelete = true := by
  cases hl : (calls ci).lock
  · -- `TryLock`'s call fails: the row is skipped
    exact ⟨e, by simp [doAlone, hl], by simp [hrow], fun _ _ => rfl, by simp [hfree],
      fun _ _ => rfl, hsoft⟩
  -- `TryLock` takes the free lock, and `Supervise` runs on the locked store
  have hlock : (e.store.lockClusterInstallations [ci.id] i).1 = true := by
    simp [Store.lockClusterInstallations_singleton, hfree]
  set e₁ : Shared :=
    { e with store := (e.store.lockClusterInstallations [ci.id] i).2 } with he₁
  have hrow₁ : e₁.store.clusterInstallations ci.id = some ci := by simpa [he₁] using hrow
  have hsoft₁ : e₁.store.softDelete = true := by simpa [he₁] using hsoft
  rcases hsa : superviseAlone i ci (calls ci) 7 e₁ .refetch with ⟨e', nxt⟩
  have hret := superviseAlone_returned i ci (calls ci) hsoft₁
    (Option.isSome_iff_exists.mpr ⟨ci, hrow₁⟩)
  rw [hsa] at hret
  subst hret
  -- what the run leaves: other rows, the locks, and the row of `ci`
  obtain ⟨hother, hsoft'⟩ := superviseAlone_serial i ci (calls ci) 7 e₁ .refetch hsoft₁ trivial
  have hlk := superviseAlone_lockAcquiredBy i ci (calls ci) 7 e₁ .refetch (by simp [hsa])
  have hstate := superviseAlone_row_solo i ci (calls ci) hrow₁ hsoft₁
  rw [hsa] at hother hsoft' hlk hstate
  dsimp only at hother hsoft' hlk hstate
  have hlocked := (Store.lockClusterInstallations_singleton (s := e.store) ci.id i).2
  simp only [hfree, Option.isNone_none, ↓reduceIte] at hlocked
  refine ⟨e', by simp only [doAlone, hl, hlock, hsa, Bool.and_self, if_true], ?_,
    fun id hid => (hother id hid).trans (by simp [he₁]), ?_, fun id hid => ?_, hsoft'⟩
  · rw [hstate, transitionClusterInstallation_newState_store _ _ e.store]
    simp
  · cases hu : (calls ci).unlock
    · simp [hlk, hu, he₁, hlocked]
    · simp [hlk, hu, he₁, Store.unlock_lockClusterInstallations hfree, hfree]
  · cases hu : (calls ci).unlock
    · simp [hlk, hu, he₁, hlocked, Function.update_noteq hid]
    · simp [hlk, hu, he₁, Store.unlock_lockClusterInstallations hfree]

/-- **`Do`'s loop, turn by turn.** On a store that keeps deleted rows, over cluster
installations that are rows of the store with free locks, each named once, whatever the store
and the provisioner answer: no panic stops the loop; each ends in the state its own run persists,
the transition's new state when `TryLock`, the re-fetch, the pre-write re-fetch and the write
succeed and its discovered state otherwise; no other row changes; each one's lock ends free,
unless `TryLock` took it and the unlock call failed, and then names `i`; and no other lock
changes. -/
theorem doAlone_rows (i : String) (calls : ClusterInstallation → Calls)
    (L : List ClusterInstallation) (e : Shared) (hsoft : e.store.softDelete = true)
    (hrows : ∀ ci ∈ L, e.store.clusterInstallations ci.id = some ci)
    (hfree : ∀ ci ∈ L, e.store.lockAcquiredBy ci.id = none) (hnodup : (L.map (·.id)).Nodup) :
    (doAlone i calls L e).2 = false ∧
    (∀ ci ∈ L, ((doAlone i calls L e).1.store.clusterInstallations ci.id).map (·.state) =
      some (if (calls ci).lock && (calls ci).refetch && (calls ci).refetchForUpdate &&
          (calls ci).update then
        (transitionClusterInstallation (calls ci).backend e.store ci).newState else ci.state)) ∧
    (∀ id, id ∉ L.map (·.id) →
      (doAlone i calls L e).1.store.clusterInstallations id = e.store.clusterInstallations id) ∧
    (∀ ci ∈ L, (doAlone i calls L e).1.store.lockAcquiredBy ci.id =
      if (calls ci).lock && !(calls ci).unlock then some i else none) ∧
    (∀ id, id ∉ L.map (·.id) →
      (doAlone i calls L e).1.store.lockAcquiredBy id = e.store.lockAcquiredBy id) ∧
    (doAlone i calls L e).1.store.softDelete = true := by
  induction L generalizing e with
  | nil => exact ⟨rfl, by simp, fun _ _ => rfl, by simp, fun _ _ => rfl, hsoft⟩
  | cons ci L ih =>
    simp only [List.mem_cons, forall_eq_or_imp] at hrows hfree
    simp only [List.map_cons, List.nodup_cons] at hnodup
    obtain ⟨e', hdo, hstate, hother, hlk, hlk', hsoft'⟩ :=
      doAlone_turn i calls ci L e hsoft hrows.1 hfree.1
    -- the rows still to come are untouched by the turn of `ci`
    have hne : ∀ c ∈ L, c.id ≠ ci.id := fun c hc h => hnodup.1 (h ▸ List.mem_map_of_mem _ hc)
    obtain ⟨k₁, k₂, k₃, k₄, k₅, k₆⟩ := ih e' hsoft'
      (fun c hc => (hother c.id (hne c hc)).trans (hrows.2 c hc))
      (fun c hc => (hlk' c.id (hne c hc)).trans (hfree.2 c hc)) hnodup.2
    rw [hdo]
    refine ⟨k₁, List.forall_mem_cons.mpr ⟨?_, fun c hc => ?_⟩, fun id hid => ?_,
      List.forall_mem_cons.mpr ⟨(k₅ ci.id hnodup.1).trans hlk, k₄⟩, fun id hid => ?_, k₆⟩
    · rw [k₃ ci.id hnodup.1, hstate]
    · rw [k₂ c hc, transitionClusterInstallation_newState_store _ _ e.store]
    · simp only [List.map_cons, List.mem_cons, not_or] at hid
      rw [k₃ id hid.2, hother id hid.1]
    · simp only [List.map_cons, List.mem_cons, not_or] at hid
      rw [k₅ id hid.2, hlk' id hid.1]

/-- **One call of `Do`** with no other party acting, on a store that keeps deleted rows, its
discovery query answering over IDs named once, whatever the store and the provisioner answer:
a cluster installation the query returns whose `TryLock` call fails is skipped and keeps its
state; every other one is locked and supervised, and ends in the state its own run persists (the
transition's new state when the re-fetch, the pre-write re-fetch and the write succeed, its
discovered state otherwise); no other row changes; no panic stops the loop; and the lock table
ends as it began, but for the locks whose unlock call failed, which name the instance. -/
theorem do_supervises_every_discovered_row (i : String) (calls : ClusterInstallation → Calls)
    (e : Shared) (found : List String) (hsoft : e.store.softDelete = true) (hfound : found.Nodup) :
    let discovered := e.store.getUnlockedClusterInstallationsPendingWork found
    (doAlone i calls discovered e).2 = false ∧
    (∀ ci ∈ discovered, ((doAlone i calls discovered e).1.store.clusterInstallations ci.id).map
      (·.state) =
      some (if (calls ci).lock && (calls ci).refetch && (calls ci).refetchForUpdate &&
          (calls ci).update then
        (transitionClusterInstallation (calls ci).backend e.store ci).newState else ci.state)) ∧
    (∀ id, id ∉ discovered.map (·.id) →
      (doAlone i calls discovered e).1.store.clusterInstallations id =
        e.store.clusterInstallations id) ∧
    (∀ id, (doAlone i calls discovered e).1.store.lockAcquiredBy id =
      if ∃ ci ∈ discovered, ci.id = id ∧ (calls ci).lock = true ∧ (calls ci).unlock = false then
        some i
      else e.store.lockAcquiredBy id) := by
  intro discovered
  have hfree : ∀ ci ∈ discovered, e.store.lockAcquiredBy ci.id = none :=
    fun _ => e.store.lockAcquiredBy_of_mem_getUnlockedClusterInstallationsPendingWork
  have hnodup := e.store.getUnlockedClusterInstallationsPendingWork_nodup hfound
  obtain ⟨h₁, h₂, h₃, h₄, h₅, -⟩ := doAlone_rows i calls discovered e hsoft
    (fun _ => e.store.mem_getUnlockedClusterInstallationsPendingWork) hfree hnodup
  refine ⟨h₁, h₂, h₃, fun id => ?_⟩
  by_cases hid : id ∈ discovered.map (·.id)
  · -- a discovered row: its lock was free, and the turn of that row alone may have left it taken
    obtain ⟨ci, hci, rfl⟩ := List.mem_map.mp hid
    have honly : ∀ c ∈ discovered, c.id = ci.id → c = ci := fun c hc h =>
      List.inj_on_of_nodup_map hnodup hc hci h
    rw [h₄ ci hci, hfree ci hci]
    by_cases hlu : (calls ci).lock = true ∧ (calls ci).unlock = false
    · simp only [hlu, Bool.not_false, Bool.and_self, if_true]
      exact (if_pos ⟨ci, hci, rfl, hlu⟩).symm
    · have hnot : ¬∃ c ∈ discovered, c.id = ci.id ∧ (calls c).lock = true ∧
          (calls c).unlock = false := fun ⟨c, hc, hcid, hc'⟩ => hlu (honly c hc hcid ▸ hc')
      rw [if_neg hnot]
      simp only [Bool.and_eq_true, Bool.not_eq_true'] at hlu ⊢
      simp [hlu]
  · have hnot : ¬∃ c ∈ discovered, c.id = id ∧ (calls c).lock = true ∧
        (calls c).unlock = false := fun ⟨c, hc, hcid, _⟩ => hid (hcid ▸ List.mem_map_of_mem _ hc)
    rw [h₅ id hid, if_neg hnot]

/-- The rows of `twoPendingStore`, on a store that keeps deleted rows. -/
def twoPendingSoftStore : Store := { twoPendingStore with softDelete := true }

/-- Both rows discovered; `TryLock`'s call fails for `ci1`, and the unlock call fails for `ci2`:
the loop runs to its end, `ci1` is left unlocked and `ci2`'s lock names the instance. -/
theorem do_supervises_every_discovered_row_two_pending :
    twoPendingSoftStore.softDelete = true ∧ ["ci1", "ci2"].Nodup ∧
    (doAlone "a" (fun ci => if ci.id = "ci1" then { lock := false } else { unlock := false })
      (twoPendingSoftStore.getUnlockedClusterInstallationsPendingWork ["ci1", "ci2"])
      ⟨twoPendingSoftStore, [], []⟩).2 = false ∧
    (doAlone "a" (fun ci => if ci.id = "ci1" then { lock := false } else { unlock := false })
      (twoPendingSoftStore.getUnlockedClusterInstallationsPendingWork ["ci1", "ci2"])
      ⟨twoPendingSoftStore, [], []⟩).1.store.lockAcquiredBy "ci2" = some "a" :=
  have h := do_supervises_every_discovered_row "a"
    (fun ci => if ci.id = "ci1" then { lock := false } else { unlock := false })
    ⟨twoPendingSoftStore, [], []⟩ ["ci1", "ci2"] rfl (by decide)
  ⟨rfl, by decide, h.1, (h.2.2.2 "ci2").trans (by decide)⟩

/-! ## Repeated cycles -/

/-- Cycles of `Do` by instance `i` with no other party acting, each discovering `ci` and answered
by the next record of `cs`: `TryLock`, and when it succeeds a run of `Supervise`. -/
def superviseEach (i : String) (ci : ClusterInstallation) : List Calls → Shared → Shared
  | [], e => e
  | c :: cs, e => superviseEach i ci cs (doAlone i (fun _ => c) [ci] e).1

/-- A turn of `Do`'s loop whose `TryLock` fails, or whose `Supervise` run fails its first
re-fetch or keeps the state, stops no loop and leaves the rows, the log and the observations as
they were. -/
theorem doAlone_quiet (i : String) (ci c₀ : ClusterInstallation) (c : Calls) (e : Shared)
    (hrow : e.store.clusterInstallations ci.id = some c₀) (hs : c₀.state = ci.state)
    (hkeep : c.refetch = false ∨
      (transitionClusterInstallation c.backend e.store c₀).newState = ci.state) :
    (doAlone i (fun _ => c) [ci] e).2 = false ∧
    (doAlone i (fun _ => c) [ci] e).1.store.clusterInstallations = e.store.clusterInstallations ∧
    (doAlone i (fun _ => c) [ci] e).1.store.stateChangeEvents = e.store.stateChangeEvents ∧
    (doAlone i (fun _ => c) [ci] e).1.observations = e.observations := by
  by_cases hl : (c.lock && (e.store.lockClusterInstallations [ci.id] i).1) = true
  · set e₁ : Shared := { e with store := (e.store.lockClusterInstallations [ci.id] i).2 }
      with he₁
    have hkeep₁ : c.refetch = false ∨
        (transitionClusterInstallation c.backend e₁.store c₀).newState = ci.state := by
      rwa [transitionClusterInstallation_newState_store _ _ e.store]
    obtain ⟨hret, h₁, h₂, h₃⟩ :=
      superviseAlone_quiet i ci c (e := e₁) (by simpa [he₁] using hrow) hs hkeep₁
    rcases hsa : superviseAlone i ci c 7 e₁ .refetch with ⟨e', nxt⟩
    rw [hsa] at hret h₁ h₂ h₃
    subst hret
    have hdo : doAlone i (fun _ => c) [ci] e = (e', false) := by
      simp only [doAlone, hl, if_true, hsa]
    rw [hdo]
    exact ⟨rfl, by simpa [he₁] using h₁, by simpa [he₁] using h₂, h₃⟩
  · simp [doAlone, hl]

/-- **Idempotence under failure** (the spec's §8). Cycles of `Do` whose `Supervise` run fails
its first re-fetch or keeps the state — a failed lookup, a failed provisioning step, a resource
not ready, a failed cleanup, running backups — or whose `TryLock` fails, leave the rows, the
event log and the observations as they were, however many cycles there are. -/
theorem supervise_repeated_failure_keeps_state (i : String) (ci c₀ : ClusterInstallation)
    (cs : List Calls) (e : Shared) (hrow : e.store.clusterInstallations ci.id = some c₀)
    (hs : c₀.state = ci.state)
    (hfail : ∀ c ∈ cs, c.refetch = false ∨
      (transitionClusterInstallation c.backend e.store c₀).newState = ci.state) :
    (superviseEach i ci cs e).store.clusterInstallations = e.store.clusterInstallations ∧
    (superviseEach i ci cs e).store.stateChangeEvents = e.store.stateChangeEvents ∧
    (superviseEach i ci cs e).observations = e.observations := by
  induction cs generalizing e with
  | nil => exact ⟨rfl, rfl, rfl⟩
  | cons c cs ih =>
    obtain ⟨-, h₁, h₂, h₃⟩ := doAlone_quiet i ci c₀ c e hrow hs (hfail c (List.mem_cons_self _ _))
    obtain ⟨k₁, k₂, k₃⟩ := ih (doAlone i (fun _ => c) [ci] e).1 (by rw [h₁]; exact hrow)
      fun c' hc' => (hfail c' (List.mem_cons_of_mem _ hc')).imp_right fun h => by
        rw [transitionClusterInstallation_newState_store _ _ e.store, h]
    exact ⟨k₁.trans h₁, k₂.trans h₂, k₃.trans h₃⟩

/-- Three runs of a deletion: with backups running, with the cluster lookup failing, with the
first re-fetch failing. -/
def blockedRuns : List Calls :=
  [{ backend := { getInstallationBackups := some 2 } }, { backend := { getCluster := .error } },
    { refetch := false }]

/-- Those three runs leave the row of a deletion as it was. -/
theorem supervise_repeated_failure_keeps_state_blocked :
    (Shared.mk (Store.ofRows [deletionRow] true) [] []).store.clusterInstallations deletionRow.id =
      some deletionRow ∧
    (∀ c ∈ blockedRuns, c.refetch = false ∨
      (transitionClusterInstallation c.backend (Store.ofRows [deletionRow] true)
        deletionRow).newState = deletionRow.state) ∧
    (superviseEach "a" deletionRow blockedRuns
        ⟨Store.ofRows [deletionRow] true, [], []⟩).store.clusterInstallations =
      (Store.ofRows [deletionRow] true).clusterInstallations := by
  have hrow : (Shared.mk (Store.ofRows [deletionRow] true) [] []).store.clusterInstallations
      deletionRow.id = some deletionRow := by decide
  have hfail : ∀ c ∈ blockedRuns, c.refetch = false ∨
      (transitionClusterInstallation c.backend (Store.ofRows [deletionRow] true)
        deletionRow).newState = deletionRow.state := by decide
  exact ⟨hrow, hfail,
    (supervise_repeated_failure_keeps_state "a" deletionRow deletionRow _ _ hrow rfl hfail).1⟩

/-- A turn of `Do`'s loop on the row the query returns for its ID is the turn on the row: when
its lock is taken the query answers nothing, and `TryLock` would have failed. -/
theorem doAlone_getUnlocked_singleton (i : String) (calls : ClusterInstallation → Calls)
    {ci : ClusterInstallation} {e : Shared} (hrow : e.store.clusterInstallations ci.id = some ci)
    (hp : ci.state ∈ pendingWork) :
    doAlone i calls (e.store.getUnlockedClusterInstallationsPendingWork [ci.id]) e =
      doAlone i calls [ci] e := by
  rw [Store.getUnlockedClusterInstallationsPendingWork_singleton hrow hp]
  split
  · rfl
  · rename_i hlocked
    simp [doAlone, (Store.lockClusterInstallations_singleton ci.id i).1, hlocked]

/-- **The cycles are what the interleaving model does** when only instance `i` acts, from rest,
over a row pending work that each cycle's query rediscovers: while every run fails its first
re-fetch or keeps the state, a list of `i`'s own steps, one `Do` call answered with the row's ID
for each record of `cs`, takes the world to the shared state `superviseEach` computes, with `i`
at rest again. -/
theorem run_superviseEach {w : World} {i : String} (h : w.procs i = .idle)
    {ci : ClusterInstallation} (hrow : w.store.clusterInstallations ci.id = some ci)
    (hp : ci.state ∈ pendingWork) (cs : List Calls)
    (hfail : ∀ c ∈ cs, c.refetch = false ∨
      (transitionClusterInstallation c.backend w.store ci).newState = ci.state) :
    ∃ rs : List Reply, w.run (rs.map (.supervisor i)) =
      { superviseEach i ci cs w.toShared with procs := w.procs } := by
  induction cs generalizing w with
  | nil => exact ⟨[], rfl⟩
  | cons c cs ih =>
    obtain ⟨rs₁, hrun₁⟩ := run_doCycle h [ci.id] (fun _ => c)
    obtain ⟨hnp, h₁, -, -⟩ :=
      doAlone_quiet i ci ci c w.toShared hrow rfl (hfail c (List.mem_cons_self _ _))
    rw [doAlone_getUnlocked_singleton i _ hrow hp, hnp, if_neg Bool.false_ne_true,
      Function.update_eq_self_iff.mpr h.symm] at hrun₁
    obtain ⟨rs₂, hrun₂⟩ := ih (w := ⟨(doAlone i (fun _ => c) [ci] w.toShared).1, w.procs⟩) h
      (by rw [show _ = _ from h₁]; exact hrow)
      fun c' hc' => (hfail c' (List.mem_cons_of_mem _ hc')).imp_right fun h' => by
        rw [transitionClusterInstallation_newState_store _ _ w.store, h']
    exact ⟨rs₁ ++ rs₂, by rw [List.map_append, run_append, hrun₁]; exact hrun₂⟩

/-! ## Convergence when every call succeeds -/

end MattermostCloud.Supervisor
