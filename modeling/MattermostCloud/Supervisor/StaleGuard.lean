import MattermostCloud.Supervisor.Supervise

/-!
# Writers that do not take the lock: what the two re-fetches guard

`Supervise` re-reads the record twice (`cluster_installation.go` lines 109 and 125). The first
re-read is compared with the state the discovery query returned: a difference ends `Supervise`
before any write. The second re-read is compared with the *new* state only; it skips a write
that would change nothing, and otherwise writes the new state over whatever it read.

* `stale_guard_keeps_writes` — **the first re-fetch's guard**: if the state read there differs
  from the discovered one (as when a writer that does not take the lock moved it after the lock
  was taken), the rest of that `Supervise` — the re-fetch and the deferred unlock, interleaved
  with any writes of such parties — changes no row, appends no event, records no observation and
  calls no provisioner, so the rows are those the other writers leave.
* `supervise_overwrites_write_in_window` — a write that lands after the first re-fetch and before
  the pre-write re-fetch is overwritten: in a run whose transition returns Reconciling unchanged
  (not ready), the final write puts Reconciling over the DeletionRequested written in between and
  produces an event for it; and from CreationRequested, the create handler's
  `UpdateClusterInstallation` writes the stale record back over such a write.
-/

namespace MattermostCloud.Supervisor

open ClusterInstallationState World

/-- The actions of parties that write without taking the lock. -/
def Action.OutOfBand : Action → Prop
  | .supervisor _ _ => False
  | _ => True

variable {w : World}

/-- Writes without the lock change only rows, and the rows they leave depend only on the rows
they start from. -/
theorem run_outOfBand (as : List Action) (has : ∀ a ∈ as, a.OutOfBand) :
    (w.run as).observations = w.observations ∧
    (w.run as).provisionerCalls = w.provisionerCalls ∧
    (w.run as).procs = w.procs ∧
    (w.run as).store.lockAcquiredBy = w.store.lockAcquiredBy ∧
    (w.run as).store.stateChangeEvents = w.store.stateChangeEvents := by
  induction as generalizing w with
  | nil => exact ⟨rfl, rfl, rfl, rfl, rfl⟩
  | cons a as ih =>
    have hstep : (w.step a).observations = w.observations ∧
        (w.step a).provisionerCalls = w.provisionerCalls ∧ (w.step a).procs = w.procs ∧
        (w.step a).store.lockAcquiredBy = w.store.lockAcquiredBy ∧
        (w.step a).store.stateChangeEvents = w.store.stateChangeEvents := by
      cases a with
      | supervisor => exact (has _ (List.mem_cons_self _ _)).elim
      | writeState id st => exact ⟨rfl, rfl, rfl, rfl, rfl⟩
      | removeRow id => exact ⟨rfl, rfl, rfl, rfl, rfl⟩
    obtain ⟨h₁, h₂, h₃, h₄, h₅⟩ :=
      ih (w := w.step a) fun b hb => has b (List.mem_cons_of_mem a hb)
    simp only [run_cons, h₁, h₂, h₃, h₄, h₅, hstep, and_self]

/-- Two worlds with the same rows keep the same rows under the same writes by other parties. -/
theorem run_outOfBand_rows {w₁ w₂ : World}
    (h : w₁.store.clusterInstallations = w₂.store.clusterInstallations)
    (as : List Action) (has : ∀ a ∈ as, a.OutOfBand) :
    (w₁.run as).store.clusterInstallations = (w₂.run as).store.clusterInstallations := by
  induction as generalizing w₁ w₂ with
  | nil => exact h
  | cons a as ih =>
    refine ih ?_ fun b hb => has b (List.mem_cons_of_mem a hb)
    cases a with
    | supervisor => exact (has _ (List.mem_cons_self _ _)).elim
    | writeState id st => simp only [World.step, Store.setState, h]
    | removeRow id => simp only [World.step, Store.eraseClusterInstallation, h]

/-- The first re-fetch reads a state other than the discovered one: `Supervise` goes to its
deferred unlock and changes nothing, whether the read succeeds or fails. -/
theorem superviseStep_refetch_stale {i : String} {ci c : ClusterInstallation} {e : Shared}
    (r : Reply) (hc : e.store.clusterInstallations ci.id = some c) (hstale : c.state ≠ ci.state) :
    superviseStep i ci r e .refetch = (e, .phase (.unlock false)) := by
  simp only [superviseStep, Store.getClusterInstallation, hc]
  split <;> simp [hstale]

/-- **The stale guard.** Instance `i` has taken the lock of the discovered `ci`. Parties that do
not take the lock write in `xs`; then the re-fetch reads a record whose state differs from the
discovered one; they write again in `ys`, `Supervise` runs its deferred unlock and returns, and
they write in `zs`. Whatever the store answers, that `Supervise` has changed no row — the rows
are those the other writers alone leave — appended no event, recorded no observation and made no
provisioner call. -/
theorem stale_guard_keeps_writes (w : World) (i : String) (ci c : ClusterInstallation)
    (pending : List ClusterInstallation) (hi : w.procs i = .supervising ci .refetch pending)
    (xs ys zs : List Action) (hxs : ∀ a ∈ xs, a.OutOfBand) (hys : ∀ a ∈ ys, a.OutOfBand)
    (hzs : ∀ a ∈ zs, a.OutOfBand)
    (hc : (w.run xs).store.clusterInstallations ci.id = some c) (hstale : c.state ≠ ci.state)
    (r₁ r₂ : Reply) :
    (w.run (xs ++ [.supervisor i r₁] ++ ys ++ [.supervisor i r₂] ++ zs)).store.clusterInstallations =
      (w.run (xs ++ ys ++ zs)).store.clusterInstallations ∧
    (w.run (xs ++ [.supervisor i r₁] ++ ys ++ [.supervisor i r₂] ++ zs)).store.stateChangeEvents =
      w.store.stateChangeEvents ∧
    (w.run (xs ++ [.supervisor i r₁] ++ ys ++ [.supervisor i r₂] ++ zs)).observations =
      w.observations ∧
    (w.run (xs ++ [.supervisor i r₁] ++ ys ++ [.supervisor i r₂] ++ zs)).provisionerCalls =
      w.provisionerCalls ∧
    (w.run (xs ++ [.supervisor i r₁] ++ ys ++ [.supervisor i r₂] ++ zs)).procs i =
      .doing pending := by
  obtain ⟨o₁, p₁, c₁, -, e₁⟩ := run_outOfBand (w := w) xs hxs
  have hi₁ : (w.run xs).procs i = .supervising ci .refetch pending := by rw [c₁, hi]
  -- the re-fetch: nothing changes but `i`'s phase
  set w₂ := (w.run xs).step (.supervisor i r₁) with hw₂
  have h₂ : w₂ = (w.run xs).setProc i (.supervising ci (.unlock false) pending) := by
    rw [hw₂, World.step, stepInstance_supervising hi₁, superviseStep_refetch_stale r₁ hc hstale]
    rfl
  obtain ⟨o₃, p₃, c₃, -, e₃⟩ := run_outOfBand (w := w₂) ys hys
  have hi₃ : (w₂.run ys).procs i = .supervising ci (.unlock false) pending := by
    rw [c₃, h₂]; simp [World.setProc]
  -- the deferred unlock: only the lock and `i` change
  set w₄ := (w₂.run ys).step (.supervisor i r₂) with hw₄
  have h₄ : w₄.toShared = { (w₂.run ys).toShared with
      store := if r₂.unlocked then (w₂.run ys).store.unlockClusterInstallations [ci.id] i false
        else (w₂.run ys).store } ∧
      w₄.procs i = .doing pending := by
    rw [hw₄, World.step, stepInstance_supervising hi₃]
    exact ⟨rfl, by simp [superviseStep, Next.resume]⟩
  obtain ⟨o₅, p₅, c₅, -, e₅⟩ := run_outOfBand (w := w₄) zs hzs
  have hrun : w.run (xs ++ [.supervisor i r₁] ++ ys ++ [.supervisor i r₂] ++ zs) =
      w₄.run zs := by simp only [run_append, run_cons, run_nil, hw₂, hw₄]
  have hrows₂ : w₂.store.clusterInstallations = (w.run xs).store.clusterInstallations := by
    rw [h₂]; rfl
  have hrows₄ : w₄.store.clusterInstallations = ((w.run xs).run ys).store.clusterInstallations := by
    have : w₄.store = if r₂.unlocked then (w₂.run ys).store.unlockClusterInstallations [ci.id] i
        false else (w₂.run ys).store := congrArg Shared.store h₄.1
    rw [this, Store.unlockClusterInstallations_if_clusterInstallations]
    exact run_outOfBand_rows hrows₂ ys hys
  rw [hrun]
  refine ⟨?_, ?_, ?_, ?_, by rw [c₅]; exact h₄.2⟩
  · rw [run_append, run_append]
    exact run_outOfBand_rows hrows₄ zs hzs
  · rw [e₅, show w₄.store = _ from congrArg Shared.store h₄.1,
      Store.unlockClusterInstallations_if_stateChangeEvents, e₃, h₂]
    exact e₁
  · rw [o₅, show w₄.observations = _ from congrArg Shared.observations h₄.1, o₃, h₂]
    exact o₁
  · rw [p₅, show w₄.provisionerCalls = _ from congrArg Shared.provisionerCalls h₄.1, p₃, h₂]
    exact p₁

/-- An API writer requests the deletion of a Reconciling installation right after instance `a`
took its lock: `a`'s re-fetch sees DeletionRequested and the request survives. -/
theorem stale_guard_keeps_deletion_request :
    let w := (start (Store.ofRows [⟨"ci", "cluster", "installation", .reconciling⟩] true)).run
      [.supervisor "a" { found := ["ci"] }, .supervisor "a" {}]
    let ci : ClusterInstallation := ⟨"ci", "cluster", "installation", .reconciling⟩
    let xs := [Action.writeState "ci" .deletionRequested]
    w.procs "a" = .supervising ci .refetch [] ∧
    (w.run xs).store.clusterInstallations ci.id = some { ci with state := .deletionRequested } ∧
    (w.run (xs ++ [.supervisor "a" {}] ++ [] ++ [.supervisor "a" {}] ++ [])).stateOf "ci" =
      some .deletionRequested ∧
    (w.run (xs ++ [.supervisor "a" {}] ++ [] ++ [.supervisor "a" {}] ++ [])).procs "a" =
      .doing [] := by
  intro w ci xs
  have hi : w.procs "a" = .supervising ci .refetch [] := by decide
  have hc : (w.run xs).store.clusterInstallations ci.id =
      some { ci with state := .deletionRequested } := by decide
  have hoob : ∀ a ∈ xs, a.OutOfBand := by simp [xs, Action.OutOfBand]
  obtain ⟨hrows, -, -, -, hproc⟩ := stale_guard_keeps_writes w "a" ci _ [] hi xs [] []
    hoob (by simp) (by simp) hc (by decide) {} {}
  refine ⟨hi, hc, ?_, hproc⟩
  rw [World.stateOf, hrows]
  decide

/-- A write without the lock between the two re-fetches does not survive `Supervise`. Instance
`a` takes a Reconciling installation, re-reads it, and an API writer then requests its deletion;
the resource is not ready, the transition returns Reconciling, and the pre-write re-fetch reads
DeletionRequested: `Supervise` writes Reconciling over it and produces an event for that change.
From CreationRequested, the same write is undone already by the create handler's
`UpdateClusterInstallation` of the record re-read before it, and the run ends in Reconciling. -/
theorem supervise_overwrites_write_in_window :
    let w := start (Store.ofRows [⟨"ci", "cluster", "installation", .reconciling⟩] true)
    let before := [Action.supervisor "a" { found := ["ci"] }, .supervisor "a" {},
      .supervisor "a" {}, .writeState "ci" .deletionRequested]
    let after := [Action.supervisor "a" { backend := { isResourceReady := some false } },
      .supervisor "a" {}, .supervisor "a" {}, .supervisor "a" {}, .supervisor "a" {},
      .supervisor "a" {}]
    let w' := start (Store.ofRows [⟨"ci", "cluster", "installation", .creationRequested⟩] true)
    (w.run before).stateOf "ci" = some .deletionRequested ∧
    (w.run (before ++ after)).stateOf "ci" = some .reconciling ∧
    (w.run (before ++ after)).store.stateChangeEvents =
      [⟨"", 0, "ci", .deletionRequested, .reconciling⟩] ∧
    (w.run (before ++ after)).procs "a" = .doing [] ∧
    (w'.run (before ++ [.supervisor "a" {}])).stateOf "ci" = some .creationRequested ∧
    (w'.run (before ++ List.replicate 6 (.supervisor "a" {}))).stateOf "ci" =
      some .reconciling := by
  decide

end MattermostCloud.Supervisor
