import MattermostCloud.Supervisor.Supervise

/-!
# One `Supervise` run alone: the error taxonomy

The spec's error taxonomy (§4.2 and §7), checked against the handlers and then carried through
one `Supervise` run that no other party interleaves with.

* `Taxonomy` — the taxonomy as the code has it, one field a row: lookups that fail are
  transient; a missing cluster or installation drives CreationRequested to CreationFailed and
  DeletionRequested to DeletionFailed and leaves every other state, Reconciling included, as it
  is (`failedClusterInstallationState`'s `default:`); the create and reconcile handlers keep
  their state on a provisioner failure; the delete handler keeps DeletionRequested while the
  backup query fails or backups run, without calling the provisioner's delete, and goes to
  DeletionFailed when **either** delete fails — the provisioner's too (line 247).
* `transitionClusterInstallation_taxonomy` — the handlers satisfy it.
* `superviseAlone` — `Supervise` from its re-fetch, run alone, its calls answered by a `Calls`
  record; `run_superviseAlone` shows it is what the interleaving model does when no other
  party acts.
* `supervise_error_taxonomy` — for a record whose re-fetched state is the discovered one, every
  run returns within seven calls; it persists the transition's new state exactly when the
  re-fetch, the pre-write re-fetch and the write succeed (and the row survived the transition),
  and otherwise leaves the state as it was; a run whose transition keeps the state writes no row,
  produces no event and records no observation (`superviseAlone_quiet`).
* `supervise_error_taxonomy_exceptions` — where the spec's wording of the taxonomy and the code
  part: a failed provisioner delete, and a missing reference while Reconciling.
-/

namespace MattermostCloud.Supervisor

open ClusterInstallationState World

/-- Both lookups found their record. -/
def Backend.Found (b : Backend) : Prop := b.getCluster = .found ∧ b.getInstallation = .found

/-- The error taxonomy of the spec's §4.2 and §7, as the code has it, for one transition from the
state `s` whose collaborators answer `b` and which returns `t`. -/
structure Taxonomy (s : ClusterInstallationState) (b : Backend) (t : TransitionResult) : Prop where
  /-- A failed lookup of the cluster or of the installation is transient. -/
  lookupFailed : b.getCluster = .error ∨ (b.getCluster = .found ∧ b.getInstallation = .error) →
    t.newState = s
  /-- A missing cluster or installation fails a creation or a deletion for good, and leaves every
  other state as it is. -/
  referenceMissing : b.getCluster = .absent ∨
      (b.getCluster = .found ∧ b.getInstallation = .absent) →
    (s = .creationRequested → t.newState = .creationFailed) ∧
    (s = .deletionRequested → t.newState = .deletionFailed) ∧
    (s ≠ .creationRequested → s ≠ .deletionRequested → t.newState = s)
  /-- A failed provisioning step of a creation is transient. -/
  createTransient : b.Found → s = .creationRequested →
    b.prepareClusterUtilities = false ∨ b.createClusterInstallation = false →
    t.newState = .creationRequested
  /-- A failed write of the provisioned record fails the creation for good. -/
  createFailed : b.Found → s = .creationRequested → b.prepareClusterUtilities = true →
    b.createClusterInstallation = true → b.updateClusterInstallation = false →
    t.newState = .creationFailed
  /-- A creation whose calls all succeed reaches Reconciling. -/
  created : b.Found → s = .creationRequested → b.prepareClusterUtilities = true →
    b.createClusterInstallation = true → b.updateClusterInstallation = true →
    t.newState = .reconciling
  /-- A failed backup query, or running backups, block a deletion, and the provisioner's delete
  is not called. -/
  deleteBlocked : b.Found → s = .deletionRequested →
    (b.getInstallationBackups = none ∨ ∃ n, b.getInstallationBackups = some n ∧ 0 < n) →
    t.newState = .deletionRequested ∧ .deleteClusterInstallation ∉ t.calls
  /-- A failed delete, of the provisioner or of the store, fails the deletion for good. -/
  deleteFailed : b.Found → s = .deletionRequested → b.getInstallationBackups = some 0 →
    b.deleteClusterInstallation = false ∨ b.storeDeleteClusterInstallation = false →
    t.newState = .deletionFailed
  /-- A deletion whose calls all succeed reaches Deleted. -/
  deleted : b.Found → s = .deletionRequested → b.getInstallationBackups = some 0 →
    b.deleteClusterInstallation = true → b.storeDeleteClusterInstallation = true →
    t.newState = .deleted
  /-- A failed readiness probe, a resource not ready, or a failed cleanup keep Reconciling. -/
  reconcileTransient : b.Found → s = .reconciling →
    b.isResourceReady ≠ some true ∨ b.deleteOldClusterInstallationLicenseSecrets = false →
    t.newState = .reconciling
  /-- A ready resource whose cleanup succeeds reaches Stable. -/
  reconciled : b.Found → s = .reconciling → b.isResourceReady = some true →
    b.deleteOldClusterInstallationLicenseSecrets = true → t.newState = .stable
  /-- A state with no handler is kept. -/
  noHandler : b.Found → s ∉ [.creationRequested, .reconciling, .deletionRequested] →
    t.newState = s

/-- A missing cluster or installation fails a creation or a deletion and keeps every other
state. -/
theorem failedClusterInstallationState_spec (s : ClusterInstallationState) :
    (s = .creationRequested → failedClusterInstallationState s = .creationFailed) ∧
    (s = .deletionRequested → failedClusterInstallationState s = .deletionFailed) ∧
    (s ≠ .creationRequested → s ≠ .deletionRequested → failedClusterInstallationState s = s) := by
  cases s <;> decide

section taxonomy

variable (b : Backend) (s : Store) (ci : ClusterInstallation)

/-- **The handlers follow the error taxonomy.** -/
theorem transitionClusterInstallation_taxonomy :
    Taxonomy ci.state b (transitionClusterInstallation b s ci) where
  lookupFailed := by
    rintro (h | ⟨h₁, h₂⟩) <;> simp [transitionClusterInstallation, *]
  referenceMissing := by
    rintro (h | ⟨h₁, h₂⟩) <;> simpa [transitionClusterInstallation, *] using
      failedClusterInstallationState_spec ci.state
  createTransient := by
    rintro ⟨hc, hi⟩ hs h
    simp only [transitionClusterInstallation, hc, hi, hs, createClusterInstallation]
    split_ifs <;> simp_all
  createFailed := by
    rintro ⟨hc, hi⟩ hs h₁ h₂ h₃
    simp [transitionClusterInstallation, createClusterInstallation, *]
  created := by
    rintro ⟨hc, hi⟩ hs h₁ h₂ h₃
    simp [transitionClusterInstallation, createClusterInstallation, *]
  deleteBlocked := by
    rintro ⟨hc, hi⟩ hs h
    simp only [transitionClusterInstallation, hc, hi, hs, deleteClusterInstallation]
    rcases h with h | ⟨n, h, hn⟩
    · simp [h, hs]
    · simp [h, hs, hn]
  deleteFailed := by
    rintro ⟨hc, hi⟩ hs h₀ h
    simp only [transitionClusterInstallation, hc, hi, hs, deleteClusterInstallation, h₀]
    rcases h with h | h <;> simp [h, clusterStateDeletionFailed]
  deleted := by
    rintro ⟨hc, hi⟩ hs h₁ h₂ h₃
    simp [transitionClusterInstallation, deleteClusterInstallation, *]
  reconcileTransient := by
    rintro ⟨hc, hi⟩ hs h
    simp only [transitionClusterInstallation, hc, hi, hs, checkReconcilingClusterInstallation]
    split <;> simp_all
  reconciled := by
    rintro ⟨hc, hi⟩ hs h₁ h₂
    simp [transitionClusterInstallation, checkReconcilingClusterInstallation, *]
  noHandler := by
    rintro ⟨hc, hi⟩ hs
    simp only [List.mem_cons, List.mem_singleton, not_or] at hs
    obtain ⟨h₁, h₂, h₃⟩ := hs
    simp only [transitionClusterInstallation, hc, hi]
    split <;> simp_all

/-- What a transition leaves of the rows, from a store holding the record it ran on: the rows as
they were, or, from DeletionRequested to Deleted, the rows after the store's delete. -/
theorem transitionClusterInstallation_rows (h : s.clusterInstallations ci.id = some ci) :
    (transitionClusterInstallation b s ci).store.clusterInstallations = s.clusterInstallations ∨
    (ci.state = .deletionRequested ∧ (transitionClusterInstallation b s ci).newState = .deleted ∧
      (transitionClusterInstallation b s ci).store = s.deleteClusterInstallation ci.id) := by
  rcases transitionClusterInstallation_cases b s ci with ⟨h', -⟩ | ⟨-, -, h'⟩ | h'
  · exact .inl (by rw [h'])
  · exact .inl (by rw [h', Store.updateClusterInstallation_of_row h])
  · exact .inr h'

/-- The row a transition leaves under the record's ID, if any, holds the state it ran from. -/
theorem transitionClusterInstallation_row_state (h : s.clusterInstallations ci.id = some ci) :
    ∀ x ∈ (transitionClusterInstallation b s ci).store.clusterInstallations ci.id,
      x.state = ci.state := by
  intro x hx
  rcases transitionClusterInstallation_rows b s ci h with h' | ⟨-, -, h'⟩
  · rw [h', h, Option.mem_some_iff] at hx
    rw [hx]
  · rw [h', Store.deleteClusterInstallation] at hx
    split_ifs at hx
    · rw [h, Option.mem_some_iff] at hx
      rw [hx]
    · simp [Store.eraseClusterInstallation] at hx

end taxonomy

/-! ## One run alone -/

/-- What the collaborators answer to the calls of one `Supervise` run, one field a call: the
`LockClusterInstallations` of `Do`'s `TryLock` before it, the first re-fetch, the transition, the
pre-write re-fetch, the write, the event query of the metrics, the event producer with the ID and
time of the event it produces, and the `UnlockClusterInstallations` of the deferred `Unlock`. -/
structure Calls where
  lock : Bool := true
  refetch : Bool := true
  backend : Backend := {}
  refetchForUpdate : Bool := true
  update : Bool := true
  metrics : Bool := true
  event : Bool := true
  eventId : String := ""
  now : Int := 0
  unlock : Bool := true
  deriving DecidableEq, Repr

/-- The answer to the call `Supervise` makes at `ph`. -/
def Calls.reply (c : Calls) : Phase → Reply
  | .refetch => { ok := c.refetch }
  | .transition _ => { backend := c.backend }
  | .refetchForUpdate _ => { ok := c.refetchForUpdate }
  | .update _ _ => { ok := c.update }
  | .processMetrics _ _ => { ok := c.metrics }
  | .produceEvent _ _ => { ok := c.event, eventId := c.eventId, now := c.now }
  | .unlock _ => { unlocked := c.unlock }

/-- `Supervise` of `ci` by instance `i` from `ph`, run alone for at most `n` calls, each answered
by `c`: what it leaves of the shared state, and where it stops. -/
def superviseAlone (i : String) (ci : ClusterInstallation) (c : Calls) :
    Nat → Shared → Phase → Shared × Next
  | 0, e, ph => (e, .phase ph)
  | n + 1, e, ph =>
    match superviseStep i ci (c.reply ph) e ph with
    | (e', .phase ph') => superviseAlone i ci c n e' ph'
    | result => result

/-- A run alone is what the interleaving model does when only instance `i` acts: a list of its
own steps takes the world to the run's shared state, with `i` at the run's end. -/
theorem run_superviseAlone {w : World} {i : String} {ci : ClusterInstallation} {ph : Phase}
    {pending : List ClusterInstallation} (h : w.procs i = .supervising ci ph pending) (c : Calls)
    (n : Nat) :
    ∃ rs : List Reply, rs.length ≤ n ∧ w.run (rs.map (.supervisor i)) =
      { (superviseAlone i ci c n w.toShared ph).1 with
        procs := Function.update w.procs i
          ((superviseAlone i ci c n w.toShared ph).2.resume ci pending) } := by
  induction n generalizing w ph with
  | zero =>
    refine ⟨[], le_rfl, ?_⟩
    simp only [superviseAlone, Next.resume, ← h, Function.update_eq_self]
    rfl
  | succ n ih =>
    have hstep := stepInstance_supervising h (c.reply ph)
    rcases hs : superviseStep i ci (c.reply ph) w.toShared ph with ⟨e', _ | _ | _⟩
    case phase ph' =>
      have hph : (w.step (.supervisor i (c.reply ph))).procs i = .supervising ci ph' pending := by
        simp [World.step, hstep, hs, Next.resume]
      obtain ⟨rs, hlen, hrun⟩ := ih hph
      refine ⟨c.reply ph :: rs, by simpa using hlen, ?_⟩
      simp only [List.map_cons, run_cons, hrun, superviseAlone, hs]
      simp [World.step, hstep, hs, Next.resume]
    all_goals
      refine ⟨[c.reply ph], by simp, ?_⟩
      simp [World.step, hstep, hs, superviseAlone]

section alone

variable (i : String) (ci : ClusterInstallation) (c : Calls)

/-- **From the pre-write re-fetch on.** `Supervise` stops within five calls, panicking only when
the row is absent, and makes no provisioner call; the row's state becomes `newState` when the re-fetch and the write succeed and
stays as it was otherwise, an absent row staying absent; and when the row already holds
`newState` no row, event or observation changes. -/
theorem superviseAlone_refetchForUpdate (e : Shared) (newState : ClusterInstallationState)
    (n : Nat) :
    ((superviseAlone i ci c (n + 5) e (.refetchForUpdate newState)).2 = .returned ∨
      (superviseAlone i ci c (n + 5) e (.refetchForUpdate newState)).2 = .panicked ∧
        e.store.clusterInstallations ci.id = none) ∧
    (superviseAlone i ci c (n + 5) e (.refetchForUpdate newState)).1.provisionerCalls =
      e.provisionerCalls ∧
    ((superviseAlone i ci c (n + 5) e (.refetchForUpdate newState)).1.store.clusterInstallations
        ci.id).map (·.state) =
      (e.store.clusterInstallations ci.id).map
        (fun c₁ => if c.refetchForUpdate && c.update then newState else c₁.state) ∧
    ((∀ c₁ ∈ e.store.clusterInstallations ci.id, c₁.state = newState) →
      (superviseAlone i ci c (n + 5) e (.refetchForUpdate newState)).1.store.clusterInstallations =
        e.store.clusterInstallations ∧
      (superviseAlone i ci c (n + 5) e (.refetchForUpdate newState)).1.store.stateChangeEvents =
        e.store.stateChangeEvents ∧
      (superviseAlone i ci c (n + 5) e (.refetchForUpdate newState)).1.observations =
        e.observations) := by
  cases hf : c.refetchForUpdate
  · simp [superviseAlone, superviseStep, Calls.reply, hf]
  cases hr : e.store.clusterInstallations ci.id with
  | none => simp [superviseAlone, superviseStep, Calls.reply, hf, Store.getClusterInstallation, hr]
  | some c₁ =>
    by_cases hns : c₁.state = newState
    · simp [superviseAlone, superviseStep, Calls.reply, hf, Store.getClusterInstallation, hr, hns]
    cases hu : c.update
    · simp [superviseAlone, superviseStep, Calls.reply, hf, Store.getClusterInstallation, hr, hns,
        hu]
    · have hid : c₁.id = ci.id := e.store.wf _ _ hr
      simp [superviseAlone, superviseStep, Calls.reply, hf, Store.getClusterInstallation, hr, hns,
        hu, Store.updateClusterInstallation_row, hid]

/-- A failed first re-fetch: `Supervise` calls the unlock and returns. -/
theorem superviseAlone_refetch_error (e : Shared) (n : Nat) (h : c.refetch = false) :
    superviseAlone i ci c (n + 2) e .refetch =
      ({ e with store := if c.unlock then e.store.unlockClusterInstallations [ci.id] i false
          else e.store }, .returned) := by
  simp [superviseAlone, superviseStep, Calls.reply, h]

/-- A first re-fetch that reads the discovered state: the transition runs on the record read, and
`Supervise` goes on to its pre-write re-fetch. -/
theorem superviseAlone_refetch_transition {e : Shared} {c₀ : ClusterInstallation}
    (hrow : e.store.clusterInstallations ci.id = some c₀) (hs : c₀.state = ci.state)
    (h : c.refetch = true) (n : Nat) :
    superviseAlone i ci c (n + 2) e .refetch =
      superviseAlone i ci c n
        { e with
          store := (transitionClusterInstallation c.backend e.store c₀).store
          provisionerCalls := e.provisionerCalls ++
            (transitionClusterInstallation c.backend e.store c₀).calls.map (ci.id, ·) }
        (.refetchForUpdate (transitionClusterInstallation c.backend e.store c₀).newState) := by
  have hid : c₀.id = ci.id := e.store.wf _ _ hrow
  simp [superviseAlone, superviseStep, Calls.reply, h, Store.getClusterInstallation, hrow, hs, hid]

/-- **A run whose first re-fetch fails or whose transition keeps the state** returns, writes no
row, produces no event and records no observation. -/
theorem superviseAlone_quiet {e : Shared} {c₀ : ClusterInstallation}
    (hrow : e.store.clusterInstallations ci.id = some c₀) (hs : c₀.state = ci.state)
    (hkeep : c.refetch = false ∨
      (transitionClusterInstallation c.backend e.store c₀).newState = ci.state) :
    (superviseAlone i ci c 7 e .refetch).2 = .returned ∧
    (superviseAlone i ci c 7 e .refetch).1.store.clusterInstallations =
      e.store.clusterInstallations ∧
    (superviseAlone i ci c 7 e .refetch).1.store.stateChangeEvents = e.store.stateChangeEvents ∧
    (superviseAlone i ci c 7 e .refetch).1.observations = e.observations := by
  cases hre : c.refetch
  · simp [superviseAlone_refetch_error i ci c e 5 hre]
  have hkeep : (transitionClusterInstallation c.backend e.store c₀).newState = ci.state := by
    simpa [hre] using hkeep
  have hid : c₀.id = ci.id := e.store.wf _ _ hrow
  have hrow₀ : e.store.clusterInstallations c₀.id = some c₀ := by rw [hid]; exact hrow
  -- a transition that keeps the state leaves the rows as they were
  have hrows : (transitionClusterInstallation c.backend e.store c₀).store.clusterInstallations =
      e.store.clusterInstallations := by
    rcases transitionClusterInstallation_rows c.backend e.store c₀ hrow₀ with h | ⟨h₁, h₂, -⟩
    · exact h
    · exact absurd (h₂.symm.trans (hkeep.trans (hs.symm.trans h₁))) (by decide)
  obtain ⟨hret, -, -, hquiet⟩ := superviseAlone_refetchForUpdate i ci c _
    (transitionClusterInstallation c.backend e.store c₀).newState 0
  rw [← superviseAlone_refetch_transition i ci c hrow hs hre 5] at hret hquiet
  obtain ⟨h₁, h₂, h₃⟩ := hquiet fun x hx => by
    rw [← hid] at hx
    rw [transitionClusterInstallation_row_state c.backend e.store c₀ hrow₀ x hx, hs, hkeep]
  refine ⟨hret.resolve_right fun h => ?_, h₁.trans hrows,
    h₂.trans (transitionClusterInstallation_frame _ _ _).2.1, h₃⟩
  rw [hrows, hrow] at h
  cases h.2

/-- **The error taxonomy of one `Supervise` run.** For a record whose re-fetched state is the
discovered one, and every answer of the store, the provisioner, the metrics query and the event
producer: the transition follows `Taxonomy`; `Supervise` returns (or panics) within seven calls;
the state it leaves persisted is the transition's new state when the re-fetch, the pre-write
re-fetch and the write succeed and the discovered state when one of them fails, the row being
gone only when the transition removed it; a run whose first re-fetch fails or whose transition
keeps the state writes no row, produces no event and records no observation; and the provisioner
calls made are the transition's, made only after a successful re-fetch. -/
theorem supervise_error_taxonomy (i : String) (ci c₀ : ClusterInstallation) (c : Calls)
    (e : Shared) (hrow : e.store.clusterInstallations ci.id = some c₀)
    (hs : c₀.state = ci.state) :
    let t := transitionClusterInstallation c.backend e.store c₀
    let post := superviseAlone i ci c 7 e .refetch
    Taxonomy ci.state c.backend t ∧
    (post.2 = .returned ∨ post.2 = .panicked) ∧
    (post.1.store.clusterInstallations ci.id).map (·.state) =
      (if c.refetch then
        (t.store.clusterInstallations ci.id).map fun _ =>
          if c.refetchForUpdate && c.update then t.newState else ci.state
      else some ci.state) ∧
    (c.refetch = false ∨ t.newState = ci.state →
      post.1.store.clusterInstallations = e.store.clusterInstallations ∧
      post.1.store.stateChangeEvents = e.store.stateChangeEvents ∧
      post.1.observations = e.observations) ∧
    post.1.provisionerCalls =
      e.provisionerCalls ++ if c.refetch then t.calls.map (ci.id, ·) else [] := by
  intro t post
  refine ⟨hs ▸ transitionClusterInstallation_taxonomy c.backend e.store c₀, ?_⟩
  cases hre : c.refetch
  · simp [post, superviseAlone_refetch_error i ci c e 5 hre, hrow, hs]
  have hid : c₀.id = ci.id := e.store.wf _ _ hrow
  obtain ⟨hret, hcalls, hrows, -⟩ := superviseAlone_refetchForUpdate i ci c _ t.newState 0
  rw [← superviseAlone_refetch_transition i ci c hrow hs hre 5] at hret hcalls hrows
  refine ⟨hret.imp_right And.left, ?_,
    fun h => (superviseAlone_quiet i ci c hrow hs (.inr (by simpa using h))).2, hcalls⟩
  rw [hrows, if_pos rfl]
  refine Option.map_congr fun x hx => ?_
  rw [← hid] at hx
  rw [transitionClusterInstallation_row_state c.backend e.store c₀ (by rw [hid]; exact hrow) x hx,
    hs]

end alone

/-- A cluster installation in DeletionRequested. -/
def deletionRow : ClusterInstallation := ⟨"ci", "cluster", "installation", .deletionRequested⟩

/-- The run of a deletion whose provisioner delete fails, on a store that keeps deleted rows,
persists DeletionFailed and calls the provisioner's delete once. -/
theorem supervise_error_taxonomy_deletion_failure :
    (Shared.mk (Store.ofRows [deletionRow] true) [] []).store.clusterInstallations deletionRow.id =
      some deletionRow ∧
    ((superviseAlone "a" deletionRow { backend := { deleteClusterInstallation := false } } 7
        ⟨Store.ofRows [deletionRow] true, [], []⟩ .refetch).1.store.clusterInstallations
          deletionRow.id).map (·.state) = some .deletionFailed ∧
    (superviseAlone "a" deletionRow { backend := { deleteClusterInstallation := false } } 7
        ⟨Store.ofRows [deletionRow] true, [], []⟩ .refetch).1.provisionerCalls =
      [("ci", .deleteClusterInstallation)] := by
  have h := supervise_error_taxonomy "a" deletionRow deletionRow
    { backend := { deleteClusterInstallation := false } } ⟨Store.ofRows [deletionRow] true, [], []⟩
    (by decide) rfl
  exact ⟨by decide, h.2.2.1.trans (by decide), h.2.2.2.2.trans (by decide)⟩

/-- A store that keeps deleted rows, holding `ci` in `state`. -/
def oneRowStore (state : ClusterInstallationState) : Store :=
  Store.ofRows [⟨"ci", "cluster", "installation", state⟩] true

/-- Instance `a` discovers `ci`, takes its lock and runs `Supervise` to its end, the transition
answered by `b` and every other call succeeding. -/
def superviseWith (b : Backend) : List Action :=
  [.supervisor "a" { found := ["ci"] }, .supervisor "a" {}, .supervisor "a" {},
    .supervisor "a" { backend := b }] ++ List.replicate 5 (.supervisor "a" {})

/-- **Where the code leaves the taxonomy as the spec words it.** A failed provisioner
`DeleteClusterInstallation` persists DeletionFailed (line 247), not DeletionRequested; a missing
cluster or installation leaves a Reconciling record Reconciling (the `default:` of
`failedClusterInstallationState`), not in a failure state. -/
theorem supervise_error_taxonomy_exceptions :
    ((start (oneRowStore .deletionRequested)).run
      (superviseWith { deleteClusterInstallation := false })).stateOf "ci" = some .deletionFailed ∧
    ((start (oneRowStore .reconciling)).run
      (superviseWith { getCluster := .absent })).stateOf "ci" = some .reconciling ∧
    ((start (oneRowStore .reconciling)).run
      (superviseWith { getInstallation := .absent })).stateOf "ci" = some .reconciling := by
  decide

/- The spec's end-to-end scenario (§8): `ci` in CreationRequested; a cycle of `Do` whose calls all
succeed persists Reconciling and produces one event; a cycle with the resource not ready keeps
it, with no new event and no observation; a cycle with the resource ready persists Stable,
observes the reconciling duration once, from the first event, and produces one more event. -/
example :
    let w₁ := (start (oneRowStore .creationRequested)).run (superviseWith {})
    let w₂ := w₁.run (.supervisor "a" {} :: superviseWith { isResourceReady := some false })
    let w₃ := w₂.run (superviseWith {})
    w₁.stateOf "ci" = some .reconciling ∧ w₁.store.stateChangeEvents.length = 1 ∧
    w₂.stateOf "ci" = some .reconciling ∧ w₂.store.stateChangeEvents.length = 1 ∧
    w₂.observations = [] ∧
    w₃.stateOf "ci" = some .stable ∧ w₃.store.stateChangeEvents.length = 2 ∧
    w₃.observations = [⟨.clusterInstallationReconcilingDurationHist, "cluster", 0⟩] := by
  decide

end MattermostCloud.Supervisor
