import MattermostCloud.Model.Store

/-!
# The transition engine: `transitionClusterInstallation` and its three handlers

`cluster_installation.go` lines 156-282, one definition a Go function. The handlers call the
store and the provisioner; what each call answers is an input (`Backend`, one field a call), so
a theorem over every `Backend` is a theorem over every behaviour of the store and of the
provisioner. The only calls that change the store are the create handler's
`UpdateClusterInstallation` and the delete handler's `DeleteClusterInstallation`; the
provisioner's calls act on the cluster, not on the store's rows (the spec's §6: they return
"success/failure only").

* `transitionClusterInstallation_cases` — **what one transition can do**: leave the store as it
  is and return the state or a state the table allows after it; or, from CreationRequested,
  write the record back and return Reconciling; or, from DeletionRequested, delete the row and
  return Deleted. Every later theorem about the supervisor's writes goes through this lemma.
* `transitionClusterInstallation_valid` — the returned state is the state itself or a valid
  table transition from it.
-/

namespace MattermostCloud.Supervisor

open ClusterInstallationState

/-- The answer of a point read of a cluster or an installation: an error, no record (a `nil`
record with a `nil` error), or the record. -/
inductive Lookup where
  | error
  | absent
  | found
  deriving DecidableEq, Repr

/-- What the store and the provisioner answer to the calls of one
`transitionClusterInstallation`, one field a call; a field is read only when the call is made.
`getInstallationBackups` is `none` for an error and otherwise the number of running backups;
`isResourceReady` is `none` for an error. The defaults are the answers of a run in which every
call succeeds. -/
structure Backend where
  getCluster : Lookup := .found
  getInstallation : Lookup := .found
  prepareClusterUtilities : Bool := true
  createClusterInstallation : Bool := true
  updateClusterInstallation : Bool := true
  getInstallationBackups : Option Nat := some 0
  deleteClusterInstallation : Bool := true
  storeDeleteClusterInstallation : Bool := true
  isResourceReady : Option Bool := some true
  deleteOldClusterInstallationLicenseSecrets : Bool := true
  deriving DecidableEq, Repr

/-- A call of the cluster installation provisioner
(`provisioner.ClusterInstallationProvisioner`); the calls act on the cluster, not on the store's
cluster installation rows. -/
inductive ProvisionerCall where
  | prepareClusterUtilities
  | createClusterInstallation
  | deleteClusterInstallation
  | isResourceReady
  | deleteOldClusterInstallationLicenseSecrets
  deriving DecidableEq, Repr

/-- What a transition returns: the new state, the store after the handler's writes, and the
provisioner calls it made, in order. -/
structure TransitionResult where
  newState : ClusterInstallationState
  store : Store
  calls : List ProvisionerCall

/-- The state a cluster installation is driven to when its cluster or installation is missing.
Source: `cluster_installation.go` lines 156-166. -/
def failedClusterInstallationState : ClusterInstallationState → ClusterInstallationState
  | .creationRequested => .creationFailed
  | .deletionRequested => .deletionFailed
  | state => state

/-- Prepare the cluster utilities, create the installation on the cluster, persist the record.
Source: `cluster_installation.go` lines 203-226. -/
def createClusterInstallation (b : Backend) (s : Store) (ci : ClusterInstallation) :
    TransitionResult :=
  if !b.prepareClusterUtilities then ⟨.creationRequested, s, [.prepareClusterUtilities]⟩
  else if !b.createClusterInstallation then
    ⟨.creationRequested, s, [.prepareClusterUtilities, .createClusterInstallation]⟩
  else if !b.updateClusterInstallation then
    ⟨.creationFailed, s, [.prepareClusterUtilities, .createClusterInstallation]⟩
  else
    ⟨.reconciling, s.updateClusterInstallation ci,
      [.prepareClusterUtilities, .createClusterInstallation]⟩

/-- Refuse while backups run, delete on the cluster, delete the row.
Source: `cluster_installation.go` lines 228-258. -/
def deleteClusterInstallation (b : Backend) (s : Store) (ci : ClusterInstallation) :
    TransitionResult :=
  match b.getInstallationBackups with
  | none => ⟨ci.state, s, []⟩
  | some backups =>
    if backups > 0 then ⟨ci.state, s, []⟩
    else if !b.deleteClusterInstallation then ⟨.deletionFailed, s, [.deleteClusterInstallation]⟩
    else if !b.storeDeleteClusterInstallation then
      ⟨clusterStateDeletionFailed, s, [.deleteClusterInstallation]⟩
    else ⟨.deleted, s.deleteClusterInstallation ci.id, [.deleteClusterInstallation]⟩

/-- Poll readiness, then delete the superseded license secrets.
Source: `cluster_installation.go` lines 260-282. -/
def checkReconcilingClusterInstallation (b : Backend) (s : Store) : TransitionResult :=
  match b.isResourceReady with
  | none => ⟨.reconciling, s, [.isResourceReady]⟩
  | some false => ⟨.reconciling, s, [.isResourceReady]⟩
  | some true =>
    if !b.deleteOldClusterInstallationLicenseSecrets then
      ⟨.reconciling, s, [.isResourceReady, .deleteOldClusterInstallationLicenseSecrets]⟩
    else ⟨.stable, s, [.isResourceReady, .deleteOldClusterInstallationLicenseSecrets]⟩

/-- The state machine engine: look up the cluster and the installation, then run the handler of
the current state.
Source: `cluster_installation.go` lines 168-201. -/
def transitionClusterInstallation (b : Backend) (s : Store) (ci : ClusterInstallation) :
    TransitionResult :=
  match b.getCluster with
  | .error => ⟨ci.state, s, []⟩
  | .absent => ⟨failedClusterInstallationState ci.state, s, []⟩
  | .found =>
    match b.getInstallation with
    | .error => ⟨ci.state, s, []⟩
    | .absent => ⟨failedClusterInstallationState ci.state, s, []⟩
    | .found =>
      match ci.state with
      | .creationRequested => createClusterInstallation b s ci
      | .deletionRequested => deleteClusterInstallation b s ci
      | .reconciling => checkReconcilingClusterInstallation b s
      | _ => ⟨ci.state, s, []⟩

/-! ## What one transition can do -/

/-- The failure state of a missing reference is the state itself or a table successor of it. -/
theorem failedClusterInstallationState_staysOrAdvances (s : ClusterInstallationState) :
    StaysOrAdvances s (failedClusterInstallationState s) := by
  cases s <;> decide

/-- The reconcile handler writes nothing, and returns Reconciling or Stable. -/
theorem checkReconcilingClusterInstallation_cases (b : Backend) (s : Store) :
    (checkReconcilingClusterInstallation b s).store = s ∧
    StaysOrAdvances .reconciling (checkReconcilingClusterInstallation b s).newState := by
  unfold checkReconcilingClusterInstallation
  split
  · exact ⟨rfl, .inl rfl⟩
  · exact ⟨rfl, .inl rfl⟩
  · split
    · exact ⟨rfl, .inl rfl⟩
    · exact ⟨rfl, .inr (by dsimp only; decide)⟩

/-- The create handler writes nothing and returns CreationRequested or a table successor of it, or
writes the record back and returns Reconciling. -/
theorem createClusterInstallation_cases (b : Backend) (s : Store) (ci : ClusterInstallation) :
    ((createClusterInstallation b s ci).store = s ∧
      StaysOrAdvances .creationRequested (createClusterInstallation b s ci).newState) ∨
    ((createClusterInstallation b s ci).newState = .reconciling ∧
      (createClusterInstallation b s ci).store = s.updateClusterInstallation ci) := by
  unfold createClusterInstallation
  split_ifs
  · exact .inl ⟨rfl, .inl rfl⟩
  · exact .inl ⟨rfl, .inl rfl⟩
  · exact .inl ⟨rfl, .inr (by dsimp only; decide)⟩
  · exact .inr ⟨rfl, rfl⟩

/-- The delete handler writes nothing and returns DeletionRequested or a table successor of it, or
deletes the row and returns Deleted. -/
theorem deleteClusterInstallation_cases (b : Backend) (s : Store) (ci : ClusterInstallation)
    (hci : ci.state = .deletionRequested) :
    ((deleteClusterInstallation b s ci).store = s ∧
      StaysOrAdvances .deletionRequested (deleteClusterInstallation b s ci).newState) ∨
    ((deleteClusterInstallation b s ci).newState = .deleted ∧
      (deleteClusterInstallation b s ci).store = s.deleteClusterInstallation ci.id) := by
  unfold deleteClusterInstallation
  split
  · exact .inl ⟨rfl, .inl hci⟩
  · split_ifs
    · exact .inl ⟨rfl, .inl hci⟩
    · exact .inl ⟨rfl, .inr (by dsimp only; decide)⟩
    · exact .inl ⟨rfl, .inr (by dsimp only; decide)⟩
    · exact .inr ⟨rfl, rfl⟩

/-- **What one transition can do.** Leave the store as it is and return the state or one the
table allows; or, from CreationRequested, write the record back and return Reconciling; or, from
DeletionRequested, delete the row and return Deleted. -/
theorem transitionClusterInstallation_cases (b : Backend) (s : Store) (ci : ClusterInstallation) :
    ((transitionClusterInstallation b s ci).store = s ∧
      StaysOrAdvances ci.state (transitionClusterInstallation b s ci).newState) ∨
    (ci.state = .creationRequested ∧ (transitionClusterInstallation b s ci).newState = .reconciling ∧
      (transitionClusterInstallation b s ci).store = s.updateClusterInstallation ci) ∨
    (ci.state = .deletionRequested ∧ (transitionClusterInstallation b s ci).newState = .deleted ∧
      (transitionClusterInstallation b s ci).store = s.deleteClusterInstallation ci.id) := by
  have hfail := failedClusterInstallationState_staysOrAdvances ci.state
  unfold transitionClusterInstallation
  split
  · exact .inl ⟨rfl, .inl rfl⟩
  · exact .inl ⟨rfl, hfail⟩
  · split
    · exact .inl ⟨rfl, .inl rfl⟩
    · exact .inl ⟨rfl, hfail⟩
    · split
      · rename_i h
        rw [h]
        rcases createClusterInstallation_cases b s ci with h' | h'
        exacts [.inl h', .inr (.inl ⟨rfl, h'⟩)]
      · rename_i h
        rw [h]
        rcases deleteClusterInstallation_cases b s ci h with h' | h'
        exacts [.inl h', .inr (.inr ⟨rfl, h'⟩)]
      · rename_i h
        rw [h]
        exact .inl (checkReconcilingClusterInstallation_cases b s)
      · exact .inl ⟨rfl, .inl rfl⟩

/-- The state a transition returns is the state itself or a valid table transition from it. -/
theorem transitionClusterInstallation_valid (b : Backend) (s : Store) (ci : ClusterInstallation) :
    StaysOrAdvances ci.state (transitionClusterInstallation b s ci).newState := by
  rcases transitionClusterInstallation_cases b s ci with ⟨-, h⟩ | ⟨hs, h, -⟩ | ⟨hs, h, -⟩
  · exact h
  · rw [h, hs]; exact .inr (by decide)
  · rw [h, hs]; exact .inr (by decide)

/-- The state a transition returns depends on the answers and the record, not on the store. -/
theorem transitionClusterInstallation_newState_store (b : Backend) (s s' : Store)
    (ci : ClusterInstallation) :
    (transitionClusterInstallation b s ci).newState =
      (transitionClusterInstallation b s' ci).newState := by
  unfold transitionClusterInstallation createClusterInstallation deleteClusterInstallation
    checkReconcilingClusterInstallation
  repeat' split
  all_goals rfl

/-- A transition leaves the locks, the event log and the store's delete mode alone. -/
theorem transitionClusterInstallation_frame (b : Backend) (s : Store) (ci : ClusterInstallation) :
    (transitionClusterInstallation b s ci).store.lockAcquiredBy = s.lockAcquiredBy ∧
    (transitionClusterInstallation b s ci).store.stateChangeEvents = s.stateChangeEvents ∧
    (transitionClusterInstallation b s ci).store.softDelete = s.softDelete := by
  rcases transitionClusterInstallation_cases b s ci with ⟨h, -⟩ | ⟨-, -, h⟩ | ⟨-, -, h⟩ <;>
    simp [h]

end MattermostCloud.Supervisor
