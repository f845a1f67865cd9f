import Mathlib.Logic.Relation

/-!
# Cluster installations: states, records and the spec's transition table

The data the cluster installation supervisor (`internal/supervisor/cluster_installation.go`)
reads and writes.

* `ClusterInstallationState` — the `State` enumeration of the spec's §3, with the constants of
  the `model` package that the supervisor names. The `model` package is not among the sources,
  so the enumeration, and the value of `model.ClusterStateDeletionFailed` that
  `deleteClusterInstallation` returns at line 253, are modelled from the spec.
* `ClusterInstallation` — the fields of `model.ClusterInstallation` that the supervisor reads:
  `ID`, `ClusterID`, `InstallationID` and `State`. The lock fields live in the store
  (`Store.lockAcquiredBy`), which is the only place the supervisor touches them.
* `StateChangeEvent` — one row of the state change event log, as
  `processClusterInstallationMetrics` reads it.
* **The abstract model.** `transitionTable` is the table of the spec's §4.2 read as pairs
  (current state, next state); `ValidTransition` is membership in it and `Terminal` a state
  with no row. `Reachable` is the reflexive-transitive closure: what the spec calls "reachable
  from its initial state by a finite sequence of valid table transitions". The supervisor is
  proved to refine this table in `Supervisor/Serialize.lean`.
-/

namespace MattermostCloud

/-- The states of a cluster installation.
Modelled from the spec: the `model` package declaring `model.ClusterInstallationState…` is not
among the sources; the spec's §3 calls the state an enumeration and §4.2 lists these values. -/
inductive ClusterInstallationState where
  | creationRequested
  | creationFailed
  | deletionRequested
  | deletionFailed
  | deleted
  | reconciling
  | stable
  deriving DecidableEq, Repr

namespace ClusterInstallationState

/-- Modelled from the spec: `model.ClusterStateDeletionFailed`, which `deleteClusterInstallation`
returns when the store fails to delete the row (`cluster_installation.go` line 253). The
constant is declared in the absent `model` package; the spec's table has one permanent failure
state for a deletion whose persistence step fails. -/
def clusterStateDeletionFailed : ClusterInstallationState := .deletionFailed

/-- The states the work-discovery query returns.
Modelled from the spec: "Stable, Deleted, *Failed … are never picked up by the work-discovery
query" (§4.2). -/
def pendingWork : List ClusterInstallationState :=
  [.creationRequested, .reconciling, .deletionRequested]

end ClusterInstallationState

open ClusterInstallationState

/-- The fields of `model.ClusterInstallation` that the supervisor reads. -/
structure ClusterInstallation where
  id : String
  clusterId : String
  installationId : String
  state : ClusterInstallationState
  deriving DecidableEq, Repr

/-- One row of the state change event log: `StateChangeEventData`'s event ID and timestamp, and
its state change's resource ID, old and new state. -/
structure StateChangeEvent where
  id : String
  timestamp : Int
  resourceId : String
  oldState : ClusterInstallationState
  newState : ClusterInstallationState
  deriving DecidableEq, Repr

/-! ## The spec's transition table -/

/-- The transition table of the spec's §4.2, as (current state, state on success or on a
permanent failure) pairs; the "remains …" entries are no transition. -/
def transitionTable : List (ClusterInstallationState × ClusterInstallationState) :=
  [(creationRequested, reconciling), (creationRequested, creationFailed),
   (reconciling, stable),
   (deletionRequested, deleted), (deletionRequested, deletionFailed)]

/-- A change of state that the table allows. -/
def ValidTransition (s t : ClusterInstallationState) : Prop := (s, t) ∈ transitionTable

instance (s t : ClusterInstallationState) : Decidable (ValidTransition s t) :=
  inferInstanceAs (Decidable ((s, t) ∈ transitionTable))

/-- No change, or a change the table allows. -/
def StaysOrAdvances (s t : ClusterInstallationState) : Prop := t = s ∨ ValidTransition s t

instance (s t : ClusterInstallationState) : Decidable (StaysOrAdvances s t) :=
  inferInstanceAs (Decidable (_ ∨ _))

/-- A state with no row in the table: Stable, Deleted and the two failure states. -/
def Terminal (s : ClusterInstallationState) : Prop := ∀ t, ¬ ValidTransition s t

/-- Reachable by a finite sequence of valid table transitions. -/
def Reachable : ClusterInstallationState → ClusterInstallationState → Prop :=
  Relation.ReflTransGen ValidTransition

/-- A terminal state reaches only itself: once there, a resource stays. -/
theorem Reachable.eq_of_terminal {s t : ClusterInstallationState} (hs : Terminal s)
    (h : Reachable s t) : t = s := by
  induction h with
  | refl => rfl
  | tail _ hv ih => subst ih; exact absurd hv (hs _)

end MattermostCloud
