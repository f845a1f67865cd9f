import MattermostCloud.Model.ClusterInstallation
import Mathlib.Data.List.Nodup

/-!
# The store, at the interface the supervisor uses

`clusterInstallationStore` (`cluster_installation.go` lines 18-39) is an interface; its SQL
implementation is not among the sources. The operations below are modelled from the spec's §6
("atomic conditional lock acquire/release keyed by resource id and owner identity, point read
…, update of a resource's full record …, delete of a resource record, … append and query of
StateChangeEvent records filtered by resource id/kind/new-state, paged, most-recent-first").

* `Store` carries its own well-formedness: the row stored under an ID has that ID (`wf`), so
  that a record read back by ID can be written back under the same ID.
* The lock is the column `LockAcquiredBy`, one entry per cluster installation ID:
  `lockClusterInstallations` sets it for every ID at once when none is set (the spec's "atomic
  conditional write"), and `unlockClusterInstallations` clears it only for the holder unless
  forced.
* `softDelete` says what `DeleteClusterInstallation` does: keep the row readable (a soft delete,
  after which no point read reports the row absent) or remove it (the spec's "remove the
  persisted row").
* The store's answers can also be errors; which call errs is an input of each step of the
  supervisor (`Reply.ok`), not part of the store's state.
-/

namespace MattermostCloud

open ClusterInstallationState

/-- The persisted state the supervisor reads and writes. -/
structure Store where
  /-- The cluster installation rows, by ID. -/
  clusterInstallations : String → Option ClusterInstallation
  /-- The `LockAcquiredBy` column, by cluster installation ID. -/
  lockAcquiredBy : String → Option String
  /-- The state change event log, most recent first. -/
  stateChangeEvents : List StateChangeEvent
  /-- Whether `DeleteClusterInstallation` keeps the row readable. -/
  softDelete : Bool
  /-- A row is stored under its own ID. -/
  wf : ∀ id c, clusterInstallations id = some c → c.id = id

/-- The filter `processClusterInstallationMetrics` passes to `GetStateChangeEvents`
(`model.StateChangeEventFilter`, without the resource type: the log holds cluster installation
events only). -/
structure StateChangeEventFilter where
  resourceId : String
  newStates : List ClusterInstallationState
  page : Nat
  perPage : Nat
  deriving DecidableEq, Repr

namespace Store

/-- A store with no row and no lock, holding the event log `events`. -/
def ofEvents (events : List StateChangeEvent) : Store where
  clusterInstallations _ := none
  lockAcquiredBy _ := none
  stateChangeEvents := events
  softDelete := true
  wf _ _ h := nomatch h

/-- A store holding the rows `rows` (the first row with an ID wins), no lock and no event. -/
def ofRows (rows : List ClusterInstallation) (softDelete : Bool) : Store where
  clusterInstallations id := rows.find? (·.id == id)
  lockAcquiredBy _ := none
  stateChangeEvents := []
  softDelete := softDelete
  wf _ _ h := by simpa using List.find?_some h

variable (s : Store)

/-- `GetClusterInstallation`: the point read of one row. -/
def getClusterInstallation (id : String) : Option ClusterInstallation :=
  s.clusterInstallations id

/-- `LockClusterInstallations`: set `LockAcquiredBy` of every ID to `lockerID`, atomically, if
none of them is locked; otherwise change nothing and answer `false`. -/
def lockClusterInstallations (ids : List String) (lockerId : String) : Bool × Store :=
  if ids.all fun id => (s.lockAcquiredBy id).isNone then
    (true, { s with
      lockAcquiredBy := fun id => if id ∈ ids then some lockerId else s.lockAcquiredBy id })
  else (false, s)

/-- `UnlockClusterInstallations`: clear `LockAcquiredBy` of the IDs that `lockerID` holds, or of
all of them when `force` is set. -/
def unlockClusterInstallations (ids : List String) (lockerId : String) (force : Bool) : Store :=
  { s with
    lockAcquiredBy := fun id =>
      if id ∈ ids ∧ (force ∨ s.lockAcquiredBy id = some lockerId) then none
      else s.lockAcquiredBy id }

/-- `UpdateClusterInstallation`: write the whole record over the row with its ID, if there is
one (an SQL `UPDATE … WHERE ID = ?`). -/
def updateClusterInstallation (c : ClusterInstallation) : Store :=
  { s with
    clusterInstallations := fun id =>
      if id = c.id then (s.clusterInstallations id).map fun _ => c else s.clusterInstallations id
    wf := by
      intro id c' h
      dsimp only at h
      split_ifs at h with hid
      · obtain ⟨_, _, rfl⟩ := Option.map_eq_some'.mp h
        exact hid.symm
      · exact s.wf id c' h }

/-- Remove the row stored under `id`. -/
def eraseClusterInstallation (id : String) : Store :=
  { s with
    clusterInstallations := fun id' => if id' = id then none else s.clusterInstallations id'
    wf := by
      intro id' c h
      dsimp only at h
      split_ifs at h
      exact s.wf id' c h }

/-- `DeleteClusterInstallation`: a soft delete keeps the row readable, otherwise it is removed. -/
def deleteClusterInstallation (id : String) : Store :=
  if s.softDelete then s else s.eraseClusterInstallation id

/-- `GetUnlockedClusterInstallationsPendingWork`, answering with the rows `ids` names (the store's
choice of rows and of their order) that are unlocked and in a state pending work. -/
def getUnlockedClusterInstallationsPendingWork (ids : List String) : List ClusterInstallation :=
  ids.filterMap fun id =>
    (s.clusterInstallations id).filter fun c =>
      (s.lockAcquiredBy id).isNone && decide (c.state ∈ pendingWork)

/-- `GetStateChangeEvents`: the events of the resource whose new state is one of the filter's,
most recent first, one page of them. -/
def getStateChangeEvents (f : StateChangeEventFilter) : List StateChangeEvent :=
  ((s.stateChangeEvents.filter fun e =>
      decide (e.resourceId = f.resourceId ∧ e.newState ∈ f.newStates)).drop
    (f.page * f.perPage)).take f.perPage

/-- Append one event to the log. -/
def createStateChangeEvent (e : StateChangeEvent) : Store :=
  { s with stateChangeEvents := e :: s.stateChangeEvents }

/-- A write of the state field by a party that does not take the lock (an administrative edit,
another API writer). -/
def setState (id : String) (st : ClusterInstallationState) : Store :=
  { s with
    clusterInstallations := fun id' =>
      if id' = id then (s.clusterInstallations id').map fun c => { c with state := st }
      else s.clusterInstallations id'
    wf := by
      intro id' c h
      dsimp only at h
      split_ifs at h
      · obtain ⟨c₀, h₀, rfl⟩ := Option.map_eq_some'.mp h
        exact s.wf id' c₀ h₀
      · exact s.wf id' c h }

/-! ### What each operation changes -/

section frame

variable {s}

/-- An update leaves the locks alone. -/
@[simp] theorem updateClusterInstallation_lockAcquiredBy (c : ClusterInstallation) :
    (s.updateClusterInstallation c).lockAcquiredBy = s.lockAcquiredBy := rfl

/-- An update leaves the delete mode alone. -/
@[simp] theorem updateClusterInstallation_softDelete (c : ClusterInstallation) :
    (s.updateClusterInstallation c).softDelete = s.softDelete := rfl

/-- An update leaves the event log alone. -/
@[simp] theorem updateClusterInstallation_stateChangeEvents (c : ClusterInstallation) :
    (s.updateClusterInstallation c).stateChangeEvents = s.stateChangeEvents := rfl

/-- A removal leaves the locks alone. -/
@[simp] theorem eraseClusterInstallation_lockAcquiredBy (id : String) :
    (s.eraseClusterInstallation id).lockAcquiredBy = s.lockAcquiredBy := rfl

/-- A removal leaves the delete mode alone. -/
@[simp] theorem eraseClusterInstallation_softDelete (id : String) :
    (s.eraseClusterInstallation id).softDelete = s.softDelete := rfl

/-- A removal leaves the event log alone. -/
@[simp] theorem eraseClusterInstallation_stateChangeEvents (id : String) :
    (s.eraseClusterInstallation id).stateChangeEvents = s.stateChangeEvents := rfl

/-- On a store that keeps deleted rows, a delete changes nothing the model reads. -/
@[simp] theorem deleteClusterInstallation_of_softDelete (h : s.softDelete = true) (id : String) :
    s.deleteClusterInstallation id = s := by
  simp [deleteClusterInstallation, h]

/-- A delete leaves the locks alone. -/
@[simp] theorem deleteClusterInstallation_lockAcquiredBy (id : String) :
    (s.deleteClusterInstallation id).lockAcquiredBy = s.lockAcquiredBy := by
  unfold deleteClusterInstallation; split <;> rfl

/-- A delete leaves the delete mode alone. -/
@[simp] theorem deleteClusterInstallation_softDelete (id : String) :
    (s.deleteClusterInstallation id).softDelete = s.softDelete := by
  unfold deleteClusterInstallation; split <;> rfl

/-- A delete leaves the event log alone. -/
@[simp] theorem deleteClusterInstallation_stateChangeEvents (id : String) :
    (s.deleteClusterInstallation id).stateChangeEvents = s.stateChangeEvents := by
  unfold deleteClusterInstallation; split <;> rfl

/-- A write of the state field leaves the locks alone. -/
@[simp] theorem setState_lockAcquiredBy (id : String) (st : ClusterInstallationState) :
    (s.setState id st).lockAcquiredBy = s.lockAcquiredBy := rfl

/-- A write of the state field leaves the delete mode alone. -/
@[simp] theorem setState_softDelete (id : String) (st : ClusterInstallationState) :
    (s.setState id st).softDelete = s.softDelete := rfl

/-- A write of the state field leaves the event log alone. -/
@[simp] theorem setState_stateChangeEvents (id : String) (st : ClusterInstallationState) :
    (s.setState id st).stateChangeEvents = s.stateChangeEvents := rfl

/-- Appending an event leaves the rows alone. -/
@[simp] theorem createStateChangeEvent_clusterInstallations (e : StateChangeEvent) :
    (s.createStateChangeEvent e).clusterInstallations = s.clusterInstallations := rfl

/-- Appending an event leaves the locks alone. -/
@[simp] theorem createStateChangeEvent_lockAcquiredBy (e : StateChangeEvent) :
    (s.createStateChangeEvent e).lockAcquiredBy = s.lockAcquiredBy := rfl

/-- Appending an event leaves the delete mode alone. -/
@[simp] theorem createStateChangeEvent_softDelete (e : StateChangeEvent) :
    (s.createStateChangeEvent e).softDelete = s.softDelete := rfl

/-- An unlock leaves the rows alone. -/
@[simp] theorem unlockClusterInstallations_clusterInstallations (ids : List String)
    (lockerId : String) (force : Bool) :
    (s.unlockClusterInstallations ids lockerId force).clusterInstallations =
      s.clusterInstallations := rfl

/-- An unlock leaves the delete mode alone. -/
@[simp] theorem unlockClusterInstallations_softDelete (ids : List String) (lockerId : String)
    (force : Bool) : (s.unlockClusterInstallations ids lockerId force).softDelete = s.softDelete :=
  rfl

/-- An unlock leaves the event log alone. -/
@[simp] theorem unlockClusterInstallations_stateChangeEvents (ids : List String)
    (lockerId : String) (force : Bool) :
    (s.unlockClusterInstallations ids lockerId force).stateChangeEvents = s.stateChangeEvents :=
  rfl

/-- Whether the unlock call succeeds or fails, the rows stay. -/
@[simp] theorem unlockClusterInstallations_if_clusterInstallations (b : Bool) (ids : List String)
    (lockerId : String) (force : Bool) :
    (if b then s.unlockClusterInstallations ids lockerId force else s).clusterInstallations =
      s.clusterInstallations := by
  split <;> rfl

/-- Whether the unlock call succeeds or fails, the delete mode stays. -/
@[simp] theorem unlockClusterInstallations_if_softDelete (b : Bool) (ids : List String)
    (lockerId : String) (force : Bool) :
    (if b then s.unlockClusterInstallations ids lockerId force else s).softDelete =
      s.softDelete := by
  split <;> rfl

/-- Whether the unlock call succeeds or fails, the event log stays. -/
@[simp] theorem unlockClusterInstallations_if_stateChangeEvents (b : Bool) (ids : List String)
    (lockerId : String) (force : Bool) :
    (if b then s.unlockClusterInstallations ids lockerId force else s).stateChangeEvents =
      s.stateChangeEvents := by
  split <;> rfl

/-- A lock call leaves the rows alone, whether it takes the locks or not. -/
@[simp] theorem lockClusterInstallations_clusterInstallations (ids : List String)
    (lockerId : String) :
    (s.lockClusterInstallations ids lockerId).2.clusterInstallations = s.clusterInstallations := by
  unfold lockClusterInstallations; split <;> rfl

/-- A lock call leaves the delete mode alone. -/
@[simp] theorem lockClusterInstallations_softDelete (ids : List String) (lockerId : String) :
    (s.lockClusterInstallations ids lockerId).2.softDelete = s.softDelete := by
  unfold lockClusterInstallations; split <;> rfl

/-- A lock call leaves the event log alone. -/
@[simp] theorem lockClusterInstallations_stateChangeEvents (ids : List String)
    (lockerId : String) :
    (s.lockClusterInstallations ids lockerId).2.stateChangeEvents = s.stateChangeEvents := by
  unfold lockClusterInstallations; split <;> rfl

/-- The lock of one ID is taken exactly when it is free, and then it names the locker. -/
theorem lockClusterInstallations_singleton (id lockerId : String) :
    (s.lockClusterInstallations [id] lockerId).1 = (s.lockAcquiredBy id).isNone ∧
    (s.lockClusterInstallations [id] lockerId).2.lockAcquiredBy =
      if (s.lockAcquiredBy id).isNone then Function.update s.lockAcquiredBy id (some lockerId)
      else s.lockAcquiredBy := by
  unfold lockClusterInstallations
  by_cases h : (s.lockAcquiredBy id).isNone
  · refine ⟨by simp [h], ?_⟩
    simp only [List.all_cons, h, List.all_nil, Bool.and_self, if_true, List.mem_singleton]
    funext id'
    by_cases h' : id' = id
    · subst h'; simp
    · simp [h', Function.update_noteq h']
  · simp [h]

/-- Unlocking one ID without force clears it only when the locker holds it. -/
theorem unlockClusterInstallations_singleton (id lockerId id' : String) :
    (s.unlockClusterInstallations [id] lockerId false).lockAcquiredBy id' =
      if id' = id ∧ s.lockAcquiredBy id' = some lockerId then none else s.lockAcquiredBy id' := by
  simp [unlockClusterInstallations]

/-- Taking a free lock of one ID and releasing it without force restores the lock table. -/
theorem unlock_lockClusterInstallations {id : String} (h : s.lockAcquiredBy id = none)
    (lockerId : String) :
    ((s.lockClusterInstallations [id] lockerId).2.unlockClusterInstallations [id] lockerId
      false).lockAcquiredBy = s.lockAcquiredBy := by
  funext id'
  rw [unlockClusterInstallations_singleton, (lockClusterInstallations_singleton id lockerId).2, h]
  by_cases hid : id' = id
  · subst hid; simp [h]
  · simp [hid]

/-- The row stored under an ID after an update of the record with that ID. -/
theorem updateClusterInstallation_row (c : ClusterInstallation) (id : String) :
    (s.updateClusterInstallation c).clusterInstallations id =
      if id = c.id then (s.clusterInstallations id).map fun _ => c
      else s.clusterInstallations id := rfl

/-- An update changes which rows are present at no ID. -/
@[simp] theorem updateClusterInstallation_isSome (c : ClusterInstallation) (id : String) :
    ((s.updateClusterInstallation c).clusterInstallations id).isSome =
      (s.clusterInstallations id).isSome := by
  rw [updateClusterInstallation_row]
  split_ifs <;> simp

/-- A write of the state field changes which rows are present at no ID. -/
@[simp] theorem setState_isSome (id' : String) (st : ClusterInstallationState) (id : String) :
    ((s.setState id' st).clusterInstallations id).isSome = (s.clusterInstallations id).isSome := by
  simp only [setState]
  split_ifs <;> simp

/-- The work-discovery query answers with rows of the store. -/
theorem mem_getUnlockedClusterInstallationsPendingWork {ids : List String}
    {c : ClusterInstallation} (h : c ∈ s.getUnlockedClusterInstallationsPendingWork ids) :
    s.clusterInstallations c.id = some c := by
  simp only [getUnlockedClusterInstallationsPendingWork, List.mem_filterMap] at h
  obtain ⟨id, -, hc⟩ := h
  obtain ⟨hrow, -⟩ := Option.filter_eq_some.mp hc
  rw [s.wf id c hrow]
  exact hrow

/-- The work-discovery query answers only rows whose lock is free. -/
theorem lockAcquiredBy_of_mem_getUnlockedClusterInstallationsPendingWork {ids : List String}
    {c : ClusterInstallation} (h : c ∈ s.getUnlockedClusterInstallationsPendingWork ids) :
    s.lockAcquiredBy c.id = none := by
  simp only [getUnlockedClusterInstallationsPendingWork, List.mem_filterMap] at h
  obtain ⟨id, -, hc⟩ := h
  obtain ⟨hrow, hfree⟩ := Option.filter_eq_some.mp hc
  rw [s.wf id c hrow]
  exact (by simpa using hfree : _ ∧ _).1

/-- Asked about one ID, the work-discovery query answers its row when the row is pending work
and its lock is free, and nothing when the lock is taken. -/
theorem getUnlockedClusterInstallationsPendingWork_singleton {c : ClusterInstallation}
    (hrow : s.clusterInstallations c.id = some c) (hp : c.state ∈ pendingWork) :
    s.getUnlockedClusterInstallationsPendingWork [c.id] =
      if (s.lockAcquiredBy c.id).isNone then [c] else [] := by
  by_cases h : s.lockAcquiredBy c.id = none <;>
    simp [getUnlockedClusterInstallationsPendingWork, List.filterMap_cons, hrow, Option.filter, hp,
      h]

/-- Over IDs named once, the work-discovery query answers each row once. -/
theorem getUnlockedClusterInstallationsPendingWork_nodup {ids : List String} (h : ids.Nodup) :
    ((s.getUnlockedClusterInstallationsPendingWork ids).map (·.id)).Nodup := by
  rw [getUnlockedClusterInstallationsPendingWork, List.map_filterMap]
  refine h.filterMap fun a a' b ha ha' => ?_
  -- a row answered for an ID is stored under it, so the ID is the row's
  have hid : ∀ {a} {p : ClusterInstallation → Bool},
      b ∈ ((s.clusterInstallations a).filter p).map (·.id) → b = a := by
    intro a p hb
    obtain ⟨c, hc, rfl⟩ := Option.map_eq_some'.mp hb
    exact s.wf a c (Option.filter_eq_some.mp hc).1
  exact (hid ha).symm.trans (hid ha')

/-- Writing back the record a row already holds changes no row. -/
theorem updateClusterInstallation_of_row {c : ClusterInstallation}
    (h : s.clusterInstallations c.id = some c) :
    (s.updateClusterInstallation c).clusterInstallations = s.clusterInstallations := by
  funext id
  rw [updateClusterInstallation_row]
  split_ifs with hid
  · rw [hid, h]; rfl
  · rfl

end frame

end Store

end MattermostCloud
