import MattermostCloud.Supervisor.Metrics
import Mathlib.Logic.Function.Basic

/-!
# `Do` and `Supervise`, one call at a time

`ClusterInstallationSupervisor.Do` and `.Supervise` (`cluster_installation.go` lines 78-154) as a
transition system over a shared store, so that any number of supervisor instances, and parties
that write without the lock, can interleave.

* A supervisor instance is a `Proc`: idle between two `Do` calls, in `Do`'s loop with the
  cluster installations still to supervise, inside `Supervise` of one of them at a `Phase`, or
  stopped by a panic. A `Phase` is the next call `Supervise` makes; each step of an instance is
  one call to the store, to the provisioner (the whole transition, whose only shared access is
  its one write, `Transition.lean`), to the metrics sink or to the event producer.
* `TryLock` is made at the step that takes the next cluster installation of `Do`'s loop, so an
  instance inside `Supervise` always holds the lock; the deferred `Unlock` is the phase
  `unlock`, reached from every `return` and from the two nil dereferences (lines 114 and 131,
  where the record read back is absent), which panic after it. Both lock calls can fail, as the
  store interface's `(bool, error)` and `error` results allow (lines 26-27): a failed
  `LockClusterInstallations` is a `TryLock` that answers `false`, and the row is skipped; a failed
  `UnlockClusterInstallations` leaves the lock set, which the lock helper only logs.
* A `Reply` holds what the collaborators answer to the call of a step; a theorem over every
  `Reply` is a theorem over every behaviour of the store, the provisioner and the event
  producer.
* `World.step` applies one `Action`: a step of an instance, or a write of the state field by a
  party that does not take the lock, or the removal of a row by such a party. `World.run` folds
  a list of actions.

The lock helper (`newClusterInstallationLock`, `TryLock`, `Unlock`) and the event producer are not
among the sources; they are modelled from the spec (§4.1, §4.3 step 3, §4.4).
-/

namespace MattermostCloud.Supervisor

open ClusterInstallationState

/-- The next call of a `Supervise` that holds its lock. -/
inductive Phase where
  /-- Re-fetch the record and compare its state with the discovered one (lines 106-119). -/
  | refetch
  /-- Run the transition on the re-fetched record `ci` (line 123). -/
  | transition (ci : ClusterInstallation)
  /-- Re-fetch the record before persisting `newState` (lines 125-133). -/
  | refetchForUpdate (newState : ClusterInstallationState)
  /-- Write `ci`, the re-fetched record with its new state (lines 135-141). -/
  | update (ci : ClusterInstallation) (oldState : ClusterInstallationState)
  /-- Process the metrics of the change (lines 143-146). -/
  | processMetrics (ci : ClusterInstallation) (oldState : ClusterInstallationState)
  /-- Produce the state change event (lines 148-151). -/
  | produceEvent (ci : ClusterInstallation) (oldState : ClusterInstallationState)
  /-- The deferred `lock.Unlock()` (line 104), on a return or while a panic unwinds. -/
  | unlock (panicking : Bool)
  deriving DecidableEq, Repr

/-- A supervisor instance. -/
inductive Proc where
  /-- Between two calls of `Do`. -/
  | idle
  /-- In `Do`'s loop, with the discovered cluster installations still to supervise. -/
  | doing (pending : List ClusterInstallation)
  /-- In `Supervise` of the discovered `ci`, holding its lock, at `ph`; `pending` is the rest of
  `Do`'s loop. -/
  | supervising (ci : ClusterInstallation) (ph : Phase) (pending : List ClusterInstallation)
  /-- A panic left `Do`: the instance has stopped. -/
  | crashed
  deriving DecidableEq, Repr

/-- The cluster installation whose lock the instance holds. -/
def Proc.holding : Proc → Option String
  | .supervising ci _ _ => some ci.id
  | _ => none

/-- What the collaborators answer to the call an instance makes in one step. -/
structure Reply where
  /-- Whether the store call of the step (the query, `LockClusterInstallations`, a re-fetch, the
  write, the event query) or the event producer succeeds. -/
  ok : Bool := true
  /-- The rows the work-discovery query names. -/
  found : List String := []
  /-- The answers during a transition. -/
  backend : Backend := {}
  /-- The ID and time of a produced event. -/
  eventId : String := ""
  now : Int := 0
  /-- Whether `UnlockClusterInstallations`, the call of the deferred `Unlock`, succeeds; a field
  of its own, so that a run whose unlocks succeed is a condition on its actions alone. -/
  unlocked : Bool := true
  deriving DecidableEq, Repr

/-- Modelled from the spec: `eventsProducer.ProduceClusterInstallationStateChangeEvent`, whose
implementation is not among the sources; it "emits exactly one new StateChangeEvent recording this
transition" (§4.4), or nothing when it fails. -/
def produceClusterInstallationStateChangeEvent (s : Store) (ci : ClusterInstallation)
    (oldState : ClusterInstallationState) (r : Reply) : Store :=
  if r.ok then s.createStateChangeEvent ⟨r.eventId, r.now, ci.id, oldState, ci.state⟩ else s

section produce

variable (s : Store) (ci : ClusterInstallation) (oldState : ClusterInstallationState) (r : Reply)

/-- Producing an event leaves the rows alone. -/
@[simp] theorem produceClusterInstallationStateChangeEvent_clusterInstallations :
    (produceClusterInstallationStateChangeEvent s ci oldState r).clusterInstallations =
      s.clusterInstallations := by
  unfold produceClusterInstallationStateChangeEvent; split <;> rfl

/-- Producing an event leaves the locks alone. -/
@[simp] theorem produceClusterInstallationStateChangeEvent_lockAcquiredBy :
    (produceClusterInstallationStateChangeEvent s ci oldState r).lockAcquiredBy =
      s.lockAcquiredBy := by
  unfold produceClusterInstallationStateChangeEvent; split <;> rfl

/-- Producing an event leaves the delete mode alone. -/
@[simp] theorem produceClusterInstallationStateChangeEvent_softDelete :
    (produceClusterInstallationStateChangeEvent s ci oldState r).softDelete = s.softDelete := by
  unfold produceClusterInstallationStateChangeEvent; split <;> rfl

end produce

/-- Where `Supervise` goes after a call. -/
inductive Next where
  | phase (ph : Phase)
  | returned
  | panicked
  deriving DecidableEq, Repr

/-- What the supervisor instances act on: the store, the metrics sink, and the cluster, as the
provisioner calls made so far with the cluster installation each was made for. -/
structure Shared where
  store : Store
  observations : List Observation
  provisionerCalls : List (String × ProvisionerCall)

/-- One call of `Supervise` by instance `i` on the discovered record `ci`, at `ph`, answered by
`r`: what it leaves of the shared state, and where `Supervise` goes.
Source: `cluster_installation.go` lines 104-153. -/
def superviseStep (i : String) (ci : ClusterInstallation) (r : Reply) (e : Shared) :
    Phase → Shared × Next
  | .refetch =>
    if !r.ok then (e, .phase (.unlock false))
    else
      match e.store.getClusterInstallation ci.id with
      | none => (e, .phase (.unlock true))
      | some c =>
        if c.state ≠ ci.state then (e, .phase (.unlock false))
        else (e, .phase (.transition c))
  | .transition c =>
    let result := transitionClusterInstallation r.backend e.store c
    ({ e with
        store := result.store
        provisionerCalls := e.provisionerCalls ++ result.calls.map (c.id, ·) },
      .phase (.refetchForUpdate result.newState))
  | .refetchForUpdate newState =>
    if !r.ok then (e, .phase (.unlock false))
    else
      match e.store.getClusterInstallation ci.id with
      | none => (e, .phase (.unlock true))
      | some c =>
        if c.state = newState then (e, .phase (.unlock false))
        else (e, .phase (.update { c with state := newState } c.state))
  | .update c oldState =>
    if !r.ok then (e, .phase (.unlock false))
    else ({ e with store := e.store.updateClusterInstallation c },
      .phase (.processMetrics c oldState))
  | .processMetrics c oldState =>
    ({ e with
        observations :=
          e.observations ++ recorded (processClusterInstallationMetrics r.ok e.store c) },
      .phase (.produceEvent c oldState))
  | .produceEvent c oldState =>
    ({ e with store := produceClusterInstallationStateChangeEvent e.store c oldState r },
      .phase (.unlock false))
  | .unlock panicking =>
    ({ e with
        store := if r.unlocked then e.store.unlockClusterInstallations [ci.id] i false
          else e.store },
      if panicking then .panicked else .returned)

/-- The instance after a call of `Supervise` of `ci`, with `pending` left in `Do`'s loop. -/
def Next.resume (ci : ClusterInstallation) (pending : List ClusterInstallation) : Next → Proc
  | .phase ph => .supervising ci ph pending
  | .returned => .doing pending
  | .panicked => .crashed

/-- Every call of `Supervise` but the deferred unlock leaves the locks alone and goes on to a
next phase. -/
theorem superviseStep_lock (i : String) (ci : ClusterInstallation) (r : Reply) (e : Shared)
    {ph : Phase} (hph : ∀ p, ph ≠ .unlock p) :
    (superviseStep i ci r e ph).1.store.lockAcquiredBy = e.store.lockAcquiredBy ∧
    ∃ ph', (superviseStep i ci r e ph).2 = .phase ph' := by
  cases ph with
  | unlock p => exact absurd rfl (hph p)
  | transition c => simp [superviseStep, transitionClusterInstallation_frame]
  | _ =>
    simp only [superviseStep]
    repeat' split
    all_goals simp

/-- The shared state and every supervisor instance, by its `instanceID`. -/
structure World extends Shared where
  procs : String → Proc

/-- A step of the system. -/
inductive Action where
  /-- Instance `i` makes its next call, answered by `r`. -/
  | supervisor (i : String) (r : Reply)
  /-- A party that does not take the lock writes the state of a row. -/
  | writeState (id : String) (st : ClusterInstallationState)
  /-- A party that does not take the lock removes a row. -/
  | removeRow (id : String)
  deriving DecidableEq, Repr

namespace World

/-- Instance `i` becomes `p`. -/
def setProc (w : World) (i : String) (p : Proc) : World :=
  { w with procs := Function.update w.procs i p }

/-- The next call of instance `i`, answered by `r`: `Do`'s query, the next turn of its loop with
`TryLock` (a failed `LockClusterInstallations` call makes it answer `false`), or a call of
`Supervise`.
Source: `cluster_installation.go` lines 79-104. -/
def stepInstance (w : World) (i : String) (r : Reply) : World :=
  match w.procs i with
  | .idle =>
    if r.ok then w.setProc i (.doing (w.store.getUnlockedClusterInstallationsPendingWork r.found))
    else w
  | .doing [] => w.setProc i .idle
  | .doing (ci :: pending) =>
    let locked := w.store.lockClusterInstallations [ci.id] i
    if r.ok && locked.1 then
      { w.setProc i (.supervising ci .refetch pending) with store := locked.2 }
    else w.setProc i (.doing pending)
  | .supervising ci ph pending =>
    let result := superviseStep i ci r w.toShared ph
    { result.1 with procs := Function.update w.procs i (result.2.resume ci pending) }
  | .crashed => w

/-- One step of the system. -/
def step (w : World) : Action → World
  | .supervisor i r => w.stepInstance i r
  | .writeState id st => { w with store := w.store.setState id st }
  | .removeRow id => { w with store := w.store.eraseClusterInstallation id }

/-- The world over the store `s` in which no instance has started and nothing was observed or
called yet. -/
def start (s : Store) : World where
  store := s
  observations := []
  provisionerCalls := []
  procs _ := .idle

/-- The system after a list of steps. -/
def run (w : World) (as : List Action) : World := as.foldl step w

/-- No step leaves the system as it is. -/
@[simp] theorem run_nil (w : World) : w.run [] = w := rfl

/-- A run is its first step, then the rest. -/
@[simp] theorem run_cons (w : World) (a : Action) (as : List Action) :
    w.run (a :: as) = (w.step a).run as := rfl

/-- A run of two lists is the run of the first, then the run of the second. -/
theorem run_append (w : World) (as bs : List Action) : w.run (as ++ bs) = (w.run as).run bs :=
  List.foldl_append _ _ _ _

/-- A step of an instance inside `Supervise` is one call of `Supervise`, after which the instance
resumes where the call leaves it. -/
theorem stepInstance_supervising {w : World} {i : String} {ci : ClusterInstallation} {ph : Phase}
    {pending : List ClusterInstallation} (h : w.procs i = .supervising ci ph pending)
    (r : Reply) :
    w.stepInstance i r =
      { (superviseStep i ci r w.toShared ph).1 with
        procs := Function.update w.procs i
          ((superviseStep i ci r w.toShared ph).2.resume ci pending) } := by
  simp [stepInstance, h]

/-- The persisted state of a row. -/
def stateOf (w : World) (id : String) : Option ClusterInstallationState :=
  (w.store.clusterInstallations id).map (·.state)

end World

end MattermostCloud.Supervisor
