import MattermostCloud.Supervisor.Transition

/-!
# The outcome recorder: `processClusterInstallationMetrics`

`cluster_installation.go` lines 284-319, with the two histograms of `metrics.CloudMetrics`
(`internal/metrics/metrics.go`) that it observes into.

The function asks the store for the events of the cluster installation whose new state is
Reconciling *or* DeletionRequested, one page of one event, most recent first; it requires exactly
one, and picks the histogram from **the event's** new state. So:

* `processClusterInstallationMetrics_eq` — with a successful query, the function is: nothing for a
  new state other than Stable and Deleted; otherwise the most recent event of the installation
  whose new state is either marker (`IsAnchor`), observed into the histogram of *that event's*
  marker (`histogramOf`), or an error when there is none. The page size of one makes "more than
  one anchor" impossible to see, and the filter makes the `default:` branch unreachable.
* `processClusterInstallationMetrics_records` — what the recorder does over every event log: at
  most one observation; none, and no error, for a new state other than Stable and Deleted; for
  those two, an error and no observation when the query fails or no anchor exists, and otherwise
  the one observation of the most recent anchor, into the histogram of that anchor's marker
  rather than of the new state.
* `processClusterInstallationMetrics_crossed_marker` — the law the spec states fails: a change into
  Stable whose latest marker event is a DeletionRequested one is observed into the deletion
  histogram, and two anchors give no error.
-/

namespace MattermostCloud.Supervisor

open ClusterInstallationState

/-- The two cluster installation histograms of `metrics.CloudMetrics`. The installation
histograms of the same record are not used by this supervisor. -/
inductive Histogram where
  | clusterInstallationReconcilingDurationHist
  | clusterInstallationDeletionDurationHist
  deriving DecidableEq, Repr

/-- One observation: the histogram, its label (the cluster ID) and the timestamp the elapsed time
is measured from. The observed value, `model.ElapsedTimeInSeconds` of that timestamp, is a
wall-clock float; the model keeps its argument. -/
structure Observation where
  hist : Histogram
  label : String
  since : Int
  deriving DecidableEq, Repr

/-- The errors `processClusterInstallationMetrics` returns, with the data of their messages:
"failed to get state change events", "expected 1 state change event, but got %d" and
"failed to handle event %s with new state %s". -/
inductive MetricsError where
  | getStateChangeEvents
  | eventCount (got : Nat)
  | unhandledEvent (eventId : String) (newState : ClusterInstallationState)
  deriving DecidableEq, Repr

/-- The filter of line 291: the installation's events entering Reconciling or DeletionRequested,
page 0 of one event. -/
def metricsEventFilter (ci : ClusterInstallation) : StateChangeEventFilter where
  resourceId := ci.id
  newStates := [.reconciling, .deletionRequested]
  page := 0
  perPage := 1

/-- Record the duration of a change into Stable or Deleted, measured from the latest
Reconciling or DeletionRequested event. `ok` is whether `GetStateChangeEvents` succeeds; the
observation, if any, is returned with the result.
Source: `cluster_installation.go` lines 284-319. -/
def processClusterInstallationMetrics (ok : Bool) (s : Store) (ci : ClusterInstallation) :
    Except MetricsError (Option Observation) :=
  if ci.state ≠ .stable ∧ ci.state ≠ .deleted then .ok none
  else if !ok then .error .getStateChangeEvents
  else
    match s.getStateChangeEvents (metricsEventFilter ci) with
    | [event] =>
      match event.newState with
      | .reconciling =>
        .ok (some ⟨.clusterInstallationReconcilingDurationHist, ci.clusterId, event.timestamp⟩)
      | .deletionRequested =>
        .ok (some ⟨.clusterInstallationDeletionDurationHist, ci.clusterId, event.timestamp⟩)
      | _ => .error (.unhandledEvent event.id event.newState)
    | events => .error (.eventCount events.length)

/-- The observations a result of `processClusterInstallationMetrics` records. -/
def recorded : Except MetricsError (Option Observation) → List Observation
  | .ok (some o) => [o]
  | _ => []

/-! ## What the recorder does on every event log -/

/-- An event the query of line 291 matches: one of the installation's, entering Reconciling or
DeletionRequested. -/
def IsAnchor (ci : ClusterInstallation) (e : StateChangeEvent) : Prop :=
  e.resourceId = ci.id ∧ (e.newState = .reconciling ∨ e.newState = .deletionRequested)

instance (ci : ClusterInstallation) (e : StateChangeEvent) : Decidable (IsAnchor ci e) :=
  inferInstanceAs (Decidable (_ ∧ _))

/-- The histogram the switch of line 307 picks for an anchor's new state. -/
def histogramOf : ClusterInstallationState → Histogram
  | .deletionRequested => .clusterInstallationDeletionDurationHist
  | _ => .clusterInstallationReconcilingDurationHist

/-- One page of one event, most recent first, is the most recent anchor. -/
theorem getStateChangeEvents_metricsEventFilter (s : Store) (ci : ClusterInstallation) :
    s.getStateChangeEvents (metricsEventFilter ci) =
      (s.stateChangeEvents.find? fun e => decide (IsAnchor ci e)).toList := by
  simp only [Store.getStateChangeEvents, metricsEventFilter, Nat.zero_mul, List.drop_zero,
    List.take_one, List.filter_head?]
  congr 3
  funext e
  simp [IsAnchor]

/-- With a successful query the recorder observes the most recent anchor into its marker's
histogram, and fails only when there is no anchor. -/
theorem processClusterInstallationMetrics_eq (s : Store) (ci : ClusterInstallation)
    (hst : ci.state = .stable ∨ ci.state = .deleted) :
    processClusterInstallationMetrics true s ci =
      match s.stateChangeEvents.find? fun e => decide (IsAnchor ci e) with
      | none => .error (.eventCount 0)
      | some e => .ok (some ⟨histogramOf e.newState, ci.clusterId, e.timestamp⟩) := by
  have hnot : ¬ (ci.state ≠ .stable ∧ ci.state ≠ .deleted) := by tauto
  simp only [processClusterInstallationMetrics, hnot, if_false, Bool.not_true,
    getStateChangeEvents_metricsEventFilter]
  cases hf : s.stateChangeEvents.find? fun e => decide (IsAnchor ci e) with
  | none => rfl
  | some e =>
    have ha : IsAnchor ci e := by simpa using List.find?_some hf
    rcases ha.2 with h | h <;> simp [Option.toList, h] <;> rfl

/-- **The outcome recorder, on every event log.** At most one observation; for a new state other
than Stable and Deleted, none and no error; for Stable or Deleted, an error and none when the
query fails or no anchor exists, and otherwise exactly the observation of the most recent anchor,
into the histogram of that anchor's marker. -/
theorem processClusterInstallationMetrics_records (ok : Bool) (s : Store)
    (ci : ClusterInstallation) :
    (recorded (processClusterInstallationMetrics ok s ci)).length ≤ 1 ∧
    (ci.state ≠ .stable ∧ ci.state ≠ .deleted →
      processClusterInstallationMetrics ok s ci = .ok none) ∧
    (ci.state = .stable ∨ ci.state = .deleted →
      ((ok = false ∨ ∀ e ∈ s.stateChangeEvents, ¬ IsAnchor ci e) →
        ∃ err, processClusterInstallationMetrics ok s ci = .error err) ∧
      (ok = true → ∀ e, (s.stateChangeEvents.find? fun e => decide (IsAnchor ci e)) = some e →
        recorded (processClusterInstallationMetrics ok s ci) =
          [⟨histogramOf e.newState, ci.clusterId, e.timestamp⟩])) := by
  refine ⟨?_, fun h => if_pos h, fun hst => ⟨?_, ?_⟩⟩
  · unfold recorded
    split <;> simp
  · intro hcase
    have hnot : ¬ (ci.state ≠ .stable ∧ ci.state ≠ .deleted) := by tauto
    cases ok
    · exact ⟨.getStateChangeEvents, by simp [processClusterInstallationMetrics, hnot]⟩
    · have hnone : ∀ e ∈ s.stateChangeEvents, ¬ IsAnchor ci e := by simpa using hcase
      have hf : (s.stateChangeEvents.find? fun e => decide (IsAnchor ci e)) = none :=
        List.find?_eq_none.mpr fun e he => by simpa using hnone e he
      exact ⟨_, by rw [processClusterInstallationMetrics_eq s ci hst, hf]⟩
  · rintro rfl e hf
    rw [processClusterInstallationMetrics_eq s ci hst, hf]
    rfl

/-- The law as the spec states it fails on two logs. A change into Stable whose most recent
marker event entered DeletionRequested is observed into the deletion histogram, from that event;
and a log with two Reconciling anchors gives an observation, not an error. -/
theorem processClusterInstallationMetrics_crossed_marker :
    processClusterInstallationMetrics true
        (Store.ofEvents [⟨"e2", 20, "ci", .stable, .deletionRequested⟩,
          ⟨"e1", 10, "ci", .creationRequested, .reconciling⟩])
        ⟨"ci", "cluster", "installation", .stable⟩ =
      .ok (some ⟨.clusterInstallationDeletionDurationHist, "cluster", 20⟩) ∧
    processClusterInstallationMetrics true
        (Store.ofEvents [⟨"e2", 20, "ci", .stable, .reconciling⟩,
          ⟨"e1", 10, "ci", .creationRequested, .reconciling⟩])
        ⟨"ci", "cluster", "installation", .stable⟩ =
      .ok (some ⟨.clusterInstallationReconcilingDurationHist, "cluster", 20⟩) :=
  ⟨rfl, rfl⟩

end MattermostCloud.Supervisor
