import MattermostCloud.Supervisor.Supervise

/-!
# An absent record at either re-fetch

`GetClusterInstallation` answers a missing row with no record and no error, as the store's other
point reads do (`transitionClusterInstallation` checks `cluster == nil` and
`installation == nil` after `GetCluster` and `GetInstallation`, lines 175 and 185). `Supervise`
checks only the error after its two re-fetches and then reads `clusterInstallation.State`
(lines 114 and 131): on an absent row that is a nil dereference, which panics after the deferred
unlock and leaves `Do` with the rest of its loop undone.

* `stepInstance_crashed`, `run_crashed` — a stopped instance takes no further step.
* `supervise_panics_on_absent_record` — on a store that removes deleted rows, a successful
  deletion removes the row before the pre-write re-fetch, `Supervise` panics instead of recording
  Deleted, and the next cluster installation of the discovered list is never supervised; the same
  happens at the first re-fetch when another party removed the row after the lock was taken.
* `supervisors_never_panic` — the converse: on a store that keeps deleted rows, and with no party
  removing rows, no instance ever panics, in any interleaving (`NoPanicInv`, kept by every step
  but a removal).
-/

namespace MattermostCloud.Supervisor

open ClusterInstallationState World

/-- A stopped instance takes no step, whatever it is answered. -/
theorem stepInstance_crashed {w : World} {i : String} (h : w.procs i = .crashed) (r : Reply) :
    w.stepInstance i r = w := by
  simp [stepInstance, h]

/-- A stopped instance stays stopped and changes nothing, whatever it is answered. -/
theorem run_crashed {w : World} {i : String} (h : w.procs i = .crashed) (rs : List Reply) :
    w.run (rs.map (.supervisor i)) = w := by
  induction rs with
  | nil => rfl
  | cons r rs ih => simpa [World.step, stepInstance_crashed h r] using ih

/-- The failing input: a store that removes deleted rows, holding `ci1` in DeletionRequested and
`ci2` in CreationRequested. -/
def twoPendingStore : Store :=
  Store.ofRows [⟨"ci1", "cluster", "installation", .deletionRequested⟩,
    ⟨"ci2", "cluster", "installation", .creationRequested⟩] false

/-- Instance `a` discovers both rows, takes `ci1`'s lock, re-fetches it, deletes it (every call
succeeding) and re-fetches it before persisting Deleted. -/
def deleteThenRefetch : List Action :=
  .supervisor "a" { found := ["ci1", "ci2"] } :: List.replicate 5 (.supervisor "a" {})

/-- Instance `a` discovers both rows and takes `ci1`'s lock; another party removes `ci1`; `a`
re-fetches it. -/
def removeThenRefetch : List Action :=
  [.supervisor "a" { found := ["ci1", "ci2"] }, .supervisor "a" {}, .removeRow "ci1",
    .supervisor "a" {}, .supervisor "a" {}]

/-- **The nil dereferences of lines 114 and 131.** The deletion succeeds and removes `ci1`'s row;
the pre-write re-fetch reads no record, `Supervise` unlocks and panics instead of recording
Deleted, and `ci2` is never supervised, whatever `a` is answered afterwards. The same panic
happens at the first re-fetch when another party removed `ci1` after `a` took its lock. -/
theorem supervise_panics_on_absent_record :
    ((start twoPendingStore).run deleteThenRefetch).procs "a" = .crashed ∧
    ((start twoPendingStore).run deleteThenRefetch).stateOf "ci1" = none ∧
    ((start twoPendingStore).run deleteThenRefetch).store.lockAcquiredBy "ci1" = none ∧
    ((start twoPendingStore).run removeThenRefetch).procs "a" = .crashed ∧
    ∀ rs : List Reply,
      (((start twoPendingStore).run deleteThenRefetch).run (rs.map (.supervisor "a"))).stateOf
        "ci2" = some .creationRequested := by
  have hcrash : ((start twoPendingStore).run deleteThenRefetch).procs "a" = .crashed := by decide
  refine ⟨hcrash, by decide, by decide, by decide, fun rs => ?_⟩
  rw [run_crashed hcrash]
  decide

/-! ## Rows that stay readable: no panic -/

/-- What keeps an instance from panicking: the rows of the cluster installations it is still to
re-fetch are present, and it is not unwinding a panic. -/
def ProcSafe (rows : String → Option ClusterInstallation) : Proc → Prop
  | .idle => True
  | .doing pending => ∀ c ∈ pending, (rows c.id).isSome
  | .supervising ci ph pending =>
    (rows ci.id).isSome ∧ ph ≠ .unlock true ∧ ∀ c ∈ pending, (rows c.id).isSome
  | .crashed => False

/-- An instance safe over some rows is safe over rows that keep every one of them present. -/
theorem ProcSafe.mono {rows rows' : String → Option ClusterInstallation}
    (h : ∀ id, (rows id).isSome → (rows' id).isSome) {p : Proc} (hp : ProcSafe rows p) :
    ProcSafe rows' p := by
  cases p with
  | idle => trivial
  | doing pending => exact fun c hc => h _ (hp c hc)
  | supervising ci ph pending => exact ⟨h _ hp.1, hp.2.1, fun c hc => h _ (hp.2.2 c hc)⟩
  | crashed => exact hp

/-- On a store that keeps deleted rows, a call of `Supervise` removes no row. -/
theorem superviseStep_keeps_rows (i : String) (ci : ClusterInstallation) (r : Reply) {e : Shared}
    (ph : Phase) (hsoft : e.store.softDelete = true) (id : String)
    (h : (e.store.clusterInstallations id).isSome) :
    ((superviseStep i ci r e ph).1.store.clusterInstallations id).isSome ∧
    (superviseStep i ci r e ph).1.store.softDelete = true := by
  cases ph with
  | transition c =>
    simp only [superviseStep]
    rcases transitionClusterInstallation_cases r.backend e.store c with
      ⟨h', -⟩ | ⟨-, -, h'⟩ | ⟨-, -, h'⟩
    · rw [h']; exact ⟨h, hsoft⟩
    · rw [h']; simp [h, hsoft]
    · rw [h', Store.deleteClusterInstallation_of_softDelete hsoft]; exact ⟨h, hsoft⟩
  | _ =>
    simp only [superviseStep]
    repeat' split
    all_goals simp [h, hsoft]

/-- A call of `Supervise` whose record is present, and which is not unwinding a panic, neither
panics nor starts to. -/
theorem superviseStep_not_panicking (i : String) (ci : ClusterInstallation) (r : Reply)
    (e : Shared) (ph : Phase) (hrow : (e.store.clusterInstallations ci.id).isSome)
    (hph : ph ≠ .unlock true) :
    (superviseStep i ci r e ph).2 ≠ .panicked ∧
    (superviseStep i ci r e ph).2 ≠ .phase (.unlock true) := by
  obtain ⟨c, hc⟩ := Option.isSome_iff_exists.mp hrow
  cases ph with
  | unlock p =>
    cases p
    · simp [superviseStep]
    · exact absurd rfl hph
  | _ =>
    simp only [superviseStep, Store.getClusterInstallation, hc]
    repeat' split
    all_goals simp

/-- The invariant of the runs on a store that keeps deleted rows and in which no party removes a
row: no instance has panicked, or is about to. -/
structure NoPanicInv (w : World) : Prop where
  softDelete : w.store.softDelete = true
  safe : ∀ i, ProcSafe w.store.clusterInstallations (w.procs i)

variable {w : World}

/-- An instance that moves to a safe place keeps the invariant. -/
theorem NoPanicInv.setProc (h : NoPanicInv w) {i : String} {p : Proc}
    (hp : ProcSafe w.store.clusterInstallations p) : NoPanicInv (w.setProc i p) := by
  refine ⟨h.softDelete, fun k => ?_⟩
  by_cases hk : k = i
  · subst hk; simpa [World.setProc] using hp
  · simpa [World.setProc, Function.update_noteq hk] using h.safe k

/-- **Every step but a removal keeps the invariant.** -/
theorem NoPanicInv.step (h : NoPanicInv w) {a : Action} (ha : ∀ id, a ≠ .removeRow id) :
    NoPanicInv (w.step a) := by
  cases a with
  | removeRow id => exact absurd rfl (ha id)
  | writeState id st =>
    exact ⟨by simpa [World.step] using h.softDelete,
      fun k => (h.safe k).mono fun id' h' => by simpa [World.step] using h'⟩
  | supervisor i r =>
    simp only [World.step]
    have hsafe := h.safe i
    cases hi : w.procs i with
    | idle =>
      simp only [stepInstance, hi]
      split
      · exact h.setProc fun c hc => by
          rw [Store.mem_getUnlockedClusterInstallationsPendingWork hc]; rfl
      · exact h
    | crashed => rw [hi] at hsafe; exact hsafe.elim
    | doing pending =>
      rw [hi] at hsafe
      cases pending with
      | nil => simp only [stepInstance, hi]; exact h.setProc trivial
      | cons ci pending =>
        simp only [stepInstance, hi]
        split
        · have h' := h.setProc (i := i) (p := .supervising ci .refetch pending)
            ⟨hsafe ci (List.mem_cons_self _ _), by simp,
              fun c hc => hsafe c (List.mem_cons_of_mem _ hc)⟩
          exact ⟨by simpa using h'.softDelete, fun k => by simpa using h'.safe k⟩
        · exact h.setProc fun c hc => hsafe c (List.mem_cons_of_mem _ hc)
    | supervising ci ph pending =>
      rw [hi] at hsafe
      obtain ⟨hrow, hph, hpending⟩ := hsafe
      have hkeep := superviseStep_keeps_rows i ci r ph h.softDelete
      obtain ⟨hnp, hnu⟩ := superviseStep_not_panicking i ci r w.toShared ph hrow hph
      rw [stepInstance_supervising hi]
      refine ⟨(hkeep _ hrow).2, fun k => ?_⟩
      by_cases hk : k = i
      · subst hk
        simp only [Function.update_same]
        rcases hn : (superviseStep k ci r w.toShared ph).2 with ph' | _ | _
        · exact ⟨(hkeep _ hrow).1, fun h' => hnu (by rw [hn, h']),
            fun c hc => (hkeep _ (hpending c hc)).1⟩
        · exact fun c hc => (hkeep _ (hpending c hc)).1
        · exact absurd hn hnp
      · simp only [Function.update_noteq hk]
        exact (h.safe k).mono fun id' h' => (hkeep id' h').1

/-- Over a run in which no row is removed the invariant holds throughout. -/
theorem NoPanicInv.run (h : NoPanicInv w) (as : List Action)
    (has : ∀ a ∈ as, ∀ id, a ≠ .removeRow id) : NoPanicInv (w.run as) := by
  induction as generalizing w with
  | nil => exact h
  | cons a as ih =>
    exact ih (h.step (has a (List.mem_cons_self _ _)))
      fun b hb => has b (List.mem_cons_of_mem _ hb)

/-- **No panic while rows stay.** On a store that keeps deleted rows readable, in every
interleaving of any number of supervisor instances with writes of the state field by parties that
do not take the lock, as long as no party removes a row, no instance ever panics: the nil
dereferences of lines 114 and 131 need a removed row. -/
theorem supervisors_never_panic (w₀ : World) (h₀ : ∀ i, w₀.procs i = .idle)
    (hsoft : w₀.store.softDelete = true) (as : List Action)
    (has : ∀ a ∈ as, ∀ id, a ≠ .removeRow id) (i : String) :
    (w₀.run as).procs i ≠ .crashed := by
  have h := (NoPanicInv.run ⟨hsoft, fun k => by rw [h₀ k]; trivial⟩ as has).safe i
  intro hc
  rw [hc] at h
  exact h

/-- The run of `supervise_panics_on_absent_record`, on a store that keeps deleted rows: `a` does
not panic. -/
theorem supervisors_never_panic_soft_delete :
    (∀ i, (start (Store.ofRows [⟨"ci1", "cluster", "installation", .deletionRequested⟩,
      ⟨"ci2", "cluster", "installation", .creationRequested⟩] true)).procs i = .idle) ∧
    (Store.ofRows [⟨"ci1", "cluster", "installation", .deletionRequested⟩,
      ⟨"ci2", "cluster", "installation", .creationRequested⟩] true).softDelete = true ∧
    (∀ a ∈ deleteThenRefetch, ∀ id, a ≠ .removeRow id) ∧
    ((start (Store.ofRows [⟨"ci1", "cluster", "installation", .deletionRequested⟩,
      ⟨"ci2", "cluster", "installation", .creationRequested⟩] true)).run deleteThenRefetch).procs
        "a" ≠ .crashed := by
  have has : ∀ a ∈ deleteThenRefetch, ∀ id, a ≠ .removeRow id := by
    simp [deleteThenRefetch, List.mem_replicate]
  exact ⟨fun _ => rfl, rfl, has, supervisors_never_panic _ (fun _ => rfl) rfl _ has "a"⟩

end MattermostCloud.Supervisor
