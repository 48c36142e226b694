import Lamb.Arena.Serve
import Lamb.Dump.Run

/-!
Whether the report of a clear is accepted. A report counts the drops that the
queue had counted when the clear was sent, and those of the worker; it is
refused when the coordinator has acknowledged more. A drop of the producer is
acknowledged as soon as the cumulative counter has it, and is in the queue's
own counter only a step later. Where no clear is sent in between, every report
passes the validation.
-/

namespace Lamb.Dump

open Lamb.Ring Lamb.Lib Lamb.Arena

variable {α : Type}

def PendingClear.due (pending : PendingClear) : ClearDue where
  clearId := pending.clearId
  acknowledgedDroppedFrames := pending.acknowledgedDroppedFrames

/-- A pending clear of the coordinator `id` of the arena `runtimeId`. -/
structure PendingClear.Belongs (pending : PendingClear) (runtimeId id : ℕ) : Prop where
  arenaRuntimeId : pending.arenaRuntimeId = runtimeId
  coordinatorId : pending.coordinatorId = id
  accountingRuntimeId : pending.accounting.arenaRuntimeId = runtimeId
  accountingCoordinatorId : pending.accounting.coordinatorId = id
  requested : pending.requestedStart ≤ pending.accounting.expectedActiveStart

namespace DumpCoordinator

/-- The clear on its way, if there is one, is the pending one. -/
structure Awaits (runtimeId id : ℕ) (dump : DumpCoordinator α) : Prop where
  id_eq : dump.id = id
  arena : dump.arena.Serves runtimeId (dump.state.pendingClear.map PendingClear.due)
  pending : ∀ pending, dump.state.pendingClear = some pending → pending.Belongs runtimeId id

variable {runtimeId id : ℕ} {dump : DumpCoordinator α}

/-! ### What leaves the pending clear alone -/

theorem Awaits.of_same (h : dump.Awaits runtimeId id) {dump' : DumpCoordinator α}
    (hid : dump'.id = dump.id) (harena : dump'.arena = dump.arena)
    (hpending : dump'.state.pendingClear = dump.state.pendingClear) :
    dump'.Awaits runtimeId id where
  id_eq := hid.trans h.id_eq
  arena := by
    rw [harena, hpending]
    exact h.arena
  pending := by
    rw [hpending]
    exact h.pending

theorem preserves_modifyState {f : DumpState → DumpState}
    (hf : ∀ state, (f state).pendingClear = state.pendingClear) :
    (modifyState f : DumpAttempt α Unit).Preserves (Awaits runtimeId id) :=
  .modify fun dump h => h.of_same rfl rfl (hf dump.state)

theorem preserves_onArena {β : Type} {call : Attempt (CaptureArena α) LambError β}
    (hcall : ∀ due, call.Preserves (CaptureArena.Serves runtimeId due)) :
    (onArena call).Preserves (Awaits runtimeId id) :=
  fun dump h => .zoom ((hcall _ dump.arena h.arena).mono
    (fun _ _ harena => ⟨h.id_eq, harena, h.pending⟩)
    fun _ _ harena => ⟨h.id_eq, harena, h.pending⟩)

theorem preserves_interlude (events : List (ArenaEvent α)) :
    (interlude events).Preserves (Awaits runtimeId id) :=
  preserves_onArena fun _ => .modify fun _ h => h.events events

theorem preserves_release (frozen : FrozenCaptureEpoch) (call : Call α) :
    (onArena (CaptureArena.releaseFrozen frozen call)).Preserves (Awaits runtimeId id) :=
  preserves_onArena fun _ => CaptureArena.preserves_releaseFrozen frozen call

theorem preserves_bindArena :
    (bindArena : DumpAttempt α Unit).Preserves (Awaits runtimeId id) := by
  refine .bindGet fun dump => ?_
  cases dump.state.boundRuntimeId with
  | some bound => exact .ite (.pure _) (.fail _)
  | none => exact preserves_modifyState fun _ => rfl

theorem preserves_releasePending (call : Call α) :
    (releasePending call).Preserves (Awaits runtimeId id) := by
  refine .bindGet fun dump => ?_
  cases dump.state.pendingRelease with
  | none => exact .pure _
  | some frozen =>
      refine .bind (preserves_release frozen call) fun ⟨result, frozen⟩ => ?_
      cases result with
      | error e => exact .bind (preserves_modifyState fun _ => rfl) fun _ => .fail _
      | ok _ => exact preserves_modifyState fun _ => rfl

theorem preserves_releaseCompleted (call : Call α) :
    (releaseCompleted call).Preserves (Awaits runtimeId id) := by
  refine .bindGet fun dump => ?_
  cases dump.state.pendingCompletion with
  | none => exact .pure _
  | some authority =>
      cases authority with
      | delivering => exact .pure _
      | finalized decision failedRelease =>
          cases failedRelease with
          | none => exact .pure _
          | some frozen =>
              refine .bind (preserves_release frozen call) fun ⟨result, frozen⟩ => ?_
              cases result with
              | error e => exact .bind (preserves_modifyState fun _ => rfl) fun _ => .fail _
              | ok _ => exact preserves_modifyState fun _ => rfl

theorem preserves_recoverPendingRelease (calls : ReleaseCalls α) :
    (recoverPendingRelease calls).Preserves (Awaits runtimeId id) :=
  .bindGet fun _ => .bindRequire (.bind (preserves_releasePending calls.pending) fun _ =>
    preserves_releaseCompleted calls.completion)

theorem preserves_reconcileWithoutRelease :
    (reconcileCompletionAuthorityWithoutRelease : DumpAttempt α Unit).Preserves
      (Awaits runtimeId id) := by
  refine .bindGet fun dump => ?_
  cases dump.state.pendingCompletion with
  | none => exact .ite (.pure _) (.fail _)
  | some authority =>
      cases authority with
      | delivering => exact .fail _
      | finalized decision failedRelease =>
          refine .bindRequire (.bindRequire ?_)
          cases dump.state.reusableDecision with
          | some primary => exact .bindRequire (preserves_modifyState fun _ => rfl)
          | none => exact preserves_modifyState fun _ => rfl

theorem preserves_reconcileCompletionAuthority (calls : ReleaseCalls α) :
    (reconcileCompletionAuthority calls).Preserves (Awaits runtimeId id) := by
  have hgo : (do
      recoverPendingRelease calls
      reconcileCompletionAuthorityWithoutRelease : DumpAttempt α Unit).Preserves
      (Awaits runtimeId id) :=
    .bind (preserves_recoverPendingRelease calls) fun _ => preserves_reconcileWithoutRelease
  refine .bindGet fun dump => ?_
  cases dump.state.pendingCompletion with
  | none =>
      cases dump.state.completionInProgress with
      | false => exact hgo
      | true => exact .fail _
  | some authority =>
      cases authority with
      | delivering => exact .fail _
      | finalized decision failedRelease =>
          cases dump.state.completionInProgress with
          | false => exact .fail _
          | true => exact hgo

theorem preserves_settle (range : Range) :
    (settle range : DumpAttempt α Unit).Preserves (Awaits runtimeId id) :=
  .modify fun _ h => h.of_same rfl rfl rfl

theorem preserves_recoverPublication (recovery : Result PublicationRecovery) :
    (recoverPublication recovery : DumpAttempt α _).Preserves (Awaits runtimeId id) := by
  refine .bind (.bindGet fun dump => ?_) fun accounting => .bind (.bindGet fun dump => ?_)
    fun _ => .pure _
  · cases dump.state.indeterminatePublication with
    | none => exact .pure _
    | some publication =>
        cases dump.state.frozen with
        | none => exact .fail _
        | some transaction => exact .bindOfExcept fun _ => .pure _
  · cases dump.state.indeterminatePublication with
    | none => exact .pure _
    | some publication =>
        cases recovery with
        | error e => exact .fail _
        | ok outcome =>
            cases outcome with
            | complete =>
                exact .bind (preserves_modifyState fun _ => rfl) fun _ =>
                  .bind (preserves_settle _) fun _ => .pure _
            | rolledBack => exact .bind (preserves_modifyState fun _ => rfl) fun _ => .pure _
            | pending => exact .fail _

theorem preserves_commitRange (range : Range) (outcome : LossBreakdown → DumpOutcome)
    (cumulative : ℕ) (commit : PrevalidatedLossCommit) :
    (commitRange range outcome cumulative commit : DumpAttempt α Unit).Preserves
      (Awaits runtimeId id) :=
  .modify fun _ h => h.of_same rfl rfl rfl

theorem preserves_reportNoNewAudio :
    (reportNoNewAudio : DumpAttempt α DumpOutcome).Preserves (Awaits runtimeId id) :=
  .bindGet fun _ => .bindOfExcept fun _ =>
    .bindModify (fun _ h => h.of_same rfl rfl rfl) (.pure _)

theorem preserves_beginCompletion :
    (beginCompletion : DumpAttempt α Unit).Preserves (Awaits runtimeId id) :=
  .bindGet fun _ => .bindRequire (preserves_modifyState fun _ => rfl)

theorem preserves_cancelCompletion :
    (cancelCompletion : DumpAttempt α Unit).Preserves (Awaits runtimeId id) :=
  preserves_modifyState fun state => by
    split
    · rfl
    · rfl

theorem preserves_takeFrozen {lost : DumpAttempt α Unit}
    (hlost : lost.Preserves (Awaits runtimeId id)) (message : String) :
    (takeFrozen lost message).Preserves (Awaits runtimeId id) := by
  refine .bindGet fun dump => ?_
  cases dump.state.frozen with
  | none => exact .bind hlost fun _ => .fail _
  | some transaction => exact .bind (preserves_modifyState fun _ => rfl) fun _ => .pure _

theorem preserves_finalizeCompletedTransaction (transaction : Option FrozenTransaction)
    (call : Call α) :
    (finalizeCompletedTransaction transaction call).Preserves (Awaits runtimeId id) := by
  refine .bindGet fun dump => .ite ?_ (.bind (preserves_modifyState fun _ => rfl) fun _ => .fail _)
  cases transaction with
  | none => exact .bind preserves_cancelCompletion fun _ => .fail _
  | some transaction =>
      refine .bind (preserves_release transaction.frozen call) fun ⟨result, frozen⟩ => ?_
      cases result with
      | error e => exact preserves_modifyState fun _ => rfl
      | ok _ =>
          exact .bind (preserves_modifyState fun _ => rfl) fun _ =>
            preserves_reconcileWithoutRelease

theorem preserves_completeDirect (lost : String) (call : Call α) :
    (completeDirect lost call).Preserves (Awaits runtimeId id) :=
  .bind preserves_beginCompletion fun _ =>
    .bind (preserves_takeFrozen preserves_cancelCompletion lost) fun _ =>
      preserves_finalizeCompletedTransaction _ call

theorem preserves_completeGuarded (lost : String) :
    (completeGuarded lost : DumpAttempt α Unit).Preserves (Awaits runtimeId id) := by
  refine .bind preserves_beginCompletion fun _ => .bind (preserves_takeFrozen ?_ lost) fun _ => ?_
  · exact preserves_modifyState fun _ => rfl
  · exact .modify fun _ h => h.of_same rfl rfl rfl

theorem preserves_freezeTransaction (call : Call α) :
    (freezeTransaction call).Preserves (Awaits runtimeId id) := by
  refine .bindGet fun dump => ?_
  cases dump.state.frozen with
  | some transaction => exact .pure _
  | none =>
      cases dump.state.reusableDecision with
      | none => exact .fail _
      | some decision =>
          refine .bind (preserves_onArena fun _ =>
            CaptureArena.preserves_freezeSince dump.state.committedUntil call) fun frozen => ?_
          cases frozen with
          | none => exact .pure _
          | some frozen => exact .bind (preserves_modifyState fun _ => rfl) fun _ => .pure _

theorem preserves_indeterminate {β : Type} (transaction : FrozenTransaction)
    (operation : LambError) :
    (indeterminate transaction operation : DumpAttempt α β).Preserves (Awaits runtimeId id) :=
  .bind (preserves_modifyState fun _ => rfl) fun _ => .fail _

/-! ### Persisting -/

theorem preserves_persistRecovered (cumulative : ℕ) (commit : PrevalidatedLossCommit)
    (call : Call α) :
    (persistRecovered cumulative commit call).Preserves (Awaits runtimeId id) := by
  refine .bindGet fun dump => ?_
  cases dump.state.frozen with
  | none => exact .fail _
  | some transaction =>
      exact .bind (preserves_commitRange _ _ _ _) fun _ =>
        .bind (preserves_completeDirect _ call) fun _ => .pure _

theorem preserves_publishDirect (transaction : FrozenTransaction) (input : PersistInput α) :
    (publishDirect transaction input).Preserves (Awaits runtimeId id) := by
  refine .ite (.pure _) (.bindOfExcept fun prepared => .bindOfExcept fun _ => ?_)
  cases prepared.publication input.publisher with
  | disposed disposal => exact .pure _
  | retryableFailure e => exact .fail _
  | indeterminate operation => exact preserves_indeterminate transaction operation

theorem preserves_persistTransaction (transaction : FrozenTransaction) (input : PersistInput α) :
    (persistTransaction transaction input).Preserves (Awaits runtimeId id) :=
  .bindOfExcept fun _ => .bindGet fun _ => .bindOfExcept fun _ =>
    .bind (preserves_publishDirect transaction input) fun _ =>
      .bind (preserves_settle _) fun _ => .bind (preserves_interlude _) fun _ => .bindGet fun _ =>
        .bind (preserves_commitRange _ _ _ _) fun _ =>
          .bind (preserves_completeDirect _ input.release) fun _ => .bindOfExcept fun _ => .pure _

theorem preserves_persistPolicyRecovered (cumulative : ℕ) (commit : PrevalidatedLossCommit) :
    (persistPolicyRecovered cumulative commit : DumpAttempt α Unit).Preserves
      (Awaits runtimeId id) := by
  refine .bindGet fun dump => ?_
  cases dump.state.frozen with
  | none => exact .fail _
  | some transaction =>
      exact .bind (preserves_commitRange _ _ _ _) fun _ => preserves_completeGuarded _

theorem preserves_persistPolicyTransaction (transaction : FrozenTransaction)
    (input : PolicyInput α) :
    (persistPolicyTransaction transaction input).Preserves (Awaits runtimeId id) := by
  refine .bind (.bind (preserves_modifyState fun _ => rfl) fun _ => .bindOfExcept fun _ => .pure _)
    fun ⟨prepared, transaction⟩ => .bind ?_ fun _ => .bindOfExcept fun _ => ?_
  · cases prepared.publication input.publisher with
    | disposed disposal => exact preserves_settle _
    | retryableFailure e => exact .pure _
    | indeterminate operation => exact .pure _
  · cases prepared.publication input.publisher with
    | disposed disposal =>
        exact .bind (preserves_interlude _) fun _ => .bindGet fun _ => .bindOfExcept fun _ =>
          .bind (preserves_commitRange _ _ _ _) fun _ => preserves_completeGuarded _
    | retryableFailure e => exact .fail _
    | indeterminate operation => exact preserves_indeterminate transaction operation

theorem preserves_finishDelivery (input : DeliveryInput α) :
    (finishDelivery input).Preserves (Awaits runtimeId id) := by
  refine .bindGet fun dump => ?_
  cases dump.guard with
  | none => exact .pure _
  | some transaction =>
      exact .bindModify (fun _ h => h.of_same rfl rfl rfl)
        (.bind (.capture (preserves_finalizeCompletedTransaction _ input.release)) fun _ =>
          .ofExcept _)

/-! ### Reports -/

/-- The report of the pending clear passes the validation. -/
theorem Awaits.validateClearReport (h : dump.Awaits runtimeId id) (hinv : dump.Inv [])
    {pending : PendingClear} (hpending : dump.state.pendingClear = some pending)
    {report : CaptureClearReport} {head : ℕ} (hclears : dump.state.custody.Clears head report)
    (hserves : report.Serves (some pending.due)) :
    dump.validateClearReport report = .ok () := by
  obtain ⟨accounting, ⟨-, howned⟩, hreports, -, -⟩ := hclears
  obtain ⟨_, ⟨rfl⟩, hid, hcounted⟩ := hserves
  have hbelongs := h.pending pending hpending
  have haccounts := hinv.pendingClear pending hpending
  obtain rfl : pending.accounting = accounting :=
    howned pending hpending (hid.symm.trans hreports.clearId)
  have hruntime := h.arena.runtimeId
  have hend := haccounts.frozenEnd
  unfold DumpCoordinator.validateClearReport
  rw [hpending]
  simp only
  rw [if_neg, if_neg, if_neg, if_neg]
  · have horder := hreports.order
    have hrequested := hbelongs.requested
    omega
  · rintro ⟨hnone, hfrozen⟩
    rw [hnone] at hend
    cases hsome : dump.state.frozen with
    | none => exact hfrozen hsome
    | some transaction =>
        rw [hsome] at hend
        cases hend
  · rintro ⟨-, hchanged⟩
    exact hchanged hend.symm
  · rintro (hno | hno | hno | hno | hno | hno | hno)
    · exact hno (hbelongs.arenaRuntimeId.trans hruntime.symm)
    · exact hno (hbelongs.coordinatorId.trans h.id_eq.symm)
    · exact hno (hreports.arenaRuntimeId.trans
        (hbelongs.accountingRuntimeId.trans hbelongs.arenaRuntimeId.symm))
    · exact hno (hreports.coordinatorId.trans
        (hbelongs.accountingCoordinatorId.trans hbelongs.coordinatorId.symm))
    · exact hno hid
    · exact hno hreports.expected
    · exact absurd hcounted (Nat.not_le.mpr hno)

/-- A report that passes the validation is committed. -/
theorem acceptClearReport_of_valid {report : CaptureClearReport}
    (h : dump.validateClearReport report = .ok ()) :
    acceptClearReport report dump =
      (.ok (), { dump with state := dump.state.commitClearReport report }) := by
  change (Attempt.ofExcept (dump.validateClearReport report) >>= fun _ =>
    (modifyState fun state => state.commitClearReport report : DumpAttempt α Unit)) dump = _
  rw [h]
  rfl

theorem commitClearReport_of_pending {state : DumpState} {pending : PendingClear}
    (hpending : state.pendingClear = some pending) (report : CaptureClearReport) :
    (state.commitClearReport report).pendingClear = none ∧
      (state.commitClearReport report).committedUntil = some report.activeAbsoluteRange.stop ∧
      (state.commitClearReport report).pendingClearedFrames = report.pendingClearedFrames ∧
      (state.commitClearReport report).pendingRetentionLostFrames =
        report.pendingRetentionLostFrames := by
  unfold DumpState.commitClearReport
  rw [hpending]
  simp only
  split
  · exact ⟨rfl, rfl, rfl, rfl⟩
  · exact ⟨rfl, rfl, rfl, rfl⟩

theorem Awaits.of_quiet (hid : dump.id = id) (hquiet : dump.arena.Quiet)
    (hruntime : dump.arena.runtimeId = runtimeId) (hnone : dump.state.pendingClear = none) :
    dump.Awaits runtimeId id where
  id_eq := hid
  arena := hquiet.serves hruntime _
  pending := by
    rw [hnone]
    rintro _ ⟨⟩

/-- A report that has been taken is never refused. -/
theorem Awaits.acceptClearReport (h : dump.Awaits runtimeId id) (hinv : dump.Inv [])
    {pending : PendingClear} (hpending : dump.state.pendingClear = some pending)
    {report : CaptureClearReport} (hquiet : dump.arena.Quiet)
    (hclears : dump.state.custody.Clears dump.arena.worker.absoluteHead report)
    (hserves : report.Serves (some pending.due)) :
    (DumpCoordinator.acceptClearReport report : DumpAttempt α Unit).Ends dump
      (fun _ => Awaits runtimeId id) (fun _ _ => False) := by
  have hvalid := h.validateClearReport hinv hpending hclears hserves
  unfold Attempt.Ends
  rw [acceptClearReport_of_valid hvalid]
  exact .of_quiet h.id_eq hquiet h.arena.runtimeId (commitClearReport_of_pending hpending report).1

theorem Awaits.recoverPendingClear (h : dump.Awaits runtimeId id) (hinv : dump.Inv [])
    (call : Call α) :
    (DumpCoordinator.recoverPendingClear call).Ends dump
      (fun _ => Awaits runtimeId id) (fun _ => Awaits runtimeId id) := by
  refine .bindGet ?_
  cases hpending : dump.state.pendingClear with
  | none => exact .pure h
  | some pending =>
      have harena := h.arena
      rw [hpending] at harena
      refine .bindRequire (fun _ => h) fun _ => ?_
      refine .bindZoom ((hinv.arena.recoverClearResult _ call).and
        (harena.recoverClearResult _ call)) ?_ ?_
      · rintro found arena ⟨⟨hcarries, hlater, hquiet⟩, hruntime, hserves, hnone⟩
        cases found with
        | none =>
            refine .bindModify (.fail ⟨h.id_eq, ?_, ?_⟩)
            · exact hnone rfl
            · rintro _ ⟨⟩
        | some report =>
            obtain ⟨hidle, hclears⟩ := hquiet report rfl
            have hafter : Awaits runtimeId id { dump with arena } :=
              ⟨h.id_eq, hidle.serves hruntime _, h.pending⟩
            exact .bind ((hafter.acceptClearReport (hinv.onArena hlater hcarries) hpending hidle
              hclears (hserves report rfl)).mono (fun _ _ haccepted => haccepted)
              fun _ _ hnever => hnever.elim) fun _ _ haccepted => .pure haccepted
      · rintro e arena ⟨-, hserves⟩
        refine ⟨h.id_eq, ?_, h.pending⟩
        rw [hpending]
        exact hserves

/-! ### Sending a clear -/

/-- `submitClear` up to its clear command. -/
def issueClear (input : ClearInput α) : DumpAttempt α PendingClear := do
  let dump ← Attempt.get
  Attempt.require (dump.state.indeterminatePublication = none)
    (.indeterminatePublication
      (.exportInvariant "publication cleanup recovery is required before clear"))
  recoverPendingRelease input.release
  let dump ← Attempt.get
  let pending ← Attempt.ofExcept (nextClear dump)
  modifyState fun state =>
    { state with nextClearId := pending.clearId, pendingClear := some pending }
  pure pending

/-- `clearInOrder` up to the point where it puts a clear command into the slot:
the clear it sends, or none when it recovers a clear or a result instead. -/
def clearSubmission (input : ClearInput α) : DumpAttempt α (Option PendingClear) := do
  bindArena
  let recoveredClear ← recoverPendingClear input.recoverClear
  reconcileCompletionAuthority input.reconcile
  if recoveredClear then pure none else do
    let pending ← issueClear input
    let recovered ← onArena (CaptureArena.clearSubmission input.clear)
    pure (if recovered.isNone then some pending else none)

/-- When the clear is sent, every drop that has been acknowledged is counted by
the queue or by the worker. -/
def ClearInput.Counted (input : ClearInput α) (dump : DumpCoordinator α) : Prop :=
  ∀ pending dump', clearSubmission input dump = (.ok (some pending), dump') →
    pending.acknowledgedDroppedFrames ≤
      dump'.arena.queue.droppedFrames + dump'.arena.worker.workerDroppedFrames

theorem submitClear_eq (input : ClearInput α) :
    submitClear input = issueClear input >>= fun pending =>
      clearActive pending.accounting input.clear >>= fun report =>
        acceptClearReport report >>= fun _ =>
          (recoverPendingRelease input.releaseCleared).capture >>= fun _ => pure () := by
  unfold submitClear issueClear
  funext dump
  simp only [← Attempt.bind_assoc]
  rfl

theorem Inv.nextClear_belongs (h : dump.Inv []) {pending : PendingClear}
    (hnext : dump.nextClear = .ok pending) :
    pending.Belongs dump.arena.runtimeId dump.id := by
  obtain ⟨clearId, -, hrest⟩ := bind_eq_ok.1 hnext
  obtain ⟨accounting, haccounting, hpending⟩ := bind_eq_ok.1 hrest
  obtain rfl := Except.ok.inj hpending
  unfold clearAccounting at haccounting
  cases hfrozen : dump.state.frozen with
  | none =>
      rw [hfrozen] at haccounting
      obtain rfl := Except.ok.inj haccounting
      exact ⟨rfl, rfl, rfl, rfl, le_rfl⟩
  | some transaction =>
      obtain ⟨hstart, hnonempty, -, -⟩ := h.frozen transaction hfrozen
      rw [hfrozen] at haccounting
      obtain ⟨retention, -, hrest⟩ := bind_eq_ok.1 haccounting
      obtain ⟨cleared, -, haccounting⟩ := bind_eq_ok.1 hrest
      obtain rfl := Except.ok.inj haccounting
      refine ⟨rfl, rfl, rfl, rfl, ?_⟩
      change dump.state.cursor ≤ transaction.range.stop
      omega

theorem Awaits.issueClear (h : dump.Awaits runtimeId id) (hinv : dump.Inv [])
    (hguard : dump.guard = none) (input : ClearInput α) :
    (DumpCoordinator.issueClear input).Ends dump
      (fun pending dump' => dump'.Inv [] ∧ dump'.Awaits runtimeId id ∧
        dump'.arena.Serves runtimeId none ∧ dump'.state.pendingClear = some pending)
      (fun _ => Awaits runtimeId id) := by
  refine .bindGet (.bindRequire (fun _ => h) fun hpublication => ?_)
  refine .bind (((hinv.recoverPendingRelease input.release).and
    (preserves_recoverPendingRelease input.release dump h)).mono (fun _ _ hdone => hdone)
    fun _ _ hlost => hlost.2) ?_
  rintro _ released ⟨⟨hreconciled, -, hclear⟩, hawaits⟩
  refine .bindGet (.bindOfExcept (fun _ _ => hawaits) fun pending hnext => .bindModify (.pure ?_))
  have hnone := hawaits.arena
  rw [hclear] at hnone
  refine ⟨?_, ⟨hawaits.id_eq, hnone.of_none _, ?_⟩, hnone, rfl⟩
  · exact hreconciled.inv.issueClear (hreconciled.guard.trans hguard)
      (hreconciled.books.publication.trans hpublication) hnext
  · rintro _ ⟨rfl⟩
    have hbelongs := hreconciled.inv.nextClear_belongs hnext
    rwa [hawaits.arena.runtimeId, hawaits.id_eq] at hbelongs

theorem Awaits.clearActive (h : dump.Awaits runtimeId id) (hinv : dump.Inv [])
    (hnone : dump.arena.Serves runtimeId none) {pending : PendingClear}
    (hpending : dump.state.pendingClear = some pending) (call : Call α)
    (hcounted : ∀ arena, CaptureArena.clearSubmission call dump.arena = (.ok none, arena) →
      pending.acknowledgedDroppedFrames ≤
        arena.queue.droppedFrames + arena.worker.workerDroppedFrames) :
    (DumpCoordinator.clearActive pending.accounting call).Ends dump
      (fun report dump' => report.Serves (some pending.due) ∧ dump'.id = id ∧
        dump'.arena.runtimeId = runtimeId)
      (fun _ => Awaits runtimeId id) := by
  have hid : pending.accounting.clearId = pending.due.clearId :=
    (hinv.pendingClear pending hpending).clearId
  have hcalled : (DumpCoordinator.onArena
      (CaptureArena.clearActiveAccounted pending.accounting call)).capture.Ends dump
      (fun result dump' => dump'.id = id ∧
        (∀ report, result = .ok report →
          report.Serves (some pending.due) ∧ dump'.arena.runtimeId = runtimeId) ∧
        ∀ e, result = .error e → dump'.Awaits runtimeId id ∧
          (e ≠ commandTimedOut → dump'.arena.Serves runtimeId none))
      (fun _ _ => False) := by
    refine .capture (.zoom ((hnone.clearActiveAccounted hid call hcounted).mono ?_ ?_))
    · rintro report arena hreport
      refine ⟨h.id_eq, ?_, by rintro _ ⟨⟩⟩
      rintro _ ⟨rfl⟩
      exact hreport
    · rintro e arena ⟨hserves, hleft⟩
      refine ⟨h.id_eq, by rintro _ ⟨⟩, ?_⟩
      rintro _ ⟨rfl⟩
      refine ⟨⟨h.id_eq, ?_, h.pending⟩, hleft⟩
      change arena.Serves runtimeId (dump.state.pendingClear.map PendingClear.due)
      rw [hpending]
      exact hserves
  refine .bind (hcalled.mono (fun _ _ hdone => hdone) fun _ _ hnever => hnever.elim) ?_
  rintro result dump' ⟨hdump, hok, herror⟩
  cases result with
  | ok report => exact .pure ⟨(hok report rfl).1, hdump, (hok report rfl).2⟩
  | error e =>
      obtain ⟨hawaits, hleft⟩ := herror e rfl
      refine .ite (fun _ => .fail hawaits) fun hlost => .bindModify (.fail ⟨hdump, ?_, ?_⟩)
      · refine hleft fun heq => hlost ?_
        rw [heq]
        rfl
      · rintro _ ⟨⟩

theorem Awaits.clearInOrder (h : dump.Awaits runtimeId id) (hinv : dump.Inv [])
    (input : ClearInput α) (hcounted : input.Counted dump) :
    (DumpCoordinator.clearInOrder input).Ends dump
      (fun _ => Awaits runtimeId id) (fun _ => Awaits runtimeId id) := by
  refine .bind ((hinv.bindArena.and (preserves_bindArena dump h)).traced.mono
    (fun _ _ hdone => hdone) fun _ _ hlost => hlost.2) ?_
  rintro _ bound ⟨hbind, hbound, hawaits⟩
  refine .bind (((hbound.inv.recoverPendingClear input.recoverClear).and
    (hawaits.recoverPendingClear hbound.inv input.recoverClear)).traced.mono
    (fun _ _ hdone => hdone) fun _ _ hlost => hlost.2) ?_
  rintro recoveredClear recovered ⟨hrecover, ⟨hadvances, -⟩, hawaits⟩
  refine .bind (((hadvances.inv.reconcileCompletionAuthority input.reconcile).and
    (preserves_reconcileCompletionAuthority input.reconcile recovered hawaits)).traced.mono
    (fun _ _ hdone => hdone) fun _ _ hlost => hlost.2) ?_
  rintro _ reconciled ⟨hreconcile, ⟨hreconciled, hready⟩, hawaits⟩
  refine .ite (fun _ => .pure hawaits) fun hnew => ?_
  rw [submitClear_eq]
  refine .bind ((hawaits.issueClear hreconciled.inv
    (hreconciled.inv.guard_eq_none hready) input).traced.mono (fun _ _ hdone => hdone)
    fun _ _ hlost => hlost) ?_
  rintro pending issued ⟨hissue, hissued, hawaits, hnone, hpending⟩
  have hsent : ∀ arena, CaptureArena.clearSubmission input.clear issued.arena = (.ok none, arena) →
      pending.acknowledgedDroppedFrames ≤
        arena.queue.droppedFrames + arena.worker.workerDroppedFrames := by
    intro arena harena
    refine hcounted pending { issued with arena } ?_
    unfold DumpCoordinator.clearSubmission
    rw [Attempt.bind_of_ok hbind, Attempt.bind_of_ok hrecover, Attempt.bind_of_ok hreconcile,
      if_neg hnew, Attempt.bind_of_ok hissue]
    exact (Attempt.bind_of_ok (Attempt.zoom_of_eq harena)).trans rfl
  refine .bind (((hissued.clearActive hpending input.clear).and
    (hawaits.clearActive hissued hnone hpending input.clear hsent)).mono (fun _ _ hdone => hdone)
    fun _ _ hlost => hlost.2) ?_
  rintro report cleared ⟨⟨hcleared, hquiet, hclears⟩, hserves, hid, hruntime⟩
  have hstill : cleared.state.pendingClear = some pending :=
    hcleared.books.pendingClear.trans hpending
  have hafter : cleared.Awaits runtimeId id :=
    ⟨hid, hquiet.serves hruntime _, by
      rw [hstill, ← hpending]
      exact hawaits.pending⟩
  refine .bind ((hafter.acceptClearReport hcleared.inv hstill hquiet hclears hserves).mono
    (fun _ _ haccepted => haccepted) fun _ _ hnever => hnever.elim) ?_
  intro _ accepted haccepted
  refine .bind (Attempt.Preserves.capture
    (preserves_recoverPendingRelease input.releaseCleared) accepted haccepted) ?_
  exact fun _ _ hreleased => .pure hreleased

/-! ### Runs -/

end DumpCoordinator

/-- The clear of the operation, if it is one, is sent when the counters hold
every acknowledged drop. -/
def Operation.Counted (operation : Operation α) (dump : DumpCoordinator α) : Prop :=
  match operation with
  | .clearInOrder input => input.Counted dump
  | _ => True

namespace DumpCoordinator

/-- A run all of whose clears are sent when the counters hold every
acknowledged drop. -/
def CountedRun (dump : DumpCoordinator α) : List (Operation α) → Prop
  | [] => True
  | operation :: operations =>
      operation.Counted dump ∧ (dump.step operation).CountedRun operations

variable {runtimeId id : ℕ} {dump : DumpCoordinator α}

theorem Awaits.reconcile (h : dump.Awaits runtimeId id) (hinv : dump.Inv [])
    (input : ReconcileInput α) :
    (DumpCoordinator.reconcile input).Ends dump
      (fun _ => Awaits runtimeId id) (fun _ => Awaits runtimeId id) := by
  refine .bind ((hinv.bindArena.and (preserves_bindArena dump h)).mono (fun _ _ hdone => hdone)
    fun _ _ hlost => hlost.2) ?_
  rintro _ bound ⟨hbound, hawaits⟩
  refine .bind (hawaits.recoverPendingClear hbound.inv input.recoverClear) ?_
  intro _ recovered hrecovered
  exact Attempt.Preserves.bind (preserves_reconcileCompletionAuthority input.release)
    (fun _ => preserves_recoverPublication input.recovery) recovered hrecovered

theorem Awaits.persist (h : dump.Awaits runtimeId id) (hinv : dump.Inv [])
    (input : PersistInput α) :
    (DumpCoordinator.persist input).Ends dump
      (fun _ => Awaits runtimeId id) (fun _ => Awaits runtimeId id) := by
  refine .bind (h.reconcile hinv input.reconcile) fun recovered reconciled hreconciled => ?_
  cases recovered with
  | some accounting =>
      exact preserves_persistRecovered accounting.1 accounting.2 input.release reconciled
        hreconciled
  | none =>
      refine .bind (preserves_freezeTransaction input.freeze reconciled hreconciled) ?_
      intro transaction frozen hfrozen
      cases transaction with
      | none => exact preserves_reportNoNewAudio frozen hfrozen
      | some transaction => exact preserves_persistTransaction transaction input frozen hfrozen

theorem Awaits.persistPolicy (h : dump.Awaits runtimeId id) (hinv : dump.Inv [])
    (input : PolicyInput α) :
    (DumpCoordinator.persistPolicy input).Ends dump
      (fun _ => Awaits runtimeId id) (fun _ => Awaits runtimeId id) := by
  refine .bindOfExcept (fun _ _ => h) fun _ _ => ?_
  refine .bind (h.reconcile hinv input.reconcile) fun recovered reconciled hreconciled => ?_
  cases recovered with
  | some accounting =>
      exact preserves_persistPolicyRecovered accounting.1 accounting.2 reconciled hreconciled
  | none =>
      refine .bind (preserves_freezeTransaction input.freeze reconciled hreconciled) ?_
      intro transaction frozen hfrozen
      cases transaction with
      | none =>
          refine .bind (preserves_reportNoNewAudio frozen hfrozen) fun _ reported hreported => ?_
          exact .ofExcept (fun _ _ => hreported) fun _ _ => hreported
      | some transaction =>
          exact preserves_persistPolicyTransaction transaction input frozen hfrozen

theorem Awaits.step (h : dump.Awaits runtimeId id) (hinv : dump.Inv [])
    {operation : Operation α} (hcounted : operation.Counted dump) :
    (dump.step operation).Awaits runtimeId id := by
  cases operation with
  | arena event => exact ⟨h.id_eq, h.arena.event event, h.pending⟩
  | persist input => exact (h.persist hinv input).reached
  | persistPolicy input => exact (h.persistPolicy hinv input).reached
  | finishDelivery input => exact (preserves_finishDelivery input).reached h
  | clearInOrder input => exact (h.clearInOrder hinv input hcounted).reached

theorem Awaits.run (h : dump.Awaits runtimeId id) (hinv : dump.Inv [])
    {operations : List (Operation α)} (hcounted : dump.CountedRun operations) :
    (dump.run operations).Awaits runtimeId id := by
  induction operations generalizing dump with
  | nil => exact h
  | cons operation operations ih =>
      exact ih (h.step hinv hcounted.1) (hinv.step operation).inv hcounted.2

end DumpCoordinator

/-- A report of the worker that the coordinator has not taken yet. -/
def HasReport (arena : CaptureArena α) (report : CaptureClearReport) : Prop :=
  (∃ command, arena.slot = .resultReady command (.ok (.cleared report))) ∨
    arena.recoveredClear = some report

namespace DumpCoordinator

/-- Whenever the worker has cleared the ring, the clear is the pending one, and
its report is accepted: the cursor moves to the end of what was cleared, and the
cleared frames are taken over. -/
def ReportsAccepted (dump : DumpCoordinator α) : Prop :=
  ∀ report, HasReport dump.arena report →
    (∃ pending, dump.state.pendingClear = some pending ∧ report.clearId = pending.clearId) ∧
      dump.validateClearReport report = .ok () ∧
      ∃ state, acceptClearReport report dump = (.ok (), { dump with state }) ∧
        state.pendingClear = none ∧
        state.committedUntil = some report.activeAbsoluteRange.stop ∧
        state.pendingClearedFrames = report.pendingClearedFrames ∧
        state.pendingRetentionLostFrames = report.pendingRetentionLostFrames

variable {runtimeId id : ℕ} {dump : DumpCoordinator α}

theorem Inv.clears_of_hasReport (h : dump.Inv []) {report : CaptureClearReport}
    (hreport : HasReport dump.arena report) :
    dump.state.custody.Clears dump.arena.worker.absoluteHead report := by
  rcases hreport with ⟨command, hslot⟩ | hkept
  · have hcarries := h.arena.slot
    rw [hslot] at hcarries
    exact hcarries.1.delivers (hcarries.2 _ rfl)
  · exact (h.arena.clear report hkept).1

theorem Awaits.reportsAccepted (h : dump.Awaits runtimeId id) (hinv : dump.Inv []) :
    dump.ReportsAccepted := by
  intro report hreport
  have hclears := hinv.clears_of_hasReport hreport
  have hserves : report.Serves (dump.state.pendingClear.map PendingClear.due) := by
    rcases hreport with ⟨command, hslot⟩ | hkept
    · exact h.arena.result hslot report rfl
    · exact h.arena.kept report hkept
  obtain ⟨clear, hdue, hid, hcounted⟩ := hserves
  obtain ⟨pending, hpending, rfl⟩ := Option.map_eq_some_iff.mp hdue
  have hvalid := h.validateClearReport hinv hpending hclears ⟨_, rfl, hid, hcounted⟩
  exact ⟨⟨pending, hpending, hid⟩, hvalid, _, acceptClearReport_of_valid hvalid,
    commitClearReport_of_pending hpending report⟩

/-- The coordinator in the middle of a clear, its command in the slot. -/
def sendClear (dump : DumpCoordinator α) (pending : PendingClear) : DumpCoordinator α :=
  { dump with
    arena := { dump.arena with
      slot := .ready (.clear dump.arena.queue.droppedFrames pending.accounting)
      abandoned := false } }

theorem Awaits.sendClear (h : dump.Awaits runtimeId id) (hinv : dump.Inv [])
    (hquiet : dump.arena.Quiet) {pending : PendingClear}
    (hpending : dump.state.pendingClear = some pending)
    (hcounted : pending.acknowledgedDroppedFrames ≤
      dump.arena.queue.droppedFrames + dump.arena.worker.workerDroppedFrames) :
    (dump.sendClear pending).Inv [] ∧ (dump.sendClear pending).Awaits runtimeId id := by
  have haccounts := hinv.pendingClear pending hpending
  have howned : dump.state.custody.owned pending.accounting := by
    refine ⟨haccounts.clearId.le.trans haccounts.issued, ?_⟩
    intro pending' hpending' _
    rw [hpending] at hpending'
    cases hpending'
    rfl
  refine ⟨hinv.onArena ⟨.refl _, Nat.le_refl _, rfl⟩ ⟨hquiet.worker, ?_, ?_, ?_⟩, h.id_eq,
    ⟨h.arena.runtimeId, ?_, h.arena.kept⟩, h.pending⟩
  · exact ⟨howned, (hinv.expected_bounds haccounts).2⟩
  · intro descriptor hfrozen
    rw [hquiet.frozen] at hfrozen
    cases hfrozen
  · intro report hreport
    rw [hquiet.clear] at hreport
    cases hreport
  · refine ⟨pending.due, ?_, haccounts.clearId, hcounted⟩
    change dump.state.pendingClear.map PendingClear.due = _
    rw [hpending]
    rfl

theorem Awaits.clearSubmission (h : dump.Awaits runtimeId id) (hinv : dump.Inv [])
    (input : ClearInput α) :
    (DumpCoordinator.clearSubmission input).Ends dump
      (fun sent dump' => ∀ pending, sent = some pending → dump'.Inv [] ∧
        dump'.Awaits runtimeId id ∧ dump'.arena.Quiet ∧ dump'.state.pendingClear = some pending)
      (fun _ _ => True) := by
  refine .bind ((hinv.bindArena.and (preserves_bindArena dump h)).mono (fun _ _ hdone => hdone)
    fun _ _ _ => trivial) ?_
  rintro _ bound ⟨hbound, hawaits⟩
  refine .bind (((hbound.inv.recoverPendingClear input.recoverClear).and
    (hawaits.recoverPendingClear hbound.inv input.recoverClear)).mono (fun _ _ hdone => hdone)
    fun _ _ _ => trivial) ?_
  rintro recoveredClear recovered ⟨⟨hadvances, -⟩, hawaits⟩
  refine .bind (((hadvances.inv.reconcileCompletionAuthority input.reconcile).and
    (preserves_reconcileCompletionAuthority input.reconcile recovered hawaits)).mono
    (fun _ _ hdone => hdone) fun _ _ _ => trivial) ?_
  rintro _ reconciled ⟨⟨hreconciled, hready⟩, hawaits⟩
  refine .ite (fun _ => .pure (by rintro _ ⟨⟩)) fun _ => ?_
  refine .bind ((hawaits.issueClear hreconciled.inv
    (hreconciled.inv.guard_eq_none hready) input).mono (fun _ _ hdone => hdone)
    fun _ _ _ => trivial) ?_
  rintro pending issued ⟨hissued, hawaits, hnone, hpending⟩
  have hcarries : (CaptureArena.clearSubmission input.clear).Ends issued.arena
      (fun _ arena => arena.Quiet ∧ issued.arena.Later arena) (fun _ _ => True) := by
    refine .bind ((hissued.arena.lockCommandClient input.clear).mono (fun _ _ hdone => hdone)
      fun _ _ _ => trivial) ?_
    rintro _ locked ⟨hlocked, hlater⟩
    refine (hlocked.recoverBefore (by decide) input.clear.stale).mono ?_ fun _ _ _ => trivial
    rintro recovered arena ⟨hquiet, hlater', -⟩
    exact ⟨hquiet, hlater.trans hlater'⟩
  refine .bindZoom (hcarries.and (hnone.clearSubmission input.clear)) ?_ fun _ _ _ => trivial
  rintro recovered arena ⟨⟨hquiet, hlater⟩, -, hserves, -⟩
  refine .pure ?_
  intro pending' hsent
  obtain rfl : pending = pending' := by
    cases recovered with
    | none => exact Option.some.inj hsent
    | some result => cases hsent
  exact ⟨hissued.onArena hlater (hquiet.carries _),
    ⟨hawaits.id_eq, hserves.of_none _, hawaits.pending⟩, hquiet, hpending⟩

theorem Awaits.withFrozenDecision {cfg : ArenaConfig} {zero : α} {arena : CaptureArena α}
    (hnew : CaptureArena.new runtimeId cfg zero = .ok arena) (id : ℕ)
    (decision : FrozenExportDecision) :
    (DumpCoordinator.withFrozenDecision id arena decision).Awaits arena.runtimeId id :=
  .of_quiet rfl (.new hnew) rfl rfl

end DumpCoordinator

/-- In every run whose clears are sent when the counters hold every acknowledged
drop, every report the worker produces is accepted: in every state between two
calls, and in the middle of a call that has sent its clear, after any number of
steps of the other threads. -/
theorem clear_reports_accepted {runtimeId : ℕ} {cfg : ArenaConfig} {zero : α}
    {arena : CaptureArena α} (hnew : CaptureArena.new runtimeId cfg zero = .ok arena)
    (id channels sampleRate : ℕ) (operations : List (Operation α))
    (hcounted : (DumpCoordinator.withFrozenDecision id arena
      (.new channels sampleRate)).CountedRun operations) :
    let dump := (DumpCoordinator.withFrozenDecision id arena (.new channels sampleRate)).run
      operations
    dump.ReportsAccepted ∧
      ∀ (input : DumpCoordinator.ClearInput α) (pending : PendingClear)
        (issued : DumpCoordinator α) (events : List (ArenaEvent α)), input.Counted dump →
        DumpCoordinator.clearSubmission input dump = (.ok (some pending), issued) →
        ((issued.sendClear pending).run (events.map .arena)).ReportsAccepted := by
  intro dump
  have hstart := DumpCoordinator.Inv.withFrozenDecision hnew id channels sampleRate
  have hinv : dump.Inv [] := (hstart.run operations).inv
  have hawaits := (DumpCoordinator.Awaits.withFrozenDecision hnew id _).run hstart hcounted
  refine ⟨hawaits.reportsAccepted hinv, ?_⟩
  intro input pending issued events hinput hissued
  have hends := (hawaits.clearSubmission hinv input).traced
  unfold Attempt.Ends at hends
  rw [hissued] at hends
  obtain ⟨-, hsent⟩ := hends
  obtain ⟨hinv', hawaits', hquiet, hpending⟩ := hsent pending rfl
  obtain ⟨hinv'', hawaits''⟩ := hawaits'.sendClear hinv' hquiet hpending
    (hinput pending issued hissued)
  have hfree : (issued.sendClear pending).CountedRun (events.map .arena) := by
    generalize issued.sendClear pending = sent
    induction events generalizing sent with
    | nil => trivial
    | cons event events ih => exact ⟨trivial, ih _⟩
  exact (hawaits''.run hinv'' hfree).reportsAccepted (hinv''.run _).inv

/-- Three dropped frames are acknowledged while the queue has not counted them
yet, and still not when the clear is sent: the report, which empties the ring,
falls short of them, and the call refuses it. -/
theorem clear_report_refused : ∃ arena, CaptureArena.new 1 smallArena 0 = .ok arena ∧
    let dump := (DumpCoordinator.withFrozenDecision 1 arena (.new 1 1)).run
      [.arena (.drop 3), .arena (.consume 0 [7]),
        .persist (persistAnswered .published (.ok .pending)), .arena (.consume 0 [8])]
    (DumpCoordinator.clearInOrder clearAnswered dump).1 =
        .error (.controlInvariant
          "clear report does not match pending coordinator transaction") ∧
      ∃ pending issued,
        DumpCoordinator.clearSubmission clearAnswered dump = (.ok (some pending), issued) ∧
        ¬((issued.sendClear pending).run [.arena .execute]).ReportsAccepted := by
  refine ⟨_, rfl, by decide, _, _, rfl, fun haccepted => ?_⟩
  have hvalid := (haccepted _ (.inl ⟨_, rfl⟩)).2.1
  exact absurd hvalid (by decide)

/-- The same drop, counted by the queue before the clear is sent. -/
theorem clear_report_accepted_after_drop : ∃ arena,
    CaptureArena.new 1 smallArena 0 = .ok arena ∧
    let dump := (DumpCoordinator.withFrozenDecision 1 arena (.new 1 1)).run
      [.arena (.drop 3), .arena (.consume 0 [7]),
        .persist (persistAnswered .published (.ok .pending)), .arena .dropDone,
        .arena (.consume 0 [8]), .clearInOrder clearAnswered]
    dump.state.acknowledgedDroppedFrames = 3 ∧ dump.ReportsAccepted := by
  refine ⟨_, rfl, by decide, (@clear_reports_accepted ℕ 1 smallArena 0 _ rfl 1 1 1 _ ?_).1⟩
  refine ⟨trivial, trivial, trivial, trivial, trivial, ?_, trivial⟩
  rintro pending issued hsent
  obtain ⟨hpending, rfl⟩ := Prod.mk.inj hsent
  obtain rfl := Option.some.inj (Except.ok.inj hpending)
  decide

end Lamb.Dump
