import Lamb.Dump.Decision

/-!
The dump coordinator. Every call holds the lock of the coordinator's state
from its start to its end, except that a policy call delivers its outcome
without it: there the call is cut in two, `persistPolicy` up to the delivery
and `finishDelivery` after it, and other calls may come in between.

The workspace, the publisher and the file system are inputs of a call. A
panic and the lock poisoning that follows from it are left out, as are the
paths and files of an outcome.
-/

namespace Lamb.Dump

open Lamb.Ring Lamb.Lib Lamb.Arena

variable {α : Type}

structure LossBreakdown where
  retentionLostFrames : ℕ
  clearedFrames : ℕ
  captureDroppedFrames : ℕ
  deriving DecidableEq, Repr

inductive DumpOutcome
  | written (range : Range) (frames exportStartFrame exportFrames : ℕ) (losses : LossBreakdown)
  | skippedSilent (range : Range) (frames : ℕ) (losses : LossBreakdown)
  | skippedByPolicy (range : Range) (frames : ℕ) (losses : LossBreakdown)
  | noNewAudio (losses : LossBreakdown)
  deriving DecidableEq, Repr

def DumpOutcome.losses : DumpOutcome → LossBreakdown
  | .written _ _ _ _ losses => losses
  | .skippedSilent _ _ losses => losses
  | .skippedByPolicy _ _ losses => losses
  | .noNewAudio losses => losses

def DumpOutcome.range : DumpOutcome → Option Range
  | .written range _ _ _ _ => some range
  | .skippedSilent range _ _ => some range
  | .skippedByPolicy range _ _ => some range
  | .noNewAudio _ => none

structure FrozenTransaction where
  frozen : FrozenCaptureEpoch
  retentionLostFrames : ℕ
  decision : FrozenExportDecision
  deriving DecidableEq, Repr

def FrozenTransaction.range (transaction : FrozenTransaction) : Range :=
  transaction.frozen.absoluteRange

/-- The range a transaction exports: that of its decision once it is made. -/
def FrozenTransaction.exportRange (transaction : FrozenTransaction) : Range :=
  if transaction.decision.valid then transaction.decision.exportRange else transaction.range

structure PrevalidatedLossCommit where
  acknowledgedDroppedFrames : ℕ
  retentionLostFrames : ℕ
  clearedFrames : ℕ
  deriving DecidableEq, Repr

structure PendingClear where
  arenaRuntimeId : ℕ
  coordinatorId : ℕ
  clearId : ℕ
  requestedStart : ℕ
  accounting : CaptureClearAccounting
  frozenEnd : Option ℕ
  acknowledgedDroppedFrames : ℕ
  deriving DecidableEq, Repr

inductive PendingCompletionAuthority
  | delivering
  | finalized (resetDecision : FrozenExportDecision) (failedRelease : Option FrozenCaptureEpoch)
  deriving DecidableEq, Repr

/-- What is kept to recover a publication. The range it published is a ghost
field: the source keeps paths and identities of files instead. -/
structure IndeterminatePublication where
  range : Range
  deriving DecidableEq, Repr

structure DumpState where
  boundRuntimeId : Option ℕ
  committedUntil : Option ℕ
  frozen : Option FrozenTransaction
  reusableDecision : Option FrozenExportDecision
  pendingClear : Option PendingClear
  pendingRelease : Option FrozenCaptureEpoch
  completionInProgress : Bool
  pendingCompletion : Option PendingCompletionAuthority
  indeterminatePublication : Option IndeterminatePublication
  acknowledgedDroppedFrames : ℕ
  pendingRetentionLostFrames : ℕ
  pendingClearedFrames : ℕ
  nextClearId : ℕ
  deriving DecidableEq, Repr

/-- A coordinator with its arena. `guard` is the transaction owned by the
completion guard of a delivery. `outcomes` and `settled` are ghosts: the
outcomes whose losses were committed, and the ranges that were published,
recovered as complete, or skipped. -/
structure DumpCoordinator (α : Type) where
  id : ℕ
  arena : CaptureArena α
  state : DumpState
  guard : Option FrozenTransaction
  outcomes : List DumpOutcome
  settled : List Range

def DumpState.new : DumpState where
  boundRuntimeId := none
  committedUntil := none
  frozen := none
  reusableDecision := none
  pendingClear := none
  pendingRelease := none
  completionInProgress := false
  pendingCompletion := none
  indeterminatePublication := none
  acknowledgedDroppedFrames := 0
  pendingRetentionLostFrames := 0
  pendingClearedFrames := 0
  nextClearId := 0

def DumpCoordinator.new (id : ℕ) (arena : CaptureArena α) : DumpCoordinator α where
  id := id
  arena := arena
  state := .new
  guard := none
  outcomes := []
  settled := []

def DumpCoordinator.withFrozenDecision (id : ℕ) (arena : CaptureArena α)
    (decision : FrozenExportDecision) : DumpCoordinator α :=
  let coordinator := DumpCoordinator.new id arena
  { coordinator with state := { coordinator.state with reusableDecision := some decision } }

/-! ### Losses -/

def checkedLossAdd (left right : ℕ) (message : String) : Result ℕ :=
  match checkedAdd left right with
  | none => .error (.controlInvariant message)
  | some total => .ok total

def DumpState.commitClearReport (state : DumpState) (report : CaptureClearReport) :
    DumpState :=
  match state.pendingClear with
  | none => state
  | some pending =>
      let state := { state with
        pendingRetentionLostFrames := report.pendingRetentionLostFrames
        pendingClearedFrames := report.pendingClearedFrames
        committedUntil := some report.activeAbsoluteRange.stop
        pendingClear := none }
      match pending.frozenEnd, state.frozen with
      | some _, some transaction =>
          { state with
            frozen := none
            reusableDecision := some transaction.decision.reset
            pendingRelease := some transaction.frozen }
      | _, _ => state

def DumpState.prevalidateLossCommit (state : DumpState)
    (cumulativeDroppedFrames retentionLostFrames : ℕ) : Result PrevalidatedLossCommit :=
  if cumulativeDroppedFrames < state.acknowledgedDroppedFrames then
    .error (.controlInvariant "cumulative capture dropped frame counter regressed")
  else match checkedLossAdd state.pendingRetentionLostFrames retentionLostFrames
      "retention loss counter exhausted" with
    | .error e => .error e
    | .ok retentionLostFrames => .ok
        { acknowledgedDroppedFrames := state.acknowledgedDroppedFrames
          retentionLostFrames
          clearedFrames := state.pendingClearedFrames }

def PrevalidatedLossCommit.losses (commit : PrevalidatedLossCommit)
    (cumulativeDroppedFrames : ℕ) : LossBreakdown where
  retentionLostFrames := commit.retentionLostFrames
  clearedFrames := commit.clearedFrames
  captureDroppedFrames := cumulativeDroppedFrames - commit.acknowledgedDroppedFrames

/-- The state after `commit_losses`; the losses are `PrevalidatedLossCommit.losses`. -/
def DumpState.commitLosses (state : DumpState) (cumulativeDroppedFrames : ℕ) : DumpState :=
  { state with
    acknowledgedDroppedFrames := cumulativeDroppedFrames
    pendingRetentionLostFrames := 0
    pendingClearedFrames := 0 }

/-! ### What the workspace answers -/

inductive PublicationRecovery
  | complete
  | rolledBack
  | pending
  deriving DecidableEq, Repr

/-- What `workspace.prepare` makes of a frozen epoch; `ready` stands for the
two prepared publications. -/
inductive PreparedPersistence
  | silent
  | skippedSilent
  | skippedByPolicy
  | ready
  deriving DecidableEq, Repr

inductive PreparedPublication
  | published
  | retryableFailure (e : LambError)
  | indeterminate (operation : LambError)
  deriving DecidableEq, Repr

/-- How a range is disposed of. -/
inductive Disposal
  | written
  | skippedSilent
  | skippedByPolicy
  deriving DecidableEq, Repr

/-- A publication as the coordinator sees it. -/
inductive Publication
  | disposed (disposal : Disposal)
  | retryableFailure (e : LambError)
  | indeterminate (operation : LambError)
  deriving DecidableEq, Repr

def PreparedPersistence.publication (prepared : PreparedPersistence)
    (publisher : PreparedPublication) : Publication :=
  match prepared with
  | .silent => .disposed .skippedSilent
  | .skippedSilent => .disposed .skippedSilent
  | .skippedByPolicy => .disposed .skippedByPolicy
  | .ready =>
      match publisher with
      | .published => .disposed .written
      | .retryableFailure e => .retryableFailure e
      | .indeterminate operation => .indeterminate operation

def FrozenTransaction.written (transaction : FrozenTransaction) (losses : LossBreakdown) :
    DumpOutcome :=
  .written transaction.range (transaction.range.stop - transaction.range.start)
    transaction.exportRange.start
    (transaction.exportRange.stop - transaction.exportRange.start) losses

def FrozenTransaction.outcome (transaction : FrozenTransaction) (disposal : Disposal)
    (losses : LossBreakdown) : DumpOutcome :=
  match disposal with
  | .written => transaction.written losses
  | .skippedSilent =>
      .skippedSilent transaction.range (transaction.range.stop - transaction.range.start) losses
  | .skippedByPolicy =>
      .skippedByPolicy transaction.range (transaction.range.stop - transaction.range.start) losses

def FrozenTransaction.checkExportRange (transaction : FrozenTransaction) : Result Unit :=
  if transaction.exportRange.start < transaction.range.start ∨
      transaction.exportRange.stop ≠ transaction.range.stop ∨
      transaction.exportRange.start > transaction.exportRange.stop then
    .error (.exportInvariant "frozen export range is outside the consumed range")
  else .ok ()

def FrozenExportDecision.matchesFrozenEpoch (decision : FrozenExportDecision)
    (frozen : FrozenCaptureEpoch) : Bool :=
  decision.frozenEpoch = some frozen.identity

/-- The inputs of `workspace.prepare` for a policy request: what comes before
the decision (earlier cleanups, the geometry of the workspace), and after it
(the paths, the staging directory, the streamed files). -/
structure PolicyPrepare where
  before : Result Unit
  policy : ActivityPolicy
  detector : Detector
  after : Result PreparedPersistence

/-- What is left to prepare once the decision is made. -/
def PolicyPrepare.prepareDecided (input : PolicyPrepare) (decision : FrozenExportDecision) :
    Result PreparedPersistence :=
  if allNever decision.channels then .ok .skippedByPolicy
  else if decision.channels.any fun channel => channel.disposition == .retain then input.after
  else .ok .skippedSilent

/-- `workspace.prepare` for a policy request, with the decision it leaves. -/
def PolicyPrepare.prepare (input : PolicyPrepare) (frozen : FrozenCaptureEpoch)
    (decision : FrozenExportDecision) : Result PreparedPersistence × FrozenExportDecision :=
  match input.before with
  | .error e => (.error e, decision)
  | .ok () =>
      if decision.valid ∧ ¬decision.matchesFrozenEpoch frozen then
        (.error (.exportInvariant "frozen export decision does not match frozen epoch"), decision)
      else
        let classified := if decision.valid then .ok decision
          else classifyFrozenEpoch frozen input.policy input.detector decision
        match classified with
        | .error e => (.error e, decision)
        | .ok decision => (input.prepareDecided decision, decision)

abbrev DumpAttempt (α β : Type) := Attempt (DumpCoordinator α) LambError β

namespace DumpCoordinator

def onArena {β : Type} (call : Attempt (CaptureArena α) LambError β) : DumpAttempt α β :=
  Attempt.zoom DumpCoordinator.arena (fun arena dump => { dump with arena }) call

def modifyState (f : DumpState → DumpState) : DumpAttempt α Unit :=
  Attempt.modify fun dump => { dump with state := f dump.state }

def interlude (events : List (ArenaEvent α)) : DumpAttempt α Unit :=
  onArena (CaptureArena.interlude events)

/-- The ghost step of a publication, a recovery or a skip. -/
def settle (range : Range) : DumpAttempt α Unit :=
  Attempt.modify fun dump => { dump with settled := dump.settled ++ [range] }

/-! ### Reconciling what earlier calls left -/

def bindArena : DumpAttempt α Unit := do
  let dump ← Attempt.get
  match dump.state.boundRuntimeId with
  | some runtimeId =>
      Attempt.require (runtimeId = dump.arena.runtimeId)
        (.controlInvariant "dump coordinator belongs to a different capture runtime")
  | none => modifyState fun state => { state with boundRuntimeId := some dump.arena.runtimeId }

/-- The two releases `recover_pending_release` may have to make. -/
structure ReleaseCalls (α : Type) where
  pending : Call α
  completion : Call α

def releasePending (call : Call α) : DumpAttempt α Unit := do
  let dump ← Attempt.get
  match dump.state.pendingRelease with
  | none => pure ()
  | some frozen => do
      let (result, frozen) ← onArena (CaptureArena.releaseFrozen frozen call)
      match result with
      | .error e => do
          modifyState fun state => { state with pendingRelease := some frozen }
          Attempt.fail e
      | .ok () => modifyState fun state => { state with pendingRelease := none }

def releaseCompleted (call : Call α) : DumpAttempt α Unit := do
  let dump ← Attempt.get
  match dump.state.pendingCompletion with
  | some (.finalized resetDecision (some frozen)) => do
      let (result, frozen) ← onArena (CaptureArena.releaseFrozen frozen call)
      match result with
      | .error e => do
          modifyState fun state =>
            { state with pendingCompletion := some (.finalized resetDecision (some frozen)) }
          Attempt.fail e
      | .ok () =>
          modifyState fun state =>
            { state with pendingCompletion := some (.finalized resetDecision none) }
  | _ => pure ()

def recoverPendingRelease (calls : ReleaseCalls α) : DumpAttempt α Unit := do
  let dump ← Attempt.get
  Attempt.require (dump.state.pendingClear = none)
    (.controlInvariant "pending clear must be recovered before frozen release")
  releasePending calls.pending
  releaseCompleted calls.completion

def reconcileCompletionAuthorityWithoutRelease : DumpAttempt α Unit := do
  let dump ← Attempt.get
  match dump.state.pendingCompletion with
  | none =>
      Attempt.require (dump.state.completionInProgress = false)
        (.controlInvariant "completion marker has no authority slot")
  | some .delivering => Attempt.fail (.controlInvariant "completion delivery is active")
  | some (.finalized resetDecision failedRelease) => do
      Attempt.require (dump.state.completionInProgress = true)
        (.controlInvariant "completion authority has no active marker")
      Attempt.require (failedRelease = none)
        (.controlInvariant "completion frozen release remains pending")
      match dump.state.reusableDecision with
      | some primary => do
          Attempt.require (primary.compatibleResetWith resetDecision = true)
            (.controlInvariant "completion reset decisions are incompatible")
          modifyState fun state =>
            { state with pendingCompletion := none, completionInProgress := false }
      | none =>
          modifyState fun state =>
            { state with
              reusableDecision := some resetDecision
              pendingCompletion := none
              completionInProgress := false }

def reconcileCompletionAuthority (calls : ReleaseCalls α) : DumpAttempt α Unit := do
  let dump ← Attempt.get
  match dump.state.pendingCompletion, dump.state.completionInProgress with
  | some .delivering, _ => Attempt.fail (.controlInvariant "completion delivery is active")
  | some (.finalized _ _), false =>
      Attempt.fail (.controlInvariant "completion authority has no active marker")
  | none, true => Attempt.fail (.controlInvariant "completion marker has no authority slot")
  | _, _ => do
      recoverPendingRelease calls
      reconcileCompletionAuthorityWithoutRelease

/-! ### Clears -/

def validateClearReport (dump : DumpCoordinator α) (report : CaptureClearReport) : Result Unit :=
  match dump.state.pendingClear with
  | none =>
      .error (.controlInvariant "clear report has no pending coordinator transaction")
  | some pending =>
      if pending.arenaRuntimeId ≠ dump.arena.runtimeId ∨ pending.coordinatorId ≠ dump.id ∨
          report.arenaRuntimeId ≠ pending.arenaRuntimeId ∨
          report.coordinatorId ≠ pending.coordinatorId ∨ report.clearId ≠ pending.clearId ∨
          report.expectedActiveStart ≠ pending.accounting.expectedActiveStart ∨
          report.cumulativeDroppedFrames < pending.acknowledgedDroppedFrames then
        .error (.controlInvariant "clear report does not match pending coordinator transaction")
      else if pending.frozenEnd ≠ none ∧
          dump.state.frozen.map (fun transaction => transaction.range.stop) ≠
            pending.frozenEnd then
        .error (.controlInvariant "pending clear frozen capability changed before commit")
      else if pending.frozenEnd = none ∧ dump.state.frozen ≠ none then
        .error (.controlInvariant "pending clear unexpectedly acquired a frozen capability")
      else if pending.requestedStart > pending.accounting.expectedActiveStart ∨
          report.activeAbsoluteRange.start > report.activeAbsoluteRange.stop then
        .error (.controlInvariant "clear report boundary invariant failed")
      else .ok ()

def acceptClearReport (report : CaptureClearReport) : DumpAttempt α Unit := do
  let dump ← Attempt.get
  Attempt.ofExcept (validateClearReport dump report)
  modifyState fun state => state.commitClearReport report

/-- `recover_pending_clear`; true when a clear was recovered. -/
def recoverPendingClear (call : Call α) : DumpAttempt α Bool := do
  let dump ← Attempt.get
  match dump.state.pendingClear with
  | none => pure false
  | some pending => do
      Attempt.require (pending.arenaRuntimeId = dump.arena.runtimeId ∧
          pending.coordinatorId = dump.id)
        (.controlInvariant "pending clear belongs to a different arena or coordinator")
      let report ← onArena (CaptureArena.recoverClearResult
        { arenaRuntimeId := pending.arenaRuntimeId
          coordinatorId := pending.coordinatorId
          clearId := pending.clearId } call)
      match report with
      | none => do
          modifyState fun state => { state with pendingClear := none }
          Attempt.fail
            (.controlInvariant "pending clear completed without a recoverable report")
      | some report => do
          acceptClearReport report
          pure true

/-- The accounting of a new clear: of the frozen range, if there is one, and of
everything captured after it. -/
def clearAccounting (dump : DumpCoordinator α) (clearId : ℕ) : Result CaptureClearAccounting :=
  let accounting : CaptureClearAccounting :=
    { arenaRuntimeId := dump.arena.runtimeId
      coordinatorId := dump.id
      clearId
      expectedActiveStart := dump.state.committedUntil.getD 0
      pendingRetentionLostFrames := dump.state.pendingRetentionLostFrames
      pendingClearedFrames := dump.state.pendingClearedFrames }
  match dump.state.frozen with
  | none => .ok accounting
  | some transaction => do
      let pendingRetentionLostFrames ← checkedLossAdd accounting.pendingRetentionLostFrames
        transaction.retentionLostFrames "pending retention loss counter exhausted"
      let pendingClearedFrames ← checkedLossAdd accounting.pendingClearedFrames
        (transaction.range.stop - transaction.range.start)
        "pending cleared frame counter exhausted"
      .ok { accounting with
        pendingRetentionLostFrames
        pendingClearedFrames
        expectedActiveStart := transaction.range.stop }

/-- The clear `clear_in_order` asks for. -/
def nextClear (dump : DumpCoordinator α) : Result PendingClear := do
  let clearId ← checkedLossAdd dump.state.nextClearId 1 "clear transaction identity exhausted"
  let accounting ← dump.clearAccounting clearId
  .ok
    { arenaRuntimeId := dump.arena.runtimeId
      coordinatorId := dump.id
      clearId
      requestedStart := dump.state.committedUntil.getD 0
      accounting
      frozenEnd := dump.state.frozen.map fun transaction => transaction.range.stop
      acknowledgedDroppedFrames := dump.state.acknowledgedDroppedFrames }

structure ClearInput (α : Type) where
  recoverClear : Call α
  reconcile : ReleaseCalls α
  release : ReleaseCalls α
  clear : Call α
  releaseCleared : ReleaseCalls α

/-- An error of the clear command that leaves the clear pending. -/
def clearMayComplete (e : LambError) : Bool :=
  e = commandTimedOut ∨ e = clientTimedOut

def clearActive (accounting : CaptureClearAccounting) (call : Call α) :
    DumpAttempt α CaptureClearReport := do
  let result ← Attempt.capture (onArena (CaptureArena.clearActiveAccounted accounting call))
  match result with
  | .ok report => pure report
  | .error e => do
      if clearMayComplete e then pure ()
      else modifyState fun state => { state with pendingClear := none }
      Attempt.fail e

def submitClear (input : ClearInput α) : DumpAttempt α Unit := do
  let dump ← Attempt.get
  Attempt.require (dump.state.indeterminatePublication = none)
    (.indeterminatePublication
      (.exportInvariant "publication cleanup recovery is required before clear"))
  recoverPendingRelease input.release
  let dump ← Attempt.get
  let pending ← Attempt.ofExcept (nextClear dump)
  modifyState fun state =>
    { state with nextClearId := pending.clearId, pendingClear := some pending }
  let report ← clearActive pending.accounting input.clear
  acceptClearReport report
  let _ ← Attempt.capture (recoverPendingRelease input.releaseCleared)
  pure ()

def clearInOrder (input : ClearInput α) : DumpAttempt α Unit := do
  bindArena
  let recoveredClear ← recoverPendingClear input.recoverClear
  reconcileCompletionAuthority input.reconcile
  if recoveredClear then pure () else submitClear input

/-! ### Publications and completions -/

def cumulativeCaptureDroppedFrames (dump : DumpCoordinator α) : ℕ :=
  dump.arena.queue.cumulativeDroppedFrames

/-- `recover_indeterminate_publication`; true when the publication turned out
to be complete. -/
def recoverIndeterminatePublication (recovery : Result PublicationRecovery) :
    DumpAttempt α Bool := do
  let dump ← Attempt.get
  match dump.state.indeterminatePublication with
  | none => pure false
  | some publication =>
      match recovery with
      | .ok .complete => do
          modifyState fun state => { state with indeterminatePublication := none }
          settle publication.range
          pure true
      | .ok .rolledBack => do
          modifyState fun state => { state with indeterminatePublication := none }
          pure false
      | .ok .pending =>
          Attempt.fail (.indeterminatePublication
            (.controlInvariant "publication recovery remains pending"))
      | .error e => Attempt.fail (.indeterminatePublication e)

/-- The losses a recovered publication will commit, validated before the
recovery is tried. -/
def recoveryAccounting : DumpAttempt α (Option (ℕ × PrevalidatedLossCommit)) := do
  let dump ← Attempt.get
  match dump.state.indeterminatePublication with
  | none => pure none
  | some _ =>
      match dump.state.frozen with
      | none =>
          Attempt.fail
            (.controlInvariant "indeterminate publication has no frozen transaction")
      | some transaction => do
          let cumulative := dump.cumulativeCaptureDroppedFrames
          let commit ← Attempt.ofExcept
            (dump.state.prevalidateLossCommit cumulative transaction.retentionLostFrames)
          pure (some (cumulative, commit))

/-- `commit_losses` for an outcome that consumes no frames. -/
def commitNoNewAudio (cumulative : ℕ) (commit : PrevalidatedLossCommit) : DumpAttempt α Unit :=
  Attempt.modify fun dump =>
    { dump with
      state := dump.state.commitLosses cumulative
      outcomes := dump.outcomes ++ [.noNewAudio (commit.losses cumulative)] }

/-- `commit_losses` and the step of the cursor to the end of the range. -/
def commitRange (range : Range) (outcome : LossBreakdown → DumpOutcome) (cumulative : ℕ)
    (commit : PrevalidatedLossCommit) : DumpAttempt α Unit :=
  Attempt.modify fun dump =>
    { dump with
      state :=
        { dump.state.commitLosses cumulative with committedUntil := some range.stop }
      outcomes := dump.outcomes ++ [outcome (commit.losses cumulative)] }

def beginCompletion : DumpAttempt α Unit := do
  let dump ← Attempt.get
  Attempt.require (dump.state.completionInProgress = false ∧
      dump.state.pendingCompletion = none ∧ dump.state.pendingRelease = none)
    (.controlInvariant "completion authorities must reconcile before delivery")
  modifyState fun state =>
    { state with completionInProgress := true, pendingCompletion := some .delivering }

def cancelCompletion : DumpAttempt α Unit :=
  modifyState fun state =>
    if state.pendingCompletion = some .delivering then
      { state with pendingCompletion := none, completionInProgress := false }
    else state

def takeFrozen (lost : DumpAttempt α Unit) (message : String) :
    DumpAttempt α FrozenTransaction := do
  let dump ← Attempt.get
  match dump.state.frozen with
  | none => do
      lost
      Attempt.fail (.controlInvariant message)
  | some transaction => do
      modifyState fun state => { state with frozen := none }
      pure transaction

def releaseTransaction (transaction : FrozenTransaction) (call : Call α) :
    DumpAttempt α Unit := do
  let (result, frozen) ← onArena (CaptureArena.releaseFrozen transaction.frozen call)
  match result with
  | .error _ =>
      modifyState fun state =>
        { state with
          pendingCompletion := some (.finalized transaction.decision.reset (some frozen)) }
  | .ok () => do
      modifyState fun state =>
        { state with
          pendingCompletion := some (.finalized transaction.decision.reset none) }
      reconcileCompletionAuthorityWithoutRelease

def finalizeCompletedTransaction (transaction : Option FrozenTransaction) (call : Call α) :
    DumpAttempt α Unit := do
  let dump ← Attempt.get
  if dump.state.completionInProgress = true ∧
      dump.state.pendingCompletion = some .delivering then
    match transaction with
    | none => do
        cancelCompletion
        Attempt.fail (.controlInvariant "completion guard has no frozen transaction")
    | some transaction => releaseTransaction transaction call
  else do
    modifyState fun state =>
      { state with frozen := if state.frozen = none then transaction else state.frozen }
    Attempt.fail
      (.controlInvariant "completion authority slot is not reserved for delivery")

/-- Tries to recover an indeterminate publication: the accounting for it when
it turned out to be complete. -/
def recoverPublication (recovery : Result PublicationRecovery) :
    DumpAttempt α (Option (ℕ × PrevalidatedLossCommit)) := do
  let accounting ← recoveryAccounting
  let complete ← recoverIndeterminatePublication recovery
  pure (if complete then accounting else none)

/-! ### Persisting -/

/-- What both ways of persisting begin with. -/
structure ReconcileInput (α : Type) where
  recoverClear : Call α
  release : ReleaseCalls α
  recovery : Result PublicationRecovery

def reconcile (input : ReconcileInput α) :
    DumpAttempt α (Option (ℕ × PrevalidatedLossCommit)) := do
  bindArena
  let _ ← recoverPendingClear input.recoverClear
  reconcileCompletionAuthority input.release
  recoverPublication input.recovery

/-- The frozen transaction, frozen now if there is none; `none` when there is
no new audio. -/
def freezeTransaction (call : Call α) : DumpAttempt α (Option FrozenTransaction) := do
  let dump ← Attempt.get
  match dump.state.frozen with
  | some transaction => pure (some transaction)
  | none =>
      match dump.state.reusableDecision with
      | none =>
          Attempt.fail
            (.controlInvariant "persistence coordinator has no reusable frozen decision")
      | some decision => do
          let frozen ← onArena (CaptureArena.freezeSince dump.state.committedUntil call)
          match frozen with
          | none => pure none
          | some frozen => do
              let transaction : FrozenTransaction :=
                { frozen
                  retentionLostFrames :=
                    frozen.absoluteRange.start - dump.state.committedUntil.getD 0
                  decision }
              modifyState fun state =>
                { state with frozen := some transaction, reusableDecision := none }
              pure (some transaction)

def reportNoNewAudio : DumpAttempt α DumpOutcome := do
  let dump ← Attempt.get
  let cumulative := dump.cumulativeCaptureDroppedFrames
  let commit ← Attempt.ofExcept (dump.state.prevalidateLossCommit cumulative 0)
  commitNoNewAudio cumulative commit
  pure (.noNewAudio (commit.losses cumulative))

structure PersistInput (α : Type) where
  reconcile : ReconcileInput α
  freeze : Call α
  prepare : Result PreparedPersistence
  publisher : PreparedPublication
  during : List (ArenaEvent α)
  cleanup : Result Unit
  release : Call α

/-- Completes and releases the frozen transaction of a direct call. -/
def completeDirect (lost : String) (call : Call α) : DumpAttempt α Unit := do
  beginCompletion
  let transaction ← takeFrozen cancelCompletion lost
  finalizeCompletedTransaction (some transaction) call

def persistRecovered (cumulative : ℕ) (commit : PrevalidatedLossCommit) (call : Call α) :
    DumpAttempt α DumpOutcome := do
  let dump ← Attempt.get
  match dump.state.frozen with
  | none =>
      Attempt.fail
        (.controlInvariant "complete recovered publication has no frozen transaction")
  | some transaction => do
      commitRange transaction.range transaction.written cumulative commit
      completeDirect "recovered completion lost its frozen transaction" call
      pure (transaction.written (commit.losses cumulative))

def indeterminate (transaction : FrozenTransaction) (operation : LambError) {β : Type} :
    DumpAttempt α β := do
  modifyState fun state =>
    { state with indeterminatePublication := some ⟨transaction.range⟩ }
  Attempt.fail (.indeterminatePublication operation)

/-- Publishes a prepared transaction, or finds out that it is skipped. -/
def publishDirect (transaction : FrozenTransaction) (input : PersistInput α) :
    DumpAttempt α Disposal := do
  if transaction.decision.valid ∧ allNever transaction.decision.channels then
    pure .skippedByPolicy
  else do
    let prepared ← Attempt.ofExcept input.prepare
    Attempt.ofExcept
      (if transaction.decision.valid then transaction.checkExportRange else .ok ())
    match prepared.publication input.publisher with
    | .disposed disposal => pure disposal
    | .retryableFailure e => Attempt.fail e
    | .indeterminate operation => indeterminate transaction operation

def persistTransaction (transaction : FrozenTransaction) (input : PersistInput α) :
    DumpAttempt α DumpOutcome := do
  Attempt.ofExcept transaction.checkExportRange
  let dump ← Attempt.get
  let commit ← Attempt.ofExcept (dump.state.prevalidateLossCommit
    dump.cumulativeCaptureDroppedFrames transaction.retentionLostFrames)
  let disposal ← publishDirect transaction input
  settle transaction.range
  interlude input.during
  let dump ← Attempt.get
  let cumulative := dump.cumulativeCaptureDroppedFrames
  commitRange transaction.range (transaction.outcome disposal) cumulative commit
  completeDirect "committed completion lost its frozen transaction" input.release
  Attempt.ofExcept input.cleanup
  pure (transaction.outcome disposal (commit.losses cumulative))

/-- `persist`, which makes no decision of its own about the frozen epoch. -/
def persist (input : PersistInput α) : DumpAttempt α DumpOutcome := do
  let recovered ← reconcile input.reconcile
  match recovered with
  | some (cumulative, commit) => persistRecovered cumulative commit input.release
  | none => do
      let transaction ← freezeTransaction input.freeze
      match transaction with
      | none => reportNoNewAudio
      | some transaction => persistTransaction transaction input

/-! ### Persisting by policy -/

structure PolicyInput (α : Type) where
  finishCompleted : Result Unit
  reconcile : ReconcileInput α
  freeze : Call α
  prepare : PolicyPrepare
  publisher : PreparedPublication
  during : List (ArenaEvent α)
  deliverNoNewAudio : Result Unit

/-- Hands the frozen transaction to a completion guard. A lost transaction
takes back the marker only, not the authority slot. -/
def completeGuarded (lost : String) : DumpAttempt α Unit := do
  beginCompletion
  let transaction ← takeFrozen
    (modifyState fun state => { state with completionInProgress := false }) lost
  Attempt.modify fun dump => { dump with guard := some transaction }

def persistPolicyRecovered (cumulative : ℕ) (commit : PrevalidatedLossCommit) :
    DumpAttempt α Unit := do
  let dump ← Attempt.get
  match dump.state.frozen with
  | none =>
      Attempt.fail
        (.controlInvariant "complete recovered publication has no frozen transaction")
  | some transaction => do
      commitRange transaction.range transaction.written cumulative commit
      completeGuarded "recovered completion lost its frozen transaction"

def preparePolicy (transaction : FrozenTransaction) (input : PolicyPrepare) :
    DumpAttempt α (PreparedPersistence × FrozenTransaction) := do
  let (prepared, decision) := input.prepare transaction.frozen transaction.decision
  let transaction := { transaction with decision }
  modifyState fun state => { state with frozen := some transaction }
  let prepared ← Attempt.ofExcept prepared
  pure (prepared, transaction)

def settleDisposed (range : Range) (publication : Publication) : DumpAttempt α Unit :=
  match publication with
  | .disposed _ => settle range
  | _ => pure ()

/-- The checks between a publication and its commit. -/
def commitPolicy (transaction : FrozenTransaction) (disposal : Disposal)
    (during : List (ArenaEvent α)) : DumpAttempt α Unit := do
  interlude during
  let dump ← Attempt.get
  let cumulative := dump.cumulativeCaptureDroppedFrames
  let commit ← Attempt.ofExcept
    (dump.state.prevalidateLossCommit cumulative transaction.retentionLostFrames)
  commitRange transaction.range (transaction.outcome disposal) cumulative commit
  completeGuarded "committed completion lost its frozen transaction"

def persistPolicyTransaction (transaction : FrozenTransaction) (input : PolicyInput α) :
    DumpAttempt α Unit := do
  let (prepared, transaction) ← preparePolicy transaction input.prepare
  let publication := prepared.publication input.publisher
  settleDisposed transaction.range publication
  Attempt.ofExcept transaction.checkExportRange
  match publication with
  | .disposed disposal => commitPolicy transaction disposal input.during
  | .retryableFailure e => Attempt.fail e
  | .indeterminate operation => indeterminate transaction operation

/-- `persist_policy_with_delivery` up to the delivery. -/
def persistPolicy (input : PolicyInput α) : DumpAttempt α Unit := do
  Attempt.ofExcept input.finishCompleted
  let recovered ← reconcile input.reconcile
  match recovered with
  | some (cumulative, commit) => persistPolicyRecovered cumulative commit
  | none => do
      let transaction ← freezeTransaction input.freeze
      match transaction with
      | none => do
          let _ ← reportNoNewAudio
          Attempt.ofExcept input.deliverNoNewAudio
      | some transaction => persistPolicyTransaction transaction input

structure DeliveryInput (α : Type) where
  delivery : Result Unit
  cleanup : Result Unit
  release : Call α

def deliveryResult (delivery cleanup : Result Unit) : Result Unit :=
  match delivery, cleanup with
  | .ok (), cleanup => cleanup
  | .error operation, .ok () => .error operation
  | .error operation, .error cleanup => .error (.persistenceCleanup operation cleanup)

/-- The delivery of a guarded completion and everything after it. -/
def finishDelivery (input : DeliveryInput α) : DumpAttempt α Unit := do
  let dump ← Attempt.get
  match dump.guard with
  | none => pure ()
  | some transaction => do
      Attempt.modify fun dump => { dump with guard := none }
      let _ ← Attempt.capture (finalizeCompletedTransaction (some transaction) input.release)
      Attempt.ofExcept (deliveryResult input.delivery input.cleanup)

end DumpCoordinator

/-! ### Runs -/

/-- A step of a run: another thread of the arena, a call of the coordinator,
or the end of a delivery. -/
inductive Operation (α : Type)
  | arena (event : ArenaEvent α)
  | persist (input : DumpCoordinator.PersistInput α)
  | persistPolicy (input : DumpCoordinator.PolicyInput α)
  | finishDelivery (input : DumpCoordinator.DeliveryInput α)
  | clearInOrder (input : DumpCoordinator.ClearInput α)

def DumpCoordinator.step (dump : DumpCoordinator α) : Operation α → DumpCoordinator α
  | .arena event => { dump with arena := dump.arena.event event }
  | .persist input => (DumpCoordinator.persist input dump).2
  | .persistPolicy input => (DumpCoordinator.persistPolicy input dump).2
  | .finishDelivery input => (DumpCoordinator.finishDelivery input dump).2
  | .clearInOrder input => (DumpCoordinator.clearInOrder input dump).2

def DumpCoordinator.run (dump : DumpCoordinator α) (operations : List (Operation α)) :
    DumpCoordinator α :=
  operations.foldl DumpCoordinator.step dump

end Lamb.Dump
