import Lamb.Arena.Custody
import Lamb.Dump.Coordinator

/-!
The books of the coordinator. The cursor stands at the sum of everything that
outcomes have consumed or reported as lost and of what is still to be
reported. The invariant says so between any two steps, and says what each of
the things a call may leave behind stands for.
-/

namespace Lamb.Dump

open Lamb.Ring Lamb.Lib Lamb.Arena

variable {α : Type}

def DumpOutcome.consumed (outcome : DumpOutcome) : ℕ :=
  (outcome.range.map fun range => range.stop - range.start).getD 0

def DumpOutcome.lost (outcome : DumpOutcome) : ℕ :=
  outcome.losses.retentionLostFrames + outcome.losses.clearedFrames

def consumedFrames (outcomes : List DumpOutcome) : ℕ :=
  (outcomes.map DumpOutcome.consumed).sum

def lostFrames (outcomes : List DumpOutcome) : ℕ :=
  (outcomes.map DumpOutcome.lost).sum

def committedRanges (outcomes : List DumpOutcome) : List Range :=
  outcomes.filterMap DumpOutcome.range

@[simp] theorem consumedFrames_concat (outcomes : List DumpOutcome) (outcome : DumpOutcome) :
    consumedFrames (outcomes ++ [outcome]) = consumedFrames outcomes + outcome.consumed := by
  simp [consumedFrames]

@[simp] theorem lostFrames_concat (outcomes : List DumpOutcome) (outcome : DumpOutcome) :
    lostFrames (outcomes ++ [outcome]) = lostFrames outcomes + outcome.lost := by
  simp [lostFrames]

@[simp] theorem committedRanges_concat (outcomes : List DumpOutcome) (outcome : DumpOutcome) :
    committedRanges (outcomes ++ [outcome]) = committedRanges outcomes ++ outcome.range.toList := by
  unfold committedRanges
  rw [List.filterMap_append]
  cases hrange : outcome.range with
  | none => simp [hrange]
  | some range => simp [hrange]

@[simp] theorem FrozenTransaction.outcome_range (transaction : FrozenTransaction)
    (disposal : Disposal) (losses : LossBreakdown) :
    (transaction.outcome disposal losses).range = some transaction.range := by
  cases disposal with
  | written => rfl
  | skippedSilent => rfl
  | skippedByPolicy => rfl

@[simp] theorem FrozenTransaction.outcome_losses (transaction : FrozenTransaction)
    (disposal : Disposal) (losses : LossBreakdown) :
    (transaction.outcome disposal losses).losses = losses := by
  cases disposal with
  | written => rfl
  | skippedSilent => rfl
  | skippedByPolicy => rfl

/-! ### The invariant -/

def DumpState.cursor (state : DumpState) : ℕ := state.committedUntil.getD 0

/-- What the coordinator may have on its way through the command slot. -/
def DumpState.custody (state : DumpState) : Custody where
  committed := state.committedUntil
  awaitsFreeze := state.frozen = none
  owned accounting := accounting.clearId ≤ state.nextClearId ∧
    ∀ pending, state.pendingClear = some pending →
      pending.clearId = accounting.clearId → pending.accounting = accounting

/-- A frozen transaction continues the cursor; what the ring no longer had is
its retention loss. -/
structure FrozenTransaction.Follows (transaction : FrozenTransaction) (cursor head : ℕ) :
    Prop where
  start : transaction.range.start = cursor + transaction.retentionLostFrames
  nonempty : transaction.range.start < transaction.range.stop
  head : transaction.range.stop ≤ head
  decision : transaction.decision.Fits transaction.range

/-- A pending clear accounts for everything from the cursor to the start it
expects. -/
structure PendingClear.Accounts (pending : PendingClear) (state : DumpState) : Prop where
  clearId : pending.accounting.clearId = pending.clearId
  issued : pending.clearId ≤ state.nextClearId
  frozenEnd : pending.frozenEnd =
    state.frozen.map fun transaction => transaction.range.stop
  expected : pending.accounting.expectedActiveStart =
    (state.frozen.map fun transaction => transaction.range.stop).getD state.cursor
  sums : pending.accounting.pendingRetentionLostFrames +
      pending.accounting.pendingClearedFrames + state.cursor =
    state.pendingRetentionLostFrames + state.pendingClearedFrames +
      pending.accounting.expectedActiveStart

/-- The invariant of the coordinator; `unbooked` are the ranges that a call has
settled and not committed yet. -/
structure DumpCoordinator.Inv (dump : DumpCoordinator α) (unbooked : List Range) : Prop where
  arena : dump.arena.Carries dump.state.custody
  balance : dump.state.cursor = consumedFrames dump.outcomes + lostFrames dump.outcomes +
    dump.state.pendingRetentionLostFrames + dump.state.pendingClearedFrames
  settled : dump.settled = committedRanges dump.outcomes ++ unbooked
  ordered : (committedRanges dump.outcomes).Pairwise fun range later => range.stop ≤ later.start
  ranges : ∀ range ∈ committedRanges dump.outcomes,
    range.start < range.stop ∧ range.stop ≤ dump.state.cursor
  head : dump.state.cursor ≤ dump.arena.worker.absoluteHead
  acknowledged : dump.state.acknowledgedDroppedFrames ≤ dump.cumulativeCaptureDroppedFrames
  frozen : ∀ transaction, dump.state.frozen = some transaction →
    transaction.Follows dump.state.cursor dump.arena.worker.absoluteHead
  pendingClear : ∀ pending, dump.state.pendingClear = some pending → pending.Accounts dump.state
  publication : ∀ publication, dump.state.indeterminatePublication = some publication →
    dump.state.pendingClear = none ∧
      ∃ transaction, dump.state.frozen = some transaction ∧ transaction.range = publication.range
  guard : dump.guard ≠ none → dump.state.completionInProgress = true ∧
    dump.state.pendingCompletion = some .delivering ∧ dump.state.frozen = none ∧
    dump.state.pendingClear = none
  reusable : ∀ decision, dump.state.reusableDecision = some decision → decision.valid = false
  reset : ∀ decision failedRelease,
    dump.state.pendingCompletion = some (.finalized decision failedRelease) →
    decision.valid = false

/-- A call that moves nothing: neither the cursor nor a frozen range nor the
losses still to be reported. -/
structure DumpCoordinator.Kept (dump dump' : DumpCoordinator α) : Prop where
  committedUntil : dump'.state.committedUntil = dump.state.committedUntil
  retentionLost : dump'.state.pendingRetentionLostFrames = dump.state.pendingRetentionLostFrames
  cleared : dump'.state.pendingClearedFrames = dump.state.pendingClearedFrames
  acknowledged : dump'.state.acknowledgedDroppedFrames = dump.state.acknowledgedDroppedFrames
  outcomes : dump'.outcomes = dump.outcomes
  settled : dump'.settled = dump.settled
  pendingClear : dump'.state.pendingClear = dump.state.pendingClear
  frozen : ∀ transaction, dump.state.frozen = some transaction →
    ∃ decision, dump'.state.frozen = some { transaction with decision }

theorem DumpCoordinator.Kept.refl (dump : DumpCoordinator α) : dump.Kept dump :=
  ⟨rfl, rfl, rfl, rfl, rfl, rfl, rfl, fun transaction h => ⟨transaction.decision, h⟩⟩

theorem DumpCoordinator.Kept.trans {dump dump' dump'' : DumpCoordinator α}
    (h : dump.Kept dump') (h' : dump'.Kept dump'') : dump.Kept dump'' where
  committedUntil := h'.committedUntil.trans h.committedUntil
  retentionLost := h'.retentionLost.trans h.retentionLost
  cleared := h'.cleared.trans h.cleared
  acknowledged := h'.acknowledged.trans h.acknowledged
  outcomes := h'.outcomes.trans h.outcomes
  settled := h'.settled.trans h.settled
  pendingClear := h'.pendingClear.trans h.pendingClear
  frozen transaction hfrozen := by
    obtain ⟨decision, hfrozen'⟩ := h.frozen transaction hfrozen
    obtain ⟨decision', hfrozen''⟩ := h'.frozen _ hfrozen'
    exact ⟨decision', hfrozen''⟩

theorem DumpCoordinator.Kept.cursor {dump dump' : DumpCoordinator α} (h : dump.Kept dump') :
    dump'.state.cursor = dump.state.cursor := by
  unfold DumpState.cursor
  rw [h.committedUntil]

/-! ### Transfer -/

namespace DumpCoordinator

variable {dump : DumpCoordinator α} {unbooked : List Range}

/-- The coordinator goes on with what an arena call left. -/
theorem Inv.onArena (h : dump.Inv unbooked) {arena : CaptureArena α}
    (hlater : dump.arena.Later arena) (hcarries : arena.Carries dump.state.custody) :
    Inv { dump with arena } unbooked :=
  { h with
    arena := hcarries
    head := h.head.trans hlater.worker.head
    acknowledged := h.acknowledged.trans hlater.queue
    frozen := fun transaction hfrozen =>
      { h.frozen transaction hfrozen with
        head := (h.frozen transaction hfrozen).head.trans hlater.worker.head } }

theorem Kept.onArena (dump : DumpCoordinator α) (arena : CaptureArena α) :
    dump.Kept { dump with arena } :=
  ⟨rfl, rfl, rfl, rfl, rfl, rfl, rfl, (Kept.refl dump).frozen⟩

end DumpCoordinator

/-- Two states that differ in their authorities only: the runtime they are
bound to, the spare decision, and what is to be released or completed. -/
structure DumpState.SameBooks (state state' : DumpState) : Prop where
  committedUntil : state'.committedUntil = state.committedUntil
  frozen : state'.frozen = state.frozen
  pendingClear : state'.pendingClear = state.pendingClear
  publication : state'.indeterminatePublication = state.indeterminatePublication
  acknowledged : state'.acknowledgedDroppedFrames = state.acknowledgedDroppedFrames
  retentionLost : state'.pendingRetentionLostFrames = state.pendingRetentionLostFrames
  cleared : state'.pendingClearedFrames = state.pendingClearedFrames
  nextClearId : state'.nextClearId = state.nextClearId

theorem DumpState.SameBooks.cursor {state state' : DumpState} (h : state.SameBooks state') :
    state'.cursor = state.cursor := by
  unfold DumpState.cursor
  rw [h.committedUntil]

theorem DumpState.SameBooks.custody {state state' : DumpState} (h : state.SameBooks state') :
    state'.custody = state.custody := by
  unfold DumpState.custody
  rw [h.committedUntil, h.frozen, h.pendingClear, h.nextClearId]

namespace DumpCoordinator

variable {dump : DumpCoordinator α} {unbooked : List Range} {state : DumpState}

theorem Inv.authority (h : dump.Inv unbooked) (hsame : dump.state.SameBooks state)
    (hguard : dump.guard ≠ none →
      state.completionInProgress = true ∧ state.pendingCompletion = some .delivering)
    (hreusable : ∀ decision, state.reusableDecision = some decision → decision.valid = false)
    (hreset : ∀ decision failedRelease,
      state.pendingCompletion = some (.finalized decision failedRelease) →
      decision.valid = false) : Inv { dump with state } unbooked where
  arena := by
    rw [hsame.custody]
    exact h.arena
  balance := by
    rw [hsame.cursor, hsame.retentionLost, hsame.cleared]
    exact h.balance
  settled := h.settled
  ordered := h.ordered
  ranges := by
    rw [hsame.cursor]
    exact h.ranges
  head := by
    rw [hsame.cursor]
    exact h.head
  acknowledged := by
    rw [hsame.acknowledged]
    exact h.acknowledged
  frozen := by
    rw [hsame.frozen, hsame.cursor]
    exact h.frozen
  pendingClear := by
    rw [hsame.pendingClear]
    intro pending hpending
    obtain ⟨hid, hissued, hend, hexpected, hsums⟩ := h.pendingClear pending hpending
    refine ⟨hid, ?_, ?_, ?_, ?_⟩
    · rw [hsame.nextClearId]
      exact hissued
    · rw [hsame.frozen]
      exact hend
    · rw [hsame.frozen, hsame.cursor]
      exact hexpected
    · rw [hsame.retentionLost, hsame.cleared, hsame.cursor]
      exact hsums
  publication := by
    rw [hsame.publication, hsame.pendingClear, hsame.frozen]
    exact h.publication
  guard hsome := by
    rw [hsame.pendingClear, hsame.frozen]
    exact ⟨(hguard hsome).1, (hguard hsome).2, (h.guard hsome).2.2⟩
  reusable := hreusable
  reset := hreset

end DumpCoordinator

namespace DumpCoordinator

variable {dump dump' dump'' : DumpCoordinator α}

/-! ### Decisions -/

/-- The decision of the frozen transaction is open or was made for its epoch. -/
def Bound (dump : DumpCoordinator α) : Prop :=
  ∀ transaction, dump.state.frozen = some transaction → transaction.decision.valid = true →
    transaction.decision.frozenEpoch = some transaction.frozen.identity

/-- The transaction is still frozen, or lies before the cursor. -/
def Holds (dump : DumpCoordinator α) (transaction : FrozenTransaction) : Prop :=
  transaction.range.stop ≤ dump.state.cursor ∨ dump.state.frozen = some transaction

/-- A step after which every decided transaction is still held. -/
structure Steady (dump dump' : DumpCoordinator α) : Prop where
  bound : dump.Bound → dump'.Bound
  holds : ∀ transaction, transaction.decision.valid = true → dump.Holds transaction →
    dump'.Holds transaction

theorem Steady.refl (dump : DumpCoordinator α) : dump.Steady dump :=
  ⟨fun hbound => hbound, fun _ _ hholds => hholds⟩

theorem Steady.trans (h : dump.Steady dump') (h' : dump'.Steady dump'') : dump.Steady dump'' :=
  ⟨fun hbound => h'.bound (h.bound hbound),
    fun transaction hvalid hholds => h'.holds transaction hvalid (h.holds transaction hvalid hholds)⟩

theorem Steady.of_frozen (hfrozen : dump'.state.frozen = dump.state.frozen)
    (hcursor : dump.state.cursor ≤ dump'.state.cursor) : dump.Steady dump' where
  bound hbound transaction hsome := hbound transaction (hfrozen ▸ hsome)
  holds _ _ hholds :=
    hholds.imp (fun hbehind => hbehind.trans hcursor) fun hsome => hfrozen.trans hsome

/-- The frozen transaction is behind the cursor now. -/
theorem Steady.of_passed (hnone : dump'.state.frozen = none)
    (hcursor : dump.state.cursor ≤ dump'.state.cursor)
    (hpassed : ∀ transaction, dump.state.frozen = some transaction →
      transaction.range.stop ≤ dump'.state.cursor) : dump.Steady dump' where
  bound _ transaction hsome := by
    rw [hnone] at hsome
    cases hsome
  holds transaction _ hholds := by
    rcases hholds with hbehind | hsome
    · exact .inl (hbehind.trans hcursor)
    · exact .inl (hpassed transaction hsome)

end DumpCoordinator

end Lamb.Dump
