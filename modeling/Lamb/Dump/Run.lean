import Lamb.Dump.Publish

/-!
Whole runs of a coordinator. Any number of calls, in any order, with any
answer of the workspace, the publisher and the arena to each of them, keeps
the books.
-/

namespace Lamb.Dump

open Lamb.Ring Lamb.Lib Lamb.Arena

variable {α : Type} {dump : DumpCoordinator α}

/-! ### Steps and runs -/

namespace DumpCoordinator

theorem Inv.withFrozenDecision {runtimeId : ℕ} {cfg : ArenaConfig} {zero : α}
    {arena : CaptureArena α} (hnew : CaptureArena.new runtimeId cfg zero = .ok arena)
    (id channels sampleRate : ℕ) :
    (withFrozenDecision id arena (.new channels sampleRate)).Inv [] where
  arena := (CaptureArena.Quiet.new hnew).carries _
  balance := rfl
  settled := rfl
  ordered := .nil
  ranges := by rintro _ ⟨⟩
  head := Nat.zero_le _
  acknowledged := Nat.zero_le _
  frozen := by rintro _ ⟨⟩
  pendingClear := by rintro _ ⟨⟩
  publication := by rintro _ ⟨⟩
  guard := absurd rfl
  reusable := by
    rintro _ ⟨⟩
    rfl
  reset := by rintro _ _ ⟨⟩

theorem Inv.step (h : dump.Inv []) (operation : Operation α) :
    dump.Advances (dump.step operation) := by
  cases operation with
  | arena event =>
      obtain ⟨hcarries, hlater⟩ := h.arena.event event
      exact ⟨h.onArena hlater hcarries, le_rfl, .of_frozen rfl le_rfl⟩
  | persist input => exact (h.persist input).reached.advances
  | persistPolicy input => exact (h.persistPolicy input).reached.advances
  | finishDelivery input => exact (h.finishDelivery input).reached.1
  | clearInOrder input => exact (h.clearInOrder input).reached

theorem Inv.run (h : dump.Inv []) (operations : List (Operation α)) :
    dump.Advances (dump.run operations) := by
  induction operations generalizing dump with
  | nil => exact .refl h
  | cons operation operations ih =>
      have hstep := h.step operation
      exact hstep.trans (ih hstep.inv)

end DumpCoordinator

/-! ### Accounting -/

/-- Every frame up to the cursor is in exactly one committed range, or is
counted once as lost or cleared: by an outcome, or still to be reported. -/
theorem dump_accounting {runtimeId : ℕ} {cfg : ArenaConfig} {zero : α} {arena : CaptureArena α}
    (hnew : CaptureArena.new runtimeId cfg zero = .ok arena) (id channels sampleRate : ℕ)
    (operations : List (Operation α)) :
    let dump := (DumpCoordinator.withFrozenDecision id arena (.new channels sampleRate)).run
      operations
    (committedRanges dump.outcomes).Pairwise (fun range later => range.stop ≤ later.start) ∧
    (∀ range ∈ committedRanges dump.outcomes,
      range.start < range.stop ∧ range.stop ≤ dump.state.committedUntil.getD 0) ∧
    (∀ operation, dump.state.committedUntil.getD 0 ≤
      (dump.step operation).state.committedUntil.getD 0) ∧
    dump.state.committedUntil.getD 0 =
      consumedFrames dump.outcomes + lostFrames dump.outcomes +
        dump.state.pendingRetentionLostFrames + dump.state.pendingClearedFrames := by
  intro dump
  have hstart := DumpCoordinator.Inv.withFrozenDecision hnew id channels sampleRate
  have hinv : dump.Inv [] := (hstart.run operations).inv
  refine ⟨hinv.ordered, hinv.ranges, fun operation => ?_, hinv.balance⟩
  exact (hinv.step operation).cursor

def smallArena : ArenaConfig where
  ring :=
    { channels := 1
      sampleRate := 1
      format := .f32Le
      chunkFrames := 2
      chunkCount := 2
      maxActiveSnapshots := 1 }
  slotFrames := 2
  slotFrames_le := by decide

/-- A call that finds the slot free and is answered at once. -/
def answered : Call ℕ where
  before := []
  lock := .locked
  stale := ⟨[], false⟩
  reply := ⟨[.execute], false⟩

def clearAnswered : DumpCoordinator.ClearInput ℕ where
  recoverClear := answered
  reconcile := ⟨answered, answered⟩
  release := ⟨answered, answered⟩
  clear := answered
  releaseCleared := ⟨answered, answered⟩

def persistAnswered (publisher : PreparedPublication) (recovery : Result PublicationRecovery) :
    DumpCoordinator.PersistInput ℕ where
  reconcile := ⟨answered, ⟨answered, answered⟩, recovery⟩
  freeze := answered
  prepare := .ok .ready
  publisher := publisher
  during := []
  cleanup := .ok ()
  release := answered

/-- Two frames, the second published in an attempt whose end was not known and
that a later attempt found to be complete. -/
def recoveredRun : List (Operation ℕ) :=
  [.arena (.consume 0 [7]), .persist (persistAnswered .published (.ok .pending)),
    .arena (.consume 0 [8]),
    .persist (persistAnswered (.indeterminate (.export "sync failed")) (.ok .pending)),
    .persist (persistAnswered .published (.ok .complete))]

theorem dump_accounting_recovered : ∃ arena, CaptureArena.new 1 smallArena 0 = .ok arena ∧
    let dump := (DumpCoordinator.withFrozenDecision 1 arena (.new 1 1)).run recoveredRun
    dump.state.committedUntil = some 2 ∧
    dump.state.committedUntil.getD 0 =
      consumedFrames dump.outcomes + lostFrames dump.outcomes +
        dump.state.pendingRetentionLostFrames + dump.state.pendingClearedFrames :=
  ⟨_, rfl, by decide, (@dump_accounting ℕ 1 smallArena 0 _ rfl 1 1 1 recoveredRun).2.2.2⟩

/-- Counting the losses of outcomes with a range only, the books do not close:
a clear with no audio after it is reported by an outcome without one. -/
theorem dump_accounting_of_ranges_fails : ∃ arena, CaptureArena.new 1 smallArena 0 = .ok arena ∧
    let dump := (DumpCoordinator.withFrozenDecision 1 arena (.new 1 1)).run
      [.arena (.consume 0 [7]), .clearInOrder clearAnswered,
        .persist (persistAnswered .published (.ok .pending))]
    dump.state.committedUntil.getD 0 ≠
      consumedFrames dump.outcomes +
        lostFrames (dump.outcomes.filter fun outcome => outcome.range.isSome) +
        dump.state.pendingRetentionLostFrames + dump.state.pendingClearedFrames :=
  ⟨_, rfl, by decide⟩

/-! ### Commits and publications -/

/-- A step of a run of persist attempts. -/
def Operation.isAttempt : Operation α → Bool
  | .clearInOrder _ => false
  | _ => true

theorem DumpCoordinator.Inv.attempted (h : dump.Inv []) {operation : Operation α}
    (hattempt : operation.isAttempt = true) (hclear : dump.state.pendingClear = none) :
    dump.Attempted (dump.step operation) := by
  cases operation with
  | arena event => exact .inl (.onArena _ _)
  | persist input => exact (h.persist input).reached.attempted hclear
  | persistPolicy input => exact (h.persistPolicy input).reached.attempted hclear
  | finishDelivery input => exact .inl (h.finishDelivery input).reached.2
  | clearInOrder input => cases hattempt

theorem DumpCoordinator.Attempted.pendingClear {dump' : DumpCoordinator α}
    (h : dump.Attempted dump') : dump'.state.pendingClear = dump.state.pendingClear := by
  rcases h with hkept | ⟨range, hcommits⟩ | hreports
  · exact hkept.pendingClear
  · exact hcommits.pendingClear
  · exact hreports.pendingClear

/-- Without clears there is never a clear to recover. -/
theorem DumpCoordinator.Inv.run_attempts (h : dump.Inv [])
    (hclear : dump.state.pendingClear = none) {operations : List (Operation α)}
    (hattempts : ∀ operation ∈ operations, operation.isAttempt = true) :
    (dump.run operations).state.pendingClear = none := by
  induction operations generalizing dump with
  | nil => exact hclear
  | cons operation operations ih =>
      have hattempted := h.attempted (hattempts operation (by simp)) hclear
      refine ih (h.step operation).inv (hattempted.pendingClear.trans hclear) ?_
      intro later hlater
      exact hattempts later (by simp [hlater])

/-- The cursor moves to the end of a range exactly when the range has been
published, recovered as complete, or skipped. -/
theorem DumpCoordinator.Attempted.settled_iff {dump' : DumpCoordinator α}
    (h : dump.Attempted dump') (range : Range) :
    dump'.settled = dump.settled ++ [range] ↔ dump.Commits dump' range := by
  constructor
  · intro hsettled
    rcases h with hkept | ⟨range', hcommits⟩ | hreports
    · rw [hkept.settled] at hsettled
      simp at hsettled
    · rw [hcommits.settled] at hsettled
      obtain rfl : range' = range := by simpa using hsettled
      exact hcommits
    · rw [hreports.settled] at hsettled
      simp at hsettled
  · exact fun hcommits => hcommits.settled

theorem DumpCoordinator.Attempted.moved_iff {dump' : DumpCoordinator α}
    (h : dump.Attempted dump') :
    dump'.state.committedUntil ≠ dump.state.committedUntil ↔
      ∃ range, dump'.settled = dump.settled ++ [range] := by
  constructor
  · intro hmoved
    rcases h with hkept | ⟨range, hcommits⟩ | hreports
    · exact absurd hkept.committedUntil hmoved
    · exact ⟨range, hcommits.settled⟩
    · exact absurd hreports.committedUntil hmoved
  · rintro ⟨range, hsettled⟩ hsame
    have hcommits := (h.settled_iff range).mp hsettled
    have hcursor := hcommits.cursor
    unfold DumpState.cursor at hcursor
    rw [← hsame, hcommits.committedUntil] at hcursor
    exact absurd hcursor (Nat.lt_irrefl _)

/-- In every reachable state the ranges that were published, recovered as
complete or skipped are the committed ones. An attempt that settles a range
commits it, and it is the frozen range if there was one; any other attempt
keeps the cursor, the frozen range and the losses to be reported, or reports
the losses when there is nothing to freeze. -/
theorem commit_agrees_with_publication {runtimeId : ℕ} {cfg : ArenaConfig} {zero : α}
    {arena : CaptureArena α} (hnew : CaptureArena.new runtimeId cfg zero = .ok arena)
    (id channels sampleRate : ℕ) (operations : List (Operation α)) :
    let dump := (DumpCoordinator.withFrozenDecision id arena (.new channels sampleRate)).run
      operations
    dump.settled = committedRanges dump.outcomes ∧
    ((∀ operation ∈ operations, operation.isAttempt = true) → dump.state.pendingClear = none) ∧
    ∀ operation : Operation α, operation.isAttempt = true → dump.state.pendingClear = none →
      let after := dump.step operation
      (after.state.committedUntil ≠ dump.state.committedUntil ↔
        ∃ range, after.settled = dump.settled ++ [range]) ∧
      (∀ range, after.settled = dump.settled ++ [range] ↔ dump.Commits after range) ∧
      (after.settled = dump.settled → dump.Kept after ∨ dump.Reports after) := by
  intro dump
  have hstart := DumpCoordinator.Inv.withFrozenDecision hnew id channels sampleRate
  have hinv : dump.Inv [] := (hstart.run operations).inv
  refine ⟨?_, hstart.run_attempts rfl, ?_⟩
  · rw [hinv.settled, List.append_nil]
  · intro operation hattempt hclear after
    have hattempted := hinv.attempted hattempt hclear
    refine ⟨hattempted.moved_iff, hattempted.settled_iff, fun hsettled => ?_⟩
    rcases hattempted with hkept | ⟨range, hcommits⟩ | hreports
    · exact .inl hkept
    · rw [hcommits.settled] at hsettled
      simp at hsettled
    · exact .inr hreports

/-- The attempt that recovers the second range of `recoveredRun` commits it. -/
theorem commit_agrees_with_recovery : ∃ arena, CaptureArena.new 1 smallArena 0 = .ok arena ∧
    let dump := (DumpCoordinator.withFrozenDecision 1 arena (.new 1 1)).run
      (recoveredRun.take 4)
    dump.state.indeterminatePublication = some ⟨⟨1, 2⟩⟩ ∧
    dump.Commits (dump.step (.persist (persistAnswered .published (.ok .complete)))) ⟨1, 2⟩ := by
  refine ⟨_, rfl, by decide, ?_⟩
  exact ((@commit_agrees_with_publication ℕ 1 smallArena 0 _ rfl 1 1 1 (recoveredRun.take 4)).2.2
    (.persist (persistAnswered .published (.ok .complete))) rfl rfl).2.1 ⟨1, 2⟩ |>.mp rfl

end Lamb.Dump
