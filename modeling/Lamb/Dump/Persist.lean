import Lamb.Dump.Clear

/-!
Persisting a frozen range. An attempt does one of three things: it leaves the
books as they were, it commits the frozen range together with all pending
losses, or it finds no new audio and reports the losses alone. The checks that
stand between a publication and its commit never fail.
-/

namespace Lamb.Dump

open Lamb.Ring Lamb.Lib Lamb.Arena

variable {α : Type}

/-! ### The checks of a commit -/

theorem FrozenTransaction.Follows.checkExportRange {transaction : FrozenTransaction}
    {cursor head : ℕ} (h : transaction.Follows cursor head) :
    transaction.checkExportRange = .ok () := by
  have hnonempty := h.nonempty
  unfold FrozenTransaction.checkExportRange FrozenTransaction.exportRange
  cases hvalid : transaction.decision.valid with
  | true =>
      obtain ⟨hstart, horder, hstop⟩ := h.decision hvalid
      rw [if_pos rfl, if_neg]
      omega
  | false =>
      simp only [Bool.false_eq_true, if_false]
      rw [if_neg]
      omega

theorem DumpState.prevalidateLossCommit_ok {state : DumpState} {cumulative retention : ℕ}
    {commit : PrevalidatedLossCommit}
    (h : state.prevalidateLossCommit cumulative retention = .ok commit) :
    commit.retentionLostFrames = state.pendingRetentionLostFrames + retention ∧
      commit.clearedFrames = state.pendingClearedFrames := by
  unfold DumpState.prevalidateLossCommit at h
  split at h
  · cases h
  · split at h
    · cases h
    · rename_i total htotal
      obtain rfl := Except.ok.inj h
      exact ⟨DumpCoordinator.checkedLossAdd_ok htotal, rfl⟩

theorem PolicyPrepare.prepare_fits (input : PolicyPrepare) (frozen : FrozenCaptureEpoch)
    {decision : FrozenExportDecision} (h : decision.Fits frozen.absoluteRange) :
    (input.prepare frozen decision).2.Fits frozen.absoluteRange := by
  unfold PolicyPrepare.prepare
  cases input.before with
  | error e => exact h
  | ok _ =>
      simp only
      split_ifs with hmismatch hvalid
      · exact h
      · exact h
      · cases hclassified : classifyFrozenEpoch frozen input.policy input.detector decision with
        | error e => exact h
        | ok decision' => exact classifyFrozenEpoch_fits hclassified

/-- The decision `workspace.prepare` plans the paths and the streams with,
unless it fails before. -/
def PolicyPrepare.used (input : PolicyPrepare) (frozen : FrozenCaptureEpoch)
    (decision : FrozenExportDecision) : Option FrozenExportDecision :=
  match input.before with
  | .error _ => none
  | .ok () =>
      if decision.valid ∧ ¬decision.matchesFrozenEpoch frozen then none
      else if decision.valid then some decision
      else (classifyFrozenEpoch frozen input.policy input.detector decision).toOption

theorem PolicyPrepare.prepare_eq (input : PolicyPrepare) (frozen : FrozenCaptureEpoch)
    (decision : FrozenExportDecision) :
    (∃ used, input.used frozen decision = some used ∧
      input.prepare frozen decision = (input.prepareDecided used, used)) ∨
    (input.used frozen decision = none ∧ (input.prepare frozen decision).2 = decision) := by
  unfold PolicyPrepare.used PolicyPrepare.prepare
  cases input.before with
  | error e => exact .inr ⟨rfl, rfl⟩
  | ok _ =>
      simp only
      split_ifs with hmismatch hvalid
      · exact .inr ⟨rfl, rfl⟩
      · exact .inl ⟨decision, rfl, rfl⟩
      · cases classifyFrozenEpoch frozen input.policy input.detector decision with
        | error e => exact .inr ⟨rfl, rfl⟩
        | ok decision' => exact .inl ⟨decision', rfl, rfl⟩

/-- A decision that is used is final, and bound to the epoch it is used for. -/
theorem PolicyPrepare.used_bound {input : PolicyPrepare} {frozen : FrozenCaptureEpoch}
    {decision used : FrozenExportDecision} (h : input.used frozen decision = some used) :
    used.valid = true ∧ used.frozenEpoch = some frozen.identity ∧
      (decision.valid = true → used = decision) := by
  unfold PolicyPrepare.used at h
  cases hbefore : input.before with
  | error e =>
      rw [hbefore] at h
      cases h
  | ok _ =>
      rw [hbefore] at h
      simp only at h
      split_ifs at h with hmismatch hvalid
      · obtain rfl := Option.some.inj h
        have hmatches : decision.matchesFrozenEpoch frozen = true := by
          by_contra hno
          exact hmismatch ⟨hvalid, hno⟩
        exact ⟨hvalid, by simpa [FrozenExportDecision.matchesFrozenEpoch] using hmatches,
          fun _ => rfl⟩
      · cases hclassified : classifyFrozenEpoch frozen input.policy input.detector decision with
        | error e =>
            rw [hclassified] at h
            cases h
        | ok decision' =>
            rw [hclassified] at h
            obtain rfl := Option.some.inj h
            obtain ⟨channels, gate, final, hfinal, rfl⟩ := classifyFrozenEpoch_ok hclassified
            refine ⟨?_, rfl, fun hfinal => absurd hfinal hvalid⟩
            simp only [FrozenExportDecision.finalize] at hfinal
            split_ifs at hfinal
            obtain rfl := Except.ok.inj hfinal
            rfl

namespace DumpCoordinator

variable {dump dump' dump'' : DumpCoordinator α} {transaction : FrozenTransaction}

/-- The losses of a frozen range never overflow: with them the cursor would
still be at most the start of the range. -/
theorem Inv.prevalidateLossCommit {unbooked : List Range} (h : dump.Inv unbooked)
    (hfrozen : dump.state.frozen = some transaction) :
    ∃ commit, dump.state.prevalidateLossCommit dump.cumulativeCaptureDroppedFrames
      transaction.retentionLostFrames = .ok commit := by
  have hle : dump.state.pendingRetentionLostFrames + transaction.retentionLostFrames ≤ u64Max := by
    obtain ⟨hstart, hnonempty, hhead, -⟩ := h.frozen transaction hfrozen
    have hlimit := h.arena.worker.head_le
    have hbalance := h.balance
    omega
  unfold DumpState.prevalidateLossCommit checkedLossAdd
  rw [if_neg (Nat.not_lt.mpr h.acknowledged), checkedAdd_of_le hle]
  exact ⟨_, rfl⟩

/-! ### What an attempt does -/

structure Commits (dump dump' : DumpCoordinator α) (range : Range) : Prop where
  committedUntil : dump'.state.committedUntil = some range.stop
  settled : dump'.settled = dump.settled ++ [range]
  outcomes : ∃ outcome, outcome.range = some range ∧ dump'.outcomes = dump.outcomes ++ [outcome]
  retentionLost : dump'.state.pendingRetentionLostFrames = 0
  cleared : dump'.state.pendingClearedFrames = 0
  frozen : ∀ transaction, dump.state.frozen = some transaction → transaction.range = range
  done : dump'.state.frozen = none
  pendingClear : dump'.state.pendingClear = dump.state.pendingClear
  cursor : dump.state.cursor < range.stop

structure Reports (dump dump' : DumpCoordinator α) : Prop where
  committedUntil : dump'.state.committedUntil = dump.state.committedUntil
  settled : dump'.settled = dump.settled
  outcomes : ∃ losses : LossBreakdown,
    losses.retentionLostFrames = dump.state.pendingRetentionLostFrames ∧
    losses.clearedFrames = dump.state.pendingClearedFrames ∧
    dump'.outcomes = dump.outcomes ++ [.noNewAudio losses]
  frozen : dump.state.frozen = none
  done : dump'.state.frozen = none
  pendingClear : dump'.state.pendingClear = dump.state.pendingClear

def Attempted (dump dump' : DumpCoordinator α) : Prop :=
  dump.Kept dump' ∨ (∃ range, dump.Commits dump' range) ∨ dump.Reports dump'

theorem Kept.commits (h : dump.Kept dump') {range : Range} (h' : dump'.Commits dump'' range) :
    dump.Commits dump'' range where
  committedUntil := h'.committedUntil
  settled := by rw [h'.settled, h.settled]
  outcomes := by
    rw [← h.outcomes]
    exact h'.outcomes
  retentionLost := h'.retentionLost
  cleared := h'.cleared
  frozen transaction hfrozen := by
    obtain ⟨decision, hfrozen'⟩ := h.frozen transaction hfrozen
    have hrange := h'.frozen _ hfrozen'
    exact hrange
  done := h'.done
  pendingClear := h'.pendingClear.trans h.pendingClear
  cursor := by
    rw [← h.cursor]
    exact h'.cursor

theorem Commits.reconciled {range : Range} (h : dump.Commits dump' range)
    (h' : dump'.Reconciled dump'') : dump.Commits dump'' range where
  committedUntil := h'.books.committedUntil.trans h.committedUntil
  settled := h'.settled.trans h.settled
  outcomes := by
    rw [h'.outcomes]
    exact h.outcomes
  retentionLost := h'.books.retentionLost.trans h.retentionLost
  cleared := h'.books.cleared.trans h.cleared
  frozen := h.frozen
  done := h'.books.frozen.trans h.done
  pendingClear := h'.books.pendingClear.trans h.pendingClear
  cursor := h.cursor

theorem Kept.reports (h : dump.Kept dump') (h' : dump'.Reports dump'') : dump.Reports dump'' where
  committedUntil := h'.committedUntil.trans h.committedUntil
  settled := h'.settled.trans h.settled
  outcomes := by
    rw [← h.outcomes, ← h.retentionLost, ← h.cleared]
    exact h'.outcomes
  frozen := by
    cases hfrozen : dump.state.frozen with
    | none => rfl
    | some transaction =>
        obtain ⟨decision, hfrozen'⟩ := h.frozen transaction hfrozen
        rw [h'.frozen] at hfrozen'
        cases hfrozen'
  done := h'.done
  pendingClear := h'.pendingClear.trans h.pendingClear

theorem Kept.attempted (h : dump.Kept dump') (h' : dump'.Attempted dump'') :
    dump.Attempted dump'' := by
  rcases h' with hkept | ⟨range, hcommits⟩ | hreports
  · exact .inl (h.trans hkept)
  · exact .inr (.inl ⟨range, h.commits hcommits⟩)
  · exact .inr (.inr (h.reports hreports))

theorem Attempted.cursor_le (h : dump.Attempted dump') :
    dump.state.cursor ≤ dump'.state.cursor := by
  rcases h with hkept | ⟨range, hcommits⟩ | hreports
  · exact hkept.cursor.ge
  · have hcursor : dump'.state.cursor = range.stop := by
      unfold DumpState.cursor
      rw [hcommits.committedUntil]
      rfl
    exact hcursor ▸ hcommits.cursor.le
  · unfold DumpState.cursor
    rw [hreports.committedUntil]

theorem Commits.steady {range : Range} (h : dump.Commits dump' range) : dump.Steady dump' := by
  have hcursor : dump'.state.cursor = range.stop := by
    unfold DumpState.cursor
    rw [h.committedUntil]
    rfl
  refine .of_passed h.done (hcursor ▸ h.cursor.le) fun transaction hfrozen => ?_
  rw [hcursor, h.frozen transaction hfrozen]

theorem Reports.steady (h : dump.Reports dump') : dump.Steady dump' := by
  refine .of_frozen (h.done.trans h.frozen.symm) ?_
  unfold DumpState.cursor
  rw [h.committedUntil]

/-- An attempt that began in `dump` has ended in `dump'`. -/
structure Ended (dump dump' : DumpCoordinator α) : Prop where
  inv : dump'.Inv []
  attempted : dump.Attempted dump'
  steady : dump.Steady dump'

theorem Ended.refl (h : dump.Inv []) : dump.Ended dump :=
  ⟨h, .inl (.refl dump), .refl dump⟩

theorem Kept.ended (h : dump.Kept dump') (hsteady : dump.Steady dump') (h' : dump'.Ended dump'') :
    dump.Ended dump'' :=
  ⟨h'.inv, h.attempted h'.attempted, hsteady.trans h'.steady⟩

/-! ### Committing a range -/

/-- The state of a committed range that waits for its completion. -/
def completed (dump : DumpCoordinator α) (range : Range) (outcome : DumpOutcome)
    (guard : Option FrozenTransaction) : DumpCoordinator α :=
  { dump with
    state :=
      { dump.state.commitLosses dump.cumulativeCaptureDroppedFrames with
        committedUntil := some range.stop
        frozen := none
        completionInProgress := true
        pendingCompletion := some .delivering }
    guard
    outcomes := dump.outcomes ++ [outcome] }

/-- The one step of the books that consumes frames. -/
theorem Inv.commit (h : dump.Inv [transaction.range]) (hready : dump.Ready)
    (hfrozen : dump.state.frozen = some transaction)
    (hpublication : dump.state.indeterminatePublication = none) {outcome : DumpOutcome}
    (hrange : outcome.range = some transaction.range)
    (hlost : outcome.lost = dump.state.pendingRetentionLostFrames +
      transaction.retentionLostFrames + dump.state.pendingClearedFrames)
    (guard : Option FrozenTransaction) :
    (dump.completed transaction.range outcome guard).Inv [] := by
  obtain ⟨hstart, hnonempty, hhead, -⟩ := h.frozen transaction hfrozen
  have hbalance := h.balance
  have hconsumed : outcome.consumed = transaction.range.stop - transaction.range.start := by
    unfold DumpOutcome.consumed
    rw [hrange]
    rfl
  have hranges : committedRanges (dump.outcomes ++ [outcome]) =
      committedRanges dump.outcomes ++ [transaction.range] := by
    rw [committedRanges_concat, hrange]
    rfl
  exact
    { arena := by
        refine h.arena.transfer (fun hawaits => ?_) fun _ howned => howned
        have hnone : dump.state.frozen = none := hawaits
        rw [hfrozen] at hnone
        cases hnone
      balance := by
        show transaction.range.stop = consumedFrames (dump.outcomes ++ [outcome]) +
          lostFrames (dump.outcomes ++ [outcome]) + 0 + 0
        rw [consumedFrames_concat, lostFrames_concat, hconsumed, hlost]
        omega
      settled := by
        show dump.settled = committedRanges (dump.outcomes ++ [outcome]) ++ []
        rw [hranges, List.append_nil]
        exact h.settled
      ordered := by
        show (committedRanges (dump.outcomes ++ [outcome])).Pairwise _
        rw [hranges]
        refine List.pairwise_append.mpr ⟨h.ordered, List.pairwise_singleton _ _, ?_⟩
        intro range hmem later hlater
        obtain rfl := List.mem_singleton.mp hlater
        have hle := (h.ranges range hmem).2
        omega
      ranges := by
        show ∀ range ∈ committedRanges (dump.outcomes ++ [outcome]),
          range.start < range.stop ∧ range.stop ≤ transaction.range.stop
        rw [hranges]
        intro range hmem
        rcases List.mem_append.mp hmem with hold | hnew
        · obtain ⟨hlt, hle⟩ := h.ranges range hold
          exact ⟨hlt, by omega⟩
        · obtain rfl := List.mem_singleton.mp hnew
          exact ⟨hnonempty, le_rfl⟩
      head := hhead
      acknowledged := le_rfl
      frozen := by rintro _ ⟨⟩
      pendingClear := hready.noClear
      publication := by
        intro publication hsome
        rw [show dump.state.indeterminatePublication = some publication from hsome]
          at hpublication
        cases hpublication
      guard := fun _ => ⟨rfl, rfl, rfl, hready.clear⟩
      reusable := h.reusable
      reset := by rintro _ _ ⟨⟩ }

/-- What the commit looks like from before the range was settled. -/
theorem Inv.commits {base : DumpCoordinator α} (h : dump.Inv [transaction.range])
    (hfrozen : dump.state.frozen = some transaction)
    (hsettled : dump.settled = base.settled ++ [transaction.range])
    (houtcomes : dump.outcomes = base.outcomes)
    (hcursor : dump.state.cursor = base.state.cursor)
    (hclear : dump.state.pendingClear = base.state.pendingClear)
    (hbase : ∀ frozen, base.state.frozen = some frozen → frozen.range = transaction.range)
    {outcome : DumpOutcome} (hrange : outcome.range = some transaction.range)
    (guard : Option FrozenTransaction) :
    base.Commits (dump.completed transaction.range outcome guard) transaction.range where
  committedUntil := rfl
  settled := hsettled
  outcomes := ⟨outcome, hrange, by
    show dump.outcomes ++ [outcome] = base.outcomes ++ [outcome]
    rw [houtcomes]⟩
  retentionLost := rfl
  cleared := rfl
  frozen := hbase
  done := rfl
  pendingClear := hclear
  cursor := by
    obtain ⟨hstart, hnonempty, -, -⟩ := h.frozen transaction hfrozen
    omega

/-- Everything a call knows when it has settled a range and is to commit it. -/
structure Settled (base dump : DumpCoordinator α) (transaction : FrozenTransaction) : Prop where
  inv : dump.Inv [transaction.range]
  ready : dump.Ready
  frozen : dump.state.frozen = some transaction
  publication : dump.state.indeterminatePublication = none
  settled : dump.settled = base.settled ++ [transaction.range]
  outcomes : dump.outcomes = base.outcomes
  cursor : dump.state.cursor = base.state.cursor
  pendingClear : dump.state.pendingClear = base.state.pendingClear
  base_frozen : ∀ frozen, base.state.frozen = some frozen → frozen.range = transaction.range

variable {base : DumpCoordinator α}

theorem Settled.completed (h : base.Settled dump transaction) {outcome : DumpOutcome}
    (hrange : outcome.range = some transaction.range)
    (hlost : outcome.lost = dump.state.pendingRetentionLostFrames +
      transaction.retentionLostFrames + dump.state.pendingClearedFrames)
    (guard : Option FrozenTransaction) :
    (dump.completed transaction.range outcome guard).Inv [] ∧
      base.Commits (dump.completed transaction.range outcome guard) transaction.range :=
  ⟨h.inv.commit h.ready h.frozen h.publication hrange hlost guard,
    h.inv.commits h.frozen h.settled h.outcomes h.cursor h.pendingClear h.base_frozen hrange guard⟩

theorem PrevalidatedLossCommit.outcome_lost {commit : PrevalidatedLossCommit} {cumulative : ℕ}
    {outcome : LossBreakdown → DumpOutcome}
    (houtcome : ∀ losses, (outcome losses).losses = losses) :
    (outcome (commit.losses cumulative)).lost =
      commit.retentionLostFrames + commit.clearedFrames := by
  unfold DumpOutcome.lost
  rw [houtcome]
  rfl

theorem beginCompletion_eq (hidle : dump.state.completionInProgress = false)
    (hauthority : dump.state.pendingCompletion = none)
    (hrelease : dump.state.pendingRelease = none) :
    beginCompletion dump = (.ok (), { dump with
      state := { dump.state with
        completionInProgress := true, pendingCompletion := some .delivering } }) := by
  show (Attempt.require _ _ >>= fun _ => modifyState _) dump = _
  unfold Attempt.require
  rw [if_pos ⟨hidle, hauthority, hrelease⟩]
  rfl

theorem takeFrozen_eq (hfrozen : dump.state.frozen = some transaction)
    (lost : DumpAttempt α Unit) (message : String) :
    takeFrozen lost message dump =
      (.ok transaction, { dump with state := { dump.state with frozen := none } }) := by
  refine (Attempt.bind_of_ok rfl).trans ?_
  rw [hfrozen]
  rfl

/-- The state between the commit of a range and its completion. -/
def committed (dump : DumpCoordinator α) (range : Range) (outcome : DumpOutcome) :
    DumpCoordinator α :=
  { dump with
    state :=
      { dump.state.commitLosses dump.cumulativeCaptureDroppedFrames with
        committedUntil := some range.stop }
    outcomes := dump.outcomes ++ [outcome] }

/-- The range is committed and its transaction on its way to its completion. -/
structure Completed (base dump : DumpCoordinator α) (range : Range) : Prop where
  inv : dump.Inv []
  commits : base.Commits dump range

theorem Completed.ended {range : Range} (h : base.Completed dump range) : base.Ended dump :=
  ⟨h.inv, .inr (.inl ⟨range, h.commits⟩), h.commits.steady⟩

theorem Settled.completeDirect (h : base.Settled dump transaction) {outcome : DumpOutcome}
    (hrange : outcome.range = some transaction.range)
    (hlost : outcome.lost = dump.state.pendingRetentionLostFrames +
      transaction.retentionLostFrames + dump.state.pendingClearedFrames)
    (lost : String) (call : Call α) :
    (DumpCoordinator.completeDirect lost call).Ends (dump.committed transaction.range outcome)
      (fun _ dump' => base.Completed dump' transaction.range)
      (fun _ dump' => base.Completed dump' transaction.range) := by
  obtain ⟨hinv, hcommits⟩ := h.completed hrange hlost dump.guard
  refine .bindOk (beginCompletion_eq h.ready.completion h.ready.authority h.ready.release) ?_
  refine .bindOk (takeFrozen_eq (by exact h.frozen) _ _) ?_
  refine (hinv.finalizeCompletedTransaction (h.inv.guard_eq_none h.ready) rfl rfl transaction
    call).mono ?_ ?_
  · intro _ dump' hreconciled
    exact ⟨hreconciled.inv, hcommits.reconciled hreconciled⟩
  · intro e dump' hreconciled
    exact ⟨hreconciled.inv, hcommits.reconciled hreconciled⟩

theorem Settled.completeGuarded (h : base.Settled dump transaction) {outcome : DumpOutcome}
    (hrange : outcome.range = some transaction.range)
    (hlost : outcome.lost = dump.state.pendingRetentionLostFrames +
      transaction.retentionLostFrames + dump.state.pendingClearedFrames) (lost : String) :
    (DumpCoordinator.completeGuarded lost).Ends (dump.committed transaction.range outcome)
      (fun _ dump' => base.Completed dump' transaction.range)
      (fun _ dump' => base.Completed dump' transaction.range) := by
  obtain ⟨hinv, hcommits⟩ := h.completed hrange hlost (some transaction)
  refine .bindOk (beginCompletion_eq h.ready.completion h.ready.authority h.ready.release) ?_
  refine .bindOk (takeFrozen_eq (by exact h.frozen) _ _) ?_
  exact .modify ⟨hinv, hcommits⟩

end DumpCoordinator

end Lamb.Dump
