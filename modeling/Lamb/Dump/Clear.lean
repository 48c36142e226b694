import Lamb.Dump.Reconcile

/-!
Clearing in order. A clear moves the cursor to the end of what it cleared and
turns everything it passed into pending losses. Its report may come back in a
later call, or never; in the latter case the frames it cleared are found to be
missing by the next freeze.
-/

namespace Lamb.Dump.DumpCoordinator

open Lamb.Ring Lamb.Lib Lamb.Arena

variable {α : Type} {dump dump' dump'' : DumpCoordinator α}

/-- The invariant again, the cursor nowhere behind, and every decided
transaction still held. -/
structure Advances (dump dump' : DumpCoordinator α) : Prop where
  inv : dump'.Inv []
  cursor : dump.state.cursor ≤ dump'.state.cursor
  steady : dump.Steady dump'

theorem Advances.refl (h : dump.Inv []) : dump.Advances dump :=
  ⟨h, le_rfl, .refl dump⟩

theorem Advances.trans (h : dump.Advances dump') (h' : dump'.Advances dump'') :
    dump.Advances dump'' :=
  ⟨h'.inv, h.cursor.trans h'.cursor, h.steady.trans h'.steady⟩

theorem Reconciled.advances (h : dump.Reconciled dump') : dump.Advances dump' :=
  ⟨h.inv, h.books.cursor.ge, h.steady⟩

/-! ### Reports -/

/-- Everything a pending clear expects to have passed lies at or after the
cursor and is captured. -/
theorem Inv.expected_bounds (h : dump.Inv []) {pending : PendingClear}
    (hpending : pending.Accounts dump.state) :
    dump.state.cursor ≤ pending.accounting.expectedActiveStart ∧
      pending.accounting.expectedActiveStart ≤ dump.arena.worker.absoluteHead := by
  have hexpected := hpending.expected
  cases hfrozen : dump.state.frozen with
  | none =>
      rw [hfrozen] at hexpected
      exact ⟨hexpected.ge, hexpected.le.trans h.head⟩
  | some transaction =>
      obtain ⟨hstart, hnonempty, hhead, -⟩ := h.frozen transaction hfrozen
      rw [hfrozen] at hexpected
      simp only [Option.map_some, Option.getD_some] at hexpected
      omega

/-- The books after a clear: whatever lies between the old cursor and the end
of the clear is a pending loss. -/
theorem Inv.cleared (h : dump.Inv []) {pending : PendingClear}
    (hpending : dump.state.pendingClear = some pending) {report : CaptureClearReport}
    (hquiet : dump.arena.Quiet)
    (hclears : dump.state.custody.Clears dump.arena.worker.absoluteHead report)
    (hid : report.clearId = pending.clearId) {state : DumpState}
    (hcommitted : state.committedUntil = some report.activeAbsoluteRange.stop)
    (hretention : state.pendingRetentionLostFrames = report.pendingRetentionLostFrames)
    (hcleared : state.pendingClearedFrames = report.pendingClearedFrames)
    (hfrozen : state.frozen = none) (hnone : state.pendingClear = none)
    (hpublication : state.indeterminatePublication = dump.state.indeterminatePublication)
    (hacknowledged : state.acknowledgedDroppedFrames = dump.state.acknowledgedDroppedFrames)
    (hcompletion : state.pendingCompletion = dump.state.pendingCompletion)
    (hreusable : ∀ decision, state.reusableDecision = some decision → decision.valid = false) :
    dump.Advances { dump with state } := by
  obtain ⟨accounting, ⟨-, howned⟩, hreports, hstop, hexpected⟩ := hclears
  have haccounts := h.pendingClear pending hpending
  have haccounting : pending.accounting = accounting :=
    howned pending hpending (hid.symm.trans hreports.clearId)
  obtain ⟨hlow, -⟩ := h.expected_bounds haccounts
  have hcursor : state.cursor = report.activeAbsoluteRange.stop := by
    unfold DumpState.cursor
    rw [hcommitted]
    rfl
  have hsums := haccounts.sums
  have hretention' := hreports.retention
  have hcleared' := hreports.cleared
  have horder := hreports.order
  have hbalance := h.balance
  have hpassed := haccounts.expected
  rw [haccounting] at hsums hlow hpassed
  refine ⟨?_, ?_, .of_passed hfrozen ?_ fun transaction hsome => ?_⟩
  · exact
      { arena := hquiet.carries _
        balance := by
          show state.cursor = consumedFrames dump.outcomes + lostFrames dump.outcomes +
            state.pendingRetentionLostFrames + state.pendingClearedFrames
          rw [hcursor, hretention, hcleared]
          omega
        settled := h.settled
        ordered := h.ordered
        ranges := by
          intro range hrange
          obtain ⟨hnonempty, hle⟩ := h.ranges range hrange
          refine ⟨hnonempty, ?_⟩
          rw [hcursor]
          omega
        head := by
          rw [hcursor]
          exact hstop
        acknowledged := by
          rw [hacknowledged]
          exact h.acknowledged
        frozen := by
          rw [hfrozen]
          rintro _ ⟨⟩
        pendingClear := by
          rw [hnone]
          rintro _ ⟨⟩
        publication := by
          rw [hpublication]
          intro publication hsome
          have hclear := (h.publication publication hsome).1
          rw [hpending] at hclear
          cases hclear
        guard := by
          intro hguard
          have hclear := (h.guard hguard).2.2.2
          rw [hpending] at hclear
          cases hclear
        reusable := hreusable
        reset := by
          rw [hcompletion]
          exact h.reset }
  · rw [hcursor]
    omega
  · exact (hlow.trans hexpected).trans hcursor.ge
  · rw [hsome] at hpassed
    exact (hpassed.symm.le.trans hexpected).trans hcursor.ge

theorem validateClearReport_ok {report : CaptureClearReport} {pending : PendingClear}
    (hpending : dump.state.pendingClear = some pending)
    (h : dump.validateClearReport report = .ok ()) : report.clearId = pending.clearId := by
  unfold validateClearReport at h
  rw [hpending] at h
  simp only at h
  split_ifs at h with hmatch
  push Not at hmatch
  exact hmatch.2.2.2.2.1

/-- The report of the clear that is pending is committed, or refused as it is. -/
theorem Inv.acceptClearReport (h : dump.Inv []) {pending : PendingClear}
    (hpending : dump.state.pendingClear = some pending) {report : CaptureClearReport}
    (hquiet : dump.arena.Quiet)
    (hclears : dump.state.custody.Clears dump.arena.worker.absoluteHead report) :
    (DumpCoordinator.acceptClearReport report : DumpAttempt α Unit).Ends dump
      (fun _ => dump.Advances) (fun _ => dump.Advances) := by
  refine .bindGet (.bindOfExcept (fun _ _ => .refl h) ?_)
  intro _ hvalid
  have hid := validateClearReport_ok hpending hvalid
  have hend := (h.pendingClear pending hpending).frozenEnd
  refine .modify ?_
  show dump.Advances { dump with state := dump.state.commitClearReport report }
  unfold DumpState.commitClearReport
  rw [hpending]
  simp only [hend]
  cases hfrozen : dump.state.frozen with
  | none => exact h.cleared hpending hquiet hclears hid rfl rfl rfl rfl rfl rfl rfl rfl h.reusable
  | some transaction =>
      refine h.cleared hpending hquiet hclears hid rfl rfl rfl rfl rfl rfl rfl rfl ?_
      rintro _ ⟨⟩
      exact transaction.decision.reset_valid

theorem Inv.dropPendingClear (h : dump.Inv []) :
    dump.Advances { dump with state := { dump.state with pendingClear := none } } where
  cursor := le_rfl
  steady := .of_frozen rfl le_rfl
  inv :=
    { h with
      arena := h.arena.transfer (fun hawaits => ⟨hawaits, rfl⟩) (by
        rintro accounting ⟨hissued, -⟩
        exact ⟨hissued, by rintro _ ⟨⟩⟩)
      pendingClear := by rintro _ ⟨⟩
      publication := fun publication hsome => ⟨rfl, (h.publication publication hsome).2⟩
      guard := by
        intro hguard
        obtain ⟨hprogress, hdelivering, hfrozen, -⟩ := h.guard hguard
        exact ⟨hprogress, hdelivering, hfrozen, rfl⟩ }

theorem Inv.recoverPendingClear (h : dump.Inv []) (call : Call α) :
    (DumpCoordinator.recoverPendingClear call).Ends dump
      (fun _ dump' => dump.Advances dump' ∧ (dump.state.pendingClear = none → dump' = dump))
      (fun _ dump' => dump.Advances dump' ∧ dump.state.pendingClear ≠ none) := by
  refine .bindGet ?_
  cases hpending : dump.state.pendingClear with
  | none => exact .pure ⟨.refl h, fun _ => rfl⟩
  | some pending =>
      refine .bindRequire (fun _ => ⟨.refl h, by simp⟩) fun _ => ?_
      refine .bindZoom (h.arena.recoverClearResult _ call) ?_ ?_
      · rintro found arena ⟨hcarries, hlater, hfound⟩
        have hinv := h.onArena hlater hcarries
        have harena : dump.Advances { dump with arena } := ⟨hinv, le_rfl, .of_frozen rfl le_rfl⟩
        cases found with
        | none => exact .bindModify (.fail ⟨harena.trans hinv.dropPendingClear, by simp⟩)
        | some report =>
            obtain ⟨hquiet, hclears⟩ := hfound report rfl
            refine .bind ((hinv.acceptClearReport hpending hquiet hclears).mono
              (fun _ _ haccepted => haccepted) ?_) ?_
            · intro e dump' hrefused
              exact ⟨harena.trans hrefused, by simp⟩
            · intro _ dump' haccepted
              exact .pure ⟨harena.trans haccepted, by simp⟩
      · rintro e arena ⟨hcarries, hlater⟩
        exact ⟨⟨h.onArena hlater hcarries, le_rfl, .of_frozen rfl le_rfl⟩, by simp⟩

/-! ### A new clear -/

theorem checkedLossAdd_ok {left right total : ℕ} {message : String}
    (h : checkedLossAdd left right message = .ok total) : total = left + right := by
  unfold checkedLossAdd at h
  split at h
  · cases h
  · rename_i sum hsum
    obtain rfl := Except.ok.inj h
    exact (checkedAdd_eq_some.mp hsum).1

/-- The new clear accounts for the frozen range and for what is pending. -/
theorem Inv.nextClear (h : dump.Inv []) {pending : PendingClear}
    (hnext : dump.nextClear = .ok pending) :
    pending.clearId = dump.state.nextClearId + 1 ∧
      pending.Accounts { dump.state with
        nextClearId := pending.clearId, pendingClear := some pending } := by
  obtain ⟨clearId, hclearId, hrest⟩ := bind_eq_ok.1 hnext
  obtain ⟨accounting, haccounting, hpending⟩ := bind_eq_ok.1 hrest
  obtain rfl := Except.ok.inj hpending
  refine ⟨checkedLossAdd_ok hclearId, ?_⟩
  unfold clearAccounting at haccounting
  cases hfrozen : dump.state.frozen with
  | none =>
      rw [hfrozen] at haccounting
      obtain rfl := Except.ok.inj haccounting
      exact ⟨rfl, le_rfl, by simp [hfrozen], by simp [hfrozen, DumpState.cursor], rfl⟩
  | some transaction =>
      obtain ⟨hstart, hnonempty, -, -⟩ := h.frozen transaction hfrozen
      rw [hfrozen] at haccounting
      obtain ⟨retention, hretention, hrest⟩ := bind_eq_ok.1 haccounting
      obtain ⟨cleared, hcleared, haccounting⟩ := bind_eq_ok.1 hrest
      obtain rfl := Except.ok.inj haccounting
      have hretention := checkedLossAdd_ok hretention
      have hcleared := checkedLossAdd_ok hcleared
      simp only at hretention hcleared
      refine ⟨rfl, le_rfl, by simp [hfrozen], by simp [hfrozen], ?_⟩
      show retention + cleared + dump.state.cursor = dump.state.pendingRetentionLostFrames +
        dump.state.pendingClearedFrames + transaction.range.stop
      omega

/-- A new clear enters the books as pending; nothing that is on its way gets a
new owner, because its identity is new. -/
theorem Inv.issueClear (h : dump.Inv []) (hguard : dump.guard = none)
    (hpublication : dump.state.indeterminatePublication = none)
    {pending : PendingClear} (hnext : dump.nextClear = .ok pending) :
    Inv { dump with
      state := { dump.state with nextClearId := pending.clearId, pendingClear := some pending } }
      [] := by
  obtain ⟨hid, haccounts⟩ := h.nextClear hnext
  exact
    { h with
      arena := h.arena.transfer (fun hawaits => ⟨hawaits, rfl⟩) (by
        rintro accounting ⟨hissued, -⟩
        have hlt : accounting.clearId < pending.clearId := by omega
        refine ⟨hlt.le, ?_⟩
        rintro _ ⟨⟩ heq
        omega)
      pendingClear := by
        rintro _ ⟨⟩
        exact haccounts
      publication := by
        intro publication hsome
        rw [hpublication] at hsome
        cases hsome
      guard := absurd hguard }

theorem Inv.clearActive (h : dump.Inv []) {pending : PendingClear}
    (hpending : dump.state.pendingClear = some pending) (call : Call α) :
    (DumpCoordinator.clearActive pending.accounting call).Ends dump
      (fun report dump' => dump.Reconciled dump' ∧ dump'.arena.Quiet ∧
        dump'.state.custody.Clears dump'.arena.worker.absoluteHead report)
      (fun _ => dump.Advances) := by
  have haccounts := h.pendingClear pending hpending
  have howned : dump.state.custody.owned pending.accounting := by
    refine ⟨haccounts.clearId.le.trans haccounts.issued, ?_⟩
    intro pending' hpending' _
    rw [hpending] at hpending'
    cases hpending'
    rfl
  have hcalled : (DumpCoordinator.onArena
      (CaptureArena.clearActiveAccounted pending.accounting call)).capture.Ends dump
      (fun result dump' => dump.Reconciled dump' ∧ ∀ report, result = .ok report →
        dump'.arena.Quiet ∧ dump'.state.custody.Clears dump'.arena.worker.absoluteHead report)
      (fun _ => dump.Advances) := by
    refine .capture (.zoom ((h.arena.clearActiveAccounted howned
      (h.expected_bounds haccounts).2 call).mono ?_ ?_))
    · rintro report arena ⟨hquiet, hlater, hclears⟩
      refine ⟨⟨h.onArena hlater (hquiet.carries _), ⟨rfl, rfl, rfl, rfl, rfl, rfl, rfl, rfl⟩, rfl,
        rfl, rfl⟩, ?_⟩
      rintro _ ⟨⟩
      exact ⟨hquiet, hclears⟩
    · rintro e arena ⟨hcarries, hlater⟩
      refine ⟨⟨h.onArena hlater hcarries, ⟨rfl, rfl, rfl, rfl, rfl, rfl, rfl, rfl⟩, rfl,
        rfl, rfl⟩, ?_⟩
      rintro _ ⟨⟩
  refine .bind hcalled ?_
  rintro result dump' ⟨hreconciled, hreport⟩
  cases result with
  | ok report => exact .pure ⟨hreconciled, hreport report rfl⟩
  | error e =>
      refine .ite (fun _ => .fail hreconciled.advances) fun _ => .bindModify (.fail ?_)
      exact hreconciled.advances.trans hreconciled.inv.dropPendingClear

theorem Inv.submitClear (h : dump.Inv []) (hguard : dump.guard = none) (input : ClearInput α) :
    (DumpCoordinator.submitClear input).Ends dump (fun _ => dump.Advances)
      (fun _ => dump.Advances) := by
  refine .bindGet (.bindRequire (fun _ => .refl h) fun hpublication => ?_)
  refine .bind ((h.recoverPendingRelease input.release).mono (fun _ _ hreleased => hreleased)
    fun _ _ hreconciled => hreconciled.advances) ?_
  rintro _ released ⟨hreconciled, -⟩
  refine .bindGet (.bindOfExcept (fun _ _ => hreconciled.advances) ?_)
  intro pending hnext
  have hissued := hreconciled.inv.issueClear (hreconciled.guard.trans hguard)
    (hreconciled.books.publication.trans hpublication) hnext
  have hadvances : dump.Advances { released with
      state := { released.state with
        nextClearId := pending.clearId, pendingClear := some pending } } :=
    ⟨hissued, hreconciled.advances.cursor, hreconciled.steady.trans (.of_frozen rfl le_rfl)⟩
  refine .bindModify (.bind ((hissued.clearActive rfl input.clear).mono
    (fun _ _ hcleared => hcleared) fun _ _ hfailed => hadvances.trans hfailed) ?_)
  rintro report cleared ⟨hcleared, hquiet, hclears⟩
  have hpending := hcleared.books.pendingClear
  have hadvances' := hadvances.trans hcleared.advances
  refine .bind ((hcleared.inv.acceptClearReport hpending hquiet hclears).mono
    (fun _ _ haccepted => hadvances'.trans haccepted)
    fun _ _ hrefused => hadvances'.trans hrefused) ?_
  intro _ accepted haccepted
  have hreleased : (DumpCoordinator.recoverPendingRelease input.releaseCleared).capture.Ends
      accepted (fun _ => dump.Advances) (fun _ => dump.Advances) := by
    refine .capture ((haccepted.inv.recoverPendingRelease input.releaseCleared).mono ?_ ?_)
    · intro _ dump' hdone
      exact haccepted.trans hdone.1.advances
    · intro e dump' hfailed
      exact haccepted.trans hfailed.advances
  exact .bind hreleased fun _ dump' hdone => .pure hdone

theorem Inv.clearInOrder (h : dump.Inv []) (input : ClearInput α) :
    (DumpCoordinator.clearInOrder input).Ends dump (fun _ => dump.Advances)
      (fun _ => dump.Advances) := by
  refine .bind (h.bindArena.mono (fun _ _ hbound => hbound)
    fun _ _ hbound => hbound.advances) ?_
  intro _ bound hbound
  refine .bind ((hbound.inv.recoverPendingClear input.recoverClear).mono
    (fun _ _ hrecovered => hbound.advances.trans hrecovered.1)
    fun _ _ hfailed => hbound.advances.trans hfailed.1) ?_
  intro recoveredClear recovered hrecovered
  refine .bind ((hrecovered.inv.reconcileCompletionAuthority input.reconcile).mono
    (fun _ _ hreconciled => hreconciled)
    fun _ _ hfailed => hrecovered.trans hfailed.advances) ?_
  rintro _ reconciled ⟨hreconciled, hready⟩
  have hadvances := hrecovered.trans hreconciled.advances
  refine .ite (fun _ => .pure hadvances) fun _ => ?_
  refine (hreconciled.inv.submitClear (hreconciled.inv.guard_eq_none hready) input).mono ?_ ?_
  · intro _ dump' hcleared
    exact hadvances.trans hcleared
  · intro e dump' hfailed
    exact hadvances.trans hfailed

end Lamb.Dump.DumpCoordinator
