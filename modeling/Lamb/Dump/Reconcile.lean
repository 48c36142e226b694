import Lamb.Dump.Ledger

/-!
The calls that settle what an earlier call left: a release, a completion, a
clear. None but the clear touches the books.
-/

namespace Lamb.Dump.DumpCoordinator

open Lamb.Ring Lamb.Lib Lamb.Arena

variable {α : Type} {dump dump' dump'' : DumpCoordinator α}

/-- A step that changes authorities only. -/
structure Reconciled (dump dump' : DumpCoordinator α) : Prop where
  inv : dump'.Inv []
  books : dump.state.SameBooks dump'.state
  guard : dump'.guard = dump.guard
  outcomes : dump'.outcomes = dump.outcomes
  settled : dump'.settled = dump.settled

theorem Reconciled.refl (h : dump.Inv []) : dump.Reconciled dump :=
  ⟨h, ⟨rfl, rfl, rfl, rfl, rfl, rfl, rfl, rfl⟩, rfl, rfl, rfl⟩

theorem Reconciled.trans (h : dump.Reconciled dump') (h' : dump'.Reconciled dump'') :
    dump.Reconciled dump'' where
  inv := h'.inv
  books :=
    { committedUntil := h'.books.committedUntil.trans h.books.committedUntil
      frozen := h'.books.frozen.trans h.books.frozen
      pendingClear := h'.books.pendingClear.trans h.books.pendingClear
      publication := h'.books.publication.trans h.books.publication
      acknowledged := h'.books.acknowledged.trans h.books.acknowledged
      retentionLost := h'.books.retentionLost.trans h.books.retentionLost
      cleared := h'.books.cleared.trans h.books.cleared
      nextClearId := h'.books.nextClearId.trans h.books.nextClearId }
  guard := h'.guard.trans h.guard
  outcomes := h'.outcomes.trans h.outcomes
  settled := h'.settled.trans h.settled

theorem Reconciled.kept (h : dump.Reconciled dump') : dump.Kept dump' where
  committedUntil := h.books.committedUntil
  retentionLost := h.books.retentionLost
  cleared := h.books.cleared
  acknowledged := h.books.acknowledged
  outcomes := h.outcomes
  settled := h.settled
  pendingClear := h.books.pendingClear
  frozen transaction hfrozen := ⟨transaction.decision, h.books.frozen.trans hfrozen⟩

theorem Reconciled.steady (h : dump.Reconciled dump') : dump.Steady dump' :=
  .of_frozen h.books.frozen h.books.cursor.ge

/-- Nothing is to be released, completed or cleared. -/
structure Ready (dump : DumpCoordinator α) : Prop where
  completion : dump.state.completionInProgress = false
  authority : dump.state.pendingCompletion = none
  release : dump.state.pendingRelease = none
  clear : dump.state.pendingClear = none

theorem Ready.noClear (h : dump.Ready) {P : PendingClear → Prop} (pending : PendingClear)
    (hpending : dump.state.pendingClear = some pending) : P pending := by
  rw [h.clear] at hpending
  cases hpending

theorem Inv.guard_eq_none {unbooked : List Range} (h : dump.Inv unbooked) (hready : dump.Ready) :
    dump.guard = none := by
  by_contra hguard
  have hdelivering := (h.guard hguard).2.1
  rw [hready.authority] at hdelivering
  cases hdelivering

/-! ### Releases and completions -/

theorem Inv.bindArena (h : dump.Inv []) :
    (DumpCoordinator.bindArena : DumpAttempt α Unit).Ends dump (fun _ => dump.Reconciled)
      (fun _ => dump.Reconciled) := by
  refine .bindGet ?_
  cases dump.state.boundRuntimeId with
  | some runtimeId => exact .ite (fun _ => .pure (.refl h)) fun _ => .fail (.refl h)
  | none =>
      refine .modify ⟨h.authority ⟨rfl, rfl, rfl, rfl, rfl, rfl, rfl, rfl⟩ (fun hguard => ?_)
        h.reusable h.reset, ⟨rfl, rfl, rfl, rfl, rfl, rfl, rfl, rfl⟩, rfl, rfl, rfl⟩
      exact ⟨(h.guard hguard).1, (h.guard hguard).2.1⟩

theorem Inv.releaseFrozen (h : dump.Inv []) (frozen : FrozenCaptureEpoch) (call : Call α) :
    (DumpCoordinator.onArena (CaptureArena.releaseFrozen frozen call)).Ends dump
      (fun _ dump' => dump.Reconciled dump' ∧ ∃ arena, dump' = { dump with arena })
      (fun _ => dump.Reconciled) := by
  refine .zoom ((h.arena.releaseFrozen frozen call).mono ?_ ?_)
  · rintro result arena ⟨hcarries, hlater, -⟩
    exact ⟨⟨h.onArena hlater hcarries, ⟨rfl, rfl, rfl, rfl, rfl, rfl, rfl, rfl⟩, rfl, rfl, rfl⟩,
      arena, rfl⟩
  · rintro e arena ⟨hcarries, hlater⟩
    exact ⟨h.onArena hlater hcarries, ⟨rfl, rfl, rfl, rfl, rfl, rfl, rfl, rfl⟩, rfl, rfl, rfl⟩

theorem Inv.setPendingRelease (h : dump.Inv []) (pendingRelease : Option FrozenCaptureEpoch) :
    dump.Reconciled { dump with state := { dump.state with pendingRelease } } :=
  ⟨h.authority ⟨rfl, rfl, rfl, rfl, rfl, rfl, rfl, rfl⟩
      (fun hguard => ⟨(h.guard hguard).1, (h.guard hguard).2.1⟩) h.reusable h.reset,
    ⟨rfl, rfl, rfl, rfl, rfl, rfl, rfl, rfl⟩, rfl, rfl, rfl⟩

/-- A completion slot without a delivery belongs to no guard. -/
theorem Inv.setFinalized (h : dump.Inv []) (hguard : dump.guard = none)
    {decision : FrozenExportDecision} (hdecision : decision.valid = false)
    (failedRelease : Option FrozenCaptureEpoch) :
    dump.Reconciled { dump with
      state := { dump.state with
        pendingCompletion := some (.finalized decision failedRelease) } } := by
  refine ⟨h.authority ⟨rfl, rfl, rfl, rfl, rfl, rfl, rfl, rfl⟩ (absurd hguard) h.reusable ?_,
    ⟨rfl, rfl, rfl, rfl, rfl, rfl, rfl, rfl⟩, rfl, rfl, rfl⟩
  rintro _ _ ⟨⟩
  exact hdecision

theorem Inv.guard_of_finalized (h : dump.Inv []) {decision : FrozenExportDecision}
    {failedRelease : Option FrozenCaptureEpoch}
    (hfinalized : dump.state.pendingCompletion = some (.finalized decision failedRelease)) :
    dump.guard = none := by
  by_contra hguard
  have hdelivering := (h.guard hguard).2.1
  rw [hfinalized] at hdelivering
  cases hdelivering

theorem Inv.releasePending (h : dump.Inv []) (call : Call α) :
    (DumpCoordinator.releasePending call).Ends dump
      (fun _ dump' => dump.Reconciled dump' ∧ dump'.state.pendingRelease = none)
      (fun _ => dump.Reconciled) := by
  refine .bindGet ?_
  cases hpending : dump.state.pendingRelease with
  | none => exact .pure ⟨.refl h, hpending⟩
  | some frozen =>
      refine .bind (h.releaseFrozen frozen call) ?_
      rintro ⟨result, frozen'⟩ _ ⟨harena, arena, rfl⟩
      cases result with
      | error e => exact .bindModify (.fail (harena.trans (harena.inv.setPendingRelease _)))
      | ok _ => exact .modify ⟨harena.trans (harena.inv.setPendingRelease none), rfl⟩

theorem Inv.releaseCompleted (h : dump.Inv []) (call : Call α) :
    (DumpCoordinator.releaseCompleted call).Ends dump
      (fun _ dump' => dump.Reconciled dump' ∧
        dump'.state.pendingRelease = dump.state.pendingRelease)
      (fun _ => dump.Reconciled) := by
  refine .bindGet ?_
  cases hcompletion : dump.state.pendingCompletion with
  | none => exact .pure ⟨.refl h, rfl⟩
  | some authority =>
      cases authority with
      | delivering => exact .pure ⟨.refl h, rfl⟩
      | finalized decision failedRelease =>
          have hdecision := h.reset decision failedRelease hcompletion
          have hguard := h.guard_of_finalized hcompletion
          cases failedRelease with
          | none => exact .pure ⟨.refl h, rfl⟩
          | some frozen =>
              refine .bind (h.releaseFrozen frozen call) ?_
              rintro ⟨result, frozen'⟩ _ ⟨harena, arena, rfl⟩
              cases result with
              | error e => exact .bindModify (.fail (harena.trans (harena.inv.setFinalized hguard hdecision _)))
              | ok _ => exact .modify ⟨harena.trans (harena.inv.setFinalized hguard hdecision _), rfl⟩

theorem Inv.recoverPendingRelease (h : dump.Inv []) (calls : ReleaseCalls α) :
    (DumpCoordinator.recoverPendingRelease calls).Ends dump
      (fun _ dump' => dump.Reconciled dump' ∧ dump'.state.pendingRelease = none ∧
        dump'.state.pendingClear = none)
      (fun _ => dump.Reconciled) := by
  refine .bindGet (.bindRequire (fun _ => .refl h) fun hclear => ?_)
  refine .bind (h.releasePending calls.pending) ?_
  rintro _ dump' ⟨hreconciled, hrelease⟩
  refine (hreconciled.inv.releaseCompleted calls.completion).mono ?_ ?_
  · rintro _ dump'' ⟨hreconciled', hrelease'⟩
    have hall := hreconciled.trans hreconciled'
    exact ⟨hall, hrelease'.trans hrelease, hall.books.pendingClear.trans hclear⟩
  · intro e dump'' hreconciled'
    exact hreconciled.trans hreconciled'

theorem Inv.reconcileCompletionAuthorityWithoutRelease (h : dump.Inv []) :
    (DumpCoordinator.reconcileCompletionAuthorityWithoutRelease : DumpAttempt α Unit).Ends dump
      (fun _ dump' => dump.Reconciled dump' ∧ dump'.state.completionInProgress = false ∧
        dump'.state.pendingCompletion = none ∧
        dump'.state.pendingRelease = dump.state.pendingRelease)
      (fun _ => dump.Reconciled) := by
  refine .bindGet ?_
  cases hcompletion : dump.state.pendingCompletion with
  | none =>
      exact .ite (fun hidle => .pure ⟨.refl h, hidle, hcompletion, rfl⟩) fun _ => .fail (.refl h)
  | some authority =>
      cases authority with
      | delivering => exact .fail (.refl h)
      | finalized decision failedRelease =>
          have hdecision := h.reset decision failedRelease hcompletion
          have hguard := h.guard_of_finalized hcompletion
          have hbooks : ∀ {reusableDecision}, (∀ spare, reusableDecision = some spare →
              spare.valid = false) → dump.Reconciled { dump with
                state := { dump.state with
                  reusableDecision
                  pendingCompletion := none
                  completionInProgress := false } } := by
            intro reusableDecision hreusable
            refine ⟨h.authority ⟨rfl, rfl, rfl, rfl, rfl, rfl, rfl, rfl⟩ (absurd hguard)
              hreusable ?_, ⟨rfl, rfl, rfl, rfl, rfl, rfl, rfl, rfl⟩, rfl, rfl, rfl⟩
            rintro _ _ ⟨⟩
          refine .bindRequire (fun _ => .refl h) fun _ => .bindRequire (fun _ => .refl h) fun _ => ?_
          cases hreusable : dump.state.reusableDecision with
          | some primary =>
              refine .bindRequire (fun _ => .refl h) fun _ => .modify ⟨?_, rfl, rfl, rfl⟩
              have := hbooks h.reusable
              exact this
          | none =>
              refine .modify ⟨hbooks ?_, rfl, rfl, rfl⟩
              rintro _ ⟨⟩
              exact hdecision

theorem Inv.reconcileCompletionAuthority (h : dump.Inv []) (calls : ReleaseCalls α) :
    (DumpCoordinator.reconcileCompletionAuthority calls).Ends dump
      (fun _ dump' => dump.Reconciled dump' ∧ dump'.Ready)
      (fun _ => dump.Reconciled) := by
  have hgo : (do
      DumpCoordinator.recoverPendingRelease calls
      DumpCoordinator.reconcileCompletionAuthorityWithoutRelease : DumpAttempt α Unit).Ends dump
      (fun _ dump' => dump.Reconciled dump' ∧ dump'.Ready) (fun _ => dump.Reconciled) := by
    refine .bind (h.recoverPendingRelease calls) ?_
    rintro _ dump' ⟨hreconciled, hrelease, hclear⟩
    refine hreconciled.inv.reconcileCompletionAuthorityWithoutRelease.mono ?_ ?_
    · rintro _ dump'' ⟨hreconciled', hidle, hauthority, hrelease'⟩
      exact ⟨hreconciled.trans hreconciled', hidle, hauthority, hrelease'.trans hrelease,
        hreconciled'.books.pendingClear.trans hclear⟩
    · intro e dump'' hreconciled'
      exact hreconciled.trans hreconciled'
  refine .bindGet ?_
  cases dump.state.pendingCompletion with
  | none =>
      cases dump.state.completionInProgress with
      | false => exact hgo
      | true => exact .fail (.refl h)
  | some authority =>
      cases authority with
      | delivering => exact .fail (.refl h)
      | finalized decision failedRelease =>
          cases dump.state.completionInProgress with
          | false => exact .fail (.refl h)
          | true => exact hgo

/-- A transaction that no guard and no state holds any more is completed:
released, or kept for a later release. -/
theorem Inv.finalizeCompletedTransaction (h : dump.Inv []) (hguard : dump.guard = none)
    (hidle : dump.state.completionInProgress = true)
    (hdelivering : dump.state.pendingCompletion = some .delivering)
    (transaction : FrozenTransaction) (call : Call α) :
    (DumpCoordinator.finalizeCompletedTransaction (some transaction) call).Ends dump
      (fun _ => dump.Reconciled) (fun _ => dump.Reconciled) := by
  refine .bindGet (.ite (fun _ => ?_) fun hnot => absurd ⟨hidle, hdelivering⟩ hnot)
  change (releaseTransaction transaction call).Ends _ _ _
  refine .bind (h.releaseFrozen transaction.frozen call) ?_
  rintro ⟨result, frozen⟩ _ ⟨harena, arena, rfl⟩
  cases result with
  | error e => exact .modify (harena.trans
      (harena.inv.setFinalized hguard transaction.decision.reset_valid _))
  | ok _ =>
      have hfinalized := harena.inv.setFinalized hguard transaction.decision.reset_valid none
      refine .bindModify (hfinalized.inv.reconcileCompletionAuthorityWithoutRelease.mono ?_ ?_)
      · rintro _ dump' ⟨hreconciled, -⟩
        exact harena.trans (hfinalized.trans hreconciled)
      · intro e dump' hreconciled
        exact harena.trans (hfinalized.trans hreconciled)

end Lamb.Dump.DumpCoordinator
