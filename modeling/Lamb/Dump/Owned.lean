import Lamb.Arena.Owner
import Lamb.Dump.Run

/-!
Who owns the frozen epoch, between the coordinator and the worker. The state has
one place for it at a time: the frozen transaction, the completion in delivery,
the pending release, or the failed release of a completion. The decision of the
coordinator moves with it and is never lost.
-/

namespace Lamb.Dump

open Lamb.Ring Lamb.Lib Lamb.Arena

variable {α : Type}

/-- Where the state has the decision and the epoch `owner`; `hand` is a
transaction that a completion has taken out of the state. -/
inductive DumpState.Placed (state : DumpState) :
    Option FrozenTransaction → Option FrozenCaptureEpoch → Prop
  | idle (decision : FrozenExportDecision) (hreusable : state.reusableDecision = some decision)
      (hfrozen : state.frozen = none) (hcompletion : state.pendingCompletion = none)
      (hprogress : state.completionInProgress = false) :
      state.Placed none state.pendingRelease
  | frozen (transaction : FrozenTransaction) (hreusable : state.reusableDecision = none)
      (hfrozen : state.frozen = some transaction) (hcompletion : state.pendingCompletion = none)
      (hprogress : state.completionInProgress = false) (hrelease : state.pendingRelease = none) :
      state.Placed none (some transaction.frozen)
  | delivering (transaction : FrozenTransaction) (hreusable : state.reusableDecision = none)
      (hfrozen : state.frozen = none) (hcompletion : state.pendingCompletion = some .delivering)
      (hprogress : state.completionInProgress = true) (hrelease : state.pendingRelease = none) :
      state.Placed (some transaction) (some transaction.frozen)
  | finalized (decision : FrozenExportDecision) (failedRelease : Option FrozenCaptureEpoch)
      (hreusable : state.reusableDecision = none) (hfrozen : state.frozen = none)
      (hcompletion : state.pendingCompletion = some (.finalized decision failedRelease))
      (hprogress : state.completionInProgress = true) (hrelease : state.pendingRelease = none) :
      state.Placed none failedRelease

/-- Two states with the same places. -/
structure DumpState.SamePlaces (state state' : DumpState) : Prop where
  reusable : state'.reusableDecision = state.reusableDecision
  frozen : state'.frozen = state.frozen
  completion : state'.pendingCompletion = state.pendingCompletion
  progress : state'.completionInProgress = state.completionInProgress
  release : state'.pendingRelease = state.pendingRelease

theorem DumpState.Placed.same {state state' : DumpState} {hand : Option FrozenTransaction}
    {owner : Option FrozenCaptureEpoch} (h : state.Placed hand owner)
    (hsame : state.SamePlaces state') : state'.Placed hand owner := by
  obtain ⟨hreusable', hfrozen', hcompletion', hprogress', hrelease'⟩ := hsame
  cases h with
  | idle decision hreusable hfrozen hcompletion hprogress =>
      rw [← hrelease']
      exact .idle decision (hreusable'.trans hreusable) (hfrozen'.trans hfrozen)
        (hcompletion'.trans hcompletion) (hprogress'.trans hprogress)
  | frozen transaction hreusable hfrozen hcompletion hprogress hrelease =>
      exact .frozen transaction (hreusable'.trans hreusable) (hfrozen'.trans hfrozen)
        (hcompletion'.trans hcompletion) (hprogress'.trans hprogress) (hrelease'.trans hrelease)
  | delivering transaction hreusable hfrozen hcompletion hprogress hrelease =>
      exact .delivering transaction (hreusable'.trans hreusable) (hfrozen'.trans hfrozen)
        (hcompletion'.trans hcompletion) (hprogress'.trans hprogress) (hrelease'.trans hrelease)
  | finalized decision _ hreusable hfrozen hcompletion hprogress hrelease =>
      exact .finalized decision _ (hreusable'.trans hreusable) (hfrozen'.trans hfrozen)
        (hcompletion'.trans hcompletion) (hprogress'.trans hprogress) (hrelease'.trans hrelease)

/-- A committed clear moves the frozen epoch to the pending release, and its
decision back. -/
theorem DumpState.Placed.commitClearReport {state : DumpState} {hand : Option FrozenTransaction}
    {owner : Option FrozenCaptureEpoch} (h : state.Placed hand owner)
    (report : CaptureClearReport) : (state.commitClearReport report).Placed hand owner := by
  unfold DumpState.commitClearReport
  split
  · exact h
  next pending hpending =>
  simp only
  split
  · next transaction hend hsome =>
      cases h with
      | idle decision hreusable hfrozen =>
          rw [hfrozen] at hsome
          cases hsome
      | frozen transaction' hreusable hfrozen hcompletion hprogress hrelease =>
          obtain rfl := Option.some.inj (hfrozen.symm.trans hsome)
          exact .idle transaction'.decision.reset rfl rfl hcompletion hprogress
      | delivering transaction' hreusable hfrozen =>
          rw [hfrozen] at hsome
          cases hsome
      | finalized decision failedRelease hreusable hfrozen =>
          rw [hfrozen] at hsome
          cases hsome
  · exact h.same ⟨rfl, rfl, rfl, rfl, rfl⟩

namespace DumpCoordinator

/-- The owner of the worker's frozen epoch. -/
structure OwnedBy (runtimeId : ℕ) (hand : Option FrozenTransaction)
    (owner : Option FrozenCaptureEpoch) (dump : DumpCoordinator α) : Prop where
  placed : dump.state.Placed hand owner
  arena : dump.arena.Owns runtimeId (owner.map FrozenCaptureEpoch.record)
  epoch : ∀ epoch, owner = some epoch → epoch.runtimeId = runtimeId ∧ epoch.released = false

def Owned (runtimeId : ℕ) (dump : DumpCoordinator α) : Prop :=
  ∃ owner, dump.OwnedBy runtimeId dump.guard owner

variable {runtimeId : ℕ} {dump : DumpCoordinator α} {hand : Option FrozenTransaction}
  {owner : Option FrozenCaptureEpoch}

theorem Owned.same (h : dump.Owned runtimeId) {dump' : DumpCoordinator α}
    (hguard : dump'.guard = dump.guard) (harena : dump'.arena = dump.arena)
    (hsame : dump.state.SamePlaces dump'.state) : dump'.Owned runtimeId := by
  obtain ⟨owner, hplaced, howns, hepoch⟩ := h
  refine ⟨owner, ?_, ?_, hepoch⟩
  · rw [hguard]
    exact hplaced.same hsame
  · rw [harena]
    exact howns

theorem owned_modifyState {f : DumpState → DumpState}
    (hf : ∀ state, DumpState.SamePlaces state (f state)) :
    (modifyState f : DumpAttempt α Unit).Preserves (Owned runtimeId) :=
  .modify fun dump h => h.same rfl rfl (hf dump.state)

theorem owned_onArena {β : Type} {call : Attempt (CaptureArena α) LambError β}
    (hcall : ∀ owner, call.Preserves (CaptureArena.Owns runtimeId owner)) :
    (onArena call).Preserves (Owned runtimeId) := by
  rintro dump ⟨owner, hplaced, howns, hepoch⟩
  exact .zoom ((hcall _ dump.arena howns).mono
    (fun _ _ harena => ⟨owner, hplaced, harena, hepoch⟩)
    fun _ _ harena => ⟨owner, hplaced, harena, hepoch⟩)

theorem owned_interlude (events : List (ArenaEvent α)) :
    (interlude events).Preserves (Owned runtimeId) :=
  owned_onArena fun _ => .modify fun _ h => h.events events

theorem owned_bindArena : (bindArena : DumpAttempt α Unit).Preserves (Owned runtimeId) := by
  refine .bindGet fun dump => ?_
  cases dump.state.boundRuntimeId with
  | some bound => exact .ite (.pure _) (.fail _)
  | none => exact owned_modifyState fun _ => ⟨rfl, rfl, rfl, rfl, rfl⟩

/-! ### Releases -/

theorem OwnedBy.release {frozen : FrozenCaptureEpoch}
    (h : dump.OwnedBy runtimeId hand (some frozen)) (call : Call α) :
    (onArena (CaptureArena.releaseFrozen frozen call)).Ends dump
      (fun result dump' => dump'.state = dump.state ∧ dump'.guard = dump.guard ∧
        (result.1 = .ok () → dump'.arena.Owns runtimeId none) ∧
        ∀ e, result.1 = .error e → dump'.arena.Owns runtimeId (some result.2.record) ∧
          result.2.runtimeId = runtimeId ∧ result.2.released = false)
      (fun _ _ => False) := by
  obtain ⟨hruntime, hreleased⟩ := h.epoch frozen rfl
  refine .zoom ((h.arena.releaseFrozen hruntime hreleased call).mono ?_ fun _ _ hnever => hnever)
  rintro result arena ⟨hok, herror⟩
  refine ⟨rfl, rfl, hok, fun e he => ?_⟩
  obtain ⟨howns, hruntime', hreleased'⟩ := herror e he
  exact ⟨howns, hruntime'.trans hruntime, hreleased'⟩

theorem Owned.releasePending (h : dump.Owned runtimeId) (call : Call α) :
    (DumpCoordinator.releasePending call).Ends dump
      (fun _ dump' => dump'.Owned runtimeId ∧ dump'.state.pendingRelease = none)
      (fun _ => Owned runtimeId) := by
  refine .bindGet ?_
  cases hpending : dump.state.pendingRelease with
  | none => exact .pure ⟨h, hpending⟩
  | some frozen =>
      obtain ⟨owner, howned⟩ := h
      have hplaced := howned.placed
      generalize hhand : dump.guard = hand at hplaced howned
      cases hplaced with
      | idle decision hreusable hfrozen hcompletion hprogress =>
          rw [hpending] at howned
          refine .bind ((howned.release call).mono (fun _ _ hdone => hdone)
            fun _ _ hnever => hnever.elim) ?_
          rintro ⟨result, frozen'⟩ dump' ⟨hstate, hguard, hok, herror⟩
          cases result with
          | error e =>
              obtain ⟨howns, hepoch⟩ := herror e rfl
              refine .bindModify (.fail ⟨some frozen', ?_, howns, ?_⟩)
              · rw [hguard, hhand, hstate]
                exact .idle decision hreusable hfrozen hcompletion hprogress
              · rintro _ ⟨rfl⟩
                exact hepoch
          | ok _ =>
              refine .modify ⟨⟨none, ?_, hok rfl, by rintro _ ⟨⟩⟩, rfl⟩
              rw [hguard, hhand, hstate]
              exact .idle decision hreusable hfrozen hcompletion hprogress
      | frozen transaction hreusable hfrozen hcompletion hprogress hrelease =>
          rw [hpending] at hrelease
          cases hrelease
      | delivering transaction hreusable hfrozen hcompletion hprogress hrelease =>
          rw [hpending] at hrelease
          cases hrelease
      | finalized decision failedRelease hreusable hfrozen hcompletion hprogress hrelease =>
          rw [hpending] at hrelease
          cases hrelease

theorem Owned.releaseCompleted (h : dump.Owned runtimeId)
    (hpending : dump.state.pendingRelease = none) (call : Call α) :
    (DumpCoordinator.releaseCompleted call).Ends dump
      (fun _ dump' => dump'.Owned runtimeId ∧ dump'.state.pendingRelease = none)
      (fun _ => Owned runtimeId) := by
  refine .bindGet ?_
  cases hauthority : dump.state.pendingCompletion with
  | none => exact .pure ⟨h, hpending⟩
  | some authority =>
      cases authority with
      | delivering => exact .pure ⟨h, hpending⟩
      | finalized decision failedRelease =>
          cases failedRelease with
          | none => exact .pure ⟨h, hpending⟩
          | some frozen =>
              obtain ⟨owner, howned⟩ := h
              have hplaced := howned.placed
              generalize hhand : dump.guard = hand at hplaced howned
              cases hplaced with
              | finalized decision' lost hreusable hfrozen hcompletion hprogress hrelease =>
                  rw [hauthority] at hcompletion
                  obtain ⟨rfl, rfl⟩ := PendingCompletionAuthority.finalized.inj
                    (Option.some.inj hcompletion)
                  refine .bind ((howned.release call).mono (fun _ _ hdone => hdone)
                    fun _ _ hnever => hnever.elim) ?_
                  rintro ⟨result, frozen'⟩ dump' ⟨hstate, hguard, hok, herror⟩
                  cases result with
                  | error e =>
                      obtain ⟨howns, hepoch⟩ := herror e rfl
                      refine .bindModify (.fail ⟨some frozen', ?_, howns, ?_⟩)
                      · rw [hguard, hhand, hstate]
                        exact .finalized decision (some frozen') hreusable hfrozen rfl hprogress
                          hrelease
                      · rintro _ ⟨rfl⟩
                        exact hepoch
                  | ok _ =>
                      refine .modify ⟨⟨none, ?_, hok rfl, by rintro _ ⟨⟩⟩, ?_⟩
                      · rw [hguard, hhand, hstate]
                        exact .finalized decision none hreusable hfrozen rfl hprogress hrelease
                      · rw [hstate]
                        exact hrelease
              | idle decision' hreusable hfrozen hcompletion =>
                  rw [hauthority] at hcompletion
                  cases hcompletion
              | frozen transaction hreusable hfrozen hcompletion =>
                  rw [hauthority] at hcompletion
                  cases hcompletion
              | delivering transaction hreusable hfrozen hcompletion =>
                  rw [hauthority] at hcompletion
                  cases hcompletion

theorem Owned.recoverPendingRelease (h : dump.Owned runtimeId) (calls : ReleaseCalls α) :
    (DumpCoordinator.recoverPendingRelease calls).Ends dump
      (fun _ dump' => dump'.Owned runtimeId ∧ dump'.state.pendingRelease = none)
      (fun _ => Owned runtimeId) := by
  refine .bindGet (.bindRequire (fun _ => h) fun _ => .bind (h.releasePending calls.pending) ?_)
  rintro _ released ⟨howned, hpending⟩
  exact howned.releaseCompleted hpending calls.completion

theorem owned_recoverPendingRelease (calls : ReleaseCalls α) :
    (recoverPendingRelease calls).Preserves (Owned runtimeId) :=
  fun _ h => (h.recoverPendingRelease calls).mono (fun _ _ hdone => hdone.1) fun _ _ hlost => hlost

theorem Owned.reconcileWithoutRelease (h : dump.Owned runtimeId)
    (hpending : dump.state.pendingRelease = none) :
    (reconcileCompletionAuthorityWithoutRelease : DumpAttempt α Unit).Ends dump
      (fun _ dump' => dump'.Owned runtimeId ∧ dump'.state.pendingRelease = none)
      (fun _ => Owned runtimeId) := by
  refine .bindGet ?_
  cases hauthority : dump.state.pendingCompletion with
  | none => exact .ite (fun _ => .pure ⟨h, hpending⟩) fun _ => .fail h
  | some authority =>
      cases authority with
      | delivering => exact .fail h
      | finalized decision failedRelease =>
          refine .bindRequire (fun _ => h) fun _ => .bindRequire (fun _ => h) fun hnone => ?_
          obtain ⟨owner, howned⟩ := h
          have hplaced := howned.placed
          generalize hhand : dump.guard = hand at hplaced howned
          cases hplaced with
          | finalized decision' failedRelease' hreusable hfrozen hcompletion hprogress hrelease =>
              rw [hauthority] at hcompletion
              obtain ⟨rfl, rfl⟩ := PendingCompletionAuthority.finalized.inj
                (Option.some.inj hcompletion)
              subst hnone
              rw [hreusable]
              refine .modify ⟨⟨none, ?_, howned.arena, by rintro _ ⟨⟩⟩, hpending⟩
              show DumpState.Placed _ dump.guard _
              rw [hhand, ← hpending]
              exact .idle decision rfl hfrozen rfl rfl
          | idle decision' hreusable hfrozen hcompletion =>
              rw [hauthority] at hcompletion
              cases hcompletion
          | frozen transaction hreusable hfrozen hcompletion =>
              rw [hauthority] at hcompletion
              cases hcompletion
          | delivering transaction hreusable hfrozen hcompletion =>
              rw [hauthority] at hcompletion
              cases hcompletion

/-- Nothing is left to release: the owner is not the pending release. -/
structure Drained (runtimeId : ℕ) (dump : DumpCoordinator α) : Prop where
  owned : dump.Owned runtimeId
  release : dump.state.pendingRelease = none

theorem Drained.same (h : dump.Drained runtimeId) {dump' : DumpCoordinator α}
    (hguard : dump'.guard = dump.guard) (harena : dump'.arena = dump.arena)
    (hsame : dump.state.SamePlaces dump'.state) : dump'.Drained runtimeId where
  owned := h.owned.same hguard harena hsame
  release := hsame.release.trans h.release

theorem Owned.reconcileCompletionAuthority (h : dump.Owned runtimeId) (calls : ReleaseCalls α) :
    (DumpCoordinator.reconcileCompletionAuthority calls).Ends dump
      (fun _ => Drained runtimeId) (fun _ => Owned runtimeId) := by
  have hgo : (do
      DumpCoordinator.recoverPendingRelease calls
      reconcileCompletionAuthorityWithoutRelease : DumpAttempt α Unit).Ends dump
      (fun _ => Drained runtimeId) (fun _ => Owned runtimeId) := by
    refine .bind (h.recoverPendingRelease calls) ?_
    rintro _ released ⟨howned, hpending⟩
    exact (howned.reconcileWithoutRelease hpending).mono
      (fun _ _ hdone => ⟨hdone.1, hdone.2⟩) fun _ _ hlost => hlost
  refine .bindGet ?_
  cases dump.state.pendingCompletion with
  | none =>
      cases dump.state.completionInProgress with
      | false => exact hgo
      | true => exact .fail h
  | some authority =>
      cases authority with
      | delivering => exact .fail h
      | finalized decision failedRelease =>
          cases dump.state.completionInProgress with
          | false => exact .fail h
          | true => exact hgo

/-! ### Clears -/

theorem Owned.commitClearReport (h : dump.Owned runtimeId) (report : CaptureClearReport) :
    Owned runtimeId { dump with state := dump.state.commitClearReport report } := by
  obtain ⟨owner, hplaced, howns, hepoch⟩ := h
  exact ⟨owner, hplaced.commitClearReport report, howns, hepoch⟩

theorem owned_acceptClearReport (report : CaptureClearReport) :
    (acceptClearReport report : DumpAttempt α Unit).Preserves (Owned runtimeId) :=
  .bindGet fun _ => .bindOfExcept fun _ => .modify fun _ h => h.commitClearReport report

theorem owned_recoverPendingClear (call : Call α) :
    (recoverPendingClear call).Preserves (Owned runtimeId) := by
  refine .bindGet fun dump => ?_
  cases dump.state.pendingClear with
  | none => exact .pure _
  | some pending =>
      refine .bindRequire (.bind (owned_onArena fun _ =>
        CaptureArena.preserves_recoverClearResult _ call) fun report => ?_)
      cases report with
      | none =>
          exact .bind (owned_modifyState fun _ => ⟨rfl, rfl, rfl, rfl, rfl⟩) fun _ => .fail _
      | some report => exact .bind (owned_acceptClearReport report) fun _ => .pure _

theorem owned_clearActive (accounting : CaptureClearAccounting) (call : Call α) :
    (clearActive accounting call).Preserves (Owned runtimeId) := by
  refine .bind (.capture (owned_onArena fun _ =>
    CaptureArena.preserves_clearActiveAccounted accounting call)) fun result => ?_
  cases result with
  | ok report => exact .pure _
  | error e =>
      refine .ite (.fail _) ?_
      exact .bind (owned_modifyState fun _ => ⟨rfl, rfl, rfl, rfl, rfl⟩) fun _ => .fail _

theorem owned_submitClear (input : ClearInput α) :
    (submitClear input).Preserves (Owned runtimeId) :=
  .bindGet fun _ => .bindRequire (.bind (owned_recoverPendingRelease input.release) fun _ =>
    .bindGet fun _ => .bindOfExcept fun _ =>
      .bind (owned_modifyState fun _ => ⟨rfl, rfl, rfl, rfl, rfl⟩) fun _ =>
        .bind (owned_clearActive _ input.clear) fun report =>
          .bind (owned_acceptClearReport report) fun _ =>
            .bind (.capture (owned_recoverPendingRelease input.releaseCleared)) fun _ => .pure _)

theorem Owned.clearInOrder (h : dump.Owned runtimeId) (input : ClearInput α) :
    (DumpCoordinator.clearInOrder input).Ends dump
      (fun _ => Owned runtimeId) (fun _ => Owned runtimeId) := by
  refine .bind (owned_bindArena dump h) fun _ bound hbound => ?_
  refine .bind (owned_recoverPendingClear input.recoverClear bound hbound) ?_
  intro recoveredClear recovered hrecovered
  refine .bind (hrecovered.reconcileCompletionAuthority input.reconcile) ?_
  intro _ reconciled hreconciled
  exact .ite (fun _ => .pure hreconciled.owned) fun _ =>
    owned_submitClear input reconciled hreconciled.owned

/-! ### Completions -/

structure Holding (runtimeId : ℕ) (transaction : FrozenTransaction) (dump : DumpCoordinator α) :
    Prop where
  owned : dump.Owned runtimeId
  frozen : dump.state.frozen = some transaction

/-- A completion has taken the transaction out of the state. -/
structure Completing (runtimeId : ℕ) (transaction : FrozenTransaction)
    (dump : DumpCoordinator α) : Prop where
  guard : dump.guard = none
  owned : dump.OwnedBy runtimeId (some transaction) (some transaction.frozen)

variable {transaction : FrozenTransaction}

theorem Holding.same (h : dump.Holding runtimeId transaction) {dump' : DumpCoordinator α}
    (hguard : dump'.guard = dump.guard) (harena : dump'.arena = dump.arena)
    (hsame : dump.state.SamePlaces dump'.state) : dump'.Holding runtimeId transaction where
  owned := h.owned.same hguard harena hsame
  frozen := hsame.frozen.trans h.frozen

theorem Holding.interlude (h : dump.Holding runtimeId transaction) (events : List (ArenaEvent α)) :
    (DumpCoordinator.interlude events).Ends dump
      (fun _ => Holding runtimeId transaction) (fun _ _ => False) :=
  ⟨(owned_interlude events).reached h.owned, h.frozen⟩

theorem Holding.commitRange (h : dump.Holding runtimeId transaction) (range : Range)
    (outcome : LossBreakdown → DumpOutcome) (cumulative : ℕ) (commit : PrevalidatedLossCommit) :
    (DumpCoordinator.commitRange range outcome cumulative commit).Ends dump
      (fun _ => Holding runtimeId transaction) (fun _ _ => False) :=
  .modify (h.same rfl rfl ⟨rfl, rfl, rfl, rfl, rfl⟩)

/-- A reserved completion takes the transaction, which is there to take. -/
theorem Holding.takeReserved (h : dump.Holding runtimeId transaction) {β : Type}
    (lost : DumpAttempt α Unit) (message : String) {next : FrozenTransaction → DumpAttempt α β}
    {Q : β → DumpCoordinator α → Prop}
    (hnext : ∀ dump', Completing runtimeId transaction dump' →
      (next transaction).Ends dump' Q (fun _ => Owned runtimeId)) :
    (beginCompletion >>= fun _ => takeFrozen lost message >>= next).Ends dump Q
      (fun _ => Owned runtimeId) := by
  obtain ⟨⟨owner, howned⟩, hfrozen⟩ := h
  have hplaced := howned.placed
  generalize hhand : dump.guard = hand at hplaced howned
  cases hplaced with
  | frozen transaction' hreusable hfrozen' hcompletion hprogress hrelease =>
      obtain rfl := Option.some.inj (hfrozen.symm.trans hfrozen')
      have hready : dump.state.completionInProgress = false ∧
          dump.state.pendingCompletion = none ∧ dump.state.pendingRelease = none :=
        ⟨hprogress, hcompletion, hrelease⟩
      have hbegun : beginCompletion dump =
          (.ok (), { dump with state := { dump.state with
            completionInProgress := true, pendingCompletion := some .delivering } }) := by
        change (Attempt.require _ _ >>= fun _ => modifyState _) dump = _
        rw [Attempt.require, if_pos hready]
        rfl
      refine .bindOk hbegun ?_
      have htaken : takeFrozen lost message { dump with state := { dump.state with
            completionInProgress := true, pendingCompletion := some .delivering } } =
          (.ok transaction, { dump with state := { dump.state with
            completionInProgress := true
            pendingCompletion := some .delivering
            frozen := none } }) := by
        simp only [takeFrozen, Bind.bind, Attempt.get, hfrozen]
        rfl
      refine .bindOk htaken (hnext _ ⟨hhand, ?_, howned.arena, howned.epoch⟩)
      exact .delivering transaction hreusable rfl rfl rfl hrelease
  | idle decision hreusable hnone =>
      rw [hfrozen] at hnone
      cases hnone
  | delivering transaction' hreusable hnone =>
      rw [hfrozen] at hnone
      cases hnone
  | finalized decision failedRelease hreusable hnone =>
      rw [hfrozen] at hnone
      cases hnone

/-- Released or not, a completed epoch keeps its owner or needs none. -/
theorem Completing.finalize (h : dump.Completing runtimeId transaction) (call : Call α) :
    (finalizeCompletedTransaction (some transaction) call).Ends dump
      (fun _ => Owned runtimeId) (fun _ => Owned runtimeId) := by
  obtain ⟨hguard, howned⟩ := h
  have hplaced := howned.placed
  refine .bindGet ?_
  cases hplaced with
  | delivering _ hreusable hfrozen hcompletion hprogress hrelease =>
      rw [if_pos ⟨hprogress, hcompletion⟩]
      refine .bind ((howned.release call).mono (fun _ _ hdone => hdone)
        fun _ _ hnever => hnever.elim) ?_
      rintro ⟨result, frozen⟩ dump' ⟨hstate, hguard', hok, herror⟩
      cases result with
      | error e =>
          obtain ⟨howns, hepoch⟩ := herror e rfl
          refine .modify ⟨some frozen, ?_, howns, ?_⟩
          · rw [hguard'.trans hguard, hstate]
            exact .finalized transaction.decision.reset (some frozen) hreusable hfrozen rfl
              hprogress hrelease
          · rintro _ ⟨rfl⟩
            exact hepoch
      | ok _ =>
          have hreleased : Owned runtimeId { dump' with state := { dump'.state with
              pendingCompletion := some (.finalized transaction.decision.reset none) } } := by
            refine ⟨none, ?_, hok rfl, by rintro _ ⟨⟩⟩
            rw [hguard'.trans hguard, hstate]
            exact .finalized transaction.decision.reset none hreusable hfrozen rfl hprogress
              hrelease
          have hnone : dump'.state.pendingRelease = none := by
            rw [hstate]
            exact hrelease
          exact .bindModify ((hreleased.reconcileWithoutRelease hnone).mono
            (fun _ _ hdone => hdone.1) fun _ _ hlost => hlost)

theorem Holding.completeDirect (h : dump.Holding runtimeId transaction) (lost : String)
    (call : Call α) :
    (DumpCoordinator.completeDirect lost call).Ends dump
      (fun _ => Owned runtimeId) (fun _ => Owned runtimeId) :=
  h.takeReserved _ _ fun _ hcompleting => hcompleting.finalize call

theorem Holding.completeGuarded (h : dump.Holding runtimeId transaction) (lost : String) :
    (DumpCoordinator.completeGuarded lost).Ends dump
      (fun _ => Owned runtimeId) (fun _ => Owned runtimeId) := by
  refine h.takeReserved _ _ fun dump' hcompleting => .modify ⟨some transaction.frozen, ?_⟩
  exact ⟨hcompleting.owned.placed, hcompleting.owned.arena, hcompleting.owned.epoch⟩

theorem Owned.finishDelivery (h : dump.Owned runtimeId) (input : DeliveryInput α) :
    (DumpCoordinator.finishDelivery input).Ends dump
      (fun _ => Owned runtimeId) (fun _ => Owned runtimeId) := by
  refine .bindGet ?_
  cases hguard : dump.guard with
  | none => exact .pure h
  | some transaction =>
      obtain ⟨owner, howned⟩ := h
      rw [hguard] at howned
      have hplaced := howned.placed
      cases hplaced with
      | delivering _ hreusable hfrozen hcompletion hprogress hrelease =>
          have hcompleting : Completing runtimeId transaction { dump with guard := none } :=
            ⟨rfl, howned.placed, howned.arena, howned.epoch⟩
          refine .bindModify (.bind (Q := fun _ => Owned runtimeId)
            (.capture (hcompleting.finalize input.release)) ?_)
          intro _ finalized hfinalized
          exact .ofExcept (fun _ _ => hfinalized) fun _ _ => hfinalized

/-! ### Persisting -/

theorem reconciled_recoverPublication (recovery : Result PublicationRecovery) :
    (recoverPublication recovery : DumpAttempt α _).Preserves (Drained runtimeId) := by
  have hkept : ∀ f : DumpState → DumpState, (∀ state, DumpState.SamePlaces state (f state)) →
      (modifyState f : DumpAttempt α Unit).Preserves (Drained runtimeId) :=
    fun f hf => .modify fun dump h => h.same rfl rfl (hf dump.state)
  refine .bind (.bindGet fun dump => ?_) fun accounting => .bind (.bindGet fun dump => ?_)
    fun _ => .pure _
  · cases dump.state.indeterminatePublication with
    | none => exact .pure _
    | some publication =>
        cases dump.state.frozen with
        | none => exact .fail _
        | some transaction => exact .bindOfExcept fun _ => .pure _
  · cases dump.state.indeterminatePublication with
    | none => exact .pure _
    | some publication =>
        cases recovery with
        | error e => exact .fail _
        | ok outcome =>
            cases outcome with
            | complete =>
                refine .bind (hkept _ fun _ => ⟨rfl, rfl, rfl, rfl, rfl⟩) fun _ =>
                  .bind (.modify fun dump h => ?_) fun _ => .pure _
                exact h.same rfl rfl ⟨rfl, rfl, rfl, rfl, rfl⟩
            | rolledBack =>
                exact .bind (hkept _ fun _ => ⟨rfl, rfl, rfl, rfl, rfl⟩) fun _ => .pure _
            | pending => exact .fail _

theorem Owned.reconcile (h : dump.Owned runtimeId) (input : ReconcileInput α) :
    (DumpCoordinator.reconcile input).Ends dump
      (fun _ => Drained runtimeId) (fun _ => Owned runtimeId) := by
  refine .bind (owned_bindArena dump h) fun _ bound hbound => ?_
  refine .bind (owned_recoverPendingClear input.recoverClear bound hbound) ?_
  intro _ recovered hrecovered
  refine .bind (hrecovered.reconcileCompletionAuthority input.release) ?_
  intro _ reconciled hreconciled
  exact (reconciled_recoverPublication input.recovery reconciled hreconciled).mono
    (fun _ _ hdone => hdone) fun _ _ hlost => hlost.owned

/-- A freeze hands the epoch to the frozen transaction. -/
theorem Drained.freezeTransaction (h : dump.Drained runtimeId) (call : Call α) :
    (DumpCoordinator.freezeTransaction call).Ends dump
      (fun transaction dump' => match transaction with
        | none => dump'.Owned runtimeId
        | some transaction => dump'.Holding runtimeId transaction)
      (fun _ => Owned runtimeId) := by
  refine .bindGet ?_
  cases hfrozen : dump.state.frozen with
  | some transaction => exact .pure ⟨h.owned, hfrozen⟩
  | none =>
      cases hreusable : dump.state.reusableDecision with
      | none => exact .fail h.owned
      | some decision =>
          obtain ⟨⟨owner, howned⟩, hrelease⟩ := h
          have hplaced := howned.placed
          generalize hhand : dump.guard = hand at hplaced howned
          cases hplaced with
          | idle decision' hreusable' hfrozen' hcompletion hprogress =>
              rw [hrelease] at howned
              refine .bindZoom (howned.arena.freezeSince dump.state.committedUntil call) ?_ ?_
              · rintro granted arena ⟨howns, hepoch⟩
                cases granted with
                | none =>
                    refine .pure ⟨none, ?_, howns, by rintro _ ⟨⟩⟩
                    change DumpState.Placed dump.state dump.guard none
                    rw [hhand]
                    exact howned.placed
                | some frozen =>
                    refine .bindModify (.pure ⟨⟨some frozen, ?_, howns, fun epoch heq =>
                      hepoch epoch heq⟩, rfl⟩)
                    simp only [hhand]
                    exact .frozen ⟨frozen, _, decision⟩ rfl rfl hcompletion hprogress hrelease
              · intro e arena howns
                refine ⟨none, ?_, howns, by rintro _ ⟨⟩⟩
                change DumpState.Placed dump.state dump.guard none
                rw [hhand]
                exact howned.placed
          | frozen transaction hnone =>
              rw [hreusable] at hnone
              cases hnone
          | delivering transaction hnone =>
              rw [hreusable] at hnone
              cases hnone
          | finalized decision' failedRelease hnone =>
              rw [hreusable] at hnone
              cases hnone

theorem owned_reportNoNewAudio :
    (reportNoNewAudio : DumpAttempt α DumpOutcome).Preserves (Owned runtimeId) :=
  .bindGet fun _ => .bindOfExcept fun _ =>
    .bindModify (fun _ h => h.same rfl rfl ⟨rfl, rfl, rfl, rfl, rfl⟩) (.pure _)

theorem owned_indeterminate {β : Type} (transaction : FrozenTransaction) (operation : LambError) :
    (indeterminate transaction operation : DumpAttempt α β).Preserves (Owned runtimeId) :=
  .bind (owned_modifyState fun _ => ⟨rfl, rfl, rfl, rfl, rfl⟩) fun _ => .fail _

theorem Owned.persistRecovered (h : dump.Owned runtimeId) (cumulative : ℕ)
    (commit : PrevalidatedLossCommit) (call : Call α) :
    (DumpCoordinator.persistRecovered cumulative commit call).Ends dump
      (fun _ => Owned runtimeId) (fun _ => Owned runtimeId) := by
  refine .bindGet ?_
  cases hfrozen : dump.state.frozen with
  | none => exact .fail h
  | some transaction =>
      have hholding : dump.Holding runtimeId transaction := ⟨h, hfrozen⟩
      refine .bind ((hholding.commitRange _ _ cumulative commit).mono (fun _ _ hdone => hdone)
        fun _ _ hnever => hnever.elim) fun _ committed hcommitted => ?_
      exact .bind (hcommitted.completeDirect _ call) fun _ _ hdone => .pure hdone

theorem Holding.publishDirect (h : dump.Holding runtimeId transaction) (input : PersistInput α) :
    (DumpCoordinator.publishDirect transaction input).Ends dump
      (fun _ => Holding runtimeId transaction) (fun _ => Owned runtimeId) := by
  refine .ite (fun _ => .pure h) fun _ => .bindOfExcept (fun _ _ => h.owned) fun prepared _ =>
    .bindOfExcept (fun _ _ => h.owned) fun _ _ => ?_
  cases prepared.publication input.publisher with
  | disposed disposal => exact .pure h
  | retryableFailure e => exact .fail h.owned
  | indeterminate operation =>
      exact .bindModify (.fail (h.owned.same rfl rfl ⟨rfl, rfl, rfl, rfl, rfl⟩))

theorem Holding.persistTransaction (h : dump.Holding runtimeId transaction)
    (input : PersistInput α) :
    (DumpCoordinator.persistTransaction transaction input).Ends dump
      (fun _ => Owned runtimeId) (fun _ => Owned runtimeId) := by
  refine .bindOfExcept (fun _ _ => h.owned) fun _ _ => .bindGet ?_
  refine .bindOfExcept (fun _ _ => h.owned) fun commit _ => ?_
  refine .bind (h.publishDirect input) fun disposal published hpublished => ?_
  have hsettled : Holding runtimeId transaction
      { published with settled := published.settled ++ [transaction.range] } :=
    hpublished.same rfl rfl ⟨rfl, rfl, rfl, rfl, rfl⟩
  refine .bindModify (.bind ((hsettled.interlude input.during).mono (fun _ _ hdone => hdone)
    fun _ _ hnever => hnever.elim) ?_)
  intro _ during hduring
  refine .bindGet (.bind ((hduring.commitRange _ _ _ commit).mono (fun _ _ hdone => hdone)
    fun _ _ hnever => hnever.elim) fun _ committed hcommitted => ?_)
  refine .bind (hcommitted.completeDirect _ input.release) fun _ completed hcompleted => ?_
  exact .bindOfExcept (fun _ _ => hcompleted) fun _ _ => .pure hcompleted

theorem Owned.persist (h : dump.Owned runtimeId) (input : PersistInput α) :
    (DumpCoordinator.persist input).Ends dump
      (fun _ => Owned runtimeId) (fun _ => Owned runtimeId) := by
  refine .bind (h.reconcile input.reconcile) fun recovered reconciled hreconciled => ?_
  cases recovered with
  | some accounting =>
      exact hreconciled.owned.persistRecovered accounting.1 accounting.2 input.release
  | none =>
      refine .bind (hreconciled.freezeTransaction input.freeze) fun transaction dump' hfrozen => ?_
      cases transaction with
      | none => exact owned_reportNoNewAudio dump' hfrozen
      | some transaction => exact Holding.persistTransaction hfrozen input

/-- A new decision about the same frozen epoch. -/
theorem Holding.decided (h : dump.Holding runtimeId transaction)
    (decision : FrozenExportDecision) :
    Holding runtimeId { transaction with decision }
      { dump with state := { dump.state with frozen := some { transaction with decision } } } := by
  obtain ⟨⟨owner, howned⟩, hfrozen⟩ := h
  refine ⟨⟨owner, ?_, howned.arena, howned.epoch⟩, rfl⟩
  have hplaced := howned.placed
  change DumpState.Placed _ dump.guard _
  generalize dump.guard = hand at hplaced
  cases hplaced with
  | frozen transaction' hreusable hfrozen' hcompletion hprogress hrelease =>
      obtain rfl := Option.some.inj (hfrozen.symm.trans hfrozen')
      exact .frozen { transaction with decision } hreusable rfl hcompletion hprogress hrelease
  | idle _ hreusable hnone =>
      rw [hfrozen] at hnone
      cases hnone
  | delivering transaction' hreusable hnone =>
      rw [hfrozen] at hnone
      cases hnone
  | finalized _ failedRelease hreusable hnone =>
      rw [hfrozen] at hnone
      cases hnone

theorem Holding.commitPolicy (h : dump.Holding runtimeId transaction) (disposal : Disposal)
    (during : List (ArenaEvent α)) :
    (DumpCoordinator.commitPolicy transaction disposal during).Ends dump
      (fun _ => Owned runtimeId) (fun _ => Owned runtimeId) := by
  refine .bind ((h.interlude during).mono (fun _ _ hdone => hdone) fun _ _ hnever => hnever.elim)
    fun _ dump' hduring => .bindGet (.bindOfExcept (fun _ _ => hduring.owned) fun commit _ => ?_)
  exact .bind ((hduring.commitRange _ _ _ commit).mono (fun _ _ hdone => hdone)
    fun _ _ hnever => hnever.elim) fun _ committed hcommitted => hcommitted.completeGuarded _

theorem Holding.persistPolicyTransaction (h : dump.Holding runtimeId transaction)
    (input : PolicyInput α) :
    (DumpCoordinator.persistPolicyTransaction transaction input).Ends dump
      (fun _ => Owned runtimeId) (fun _ => Owned runtimeId) := by
  have hdecided := h.decided (input.prepare.prepare transaction.frozen transaction.decision).2
  refine .bind (Q := fun prepared => Holding runtimeId prepared.2) ?_ ?_
  · exact .bindModify (.bindOfExcept (fun _ _ => hdecided.owned) fun _ _ => .pure hdecided)
  · rintro ⟨prepared, transaction⟩ dump' hprepared
    refine .bind (Q := fun _ => Holding runtimeId transaction) ?_ fun _ settled hsettled => ?_
    · cases prepared.publication input.publisher with
      | disposed disposal => exact .modify (hprepared.same rfl rfl ⟨rfl, rfl, rfl, rfl, rfl⟩)
      | retryableFailure e => exact .pure hprepared
      | indeterminate operation => exact .pure hprepared
    · refine .bindOfExcept (fun _ _ => hsettled.owned) fun _ _ => ?_
      cases prepared.publication input.publisher with
      | disposed disposal => exact hsettled.commitPolicy disposal input.during
      | retryableFailure e => exact .fail hsettled.owned
      | indeterminate operation =>
          exact .bindModify (.fail (hsettled.owned.same rfl rfl ⟨rfl, rfl, rfl, rfl, rfl⟩))

theorem Owned.persistPolicyRecovered (h : dump.Owned runtimeId) (cumulative : ℕ)
    (commit : PrevalidatedLossCommit) :
    (DumpCoordinator.persistPolicyRecovered cumulative commit).Ends dump
      (fun _ => Owned runtimeId) (fun _ => Owned runtimeId) := by
  refine .bindGet ?_
  cases hfrozen : dump.state.frozen with
  | none => exact .fail h
  | some transaction =>
      have hholding : dump.Holding runtimeId transaction := ⟨h, hfrozen⟩
      exact .bind ((hholding.commitRange _ _ cumulative commit).mono (fun _ _ hdone => hdone)
        fun _ _ hnever => hnever.elim) fun _ committed hcommitted => hcommitted.completeGuarded _

theorem Owned.persistPolicy (h : dump.Owned runtimeId) (input : PolicyInput α) :
    (DumpCoordinator.persistPolicy input).Ends dump
      (fun _ => Owned runtimeId) (fun _ => Owned runtimeId) := by
  refine .bindOfExcept (fun _ _ => h) fun _ _ => ?_
  refine .bind (h.reconcile input.reconcile) fun recovered reconciled hreconciled => ?_
  cases recovered with
  | some accounting => exact hreconciled.owned.persistPolicyRecovered accounting.1 accounting.2
  | none =>
      refine .bind (hreconciled.freezeTransaction input.freeze) fun transaction dump' hfrozen => ?_
      cases transaction with
      | none =>
          refine .bind (owned_reportNoNewAudio dump' hfrozen) fun _ reported hreported => ?_
          exact .ofExcept (fun _ _ => hreported) fun _ _ => hreported
      | some transaction => exact Holding.persistPolicyTransaction hfrozen input

/-! ### Runs -/

theorem Owned.step (h : dump.Owned runtimeId) (operation : Operation α) :
    (dump.step operation).Owned runtimeId := by
  cases operation with
  | arena event =>
      obtain ⟨owner, hplaced, howns, hepoch⟩ := h
      exact ⟨owner, hplaced, howns.event event, hepoch⟩
  | persist input => exact (h.persist input).reached
  | persistPolicy input => exact (h.persistPolicy input).reached
  | finishDelivery input => exact (h.finishDelivery input).reached
  | clearInOrder input => exact (h.clearInOrder input).reached

theorem Owned.run (h : dump.Owned runtimeId) (operations : List (Operation α)) :
    (dump.run operations).Owned runtimeId := by
  induction operations generalizing dump with
  | nil => exact h
  | cons operation operations ih => exact ih (h.step operation)

/-! ### Owners and decisions -/

def failedRelease (dump : DumpCoordinator α) : Option FrozenCaptureEpoch :=
  match dump.state.pendingCompletion with
  | some (.finalized _ failedRelease) => failedRelease
  | _ => none

def resetDecision (dump : DumpCoordinator α) : Option FrozenExportDecision :=
  match dump.state.pendingCompletion with
  | some (.finalized resetDecision _) => some resetDecision
  | _ => none

/-- The epochs the coordinator has: of the frozen transaction, of the completion
in delivery, of the pending release and of the failed release. -/
def epochs (dump : DumpCoordinator α) : List FrozenCaptureEpoch :=
  (dump.state.frozen.map FrozenTransaction.frozen).toList ++
    (dump.guard.map FrozenTransaction.frozen).toList ++ dump.state.pendingRelease.toList ++
      dump.failedRelease.toList

/-- Every owner of a frozen epoch, on either side. -/
def owners (dump : DumpCoordinator α) : List FrozenRecord :=
  dump.epochs.map FrozenCaptureEpoch.record ++ dump.arena.owners

/-- Every decision object: the reusable one, and those of the frozen
transaction, of the completion in delivery and of the finalized one. -/
def decisions (dump : DumpCoordinator α) : List FrozenExportDecision :=
  dump.state.reusableDecision.toList ++
    (dump.state.frozen.map FrozenTransaction.decision).toList ++
      (dump.guard.map FrozenTransaction.decision).toList ++ dump.resetDecision.toList

/-- The place of the owner and of the decision, read off the state. -/
theorem Owned.places (h : dump.Owned runtimeId) :
    (∃ owner : Option FrozenCaptureEpoch, dump.epochs = owner.toList ∧
      dump.arena.Owns runtimeId (owner.map FrozenCaptureEpoch.record)) ∧
    dump.decisions.length = 1 := by
  obtain ⟨owner, hplaced, howns, -⟩ := h
  generalize hhand : dump.guard = hand at hplaced
  unfold epochs decisions failedRelease resetDecision
  cases hplaced with
  | idle decision hreusable hfrozen hcompletion hprogress =>
      refine ⟨⟨_, ?_, howns⟩, ?_⟩
      · simp [hhand, hfrozen, hcompletion]
      · simp [hhand, hreusable, hfrozen, hcompletion]
  | frozen transaction hreusable hfrozen hcompletion hprogress hrelease =>
      refine ⟨⟨_, ?_, howns⟩, ?_⟩
      · simp [hhand, hfrozen, hcompletion, hrelease]
      · simp [hhand, hreusable, hfrozen, hcompletion]
  | delivering transaction hreusable hfrozen hcompletion hprogress hrelease =>
      refine ⟨⟨_, ?_, howns⟩, ?_⟩
      · simp [hhand, hfrozen, hcompletion, hrelease]
      · simp [hhand, hreusable, hfrozen, hcompletion]
  | finalized decision failedRelease hreusable hfrozen hcompletion hprogress hrelease =>
      refine ⟨⟨_, ?_, howns⟩, ?_⟩
      · simp [hhand, hfrozen, hcompletion, hrelease]
      · simp [hhand, hreusable, hfrozen, hcompletion]

theorem Owned.owners (h : dump.Owned runtimeId) :
    dump.owners = dump.arena.worker.frozen.toList ∨
      ∃ record, dump.owners = [record] ∧ dump.arena.Returned record := by
  obtain ⟨⟨owner, hepochs, howns⟩, -⟩ := h.places
  have hrecords : dump.owners =
      (owner.map FrozenCaptureEpoch.record).toList ++ dump.arena.owners := by
    unfold DumpCoordinator.owners
    rw [hepochs]
    cases owner with
    | none => rfl
    | some epoch => rfl
  rw [hrecords]
  exact howns.owners

theorem Owned.withFrozenDecision {cfg : ArenaConfig} {zero : α} {arena : CaptureArena α}
    (hnew : CaptureArena.new runtimeId cfg zero = .ok arena) (id : ℕ)
    (decision : FrozenExportDecision) :
    (DumpCoordinator.withFrozenDecision id arena decision).Owned runtimeId := by
  exact ⟨none, .idle decision rfl rfl rfl rfl, (CaptureArena.Settled.new hnew).owns, by rintro _ ⟨⟩⟩

end DumpCoordinator

/-- Whenever the worker holds a frozen epoch it has exactly one owner; an owner
of anything else is one whose release has just been executed. There is always
exactly one decision object. -/
theorem frozen_epoch_conserved {runtimeId : ℕ} {cfg : ArenaConfig} {zero : α}
    {arena : CaptureArena α} (hnew : CaptureArena.new runtimeId cfg zero = .ok arena)
    (id channels sampleRate : ℕ) (operations : List (Operation α)) :
    let dump := (DumpCoordinator.withFrozenDecision id arena (.new channels sampleRate)).run
      operations
    (∀ record, dump.arena.worker.frozen = some record → dump.owners = [record]) ∧
    (∀ owner ∈ dump.owners, dump.arena.worker.frozen = some owner ∨
      dump.arena.slot = .resultReady (.release owner.index owner.generation) (.ok .released)) ∧
    dump.owners.length ≤ 1 ∧ dump.decisions.length = 1 := by
  intro dump
  have howned : dump.Owned runtimeId :=
    (DumpCoordinator.Owned.withFrozenDecision hnew id _).run operations
  refine ⟨fun record hrecord => ?_, fun owner howner => ?_, ?_, howned.places.2⟩
  · rcases howned.owners with hheld | ⟨returned, -, hnone, -⟩
    · rw [hheld, hrecord]
      rfl
    · rw [hrecord] at hnone
      cases hnone
  · rcases howned.owners with hheld | ⟨returned, hreturned, -, hslot⟩
    · rw [hheld, Option.mem_toList] at howner
      exact .inl howner
    · rw [hreturned, List.mem_singleton] at howner
      subst howner
      exact .inr hslot
  · rcases howned.owners with hheld | ⟨returned, hreturned, -⟩
    · rw [hheld]
      cases dump.arena.worker.frozen with
      | none => exact Nat.zero_le 1
      | some record => exact le_rfl
    · rw [hreturned]
      exact le_rfl

/-- The frozen transaction owns the second epoch of `recoveredRun` as long as
its publication is indeterminate. -/
theorem frozen_epoch_conserved_indeterminate : ∃ arena,
    CaptureArena.new 1 smallArena 0 = .ok arena ∧
    let dump := (DumpCoordinator.withFrozenDecision 1 arena (.new 1 1)).run (recoveredRun.take 4)
    ∃ record, dump.arena.worker.frozen = some record ∧ dump.owners = [record] := by
  refine ⟨_, rfl, _, rfl, ?_⟩
  exact (@frozen_epoch_conserved ℕ 1 smallArena 0 _ rfl 1 1 1 (recoveredRun.take 4)).1 _ rfl

end Lamb.Dump
