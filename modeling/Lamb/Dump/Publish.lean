import Lamb.Dump.Persist

/-!
One spec for each call that persists, from the recovery of an indeterminate
publication to the end of a delivery.
-/

namespace Lamb.Dump.DumpCoordinator

open Lamb.Ring Lamb.Lib Lamb.Arena

variable {α : Type} {dump dump' base : DumpCoordinator α} {transaction : FrozenTransaction}

theorem Inv.settle (h : dump.Inv []) (range : Range) :
    Inv { dump with settled := dump.settled ++ [range] } [range] :=
  { h with
    settled := by
      show dump.settled ++ [range] = committedRanges dump.outcomes ++ [range]
      rw [h.settled, List.append_nil] }

theorem Inv.interlude {unbooked : List Range} (h : dump.Inv unbooked)
    (events : List (ArenaEvent α)) :
    Inv { dump with arena := dump.arena.events events } unbooked := by
  obtain ⟨hcarries, hlater⟩ := h.arena.events events
  exact h.onArena hlater hcarries

theorem interlude_eq (events : List (ArenaEvent α)) :
    DumpCoordinator.interlude events dump =
      (.ok (), { dump with arena := dump.arena.events events }) :=
  rfl

theorem committedRanges_noNewAudio (outcomes : List DumpOutcome) (losses : LossBreakdown) :
    committedRanges (outcomes ++ [.noNewAudio losses]) = committedRanges outcomes := by
  rw [committedRanges_concat]
  exact List.append_nil _

/-! ### Freezing -/

theorem Inv.freeze (h : dump.Inv []) (hready : dump.Ready) (hfrozen : dump.state.frozen = none)
    {arena : CaptureArena α} (hquiet : arena.Quiet) (hlater : dump.arena.Later arena)
    {epoch : FrozenCaptureEpoch}
    (hgrants : dump.state.custody.Grants arena.worker.absoluteHead epoch.descriptor)
    {decision : FrozenExportDecision} (hdecision : decision.valid = false) :
    Inv { dump with
      arena
      state := { dump.state with
        frozen := some
          { frozen := epoch
            retentionLostFrames :=
              epoch.absoluteRange.start - dump.state.committedUntil.getD 0
            decision }
        reusableDecision := none } } [] := by
  obtain ⟨hlow, hnonempty, hhead⟩ := hgrants
  have hinv := h.onArena hlater (hquiet.carries _)
  exact
    { hinv with
      arena := hquiet.carries _
      frozen := by
        rintro _ ⟨⟩
        refine ⟨?_, hnonempty, hhead, ?_⟩
        · exact (Nat.add_sub_cancel' hlow).symm
        · intro hvalid
          rw [hdecision] at hvalid
          cases hvalid
      pendingClear := hready.noClear
      publication := by
        intro publication hsome
        obtain ⟨-, transaction, htransaction, -⟩ := h.publication publication hsome
        rw [hfrozen] at htransaction
        cases htransaction
      guard := absurd (h.guard_eq_none hready)
      reusable := by rintro _ ⟨⟩ }

theorem Inv.freezeTransaction (h : dump.Inv []) (hready : dump.Ready) (call : Call α) :
    (DumpCoordinator.freezeTransaction call).Ends dump
      (fun result dump' => dump'.Inv [] ∧ dump.Kept dump' ∧ dump'.Ready ∧
        dump'.state.indeterminatePublication = dump.state.indeterminatePublication ∧
        dump'.state.frozen = result ∧ dump.Steady dump')
      (fun _ => dump.Ended) := by
  refine .bindGet ?_
  cases hfrozen : dump.state.frozen with
  | some transaction => exact .pure ⟨h, .refl _, hready, rfl, hfrozen, .refl dump⟩
  | none =>
      cases hreusable : dump.state.reusableDecision with
      | none => exact .fail (.refl h)
      | some decision =>
          refine .bindZoom (h.arena.freezeSince hfrozen call) ?_ ?_
          · rintro frozen arena ⟨hquiet, hlater, hgrants⟩
            have hinv := h.onArena hlater (hquiet.carries _)
            cases frozen with
            | none => exact .pure ⟨hinv, .onArena _ _, ⟨hready.1, hready.2, hready.3, hready.4⟩,
                rfl, hfrozen, .of_frozen rfl le_rfl⟩
            | some epoch =>
                have hinv' := h.freeze hready hfrozen hquiet hlater (hgrants epoch rfl)
                  (h.reusable decision hreusable)
                refine .bindModify (.pure ⟨hinv', ⟨rfl, rfl, rfl, rfl, rfl, rfl, rfl, ?_⟩,
                  ⟨hready.1, hready.2, hready.3, hready.4⟩, rfl, rfl, ?_, ?_⟩)
                · intro transaction htransaction
                  rw [hfrozen] at htransaction
                  cases htransaction
                · rintro - _ ⟨⟩ hvalid
                  rw [h.reusable decision hreusable] at hvalid
                  cases hvalid
                · intro transaction _ hholds
                  refine hholds.imp (fun hbehind => hbehind) fun htransaction => ?_
                  rw [hfrozen] at htransaction
                  cases htransaction
          · rintro e arena ⟨hcarries, hlater⟩
            exact ⟨h.onArena hlater hcarries, .inl (.onArena _ _), .of_frozen rfl le_rfl⟩

theorem Inv.reportNoNewAudio (h : dump.Inv []) (hready : dump.Ready)
    (hfrozen : dump.state.frozen = none) :
    (DumpCoordinator.reportNoNewAudio : DumpAttempt α DumpOutcome).Ends dump
      (fun _ => dump.Ended) (fun _ => dump.Ended) := by
  refine .bindGet (.bindOfExcept (fun _ _ => .refl h) ?_)
  intro commit hcommit
  obtain ⟨hretention, hcleared⟩ := DumpState.prevalidateLossCommit_ok hcommit
  refine .bindModify (.pure ⟨?_, .inr (.inr ?_), .of_frozen rfl le_rfl⟩)
  · have hbalance := h.balance
    exact
      { h with
        balance := by
          show dump.state.cursor =
            consumedFrames (dump.outcomes ++ [_]) + lostFrames (dump.outcomes ++ [_]) + 0 + 0
          rw [consumedFrames_concat, lostFrames_concat]
          simp only [DumpOutcome.consumed, DumpOutcome.range, DumpOutcome.lost, DumpOutcome.losses,
            PrevalidatedLossCommit.losses, hretention, hcleared]
          simp only [Option.map_none, Option.getD_none]
          omega
        settled := by
          show dump.settled = committedRanges (dump.outcomes ++ [.noNewAudio _]) ++ []
          rw [committedRanges_noNewAudio]
          exact h.settled
        ordered := by
          show (committedRanges (dump.outcomes ++ [.noNewAudio _])).Pairwise _
          rw [committedRanges_noNewAudio]
          exact h.ordered
        ranges := by
          intro range hrange
          rw [committedRanges_noNewAudio] at hrange
          exact h.ranges range hrange
        acknowledged := le_rfl
        pendingClear := hready.noClear }
  · exact ⟨rfl, rfl, ⟨_, hretention, hcleared, rfl⟩, hfrozen, hfrozen, rfl⟩

/-! ### Direct attempts -/

theorem Inv.indeterminate (h : dump.Inv []) (hready : dump.Ready)
    (hfrozen : dump.state.frozen = some transaction) (operation : LambError) {β : Type}
    {Q : β → DumpCoordinator α → Prop} :
    (DumpCoordinator.indeterminate transaction operation : DumpAttempt α β).Ends dump Q
      (fun _ => dump.Ended) := by
  refine .bindModify (.fail ⟨?_, .inl ⟨rfl, rfl, rfl, rfl, rfl, rfl, rfl, (Kept.refl dump).frozen⟩,
    .of_frozen rfl le_rfl⟩)
  exact
    { h with
      pendingClear := hready.noClear
      publication := by
        rintro _ ⟨⟩
        exact ⟨hready.clear, transaction, hfrozen, rfl⟩ }

theorem Inv.publishDirect (h : dump.Inv []) (hready : dump.Ready)
    (hfrozen : dump.state.frozen = some transaction) (input : PersistInput α) :
    (DumpCoordinator.publishDirect transaction input).Ends dump (fun _ dump' => dump' = dump)
      (fun _ => dump.Ended) := by
  refine .ite (fun _ => .pure rfl) fun _ => ?_
  refine .bindOfExcept (fun _ _ => .refl h) fun prepared _ => ?_
  refine .bindOfExcept (fun _ _ => .refl h) fun _ _ => ?_
  cases prepared.publication input.publisher with
  | disposed disposal => exact .pure rfl
  | retryableFailure e => exact .fail (.refl h)
  | indeterminate operation => exact h.indeterminate hready hfrozen operation

/-- A transaction whose range has just been disposed of, whatever other
threads do meanwhile. -/
theorem Inv.settled_of (h : dump.Inv []) (hready : dump.Ready)
    (hfrozen : dump.state.frozen = some transaction)
    (hpublication : dump.state.indeterminatePublication = none)
    (events : List (ArenaEvent α)) :
    dump.Settled { dump with
      arena := dump.arena.events events
      settled := dump.settled ++ [transaction.range] } transaction where
  inv := (h.settle transaction.range).interlude events
  ready := ⟨hready.1, hready.2, hready.3, hready.4⟩
  frozen := hfrozen
  publication := hpublication
  settled := rfl
  outcomes := rfl
  cursor := rfl
  pendingClear := rfl
  base_frozen := by
    intro frozen hsome
    rw [hfrozen] at hsome
    cases hsome
    rfl

theorem outcome_lost {disposal : Disposal} {commit : PrevalidatedLossCommit} {cumulative : ℕ} :
    (transaction.outcome disposal (commit.losses cumulative)).lost =
      commit.retentionLostFrames + commit.clearedFrames := by
  unfold DumpOutcome.lost
  rw [FrozenTransaction.outcome_losses]
  rfl

theorem Inv.persistTransaction (h : dump.Inv []) (hready : dump.Ready)
    (hfrozen : dump.state.frozen = some transaction)
    (hpublication : dump.state.indeterminatePublication = none) (input : PersistInput α) :
    (DumpCoordinator.persistTransaction transaction input).Ends dump (fun _ => dump.Ended)
      (fun _ => dump.Ended) := by
  refine .bindOfExcept (fun _ _ => .refl h) fun _ _ => .bindGet ?_
  refine .bindOfExcept (fun _ _ => .refl h) fun commit hcommit => ?_
  obtain ⟨hretention, hcleared⟩ := DumpState.prevalidateLossCommit_ok hcommit
  refine .bind (h.publishDirect hready hfrozen input) ?_
  rintro disposal _ rfl
  have hsettled := h.settled_of hready hfrozen hpublication input.during
  refine .bindModify (.bindOk (interlude_eq input.during) (.bindGet (.bindModify ?_)))
  refine .bind (Q := fun _ => Ended _) (Attempt.Ends.mono
    (hsettled.completeDirect (transaction.outcome_range disposal _) ?_ _ input.release)
    (fun _ _ hdone => hdone.ended) fun _ _ hdone => hdone.ended) ?_
  · rw [outcome_lost, hretention, hcleared]
  · intro _ dump' hended
    exact .bindOfExcept (fun _ _ => hended) fun _ _ => .pure hended

/-- A recovered publication commits the losses validated before its recovery. -/
structure Accounted (dump : DumpCoordinator α) (transaction : FrozenTransaction)
    (accounting : ℕ × PrevalidatedLossCommit) : Prop where
  cumulative : accounting.1 = dump.cumulativeCaptureDroppedFrames
  retention : accounting.2.retentionLostFrames =
    dump.state.pendingRetentionLostFrames + transaction.retentionLostFrames
  cleared : accounting.2.clearedFrames = dump.state.pendingClearedFrames

theorem Settled.persistRecovered (h : base.Settled dump transaction)
    {accounting : ℕ × PrevalidatedLossCommit} (haccounting : dump.Accounted transaction accounting)
    (call : Call α) :
    (DumpCoordinator.persistRecovered accounting.1 accounting.2 call).Ends dump
      (fun _ => base.Ended) (fun _ => base.Ended) := by
  refine .bindGet ?_
  rw [h.frozen, haccounting.cumulative]
  refine .bindModify (.bind (Q := fun _ => base.Ended) (Attempt.Ends.mono
    (h.completeDirect (transaction.outcome_range .written _) ?_ _ call)
    (fun _ _ hdone => hdone.ended) fun _ _ hdone => hdone.ended) ?_)
  · rw [outcome_lost, haccounting.retention, haccounting.cleared]
  · intro _ dump' hended
    exact .pure hended

/-! ### Attempts by policy -/

theorem Inv.preparePolicy (h : dump.Inv []) (hready : dump.Ready)
    (hfrozen : dump.state.frozen = some transaction)
    (hpublication : dump.state.indeterminatePublication = none) (input : PolicyPrepare) :
    (DumpCoordinator.preparePolicy transaction input).Ends dump
      (fun result dump' => dump'.Inv [] ∧ dump.Kept dump' ∧ dump'.Ready ∧
        dump'.state.frozen = some result.2 ∧ dump'.state.indeterminatePublication = none ∧
        dump.Steady dump')
      (fun _ => dump.Ended) := by
  have hfollows := h.frozen transaction hfrozen
  have hfits := input.prepare_fits transaction.frozen hfollows.decision
  have hdecided := input.prepare_eq transaction.frozen transaction.decision
  generalize hprepare : input.prepare transaction.frozen transaction.decision = result
    at hfits hdecided
  obtain ⟨prepared, decision⟩ := result
  have hinv : Inv { dump with
      state := { dump.state with frozen := some { transaction with decision } } } [] :=
    { h with
      arena := by
        refine h.arena.transfer (fun hawaits => ?_) fun _ howned => howned
        have hnone : dump.state.frozen = none := hawaits
        rw [hfrozen] at hnone
        cases hnone
      frozen := by
        rintro _ ⟨⟩
        exact ⟨hfollows.start, hfollows.nonempty, hfollows.head, hfits⟩
      pendingClear := hready.noClear
      publication := by
        intro publication hsome
        rw [show dump.state.indeterminatePublication = some publication from hsome]
          at hpublication
        cases hpublication
      guard := absurd (h.guard_eq_none hready) }
  have hkept : dump.Kept { dump with
      state := { dump.state with frozen := some { transaction with decision } } } := by
    refine ⟨rfl, rfl, rfl, rfl, rfl, rfl, rfl, ?_⟩
    intro frozen hsome
    rw [hfrozen] at hsome
    cases hsome
    exact ⟨decision, rfl⟩
  have hsteady : dump.Steady { dump with
      state := { dump.state with frozen := some { transaction with decision } } } := by
    rcases hdecided with ⟨used, hused, heq⟩ | ⟨-, rfl⟩
    · obtain ⟨-, hepoch, hsame⟩ := PolicyPrepare.used_bound hused
      obtain rfl := (Prod.mk.inj heq).2
      refine ⟨?_, fun other hvalid hholds => hholds.imp (fun hbehind => hbehind) fun hother => ?_⟩
      · rintro - _ ⟨⟩ -
        exact hepoch
      · rw [hfrozen] at hother
        obtain rfl := Option.some.inj hother
        rw [hsame hvalid]
    · exact .of_frozen hfrozen.symm le_rfl
  unfold DumpCoordinator.preparePolicy
  rw [hprepare]
  refine .bindModify (.bindOfExcept (fun _ _ => ⟨hinv, .inl hkept, hsteady⟩) fun prepared _ =>
    .pure ?_)
  exact ⟨hinv, hkept, ⟨hready.1, hready.2, hready.3, hready.4⟩, rfl, hpublication, hsteady⟩

/-- After a publication nothing stands between the range and its commit. -/
theorem Inv.commitPolicy (h : dump.Inv []) (hready : dump.Ready)
    (hfrozen : dump.state.frozen = some transaction)
    (hpublication : dump.state.indeterminatePublication = none) (disposal : Disposal)
    (during : List (ArenaEvent α)) :
    (DumpCoordinator.commitPolicy transaction disposal during).Ends
      { dump with settled := dump.settled ++ [transaction.range] }
      (fun _ => dump.Ended) (fun _ => dump.Ended) := by
  have hsettled := h.settled_of hready hfrozen hpublication during
  obtain ⟨commit, hcommit⟩ := hsettled.inv.prevalidateLossCommit hsettled.frozen
  obtain ⟨hretention, hcleared⟩ := DumpState.prevalidateLossCommit_ok hcommit
  refine .bindOk (interlude_eq during) (.bindGet (.bindOfExcept ?_ ?_))
  · intro e herror
    cases hcommit.symm.trans herror
  · intro commit' hcommit'
    obtain rfl := Except.ok.inj (hcommit.symm.trans hcommit')
    refine .bindModify (Attempt.Ends.mono
      (hsettled.completeGuarded (transaction.outcome_range disposal _) ?_ _)
      (fun _ _ hdone => hdone.ended) fun _ _ hdone => hdone.ended)
    rw [outcome_lost, hretention, hcleared]

/-- The rest of an attempt whose decision is made. -/
theorem Inv.publishPolicy (h : dump.Inv []) (hready : dump.Ready)
    (hfrozen : dump.state.frozen = some transaction)
    (hpublication : dump.state.indeterminatePublication = none) (publication : Publication)
    (during : List (ArenaEvent α)) :
    (do
      settleDisposed transaction.range publication
      Attempt.ofExcept transaction.checkExportRange
      match publication with
      | .disposed disposal => DumpCoordinator.commitPolicy transaction disposal during
      | .retryableFailure e => Attempt.fail e
      | .indeterminate operation =>
          DumpCoordinator.indeterminate transaction operation :
        DumpAttempt α Unit).Ends dump (fun _ => dump.Ended) (fun _ => dump.Ended) := by
  rw [(h.frozen transaction hfrozen).checkExportRange]
  cases publication with
  | disposed disposal =>
      exact .bindModify (h.commitPolicy hready hfrozen hpublication disposal during)
  | retryableFailure e => exact .fail (.refl h)
  | indeterminate operation => exact h.indeterminate hready hfrozen operation

theorem Inv.persistPolicyTransaction (h : dump.Inv []) (hready : dump.Ready)
    (hfrozen : dump.state.frozen = some transaction)
    (hpublication : dump.state.indeterminatePublication = none) (input : PolicyInput α) :
    (DumpCoordinator.persistPolicyTransaction transaction input).Ends dump (fun _ => dump.Ended)
      (fun _ => dump.Ended) := by
  refine .bind (h.preparePolicy hready hfrozen hpublication input.prepare) ?_
  rintro ⟨prepared, decided⟩ dump' ⟨hinv, hkept, hready', hfrozen', hpublication', hsteady⟩
  refine (hinv.publishPolicy hready' hfrozen' hpublication' _ input.during).mono ?_ ?_
  · intro _ dump'' hended
    exact hkept.ended hsteady hended
  · intro e dump'' hended
    exact hkept.ended hsteady hended

theorem Settled.persistPolicyRecovered (h : base.Settled dump transaction)
    {accounting : ℕ × PrevalidatedLossCommit}
    (haccounting : dump.Accounted transaction accounting) :
    (DumpCoordinator.persistPolicyRecovered accounting.1 accounting.2).Ends dump
      (fun _ dump' => base.Completed dump' transaction.range)
      (fun _ dump' => base.Completed dump' transaction.range) := by
  refine .bindGet ?_
  rw [h.frozen, haccounting.cumulative]
  refine .bindModify (h.completeGuarded (transaction.outcome_range .written _) ?_ _)
  rw [outcome_lost, haccounting.retention, haccounting.cleared]

/-! ### Whole calls -/

/-- Where a call stands once a pending clear is recovered. -/
structure Precedes (dump dump' : DumpCoordinator α) : Prop where
  advances : dump.Advances dump'
  kept : dump.state.pendingClear = none → dump.Kept dump'

/-- What a call that persists does: without a pending clear to recover, one of
the three things an attempt can do. -/
structure Persisted (dump dump' : DumpCoordinator α) : Prop where
  advances : dump.Advances dump'
  attempted : dump.state.pendingClear = none → dump.Attempted dump'

theorem Precedes.persisted {middle : DumpCoordinator α} (h : dump.Precedes middle)
    (h' : middle.Ended dump') : dump.Persisted dump' :=
  ⟨h.advances.trans ⟨h'.inv, h'.attempted.cursor_le, h'.steady⟩,
    fun hclear => (h.kept hclear).attempted h'.attempted⟩

theorem Precedes.self_persisted (h : dump.Precedes dump') : dump.Persisted dump' :=
  h.persisted (.refl h.advances.inv)

/-- What is known when an indeterminate publication has been dealt with. -/
def Recovered (middle : DumpCoordinator α) (accounting : Option (ℕ × PrevalidatedLossCommit))
    (dump : DumpCoordinator α) : Prop :=
  match accounting with
  | none => dump.Inv [] ∧ middle.Kept dump ∧ dump.Ready ∧
      dump.state.indeterminatePublication = none ∧ middle.Steady dump
  | some accounting => ∃ transaction, middle.Settled dump transaction ∧
      dump.Accounted transaction accounting ∧ middle.Steady dump

theorem Inv.recoveryAccounting (h : dump.Inv []) :
    (DumpCoordinator.recoveryAccounting :
      DumpAttempt α (Option (ℕ × PrevalidatedLossCommit))).Ends dump
      (fun accounting dump' => dump' = dump ∧ ∀ publication,
        dump.state.indeterminatePublication = some publication →
        ∃ transaction found, dump.state.frozen = some transaction ∧
          transaction.range = publication.range ∧ accounting = some found ∧
          dump.Accounted transaction found)
      (fun _ => dump.Ended) := by
  refine .bindGet ?_
  cases hsome : dump.state.indeterminatePublication with
  | none => exact .pure ⟨rfl, by simp⟩
  | some publication =>
      obtain ⟨-, transaction, hfrozen, hrange⟩ := h.publication publication hsome
      rw [hfrozen]
      refine .bindOfExcept (fun _ _ => .refl h) fun commit hcommit => .pure ⟨rfl, ?_⟩
      rintro _ ⟨⟩
      obtain ⟨hretention, hcleared⟩ := DumpState.prevalidateLossCommit_ok hcommit
      exact ⟨transaction, _, rfl, hrange, rfl, rfl, hretention, hcleared⟩

theorem Inv.withoutPublication (h : dump.Inv []) :
    Inv { dump with state := { dump.state with indeterminatePublication := none } } [] :=
  { h with
    pendingClear := by
      intro pending hpending
      obtain ⟨hid, hissued, hend, hexpected, hsums⟩ := h.pendingClear pending hpending
      exact ⟨hid, hissued, hend, hexpected, hsums⟩
    publication := by rintro _ ⟨⟩ }

theorem Inv.recoverIndeterminatePublication (h : dump.Inv []) (hready : dump.Ready)
    (recovery : Result PublicationRecovery) :
    (DumpCoordinator.recoverIndeterminatePublication recovery).Ends dump
      (fun complete dump' =>
        if complete then ∃ publication, dump.state.indeterminatePublication = some publication ∧
          dump' = { dump with
            state := { dump.state with indeterminatePublication := none }
            settled := dump.settled ++ [publication.range] }
        else dump.Recovered none dump')
      (fun _ => dump.Ended) := by
  refine .bindGet ?_
  cases hsome : dump.state.indeterminatePublication with
  | none => exact .pure ⟨h, .refl _, hready, hsome, .refl _⟩
  | some publication =>
      cases recovery with
      | error e => exact .fail (.refl h)
      | ok recovery =>
          cases recovery with
          | complete => exact .bindModify (.bindModify (.pure ⟨publication, rfl, rfl⟩))
          | rolledBack =>
              exact .bindModify (.pure ⟨h.withoutPublication,
                ⟨rfl, rfl, rfl, rfl, rfl, rfl, rfl, (Kept.refl dump).frozen⟩,
                ⟨hready.1, hready.2, hready.3, hready.4⟩, rfl, .of_frozen rfl le_rfl⟩)
          | pending => exact .fail (.refl h)

theorem Inv.recoverPublication (h : dump.Inv []) (hready : dump.Ready)
    (recovery : Result PublicationRecovery) :
    (DumpCoordinator.recoverPublication recovery).Ends dump dump.Recovered
      (fun _ => dump.Ended) := by
  refine .bind h.recoveryAccounting ?_
  rintro accounting dump₁ ⟨hsame, haccounting⟩
  rw [hsame]
  refine .bind (h.recoverIndeterminatePublication hready recovery) ?_
  intro complete dump' hrecovered
  cases complete with
  | false => exact .pure hrecovered
  | true =>
      obtain ⟨publication, hsome, rfl⟩ := hrecovered
      obtain ⟨transaction, found, hfrozen, hrange, rfl, haccounted⟩ :=
        haccounting publication hsome
      rw [← hrange]
      refine .pure ⟨transaction, ?_, ⟨haccounted.1, haccounted.2, haccounted.3⟩,
        .of_frozen rfl le_rfl⟩
      exact
        { inv := h.withoutPublication.settle transaction.range
          ready := ⟨hready.1, hready.2, hready.3, hready.4⟩
          frozen := hfrozen
          publication := rfl
          settled := rfl
          outcomes := rfl
          cursor := rfl
          pendingClear := rfl
          base_frozen := by
            intro frozen hsome'
            rw [hfrozen] at hsome'
            cases hsome'
            rfl }

theorem Inv.reconcile (h : dump.Inv []) (input : ReconcileInput α) :
    (DumpCoordinator.reconcile input).Ends dump
      (fun accounting dump' => ∃ middle, dump.Precedes middle ∧ middle.Recovered accounting dump')
      (fun _ => dump.Persisted) := by
  refine .bind (h.bindArena.mono (fun _ _ hbound => hbound)
    fun _ _ hbound => Precedes.self_persisted ⟨hbound.advances, fun _ => hbound.kept⟩) ?_
  intro _ bound hbound
  have hclear := hbound.books.pendingClear
  refine .bind (Q := fun _ => dump.Precedes)
    ((hbound.inv.recoverPendingClear input.recoverClear).mono ?_ ?_) ?_
  · rintro _ cleared ⟨hadvances, hsame⟩
    refine ⟨hbound.advances.trans hadvances, fun hnone => ?_⟩
    rw [hsame (hclear.trans hnone)]
    exact hbound.kept
  · rintro e cleared ⟨hadvances, hpending⟩
    exact ⟨hbound.advances.trans hadvances, fun hnone => absurd (hclear.trans hnone) hpending⟩
  intro _ cleared hcleared
  have hprecedes : ∀ dump', cleared.Reconciled dump' → dump.Precedes dump' := by
    intro dump' hreconciled
    exact ⟨hcleared.advances.trans hreconciled.advances,
      fun hnone => (hcleared.kept hnone).trans hreconciled.kept⟩
  refine .bind ((hcleared.advances.inv.reconcileCompletionAuthority input.release).mono
    (fun _ _ hreconciled => hreconciled)
    fun _ _ hfailed => (hprecedes _ hfailed).self_persisted) ?_
  rintro _ middle ⟨hreconciled, hready⟩
  refine (hreconciled.inv.recoverPublication hready input.recovery).mono ?_ ?_
  · intro accounting dump' hrecovered
    exact ⟨middle, hprecedes _ hreconciled, hrecovered⟩
  · intro e dump' hended
    exact (hprecedes _ hreconciled).persisted hended

theorem Inv.persist (h : dump.Inv []) (input : PersistInput α) :
    (DumpCoordinator.persist input).Ends dump (fun _ => dump.Persisted)
      (fun _ => dump.Persisted) := by
  refine .bind (h.reconcile input.reconcile) ?_
  rintro accounting dump' ⟨middle, hprecedes, hrecovered⟩
  cases accounting with
  | some accounting =>
      obtain ⟨transaction, hsettled, haccounted, -⟩ := hrecovered
      refine (hsettled.persistRecovered haccounted input.release).mono ?_ ?_
      · intro _ dump'' hended
        exact hprecedes.persisted hended
      · intro e dump'' hended
        exact hprecedes.persisted hended
  | none =>
      obtain ⟨hinv, hkept, hready, hpublication, hsteady⟩ := hrecovered
      refine .bind ((hinv.freezeTransaction hready input.freeze).mono (fun _ _ hfrozen => hfrozen)
        fun _ _ hended => hprecedes.persisted (hkept.ended hsteady hended)) ?_
      rintro transaction frozen ⟨hinv', hkept', hready', hpublication', hfrozen, hsteady'⟩
      have hpersisted : ∀ dump'', frozen.Ended dump'' → dump.Persisted dump'' := by
        intro dump'' hended
        exact hprecedes.persisted ((hkept.trans hkept').ended (hsteady.trans hsteady') hended)
      cases transaction with
      | none =>
          exact (hinv'.reportNoNewAudio hready' hfrozen).mono (fun _ _ => hpersisted _)
            fun _ _ => hpersisted _
      | some transaction =>
          exact (hinv'.persistTransaction hready' hfrozen (hpublication'.trans hpublication)
            input).mono (fun _ _ => hpersisted _) fun _ _ => hpersisted _

theorem Inv.persistPolicy (h : dump.Inv []) (input : PolicyInput α) :
    (DumpCoordinator.persistPolicy input).Ends dump (fun _ => dump.Persisted)
      (fun _ => dump.Persisted) := by
  refine .bindOfExcept (fun _ _ => Precedes.self_persisted ⟨.refl h, fun _ => .refl dump⟩)
    fun _ _ => ?_
  refine .bind (h.reconcile input.reconcile) ?_
  rintro accounting dump' ⟨middle, hprecedes, hrecovered⟩
  cases accounting with
  | some accounting =>
      obtain ⟨transaction, hsettled, haccounted, -⟩ := hrecovered
      refine (hsettled.persistPolicyRecovered haccounted).mono ?_ ?_
      · intro _ dump'' hdone
        exact hprecedes.persisted hdone.ended
      · intro e dump'' hdone
        exact hprecedes.persisted hdone.ended
  | none =>
      obtain ⟨hinv, hkept, hready, hpublication, hsteady⟩ := hrecovered
      refine .bind ((hinv.freezeTransaction hready input.freeze).mono (fun _ _ hfrozen => hfrozen)
        fun _ _ hended => hprecedes.persisted (hkept.ended hsteady hended)) ?_
      rintro transaction frozen ⟨hinv', hkept', hready', hpublication', hfrozen, hsteady'⟩
      have hpersisted : ∀ dump'', frozen.Ended dump'' → dump.Persisted dump'' := by
        intro dump'' hended
        exact hprecedes.persisted ((hkept.trans hkept').ended (hsteady.trans hsteady') hended)
      cases transaction with
      | none =>
          refine .bind ((hinv'.reportNoNewAudio hready' hfrozen).mono (fun _ _ => hpersisted _)
            fun _ _ => hpersisted _) ?_
          intro _ dump'' hreported
          exact .ofExcept (fun _ _ => hreported) fun _ _ => hreported
      | some transaction =>
          exact (hinv'.persistPolicyTransaction hready' hfrozen (hpublication'.trans hpublication)
            input).mono (fun _ _ => hpersisted _) fun _ _ => hpersisted _

theorem Inv.finishDelivery (h : dump.Inv []) (input : DeliveryInput α) :
    (DumpCoordinator.finishDelivery input).Ends dump
      (fun _ dump' => dump.Advances dump' ∧ dump.Kept dump')
      (fun _ dump' => dump.Advances dump' ∧ dump.Kept dump') := by
  refine .bindGet ?_
  cases hguard : dump.guard with
  | none => exact .pure ⟨.refl h, .refl dump⟩
  | some transaction =>
      obtain ⟨hprogress, hdelivering, -⟩ := h.guard (by simp [hguard])
      have hinv : Inv { dump with guard := none } [] := { h with guard := absurd rfl }
      have hadvances : dump.Advances { dump with guard := none } :=
        ⟨hinv, le_rfl, .of_frozen rfl le_rfl⟩
      have hkept : dump.Kept { dump with guard := none } :=
        ⟨rfl, rfl, rfl, rfl, rfl, rfl, rfl, (Kept.refl dump).frozen⟩
      have hfinal : (DumpCoordinator.finalizeCompletedTransaction (some transaction)
          input.release).capture.Ends { dump with guard := none }
          (fun _ dump' => dump.Advances dump' ∧ dump.Kept dump')
          (fun _ dump' => dump.Advances dump' ∧ dump.Kept dump') := by
        refine .capture ((hinv.finalizeCompletedTransaction rfl hprogress hdelivering transaction
          input.release).mono ?_ ?_)
        · intro _ dump' hreconciled
          exact ⟨hadvances.trans hreconciled.advances, hkept.trans hreconciled.kept⟩
        · intro e dump' hreconciled
          exact ⟨hadvances.trans hreconciled.advances, hkept.trans hreconciled.kept⟩
      refine .bindModify (.bind hfinal ?_)
      intro _ dump' hdone
      exact .ofExcept (fun _ _ => hdone) fun _ _ => hdone

end Lamb.Dump.DumpCoordinator
