import Lamb.Dump.Run

/-!
The decision of a frozen transaction is made once. As long as the cursor has
not passed the transaction, it is there unchanged, and every attempt by policy
plans with it; the next transaction starts with a decision that is open again.
-/

namespace Lamb.Dump

open Lamb.Ring Lamb.Lib Lamb.Arena

variable {α : Type}

namespace DumpCoordinator

variable {dump dump' dump'' : DumpCoordinator α} {transaction : FrozenTransaction}

/-- What both kinds of attempt begin with: the losses of a recovered
publication, or the frozen transaction. -/
def policyPlan (input : PolicyInput α) :
    DumpAttempt α (Option (ℕ × PrevalidatedLossCommit) × Option FrozenTransaction) := do
  Attempt.ofExcept input.finishCompleted
  let recovered ← reconcile input.reconcile
  match recovered with
  | some accounting => pure (some accounting, none)
  | none => do
      let transaction ← freezeTransaction input.freeze
      pure (none, transaction)

theorem persistPolicy_eq (input : PolicyInput α) :
    persistPolicy input = policyPlan input >>= fun plan =>
      match plan with
      | (some (cumulative, commit), _) => persistPolicyRecovered cumulative commit
      | (none, none) => do
          let _ ← reportNoNewAudio
          Attempt.ofExcept input.deliverNoNewAudio
      | (none, some transaction) => persistPolicyTransaction transaction input := by
  unfold persistPolicy policyPlan
  rw [← Attempt.bind_assoc]
  refine congrArg _ (funext fun _ => ?_)
  rw [← Attempt.bind_assoc]
  refine congrArg _ (funext fun recovered => ?_)
  cases recovered with
  | some accounting => rfl
  | none =>
      simp only
      rw [← Attempt.bind_assoc]
      refine congrArg _ (funext fun transaction => ?_)
      cases transaction with
      | none => rfl
      | some transaction => rfl

/-- The transaction and the decision a call by policy uses: to plan a
publication, or to report a recovered one. -/
def used (dump : DumpCoordinator α) :
    Operation α → Option (FrozenTransaction × FrozenExportDecision)
  | .persistPolicy input =>
      match policyPlan input dump with
      | (.ok (some _, _), planned) =>
          planned.state.frozen.bind fun transaction =>
            if transaction.decision.valid then some (transaction, transaction.decision) else none
      | (.ok (none, some transaction), _) =>
          (input.prepare.used transaction.frozen transaction.decision).map fun decision =>
            (transaction, decision)
      | _ => none
  | _ => none

/-- Everything the calls of a run use, in order. -/
def uses (dump : DumpCoordinator α) :
    List (Operation α) → List (FrozenTransaction × FrozenExportDecision)
  | [] => []
  | operation :: operations =>
      (dump.used operation).toList ++ (dump.step operation).uses operations

/-! ### One use -/

/-- What is known once a call has a recovered publication or a transaction. -/
theorem Inv.policyPlan (h : dump.Inv []) (input : PolicyInput α) :
    (DumpCoordinator.policyPlan input).Ends dump
      (fun plan planned => dump.Steady planned ∧
        match plan with
        | (some accounting, _) => ∃ middle transaction, Settled middle planned transaction ∧
            planned.Accounted transaction accounting
        | (none, frozen) => planned.Inv [] ∧ planned.Ready ∧
            planned.state.indeterminatePublication = none ∧ planned.state.frozen = frozen)
      (fun _ _ => True) := by
  refine .bindOfExcept (fun _ _ => trivial) fun _ _ => ?_
  refine .bind ((h.reconcile input.reconcile).mono (fun _ _ hreconciled => hreconciled)
    fun _ _ _ => trivial) ?_
  rintro accounting planned ⟨middle, hprecedes, hrecovered⟩
  cases accounting with
  | some accounting =>
      obtain ⟨transaction, hsettled, haccounted, hsteady⟩ := hrecovered
      exact .pure ⟨hprecedes.advances.steady.trans hsteady, middle, transaction, hsettled,
        haccounted⟩
  | none =>
      obtain ⟨hinv, -, hready, hpublication, hsteady⟩ := hrecovered
      refine .bind ((hinv.freezeTransaction hready input.freeze).mono (fun _ _ hfrozen => hfrozen)
        fun _ _ _ => trivial) ?_
      rintro frozen dump' ⟨hinv', -, hready', hpublication', hfrozen, hsteady'⟩
      exact .pure ⟨hprecedes.advances.steady.trans (hsteady.trans hsteady'), hinv', hready',
        hpublication'.trans hpublication, hfrozen⟩

/-- A use of a decision: it is final and made for the epoch, the transaction
keeps it, and it is the one of every earlier transaction that still holds. -/
structure Uses (dump dump' : DumpCoordinator α) (use : FrozenTransaction × FrozenExportDecision) :
    Prop where
  valid : use.2.valid = true
  epoch : use.2.frozenEpoch = some use.1.frozen.identity
  held : dump'.Holds { use.1 with decision := use.2 }
  earlier : ∀ transaction, transaction.decision.valid = true → dump.Holds transaction →
    (use.1.frozen = transaction.frozen ∧ use.2 = transaction.decision) ∨
      transaction.range.stop ≤ use.1.range.start

/-- A frozen transaction is the one that is held, or comes after it. -/
theorem Holds.earlier {other : FrozenTransaction} (h : dump.Holds other)
    (hfrozen : dump.state.frozen = some transaction)
    (hfollows : transaction.Follows dump.state.cursor dump.arena.worker.absoluteHead) :
    transaction = other ∨ other.range.stop ≤ transaction.range.start := by
  rcases h with hbehind | hsome
  · have hstart := hfollows.start
    exact .inr (by omega)
  · exact .inl (Option.some.inj (hfrozen.symm.trans hsome))

theorem preparePolicy_frozen {input : PolicyPrepare} {decision : FrozenExportDecision}
    (hused : input.used transaction.frozen transaction.decision = some decision) :
    (DumpCoordinator.preparePolicy transaction input : DumpAttempt α _).Ends dump
      (fun _ dump' => dump'.state.frozen = some { transaction with decision })
      (fun _ dump' => dump'.state.frozen = some { transaction with decision }) := by
  rcases input.prepare_eq transaction.frozen transaction.decision with
    ⟨used, hused', heq⟩ | ⟨hnone, -⟩
  · obtain rfl := Option.some.inj (hused.symm.trans hused')
    unfold DumpCoordinator.preparePolicy
    rw [heq]
    exact .bindModify (.bindOfExcept (fun _ _ => rfl) fun _ _ => .pure rfl)
  · cases hnone.symm.trans hused

/-- The transaction keeps the decision that an attempt has used. -/
theorem Inv.held_persistPolicyTransaction (h : dump.Inv []) (hready : dump.Ready)
    (hfrozen : dump.state.frozen = some transaction)
    (hpublication : dump.state.indeterminatePublication = none) (input : PolicyInput α)
    {decision : FrozenExportDecision}
    (hused : input.prepare.used transaction.frozen transaction.decision = some decision) :
    (DumpCoordinator.persistPolicyTransaction transaction input).Ends dump
      (fun _ dump' => dump'.Holds { transaction with decision })
      (fun _ dump' => dump'.Holds { transaction with decision }) := by
  have hvalid := (PolicyPrepare.used_bound hused).1
  refine .bind (((h.preparePolicy hready hfrozen hpublication input.prepare).and
    (preparePolicy_frozen hused)).mono (fun _ _ hprepared => hprepared)
    fun _ _ hfailed => .inr hfailed.2) ?_
  rintro ⟨prepared, decided⟩ dump' ⟨⟨hinv, -, hready', hfrozen', hpublication', -⟩, hkept⟩
  refine (hinv.publishPolicy hready' hfrozen' hpublication' _ input.during).mono ?_ ?_
  · intro _ dump'' hended
    exact hended.steady.holds _ hvalid (.inr hkept)
  · intro e dump'' hended
    exact hended.steady.holds _ hvalid (.inr hkept)

theorem Inv.uses_persistPolicy (h : dump.Inv []) (hbound : dump.Bound) (input : PolicyInput α)
    {use : FrozenTransaction × FrozenExportDecision}
    (huse : dump.used (.persistPolicy input) = some use) :
    dump.Uses (dump.step (.persistPolicy input)) use := by
  have hplan := h.policyPlan input
  have hstep : (dump.step (.persistPolicy input)) =
      (DumpCoordinator.persistPolicy input dump).2 := rfl
  rw [persistPolicy_eq] at hstep
  unfold Attempt.Ends at hplan
  simp only [used] at huse
  simp only [Bind.bind] at hstep
  generalize DumpCoordinator.policyPlan input dump = result at hplan hstep huse
  obtain ⟨_ | ⟨accounting, frozen⟩, planned⟩ := result
  · cases huse
  · obtain ⟨hsteady, hplan⟩ := hplan
    cases accounting with
    | some accounting =>
        obtain ⟨middle, transaction, hsettled, haccounted⟩ := hplan
        have hfrozen := hsettled.frozen
        simp only [hfrozen, Option.bind_some] at huse
        split_ifs at huse with hvalid
        obtain rfl := Option.some.inj huse
        have hdone := (hsettled.persistPolicyRecovered haccounted).reached
        refine ⟨hvalid, hsteady.bound hbound transaction hfrozen hvalid, ?_, ?_⟩
        · refine .inl ?_
          have hcommitted := hdone.commits.committedUntil
          rw [hstep]
          unfold DumpState.cursor
          exact (congrArg (fun cursor => cursor.getD 0) hcommitted).ge
        · intro other hother hholds
          refine ((hsteady.holds other hother hholds).earlier hfrozen
            (hsettled.inv.frozen transaction hfrozen)).imp ?_ fun hafter => hafter
          rintro rfl
          exact ⟨rfl, rfl⟩
    | none =>
        obtain ⟨hinv, hready, hpublication, hfrozen⟩ := hplan
        cases frozen with
        | none => cases huse
        | some transaction =>
            obtain ⟨decision, hused, rfl⟩ := Option.map_eq_some_iff.mp huse
            obtain ⟨hvalid, hepoch, hsame⟩ := PolicyPrepare.used_bound hused
            refine ⟨hvalid, hepoch, ?_, ?_⟩
            · rw [hstep]
              exact (hinv.held_persistPolicyTransaction hready hfrozen hpublication input
                hused).reached
            · intro other hother hholds
              refine ((hsteady.holds other hother hholds).earlier hfrozen
                (hinv.frozen transaction hfrozen)).imp ?_ fun hafter => hafter
              rintro rfl
              exact ⟨rfl, hsame hother⟩

theorem Inv.uses (h : dump.Inv []) (hbound : dump.Bound) {operation : Operation α}
    {use : FrozenTransaction × FrozenExportDecision} (huse : dump.used operation = some use) :
    dump.Uses (dump.step operation) use := by
  cases operation with
  | persistPolicy input => exact h.uses_persistPolicy hbound input huse
  | _ => cases huse

/-! ### Runs -/

/-- The uses of a run agree with every transaction that was held before it. -/
theorem Inv.uses_earlier (h : dump.Inv []) (hbound : dump.Bound)
    (hvalid : transaction.decision.valid = true) (hholds : dump.Holds transaction) (operations : List (Operation α)) :
    ∀ use ∈ dump.uses operations,
      (use.1.frozen = transaction.frozen ∧ use.2 = transaction.decision) ∨
        transaction.range.stop ≤ use.1.range.start := by
  induction operations generalizing dump with
  | nil => simp [DumpCoordinator.uses]
  | cons operation operations ih =>
      intro use huse
      have hstep := h.step operation
      rcases List.mem_append.mp huse with hnow | hlater
      · exact (h.uses hbound (Option.mem_toList.mp hnow)).earlier transaction hvalid hholds
      · exact ih hstep.inv (hstep.steady.bound hbound)
          (hstep.steady.holds transaction hvalid hholds) use hlater

theorem Inv.uses_stable (h : dump.Inv []) (hbound : dump.Bound)
    (operations : List (Operation α)) :
    (∀ use ∈ dump.uses operations,
      use.2.valid = true ∧ use.2.frozenEpoch = some use.1.frozen.identity) ∧
    (dump.uses operations).Pairwise fun use later =>
      (later.1.frozen = use.1.frozen ∧ later.2 = use.2) ∨
        use.1.range.stop ≤ later.1.range.start := by
  induction operations generalizing dump with
  | nil => exact ⟨by simp [DumpCoordinator.uses], .nil⟩
  | cons operation operations ih =>
      have hstep := h.step operation
      have hbound' := hstep.steady.bound hbound
      obtain ⟨hall, hpairs⟩ := ih hstep.inv hbound'
      cases hused : dump.used operation with
      | none =>
          simp only [DumpCoordinator.uses, hused, Option.toList_none, List.nil_append]
          exact ⟨hall, hpairs⟩
      | some use =>
          have huse := h.uses hbound hused
          simp only [DumpCoordinator.uses, hused, Option.toList_some, List.singleton_append]
          refine ⟨?_, List.pairwise_cons.mpr ⟨?_, hpairs⟩⟩
          · intro other hother
            rcases List.mem_cons.mp hother with rfl | hlater
            · exact ⟨huse.valid, huse.epoch⟩
            · exact hall other hlater
          · exact hstep.inv.uses_earlier hbound' huse.valid huse.held operations

end DumpCoordinator

/-- Every run of calls by policy, direct calls, clears and deliveries, with any
answer of the workspace, the publisher and the arena: a decision that is used is
final and was made for the epoch it is used for, and whatever is used after it
is the same decision for the same epoch, until the transaction lies before the
cursor, committed or cleared. A decided transaction stays as it is until then. -/
theorem frozen_decision_stable {runtimeId : ℕ} {cfg : ArenaConfig} {zero : α}
    {arena : CaptureArena α} (hnew : CaptureArena.new runtimeId cfg zero = .ok arena)
    (id channels sampleRate : ℕ) (operations : List (Operation α)) :
    let start := DumpCoordinator.withFrozenDecision id arena (.new channels sampleRate)
    (∀ use ∈ start.uses operations,
      use.2.valid = true ∧ use.2.frozenEpoch = some use.1.frozen.identity) ∧
    (start.uses operations).Pairwise (fun use later =>
      (later.1.frozen = use.1.frozen ∧ later.2 = use.2) ∨
        use.1.range.stop ≤ later.1.range.start) ∧
    ∀ transaction, (start.run operations).state.frozen = some transaction →
      transaction.decision.valid = true →
      transaction.decision.frozenEpoch = some transaction.frozen.identity ∧
      ∀ more, ((start.run operations).run more).state.committedUntil.getD 0 <
          transaction.range.stop →
        ((start.run operations).run more).state.frozen = some transaction := by
  intro start
  have hinv : start.Inv [] := .withFrozenDecision hnew id channels sampleRate
  have hbound : start.Bound := by rintro _ ⟨⟩
  have hrun := hinv.run operations
  obtain ⟨hall, hpairs⟩ := hinv.uses_stable hbound operations
  refine ⟨hall, hpairs, fun transaction hfrozen hvalid => ⟨?_, fun more hcursor => ?_⟩⟩
  · exact hrun.steady.bound hbound transaction hfrozen hvalid
  · rcases (hrun.inv.run more).steady.holds transaction hvalid (.inr hfrozen) with hbehind | hheld
    · exact absurd hcursor (Nat.not_lt.mpr hbehind)
    · exact hheld

/-- An attempt by policy with an active channel. -/
def policyAnswered (mode : ChannelExportMode) (publisher : PreparedPublication) :
    DumpCoordinator.PolicyInput ℕ where
  finishCompleted := .ok ()
  reconcile := ⟨answered, ⟨answered, answered⟩, .ok .pending⟩
  freeze := answered
  prepare :=
    { before := .ok ()
      policy := ⟨[mode], true, false⟩
      detector := ⟨1, .ok [⟨.active, some 0, false, true⟩]⟩
      after := .ok .ready }
  publisher := publisher
  during := []
  deliverNoNewAudio := .ok ()

/-- The second attempt has another policy and uses the first decision. -/
theorem frozen_decision_stable_retry : ∃ arena, CaptureArena.new 1 smallArena 0 = .ok arena ∧
    let start := DumpCoordinator.withFrozenDecision 1 arena (.new 1 1)
    let operations : List (Operation ℕ) := [.arena (.consume 0 [7]),
      .persistPolicy (policyAnswered .auto (.retryableFailure (.export "no space"))),
      .persistPolicy (policyAnswered .never .published)]
    (start.uses operations).map (fun use => use.2.channels.map FrozenChannelDecision.mode) =
      [[.auto], [.auto]] ∧
    (start.uses operations).Pairwise fun use later =>
      (later.1.frozen = use.1.frozen ∧ later.2 = use.2) ∨
        use.1.range.stop ≤ later.1.range.start :=
  ⟨_, rfl, by decide +kernel,
    (@frozen_decision_stable ℕ 1 smallArena 0 _ rfl 1 1 1 _).2.1⟩

end Lamb.Dump
