import Lamb.Arena.Custody
import Lamb.Arena.History

/-!
Who owns the frozen epoch. The worker freezes an epoch for one owner and takes
it back from the same one: on its way to the client an epoch is in the result of
the freeze or in the kept reply, and once it has arrived only the caller has it,
until the worker has executed its release.
-/

namespace Lamb.Arena

open Lamb.Ring Lamb.Lib

variable {α : Type}

def FrozenDescriptor.record (descriptor : FrozenDescriptor) : FrozenRecord where
  index := descriptor.index
  generation := descriptor.generation

def FrozenCaptureEpoch.record (frozen : FrozenCaptureEpoch) : FrozenRecord :=
  frozen.descriptor.record

/-- The owner after a command of that kind: a freeze may grant an epoch, and a
release takes it back. -/
def CommandKind.leaves (kind : CommandKind) (result : Result WorkerReply)
    (owner : Option FrozenRecord) : Option FrozenRecord :=
  match kind, result with
  | .freeze, .ok (.frozen (some descriptor)) => some descriptor.record
  | .release, .ok .released => none
  | _, _ => owner

/-- A freeze is sent for nobody's epoch, a release for the owner's. -/
def WorkerCommand.Suits (command : WorkerCommand) (owner : Option FrozenRecord) : Prop :=
  match command with
  | .freeze _ => owner = none
  | .release index generation => owner = some ⟨index, generation⟩
  | _ => True

/-- The epoch the worker holds while the caller owns `owner`. -/
def CommandSlot.Leaves (slot : CommandSlot) (owner recovered frozen : Option FrozenRecord) : Prop :=
  match slot with
  | .idle => (owner = none ∨ recovered = none) ∧ frozen = owner.or recovered
  | .ready command => recovered = none ∧ command.Suits owner ∧ frozen = owner
  | .resultReady command result =>
      recovered = none ∧ command.Suits owner ∧ frozen = command.kind.leaves result owner

structure CaptureArena.Owns (runtimeId : ℕ) (owner : Option FrozenRecord)
    (arena : CaptureArena α) : Prop where
  runtimeId : arena.runtimeId = runtimeId
  worker : arena.worker.Inv
  slot : arena.slot.Leaves owner (arena.recoveredFrozen.map FrozenDescriptor.record)
    arena.worker.frozen

/-! ### The worker -/

theorem WorkerState.Executed.leaves {worker worker' : WorkerState α} {command : WorkerCommand}
    {result : Result WorkerReply} (h : worker.Executed command result worker') :
    worker'.frozen = command.kind.leaves result worker.frozen := by
  cases h with
  | same _ _ hneutral =>
      unfold CommandKind.leaves
      split
      · have hnone := hneutral none
        cases hnone
      · have hsome := hneutral (some ⟨0, 0, 0, ⟨0, 0⟩, ⟨0, 0⟩, 0, 0, .f32Le⟩)
        cases hsome
      · rfl
  | switched => rfl
  | frozen => rfl
  | released => rfl
  | cleared => rfl

theorem WorkerState.dropWorkerFrames_frozen (worker : WorkerState α) (queue : DropCounters)
    (frames : ℕ) : (worker.dropWorkerFrames queue frames).1.frozen = worker.frozen := by
  obtain ⟨dropped, fault, heq⟩ := worker.dropWorkerFrames_eq queue frames
  rw [heq]

namespace CaptureArena

variable {arena : CaptureArena α} {runtimeId : ℕ} {owner : Option FrozenRecord}

theorem Owns.of_worker (h : arena.Owns runtimeId owner) {worker : WorkerState α} (hinv : worker.Inv)
    (hfrozen : worker.frozen = arena.worker.frozen) (queue : DropCounters) :
    Owns runtimeId owner { arena with worker, queue } where
  runtimeId := h.runtimeId
  worker := hinv
  slot := by
    have hslot := h.slot
    rw [← hfrozen] at hslot
    exact hslot

theorem Owns.event (h : arena.Owns runtimeId owner) (event : ArenaEvent α) :
    (arena.event event).Owns runtimeId owner := by
  cases event with
  | consume now samples =>
      simp only [CaptureArena.event]
      split
      · next hblock =>
          obtain ⟨hinv, -⟩ := h.worker.consumeSamples arena.queue now hblock.2
          refine h.of_worker hinv ?_ _
          rcases h.worker.consumeSamples_cases arena.queue now hblock.2 with
            ⟨dropped, fault, heq⟩ | ⟨ring, -, -, -, -, heq⟩
          · rw [heq]
          · rw [heq]
      · exact h
  | execute =>
      simp only [CaptureArena.event]
      split
      · next command hslot =>
          have hexec := h.worker.executed arena.queue command
          have hleaves := h.slot
          rw [hslot] at hleaves
          obtain ⟨hkept, hsuits, hfrozen⟩ := hleaves
          refine ⟨h.runtimeId, hexec.inv h.worker, hkept, hsuits, ?_⟩
          rw [← hfrozen]
          exact hexec.leaves
      · exact h
  | enqueue frames =>
      simp only [CaptureArena.event]
      split
      · exact h
      · exact h.of_worker h.worker rfl _
  | drop frames =>
      simp only [CaptureArena.event]
      split
      · exact h
      · split
        · exact h.of_worker h.worker rfl _
        · exact h.of_worker h.worker rfl _
  | dropDone =>
      simp only [CaptureArena.event]
      split
      · exact h
      · exact h.of_worker h.worker rfl _

/-- Other threads never take a command out of the slot. -/
theorem event_command (arena : CaptureArena α) (event : ArenaEvent α) {command : WorkerCommand}
    (h : arena.slot = .ready command ∨ ∃ result, arena.slot = .resultReady command result) :
    (arena.event event).slot = .ready command ∨
      ∃ result, (arena.event event).slot = .resultReady command result := by
  cases event with
  | consume now samples =>
      simp only [CaptureArena.event]
      split
      · exact h
      · exact h
  | execute =>
      simp only [CaptureArena.event]
      split
      · next command' hslot =>
          rcases h with hready | ⟨result, hdone⟩
          · rw [hslot] at hready
            obtain rfl := CommandSlot.ready.inj hready
            exact .inr ⟨_, rfl⟩
          · rw [hslot] at hdone
            cases hdone
      · exact h
  | enqueue frames =>
      simp only [CaptureArena.event]
      split
      · exact h
      · exact h
  | drop frames =>
      simp only [CaptureArena.event]
      split
      · exact h
      · split
        · exact h
        · exact h
  | dropDone =>
      simp only [CaptureArena.event]
      split
      · exact h
      · exact h

theorem Owns.events (h : arena.Owns runtimeId owner) (events : List (ArenaEvent α)) :
    (arena.events events).Owns runtimeId owner := by
  induction events generalizing arena with
  | nil => exact h
  | cons event events ih => exact ih (h.event event)

theorem Sent.events {command : WorkerCommand} (h : arena.Sent command)
    (events : List (ArenaEvent α)) : (arena.events events).Sent command := by
  induction events generalizing arena with
  | nil => exact h
  | cons event events ih => exact ih (arena.event_command event h)

theorem Sent.eq_of_resultReady {command command' : WorkerCommand} {result : Result WorkerReply}
    (h : arena.Sent command) (hready : arena.slot = .resultReady command' result) :
    command' = command := by
  rcases h with hwaiting | ⟨result', hdone⟩
  · rw [hready] at hwaiting
    cases hwaiting
  · rw [hready] at hdone
    exact (CommandSlot.resultReady.inj hdone).1

/-- Nothing is on its way: the caller owns what the worker holds. -/
structure Settled (runtimeId : ℕ) (owner : Option FrozenRecord) (arena : CaptureArena α) :
    Prop where
  owns : arena.Owns runtimeId owner
  slot : arena.slot = .idle
  kept : arena.recoveredFrozen = none

theorem Settled.of_frozen (hruntime : arena.runtimeId = runtimeId) (hworker : arena.worker.Inv)
    (hslot : arena.slot = .idle) (hkept : arena.recoveredFrozen = none)
    (hfrozen : arena.worker.frozen = owner) :
    arena.Settled runtimeId owner where
  owns := by
    refine ⟨hruntime, hworker, ?_⟩
    rw [hslot, hkept]
    exact ⟨.inr rfl, by rw [hfrozen, Option.map_none, Option.or_none]⟩
  slot := hslot
  kept := hkept

theorem Settled.frozen (h : arena.Settled runtimeId owner) : arena.worker.frozen = owner := by
  have hleaves := h.owns.slot
  rw [h.slot, h.kept] at hleaves
  rw [hleaves.2, Option.map_none, Option.or_none]

/-- Taking the result out of the slot hands over what it grants. -/
theorem Owns.take (h : arena.Owns runtimeId owner) {command : WorkerCommand}
    {result : Result WorkerReply} (hslot : arena.slot = .resultReady command result) :
    Settled runtimeId (command.kind.leaves result owner)
      { arena with slot := .idle, abandoned := false } := by
  have hleaves := h.slot
  rw [hslot] at hleaves
  obtain ⟨hkept, -, hfrozen⟩ := hleaves
  exact .of_frozen h.runtimeId h.worker rfl (Option.map_eq_none_iff.mp hkept) hfrozen

/-! ### Calls -/

theorem Owns.waitSlotResult (h : arena.Owns runtimeId owner) {command : WorkerCommand}
    (hsent : arena.Sent command) (wait : Wait α) :
    (CaptureArena.waitSlotResult wait).Ends arena
      (fun result arena' => arena'.Settled runtimeId (command.kind.leaves result owner))
      (fun _ arena' => arena'.Owns runtimeId owner) := by
  have hevents := h.events wait.events
  have hsent' := hsent.events wait.events
  refine CaptureArena.waitSlotResult_ends wait (fun command' result hready => ?_)
    (fun command' result hready => ?_) ?_
  · obtain rfl := hsent.eq_of_resultReady hready
    exact h.take hready
  · obtain rfl := hsent'.eq_of_resultReady hready
    exact hevents.take hready
  · exact ⟨hevents.runtimeId, hevents.worker, hevents.slot⟩

theorem leaves_error (kind : CommandKind) (e : LambError) :
    kind.leaves (.error e) owner = owner := by
  cases kind with
  | freeze => rfl
  | release => rfl
  | clear => rfl
  | status => rfl
  | shutdown => rfl

theorem Settled.submitLocked (h : arena.Settled runtimeId owner)
    {command : CaptureArena α → WorkerCommand} (hsuits : (command arena).Suits owner)
    (wait : Wait α) :
    (CaptureArena.submitLocked command wait).Ends arena
      (fun reply arena' => arena'.Settled runtimeId ((command arena).kind.leaves (.ok reply) owner))
      (fun _ arena' => arena'.Owns runtimeId owner) := by
  have hsent : Owns runtimeId owner
      { arena with slot := .ready (command arena), abandoned := false } := by
    refine ⟨h.owns.runtimeId, h.owns.worker, ?_, hsuits, h.frozen⟩
    exact Option.map_eq_none_iff.mpr h.kept
  refine .bindGet (.bindRequire (fun _ => h.owns) fun _ => .bindModify ?_)
  refine .bind (hsent.waitSlotResult (.inl rfl) wait) ?_
  intro result arena' hsettled
  refine .ofExcept ?_ ?_
  · rintro reply rfl
    exact hsettled
  · rintro e rfl
    rw [leaves_error] at hsettled
    exact hsettled.owns

theorem leaves_of_kind {kind : CommandKind} {result : Result WorkerReply}
    (hfreeze : kind = .freeze → ∀ descriptor, result ≠ .ok (.frozen (some descriptor)))
    (hrelease : kind ≠ .release) : kind.leaves result owner = owner := by
  unfold CommandKind.leaves
  split
  · exact absurd rfl (hfreeze rfl _)
  · exact absurd rfl hrelease
  · rfl

/-- A kept epoch is owned by the client, for nobody. -/
theorem Settled.keepFrozen {descriptor : FrozenDescriptor}
    (h : arena.Settled runtimeId (some descriptor.record)) :
    Owns runtimeId none { arena with recoveredFrozen := some descriptor } := by
  refine ⟨h.owns.runtimeId, h.owns.worker, ?_⟩
  rw [h.slot]
  exact ⟨.inl rfl, h.frozen⟩

/-- What is recovered stands for the reply to the requested command. -/
def Recovers (runtimeId : ℕ) (requested : CommandKind) (owner : Option FrozenRecord)
    (recovered : Option (Result WorkerReply)) (arena : CaptureArena α) : Prop :=
  arena.Settled runtimeId (match recovered with
    | none => owner
    | some result => requested.leaves result owner)

theorem settleStale_ends {command : WorkerCommand} (hsuits : command.Suits owner)
    {requested : CommandKind} (hrelease : command.kind = .release → requested = .release)
    {result : Result WorkerReply} (h : arena.Settled runtimeId (command.kind.leaves result owner)) :
    (CaptureArena.settleStale command.kind requested result).Ends arena
      (fun recovered => Recovers runtimeId requested owner recovered)
      (fun _ arena' => arena'.Owns runtimeId owner) := by
  have hother (hfreeze : command.kind = .freeze →
      ∀ descriptor, result ≠ .ok (.frozen (some descriptor))) (hnot : command.kind ≠ .release) :
      (if requested = command.kind then pure (some result) else pure none :
        Attempt (CaptureArena α) LambError (Option (Result WorkerReply))).Ends arena
        (fun recovered => Recovers runtimeId requested owner recovered)
        (fun _ arena' => arena'.Owns runtimeId owner) := by
    refine .ite (fun hsame => .pure ?_) fun _ => .pure ?_
    · unfold Recovers
      rw [hsame]
      exact h
    · rw [leaves_of_kind hfreeze hnot] at h
      exact h
  cases command with
  | freeze committedStart =>
      obtain rfl : owner = none := hsuits
      simp only [WorkerCommand.kind, CaptureArena.settleStale] at h ⊢
      split
      · next descriptor =>
          refine .ite (fun hsame => .pure ?_) fun _ => .bindModify (.fail h.keepFrozen)
          unfold Recovers
          rw [hsame]
          exact h
      · next hnone =>
          exact hother (fun _ descriptor heq => hnone descriptor heq) (by simp [WorkerCommand.kind])
  | release index generation =>
      obtain rfl := hrelease rfl
      exact .pure h
  | clear ingressDroppedFrames accounting =>
      simp only [WorkerCommand.kind, CaptureArena.settleStale] at h ⊢
      split
      · next report =>
          have hkept : Settled runtimeId owner { arena with recoveredClear := some report } :=
            .of_frozen h.owns.runtimeId h.owns.worker h.slot h.kept h.frozen
          exact .bindModify (.ite (fun _ => .pure hkept) fun _ => .fail hkept.owns)
      · exact hother (by simp [WorkerCommand.kind]) (by simp [WorkerCommand.kind])
  | status => exact hother (by simp [WorkerCommand.kind]) (by simp [WorkerCommand.kind])
  | shutdown =>
      simp only [WorkerCommand.kind, CaptureArena.settleStale] at h ⊢
      refine .ite (fun hsame => .pure ?_) fun _ => .fail h.owns
      unfold Recovers
      rw [hsame]
      exact h

theorem Owns.recoverBefore (h : arena.Owns runtimeId owner) (requested : CommandKind)
    (wait : Wait α) :
    (CaptureArena.recoverBefore requested wait).Ends arena
      (fun recovered => Recovers runtimeId requested owner recovered)
      (fun _ arena' => arena'.Owns runtimeId owner) := by
  have hleaves := h.slot
  refine CaptureArena.recoverBefore_ends requested wait (fun _ => h) ?_ ?_ ?_
  · intro descriptor _ hkept hsame
    rw [hkept] at hleaves
    subst hsame
    cases hslot : arena.slot with
    | idle =>
        rw [hslot] at hleaves
        obtain ⟨hnobody, hfrozen⟩ := hleaves
        obtain rfl : owner = none := by
          rcases hnobody with hnone | hnone
          · exact hnone
          · cases hnone
        exact .of_frozen h.runtimeId h.worker rfl rfl hfrozen
    | ready command =>
        rw [hslot] at hleaves
        cases hleaves.1
    | resultReady command result =>
        rw [hslot] at hleaves
        cases hleaves.1
  · intro _ hkept hslot
    rw [hslot, hkept] at hleaves
    refine .of_frozen h.runtimeId h.worker hslot hkept ?_
    rw [hleaves.2, Option.map_none, Option.or_none]
  · intro command _ _ hsent hrelease
    have hsuits : command.Suits owner := by
      rcases hsent with hready | ⟨result, hdone⟩
      · rw [hready] at hleaves
        exact hleaves.2.1
      · rw [hdone] at hleaves
        exact hleaves.2.1
    refine (h.waitSlotResult hsent wait).mono (fun result arena' hsettled => ?_) fun _ _ howns => howns
    exact settleStale_ends hsuits (fun hkind => not_not.mp fun hne => hrelease ⟨hkind, hne⟩)
      hsettled

theorem Recovers.recoveredOrSubmit {requested : CommandKind}
    {recovered : Option (Result WorkerReply)}
    (h : Recovers runtimeId requested owner recovered arena)
    {command : CaptureArena α → WorkerCommand} (hkind : (command arena).kind = requested)
    (hsuits : (command arena).Suits owner) (wait : Wait α) :
    (CaptureArena.recoveredOrSubmit recovered command wait).Ends arena
      (fun result arena' => arena'.Owns runtimeId (requested.leaves result owner))
      (fun _ _ => False) := by
  cases recovered with
  | some result => exact .pure (Settled.owns h)
  | none =>
      refine .capture ((Settled.submitLocked h hsuits wait).mono ?_ ?_)
      · intro reply arena' hsettled
        rw [hkind] at hsettled
        exact hsettled.owns
      · intro e arena' howns
        rwa [leaves_error]

theorem Owns.lockCommandClient (h : arena.Owns runtimeId owner) (call : Call α) :
    (CaptureArena.lockCommandClient call).Ends arena (fun _ arena' => arena'.Owns runtimeId owner)
      (fun _ arena' => arena'.Owns runtimeId owner) := by
  have hevents := h.events call.before
  exact .bindModify (.ofExcept (fun _ _ => hevents) fun _ _ => hevents)

theorem Owns.executeCommand (h : arena.Owns runtimeId owner) {kind : CommandKind}
    {command : CaptureArena α → WorkerCommand} (hkind : ∀ arena, (command arena).kind = kind)
    (hsuits : ∀ arena, (command arena).Suits owner) (call : Call α) :
    (CaptureArena.executeCommand kind command call).Ends arena
      (fun reply arena' => arena'.Owns runtimeId (kind.leaves (.ok reply) owner))
      (fun _ arena' => arena'.Owns runtimeId owner) := by
  refine .bind (h.lockCommandClient call) fun _ locked hlocked => ?_
  refine .bind (hlocked.recoverBefore kind call.stale) fun recovered arena' hrecovers => ?_
  refine .bind ((hrecovers.recoveredOrSubmit (hkind arena') (hsuits arena') call.reply).mono
    (fun _ _ hdone => hdone) fun _ _ hnever => hnever.elim) fun result arena'' howns => ?_
  refine .ofExcept ?_ ?_
  · rintro reply rfl
    exact howns
  · rintro e rfl
    rwa [leaves_error] at howns

/-- A freeze for a caller without an epoch hands over the one it grants. -/
theorem Owns.freezeSince (h : arena.Owns runtimeId none) (committedStart : Option ℕ)
    (call : Call α) :
    (CaptureArena.freezeSince committedStart call).Ends arena
      (fun frozen arena' => arena'.Owns runtimeId (frozen.map FrozenCaptureEpoch.record) ∧
        ∀ epoch, frozen = some epoch →
          epoch.runtimeId = runtimeId ∧ epoch.released = false)
      (fun _ arena' => arena'.Owns runtimeId none) := by
  have hsuits : ∀ _ : CaptureArena α, (WorkerCommand.freeze committedStart).Suits none :=
    fun _ => rfl
  refine .bind (h.executeCommand (fun _ => rfl) hsuits call) ?_
  intro reply arena' howns
  refine .bindGet ?_
  cases reply with
  | frozen descriptor =>
      cases descriptor with
      | none => exact .pure ⟨howns, by rintro _ ⟨⟩⟩
      | some descriptor =>
          refine .pure ⟨howns, ?_⟩
          rintro _ ⟨rfl⟩
          exact ⟨howns.runtimeId, rfl⟩
  | released => exact .fail howns
  | cleared report => exact .fail howns
  | status status => exact .fail howns
  | shutdown => exact .fail howns

/-- A release by the owner succeeds and leaves nobody's epoch, or leaves the
epoch with its owner. -/
theorem Owns.releaseFrozen {frozen : FrozenCaptureEpoch}
    (h : arena.Owns runtimeId (some frozen.record))
    (hruntime : frozen.runtimeId = runtimeId) (hreleased : frozen.released = false)
    (call : Call α) :
    (CaptureArena.releaseFrozen frozen call).Ends arena
      (fun result arena' => (result.1 = .ok () → arena'.Owns runtimeId none) ∧
        ∀ e, result.1 = .error e → arena'.Owns runtimeId (some result.2.record) ∧
          result.2.runtimeId = frozen.runtimeId ∧ result.2.released = false)
      (fun _ _ => False) := by
  have hfailed : ∀ {arena' : CaptureArena α} (e : LambError) (releasePending : Bool),
      arena'.Owns runtimeId (some frozen.record) →
      ((Except.error e : Result Unit) = .ok () → arena'.Owns runtimeId none) ∧
        ∀ e', (Except.error e : Result Unit) = .error e' →
          arena'.Owns runtimeId (some { frozen with releasePending }.record) ∧
            { frozen with releasePending }.runtimeId = frozen.runtimeId ∧
            { frozen with releasePending }.released = false :=
    fun e releasePending howns => ⟨by rintro ⟨⟩, fun _ _ => ⟨howns, rfl, hreleased⟩⟩
  refine .bindGet ?_
  rw [if_neg (fun hne => hne (h.runtimeId.trans hruntime.symm)), if_neg (by simp [hreleased])]
  refine .bindModify ?_
  have hevents := h.events call.before
  cases call.lock.result with
  | error e => exact .pure (hfailed e frozen.releasePending hevents)
  | ok _ =>
      have hrecovered : (CaptureArena.recoverBefore .release call.stale).capture.Ends
          (arena.events call.before)
          (fun recovered arena' => (∀ recovered', recovered = .ok recovered' →
              Recovers runtimeId .release (some frozen.record) recovered' arena') ∧
            ∀ e, recovered = .error e → arena'.Owns runtimeId (some frozen.record))
          (fun _ _ => False) := by
        refine .capture ((hevents.recoverBefore .release call.stale).mono ?_ ?_)
        · intro recovered arena' hrecovers
          refine ⟨?_, by rintro _ ⟨⟩⟩
          rintro _ ⟨rfl⟩
          exact hrecovers
        · intro e arena' howns
          refine ⟨by rintro _ ⟨⟩, ?_⟩
          rintro _ ⟨rfl⟩
          exact howns
      refine .bind hrecovered ?_
      rintro recovered arena' ⟨hok, herror⟩
      cases recovered with
      | error e => exact .pure (hfailed e frozen.releasePending (herror e rfl))
      | ok recovered =>
          have hsuits : (WorkerCommand.release frozen.descriptor.index
              frozen.descriptor.generation).Suits (some frozen.record) := rfl
          refine .bind ((hok recovered rfl).recoveredOrSubmit rfl hsuits call.reply) ?_
          intro result arena'' howns
          refine .bindGet ?_
          cases result with
          | error e => exact .pure (hfailed e _ howns)
          | ok reply =>
              cases reply with
              | released => exact .pure ⟨fun _ => howns, by rintro _ ⟨⟩⟩
              | frozen descriptor => exact .pure (hfailed _ false howns)
              | cleared report => exact .pure (hfailed _ false howns)
              | status status => exact .pure (hfailed _ false howns)
              | shutdown => exact .pure (hfailed _ false howns)

theorem preserves_clearActiveAccounted (accounting : CaptureClearAccounting) (call : Call α) :
    (CaptureArena.clearActiveAccounted accounting call).Preserves (Owns runtimeId owner) := by
  intro arena h
  refine .bindGet (.bindRequire (fun _ => h) fun _ => ?_)
  have hsuits : ∀ arena : CaptureArena α,
      (WorkerCommand.clear arena.queue.droppedFrames accounting).Suits owner := fun _ => trivial
  have hkind : ∀ arena : CaptureArena α,
      (WorkerCommand.clear arena.queue.droppedFrames accounting).kind = .clear := fun _ => rfl
  refine .bind (h.executeCommand hkind hsuits call) ?_
  intro reply arena' howns
  cases reply with
  | cleared report => exact .pure howns
  | frozen descriptor => exact .fail howns
  | released => exact .fail howns
  | status status => exact .fail howns
  | shutdown => exact .fail howns

theorem preserves_recoverClearResult (recovery : CaptureClearRecovery) (call : Call α) :
    (CaptureArena.recoverClearResult recovery call).Preserves (Owns runtimeId owner) := by
  intro arena h
  refine CaptureArena.recoverClearResult_ends recovery call (fun _ => h)
    (h.lockCommandClient call) (fun _ _ hlocked => hlocked) ?_ ?_ ?_
  · intro locked report hlocked _
    exact ⟨hlocked.runtimeId, hlocked.worker, hlocked.slot⟩
  · intro locked hlocked _ _
    exact hlocked
  · intro locked command hlocked _ hsent hkind
    refine (hlocked.waitSlotResult hsent call.stale).mono ?_ fun _ _ howns => howns
    intro result arena' hsettled
    rw [hkind] at hsettled
    have howns : arena'.Owns runtimeId owner := hsettled.owns
    exact ⟨fun _ => howns, fun _ _ => ⟨howns, fun _ => ⟨howns.runtimeId, howns.worker, howns.slot⟩⟩⟩

end CaptureArena

theorem CaptureArena.Settled.new {cfg : ArenaConfig} {zero : α} {arena : CaptureArena α}
    {runtimeId : ℕ} (hnew : CaptureArena.new runtimeId cfg zero = .ok arena) :
    arena.Settled runtimeId none := by
  unfold CaptureArena.new at hnew
  cases hworker : WorkerState.new cfg zero with
  | error e =>
      rw [hworker] at hnew
      cases hnew
  | ok worker =>
      rw [hworker] at hnew
      obtain rfl := Except.ok.inj hnew
      exact .of_frozen rfl (.new hworker) rfl rfl ((WorkerState.Tracks.new hworker).free rfl)

/-! ### Owners -/

/-- The epoch a freeze has granted, its result still in the slot. -/
def CommandSlot.granted : CommandSlot → Option FrozenRecord
  | .resultReady (.freeze _) (.ok (.frozen (some descriptor))) => some descriptor.record
  | _ => none

/-- The owners on the side of the client: its kept reply, and the slot. -/
def CaptureArena.owners (arena : CaptureArena α) : List FrozenRecord :=
  (arena.recoveredFrozen.map FrozenDescriptor.record).toList ++ arena.slot.granted.toList

/-- The release of that epoch has been executed, its result not yet taken. -/
def CaptureArena.Returned (arena : CaptureArena α) (owner : FrozenRecord) : Prop :=
  arena.worker.frozen = none ∧
    arena.slot = .resultReady (.release owner.index owner.generation) (.ok .released)

/-- All owners together own what the worker holds, but for an epoch whose
release has just been executed. -/
theorem CaptureArena.Owns.owners {arena : CaptureArena α} {runtimeId : ℕ}
    {owner : Option FrozenRecord} (h : arena.Owns runtimeId owner) :
    owner.toList ++ arena.owners = arena.worker.frozen.toList ∨
      ∃ record, owner.toList ++ arena.owners = [record] ∧ arena.Returned record := by
  have hleaves := h.slot
  unfold CaptureArena.owners CaptureArena.Returned
  cases hslot : arena.slot with
  | idle =>
      rw [hslot] at hleaves
      obtain ⟨hnobody, hfrozen⟩ := hleaves
      left
      rw [hfrozen]
      rcases hnobody with rfl | hnone
      · simp [CommandSlot.granted]
      · rw [hnone]
        simp [CommandSlot.granted]
  | ready command =>
      rw [hslot] at hleaves
      obtain ⟨hkept, -, hfrozen⟩ := hleaves
      left
      rw [hkept, hfrozen]
      simp [CommandSlot.granted]
  | resultReady command result =>
      rw [hslot] at hleaves
      obtain ⟨hkept, hsuits, hfrozen⟩ := hleaves
      rw [hkept]
      have hkeeps (hleft : command.kind.leaves result owner = owner)
          (hnone : (CommandSlot.resultReady command result).granted = none) :
          owner.toList ++ ((none : Option FrozenRecord).toList ++
            (CommandSlot.resultReady command result).granted.toList) =
            arena.worker.frozen.toList := by
        rw [hnone, hfrozen, hleft]
        simp
      cases command with
      | freeze committedStart =>
          obtain rfl : owner = none := hsuits
          by_cases hgranted : ∃ descriptor, result = .ok (.frozen (some descriptor))
          · obtain ⟨descriptor, rfl⟩ := hgranted
            rw [hfrozen]
            exact .inl rfl
          · refine .inl (hkeeps ?_ ?_)
            · refine CaptureArena.leaves_of_kind (fun _ descriptor heq => ?_) (by rintro ⟨⟩)
              exact hgranted ⟨descriptor, heq⟩
            · unfold CommandSlot.granted
              split
              · next heq =>
                  cases heq
                  exact absurd ⟨_, rfl⟩ hgranted
              · rfl
      | release index generation =>
          obtain rfl : owner = some ⟨index, generation⟩ := hsuits
          by_cases hreleased : result = .ok .released
          · subst hreleased
            exact .inr ⟨⟨index, generation⟩, rfl, hfrozen, rfl⟩
          · refine .inl (hkeeps ?_ rfl)
            cases result with
            | error e => rfl
            | ok reply =>
                cases reply with
                | released => exact absurd rfl hreleased
                | frozen descriptor => rfl
                | cleared report => rfl
                | status status => rfl
                | shutdown => rfl
      | clear ingressDroppedFrames accounting => exact .inl (hkeeps rfl rfl)
      | status => exact .inl (hkeeps rfl rfl)
      | shutdown => exact .inl (hkeeps rfl rfl)

end Lamb.Arena
