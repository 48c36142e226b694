import Lamb.Arena.Custody
import Mathlib.Tactic.Common

/-!
The clear that a coordinator waits for. Wherever it is, as a command in the
slot, as a result there, or as a report kept for recovery, it is the one clear
that is due, and its report counts at least the dropped frames that were
acknowledged when it was sent.
-/

namespace Lamb.Arena

open Lamb.Ring Lamb.Lib

variable {α : Type}

/-- A clear that is waited for, and the dropped frames its report may not fall
short of. -/
structure ClearDue where
  clearId : ℕ
  acknowledgedDroppedFrames : ℕ

def WorkerCommand.Serves (command : WorkerCommand) (due : Option ClearDue)
    (workerDroppedFrames : ℕ) : Prop :=
  match command with
  | .clear ingressDroppedFrames accounting => ∃ clear, due = some clear ∧
      accounting.clearId = clear.clearId ∧
      clear.acknowledgedDroppedFrames ≤ ingressDroppedFrames + workerDroppedFrames
  | _ => True

def CaptureClearReport.Serves (report : CaptureClearReport) (due : Option ClearDue) : Prop :=
  ∃ clear, due = some clear ∧ report.clearId = clear.clearId ∧
    clear.acknowledgedDroppedFrames ≤ report.cumulativeDroppedFrames

def ResultServes (result : Result WorkerReply) (due : Option ClearDue) : Prop :=
  ∀ report, result = .ok (.cleared report) → report.Serves due

def CommandSlot.Serves (slot : CommandSlot) (due : Option ClearDue)
    (workerDroppedFrames : ℕ) : Prop :=
  match slot with
  | .idle => True
  | .ready command => command.Serves due workerDroppedFrames
  | .resultReady command result =>
      command.Serves due workerDroppedFrames ∧ ResultServes result due

structure CaptureArena.Serves (runtimeId : ℕ) (due : Option ClearDue) (arena : CaptureArena α) :
    Prop where
  runtimeId : arena.runtimeId = runtimeId
  slot : arena.slot.Serves due arena.worker.workerDroppedFrames
  kept : ∀ report, arena.recoveredClear = some report → report.Serves due

/-! ### The worker -/

theorem WorkerCommand.Serves.mono {command : WorkerCommand} {due : Option ClearDue}
    {dropped dropped' : ℕ} (h : command.Serves due dropped) (hle : dropped ≤ dropped') :
    command.Serves due dropped' := by
  cases command with
  | clear ingressDroppedFrames accounting =>
      obtain ⟨clear, hdue, hid, hcounted⟩ := h
      exact ⟨clear, hdue, hid, hcounted.trans (Nat.add_le_add_left hle _)⟩
  | freeze committedStart => trivial
  | release index generation => trivial
  | status => trivial
  | shutdown => trivial

theorem WorkerState.workerDropped_le_dropWorkerFrames (worker : WorkerState α)
    (queue : DropCounters) (frames : ℕ) :
    worker.workerDroppedFrames ≤ (worker.dropWorkerFrames queue frames).1.workerDroppedFrames := by
  unfold WorkerState.dropWorkerFrames
  split
  · exact le_rfl
  · split
    · exact le_rfl
    · next total htotal =>
        obtain ⟨rfl, -⟩ := checkedAdd_eq_some.mp htotal
        exact Nat.le_add_right _ _

theorem WorkerState.workerDropped_le_consumeSamples (worker : WorkerState α)
    (queue : DropCounters) (now : ℕ) (samples : List α) :
    worker.workerDroppedFrames ≤
      (worker.consumeSamples queue now samples).1.workerDroppedFrames := by
  unfold WorkerState.consumeSamples
  simp only
  split
  · exact le_rfl
  split
  · split
    · next ring _ =>
        exact workerDropped_le_dropWorkerFrames
          { worker with epochs := Function.update worker.epochs worker.active ring } _ _
    · exact le_rfl
  · exact worker.workerDropped_le_dropWorkerFrames _ _

theorem WorkerState.retireAndReset_workerDropped (worker : WorkerState α) (index : Fin 2) :
    (worker.retireAndReset index).2.workerDroppedFrames = worker.workerDroppedFrames := by
  unfold WorkerState.retireAndReset
  simp only
  split
  · rfl
  · split
    · rfl
    · rfl

theorem WorkerState.freeze_workerDropped (worker : WorkerState α) (committedStart : Option ℕ) :
    (worker.freeze committedStart).2.workerDroppedFrames = worker.workerDroppedFrames := by
  have hretired := worker.retireAndReset_workerDropped (1 - worker.active)
  unfold WorkerState.freeze
  simp only
  split
  · rfl
  split
  · split
    · rfl
    · split
      · next heq =>
          rw [heq] at hretired
          exact hretired
      · next heq =>
          rw [heq] at hretired
          split
          · exact hretired
          · exact hretired
  · rfl

theorem WorkerState.release_workerDropped (worker : WorkerState α) (index : Fin 2)
    (generation : ℕ) :
    (worker.release index generation).2.workerDroppedFrames = worker.workerDroppedFrames := by
  have hretired := worker.retireAndReset_workerDropped index
  unfold WorkerState.release
  split
  · rfl
  split
  · rfl
  split
  · next heq =>
      rw [heq] at hretired
      exact hretired
  · next heq =>
      rw [heq] at hretired
      exact hretired

theorem WorkerState.clear_workerDropped (worker : WorkerState α) (ingressDroppedFrames : ℕ)
    (accounting : CaptureClearAccounting) :
    (worker.clear ingressDroppedFrames accounting).2.workerDroppedFrames =
      worker.workerDroppedFrames := by
  unfold WorkerState.clear
  split
  · rfl
  · rfl

theorem WorkerState.processCommand_workerDropped (worker : WorkerState α) (queue : DropCounters)
    (command : WorkerCommand) :
    (worker.processCommand queue command).2.workerDroppedFrames = worker.workerDroppedFrames := by
  unfold WorkerState.processCommand
  split
  · rfl
  cases command with
  | freeze committedStart => exact worker.freeze_workerDropped committedStart
  | release index generation => exact worker.release_workerDropped index generation
  | clear ingressDroppedFrames accounting =>
      exact worker.clear_workerDropped ingressDroppedFrames accounting
  | status => rfl
  | shutdown => rfl

theorem WorkerState.clear_eq_ok {worker worker' : WorkerState α} {ingressDroppedFrames : ℕ}
    {accounting : CaptureClearAccounting} {report : CaptureClearReport}
    (h : worker.clear ingressDroppedFrames accounting = (.ok report, worker')) :
    report.clearId = accounting.clearId ∧
      report.cumulativeDroppedFrames = ingressDroppedFrames + worker.workerDroppedFrames := by
  unfold WorkerState.clear at h
  split at h
  · cases h
  next report' hreport =>
  obtain rfl := Except.ok.inj (Prod.mk.inj h).1
  unfold WorkerState.clearReport at hreport
  simp only at hreport
  split at hreport
  · cases hreport
  split at hreport
  · cases hreport
  split at hreport
  · cases hreport
  split at hreport
  · cases hreport
  next total htotal =>
  obtain rfl := Except.ok.inj hreport
  exact ⟨rfl, (checkedAdd_eq_some.mp htotal).1⟩

/-- Only a clear is answered by a report, and its report counts what it was
sent with and what the worker had dropped. -/
theorem WorkerState.processCommand_cleared {worker : WorkerState α} {queue : DropCounters}
    {command : WorkerCommand} {report : CaptureClearReport}
    (h : (worker.processCommand queue command).1 = .ok (.cleared report)) :
    ∃ ingressDroppedFrames accounting, command = .clear ingressDroppedFrames accounting ∧
      report.clearId = accounting.clearId ∧
      report.cumulativeDroppedFrames = ingressDroppedFrames + worker.workerDroppedFrames := by
  unfold WorkerState.processCommand at h
  split at h
  · cases h
  cases command with
  | freeze committedStart =>
      simp only at h
      cases hresult : (worker.freeze committedStart).1 with
      | error e =>
          rw [hresult] at h
          cases h
      | ok descriptor =>
          rw [hresult] at h
          cases h
  | release index generation =>
      simp only at h
      cases hresult : (worker.release index generation).1 with
      | error e =>
          rw [hresult] at h
          cases h
      | ok _ =>
          rw [hresult] at h
          cases h
  | clear ingressDroppedFrames accounting =>
      simp only at h
      cases hresult : (worker.clear ingressDroppedFrames accounting).1 with
      | error e =>
          rw [hresult] at h
          cases h
      | ok report' =>
          rw [hresult] at h
          obtain rfl := WorkerReply.cleared.inj (Except.ok.inj h)
          exact ⟨ingressDroppedFrames, accounting, rfl,
            WorkerState.clear_eq_ok (Prod.ext hresult rfl)⟩
  | status =>
      simp only at h
      cases hresult : worker.status queue with
      | error e =>
          rw [hresult] at h
          cases h
      | ok status =>
          rw [hresult] at h
          cases h
  | shutdown => cases h

theorem WorkerCommand.Serves.processCommand {worker : WorkerState α} {due : Option ClearDue}
    {command : WorkerCommand} (h : command.Serves due worker.workerDroppedFrames)
    (queue : DropCounters) : ResultServes (worker.processCommand queue command).1 due := by
  intro report hreport
  obtain ⟨ingress, accounting, rfl, hid, hcounted⟩ :=
    WorkerState.processCommand_cleared hreport
  obtain ⟨clear, hdue, hclear, hle⟩ := h
  exact ⟨clear, hdue, hid.trans hclear, hle.trans hcounted.ge⟩

namespace CaptureArena

variable {arena : CaptureArena α} {runtimeId : ℕ} {due : Option ClearDue}

theorem Serves.of_worker (h : arena.Serves runtimeId due) {worker : WorkerState α}
    (hdropped : arena.worker.workerDroppedFrames ≤ worker.workerDroppedFrames)
    (queue : DropCounters) : Serves runtimeId due { arena with worker, queue } where
  runtimeId := h.runtimeId
  slot := by
    have hslot := h.slot
    show arena.slot.Serves due worker.workerDroppedFrames
    generalize arena.slot = slot at hslot ⊢
    cases slot with
    | idle => trivial
    | ready command => exact WorkerCommand.Serves.mono hslot hdropped
    | resultReady command result => exact ⟨hslot.1.mono hdropped, hslot.2⟩
  kept := h.kept

theorem Serves.event (h : arena.Serves runtimeId due) (event : ArenaEvent α) :
    (arena.event event).Serves runtimeId due := by
  cases event with
  | consume now samples =>
      simp only [CaptureArena.event]
      split
      · exact h.of_worker (arena.worker.workerDropped_le_consumeSamples _ _ _) _
      · exact h
  | execute =>
      simp only [CaptureArena.event]
      split
      · next command hslot =>
          have hserves : command.Serves due arena.worker.workerDroppedFrames := by
            have := h.slot
            rwa [hslot] at this
          refine ⟨h.runtimeId, ⟨?_, hserves.processCommand arena.queue⟩, h.kept⟩
          exact hserves.mono (arena.worker.processCommand_workerDropped _ _).ge
      · exact h
  | enqueue frames =>
      simp only [CaptureArena.event]
      split
      · exact h
      · exact h.of_worker le_rfl _
  | drop frames =>
      simp only [CaptureArena.event]
      split
      · exact h
      · split
        · exact h.of_worker le_rfl _
        · exact h.of_worker le_rfl _
  | dropDone =>
      simp only [CaptureArena.event]
      split
      · exact h
      · exact h.of_worker le_rfl _

theorem Serves.events (h : arena.Serves runtimeId due) (events : List (ArenaEvent α)) :
    (arena.events events).Serves runtimeId due := by
  induction events generalizing arena with
  | nil => exact h
  | cons event events ih => exact ih (h.event event)

theorem Quiet.serves (h : arena.Quiet) (hruntime : arena.runtimeId = runtimeId)
    (due : Option ClearDue) : arena.Serves runtimeId due where
  runtimeId := hruntime
  slot := by
    rw [h.slot]
    trivial
  kept report hreport := by
    rw [h.clear] at hreport
    cases hreport

/-- Where no clear is on its way, any clear may be due. -/
theorem Serves.of_none (h : arena.Serves runtimeId none) (due : Option ClearDue) :
    arena.Serves runtimeId due := by
  have hcommand : ∀ {command : WorkerCommand} {dropped : ℕ},
      command.Serves none dropped → command.Serves due dropped := by
    intro command dropped hserves
    cases command with
    | clear ingressDroppedFrames accounting =>
        obtain ⟨clear, hclear, -⟩ := hserves
        cases hclear
    | freeze committedStart => trivial
    | release index generation => trivial
    | status => trivial
    | shutdown => trivial
  have hreport : ∀ {report : CaptureClearReport}, report.Serves none → report.Serves due := by
    rintro report ⟨clear, hclear, -⟩
    cases hclear
  refine ⟨h.runtimeId, ?_, fun report hkept => hreport (h.kept report hkept)⟩
  have hslot := h.slot
  generalize arena.slot = slot at hslot ⊢
  cases slot with
  | idle => trivial
  | ready command => exact hcommand hslot
  | resultReady command result =>
      exact ⟨hcommand hslot.1, fun report hresult => hreport (hslot.2 report hresult)⟩

theorem Serves.take (h : arena.Serves runtimeId due) :
    Serves runtimeId due { arena with slot := .idle, abandoned := false } :=
  ⟨h.runtimeId, trivial, h.kept⟩

theorem Serves.keep (h : arena.Serves runtimeId due) {report : CaptureClearReport}
    (hreport : report.Serves due) :
    Serves runtimeId due { arena with recoveredClear := some report } where
  runtimeId := h.runtimeId
  slot := h.slot
  kept := by
    rintro _ ⟨⟩
    exact hreport

theorem Serves.result (h : arena.Serves runtimeId due) {command : WorkerCommand}
    {result : Result WorkerReply} (hslot : arena.slot = .resultReady command result) :
    ResultServes result due := by
  have hserves := h.slot
  rw [hslot] at hserves
  exact hserves.2

/-! ### Calls -/

theorem Serves.waitSlotResult (h : arena.Serves runtimeId due) (wait : Wait α) :
    (CaptureArena.waitSlotResult wait).Ends arena
      (fun result arena' => arena'.Serves runtimeId due ∧ ResultServes result due ∧
        arena'.slot = .idle ∧ arena'.recoveredClear = arena.recoveredClear)
      (fun e arena' => arena'.Serves runtimeId due ∧ e = commandTimedOut) := by
  have hevents := h.events wait.events
  refine CaptureArena.waitSlotResult_ends wait (fun _ _ hready => ?_) (fun _ _ hready => ?_) ?_
  · exact ⟨h.take, h.result hready, rfl, rfl⟩
  · exact ⟨hevents.take, hevents.result hready, rfl, (arena.events_kept wait.events).2⟩
  · exact ⟨⟨hevents.runtimeId, hevents.slot, hevents.kept⟩, rfl⟩

theorem Serves.idle (h : arena.Serves runtimeId none) {arena' : CaptureArena α}
    (hruntime : arena'.runtimeId = runtimeId) (hidle : arena'.slot = .idle)
    (hkept : arena'.recoveredClear = arena.recoveredClear) : arena'.Serves runtimeId none where
  runtimeId := hruntime
  slot := by
    rw [hidle]
    trivial
  kept := by
    rw [hkept]
    exact h.kept

/-- Unless the wait for the reply times out, nothing is left on its way. -/
theorem Serves.submitLocked (h : arena.Serves runtimeId due)
    {command : CaptureArena α → WorkerCommand}
    (hcommand : (command arena).Serves due arena.worker.workerDroppedFrames) (wait : Wait α) :
    (CaptureArena.submitLocked command wait).Ends arena
      (fun reply arena' => arena'.Serves runtimeId due ∧ ResultServes (.ok reply) due ∧
        (arena.Serves runtimeId none → arena'.Serves runtimeId none))
      (fun e arena' => arena'.Serves runtimeId due ∧
        (e ≠ commandTimedOut → arena.Serves runtimeId none → arena'.Serves runtimeId none)) := by
  have hsent : Serves runtimeId due
      { arena with slot := .ready (command arena), abandoned := false } :=
    ⟨h.runtimeId, hcommand, h.kept⟩
  refine .bindGet (.bindRequire (fun _ => ⟨h, fun _ hnone => hnone⟩) fun _ => .bindModify ?_)
  refine .bind ((hsent.waitSlotResult wait).mono (fun _ _ hgot => hgot) ?_) ?_
  · rintro e arena' ⟨hserves, rfl⟩
    exact ⟨hserves, fun hne => absurd rfl hne⟩
  · rintro result arena' ⟨hserves, hresult, hidle, hkept⟩
    have hnone : arena.Serves runtimeId none → arena'.Serves runtimeId none :=
      fun hnone => hnone.idle hserves.runtimeId hidle hkept
    refine .ofExcept ?_ fun e _ => ⟨hserves, fun _ => hnone⟩
    rintro reply rfl
    exact ⟨hserves, hresult, hnone⟩

theorem Serves.settleStale (h : arena.Serves runtimeId due) (stale requested : CommandKind)
    {result : Result WorkerReply} (hresult : ResultServes result due) :
    (CaptureArena.settleStale stale requested result).Ends arena
      (fun recovered arena' => arena'.Serves runtimeId due ∧
        ∀ result, recovered = some result → ResultServes result due)
      (fun _ arena' => arena'.Serves runtimeId due) := by
  have hnone : arena.Serves runtimeId due ∧
      ∀ result, (none : Option (Result WorkerReply)) = some result → ResultServes result due :=
    ⟨h, by simp⟩
  have hsome : arena.Serves runtimeId due ∧
      ∀ result', some result = some result' → ResultServes result' due := by
    refine ⟨h, ?_⟩
    rintro _ ⟨rfl⟩
    exact hresult
  unfold CaptureArena.settleStale
  cases stale with
  | clear =>
      simp only
      split
      · next report =>
          have hkeep := h.keep (hresult report rfl)
          exact .bindModify (.ite (fun _ => .pure ⟨hkeep, by simp⟩) fun _ => .fail hkeep)
      · exact .ite (fun _ => .pure hsome) fun _ => .pure hnone
  | freeze =>
      simp only
      split
      · refine .ite (fun _ => .pure hsome) fun _ => .bindModify (.fail ?_)
        exact ⟨h.runtimeId, h.slot, h.kept⟩
      · exact .ite (fun _ => .pure hsome) fun _ => .pure hnone
  | release => exact .pure hsome
  | status => exact .ite (fun _ => .pure hsome) fun _ => .pure hnone
  | shutdown => exact .ite (fun _ => .pure hsome) fun _ => .fail h

theorem Serves.recoverBefore (h : arena.Serves runtimeId due) (requested : CommandKind)
    (wait : Wait α) :
    (CaptureArena.recoverBefore requested wait).Ends arena
      (fun recovered arena' => arena'.Serves runtimeId due ∧
        ∀ result, recovered = some result → ResultServes result due)
      (fun _ arena' => arena'.Serves runtimeId due) := by
  refine CaptureArena.recoverBefore_ends requested wait (fun _ => h) ?_ ?_ ?_
  · intro descriptor _ _ _
    refine ⟨⟨h.runtimeId, h.slot, h.kept⟩, ?_⟩
    rintro _ ⟨rfl⟩ report ⟨⟩
  · intro _ _ _
    exact ⟨h, by simp⟩
  · intro command _ _ _ _
    refine (h.waitSlotResult wait).mono ?_ fun _ _ hlost => hlost.1
    rintro result arena' ⟨hserves, hresult, -⟩
    exact hserves.settleStale _ _ hresult

theorem Serves.lockCommandClient (h : arena.Serves runtimeId due) (call : Call α) :
    (CaptureArena.lockCommandClient call).Ends arena
      (fun _ arena' => arena'.Serves runtimeId due)
      (fun _ arena' => arena'.Serves runtimeId due) := by
  have hevents := h.events call.before
  exact .bindModify (.ofExcept (fun _ _ => hevents) fun _ _ => hevents)

theorem Serves.recoveredOrSubmit (h : arena.Serves runtimeId due)
    {recovered : Option (Result WorkerReply)}
    (hrecovered : ∀ result, recovered = some result → ResultServes result due)
    {command : CaptureArena α → WorkerCommand}
    (hcommand : recovered = none →
      (command arena).Serves due arena.worker.workerDroppedFrames) (wait : Wait α) :
    (CaptureArena.recoveredOrSubmit recovered command wait).Ends arena
      (fun result arena' => arena'.Serves runtimeId due ∧ ResultServes result due ∧
        (result ≠ .error commandTimedOut → arena.Serves runtimeId none →
          arena'.Serves runtimeId none))
      (fun _ _ => False) := by
  cases recovered with
  | some result => exact .pure ⟨h, hrecovered _ rfl, fun _ hnone => hnone⟩
  | none =>
      refine .capture ((h.submitLocked (hcommand rfl) wait).mono ?_ ?_)
      · rintro reply arena' ⟨hserves, hreply, hnone⟩
        exact ⟨hserves, hreply, fun _ => hnone⟩
      · rintro e arena' ⟨hserves, hfailed⟩
        refine ⟨hserves, by rintro _ ⟨⟩, fun hne => hfailed fun heq => hne ?_⟩
        rw [heq]

theorem Serves.executeCommand (h : arena.Serves runtimeId due) (kind : CommandKind)
    {command : CaptureArena α → WorkerCommand}
    (hcommand : ∀ arena' : CaptureArena α,
      (command arena').Serves due arena'.worker.workerDroppedFrames) (call : Call α) :
    (CaptureArena.executeCommand kind command call).Ends arena
      (fun _ arena' => arena'.Serves runtimeId due)
      (fun _ arena' => arena'.Serves runtimeId due) := by
  refine .bind (h.lockCommandClient call) fun _ locked hlocked => ?_
  refine .bind (hlocked.recoverBefore kind call.stale) ?_
  rintro recovered arena' ⟨hserves, hrecovered⟩
  refine .bind ((hserves.recoveredOrSubmit hrecovered (fun _ => hcommand arena')
    call.reply).mono (fun _ _ hdone => hdone) fun _ _ hnever => hnever.elim) ?_
  rintro result arena'' ⟨hserves', -⟩
  exact .ofExcept (fun _ _ => hserves') fun _ _ => hserves'

theorem preserves_freezeSince (committedStart : Option ℕ) (call : Call α) :
    (CaptureArena.freezeSince committedStart call).Preserves (Serves runtimeId due) := by
  intro arena h
  have hcommand : ∀ arena' : CaptureArena α, WorkerCommand.Serves
      (.freeze committedStart) due arena'.worker.workerDroppedFrames := fun _ => trivial
  refine .bind (h.executeCommand .freeze hcommand call) fun reply arena' hserves => .bindGet ?_
  cases reply with
  | frozen descriptor => exact .pure hserves
  | released => exact .fail hserves
  | cleared report => exact .fail hserves
  | status status => exact .fail hserves
  | shutdown => exact .fail hserves

theorem preserves_releaseFrozen (frozen : FrozenCaptureEpoch) (call : Call α) :
    (CaptureArena.releaseFrozen frozen call).Preserves (Serves runtimeId due) := by
  intro arena h
  refine .bindGet (.ite (fun _ => .pure h) fun _ => .ite (fun _ => .pure h) fun _ => .bindModify ?_)
  have hevents := h.events call.before
  cases call.lock.result with
  | error e => exact .pure hevents
  | ok _ =>
      have hends : (CaptureArena.recoverBefore .release call.stale).capture.Ends
          (arena.events call.before)
          (fun recovered arena' => arena'.Serves runtimeId due ∧
            ∀ recovered', recovered = .ok recovered' → ∀ result, recovered' = some result →
              ResultServes result due) (fun _ arena' => arena'.Serves runtimeId due) := by
        refine .capture ((hevents.recoverBefore .release call.stale).mono ?_ ?_)
        · rintro recovered arena' ⟨hserves, hrecovered⟩
          refine ⟨hserves, ?_⟩
          rintro _ ⟨rfl⟩
          exact hrecovered
        · intro e arena' hserves
          exact ⟨hserves, by rintro _ ⟨⟩⟩
      refine .bind hends ?_
      rintro recovered arena' ⟨hserves, hrecovered⟩
      cases recovered with
      | error e => exact .pure hserves
      | ok recovered =>
          have hcommand : recovered = none → WorkerCommand.Serves
              (.release frozen.descriptor.index frozen.descriptor.generation) due
              arena'.worker.workerDroppedFrames := fun _ => trivial
          refine .bind ((hserves.recoveredOrSubmit (hrecovered recovered rfl) hcommand
            call.reply).mono (fun _ _ hdone => hdone) fun _ _ hnever => hnever.elim) ?_
          rintro result arena'' ⟨hserves', -⟩
          refine .bindGet ?_
          cases result with
          | error e => exact .pure hserves'
          | ok reply =>
              cases reply with
              | released => exact .pure hserves'
              | frozen descriptor => exact .pure hserves'
              | cleared report => exact .pure hserves'
              | status status => exact .pure hserves'
              | shutdown => exact .pure hserves'

/-- A clear call up to the point where it puts its command into the slot; a
result that is recovered there takes the place of the command. -/
def clearSubmission (call : Call α) :
    Attempt (CaptureArena α) LambError (Option (Result WorkerReply)) := do
  CaptureArena.lockCommandClient call
  CaptureArena.recoverBefore .clear call.stale

theorem Serves.clearSubmission (h : arena.Serves runtimeId due) (call : Call α) :
    (CaptureArena.clearSubmission call).Ends arena
      (fun recovered arena' =>
        CaptureArena.clearSubmission call arena = (.ok recovered, arena') ∧
        arena'.Serves runtimeId due ∧ ∀ result, recovered = some result → ResultServes result due)
      (fun _ arena' => arena'.Serves runtimeId due) := by
  have hends : (CaptureArena.clearSubmission call).Ends arena
      (fun recovered arena' => arena'.Serves runtimeId due ∧
        ∀ result, recovered = some result → ResultServes result due)
      (fun _ arena' => arena'.Serves runtimeId due) :=
    .bind (h.lockCommandClient call) fun _ _ hlocked => hlocked.recoverBefore .clear call.stale
  exact hends.traced

/-- A clear that is sent when the counters hold every acknowledged drop. Unless
its reply times out, nothing is left on its way. -/
theorem Serves.clearActiveAccounted (h : arena.Serves runtimeId none) {clear : ClearDue}
    {accounting : CaptureClearAccounting} (hid : accounting.clearId = clear.clearId)
    (call : Call α)
    (hcounted : ∀ arena', CaptureArena.clearSubmission call arena = (.ok none, arena') →
      clear.acknowledgedDroppedFrames ≤
        arena'.queue.droppedFrames + arena'.worker.workerDroppedFrames) :
    (CaptureArena.clearActiveAccounted accounting call).Ends arena
      (fun report arena' => report.Serves (some clear) ∧ arena'.runtimeId = runtimeId)
      (fun e arena' => arena'.Serves runtimeId (some clear) ∧
        (e ≠ commandTimedOut → arena'.Serves runtimeId none)) := by
  have hfailed : ∀ {arena' : CaptureArena α} (e : LambError), arena'.Serves runtimeId none →
      arena'.Serves runtimeId (some clear) ∧ (e ≠ commandTimedOut → arena'.Serves runtimeId none) :=
    fun _ hnone => ⟨hnone.of_none _, fun _ => hnone⟩
  have hexecuted : (CaptureArena.executeCommand .clear
      (fun arena => .clear arena.queue.droppedFrames accounting) call).Ends arena
      (fun reply arena' => ResultServes (.ok reply) (some clear) ∧ arena'.Serves runtimeId none)
      (fun e arena' => arena'.Serves runtimeId (some clear) ∧
        (e ≠ commandTimedOut → arena'.Serves runtimeId none)) := by
    have hsplit : CaptureArena.executeCommand .clear
        (fun arena => .clear arena.queue.droppedFrames accounting) call =
        CaptureArena.clearSubmission call >>= fun recovered =>
          CaptureArena.recoveredOrSubmit recovered
            (fun arena => .clear arena.queue.droppedFrames accounting) call.reply >>=
            fun result => Attempt.ofExcept result := by
      unfold CaptureArena.executeCommand CaptureArena.clearSubmission
      rw [← Attempt.bind_assoc]
    rw [hsplit]
    refine .bind ((h.clearSubmission call).mono (fun _ _ hdone => hdone)
      fun e _ hlost => hfailed e hlost) ?_
    rintro recovered arena' ⟨hreached, hnone, hrecovered⟩
    have hreturned : ∀ result, recovered = some result → ResultServes result (some clear) := by
      intro result hresult report hreport
      obtain ⟨_, hnever, -⟩ := hrecovered result hresult report hreport
      cases hnever
    have hsent : recovered = none → WorkerCommand.Serves
        (.clear arena'.queue.droppedFrames accounting) (some clear)
        arena'.worker.workerDroppedFrames := by
      rintro rfl
      exact ⟨clear, rfl, hid, hcounted arena' hreached⟩
    refine .bind (((hnone.of_none (some clear)).recoveredOrSubmit hreturned hsent call.reply).mono
      (fun _ _ hdone => hdone) fun _ _ hnever => hnever.elim) ?_
    rintro result arena'' ⟨hserves, hresult, hleft⟩
    refine .ofExcept ?_ ?_
    · rintro reply rfl
      exact ⟨hresult, hleft (by simp) hnone⟩
    · rintro e rfl
      exact ⟨hserves, fun hne => hleft (fun heq => hne (Except.error.inj heq)) hnone⟩
  refine .bindGet (.bindRequire (fun _ => hfailed _ h) fun _ => .bind hexecuted ?_)
  rintro reply arena' ⟨hreply, hnone⟩
  cases reply with
  | cleared report => exact .pure ⟨hreply report rfl, hnone.runtimeId⟩
  | frozen descriptor => exact .fail (hfailed _ hnone)
  | released => exact .fail (hfailed _ hnone)
  | status status => exact .fail (hfailed _ hnone)
  | shutdown => exact .fail (hfailed _ hnone)

/-- When there is no report to recover, no clear is on its way any more. -/
theorem Serves.recoverClearResult (h : arena.Serves runtimeId due)
    (recovery : CaptureClearRecovery) (call : Call α) :
    (CaptureArena.recoverClearResult recovery call).Ends arena
      (fun found arena' => arena'.runtimeId = runtimeId ∧
        (∀ report, found = some report → report.Serves due) ∧
        (found = none → arena'.Serves runtimeId none))
      (fun _ arena' => arena'.Serves runtimeId due) := by
  refine CaptureArena.recoverClearResult_ends recovery call (fun _ => h)
    (h.lockCommandClient call) (fun _ _ hlocked => hlocked) ?_ ?_ ?_
  · intro locked report hlocked hkept
    refine ⟨hlocked.runtimeId, ?_, ?_⟩
    · rintro _ ⟨rfl⟩
      exact hlocked.kept report hkept
    · rintro ⟨⟩
  · intro locked hlocked hkept hslot
    refine ⟨hlocked.runtimeId, by simp, fun _ => ⟨hlocked.runtimeId, ?_, ?_⟩⟩
    · rw [hslot]
      trivial
    · rw [hkept]
      rintro _ ⟨⟩
  · intro locked command hlocked _ _ _
    refine (hlocked.waitSlotResult call.stale).mono ?_ fun _ _ hlost => hlost.1
    rintro result arena' ⟨hserves, hresult, -⟩
    refine ⟨fun _ => hserves, fun report heq => ⟨⟨hserves.runtimeId, ?_, ?_⟩, fun _ => ?_⟩⟩
    · rintro _ ⟨rfl⟩
      exact hresult report heq
    · rintro ⟨⟩
    · exact hserves.keep (hresult report heq)

end CaptureArena

end Lamb.Arena
