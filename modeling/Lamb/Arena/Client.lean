import Lamb.Arena.Epoch
import Lamb.Lib.Attempt

/-!
The client side of the capture arena: one command slot, the replies kept for
recovery, and the calls that submit a command and wait for its reply. While a
client waits the worker and the producer go on; what they do, and whether the
client's deadline passes, is given to each call from outside.
-/

namespace Lamb.Arena

open Lamb.Ring Lamb.Lib

variable {α : Type}

inductive CommandKind
  | freeze
  | release
  | clear
  | status
  | shutdown
  deriving DecidableEq, Repr

def WorkerCommand.kind : WorkerCommand → CommandKind
  | .freeze _ => .freeze
  | .release _ _ => .release
  | .clear _ _ => .clear
  | .status => .status
  | .shutdown => .shutdown

/-- The command slot. A command stays `ready` until the worker has published
its result; the client cannot tell the states in between apart. -/
inductive CommandSlot
  | idle
  | ready (command : WorkerCommand)
  | resultReady (command : WorkerCommand) (result : Result WorkerReply)
  deriving DecidableEq

structure CaptureArena (α : Type) where
  runtimeId : ℕ
  worker : WorkerState α
  queue : DropCounters
  slot : CommandSlot
  abandoned : Bool
  recoveredFrozen : Option FrozenDescriptor
  recoveredClear : Option CaptureClearReport

def CaptureArena.new (runtimeId : ℕ) (cfg : ArenaConfig) (zero : α) : Result (CaptureArena α) :=
  match WorkerState.new cfg zero with
  | .error e => .error e
  | .ok worker => .ok
      { runtimeId
        worker
        queue :=
          { enqueuedFrames := 0
            droppedFrames := 0
            cumulativeDroppedFrames := 0
            dropCounterExhausted := false
            pendingDrop := none }
        slot := .idle
        abandoned := false
        recoveredFrozen := none
        recoveredClear := none }

/-! ### The worker and the producer -/

/-- A step of another thread: the worker consumes a block or executes the
ready command; the producer enqueues frames or drops some, the latter in the
two steps of `add_dropped_frames`. -/
inductive ArenaEvent (α : Type)
  | consume (now : ℕ) (samples : List α)
  | execute
  | enqueue (frames : ℕ)
  | drop (frames : ℕ)
  | dropDone

def CaptureArena.event (arena : CaptureArena α) : ArenaEvent α → CaptureArena α
  | .consume now samples =>
      -- the queue hands out whole frames, and no more than a slot of them
      if samples.length % arena.worker.cfg.ring.channels = 0 ∧
          samples.length / arena.worker.cfg.ring.channels ≤ arena.worker.cfg.slotFrames then
        let (worker, queue) := arena.worker.consumeSamples arena.queue now samples
        { arena with worker, queue }
      else arena
  | .execute =>
      match arena.slot with
      | .ready command =>
          let (result, worker) := arena.worker.processCommand arena.queue command
          { arena with worker, slot := .resultReady command result }
      | _ => arena
  | .enqueue frames =>
      match checkedAdd arena.queue.enqueuedFrames frames with
      | none => arena
      | some total => { arena with queue := { arena.queue with enqueuedFrames := total } }
  | .drop frames =>
      match arena.queue.pendingDrop with
      | some _ => arena
      | none =>
          match arena.queue.addCumulativeDroppedFrames frames with
          | (.error _, queue) => { arena with queue }
          | (.ok (), queue) =>
              { arena with queue := { queue with pendingDrop := some frames } }
  | .dropDone =>
      match arena.queue.pendingDrop with
      | none => arena
      | some frames =>
          { arena with
            queue := { (arena.queue.addIngressDroppedFrames frames).2 with pendingDrop := none } }

def CaptureArena.events (arena : CaptureArena α) (events : List (ArenaEvent α)) :
    CaptureArena α :=
  events.foldl CaptureArena.event arena

/-! ### Waiting for a reply -/

/-- How the lock of the client state is obtained. -/
inductive LockOutcome
  | locked
  | deadlineOverflow
  | timedOut
  | poisoned
  deriving DecidableEq, Repr

/-- What happens while a client waits, and whether its deadline passes first. -/
structure Wait (α : Type) where
  events : List (ArenaEvent α)
  timedOut : Bool

/-- The surroundings of one client call: the steps of other threads before it,
its lock, the wait for an abandoned command and the wait for its own. -/
structure Call (α : Type) where
  before : List (ArenaEvent α)
  lock : LockOutcome
  stale : Wait α
  reply : Wait α

def commandTimedOut : LambError := .controlInvariant "capture command timed out"

def clientTimedOut : LambError := .controlInvariant "capture command client timed out"

def LockOutcome.result : LockOutcome → Result Unit
  | .locked => .ok ()
  | .deadlineOverflow => .error (.controlInvariant "capture command deadline overflow")
  | .timedOut => .error clientTimedOut
  | .poisoned => .error (.controlInvariant "capture command client mutex poisoned")

def CaptureArena.interlude (events : List (ArenaEvent α)) :
    Attempt (CaptureArena α) LambError Unit :=
  Attempt.modify fun arena => arena.events events

def CaptureArena.lockCommandClient (call : Call α) :
    Attempt (CaptureArena α) LambError Unit := do
  CaptureArena.interlude call.before
  Attempt.ofExcept call.lock.result

/-- `wait_slot_result`: a result that is already there is taken whatever the
deadline. -/
def CaptureArena.waitSlotResult (wait : Wait α) :
    Attempt (CaptureArena α) LambError (Result WorkerReply) := fun arena =>
  match arena.slot with
  | .resultReady _ result => (.ok result, { arena with slot := .idle, abandoned := false })
  | _ =>
      let arena := arena.events wait.events
      match arena.slot, wait.timedOut with
      | .resultReady _ result, false =>
          (.ok result, { arena with slot := .idle, abandoned := false })
      | _, _ => (.error commandTimedOut, { arena with abandoned := true })

def CaptureArena.submitLocked (command : CaptureArena α → WorkerCommand) (wait : Wait α) :
    Attempt (CaptureArena α) LambError WorkerReply := do
  let arena ← Attempt.get
  Attempt.require (arena.slot = .idle) (.controlInvariant "capture command already pending")
  Attempt.modify fun arena => { arena with slot := .ready (command arena), abandoned := false }
  let result ← CaptureArena.waitSlotResult wait
  Attempt.ofExcept result

def clearPending : LambError := .controlInvariant "clear result pending explicit recovery"

def frozenPending : LambError := .controlInvariant "frozen result pending recovery"

/-- The end of `recover_before`: what to do with the result of an abandoned
command. `none` lets the request go on. -/
def CaptureArena.settleStale (stale requested : CommandKind) (result : Result WorkerReply) :
    Attempt (CaptureArena α) LambError (Option (Result WorkerReply)) :=
  match stale with
  | .clear =>
      match result with
      | .ok (.cleared report) => do
          Attempt.modify fun arena => { arena with recoveredClear := some report }
          if requested = .status then pure none else Attempt.fail clearPending
      | _ => if requested = .clear then pure (some result) else pure none
  | .freeze =>
      match result with
      | .ok (.frozen (some descriptor)) =>
          if requested = .freeze then pure (some (.ok (.frozen (some descriptor))))
          else do
            Attempt.modify fun arena => { arena with recoveredFrozen := some descriptor }
            Attempt.fail frozenPending
      | _ => if requested = .freeze then pure (some result) else pure none
  | .release => pure (some result)
  | .status => if requested = .status then pure (some result) else pure none
  | .shutdown =>
      if requested = .shutdown then pure (some result)
      else Attempt.fail (.controlInvariant "shutdown result pending recovery")

def CaptureArena.recoverBefore (requested : CommandKind) (wait : Wait α) :
    Attempt (CaptureArena α) LambError (Option (Result WorkerReply)) := do
  let arena ← Attempt.get
  Attempt.require (¬(arena.recoveredClear.isSome ∧ requested ≠ .status)) clearPending
  match arena.recoveredFrozen with
  | some descriptor =>
      if requested = .freeze then do
        Attempt.modify fun arena => { arena with recoveredFrozen := none }
        pure (some (.ok (.frozen (some descriptor))))
      else Attempt.fail frozenPending
  | none =>
      match arena.slot with
      | .idle => pure none
      | .ready command | .resultReady command _ => do
          Attempt.require (arena.abandoned = true)
            (.controlInvariant "capture command already pending")
          Attempt.require (¬(command.kind = .release ∧ requested ≠ .release))
            (.controlInvariant "release result pending recovery")
          let result ← CaptureArena.waitSlotResult wait
          CaptureArena.settleStale command.kind requested result

/-- A recovered result stands for the reply; else the command is submitted. -/
def CaptureArena.recoveredOrSubmit (recovered : Option (Result WorkerReply))
    (command : CaptureArena α → WorkerCommand) (wait : Wait α) :
    Attempt (CaptureArena α) LambError (Result WorkerReply) :=
  match recovered with
  | some result => pure result
  | none => Attempt.capture (CaptureArena.submitLocked command wait)

def CaptureArena.executeCommand (kind : CommandKind) (command : CaptureArena α → WorkerCommand)
    (call : Call α) : Attempt (CaptureArena α) LambError WorkerReply := do
  CaptureArena.lockCommandClient call
  let recovered ← CaptureArena.recoverBefore kind call.stale
  let result ← CaptureArena.recoveredOrSubmit recovered command call.reply
  Attempt.ofExcept result

/-! ### The calls of the coordinator -/

structure FrozenEpochIdentity where
  runtimeId : ℕ
  index : Fin 2
  generation : ℕ
  deriving DecidableEq, Repr

structure FrozenCaptureEpoch where
  runtimeId : ℕ
  descriptor : FrozenDescriptor
  released : Bool
  releasePending : Bool
  deriving DecidableEq, Repr

def FrozenCaptureEpoch.identity (frozen : FrozenCaptureEpoch) : FrozenEpochIdentity where
  runtimeId := frozen.runtimeId
  index := frozen.descriptor.index
  generation := frozen.descriptor.generation

def FrozenCaptureEpoch.absoluteRange (frozen : FrozenCaptureEpoch) : Range :=
  frozen.descriptor.absoluteRange

def CaptureArena.freezeSince (committedStart : Option ℕ) (call : Call α) :
    Attempt (CaptureArena α) LambError (Option FrozenCaptureEpoch) := do
  let reply ← CaptureArena.executeCommand .freeze (fun _ => .freeze committedStart) call
  let arena ← Attempt.get
  match reply with
  | .frozen descriptor => pure (descriptor.map fun descriptor =>
      { runtimeId := arena.runtimeId, descriptor, released := false, releasePending := false })
  | _ => Attempt.fail (.controlInvariant "capture worker returned the wrong freeze result")

/-- `release_frozen`; the epoch is handed back with its flags updated. -/
def CaptureArena.releaseFrozen (frozen : FrozenCaptureEpoch) (call : Call α) :
    Attempt (CaptureArena α) LambError (Result Unit × FrozenCaptureEpoch) := do
  let arena ← Attempt.get
  if arena.runtimeId ≠ frozen.runtimeId then
    pure (.error (.controlInvariant "frozen epoch belongs to a different capture runtime"), frozen)
  else if frozen.released then
    pure (.error (.controlInvariant "frozen epoch was already released"), frozen)
  else do
    CaptureArena.interlude call.before
    match call.lock.result with
    | .error e => pure (.error e, frozen)
    | .ok () => do
        let recovered ← Attempt.capture (CaptureArena.recoverBefore .release call.stale)
        match recovered with
        | .error e => pure (.error e, frozen)
        | .ok recovered => do
            let result ← CaptureArena.recoveredOrSubmit recovered
              (fun _ => .release frozen.descriptor.index frozen.descriptor.generation) call.reply
            let arena ← Attempt.get
            match result with
            | .error e =>
                pure (.error e, { frozen with releasePending := decide (arena.slot ≠ .idle) })
            | .ok .released => pure (.ok (), { frozen with releasePending := false, released := true })
            | .ok _ =>
                pure (.error (.controlInvariant "capture worker returned the wrong release result"),
                  { frozen with releasePending := false })

def CaptureArena.clearActiveAccounted (accounting : CaptureClearAccounting) (call : Call α) :
    Attempt (CaptureArena α) LambError CaptureClearReport := do
  let arena ← Attempt.get
  Attempt.require (accounting.arenaRuntimeId = arena.runtimeId)
    (.controlInvariant "clear accounting belongs to a different capture runtime")
  let reply ← CaptureArena.executeCommand .clear
    (fun arena => .clear arena.queue.droppedFrames accounting) call
  match reply with
  | .cleared report => pure report
  | _ => Attempt.fail (.controlInvariant "capture worker returned the wrong clear result")

structure CaptureClearRecovery where
  arenaRuntimeId : ℕ
  coordinatorId : ℕ
  clearId : ℕ
  deriving DecidableEq, Repr

def CaptureClearRecovery.matches (recovery : CaptureClearRecovery)
    (report : CaptureClearReport) : Bool :=
  recovery.arenaRuntimeId = report.arenaRuntimeId ∧
    recovery.coordinatorId = report.coordinatorId ∧ recovery.clearId = report.clearId

def CaptureArena.recoverClearResult (recovery : CaptureClearRecovery) (call : Call α) :
    Attempt (CaptureArena α) LambError (Option CaptureClearReport) := do
  let arena ← Attempt.get
  Attempt.require (recovery.arenaRuntimeId = arena.runtimeId)
    (.controlInvariant "clear recovery belongs to a different capture runtime")
  CaptureArena.lockCommandClient call
  let arena ← Attempt.get
  match arena.recoveredClear with
  | some report => do
      Attempt.require (recovery.matches report)
        (.controlInvariant "clear recovery identity does not match retained report")
      Attempt.modify fun arena => { arena with recoveredClear := none }
      pure (some report)
  | none =>
      match arena.slot with
      | .idle => pure none
      | .ready command | .resultReady command _ => do
          Attempt.require (arena.abandoned = true ∧ command.kind = .clear)
            (.controlInvariant "capture clear result is not recoverable")
          let result ← CaptureArena.waitSlotResult call.stale
          let reply ← Attempt.ofExcept result
          match reply with
          | .cleared report =>
              if recovery.matches report then pure (some report)
              else do
                Attempt.modify fun arena => { arena with recoveredClear := some report }
                Attempt.fail
                  (.controlInvariant "clear recovery identity does not match completed report")
          | _ =>
              Attempt.fail
                (.controlInvariant "capture worker returned the wrong clear recovery result")

/-! ### How the calls end -/

/-- The slot holds this command, or its result. -/
def CaptureArena.Sent (arena : CaptureArena α) (command : WorkerCommand) : Prop :=
  arena.slot = .ready command ∨ ∃ result, arena.slot = .resultReady command result

section Ends

variable {arena : CaptureArena α}

/-- A caller takes a result that is there, or that the worker puts there in time. -/
theorem CaptureArena.waitSlotResult_ends (wait : Wait α)
    {Q : Result WorkerReply → CaptureArena α → Prop} {E : LambError → CaptureArena α → Prop}
    (hready : ∀ command result, arena.slot = .resultReady command result →
      Q result { arena with slot := .idle, abandoned := false })
    (hwaited : ∀ command result, (arena.events wait.events).slot = .resultReady command result →
      Q result { arena.events wait.events with slot := .idle, abandoned := false })
    (hlost : E commandTimedOut { arena.events wait.events with abandoned := true }) :
    (CaptureArena.waitSlotResult wait).Ends arena Q E := by
  unfold Attempt.Ends CaptureArena.waitSlotResult
  cases hslot : arena.slot with
  | resultReady command result => exact hready command result hslot
  | _ =>
      cases hlater : (arena.events wait.events).slot with
      | resultReady command result =>
          cases htimed : wait.timedOut with
          | false => simpa only [hlater] using hwaited command result hlater
          | true => simpa only [hlater] using hlost
      | _ => simpa only [hlater] using hlost

/-- A frozen epoch kept for recovery answers the next freeze; a command whose caller has
gone is waited for once more. -/
theorem CaptureArena.recoverBefore_ends (requested : CommandKind) (wait : Wait α)
    {Q : Option (Result WorkerReply) → CaptureArena α → Prop}
    {E : LambError → CaptureArena α → Prop} (hfail : ∀ e, E e arena)
    (hfrozen : ∀ descriptor, ¬(arena.recoveredClear.isSome ∧ requested ≠ .status) →
      arena.recoveredFrozen = some descriptor → requested = .freeze →
      Q (some (.ok (.frozen (some descriptor)))) { arena with recoveredFrozen := none })
    (hidle : ¬(arena.recoveredClear.isSome ∧ requested ≠ .status) →
      arena.recoveredFrozen = none → arena.slot = .idle → Q none arena)
    (hstale : ∀ command, ¬(arena.recoveredClear.isSome ∧ requested ≠ .status) →
      arena.recoveredFrozen = none → arena.Sent command →
      ¬(command.kind = .release ∧ requested ≠ .release) →
      (CaptureArena.waitSlotResult wait).Ends arena
        (fun result arena' =>
          (CaptureArena.settleStale command.kind requested result).Ends arena' Q E) E) :
    (CaptureArena.recoverBefore requested wait).Ends arena Q E := by
  refine .bindGet (.bindRequire (fun _ => hfail _) fun hclear => ?_)
  cases hkept : arena.recoveredFrozen with
  | some descriptor =>
      exact .ite (fun hsame => .bindModify (.pure (hfrozen descriptor hclear hkept hsame)))
        fun _ => .fail (hfail _)
  | none =>
      cases hslot : arena.slot with
      | idle => exact .pure (hidle hclear hkept hslot)
      | ready command =>
          exact .bindRequire (fun _ => hfail _) fun _ => .bindRequire (fun _ => hfail _)
            fun hrelease => .bind (hstale command hclear hkept (.inl hslot) hrelease)
              fun _ _ hsettles => hsettles
      | resultReady command result =>
          exact .bindRequire (fun _ => hfail _) fun _ => .bindRequire (fun _ => hfail _)
            fun hrelease => .bind (hstale command hclear hkept (.inr ⟨result, hslot⟩) hrelease)
              fun _ _ hsettles => hsettles

/-- A report that is not the one asked for is kept for recovery. -/
theorem recoverCleared_ends (recovery : CaptureClearRecovery)
    {wait : Attempt (CaptureArena α) LambError (Result WorkerReply)}
    {Q : Option CaptureClearReport → CaptureArena α → Prop}
    {E : LambError → CaptureArena α → Prop}
    (hwait : wait.Ends arena (fun result arena' => (∀ e, E e arena') ∧
      ∀ report, result = .ok (.cleared report) → Q (some report) arena' ∧
        ∀ e, E e { arena' with recoveredClear := some report }) E) :
    (do
      let result ← wait
      let reply ← Attempt.ofExcept result
      match reply with
      | .cleared report =>
          if recovery.matches report then pure (some report)
          else do
            Attempt.modify fun arena => { arena with recoveredClear := some report }
            Attempt.fail
              (.controlInvariant "clear recovery identity does not match completed report")
      | _ =>
          Attempt.fail
            (.controlInvariant "capture worker returned the wrong clear recovery result") :
      Attempt (CaptureArena α) LambError (Option CaptureClearReport)).Ends arena Q E := by
  refine .bind hwait ?_
  rintro result arena' ⟨hfails, hcleared⟩
  refine .bindOfExcept (fun e _ => hfails e) ?_
  rintro reply rfl
  cases reply with
  | cleared report =>
      obtain ⟨hfound, hkept⟩ := hcleared report rfl
      exact .ite (fun _ => .pure hfound) fun _ => .bindModify (.fail (hkept _))
  | frozen descriptor => exact .fail (hfails _)
  | released => exact .fail (hfails _)
  | status status => exact .fail (hfails _)
  | shutdown => exact .fail (hfails _)

/-- Once the lock is held, a report kept for recovery is handed out, and a clear whose
caller has gone is waited for once more. -/
theorem CaptureArena.recoverClearResult_ends (recovery : CaptureClearRecovery) (call : Call α)
    {P : CaptureArena α → Prop} {Q : Option CaptureClearReport → CaptureArena α → Prop}
    {E : LambError → CaptureArena α → Prop} (hforeign : ∀ e, E e arena)
    (hlock : (CaptureArena.lockCommandClient call).Ends arena (fun _ => P) E)
    (hfail : ∀ locked e, P locked → E e locked)
    (hretained : ∀ locked report, P locked → locked.recoveredClear = some report →
      Q (some report) { locked with recoveredClear := none })
    (hidle : ∀ locked, P locked → locked.recoveredClear = none → locked.slot = .idle →
      Q none locked)
    (hstale : ∀ locked command, P locked → locked.recoveredClear = none → locked.Sent command →
      command.kind = .clear →
      (CaptureArena.waitSlotResult call.stale).Ends locked
        (fun result arena' => (∀ e, E e arena') ∧ ∀ report, result = .ok (.cleared report) →
          Q (some report) arena' ∧ ∀ e, E e { arena' with recoveredClear := some report }) E) :
    (CaptureArena.recoverClearResult recovery call).Ends arena Q E := by
  refine .bindGet (.bindRequire (fun _ => hforeign _) fun _ => .bind hlock ?_)
  intro _ locked hlocked
  refine .bindGet ?_
  cases hkept : locked.recoveredClear with
  | some report =>
      exact .bindRequire (fun _ => hfail _ _ hlocked) fun _ =>
        .bindModify (.pure (hretained locked report hlocked hkept))
  | none =>
      cases hslot : locked.slot with
      | idle => exact .pure (hidle locked hlocked hkept hslot)
      | ready command =>
          exact .bindRequire (fun _ => hfail _ _ hlocked) fun hclear =>
            recoverCleared_ends recovery
              (hstale locked command hlocked hkept (.inl hslot) hclear.2)
      | resultReady command result =>
          exact .bindRequire (fun _ => hfail _ _ hlocked) fun hclear =>
            recoverCleared_ends recovery
              (hstale locked command hlocked hkept (.inr ⟨result, hslot⟩) hclear.2)

end Ends

end Lamb.Arena
