import Lamb.Arena.Session

/-!
The command slot between the clients of an arena and its worker, step by step.
The client's lock admits one call at a time; a call looks at what an abandoned
command has left, submits its own command and waits, and any wait may time out.
The worker's loop polls the slot, drains the ingress queue up to the target of
a ready command and executes it. The fields a client reads in one step are
written by clients only, except for the state of the slot, whose values between
a submission and its result a client does not tell apart.
-/

namespace Lamb.Arena

open Lamb.Ring Lamb.Lib

variable {α : Type}

/-! ### The slot -/

inductive CommandState
  | idle
  | preparing
  | ready
  | processing
  | resultReady
  deriving DecidableEq, Repr

/-- The command slot with its memory. `number` is the position of its command
among all commands and is read by no step. -/
structure CommandCell where
  state : CommandState
  kind : Option CommandKind
  abandoned : Bool
  command : Option WorkerCommand
  targetSequence : ℕ
  result : Option (Result WorkerReply)
  number : ℕ

def CommandCell.new : CommandCell where
  state := .idle
  kind := none
  abandoned := false
  command := none
  targetSequence := 0
  result := none
  number := 0

def CommandCell.begin (cell : CommandCell) (kind : CommandKind) : Option CommandCell :=
  if cell.state = .idle then
    some { cell with state := .preparing, kind := some kind, abandoned := false }
  else none

def CommandCell.publish (cell : CommandCell) (command : WorkerCommand) (target number : ℕ) :
    CommandCell :=
  { cell with command := some command, targetSequence := target, number, state := .ready }

def CommandCell.readyTarget (cell : CommandCell) : Option ℕ :=
  if cell.state = .ready then some cell.targetSequence else none

def CommandCell.takeCommand (cell : CommandCell) : Option (WorkerCommand × CommandCell) :=
  if cell.state = .ready then
    cell.command.map fun command => (command, { cell with state := .processing })
  else none

def CommandCell.publishResult (cell : CommandCell) (result : Result WorkerReply) : CommandCell :=
  { cell with result := some result, state := .resultReady }

def CommandCell.takeResult (cell : CommandCell) : Option (Result WorkerReply × CommandCell) :=
  if cell.state = .resultReady then
    cell.result.map fun result =>
      (result, { cell with kind := none, abandoned := false, state := .idle })
  else none

/-! ### Calls -/

/-- A call of the arena; `release` names one of the epochs handed out. -/
inductive ClientCall
  | freeze (committedStart : Option ℕ)
  | release (epoch : ℕ)
  | clear (accounting : CaptureClearAccounting)
  | recoverClear (recovery : CaptureClearRecovery)
  | status
  | shutdown
  deriving DecidableEq, Repr

def ClientCall.kind : ClientCall → CommandKind
  | .freeze _ => .freeze
  | .release _ => .release
  | .clear _ => .clear
  | .recoverClear _ => .clear
  | .status => .status
  | .shutdown => .shutdown

inductive ClientShutdown
  | notRequested
  | acknowledged
  | joined
  deriving DecidableEq, Repr

/-- `CommandClientState`; a recovered value keeps the number of its command. -/
structure ClientMemory where
  recoveredFrozen : Option (ℕ × FrozenDescriptor)
  recoveredClear : Option (ℕ × CaptureClearReport)
  shutdown : ClientShutdown

/-- Where the call that holds the client's lock stands. -/
inductive ClientPc
  | idle
  | closing
  | recover (call : ClientCall)
  | stale (call : ClientCall)
  | begin (call : ClientCall)
  | load (call : ClientCall)
  | publish (call : ClientCall) (target : ℕ)
  | reply (call : ClientCall)
  | joining
  deriving DecidableEq, Repr

/-- Where the worker's loop stands. -/
inductive LoopPc
  | top
  | target
  | compare (target : ℕ)
  | consume
  | take
  | process (command : WorkerCommand)
  | publish (command : WorkerCommand) (result : Result WorkerReply)
  | exit
  | done
  deriving DecidableEq

/-! ### What the specification remembers -/

/-- A command when it was submitted; `accepted` are the samples the queue had
accepted when the target was read. -/
structure Submission (α : Type) where
  command : WorkerCommand
  targetSequence : ℕ
  accepted : List α

/-- The execution of the command `number`, with the arena just before it. -/
structure Execution (α : Type) where
  number : ℕ
  before : ArenaRun α
  result : Result WorkerReply

/-- The result of the command `number` handed to a call; `own` if the call had
submitted it. -/
structure Delivery where
  number : ℕ
  call : ClientCall
  own : Bool
  result : Result WorkerReply

structure CommandLog (α : Type) where
  head : List α
  submissions : List (Submission α)
  executed : List (Execution α)
  delivered : List Delivery
  discarded : List (ℕ × Result WorkerReply)

structure CommandRun (α : Type) where
  arena : ArenaRun α
  runtimeId : ℕ
  cell : CommandCell
  loop : LoopPc
  client : ClientPc
  memory : ClientMemory
  closed : Bool
  epochs : List FrozenCaptureEpoch
  log : CommandLog α

def CommandRun.start (arena : ArenaRun α) (runtimeId : ℕ) : CommandRun α where
  arena := arena
  runtimeId := runtimeId
  cell := .new
  loop := .top
  client := .idle
  memory := ⟨none, none, .notRequested⟩
  closed := false
  epochs := []
  log := ⟨[], [], [], [], []⟩

/-! ### The worker -/

/-- One step of the worker's loop. -/
def CommandRun.work (run : CommandRun α) (now : ℕ) : CommandRun α :=
  match run.loop with
  | .top =>
      if run.cell.state = .preparing then { run with loop := .top } else { run with loop := .target }
  | .target =>
      match run.cell.readyTarget with
      | some target => { run with loop := .compare target }
      | none => { run with loop := .consume }
  | .compare target =>
      if run.arena.ingress.queue.consumedSequence < target then { run with loop := .consume }
      else { run with loop := .take }
  | .consume =>
      let arena := run.arena.consume now
      { run with arena, loop := if arena.ingress.consumer = .idle then .top else .consume }
  | .take =>
      match run.cell.takeCommand with
      | some (command, cell) => { run with cell, loop := .process command }
      | none => { run with loop := .done }
  | .process command =>
      let result := (run.arena.worker.processCommand run.arena.ingress.queue.counters command).1
      { run with
        arena := run.arena.execute command
        loop := .publish command result
        log := { run.log with
          executed := run.log.executed ++ [⟨run.cell.number, run.arena, result⟩] } }
  | .publish command result =>
      { run with
        cell := run.cell.publishResult result
        loop := if command = .shutdown then .exit else .top }
  | .exit => { run with loop := .done }
  | .done => run

/-! ### The client -/

/-- What a call gets its epochs into when it returns. -/
def ClientCall.receive (call : ClientCall) (runtimeId : ℕ) (result : Result WorkerReply)
    (epochs : List FrozenCaptureEpoch) : List FrozenCaptureEpoch :=
  match call, result with
  | .freeze _, .ok (.frozen (some descriptor)) =>
      epochs ++ [{ runtimeId, descriptor, released := false, releasePending := false }]
  | .release epoch, .ok .released =>
      epochs.modify epoch fun frozen => { frozen with releasePending := false, released := true }
  | .release epoch, _ => epochs.modify epoch fun frozen => { frozen with releasePending := false }
  | _, _ => epochs

/-- The result of the command `number` is the answer of the call. -/
def CommandRun.deliver (run : CommandRun α) (number : ℕ) (call : ClientCall) (own : Bool)
    (result : Result WorkerReply) : CommandRun α :=
  let log : CommandLog α :=
    { run.log with delivered := run.log.delivered ++ [⟨number, call, own, result⟩] }
  let run := { run with epochs := call.receive run.runtimeId result run.epochs, log }
  if call = .shutdown ∧ result = .ok .shutdown then
    { run with memory := { run.memory with shutdown := .acknowledged }, client := .joining }
  else { run with client := .idle }

/-- Nothing stands in the way of the call: it goes on to submit its command. -/
def CommandRun.proceed (run : CommandRun α) (call : ClientCall) : CommandRun α :=
  if call = .shutdown ∧ run.loop = .done then
    { run with memory := { run.memory with shutdown := .acknowledged }, client := .joining }
  else { run with client := .begin call }

/-- What a call does with the result of an abandoned command: it takes it for
its own, keeps it for another call, or drops it. `goOn` if it then submits its
command, else it fails. -/
inductive Settled
  | deliver
  | keepFrozen (descriptor : FrozenDescriptor)
  | keepClear (report : CaptureClearReport) (goOn : Bool)
  | discard (goOn : Bool)

/-- The end of `recover_before`, by the kind of the abandoned command. -/
def settleBefore (stale : Option CommandKind) (requested : CommandKind)
    (result : Result WorkerReply) : Settled :=
  match stale with
  | some .clear =>
      match result with
      | .ok (.cleared report) => .keepClear report (requested = .status)
      | _ => if requested = .clear then .deliver else .discard true
  | some .freeze =>
      match result with
      | .ok (.frozen (some descriptor)) =>
          if requested = .freeze then .deliver else .keepFrozen descriptor
      | _ => if requested = .freeze then .deliver else .discard true
  | some .release => .deliver
  | some .status => if requested = .status then .deliver else .discard true
  | some .shutdown => if requested = .shutdown then .deliver else .discard false
  | none => .discard true

/-- The end of `recover_clear_result`. -/
def settleRecovery (recovery : CaptureClearRecovery) (result : Result WorkerReply) : Settled :=
  match result with
  | .ok (.cleared report) =>
      if recovery.matches report then .deliver else .keepClear report false
  | .error _ => .deliver
  | .ok _ => .discard false

def ClientCall.settle (call : ClientCall) (stale : Option CommandKind)
    (result : Result WorkerReply) : Settled :=
  match call with
  | .recoverClear recovery => settleRecovery recovery result
  | call => settleBefore stale call.kind result

def CommandRun.goOn (run : CommandRun α) (call : ClientCall) (goOn : Bool) : CommandRun α :=
  if goOn then run.proceed call else { run with client := .idle }

def CommandRun.settled (run : CommandRun α) (number : ℕ) (call : ClientCall)
    (result : Result WorkerReply) : Settled → CommandRun α
  | .deliver => run.deliver number call false result
  | .keepFrozen descriptor =>
      { run with
        memory := { run.memory with recoveredFrozen := some (number, descriptor) }
        client := .idle }
  | .keepClear report goOn =>
      CommandRun.goOn { run with
        memory := { run.memory with recoveredClear := some (number, report) } } call goOn
  | .discard goOn =>
      CommandRun.goOn { run with
        log := { run.log with discarded := run.log.discarded ++ [(number, result)] } } call goOn

def CommandRun.recoverBefore (run : CommandRun α) (call : ClientCall) : CommandRun α :=
  if run.memory.recoveredClear.isSome ∧ call.kind ≠ .status then { run with client := .idle }
  else match run.memory.recoveredFrozen with
    | some (number, descriptor) =>
        if call.kind = .freeze then
          CommandRun.deliver { run with memory := { run.memory with recoveredFrozen := none } }
            number call false (.ok (.frozen (some descriptor)))
        else { run with client := .idle }
    | none =>
        if run.cell.state = .idle then run.proceed call
        else if run.cell.abandoned = false then { run with client := .idle }
        else if run.cell.kind = some .release ∧ call.kind ≠ .release then
          { run with client := .idle }
        else { run with client := .stale call }

def CommandRun.recoverClearResult (run : CommandRun α) (recovery : CaptureClearRecovery) :
    CommandRun α :=
  match run.memory.recoveredClear with
  | some (number, report) =>
      if recovery.matches report then
        CommandRun.deliver { run with memory := { run.memory with recoveredClear := none } }
          number (.recoverClear recovery) false (.ok (.cleared report))
      else { run with client := .idle }
  | none =>
      if run.cell.state = .idle then { run with client := .idle }
      else if run.cell.abandoned = false ∨ run.cell.kind ≠ some .clear then
        { run with client := .idle }
      else { run with client := .stale (.recoverClear recovery) }

/-- `shutdown` takes the answer of a worker that has already exited. -/
def CommandRun.recoverShutdown (run : CommandRun α) : CommandRun α :=
  if run.loop = .done ∧ run.cell.kind = some .shutdown then
    match run.cell.takeResult with
    | some (result, cell) =>
        CommandRun.deliver { run with cell } run.cell.number .shutdown false result
    | none => run.proceed .shutdown
  else run.recoverBefore .shutdown

def CommandRun.recover (run : CommandRun α) : ClientCall → CommandRun α
  | .recoverClear recovery => run.recoverClearResult recovery
  | .shutdown => run.recoverShutdown
  | call => run.recoverBefore call

/-- The command a call submits. -/
def CommandRun.build (run : CommandRun α) : ClientCall → Option WorkerCommand
  | .freeze committedStart => some (.freeze committedStart)
  | .release epoch => run.epochs[epoch]?.map fun frozen =>
      .release frozen.descriptor.index frozen.descriptor.generation
  | .clear accounting => some (.clear run.arena.ingress.queue.droppedFrames accounting)
  | .status => some .status
  | .shutdown => some .shutdown
  | .recoverClear _ => none

/-- A call that got the lock and passed its first checks. -/
def CommandRun.enter (run : CommandRun α) (call : ClientCall) : CommandRun α :=
  match call with
  | .release epoch =>
      match run.epochs[epoch]? with
      | some frozen => if frozen.released then run else { run with client := .recover call }
      | none => run
  | .clear accounting =>
      if accounting.arenaRuntimeId = run.runtimeId then { run with client := .recover call }
      else run
  | .recoverClear recovery =>
      if recovery.arenaRuntimeId = run.runtimeId then { run with client := .recover call }
      else run
  | .shutdown =>
      if run.memory.shutdown = .joined then run else { run with closed := true, client := .closing }
  | .freeze _ | .status => { run with client := .recover call }

/-- One step of the call that holds the lock. -/
def CommandRun.advance (run : CommandRun α) : CommandRun α :=
  match run.client with
  | .idle => run
  | .closing =>
      if run.arena.ingress.producer.isSome then run
      else if run.memory.shutdown = .notRequested then { run with client := .recover .shutdown }
      else { run with client := .joining }
  | .recover call => run.recover call
  | .stale call =>
      match run.cell.takeResult with
      | some (result, cell) =>
          CommandRun.settled { run with cell } run.cell.number call result
            (call.settle run.cell.kind result)
      | none => run
  | .begin call =>
      match run.cell.begin call.kind with
      | some cell => { run with cell, client := .load call }
      | none => { run with client := .idle }
  | .load call =>
      { run with
        client := .publish call run.arena.ingress.queue.publishedSequence
        log := { run.log with head := run.arena.ingress.accepted } }
  | .publish call target =>
      match run.build call with
      | some command =>
          { run with
            cell := run.cell.publish command target run.log.submissions.length
            client := .reply call
            log := { run.log with
              submissions := run.log.submissions ++ [⟨command, target, run.log.head⟩] } }
      | none => run
  | .reply call =>
      match run.cell.takeResult with
      | some (result, cell) =>
          CommandRun.deliver { run with cell } run.cell.number call true result
      | none => run
  | .joining =>
      if run.loop = .done then
        { run with memory := { run.memory with shutdown := .joined }, client := .idle }
      else run

/-- The deadline of the call passes. -/
def CommandRun.timeOut (run : CommandRun α) : CommandRun α :=
  match run.client with
  | .closing | .joining => { run with client := .idle }
  | .stale _ => { run with cell := { run.cell with abandoned := true }, client := .idle }
  | .reply call =>
      { run with
        cell := { run.cell with abandoned := true }
        client := .idle
        epochs :=
          match call with
          | .release epoch => run.epochs.modify epoch fun frozen =>
              { frozen with releasePending := decide (run.cell.state ≠ .idle) }
          | _ => run.epochs }
  | _ => run

/-! ### Interleavings -/

inductive CommandEvent (α : Type)
  | push (samples : List α) (channels : ℕ)
  | producer
  | worker (now : ℕ)
  | call (call : ClientCall)
  | client
  | timeout

/-- A call that does not get the lock leaves no trace. -/
def CommandRun.step (run : CommandRun α) : CommandEvent α → CommandRun α
  | .push samples channels =>
      if run.closed then run else { run with arena := run.arena.step (.push samples channels) }
  | .producer => { run with arena := run.arena.step .producer }
  | .worker now => run.work now
  | .call call => if run.client = .idle then run.enter call else run
  | .client => run.advance
  | .timeout => run.timeOut

def CommandRun.steps (run : CommandRun α) (events : List (CommandEvent α)) : CommandRun α :=
  events.foldl CommandRun.step run

end Lamb.Arena
