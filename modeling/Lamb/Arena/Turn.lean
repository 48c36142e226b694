import Lamb.Arena.Command

/-!
What a client can do in one step. The call that holds the lock knows the slot:
outside a submission it is idle or holds a command that was given up, and from
a submission to its answer it is the call's own. Every step is one of a few
kinds, and each says what it requires of the slot and of the recovered values.
-/

namespace Lamb.Arena

open Lamb.Ring Lamb.Lib

variable {α : Type}

/-! ### Where the calls stand -/

/-- The slot holds no command, or one that its client has given up. -/
def CommandCell.Free (cell : CommandCell) : Prop :=
  cell.state = .idle ∨ cell.state ≠ .preparing ∧ cell.abandoned = true

def ClientCall.Submits : ClientCall → Prop
  | .recoverClear _ => False
  | _ => True

/-- A release is called with an epoch that is not released yet. -/
def ClientCall.Admitted (call : ClientCall) (epochs : List FrozenCaptureEpoch) : Prop :=
  ∀ epoch, call = .release epoch →
    ∃ frozen, epochs[epoch]? = some frozen ∧ frozen.released = false

/-- No recovered value stands in the way of the call. -/
def ClientMemory.Lets (memory : ClientMemory) (call : ClientCall) : Prop :=
  memory.recoveredFrozen = none ∧ (memory.recoveredClear.isSome → call.kind = .status)

/-- The abandoned command in the slot is one the call may wait for. -/
def ClientCall.Asks (call : ClientCall) (cell : CommandCell) (memory : ClientMemory) : Prop :=
  match call with
  | .recoverClear _ => cell.kind = some .clear ∧ memory.recoveredClear = none
  | call => memory.Lets call ∧ (cell.kind = some .release → call.kind = .release)

/-- The command is the one the call submits. -/
def ClientCall.Built (call : ClientCall) (epochs : List FrozenCaptureEpoch)
    (command : WorkerCommand) : Prop :=
  match call with
  | .freeze committedStart => command = .freeze committedStart
  | .release epoch => ∃ frozen, epochs[epoch]? = some frozen ∧
      command = .release frozen.descriptor.index frozen.descriptor.generation
  | .clear accounting => ∃ dropped, command = .clear dropped accounting
  | .status => command = .status
  | .shutdown => command = .shutdown
  | .recoverClear _ => False

/-- Nothing keeps the call from submitting its command. -/
structure ClientCall.Ready (call : ClientCall) (epochs : List FrozenCaptureEpoch)
    (memory : ClientMemory) : Prop where
  submits : call.Submits
  admitted : call.Admitted epochs
  lets : memory.Lets call

def CommandRun.Ready (run : CommandRun α) (call : ClientCall) : Prop :=
  call.Ready run.epochs run.memory

/-- What the call that holds the lock knows. -/
def CommandRun.At (run : CommandRun α) : Prop :=
  match run.client with
  | .idle | .closing | .joining => run.cell.Free
  | .recover call => run.cell.Free ∧ call.Admitted run.epochs
  | .stale call =>
      run.cell.Free ∧ run.cell.state ≠ .idle ∧ call.Admitted run.epochs ∧
        call.Asks run.cell run.memory
  | .begin call => run.cell.state = .idle ∧ run.Ready call
  | .load call | .publish call _ =>
      run.cell.state = .preparing ∧ run.cell.kind = some call.kind ∧ run.Ready call
  | .reply call =>
      run.cell.state ≠ .idle ∧ run.cell.state ≠ .preparing ∧ run.cell.kind = some call.kind ∧
        run.Ready call ∧
        ∃ submission, run.log.submissions[run.cell.number]? = some submission ∧
          call.Built run.epochs submission.command

/-! ### The kinds of steps -/

def WorkerReply.kind : WorkerReply → CommandKind
  | .frozen _ => .freeze
  | .released => .release
  | .cleared _ => .clear
  | .status _ => .status
  | .shutdown => .shutdown

/-- The result holds something that exists only once. -/
def carries : Result WorkerReply → Bool
  | .ok (.frozen (some _)) | .ok .released | .ok (.cleared _) => true
  | _ => false

/-- The result of the command in the slot, and the slot without it. -/
structure CommandCell.Gives (cell : CommandCell) (result : Result WorkerReply) : Prop where
  state : cell.state = .resultReady
  result : cell.result = some result

def CommandCell.taken (cell : CommandCell) : CommandCell :=
  { cell with kind := none, abandoned := false, state := .idle }

/-- The client goes on as `client`, and nothing else but the flags of a
shutdown changes. -/
def CommandRun.goto (run : CommandRun α) (client : ClientPc) (shutdown : ClientShutdown)
    (closed : Bool) : CommandRun α :=
  { run with client, closed, memory := { run.memory with shutdown } }

def CommandRun.hand (run : CommandRun α) (delivery : Delivery) : CommandRun α :=
  { run with
    epochs := delivery.call.receive run.runtimeId delivery.result run.epochs
    log := { run.log with delivered := run.log.delivered ++ [delivery] } }

def ClientPc.Ends (client : ClientPc) : Prop := client = .idle ∨ client = .joining

/-- The client is done with the call or submits it. -/
def CommandRun.Goes (run : CommandRun α) (call : ClientCall) (client : ClientPc) : Prop :=
  client.Ends ∨ client = .begin call ∧ run.Ready call

/-- Why a result may be handed to a call that did not submit its command. -/
structure CommandCell.Answers (cell : CommandCell) (call : ClientCall)
    (result : Result WorkerReply) : Prop where
  kind : cell.kind = some call.kind
  clear : ∀ report, result = .ok (.cleared report) → cell.kind = some .clear →
    ∃ recovery, call = .recoverClear recovery ∧ recovery.matches report

/-- A step of the client. -/
inductive CommandRun.Turn (run : CommandRun α) : CommandRun α → Prop
  | move (client : ClientPc) (shutdown : ClientShutdown) (closed : Bool)
      (hat : (run.goto client shutdown closed).At)
      (hclient : ∀ call target, client = .publish call target → run.client = client) :
      run.Turn (run.goto client shutdown closed)
  | recallFrozen (number : ℕ) (descriptor : FrozenDescriptor) (call : ClientCall)
      (client : ClientPc) (shutdown : ClientShutdown)
      (hmemory : run.memory.recoveredFrozen = some (number, descriptor))
      (hcall : call.kind = .freeze) (hfree : run.cell.Free) (hends : client.Ends) :
      run.Turn ((CommandRun.hand
        { run with memory := { run.memory with recoveredFrozen := none } }
        ⟨number, call, false, .ok (.frozen (some descriptor))⟩).goto client shutdown run.closed)
  | recallClear (number : ℕ) (report : CaptureClearReport) (recovery : CaptureClearRecovery)
      (client : ClientPc) (shutdown : ClientShutdown)
      (hmemory : run.memory.recoveredClear = some (number, report))
      (hmatches : recovery.matches report) (hfree : run.cell.Free) (hends : client.Ends) :
      run.Turn ((CommandRun.hand
        { run with memory := { run.memory with recoveredClear := none } }
        ⟨number, .recoverClear recovery, false, .ok (.cleared report)⟩).goto client shutdown
          run.closed)
  | own (call : ClientCall) (result : Result WorkerReply) (client : ClientPc)
      (shutdown : ClientShutdown) (hclient : run.client = .reply call)
      (hgives : run.cell.Gives result) (hends : client.Ends) :
      run.Turn ((CommandRun.hand { run with cell := run.cell.taken }
        ⟨run.cell.number, call, true, result⟩).goto client shutdown run.closed)
  | taken (call : ClientCall) (result : Result WorkerReply) (client : ClientPc)
      (shutdown : ClientShutdown) (hgives : run.cell.Gives result)
      (hadmitted : call.Admitted run.epochs) (hanswers : run.cell.Answers call result)
      (hends : client.Ends) :
      run.Turn ((CommandRun.hand { run with cell := run.cell.taken }
        ⟨run.cell.number, call, false, result⟩).goto client shutdown run.closed)
  | keepFrozen (descriptor : FrozenDescriptor)
      (hgives : run.cell.Gives (.ok (.frozen (some descriptor))))
      (hkind : run.cell.kind = some .freeze) :
      run.Turn { run with
        cell := run.cell.taken
        memory := { run.memory with recoveredFrozen := some (run.cell.number, descriptor) }
        client := .idle }
  | keepClear (report : CaptureClearReport) (call : ClientCall) (client : ClientPc)
      (shutdown : ClientShutdown) (hgives : run.cell.Gives (.ok (.cleared report)))
      (hkind : run.cell.kind = some .clear)
      (hgoes : CommandRun.Goes { run with
        memory := { run.memory with recoveredClear := some (run.cell.number, report) } }
        call client) :
      run.Turn (CommandRun.goto { run with
        cell := run.cell.taken
        memory := { run.memory with recoveredClear := some (run.cell.number, report) } }
        client shutdown run.closed)
  | discard (result : Result WorkerReply) (call : ClientCall) (client : ClientPc)
      (shutdown : ClientShutdown) (hgives : run.cell.Gives result)
      (hcarries : ∀ reply, result = .ok reply → run.cell.kind = some reply.kind →
        carries result = false)
      (hgoes : run.Goes call client) :
      run.Turn (CommandRun.goto { run with
        cell := run.cell.taken
        log := { run.log with
          discarded := run.log.discarded ++ [(run.cell.number, result)] } }
        client shutdown run.closed)
  | begin (call : ClientCall) (hidle : run.cell.state = .idle) (hready : run.Ready call) :
      run.Turn { run with
        cell := { run.cell with
          state := .preparing, kind := some call.kind, abandoned := false }
        client := .load call }
  | load (call : ClientCall) (hclient : run.client = .load call) :
      run.Turn { run with
        client := .publish call run.arena.ingress.queue.publishedSequence
        log := { run.log with head := run.arena.ingress.accepted } }
  | publish (call : ClientCall) (target : ℕ) (command : WorkerCommand)
      (hclient : run.client = .publish call target)
      (hbuilt : call.Built run.epochs command) :
      run.Turn { run with
        cell := run.cell.publish command target run.log.submissions.length
        client := .reply call
        log := { run.log with
          submissions := run.log.submissions ++ [⟨command, target, run.log.head⟩] } }
  | abandon (epochs : List FrozenCaptureEpoch) (hstate : run.cell.state ≠ .preparing)
      (hepochs : epochs.map (fun frozen => (frozen.descriptor, frozen.released)) =
        run.epochs.map fun frozen => (frozen.descriptor, frozen.released)) :
      run.Turn { run with
        cell := { run.cell with abandoned := true }
        client := .idle
        epochs }

section Turn

variable {run : CommandRun α}

theorem CommandCell.takeResult_eq_some {cell cell' : CommandCell} {result : Result WorkerReply}
    (h : cell.takeResult = some (result, cell')) : cell.Gives result ∧ cell' = cell.taken := by
  unfold CommandCell.takeResult at h
  split at h
  · rename_i hstate
    obtain ⟨found, hresult, heq⟩ := Option.map_eq_some_iff.mp h
    obtain ⟨rfl, rfl⟩ := Prod.mk.inj heq
    exact ⟨⟨hstate, hresult⟩, rfl⟩
  · cases h

theorem CommandRun.deliver_eq (run : CommandRun α) (number : ℕ) (call : ClientCall) (own : Bool)
    (result : Result WorkerReply) :
    ∃ client shutdown, ClientPc.Ends client ∧ run.deliver number call own result =
      (run.hand ⟨number, call, own, result⟩).goto client shutdown run.closed := by
  unfold CommandRun.deliver
  simp only
  split
  · exact ⟨_, _, .inr rfl, rfl⟩
  · exact ⟨_, run.memory.shutdown, .inl rfl, rfl⟩

theorem CommandRun.proceed_eq {call : ClientCall} (hready : run.Ready call) :
    ∃ client shutdown, run.Goes call client ∧
      run.proceed call = run.goto client shutdown run.closed := by
  unfold CommandRun.proceed
  split
  · exact ⟨_, _, .inl (.inr rfl), rfl⟩
  · exact ⟨_, run.memory.shutdown, .inr ⟨rfl, hready⟩, rfl⟩

theorem CommandRun.goOn_eq {call : ClientCall} {goOn : Bool}
    (hready : goOn = true → run.Ready call) :
    ∃ client shutdown, run.Goes call client ∧
      run.goOn call goOn = run.goto client shutdown run.closed := by
  unfold CommandRun.goOn
  split
  · rename_i hgo
    exact CommandRun.proceed_eq (hready hgo)
  · exact ⟨_, run.memory.shutdown, .inl (.inl rfl), rfl⟩

/-- A call that ends or fails leaves the slot as it is. -/
theorem CommandRun.Turn.idle (hfree : run.cell.Free) : run.Turn { run with client := .idle } :=
  .move .idle run.memory.shutdown run.closed hfree (by simp)

theorem CommandRun.Turn.stay (hat : run.At) : run.Turn run :=
  .move run.client run.memory.shutdown run.closed hat fun _ _ _ => rfl

theorem CommandRun.Turn.proceed {call : ClientCall} (hidle : run.cell.state = .idle)
    (hready : run.Ready call) : run.Turn (run.proceed call) := by
  obtain ⟨client, shutdown, hgoes, heq⟩ := CommandRun.proceed_eq hready
  rw [heq]
  rcases hgoes with (rfl | rfl) | ⟨rfl, -⟩
  · exact .move _ _ _ (.inl hidle) (by simp)
  · exact .move _ _ _ (.inl hidle) (by simp)
  · exact .move _ _ _ ⟨hidle, hready.submits, hready.admitted, hready.lets⟩ (by simp)

/-- The call takes the result of the abandoned command for its own. -/
theorem CommandRun.Turn.settled_deliver {call : ClientCall} {result : Result WorkerReply}
    (hgives : run.cell.Gives result) (hadmitted : call.Admitted run.epochs)
    (hanswers : run.cell.Answers call result) :
    run.Turn (CommandRun.deliver { run with cell := run.cell.taken } run.cell.number call false
      result) := by
  obtain ⟨client, shutdown, hends, heq⟩ := CommandRun.deliver_eq
    { run with cell := run.cell.taken } run.cell.number call false result
  rw [heq]
  exact .taken call result client shutdown hgives hadmitted hanswers hends

theorem CommandRun.Turn.settled_discard {call : ClientCall} {result : Result WorkerReply}
    (hgives : run.cell.Gives result)
    (hcarries : ∀ reply, result = .ok reply → run.cell.kind = some reply.kind →
      carries result = false) {goOn : Bool} (hready : goOn = true → run.Ready call) :
    run.Turn (CommandRun.settled { run with cell := run.cell.taken } run.cell.number call result
      (.discard goOn)) := by
  have hready' : goOn = true → CommandRun.Ready { run with
      cell := run.cell.taken
      log := { run.log with
        discarded := run.log.discarded ++ [(run.cell.number, result)] } } call := by
    intro hgo
    exact ⟨(hready hgo).submits, (hready hgo).admitted, (hready hgo).lets⟩
  obtain ⟨client, shutdown, hgoes, heq⟩ := CommandRun.goOn_eq hready'
  simp only [CommandRun.settled]
  rw [heq]
  refine .discard result call client shutdown hgives hcarries ?_
  exact hgoes.imp_right fun ⟨hclient, hgo⟩ =>
    ⟨hclient, hgo.submits, hgo.admitted, hgo.lets⟩

theorem CommandRun.Turn.settled_keepClear {call : ClientCall} {report : CaptureClearReport}
    (hgives : run.cell.Gives (.ok (.cleared report))) (hkind : run.cell.kind = some .clear)
    {goOn : Bool} (hready : goOn = true → run.Ready call ∧ call.kind = .status) :
    run.Turn (CommandRun.settled { run with cell := run.cell.taken } run.cell.number call
      (.ok (.cleared report)) (.keepClear report goOn)) := by
  have hready' : goOn = true → CommandRun.Ready { run with
      cell := run.cell.taken
      memory := { run.memory with recoveredClear := some (run.cell.number, report) } } call := by
    intro hgo
    obtain ⟨hready, hstatus⟩ := hready hgo
    exact ⟨hready.submits, hready.admitted, hready.lets.1, fun _ => hstatus⟩
  obtain ⟨client, shutdown, hgoes, heq⟩ := CommandRun.goOn_eq hready'
  simp only [CommandRun.settled]
  rw [heq]
  refine .keepClear report call client shutdown hgives hkind ?_
  exact hgoes.imp_right fun ⟨hclient, hgo⟩ =>
    ⟨hclient, hgo.submits, hgo.admitted, hgo.lets⟩

theorem CommandRun.Turn.recoverBefore {call : ClientCall} (hfree : run.cell.Free)
    (hsubmits : call.Submits) (hadmitted : call.Admitted run.epochs) :
    run.Turn (run.recoverBefore call) := by
  unfold CommandRun.recoverBefore
  split
  · exact .idle hfree
  rename_i hclear
  have hstatus : run.memory.recoveredClear.isSome → call.kind = .status := fun hsome =>
    not_not.mp fun hother => hclear ⟨hsome, hother⟩
  split
  · rename_i number descriptor hmemory
    split
    · rename_i hcall
      obtain ⟨client, shutdown, hends, heq⟩ := CommandRun.deliver_eq
        { run with memory := { run.memory with recoveredFrozen := none } } number call false
        (.ok (.frozen (some descriptor)))
      rw [heq]
      exact .recallFrozen number descriptor call client shutdown hmemory hcall hfree hends
    · exact .idle hfree
  · rename_i hfrozen
    have hlets : run.memory.Lets call := ⟨hfrozen, hstatus⟩
    split
    · rename_i hidle
      exact .proceed hidle ⟨hsubmits, hadmitted, hlets⟩
    rename_i hbusy
    split
    · exact .idle hfree
    split
    · exact .idle hfree
    · rename_i hrelease
      refine .move _ run.memory.shutdown run.closed ⟨hfree, hbusy, hadmitted, ?_⟩ (by simp)
      have hasks : run.memory.Lets call ∧ (run.cell.kind = some .release → call.kind = .release) :=
        ⟨hlets, fun hkind => not_not.mp fun hother => hrelease ⟨hkind, hother⟩⟩
      cases call with
      | recoverClear recovery => exact hsubmits.elim
      | _ => exact hasks

theorem CommandRun.Turn.recoverClearResult (hfree : run.cell.Free)
    (recovery : CaptureClearRecovery) : run.Turn (run.recoverClearResult recovery) := by
  unfold CommandRun.recoverClearResult
  split
  · rename_i number report hmemory
    split
    · rename_i hmatches
      obtain ⟨client, shutdown, hends, heq⟩ := CommandRun.deliver_eq
        { run with memory := { run.memory with recoveredClear := none } } number
        (.recoverClear recovery) false (.ok (.cleared report))
      rw [heq]
      exact .recallClear number report recovery client shutdown hmemory hmatches hfree hends
    · exact .idle hfree
  · rename_i hnone
    split
    · exact .idle hfree
    rename_i hbusy
    split
    · exact .idle hfree
    · rename_i hkind
      push Not at hkind
      refine .move _ run.memory.shutdown run.closed ⟨hfree, hbusy, ?_, hkind.2, hnone⟩ (by simp)
      intro epoch hcall
      cases hcall

theorem CommandRun.Turn.recoverShutdown (hfree : run.cell.Free) :
    run.Turn run.recoverShutdown := by
  have hadmitted : ClientCall.Admitted .shutdown run.epochs := by
    intro epoch hcall
    cases hcall
  unfold CommandRun.recoverShutdown
  split
  · rename_i hdone
    split
    · rename_i result cell htake
      obtain ⟨hgives, rfl⟩ := CommandCell.takeResult_eq_some htake
      refine .settled_deliver hgives hadmitted ⟨hdone.2, fun report _ hkind => ?_⟩
      rw [hdone.2] at hkind
      cases hkind
    · rw [CommandRun.proceed, if_pos ⟨rfl, hdone.1⟩]
      exact .move .joining .acknowledged run.closed hfree (by simp)
  · exact .recoverBefore hfree trivial hadmitted

theorem CommandRun.Turn.recover {call : ClientCall} (hfree : run.cell.Free)
    (hadmitted : call.Admitted run.epochs) : run.Turn (run.recover call) := by
  cases call with
  | recoverClear recovery => exact .recoverClearResult hfree recovery
  | shutdown => exact .recoverShutdown hfree
  | freeze committedStart => exact .recoverBefore hfree trivial hadmitted
  | release epoch => exact .recoverBefore hfree trivial hadmitted
  | clear accounting => exact .recoverBefore hfree trivial hadmitted
  | status => exact .recoverBefore hfree trivial hadmitted

theorem map_modify_of_eq {β γ : Type} {xs : List β} {index : ℕ} {f : β → β} {g : β → γ}
    (h : ∀ x, g (f x) = g x) : (xs.modify index f).map g = xs.map g := by
  ext i : 1
  simp only [List.getElem?_map, List.getElem?_modify]
  cases xs[i]? with
  | none => rfl
  | some x =>
      simp only [Option.map_some]
      split
      · exact congrArg some (h x)
      · rfl

/-- The end of `recover_before`. -/
theorem CommandRun.Turn.settleBefore {call : ClientCall} {result : Result WorkerReply}
    (hgives : run.cell.Gives result) (hready : run.Ready call)
    (hrelease : run.cell.kind = some .release → call.kind = .release) :
    run.Turn (CommandRun.settled { run with cell := run.cell.taken } run.cell.number call result
      (settleBefore run.cell.kind call.kind result)) := by
  have hdeliver : run.cell.kind = some call.kind →
      (∀ report, result = .ok (.cleared report) → run.cell.kind ≠ some .clear) →
      run.Turn (CommandRun.settled { run with cell := run.cell.taken } run.cell.number call result
        .deliver) := fun hkind hclear =>
    .settled_deliver hgives hready.admitted
      ⟨hkind, fun report hresult hkind => absurd hkind (hclear report hresult)⟩
  have hdiscard : ∀ goOn, (∀ reply, result = .ok reply → run.cell.kind = some reply.kind →
        carries result = false) →
      run.Turn (CommandRun.settled { run with cell := run.cell.taken } run.cell.number call result
        (.discard goOn)) := fun goOn hcarries =>
    .settled_discard hgives hcarries fun _ => hready
  cases hkind : run.cell.kind with
  | none => exact hdiscard true (by simp [hkind])
  | some kind =>
      rw [hkind] at hdeliver hdiscard
      cases kind with
      | clear =>
          simp only [Arena.settleBefore]
          split
          · rename_i report
            refine .settled_keepClear hgives hkind fun hgo => ⟨hready, ?_⟩
            simpa using hgo
          · rename_i hother
            split
            · rename_i hcall
              exact hdeliver (by rw [hcall]) fun report hresult => absurd hresult (hother report)
            · refine hdiscard true ?_
              rintro reply rfl hreply
              cases reply with
              | cleared report => exact absurd rfl (hother report)
              | _ => cases hreply
      | freeze =>
          simp only [Arena.settleBefore]
          split
          · rename_i descriptor
            split
            · rename_i hcall
              exact hdeliver (by rw [hcall]) (by simp)
            · exact .keepFrozen descriptor hgives hkind
          · rename_i hother
            split
            · rename_i hcall
              exact hdeliver (by rw [hcall]) (by simp)
            · refine hdiscard true ?_
              rintro reply rfl hreply
              cases reply with
              | frozen descriptor =>
                  cases descriptor with
                  | none => rfl
                  | some descriptor => exact absurd rfl (hother descriptor)
              | _ => cases hreply
      | release => exact hdeliver (by rw [hrelease hkind]) (by simp)
      | status =>
          simp only [Arena.settleBefore]
          split
          · rename_i hcall
            exact hdeliver (by rw [hcall]) (by simp)
          · refine hdiscard true ?_
            rintro reply rfl hreply
            cases reply with
            | status status => rfl
            | _ => cases hreply
      | shutdown =>
          simp only [Arena.settleBefore]
          split
          · rename_i hcall
            exact hdeliver (by rw [hcall]) (by simp)
          · refine hdiscard false ?_
            rintro reply rfl hreply
            cases reply with
            | shutdown => rfl
            | _ => cases hreply

/-- The end of `recover_clear_result`. -/
theorem CommandRun.Turn.settleRecovery {recovery : CaptureClearRecovery}
    {result : Result WorkerReply} (hgives : run.cell.Gives result)
    (hkind : run.cell.kind = some .clear) :
    run.Turn (CommandRun.settled { run with cell := run.cell.taken } run.cell.number
      (.recoverClear recovery) result (settleRecovery recovery result)) := by
  have hadmitted : ClientCall.Admitted (.recoverClear recovery) run.epochs := by
    intro epoch hcall
    cases hcall
  cases result with
  | error e => exact .settled_deliver hgives hadmitted ⟨hkind, by simp⟩
  | ok reply =>
      cases reply with
      | cleared report =>
          simp only [Arena.settleRecovery]
          split
          · rename_i hmatches
            refine .settled_deliver hgives hadmitted ⟨hkind, ?_⟩
            rintro _ ⟨⟩ -
            exact ⟨recovery, rfl, hmatches⟩
          · exact .settled_keepClear hgives hkind (by simp)
      | frozen descriptor => exact .settled_discard hgives (by simp [hkind, WorkerReply.kind]) (by simp)
      | released => exact .settled_discard hgives (by simp [hkind, WorkerReply.kind]) (by simp)
      | status status => exact .settled_discard hgives (by simp [hkind, WorkerReply.kind]) (by simp)
      | shutdown => exact .settled_discard hgives (by simp [hkind, WorkerReply.kind]) (by simp)

theorem CommandRun.Turn.settle {call : ClientCall} {result : Result WorkerReply}
    (hgives : run.cell.Gives result) (hadmitted : call.Admitted run.epochs)
    (hasks : call.Asks run.cell run.memory) :
    run.Turn (CommandRun.settled { run with cell := run.cell.taken } run.cell.number call result
      (call.settle run.cell.kind result)) := by
  cases call with
  | recoverClear recovery => exact .settleRecovery hgives hasks.1
  | freeze committedStart => exact .settleBefore hgives ⟨trivial, hadmitted, hasks.1⟩ hasks.2
  | release epoch => exact .settleBefore hgives ⟨trivial, hadmitted, hasks.1⟩ hasks.2
  | clear accounting => exact .settleBefore hgives ⟨trivial, hadmitted, hasks.1⟩ hasks.2
  | status => exact .settleBefore hgives ⟨trivial, hadmitted, hasks.1⟩ hasks.2
  | shutdown => exact .settleBefore hgives ⟨trivial, hadmitted, hasks.1⟩ hasks.2

/-- The command a ready call submits. -/
theorem CommandRun.ready_build {call : ClientCall} (h : run.Ready call) :
    ∃ command, run.build call = some command ∧ call.Built run.epochs command := by
  cases call with
  | freeze committedStart => exact ⟨_, rfl, rfl⟩
  | release epoch =>
      obtain ⟨frozen, hfrozen, -⟩ := h.admitted epoch rfl
      exact ⟨_, by simp only [CommandRun.build, hfrozen, Option.map_some], frozen, hfrozen, rfl⟩
  | clear accounting => exact ⟨_, rfl, _, rfl⟩
  | recoverClear recovery => exact h.submits.elim
  | status => exact ⟨_, rfl, rfl⟩
  | shutdown => exact ⟨_, rfl, rfl⟩

/-- Everything a step of the call that holds the lock can do. -/
theorem CommandRun.At.advance (h : run.At) : run.Turn run.advance := by
  have hat := h
  unfold CommandRun.At at h
  unfold CommandRun.advance
  cases hclient : run.client with
  | idle => exact .stay hat
  | closing =>
      rw [hclient] at h
      simp only
      split
      · exact .stay hat
      split
      · refine .move _ run.memory.shutdown run.closed ⟨h, ?_⟩ (by simp)
        intro epoch hcall
        cases hcall
      · exact .move .joining run.memory.shutdown run.closed h (by simp)
  | «recover» call =>
      rw [hclient] at h
      exact .recover h.1 h.2
  | stale call =>
      rw [hclient] at h
      simp only
      split
      · rename_i result cell htake
        obtain ⟨hgives, rfl⟩ := CommandCell.takeResult_eq_some htake
        exact .settle hgives h.2.2.1 h.2.2.2
      · exact .stay hat
  | begin call =>
      rw [hclient] at h
      simp only [CommandCell.begin, if_pos h.1]
      exact .begin call h.1 h.2
  | load call => exact .load call hclient
  | publish call target =>
      rw [hclient] at h
      obtain ⟨command, hbuild, hbuilt⟩ := CommandRun.ready_build h.2.2
      simp only [hbuild]
      exact .publish call target command hclient hbuilt
  | reply call =>
      simp only
      split
      · rename_i result cell htake
        obtain ⟨hgives, rfl⟩ := CommandCell.takeResult_eq_some htake
        obtain ⟨client, shutdown, hends, heq⟩ := CommandRun.deliver_eq
          { run with cell := run.cell.taken, client := .reply call } run.cell.number call true result
        rw [heq]
        exact .own call result client shutdown hclient hgives hends
      · exact .stay hat
  | joining =>
      rw [hclient] at h
      simp only
      split
      · exact .move .idle .joined run.closed h (by simp)
      · exact .stay hat

theorem CommandRun.At.enter (h : run.At) (hidle : run.client = .idle) (call : ClientCall) :
    run.Turn (run.enter call) := by
  have hstay : run.Turn run := .stay h
  have hfree : run.cell.Free := by
    simpa only [CommandRun.At, hidle] using h
  have henter : call.Admitted run.epochs → run.Turn { run with client := .recover call } :=
    fun hadmitted =>
      .move (.recover call) run.memory.shutdown run.closed ⟨hfree, hadmitted⟩ (by simp)
  cases call with
  | freeze committedStart => exact henter fun _ hcall => by cases hcall
  | status => exact henter fun _ hcall => by cases hcall
  | release epoch =>
      simp only [CommandRun.enter]
      split
      · rename_i frozen hfrozen
        split
        · exact hstay
        · rename_i hreleased
          refine henter fun other hcall => ?_
          cases hcall
          exact ⟨frozen, hfrozen, by simpa using hreleased⟩
      · exact hstay
  | clear accounting =>
      simp only [CommandRun.enter]
      split
      · exact henter fun _ hcall => by cases hcall
      · exact hstay
  | recoverClear recovery =>
      simp only [CommandRun.enter]
      split
      · exact henter fun _ hcall => by cases hcall
      · exact hstay
  | shutdown =>
      simp only [CommandRun.enter]
      split
      · exact hstay
      · exact .move .closing run.memory.shutdown true hfree (by simp)

theorem CommandRun.At.timeOut (h : run.At) : run.Turn run.timeOut := by
  have hat := h
  unfold CommandRun.At at h
  unfold CommandRun.timeOut
  cases hclient : run.client with
  | closing =>
      rw [hclient] at h
      exact .idle h
  | joining =>
      rw [hclient] at h
      exact .idle h
  | stale call =>
      rw [hclient] at h
      refine .abandon run.epochs ?_ rfl
      rcases h.1 with hidle | ⟨hstate, -⟩
      · exact absurd hidle h.2.1
      · exact hstate
  | reply call =>
      rw [hclient] at h
      refine .abandon _ h.2.1 ?_
      cases call with
      | release epoch => exact map_modify_of_eq fun _ => rfl
      | _ => rfl
  | _ => exact .stay hat

theorem CommandRun.Goes.at {call : ClientCall} {client : ClientPc} {shutdown : ClientShutdown}
    {closed : Bool} (h : run.Goes call client) (hidle : run.cell.state = .idle) :
    (run.goto client shutdown closed).At := by
  rcases h with (rfl | rfl) | ⟨rfl, hready⟩
  · exact .inl hidle
  · exact .inl hidle
  · exact ⟨hidle, hready.submits, hready.admitted, hready.lets⟩

theorem ClientCall.Built.kind_eq {call : ClientCall} {epochs : List FrozenCaptureEpoch}
    {command : WorkerCommand} (h : call.Built epochs command) : command.kind = call.kind := by
  cases call with
  | freeze committedStart =>
      rw [show command = _ from h]
      rfl
  | release epoch =>
      obtain ⟨frozen, -, rfl⟩ := h
      rfl
  | clear accounting =>
      obtain ⟨dropped, rfl⟩ := h
      rfl
  | recoverClear recovery => exact h.elim
  | status =>
      rw [show command = _ from h]
      rfl
  | shutdown =>
      rw [show command = _ from h]
      rfl

theorem CommandRun.Turn.at {run' : CommandRun α} (hturn : run.Turn run') (h : run.At) :
    run'.At := by
  cases hturn with
  | move client shutdown closed hat => exact hat
  | recallFrozen number descriptor call client shutdown hmemory hcall hfree hends =>
      rcases hends with rfl | rfl <;> exact hfree
  | recallClear number report recovery client shutdown hmemory hmatches hfree hends =>
      rcases hends with rfl | rfl <;> exact hfree
  | own call result client shutdown hclient hgives hends =>
      rcases hends with rfl | rfl <;> exact .inl rfl
  | taken call result client shutdown hgives hadmitted hanswers hends =>
      rcases hends with rfl | rfl <;> exact .inl rfl
  | keepFrozen descriptor hgives hkind => exact .inl rfl
  | keepClear report call client shutdown hgives hkind hgoes =>
      exact CommandRun.Goes.at (hgoes.imp_right fun ⟨hclient, hgo⟩ =>
        ⟨hclient, hgo.submits, hgo.admitted, hgo.lets⟩) rfl
  | discard result call client shutdown hgives hcarries hgoes =>
      exact CommandRun.Goes.at (hgoes.imp_right fun ⟨hclient, hgo⟩ =>
        ⟨hclient, hgo.submits, hgo.admitted, hgo.lets⟩) rfl
  | begin call hidle hready => exact ⟨rfl, rfl, hready.submits, hready.admitted, hready.lets⟩
  | load call hclient =>
      simp only [CommandRun.At, hclient] at h
      exact ⟨h.1, h.2.1, h.2.2.submits, h.2.2.admitted, h.2.2.lets⟩
  | publish call target command hclient hbuilt =>
      simp only [CommandRun.At, hclient] at h
      refine ⟨by simp [CommandCell.publish], by simp [CommandCell.publish], h.2.1,
        ⟨h.2.2.submits, h.2.2.admitted, h.2.2.lets⟩, ⟨command, target, run.log.head⟩, ?_, hbuilt⟩
      simp only [CommandCell.publish, List.getElem?_concat_length]
  | abandon epochs hstate hepochs => exact .inr ⟨hstate, rfl⟩

end Turn

end Lamb.Arena
