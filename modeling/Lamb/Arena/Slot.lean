import Lamb.Arena.Turn

/-!
The command in the slot and the worker's loop. From its submission until its
result is taken the slot holds the last command submitted; the worker takes it
once, executes it once and publishes its result, so the commands are executed
in the order they were submitted, each before the next one is submitted.
-/

namespace Lamb.Arena

open Lamb.Ring Lamb.Lib

variable {α : Type}

/-- The worker is at no command. -/
def LoopPc.Away : LoopPc → Prop
  | .top | .target | .consume | .exit | .done => True
  | _ => False

/-- The worker has not taken the command with this target yet. -/
def LoopPc.Polls (loop : LoopPc) (targetSequence : ℕ) : Prop :=
  match loop with
  | .compare loaded => loaded = targetSequence
  | .take => True
  | loop => loop.Away

/-- The slot holds the last command submitted. -/
structure CommandCell.Pending (cell : CommandCell) (submissions : List (Submission α))
    (submission : Submission α) : Prop where
  found : submissions[cell.number]? = some submission
  last : cell.number + 1 = submissions.length
  command : cell.command = some submission.command
  target : cell.targetSequence = submission.targetSequence
  kind : cell.kind = some submission.command.kind

def CommandRun.Pending (run : CommandRun α) (submission : Submission α) : Prop :=
  run.cell.Pending run.log.submissions submission

/-- How the state of the slot, the worker's loop and the log fit together. -/
def CommandRun.Fits (run : CommandRun α) : Prop :=
  match run.cell.state with
  | .idle | .preparing =>
      run.loop.Away ∧ run.log.executed.length = run.log.submissions.length
  | .ready =>
      run.loop.Polls run.cell.targetSequence ∧ (∃ submission, run.Pending submission) ∧
        run.log.executed.length + 1 = run.log.submissions.length
  | .processing =>
      ∃ submission, run.Pending submission ∧
        (run.loop = .process submission.command ∧
            run.log.executed.length + 1 = run.log.submissions.length ∨
          ∃ result, run.loop = .publish submission.command result ∧
            run.log.executed.length = run.log.submissions.length)
  | .resultReady =>
      run.loop.Away ∧ (∃ submission, run.Pending submission) ∧
        run.log.executed.length = run.log.submissions.length

structure CommandRun.Slot (run : CommandRun α) : Prop where
  at_ : run.At
  fits : run.Fits
  numbers : run.log.executed.map Execution.number = List.range run.log.executed.length

theorem CommandRun.Slot.start (arena : ArenaRun α) (runtimeId : ℕ) :
    (CommandRun.start arena runtimeId).Slot :=
  ⟨.inl rfl, ⟨trivial, rfl⟩, rfl⟩

section Slot

variable {run : CommandRun α}

/-- A result is only published when the worker is done with its command. -/
theorem CommandRun.Fits.gives (h : run.Fits) {result : Result WorkerReply}
    (hgives : run.cell.Gives result) :
    run.loop.Away ∧ (∃ submission, run.Pending submission) ∧
      run.log.executed.length = run.log.submissions.length := by
  simpa only [CommandRun.Fits, hgives.state] using h

theorem LoopPc.Away.polls {loop : LoopPc} (h : loop.Away) (targetSequence : ℕ) :
    loop.Polls targetSequence := by
  cases loop with
  | compare loaded => exact h.elim
  | take => trivial
  | _ => exact h

/-- The slot after its result was taken. -/
theorem CommandRun.Fits.emptied (h : run.Fits) {result : Result WorkerReply}
    (hgives : run.cell.Gives result) {run' : CommandRun α} (hstate : run'.cell.state = .idle)
    (hloop : run'.loop = run.loop) (hexecuted : run'.log.executed = run.log.executed)
    (hsubmissions : run'.log.submissions = run.log.submissions) : run'.Fits := by
  obtain ⟨haway, -, hlength⟩ := h.gives hgives
  simp only [CommandRun.Fits, hstate, hloop, hexecuted, hsubmissions]
  exact ⟨haway, hlength⟩

theorem CommandRun.Slot.turn (h : run.Slot) {run' : CommandRun α} (hturn : run.Turn run') :
    run'.Slot := by
  refine ⟨hturn.at h.at_, ?_, ?_⟩
  · cases hturn with
    | move => exact h.fits
    | recallFrozen => exact h.fits
    | recallClear => exact h.fits
    | own call result client shutdown hclient hgives =>
        exact h.fits.emptied hgives rfl rfl rfl rfl
    | taken call result client shutdown hgives => exact h.fits.emptied hgives rfl rfl rfl rfl
    | keepFrozen descriptor hgives => exact h.fits.emptied hgives rfl rfl rfl rfl
    | keepClear report call client shutdown hgives => exact h.fits.emptied hgives rfl rfl rfl rfl
    | discard result call client shutdown hgives => exact h.fits.emptied hgives rfl rfl rfl rfl
    | begin call hidle =>
        have hfits := h.fits
        simp only [CommandRun.Fits, hidle] at hfits
        exact hfits
    | load => exact h.fits
    | publish call target command hclient hbuilt =>
        have hat := h.at_
        simp only [CommandRun.At, hclient] at hat
        have hfits := h.fits
        simp only [CommandRun.Fits, hat.1] at hfits
        refine ⟨hfits.1.polls _, ⟨⟨command, target, run.log.head⟩, ?_, ?_, rfl, rfl, ?_⟩, ?_⟩
        · simp only [CommandCell.publish, List.getElem?_concat_length]
        · simp only [CommandCell.publish, List.length_append, List.length_singleton]
        · simp only [CommandCell.publish, hat.2.1, hbuilt.kind_eq]
        · simp only [List.length_append, List.length_singleton, hfits.2]
    | abandon epochs hstate =>
        have hfits := h.fits
        simp only [CommandRun.Fits] at hfits ⊢
        cases hcell : run.cell.state with
        | idle =>
            rw [hcell] at hfits
            exact hfits
        | preparing => exact absurd hcell hstate
        | ready =>
            rw [hcell] at hfits
            obtain ⟨hpolls, ⟨submission, hpending⟩, hlength⟩ := hfits
            exact ⟨hpolls, ⟨submission, hpending.found, hpending.last, hpending.command,
              hpending.target, hpending.kind⟩, hlength⟩
        | processing =>
            rw [hcell] at hfits
            obtain ⟨submission, hpending, hloop⟩ := hfits
            exact ⟨submission, ⟨hpending.found, hpending.last, hpending.command,
              hpending.target, hpending.kind⟩, hloop⟩
        | resultReady =>
            rw [hcell] at hfits
            obtain ⟨haway, ⟨submission, hpending⟩, hlength⟩ := hfits
            exact ⟨haway, ⟨submission, hpending.found, hpending.last, hpending.command,
              hpending.target, hpending.kind⟩, hlength⟩
  · cases hturn <;> exact h.numbers

/-! ### The worker -/

/-- A client does not tell apart what the worker does with a command. -/
theorem CommandRun.At.busy (h : run.At) (hidle : run.cell.state ≠ .idle)
    (hpreparing : run.cell.state ≠ .preparing) {cell : CommandCell} (hidle' : cell.state ≠ .idle)
    (hpreparing' : cell.state ≠ .preparing) (hkind : cell.kind = run.cell.kind)
    (habandoned : cell.abandoned = run.cell.abandoned) (hnumber : cell.number = run.cell.number)
    (loop : LoopPc) : CommandRun.At { run with cell, loop } := by
  have hfree : run.cell.Free → cell.Free := by
    rintro (hfree | ⟨-, hgiven⟩)
    · exact absurd hfree hidle
    · exact .inr ⟨hpreparing', habandoned.trans hgiven⟩
  have hasks : ∀ call, ClientCall.Asks call run.cell run.memory →
      ClientCall.Asks call cell run.memory := by
    intro call hcall
    cases call <;> simpa only [ClientCall.Asks, hkind] using hcall
  unfold CommandRun.At at h ⊢
  cases hclient : run.client with
  | idle => exact hfree (by simpa only [hclient] using h)
  | closing => exact hfree (by simpa only [hclient] using h)
  | joining => exact hfree (by simpa only [hclient] using h)
  | «recover» call =>
      rw [hclient] at h
      exact ⟨hfree h.1, h.2⟩
  | stale call =>
      rw [hclient] at h
      exact ⟨hfree h.1, hidle', h.2.2.1, hasks call h.2.2.2⟩
  | begin call =>
      rw [hclient] at h
      exact absurd h.1 hidle
  | load call =>
      rw [hclient] at h
      exact absurd h.1 hpreparing
  | publish call target =>
      rw [hclient] at h
      exact absurd h.1 hpreparing
  | reply call =>
      rw [hclient] at h
      obtain ⟨-, -, hcall, hready, submission, hfound, hbuilt⟩ := h
      exact ⟨hidle', hpreparing', hkind.trans hcall,
        ⟨hready.submits, hready.admitted, hready.lets⟩, submission, hnumber ▸ hfound, hbuilt⟩

/-- A worker that is at no command can go anywhere. -/
theorem CommandRun.Fits.roam (h : run.Fits) (haway : run.loop.Away) {run' : CommandRun α}
    (hcell : run'.cell = run.cell) (hlog : run'.log = run.log) (hloop : run'.loop.Away) :
    run'.Fits := by
  simp only [CommandRun.Fits, CommandRun.Pending, hcell, hlog] at h ⊢
  cases hstate : run.cell.state with
  | idle =>
      rw [hstate] at h
      exact ⟨hloop, h.2⟩
  | preparing =>
      rw [hstate] at h
      exact ⟨hloop, h.2⟩
  | ready =>
      rw [hstate] at h
      exact ⟨hloop.polls _, h.2⟩
  | processing =>
      rw [hstate] at h
      obtain ⟨submission, -, ⟨hprocess, -⟩ | ⟨result, hpublish, -⟩⟩ := h
      · rw [hprocess] at haway
        exact haway.elim
      · rw [hpublish] at haway
        exact haway.elim
  | resultReady =>
      rw [hstate] at h
      exact ⟨hloop, h.2⟩

/-- A worker about to take a command has seen it ready, and it still is. -/
theorem CommandRun.Fits.polling (h : run.Fits)
    (hloop : (∃ loaded, run.loop = .compare loaded) ∨ run.loop = .take) :
    run.cell.state = .ready ∧ run.loop.Polls run.cell.targetSequence ∧
      (∃ submission, run.Pending submission) ∧
      run.log.executed.length + 1 = run.log.submissions.length := by
  have haway : ¬run.loop.Away := by
    rcases hloop with ⟨loaded, hloop⟩ | hloop <;> rw [hloop] <;> exact id
  unfold CommandRun.Fits at h
  cases hstate : run.cell.state with
  | ready =>
      rw [hstate] at h
      exact ⟨rfl, h⟩
  | processing =>
      rw [hstate] at h
      obtain ⟨submission, -, ⟨hprocess, -⟩ | ⟨result, hpublish, -⟩⟩ := h
      · rcases hloop with ⟨loaded, hloop⟩ | hloop <;> rw [hloop] at hprocess <;> cases hprocess
      · rcases hloop with ⟨loaded, hloop⟩ | hloop <;> rw [hloop] at hpublish <;> cases hpublish
  | idle =>
      rw [hstate] at h
      exact absurd h.1 haway
  | preparing =>
      rw [hstate] at h
      exact absurd h.1 haway
  | resultReady =>
      rw [hstate] at h
      exact absurd h.1 haway

theorem CommandRun.Fits.processing (h : run.Fits) {command : WorkerCommand}
    (hloop : run.loop = .process command) :
    run.cell.state = .processing ∧ ∃ submission, run.Pending submission ∧
      submission.command = command ∧
      run.log.executed.length + 1 = run.log.submissions.length := by
  unfold CommandRun.Fits at h
  cases hstate : run.cell.state with
  | processing =>
      rw [hstate] at h
      obtain ⟨submission, hpending, ⟨hprocess, hlength⟩ | ⟨result, hpublish, -⟩⟩ := h
      · rw [hloop] at hprocess
        cases hprocess
        exact ⟨rfl, submission, hpending, rfl, hlength⟩
      · rw [hloop] at hpublish
        cases hpublish
  | _ =>
      rw [hstate, hloop] at h
      exact h.1.elim

theorem CommandRun.Fits.publishing (h : run.Fits) {command : WorkerCommand}
    {result : Result WorkerReply} (hloop : run.loop = .publish command result) :
    run.cell.state = .processing ∧ ∃ submission, run.Pending submission ∧
      submission.command = command ∧
      run.log.executed.length = run.log.submissions.length := by
  unfold CommandRun.Fits at h
  cases hstate : run.cell.state with
  | processing =>
      rw [hstate] at h
      obtain ⟨submission, hpending, ⟨hprocess, -⟩ | ⟨result, hpublish, hlength⟩⟩ := h
      · rw [hloop] at hprocess
        cases hprocess
      · rw [hloop] at hpublish
        cases hpublish
        exact ⟨rfl, submission, hpending, rfl, hlength⟩
  | _ =>
      rw [hstate, hloop] at h
      exact h.1.elim

/-- The steps of the worker's loop. -/
inductive CommandRun.Work (run : CommandRun α) (now : ℕ) : CommandRun α → Prop
  | roam (loop : LoopPc) (haway : run.loop.Away) (hconsume : run.loop ≠ .consume)
      (hloop : loop.Away) : run.Work now { run with loop }
  | poll (hloop : run.loop = .target) (hready : run.cell.state = .ready) :
      run.Work now { run with loop := .compare run.cell.targetSequence }
  | back (loaded : ℕ) (hloop : run.loop = .compare loaded)
      (hbehind : run.arena.ingress.queue.consumedSequence < run.cell.targetSequence) :
      run.Work now { run with loop := .consume }
  | drained (loaded : ℕ) (hloop : run.loop = .compare loaded)
      (hdrained : run.cell.targetSequence ≤ run.arena.ingress.queue.consumedSequence) :
      run.Work now { run with loop := .take }
  | consume (hloop : run.loop = .consume) :
      run.Work now { run with
        arena := run.arena.consume now
        loop :=
          if (run.arena.consume now).ingress.consumer = .idle then .top else .consume }
  | take (submission : Submission α) (hloop : run.loop = .take)
      (hpending : run.Pending submission) (hready : run.cell.state = .ready)
      (hlength : run.log.executed.length + 1 = run.log.submissions.length) :
      run.Work now { run with
        cell := { run.cell with state := .processing }
        loop := .process submission.command }
  | process (submission : Submission α) (hloop : run.loop = .process submission.command)
      (hpending : run.Pending submission) (hstate : run.cell.state = .processing)
      (hlength : run.log.executed.length + 1 = run.log.submissions.length) :
      run.Work now { run with
        arena := run.arena.execute submission.command
        loop := .publish submission.command
          (run.arena.worker.processCommand run.arena.ingress.queue.counters submission.command).1
        log := { run.log with
          executed := run.log.executed ++ [⟨run.cell.number, run.arena,
            (run.arena.worker.processCommand run.arena.ingress.queue.counters
              submission.command).1⟩] } }
  | publish (submission : Submission α) (result : Result WorkerReply) (loop : LoopPc)
      (hloop : run.loop = .publish submission.command result)
      (hpending : run.Pending submission) (hstate : run.cell.state = .processing)
      (hlength : run.log.executed.length = run.log.submissions.length) (haway : loop.Away)
      (hconsume : loop ≠ .consume) :
      run.Work now { run with cell := run.cell.publishResult result, loop }

theorem CommandRun.Fits.work (h : run.Fits) (now : ℕ) : run.Work now (run.work now) := by
  unfold CommandRun.work
  cases hloop : run.loop with
  | top =>
      simp only
      split <;> exact .roam _ (by rw [hloop]; trivial) (by simp [hloop]) trivial
  | target =>
      simp only [CommandCell.readyTarget]
      by_cases hready : run.cell.state = .ready
      · simp only [if_pos hready]
        exact .poll hloop hready
      · simp only [if_neg hready]
        exact .roam _ (by rw [hloop]; trivial) (by simp [hloop]) trivial
  | compare loaded =>
      obtain ⟨-, hpolls, -⟩ := h.polling (.inl ⟨loaded, hloop⟩)
      rw [hloop] at hpolls
      simp only
      split
      · rename_i hbehind
        exact .back loaded hloop (hpolls ▸ hbehind)
      · rename_i hdrained
        exact .drained loaded hloop (hpolls ▸ Nat.not_lt.mp hdrained)
  | consume => exact .consume hloop
  | take =>
      obtain ⟨hready, -, ⟨submission, hpending⟩, hlength⟩ := h.polling (.inr hloop)
      have htake : run.cell.takeCommand =
          some (submission.command, { run.cell with state := .processing }) := by
        simp only [CommandCell.takeCommand, if_pos hready, hpending.command, Option.map_some]
      simp only [htake]
      exact .take submission hloop hpending hready hlength
  | process command =>
      obtain ⟨hstate, submission, hpending, rfl, hlength⟩ := h.processing hloop
      exact .process submission hloop hpending hstate hlength
  | publish command result =>
      obtain ⟨hstate, submission, hpending, rfl, hlength⟩ := h.publishing hloop
      refine .publish submission result _ hloop hpending hstate hlength ?_ ?_
      · split <;> trivial
      · split <;> simp
  | exit => exact .roam _ (by rw [hloop]; trivial) (by simp [hloop]) trivial
  | done => exact .roam run.loop (by rw [hloop]; trivial) (by simp [hloop]) (by rw [hloop]; trivial)

theorem CommandRun.Slot.work (h : run.Slot) {now : ℕ} {run' : CommandRun α}
    (hwork : run.Work now run') : run'.Slot := by
  cases hwork with
  | roam loop haway hconsume hloop => exact ⟨h.at_, h.fits.roam haway rfl rfl hloop, h.numbers⟩
  | poll hloop hready =>
      refine ⟨h.at_, ?_, h.numbers⟩
      have hfits := h.fits
      simp only [CommandRun.Fits, CommandRun.Pending, hready] at hfits ⊢
      exact ⟨rfl, hfits.2⟩
  | back loaded hloop hbehind =>
      obtain ⟨hready, hpolls, hpending, hlength⟩ := h.fits.polling (.inl ⟨loaded, hloop⟩)
      refine ⟨h.at_, ?_, h.numbers⟩
      simp only [CommandRun.Fits, hready]
      exact ⟨trivial, hpending, hlength⟩
  | drained loaded hloop hdrained =>
      obtain ⟨hready, hpolls, hpending, hlength⟩ := h.fits.polling (.inl ⟨loaded, hloop⟩)
      refine ⟨h.at_, ?_, h.numbers⟩
      simp only [CommandRun.Fits, hready]
      exact ⟨trivial, hpending, hlength⟩
  | consume hloop =>
      refine ⟨h.at_, h.fits.roam (by rw [hloop]; trivial) rfl rfl ?_, h.numbers⟩
      simp only
      split <;> trivial
  | take submission hloop hpending hready hlength =>
      have hat := @CommandRun.At.busy _ run h.at_ (by simp [hready]) (by simp [hready])
        { run.cell with state := .processing } (by simp) (by simp) rfl rfl rfl
      refine ⟨hat _, ?_, h.numbers⟩
      exact ⟨submission, ⟨hpending.found, hpending.last, hpending.command, hpending.target,
        hpending.kind⟩, .inl ⟨rfl, hlength⟩⟩
  | process submission hloop hpending hstate hlength =>
      refine ⟨h.at_, ?_, ?_⟩
      · simp only [CommandRun.Fits, hstate, List.length_append, List.length_singleton]
        exact ⟨submission, hpending, .inr ⟨_, rfl, hlength⟩⟩
      · have hlast := hpending.last
        simp only [List.map_append, List.map_singleton, List.length_append, List.length_singleton,
          List.range_succ, h.numbers]
        rw [show run.cell.number = run.log.executed.length by omega]
  | publish submission result loop hloop hpending hstate hlength haway hconsume =>
      have hat := @CommandRun.At.busy _ run h.at_ (by simp [hstate]) (by simp [hstate])
        (run.cell.publishResult result) (by simp [CommandCell.publishResult])
        (by simp [CommandCell.publishResult]) rfl rfl rfl
      refine ⟨hat _, ?_, h.numbers⟩
      exact ⟨haway, ⟨submission, hpending.found, hpending.last, hpending.command, hpending.target,
        hpending.kind⟩, hlength⟩

/-! ### Whole runs -/

/-- Everything a step can do: the producer goes on, the worker does, or a
client. -/
theorem CommandRun.Slot.step_cases (h : run.Slot) (event : CommandEvent α) :
    (∃ samples channels, run.step event =
      { run with arena := run.arena.step (.push samples channels) }) ∨
    run.step event = { run with arena := run.arena.step .producer } ∨
    (∃ now, run.Work now (run.step event)) ∨ run.Turn (run.step event) := by
  cases event with
  | push samples channels =>
      simp only [CommandRun.step]
      split
      · exact .inr (.inr (.inr (.stay h.at_)))
      · exact .inl ⟨samples, channels, rfl⟩
  | producer => exact .inr (.inl rfl)
  | worker now => exact .inr (.inr (.inl ⟨now, h.fits.work now⟩))
  | call call =>
      refine .inr (.inr (.inr ?_))
      simp only [CommandRun.step]
      split
      · rename_i hidle
        exact h.at_.enter hidle call
      · exact .stay h.at_
  | client => exact .inr (.inr (.inr h.at_.advance))
  | timeout => exact .inr (.inr (.inr h.at_.timeOut))

theorem CommandRun.Slot.step (h : run.Slot) (event : CommandEvent α) : (run.step event).Slot := by
  rcases h.step_cases event with ⟨samples, channels, heq⟩ | heq | ⟨now, hwork⟩ | hturn
  · rw [heq]
    exact ⟨h.at_, h.fits, h.numbers⟩
  · rw [heq]
    exact ⟨h.at_, h.fits, h.numbers⟩
  · exact h.work hwork
  · exact h.turn hturn

end Slot

end Lamb.Arena
