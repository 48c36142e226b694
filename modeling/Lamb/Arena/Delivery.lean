import Lamb.Arena.Barrier
import Mathlib.Algebra.Order.Group.Multiset
import Mathlib.Tactic.Abel

/-!
Where the results of executed commands are. Every result is in the slot, was
handed to one call, is kept for a later one, or was dropped, and what exists
only once is never dropped. A frozen epoch that was granted and not released
is held in one place, so a release found in the slot is that of the epoch the
next release is called with.
-/

namespace Lamb.Arena

open Lamb.Ring Lamb.Lib

variable {α : Type}

/-! ### Places -/

/-- The result that is published or about to be. -/
def CommandRun.inFlight (run : CommandRun α) : List (ℕ × Result WorkerReply) :=
  match run.loop with
  | .publish _ result => [(run.cell.number, result)]
  | _ =>
      if run.cell.state = .resultReady then
        run.cell.result.toList.map fun result => (run.cell.number, result)
      else []

def CommandRun.recovered (run : CommandRun α) : List (ℕ × Result WorkerReply) :=
  run.memory.recoveredFrozen.toList.map (fun kept => (kept.1, .ok (.frozen (some kept.2)))) ++
    run.memory.recoveredClear.toList.map (fun kept => (kept.1, .ok (.cleared kept.2)))

/-- The results that were taken out of the slot. -/
def CommandRun.settledResults (run : CommandRun α) : List (ℕ × Result WorkerReply) :=
  run.log.delivered.map (fun delivery => (delivery.number, delivery.result)) ++
    run.log.discarded ++ run.recovered

/-- All results there are, with the numbers of their commands. -/
def CommandRun.places (run : CommandRun α) : List (ℕ × Result WorkerReply) :=
  run.settledResults ++ run.inFlight

/-- The results the worker has produced. -/
def CommandRun.results (run : CommandRun α) : List (ℕ × Result WorkerReply) :=
  run.log.executed.map fun execution => (execution.number, execution.result)

/-- The call is one that a clear report with this identity is meant for. -/
def ClientCall.Identifies (call : ClientCall) (report : CaptureClearReport) : Prop :=
  match call with
  | .clear accounting =>
      accounting.arenaRuntimeId = report.arenaRuntimeId ∧
        accounting.coordinatorId = report.coordinatorId ∧ accounting.clearId = report.clearId
  | .recoverClear recovery => recovery.matches report
  | _ => False

/-! ### Replies -/

/-- A reply is of the kind of its command, and a clear report carries the
identity it was asked with. -/
def WorkerCommand.Replied (command : WorkerCommand) (result : Result WorkerReply) : Prop :=
  ∀ reply, result = .ok reply → reply.kind = command.kind ∧
    ∀ report, reply = .cleared report → ∃ dropped accounting,
      command = .clear dropped accounting ∧ report.Reports accounting

theorem WorkerState.Inv.replied {worker : WorkerState α} (h : worker.Inv) (queue : DropCounters)
    (command : WorkerCommand) : command.Replied (worker.processCommand queue command).1 := by
  unfold WorkerState.processCommand
  split
  · intro reply hreply
    cases hreply
  cases command with
  | freeze committedStart =>
      intro reply hreply
      simp only at hreply
      cases hresult : (worker.freeze committedStart).1 with
      | error e =>
          rw [hresult] at hreply
          cases hreply
      | ok descriptor =>
          rw [hresult] at hreply
          obtain rfl := Except.ok.inj hreply
          exact ⟨rfl, by simp⟩
  | release index generation =>
      intro reply hreply
      simp only at hreply
      cases hresult : (worker.release index generation).1 with
      | error e =>
          rw [hresult] at hreply
          cases hreply
      | ok _ =>
          rw [hresult] at hreply
          obtain rfl := Except.ok.inj hreply
          exact ⟨rfl, by simp⟩
  | clear ingressDroppedFrames accounting =>
      intro reply hreply
      rcases h.clear_cases ingressDroppedFrames accounting with
        ⟨e, herror⟩ | ⟨report, hreports, -, -, heq⟩
      · simp only [herror] at hreply
        cases hreply
      · simp only [heq] at hreply
        obtain rfl := Except.ok.inj hreply
        refine ⟨rfl, ?_⟩
        rintro _ ⟨⟩
        exact ⟨_, _, rfl, hreports⟩
  | status =>
      intro reply hreply
      simp only at hreply
      cases hresult : worker.status queue with
      | error e =>
          rw [hresult] at hreply
          cases hreply
      | ok status =>
          rw [hresult] at hreply
          obtain rfl := Except.ok.inj hreply
          exact ⟨rfl, by simp⟩
  | shutdown =>
      intro reply hreply
      obtain rfl := Except.ok.inj hreply
      exact ⟨rfl, by simp⟩

/-! ### What the client keeps -/

/-- A recovered epoch is taken before anything else is submitted, and a
recovered report lets only a status by. -/
structure CommandRun.Memory (run : CommandRun α) : Prop where
  frozen : run.memory.recoveredFrozen.isSome → run.cell.state = .idle
  clear : run.memory.recoveredClear.isSome → run.cell.state ≠ .idle →
    run.cell.kind = some .status

section Memory

variable {run : CommandRun α}

theorem CommandRun.Memory.turn (h : run.Memory) (hslot : run.Slot) {run' : CommandRun α}
    (hturn : run.Turn run') : run'.Memory := by
  cases hturn with
  | move => exact ⟨h.frozen, h.clear⟩
  | recallFrozen => exact ⟨by simp [CommandRun.goto, CommandRun.hand], h.clear⟩
  | recallClear => exact ⟨h.frozen, by simp [CommandRun.goto, CommandRun.hand]⟩
  | own => exact ⟨fun _ => rfl, fun _ hidle => absurd rfl hidle⟩
  | taken => exact ⟨fun _ => rfl, fun _ hidle => absurd rfl hidle⟩
  | keepFrozen => exact ⟨fun _ => rfl, fun _ hidle => absurd rfl hidle⟩
  | keepClear => exact ⟨fun _ => rfl, fun _ hidle => absurd rfl hidle⟩
  | discard => exact ⟨fun _ => rfl, fun _ hidle => absurd rfl hidle⟩
  | begin call hidle hready =>
      refine ⟨fun hsome => ?_, fun hsome _ => congrArg some (hready.lets.2 hsome)⟩
      rw [hready.lets.1] at hsome
      cases hsome
  | load => exact ⟨h.frozen, h.clear⟩
  | publish call target command hclient hbuilt =>
      have hat := hslot.at_
      simp only [CommandRun.At, hclient] at hat
      obtain ⟨-, hkind, hready⟩ := hat
      refine ⟨fun hsome => ?_, fun hsome _ => ?_⟩
      · rw [hready.lets.1] at hsome
        cases hsome
      · simp only [CommandCell.publish, hkind, hready.lets.2 hsome]
  | abandon => exact ⟨h.frozen, h.clear⟩

theorem CommandRun.Memory.work (h : run.Memory) {now : ℕ} {run' : CommandRun α}
    (hwork : run.Work now run') : run'.Memory := by
  cases hwork with
  | take submission hloop hpending hready hlength =>
      refine ⟨fun hsome => ?_, fun hsome _ => h.clear hsome (by simp [hready])⟩
      have hidle := h.frozen hsome
      rw [hready] at hidle
      cases hidle
  | publish submission result loop hloop hpending hstate hlength haway hconsume =>
      refine ⟨fun hsome => ?_, fun hsome _ => h.clear hsome (by simp [hstate])⟩
      have hidle := h.frozen hsome
      rw [hstate] at hidle
      cases hidle
  | _ => exact ⟨h.frozen, h.clear⟩

end Memory

/-! ### Every result has one place -/

def CommandRun.Conserved (run : CommandRun α) : Prop := run.places.Perm run.results

section Conserved

variable {run : CommandRun α}

theorem CommandRun.inFlight_gives (h : run.Fits) {result : Result WorkerReply}
    (hgives : run.cell.Gives result) : run.inFlight = [(run.cell.number, result)] := by
  obtain ⟨haway, -⟩ := h.gives hgives
  unfold CommandRun.inFlight
  cases hloop : run.loop with
  | publish command result =>
      rw [hloop] at haway
      exact haway.elim
  | _ => simp [hgives.state, hgives.result]

theorem CommandRun.inFlight_nil (hloop : ∀ command result, run.loop ≠ .publish command result)
    (hstate : run.cell.state ≠ .resultReady) : run.inFlight = [] := by
  unfold CommandRun.inFlight
  cases hpc : run.loop with
  | publish command result => exact absurd hpc (hloop command result)
  | _ => simp [hstate]

theorem LoopPc.Away.ne_publish {loop : LoopPc} (h : loop.Away) (command : WorkerCommand)
    (result : Result WorkerReply) : loop ≠ .publish command result := by
  rintro rfl
  exact h

theorem LoopPc.Polls.ne_publish {loop : LoopPc} {targetSequence : ℕ}
    (h : loop.Polls targetSequence) (command : WorkerCommand) (result : Result WorkerReply) :
    loop ≠ .publish command result := by
  rintro rfl
  exact h

/-- The result was taken out of the slot and put somewhere else. -/
theorem CommandRun.Conserved.emptied (h : run.Conserved) (hslot : run.Slot)
    {result : Result WorkerReply} (hgives : run.cell.Gives result) {run' : CommandRun α}
    (hloop : run'.loop = run.loop) (hcell : run'.cell = run.cell.taken)
    (hresults : run'.results = run.results)
    (hsettled : run'.settledResults.Perm (run.settledResults ++ [(run.cell.number, result)])) :
    run'.Conserved := by
  have hnone : run'.inFlight = [] := by
    refine CommandRun.inFlight_nil ?_ ?_
    · rw [hloop]
      exact (hslot.fits.gives hgives).1.ne_publish
    · rw [hcell]
      simp [CommandCell.taken]
  unfold CommandRun.Conserved CommandRun.places at h ⊢
  rw [CommandRun.inFlight_gives hslot.fits hgives] at h
  rw [hnone, List.append_nil, hresults]
  exact hsettled.trans h

/-- There was no result in the slot and there is none. -/
theorem CommandRun.Conserved.unfilled (h : run.Conserved) (haway : run.loop.Away)
    (hstate : run.cell.state ≠ .resultReady) {run' : CommandRun α} (hloop : run'.loop = run.loop)
    (hstate' : run'.cell.state ≠ .resultReady) (hresults : run'.results = run.results)
    (hsettled : run'.settledResults = run.settledResults) : run'.Conserved := by
  have hnone : run'.inFlight = [] :=
    CommandRun.inFlight_nil (hloop ▸ haway.ne_publish) hstate'
  unfold CommandRun.Conserved CommandRun.places at h ⊢
  rw [CommandRun.inFlight_nil haway.ne_publish hstate] at h
  rw [hnone, hresults, hsettled]
  exact h

theorem CommandRun.Conserved.turn (h : run.Conserved) (hslot : run.Slot) (hmemory : run.Memory)
    {run' : CommandRun α} (hturn : run.Turn run') : run'.Conserved := by
  cases hturn with
  | move client shutdown closed hat hclient => exact h
  | load call hclient => exact h
  | abandon epochs hstate hepochs => exact h
  | recallFrozen number descriptor call client shutdown hrecovered hcall hfree hends =>
      refine List.Perm.trans (List.Perm.append_right _ ?_) h
      simp only [CommandRun.settledResults, CommandRun.recovered, hrecovered, CommandRun.goto,
        CommandRun.hand, List.map_append, ← Multiset.coe_eq_coe, ← Multiset.coe_add,
        Option.toList_none, Option.toList_some, List.map_nil, List.map_singleton,
        Multiset.coe_nil]
      abel
  | recallClear number report recovery client shutdown hrecovered hmatches hfree hends =>
      refine List.Perm.trans (List.Perm.append_right _ ?_) h
      simp only [CommandRun.settledResults, CommandRun.recovered, hrecovered, CommandRun.goto,
        CommandRun.hand, List.map_append, ← Multiset.coe_eq_coe, ← Multiset.coe_add,
        Option.toList_none, Option.toList_some, List.map_nil, List.map_singleton,
        Multiset.coe_nil]
      abel
  | own call result client shutdown hclient hgives hends =>
      refine h.emptied hslot hgives rfl rfl rfl ?_
      simp only [CommandRun.settledResults, CommandRun.recovered, CommandRun.goto, CommandRun.hand,
        List.map_append, List.map_singleton, ← Multiset.coe_eq_coe, ← Multiset.coe_add]
      abel
  | taken call result client shutdown hgives hadmitted hanswers hends =>
      refine h.emptied hslot hgives rfl rfl rfl ?_
      simp only [CommandRun.settledResults, CommandRun.recovered, CommandRun.goto, CommandRun.hand,
        List.map_append, List.map_singleton, ← Multiset.coe_eq_coe, ← Multiset.coe_add]
      abel
  | keepFrozen descriptor hgives hkind =>
      have hnone : run.memory.recoveredFrozen = none := by
        cases hsome : run.memory.recoveredFrozen with
        | none => rfl
        | some kept =>
            have hidle := hmemory.frozen (by simp [hsome])
            rw [hgives.state] at hidle
            cases hidle
      refine h.emptied hslot hgives rfl rfl rfl ?_
      simp only [CommandRun.settledResults, CommandRun.recovered, hnone, ← Multiset.coe_eq_coe,
        ← Multiset.coe_add, Option.toList_none, Option.toList_some, List.map_nil,
        List.map_singleton, Multiset.coe_nil]
      abel
  | keepClear report call client shutdown hgives hkind hgoes =>
      have hnone : run.memory.recoveredClear = none := by
        cases hsome : run.memory.recoveredClear with
        | none => rfl
        | some kept =>
            have hstatus := hmemory.clear (by simp [hsome]) (by simp [hgives.state])
            rw [hkind] at hstatus
            cases hstatus
      refine h.emptied hslot hgives rfl rfl rfl ?_
      simp only [CommandRun.settledResults, CommandRun.recovered, hnone, CommandRun.goto,
        ← Multiset.coe_eq_coe, ← Multiset.coe_add, Option.toList_none, Option.toList_some,
        List.map_nil, List.map_singleton, Multiset.coe_nil]
      abel
  | discard result call client shutdown hgives hcarries hgoes =>
      refine h.emptied hslot hgives rfl rfl rfl ?_
      simp only [CommandRun.settledResults, CommandRun.recovered, CommandRun.goto,
        ← Multiset.coe_eq_coe, ← Multiset.coe_add]
      abel
  | begin call hidle hready =>
      have hfits := hslot.fits
      simp only [CommandRun.Fits, hidle] at hfits
      exact h.unfilled hfits.1 (by simp [hidle]) rfl (by simp) rfl rfl
  | publish call target command hclient hbuilt =>
      have hat := hslot.at_
      have hfits := hslot.fits
      simp only [CommandRun.At, hclient] at hat
      simp only [CommandRun.Fits, hat.1] at hfits
      exact h.unfilled hfits.1 (by simp [hat.1]) rfl (by simp [CommandCell.publish]) rfl rfl

theorem CommandRun.inFlight_roam {loop : LoopPc}
    (hold : ∀ command result, run.loop ≠ .publish command result)
    (hnew : ∀ command result, loop ≠ .publish command result) :
    CommandRun.inFlight { run with loop } = run.inFlight := by
  unfold CommandRun.inFlight
  cases hpc : run.loop with
  | publish command result => exact absurd hpc (hold command result)
  | _ =>
      cases loop with
      | publish command result => exact absurd rfl (hnew command result)
      | _ => rfl

/-- Publishing the result leaves it in flight. -/
theorem CommandRun.inFlight_published {command : WorkerCommand} {result : Result WorkerReply}
    (hloop : run.loop = .publish command result) {loop : LoopPc} (haway : loop.Away) :
    CommandRun.inFlight { run with cell := run.cell.publishResult result, loop } =
      run.inFlight := by
  unfold CommandRun.inFlight
  rw [hloop]
  cases loop with
  | publish command result => exact haway.elim
  | _ => simp [CommandCell.publishResult]

theorem CommandRun.Conserved.work (h : run.Conserved) {now : ℕ} {run' : CommandRun α}
    (hwork : run.Work now run') : run'.Conserved := by
  unfold CommandRun.Conserved CommandRun.places at h
  have hkeep : run'.inFlight = run.inFlight → run'.log = run.log → run'.memory = run.memory →
      run'.Conserved := by
    intro hinFlight hlog hmemory
    simp only [CommandRun.Conserved, CommandRun.places, CommandRun.settledResults,
      CommandRun.recovered, CommandRun.results, hinFlight, hlog, hmemory]
    exact h
  cases hwork with
  | roam loop haway hconsume hloop => exact hkeep (CommandRun.inFlight_roam haway.ne_publish hloop.ne_publish) rfl rfl
  | poll hloop hready => exact hkeep (CommandRun.inFlight_roam (by simp [hloop]) (by simp)) rfl rfl
  | back loaded hloop hbehind => exact hkeep (CommandRun.inFlight_roam (by simp [hloop]) (by simp)) rfl rfl
  | drained loaded hloop hdrained => exact hkeep (CommandRun.inFlight_roam (by simp [hloop]) (by simp)) rfl rfl
  | consume hloop =>
      refine hkeep (CommandRun.inFlight_roam (by simp [hloop]) ?_) rfl rfl
      intro command result
      split <;> simp
  | take submission hloop hpending hready hlength =>
      refine hkeep ?_ rfl rfl
      rw [@CommandRun.inFlight_nil _ run (by simp [hloop]) (by simp [hready])]
      exact CommandRun.inFlight_nil (by simp) (by simp)
  | process submission hloop hpending hstate hlength =>
      rw [CommandRun.inFlight_nil (by simp [hloop]) (by simp [hstate]), List.append_nil] at h
      simp only [CommandRun.Conserved, CommandRun.places, CommandRun.results, CommandRun.inFlight,
        List.map_append, List.map_singleton]
      exact h.append_right _
  | publish submission result loop hloop hpending hstate hlength haway hconsume =>
      exact hkeep (CommandRun.inFlight_published hloop haway) rfl rfl

end Conserved

/-! ### Epochs that were granted and not released -/

/-- The epoch a result grants. -/
def grantedBy : Result WorkerReply → Option FrozenDescriptor
  | .ok (.frozen (some descriptor)) => some descriptor
  | _ => none

def unreleased (epochs : List FrozenCaptureEpoch) : List FrozenCaptureEpoch :=
  epochs.filter fun frozen => !frozen.released

/-- How many places hold an epoch that is not known to be released. -/
def CommandRun.holders (run : CommandRun α) : ℕ :=
  (unreleased run.epochs).length + run.memory.recoveredFrozen.toList.length +
    (run.inFlight.filterMap fun entry => grantedBy entry.2).length

structure CommandRun.Held (run : CommandRun α) : Prop where
  once : run.holders ≤ 1
  frozen : 0 < run.holders → run.arena.worker.frozen ≠ none ∨
    ∃ number, (number, .ok .released) ∈ run.inFlight
  release : run.cell.state ≠ .idle → run.cell.state ≠ .preparing →
    ∀ submission, run.Pending submission → ∀ index generation,
      submission.command = .release index generation →
      ∃ frozen ∈ run.epochs, frozen.released = false ∧
        frozen.descriptor.index = index ∧ frozen.descriptor.generation = generation

theorem unreleased_of_map_eq {epochs epochs' : List FrozenCaptureEpoch}
    (h : epochs'.map (fun frozen => (frozen.descriptor, frozen.released)) =
      epochs.map fun frozen => (frozen.descriptor, frozen.released)) :
    (unreleased epochs').length = (unreleased epochs).length := by
  have hcount : ∀ xs : List FrozenCaptureEpoch, (unreleased xs).length =
      (xs.map fun frozen => (frozen.descriptor, frozen.released)).countP
        fun entry => !entry.2 := by
    intro xs
    rw [unreleased, List.countP_map, List.countP_eq_length_filter]
    rfl
  rw [hcount, hcount, h]

/-- One epoch fewer once one of them is released. -/
theorem unreleased_modify {epochs : List FrozenCaptureEpoch} {index : ℕ}
    {frozen : FrozenCaptureEpoch} (hfound : epochs[index]? = some frozen)
    (hreleased : frozen.released = false) (f : FrozenCaptureEpoch → FrozenCaptureEpoch)
    (hf : (f frozen).released = true) :
    (unreleased (epochs.modify index f)).length + 1 = (unreleased epochs).length := by
  induction epochs generalizing index with
  | nil => simp at hfound
  | cons head epochs ih =>
      cases index with
      | zero =>
          obtain rfl : head = frozen := by simpa using hfound
          simp [unreleased, hreleased, hf]
      | succ index =>
          have htail := ih (by simpa using hfound)
          simp only [unreleased, List.modify_succ_cons, List.filter_cons] at htail ⊢
          split
          · simp only [List.length_cons]
            omega
          · exact htail

/-- The only epoch that is not released. -/
theorem unreleased_unique {epochs : List FrozenCaptureEpoch}
    (honce : (unreleased epochs).length ≤ 1) {frozen frozen' : FrozenCaptureEpoch}
    (hmem : frozen ∈ epochs) (hreleased : frozen.released = false) (hmem' : frozen' ∈ epochs)
    (hreleased' : frozen'.released = false) : frozen = frozen' := by
  have hin : frozen ∈ unreleased epochs := List.mem_filter.mpr ⟨hmem, by simp [hreleased]⟩
  have hin' : frozen' ∈ unreleased epochs := List.mem_filter.mpr ⟨hmem', by simp [hreleased']⟩
  generalize unreleased epochs = xs at honce hin hin'
  match xs, honce with
  | [], _ => simp at hin
  | [x], _ => rw [List.mem_singleton.mp hin, List.mem_singleton.mp hin']

/-- What a call does to the epochs with an answer of its kind: a grant is one
more, a release one fewer. -/
theorem ClientCall.receive_unreleased {call : ClientCall} {epochs : List FrozenCaptureEpoch}
    (hadmitted : call.Admitted epochs) {result : Result WorkerReply}
    (hkind : ∀ reply, result = .ok reply → reply.kind = call.kind) (runtimeId : ℕ) :
    (result = .ok .released →
      (unreleased (call.receive runtimeId result epochs)).length + 1 =
        (unreleased epochs).length) ∧
    (result ≠ .ok .released →
      (unreleased (call.receive runtimeId result epochs)).length =
        (unreleased epochs).length + (grantedBy result).toList.length) := by
  cases result with
  | error e =>
      refine ⟨by simp, fun _ => ?_⟩
      cases call with
      | release epoch => exact unreleased_of_map_eq (map_modify_of_eq fun _ => rfl)
      | _ => rfl
  | ok reply =>
      have hreply := hkind reply rfl
      cases reply with
      | frozen descriptor =>
          cases call with
          | freeze committedStart =>
              cases descriptor with
              | none => exact ⟨by simp, fun _ => rfl⟩
              | some descriptor =>
                  exact ⟨by simp, fun _ => by simp [ClientCall.receive, unreleased, grantedBy]⟩
          | _ => cases hreply
      | released =>
          cases call with
          | release epoch =>
              obtain ⟨frozen, hfound, hreleased⟩ := hadmitted epoch rfl
              exact ⟨fun _ => unreleased_modify hfound hreleased _ rfl, by simp⟩
          | _ => cases hreply
      | cleared report =>
          cases call with
          | clear accounting => exact ⟨by simp, fun _ => rfl⟩
          | recoverClear recovery => exact ⟨by simp, fun _ => rfl⟩
          | _ => cases hreply
      | status status =>
          cases call with
          | status => exact ⟨by simp, fun _ => rfl⟩
          | _ => cases hreply
      | shutdown =>
          cases call with
          | shutdown => exact ⟨by simp, fun _ => rfl⟩
          | _ => cases hreply

/-- Epochs stay where they are and name the same epoch. -/
def EpochsKept (epochs epochs' : List FrozenCaptureEpoch) : Prop :=
  ∀ (index : ℕ) (frozen : FrozenCaptureEpoch), epochs[index]? = some frozen →
    ∃ frozen' : FrozenCaptureEpoch, epochs'[index]? = some frozen' ∧
      frozen'.descriptor = frozen.descriptor

theorem EpochsKept.refl (epochs : List FrozenCaptureEpoch) : EpochsKept epochs epochs :=
  fun _ frozen hfound => ⟨frozen, hfound, rfl⟩

theorem EpochsKept.modify (epochs : List FrozenCaptureEpoch) (index : ℕ)
    {f : FrozenCaptureEpoch → FrozenCaptureEpoch} (hf : ∀ x, (f x).descriptor = x.descriptor) :
    EpochsKept epochs (epochs.modify index f) := by
  intro other frozen hfound
  rw [List.getElem?_modify, hfound]
  by_cases heq : index = other
  · exact ⟨f frozen, by simp [heq], hf frozen⟩
  · exact ⟨frozen, by simp [heq], rfl⟩

theorem ClientCall.receive_kept (call : ClientCall) (runtimeId : ℕ) (result : Result WorkerReply)
    (epochs : List FrozenCaptureEpoch) :
    EpochsKept epochs (call.receive runtimeId result epochs) := by
  unfold ClientCall.receive
  split
  · intro index frozen hfound
    refine ⟨frozen, ?_, rfl⟩
    rw [List.getElem?_append_left (List.getElem?_eq_some_iff.mp hfound).1]
    exact hfound
  · exact .modify _ _ fun _ => rfl
  · exact .modify _ _ fun _ => rfl
  · exact .refl _

theorem CommandRun.Turn.epochs_kept {run run' : CommandRun α} (hturn : run.Turn run') :
    EpochsKept run.epochs run'.epochs := by
  cases hturn with
  | recallFrozen => exact ClientCall.receive_kept _ _ _ _
  | recallClear => exact .refl _
  | own => exact ClientCall.receive_kept _ _ _ _
  | taken => exact ClientCall.receive_kept _ _ _ _
  | abandon epochs hstate hepochs =>
      intro index frozen hfound
      have hget := congrArg (fun xs => xs[index]?) hepochs
      simp only [List.getElem?_map, hfound, Option.map_some] at hget
      obtain ⟨frozen', hfound', heq⟩ := Option.map_eq_some_iff.mp hget
      exact ⟨frozen', hfound', (Prod.mk.inj heq).1⟩
  | _ => exact .refl _

section Held

variable {run : CommandRun α}

/-- Whatever place a result is in, it answers the command of its number. -/
theorem CommandRun.Conserved.replied (h : run.Conserved) (hdrain : run.Drain) {number : ℕ}
    {result : Result WorkerReply} (hmem : (number, result) ∈ run.places) :
    ∃ submission, run.log.submissions[number]? = some submission ∧
      submission.command.Replied result := by
  obtain ⟨execution, hexecution, heq⟩ := List.mem_map.mp (h.mem_iff.mp hmem)
  obtain ⟨rfl, rfl⟩ := Prod.mk.inj heq
  obtain ⟨submission, hfound, hdrained⟩ := hdrain.executed execution hexecution
  refine ⟨submission, hfound, ?_⟩
  rw [hdrained.result]
  exact hdrained.before.tracks.inv.replied _ _

/-- The result in the slot answers the command in the slot. -/
theorem CommandRun.Conserved.gives (h : run.Conserved) (hdrain : run.Drain)
    {result : Result WorkerReply} (hgives : run.cell.Gives result) :
    ∃ submission, run.Pending submission ∧ submission.command.Replied result := by
  obtain ⟨-, ⟨submission, hpending⟩, -⟩ := hdrain.slot.fits.gives hgives
  have hmem : (run.cell.number, result) ∈ run.places := by
    rw [CommandRun.places, CommandRun.inFlight_gives hdrain.slot.fits hgives]
    exact List.mem_append_right _ (List.mem_singleton_self _)
  obtain ⟨other, hother, hreplied⟩ := h.replied hdrain hmem
  obtain rfl := Option.some.inj (hother.symm.trans hpending.found)
  exact ⟨other, hpending, hreplied⟩

theorem CommandRun.Conserved.gives_kind (h : run.Conserved) (hdrain : run.Drain)
    {result : Result WorkerReply} (hgives : run.cell.Gives result) (reply : WorkerReply)
    (hresult : result = .ok reply) : run.cell.kind = some reply.kind := by
  obtain ⟨submission, hpending, hreplied⟩ := h.gives hdrain hgives
  rw [hpending.kind, (hreplied reply hresult).1]

theorem CommandRun.holders_gives (hslot : run.Slot) {result : Result WorkerReply}
    (hgives : run.cell.Gives result) :
    run.holders = (unreleased run.epochs).length + run.memory.recoveredFrozen.toList.length +
      (grantedBy result).toList.length := by
  rw [CommandRun.holders, CommandRun.inFlight_gives hslot.fits hgives]
  cases hgranted : grantedBy result <;> simp [hgranted]

/-- Held when the slot is idle: nothing is in flight. -/
theorem CommandRun.Held.emptied (h : run.Held) (hslot : run.Slot) {result : Result WorkerReply}
    (hgives : run.cell.Gives result) {run' : CommandRun α} (hloop : run'.loop = run.loop)
    (hcell : run'.cell = run.cell.taken) (harena : run'.arena = run.arena)
    (hheld : (unreleased run'.epochs).length + run'.memory.recoveredFrozen.toList.length =
        run.holders ∧ result ≠ .ok .released ∨
      (unreleased run'.epochs).length + run'.memory.recoveredFrozen.toList.length + 1 =
        run.holders) : run'.Held := by
  have hnone : run'.inFlight = [] := by
    refine CommandRun.inFlight_nil ?_ ?_
    · rw [hloop]
      exact (hslot.fits.gives hgives).1.ne_publish
    · rw [hcell]
      simp [CommandCell.taken]
  have hholders : run'.holders =
      (unreleased run'.epochs).length + run'.memory.recoveredFrozen.toList.length := by
    simp [CommandRun.holders, hnone]
  have honce := h.once
  refine ⟨?_, fun hpos => ?_, fun hidle => ?_⟩
  · rcases hheld with ⟨heq, -⟩ | heq <;> omega
  · rcases hheld with ⟨heq, hresult⟩ | heq
    · rw [harena]
      rcases h.frozen (by omega) with hfrozen | ⟨number, hmem⟩
      · exact .inl hfrozen
      · rw [CommandRun.inFlight_gives hslot.fits hgives, List.mem_singleton] at hmem
        exact absurd (Prod.mk.inj hmem).2.symm hresult
    · omega
  · rw [hcell] at hidle
    exact absurd rfl hidle

/-- The slot and the worker are as they were and as many places hold an
epoch. -/
theorem CommandRun.Held.keep (h : run.Held) {run' : CommandRun α}
    (hholders : run'.holders = run.holders) (hinFlight : run'.inFlight = run.inFlight)
    (hfrozen : run'.arena.worker.frozen = run.arena.worker.frozen)
    (hrelease : run'.cell.state ≠ .idle → run'.cell.state ≠ .preparing →
      ∀ submission, run'.Pending submission → ∀ index generation,
        submission.command = .release index generation →
        ∃ frozen ∈ run'.epochs, frozen.released = false ∧
          frozen.descriptor.index = index ∧ frozen.descriptor.generation = generation) :
    run'.Held := by
  refine ⟨?_, ?_, hrelease⟩
  · rw [hholders]
    exact h.once
  · rw [hholders, hfrozen, hinFlight]
    exact h.frozen

theorem CommandRun.Held.turn (h : run.Held) (hdrain : run.Drain) (hmemory : run.Memory)
    (hconserved : run.Conserved) {run' : CommandRun α} (hturn : run.Turn run') : run'.Held := by
  have hslot := hdrain.slot
  cases hturn with
  | move client shutdown closed hat hclient => exact ⟨h.once, h.frozen, h.release⟩
  | load call hclient => exact ⟨h.once, h.frozen, h.release⟩
  | recallFrozen number descriptor call client shutdown hrecovered hcall hfree hends =>
      have hidle : run.cell.state = .idle := hmemory.frozen (by simp [hrecovered])
      have hadmitted : call.Admitted run.epochs := by
        intro epoch hrelease
        rw [hrelease] at hcall
        cases hcall
      obtain ⟨-, hreceived⟩ := @ClientCall.receive_unreleased call run.epochs hadmitted
        (.ok (.frozen (some descriptor))) (by rintro reply ⟨⟩; exact hcall.symm) run.runtimeId
      refine h.keep ?_ rfl rfl fun hbusy => absurd hidle hbusy
      have hreceived := hreceived (by simp)
      simp only [grantedBy, Option.toList_some, List.length_singleton] at hreceived
      simp only [CommandRun.holders, CommandRun.goto, CommandRun.hand, hreceived, hrecovered,
        Option.toList_none, Option.toList_some, List.length_nil, List.length_singleton]
      rfl
  | recallClear number report recovery client shutdown hrecovered hmatches hfree hends =>
      exact ⟨h.once, h.frozen, h.release⟩
  | own call result client shutdown hclient hgives hends =>
      have hat := hslot.at_
      simp only [CommandRun.At, hclient] at hat
      obtain ⟨-, -, hkind, hready, -⟩ := hat
      obtain ⟨hreleased, hother⟩ := ClientCall.receive_unreleased hready.admitted
        (fun reply hresult => Option.some.inj
          ((hconserved.gives_kind hdrain hgives reply hresult).symm.trans hkind)) run.runtimeId
      refine h.emptied hslot hgives rfl rfl rfl ?_
      rw [CommandRun.holders_gives hslot hgives]
      simp only [CommandRun.goto, CommandRun.hand]
      by_cases hresult : result = .ok .released
      · have hcount := hreleased hresult
        right
        simp only [hresult, grantedBy, Option.toList_none, List.length_nil] at hcount ⊢
        omega
      · have hcount := hother hresult
        left
        exact ⟨by omega, hresult⟩
  | taken call result client shutdown hgives hadmitted hanswers hends =>
      obtain ⟨hreleased, hother⟩ := ClientCall.receive_unreleased hadmitted
        (fun reply hresult => Option.some.inj
          ((hconserved.gives_kind hdrain hgives reply hresult).symm.trans hanswers.kind))
        run.runtimeId
      refine h.emptied hslot hgives rfl rfl rfl ?_
      rw [CommandRun.holders_gives hslot hgives]
      simp only [CommandRun.goto, CommandRun.hand]
      by_cases hresult : result = .ok .released
      · have hcount := hreleased hresult
        right
        simp only [hresult, grantedBy, Option.toList_none, List.length_nil] at hcount ⊢
        omega
      · have hcount := hother hresult
        left
        exact ⟨by omega, hresult⟩
  | keepFrozen descriptor hgives hkind =>
      have hnone : run.memory.recoveredFrozen = none := by
        cases hsome : run.memory.recoveredFrozen with
        | none => rfl
        | some kept =>
            have hidle := hmemory.frozen (by simp [hsome])
            rw [hgives.state] at hidle
            cases hidle
      refine h.emptied hslot hgives rfl rfl rfl (.inl ⟨?_, by simp⟩)
      rw [CommandRun.holders_gives hslot hgives]
      simp [hnone, grantedBy]
  | keepClear report call client shutdown hgives hkind hgoes =>
      refine h.emptied hslot hgives rfl rfl rfl (.inl ⟨?_, by simp⟩)
      rw [CommandRun.holders_gives hslot hgives]
      rfl
  | discard result call client shutdown hgives hcarries hgoes =>
      have hnot : carries result = false := by
        cases hresult : result with
        | error e => rfl
        | ok reply =>
            rw [← hresult]
            exact hcarries reply hresult (hconserved.gives_kind hdrain hgives reply hresult)
      have hnone : grantedBy result = none := by
        unfold grantedBy
        split
        · cases hnot
        · rfl
      refine h.emptied hslot hgives rfl rfl rfl (.inl ⟨?_, ?_⟩)
      · rw [CommandRun.holders_gives hslot hgives, hnone]
        rfl
      · rintro rfl
        cases hnot
  | begin call hidle hready =>
      have hfits := hslot.fits
      simp only [CommandRun.Fits, hidle] at hfits
      have hold : run.inFlight = [] := CommandRun.inFlight_nil hfits.1.ne_publish (by simp [hidle])
      have hnew : CommandRun.inFlight { run with
          cell := { run.cell with
            state := .preparing, kind := some call.kind, abandoned := false }
          client := .load call } = [] :=
        CommandRun.inFlight_nil hfits.1.ne_publish (by simp)
      refine h.keep ?_ (hnew.trans hold.symm) rfl fun _ hprep => absurd rfl hprep
      simp only [CommandRun.holders, hold, hnew]
  | publish call target command hclient hbuilt =>
      have hat := hslot.at_
      have hfits := hslot.fits
      simp only [CommandRun.At, hclient] at hat
      simp only [CommandRun.Fits, hat.1] at hfits
      have hold : run.inFlight = [] := CommandRun.inFlight_nil hfits.1.ne_publish (by simp [hat.1])
      have hnew : CommandRun.inFlight { run with
          cell := run.cell.publish command target run.log.submissions.length
          client := .reply call
          log := { run.log with
            submissions := run.log.submissions ++ [⟨command, target, run.log.head⟩] } } = [] :=
        CommandRun.inFlight_nil hfits.1.ne_publish (by simp [CommandCell.publish])
      refine h.keep ?_ (hnew.trans hold.symm) rfl ?_
      · simp only [CommandRun.holders, hold, hnew]
      · intro _ _ submission hpending index generation hcommand
        obtain rfl : command = submission.command := Option.some.inj hpending.command
        have hkind := hbuilt.kind_eq
        rw [hcommand] at hkind hbuilt
        cases call with
        | release epoch =>
            obtain ⟨frozen, hfound, heq⟩ := hbuilt
            obtain ⟨found, hadmitted, hreleased⟩ := hat.2.2.admitted epoch rfl
            obtain rfl := Option.some.inj (hadmitted.symm.trans hfound)
            obtain ⟨rfl, rfl⟩ := WorkerCommand.release.inj heq
            exact ⟨found, List.mem_of_getElem? hfound, hreleased, rfl, rfl⟩
        | _ => cases hkind
  | abandon epochs hstate hepochs =>
      refine h.keep ?_ rfl rfl ?_
      · simp only [CommandRun.holders, unreleased_of_map_eq hepochs]
        rfl
      · intro hidle hprep submission hpending index generation hcommand
        obtain ⟨frozen, hmem, hreleased, hindex, hgeneration⟩ := h.release hidle hprep submission
          ⟨hpending.found, hpending.last, hpending.command, hpending.target, hpending.kind⟩ index
          generation hcommand
        have hmem' : (frozen.descriptor, frozen.released) ∈
            epochs.map fun frozen => (frozen.descriptor, frozen.released) := by
          rw [hepochs]
          exact List.mem_map_of_mem hmem
        obtain ⟨frozen', hin, heq⟩ := List.mem_map.mp hmem'
        obtain ⟨hdescriptor, hflag⟩ := Prod.mk.inj heq
        exact ⟨frozen', hin, hflag.trans hreleased, hdescriptor ▸ hindex,
          hdescriptor ▸ hgeneration⟩

theorem ArenaRun.Inv.consume_frozen {run : ArenaRun α} (h : run.Inv) (now : ℕ) :
    (run.consume now).worker.frozen = run.worker.frozen := by
  rcases h.consume_cases now with
    ⟨block, -, -, heq⟩ | ⟨consumed, frames, -, hblock, hframes, -, heq⟩
  · rw [heq]
  · have hfits : run.block.length / run.worker.cfg.ring.channels ≤ run.worker.cfg.slotFrames := by
      rw [hblock, ArenaRun.channels, Nat.mul_div_cancel _ h.tracks.inv.channels_pos]
      exact hframes
    simp only [heq, ArenaRun.deliver]
    rcases h.tracks.inv.consumeSamples_cases run.ingress.consume.queue.counters now hfits with
      ⟨dropped, fault, hworker⟩ | ⟨ring, -, -, -, -, hworker⟩ <;> rw [hworker]

/-- An epoch is granted only when none is frozen, and none stays frozen only
when one is released. -/
theorem WorkerState.Executed.frozen_cases {worker worker' : WorkerState α}
    {command : WorkerCommand} {result : Result WorkerReply}
    (h : worker.Executed command result worker') :
    result = .ok .released ∧ grantedBy result = none ∨
    (∃ descriptor, grantedBy result = some descriptor) ∧ worker.frozen = none ∧
      worker'.frozen ≠ none ∨
    grantedBy result = none ∧ worker'.frozen = worker.frozen := by
  cases h with
  | same _ result hneutral hfrozen =>
      right
      right
      refine ⟨?_, rfl⟩
      unfold grantedBy
      split
      · cases hneutral none
      · rfl
  | switched committedStart ring droppedFrames lastOverrun hnone => exact .inr (.inr ⟨rfl, rfl⟩)
  | frozen committedStart ring droppedFrames lastOverrun start hnone =>
      exact .inr (.inl ⟨⟨_, rfl⟩, hnone, by simp⟩)
  | released => exact .inl ⟨rfl, rfl⟩
  | cleared => exact .inr (.inr ⟨rfl, rfl⟩)

theorem CommandRun.Held.work (h : run.Held) (hdrain : run.Drain) {now : ℕ}
    {run' : CommandRun α} (hwork : run.Work now run') : run'.Held := by
  have hslot := hdrain.slot
  have hsame : ∀ loop : LoopPc, (∀ command result, run.loop ≠ .publish command result) →
      (∀ command result, loop ≠ .publish command result) →
      CommandRun.Held { run with loop } := by
    intro loop hold hnew
    have hinFlight := CommandRun.inFlight_roam hold hnew
    refine h.keep ?_ hinFlight rfl h.release
    simp only [CommandRun.holders, hinFlight]
  cases hwork with
  | roam loop haway hconsume hloop => exact hsame loop haway.ne_publish hloop.ne_publish
  | poll hloop hready => exact hsame _ (by simp [hloop]) (by simp)
  | back loaded hloop hbehind => exact hsame _ (by simp [hloop]) (by simp)
  | drained loaded hloop hdrained => exact hsame _ (by simp [hloop]) (by simp)
  | consume hloop =>
      have hheld := hsame
        (if (run.arena.consume now).ingress.consumer = .idle then .top else .consume)
        (by simp [hloop]) (by intro command result; split <;> simp)
      exact hheld.keep rfl rfl (hdrain.arena.consume_frozen now) hheld.release
  | take submission hloop hpending hready hlength =>
      have hold : run.inFlight = [] :=
        CommandRun.inFlight_nil (by simp [hloop]) (by simp [hready])
      have hnew : CommandRun.inFlight { run with
          cell := { run.cell with state := .processing }
          loop := .process submission.command } = [] :=
        CommandRun.inFlight_nil (by simp) (by simp)
      refine h.keep ?_ (hnew.trans hold.symm) rfl ?_
      · simp only [CommandRun.holders, hold, hnew]
      · intro _ _ other hother
        exact h.release (by simp [hready]) (by simp [hready]) other
          ⟨hother.found, hother.last, hother.command, hother.target, hother.kind⟩
  | process submission hloop hpending hstate hlength =>
      have hold : run.inFlight = [] :=
        CommandRun.inFlight_nil (by simp [hloop]) (by simp [hstate])
      have honce := h.once
      have hfrozen := h.frozen
      simp only [CommandRun.holders, hold, List.filterMap_nil, List.length_nil] at honce hfrozen
      have hbefore : 0 < (unreleased run.epochs).length +
          run.memory.recoveredFrozen.toList.length → run.arena.worker.frozen ≠ none := by
        intro hpos
        rcases hfrozen hpos with hfrozen | ⟨number, hmem⟩
        · exact hfrozen
        · simp at hmem
      have hexec := hdrain.arena.tracks.inv.executed run.arena.ingress.queue.counters
        submission.command
      have hworker : (run.arena.execute submission.command).worker =
        (run.arena.worker.processCommand run.arena.ingress.queue.counters
          submission.command).2 := rfl
      generalize hresult : (run.arena.worker.processCommand run.arena.ingress.queue.counters
        submission.command).1 = result at hexec
      have hrelease : ∀ other, run.Pending other → ∀ index generation,
          other.command = .release index generation →
          ∃ frozen ∈ run.epochs, frozen.released = false ∧
            frozen.descriptor.index = index ∧ frozen.descriptor.generation = generation :=
        h.release (by simp [hstate]) (by simp [hstate])
      rcases hexec.frozen_cases with ⟨hreleased, hnone⟩ | ⟨⟨descriptor, hgranted⟩, hfree, hnow⟩ |
        ⟨hnone, hkept⟩
      · refine ⟨?_, fun _ => .inr ⟨run.cell.number, ?_⟩, fun _ _ => hrelease⟩
        · simpa [CommandRun.holders, CommandRun.inFlight, hnone] using honce
        · simp [CommandRun.inFlight, hreleased]
      · have hzero : (unreleased run.epochs).length +
            run.memory.recoveredFrozen.toList.length = 0 := by
          by_contra hpos
          exact hbefore (Nat.pos_of_ne_zero hpos) hfree
        refine ⟨?_, fun _ => .inl (hworker ▸ hnow), fun _ _ => hrelease⟩
        simp only [CommandRun.holders, CommandRun.inFlight, List.filterMap_cons, hgranted,
          List.filterMap_nil, List.length_singleton]
        omega
      · refine ⟨?_, fun hpos => .inl ?_, fun _ _ => hrelease⟩
        · simpa [CommandRun.holders, CommandRun.inFlight, hnone] using honce
        · simp only [CommandRun.holders, CommandRun.inFlight, List.filterMap_cons, hnone,
            List.filterMap_nil, List.length_nil] at hpos
          rw [hworker, hkept]
          exact hbefore hpos
  | publish submission result loop hloop hpending hstate hlength haway hconsume =>
      have hinFlight := CommandRun.inFlight_published hloop haway
      refine h.keep ?_ hinFlight rfl ?_
      · simp only [CommandRun.holders, hinFlight]
      · intro _ _ other hother
        exact h.release (by simp [hstate]) (by simp [hstate]) other
          ⟨hother.found, hother.last, hother.command, hother.target, hother.kind⟩

end Held

/-! ### Who gets a result -/

/-- The delivery is to a call that the result of `submission` is meant for. -/
structure Delivery.Matches (delivery : Delivery) (epochs : List FrozenCaptureEpoch)
    (submission : Submission α) : Prop where
  kind : delivery.call.kind = submission.command.kind
  clear : ∀ report, delivery.result = .ok (.cleared report) → delivery.call.Identifies report
  release : ∀ index generation, submission.command = .release index generation →
    ∃ epoch frozen, delivery.call = .release epoch ∧ epochs[epoch]? = some frozen ∧
      frozen.descriptor.index = index ∧ frozen.descriptor.generation = generation

theorem Delivery.Matches.mono {delivery : Delivery} {epochs epochs' : List FrozenCaptureEpoch}
    {submission : Submission α} (h : delivery.Matches epochs submission)
    (hkept : EpochsKept epochs epochs') : delivery.Matches epochs' submission := by
  refine ⟨h.kind, h.clear, fun index generation hcommand => ?_⟩
  obtain ⟨epoch, frozen, hcall, hfound, hindex, hgeneration⟩ := h.release index generation hcommand
  obtain ⟨frozen', hfound', hdescriptor⟩ := hkept epoch frozen hfound
  exact ⟨epoch, frozen', hcall, hfound', hdescriptor ▸ hindex, hdescriptor ▸ hgeneration⟩

structure CommandRun.Matched (run : CommandRun α) : Prop where
  delivered : ∀ delivery ∈ run.log.delivered, ∃ submission,
    run.log.submissions[delivery.number]? = some submission ∧
      delivery.Matches run.epochs submission
  discarded : ∀ entry ∈ run.log.discarded, carries entry.2 = false

section Matched

variable {run : CommandRun α}

/-- A call gets the answer of the command it submitted. -/
theorem CommandRun.Conserved.own (h : run.Conserved) (hdrain : run.Drain) {call : ClientCall}
    {result : Result WorkerReply} (hclient : run.client = .reply call)
    (hgives : run.cell.Gives result) :
    ∃ submission, run.log.submissions[run.cell.number]? = some submission ∧
      Delivery.Matches ⟨run.cell.number, call, true, result⟩ run.epochs submission := by
  obtain ⟨submission, hpending, hreplied⟩ := h.gives hdrain hgives
  have hat := hdrain.slot.at_
  simp only [CommandRun.At, hclient] at hat
  obtain ⟨-, -, hkind, hready, other, hother, hbuilt⟩ := hat
  obtain rfl := Option.some.inj (hother.symm.trans hpending.found)
  refine ⟨other, hpending.found, ?_, ?_, ?_⟩
  · exact Option.some.inj (hkind.symm.trans hpending.kind)
  · intro report hresult
    obtain ⟨-, hreport⟩ := hreplied _ hresult
    obtain ⟨dropped, accounting, hcommand, hreports⟩ := hreport report rfl
    have hcall := hbuilt.kind_eq
    rw [hcommand] at hcall hbuilt
    cases call with
    | clear asked =>
        obtain ⟨dropped', heq⟩ := hbuilt
        obtain ⟨-, rfl⟩ := WorkerCommand.clear.inj heq
        exact ⟨hreports.arenaRuntimeId.symm, hreports.coordinatorId.symm, hreports.clearId.symm⟩
    | recoverClear recovery => exact hbuilt.elim
    | _ => cases hcall
  · intro index generation hcommand
    have hcall := hbuilt.kind_eq
    rw [hcommand] at hcall hbuilt
    cases call with
    | release epoch =>
        obtain ⟨frozen, hfound, heq⟩ := hbuilt
        obtain ⟨rfl, rfl⟩ := WorkerCommand.release.inj heq
        exact ⟨epoch, frozen, rfl, hfound, rfl, rfl⟩
    | _ => cases hcall

/-- A call gets the answer of an abandoned command of its kind. -/
theorem CommandRun.Held.taken (h : run.Held) (hdrain : run.Drain) (hconserved : run.Conserved)
    {call : ClientCall} {result : Result WorkerReply} (hgives : run.cell.Gives result)
    (hadmitted : call.Admitted run.epochs) (hanswers : run.cell.Answers call result) :
    ∃ submission, run.log.submissions[run.cell.number]? = some submission ∧
      Delivery.Matches ⟨run.cell.number, call, false, result⟩ run.epochs submission := by
  obtain ⟨submission, hpending, hreplied⟩ := hconserved.gives hdrain hgives
  have hkind : call.kind = submission.command.kind :=
    Option.some.inj (hanswers.kind.symm.trans hpending.kind)
  refine ⟨submission, hpending.found, hkind, ?_, ?_⟩
  · intro report hresult
    obtain ⟨recovery, rfl, hmatches⟩ := hanswers.clear report hresult
      (hconserved.gives_kind hdrain hgives _ hresult)
    exact hmatches
  · intro index generation hcommand
    rw [hcommand] at hkind
    cases call with
    | release epoch =>
        -- both the epoch of the call and that of the command are not released yet
        obtain ⟨frozen, hfound, hreleased⟩ := hadmitted epoch rfl
        obtain ⟨frozen', hmem, hreleased', hindex, hgeneration⟩ :=
          h.release (by simp [hgives.state]) (by simp [hgives.state]) submission hpending index
            generation hcommand
        have honce : (unreleased run.epochs).length ≤ 1 := by
          have := h.once
          simp only [CommandRun.holders] at this
          omega
        obtain rfl := unreleased_unique honce (List.mem_of_getElem? hfound) hreleased hmem
          hreleased'
        exact ⟨epoch, frozen, rfl, hfound, hindex, hgeneration⟩
    | _ => cases hkind

/-- A recovered result is of the kind it is kept as. -/
theorem CommandRun.Conserved.recovered_kind (h : run.Conserved) (hdrain : run.Drain) {number : ℕ}
    {reply : WorkerReply} (hmem : (number, .ok reply) ∈ run.recovered) :
    ∃ submission, run.log.submissions[number]? = some submission ∧
      submission.command.kind = reply.kind := by
  have hplace : (number, .ok reply) ∈ run.places :=
    List.mem_append_left _ (List.mem_append_right _ hmem)
  obtain ⟨submission, hfound, hreplied⟩ := h.replied hdrain hplace
  exact ⟨submission, hfound, (hreplied reply rfl).1.symm⟩

/-- One more delivery. -/
theorem CommandRun.Matched.hand (h : run.Matched) {run' : CommandRun α} {delivery : Delivery}
    (hdelivered : run'.log.delivered = run.log.delivered ++ [delivery])
    (hdiscarded : run'.log.discarded = run.log.discarded)
    (hsubmissions : run'.log.submissions = run.log.submissions)
    (hkept : EpochsKept run.epochs run'.epochs)
    (hmatches : ∃ submission, run.log.submissions[delivery.number]? = some submission ∧
      delivery.Matches run.epochs submission) : run'.Matched := by
  refine ⟨fun other hother => ?_, hdiscarded ▸ h.discarded⟩
  rw [hdelivered] at hother
  rw [hsubmissions]
  rcases List.mem_append.mp hother with hold | hnew
  · obtain ⟨submission, hfound, hold⟩ := h.delivered other hold
    exact ⟨submission, hfound, hold.mono hkept⟩
  · rw [List.mem_singleton.mp hnew]
    obtain ⟨submission, hfound, hnew⟩ := hmatches
    exact ⟨submission, hfound, hnew.mono hkept⟩

theorem CommandRun.Matched.turn (h : run.Matched) (hdrain : run.Drain)
    (hconserved : run.Conserved) (hheld : run.Held) {run' : CommandRun α}
    (hturn : run.Turn run') : run'.Matched := by
  have hkept := hturn.epochs_kept
  cases hturn with
  | move => exact ⟨h.delivered, h.discarded⟩
  | load => exact ⟨h.delivered, h.discarded⟩
  | begin => exact ⟨h.delivered, h.discarded⟩
  | keepFrozen => exact ⟨h.delivered, h.discarded⟩
  | keepClear => exact ⟨h.delivered, h.discarded⟩
  | recallFrozen number descriptor call client shutdown hrecovered hcall hfree hends =>
      obtain ⟨submission, hfound, hkind⟩ := hconserved.recovered_kind hdrain
        (show (number, .ok (.frozen (some descriptor))) ∈ run.recovered by
          simp [CommandRun.recovered, hrecovered])
      refine h.hand rfl rfl rfl hkept ⟨submission, hfound, hcall.trans hkind.symm, by simp, ?_⟩
      intro index generation hcommand
      rw [hcommand] at hkind
      cases hkind
  | recallClear number report recovery client shutdown hrecovered hmatches hfree hends =>
      obtain ⟨submission, hfound, hkind⟩ := hconserved.recovered_kind hdrain
        (show (number, .ok (.cleared report)) ∈ run.recovered by
          simp [CommandRun.recovered, hrecovered])
      refine h.hand rfl rfl rfl hkept ⟨submission, hfound, hkind.symm, ?_, ?_⟩
      · rintro _ ⟨⟩
        exact hmatches
      · intro index generation hcommand
        rw [hcommand] at hkind
        cases hkind
  | own call result client shutdown hclient hgives hends =>
      exact h.hand rfl rfl rfl hkept (hconserved.own hdrain hclient hgives)
  | taken call result client shutdown hgives hadmitted hanswers hends =>
      exact h.hand rfl rfl rfl hkept (hheld.taken hdrain hconserved hgives hadmitted hanswers)
  | discard result call client shutdown hgives hcarries hgoes =>
      refine ⟨h.delivered, fun entry hentry => ?_⟩
      rcases List.mem_append.mp hentry with hold | hnew
      · exact h.discarded entry hold
      · rw [List.mem_singleton.mp hnew]
        cases hresult : result with
        | error e => rfl
        | ok reply =>
            rw [← hresult]
            exact hcarries reply hresult (hconserved.gives_kind hdrain hgives reply hresult)
  | publish call target command hclient hbuilt =>
      refine ⟨fun delivery hdelivery => ?_, h.discarded⟩
      obtain ⟨submission, hfound, hmatches⟩ := h.delivered delivery hdelivery
      refine ⟨submission, ?_, hmatches⟩
      rw [List.getElem?_append_left (List.getElem?_eq_some_iff.mp hfound).1]
      exact hfound
  | abandon epochs hstate hepochs =>
      refine ⟨fun delivery hdelivery => ?_, h.discarded⟩
      obtain ⟨submission, hfound, hmatches⟩ := h.delivered delivery hdelivery
      exact ⟨submission, hfound, hmatches.mono hkept⟩

theorem CommandRun.Matched.work (h : run.Matched) {now : ℕ} {run' : CommandRun α}
    (hwork : run.Work now run') : run'.Matched := by
  cases hwork <;> exact ⟨h.delivered, h.discarded⟩

end Matched

/-! ### Whole runs -/

structure CommandRun.Inv (run : CommandRun α) : Prop where
  drain : run.Drain
  memory : run.Memory
  conserved : run.Conserved
  held : run.Held
  matched : run.Matched

theorem CommandRun.Inv.start {cfg : ArenaConfig} {zero : α} {worker : WorkerState α}
    (hnew : WorkerState.new cfg zero = .ok worker) (slotCount : ℕ)
    (hpos : 0 < worker.cfg.slotFrames) (runtimeId : ℕ) :
    (CommandRun.start (ArenaRun.start worker slotCount hpos zero) runtimeId).Inv where
  drain := .start hnew slotCount hpos runtimeId
  memory := ⟨by simp [CommandRun.start], by simp [CommandRun.start]⟩
  conserved := .refl _
  held := ⟨Nat.zero_le _, fun hpos => absurd hpos (lt_irrefl 0), fun hidle => absurd rfl hidle⟩
  matched := ⟨by simp [CommandRun.start], by simp [CommandRun.start]⟩

theorem CommandRun.Inv.step {run : CommandRun α} (h : run.Inv) (event : CommandEvent α) :
    (run.step event).Inv := by
  have hdrain := h.drain.step event
  rcases h.drain.slot.step_cases event with ⟨samples, channels, heq⟩ | heq | ⟨now, hwork⟩ | hturn
  · rw [heq] at hdrain ⊢
    exact ⟨hdrain, ⟨h.memory.frozen, h.memory.clear⟩, h.conserved,
      ⟨h.held.once, h.held.frozen, h.held.release⟩, ⟨h.matched.delivered, h.matched.discarded⟩⟩
  · rw [heq] at hdrain ⊢
    exact ⟨hdrain, ⟨h.memory.frozen, h.memory.clear⟩, h.conserved,
      ⟨h.held.once, h.held.frozen, h.held.release⟩, ⟨h.matched.delivered, h.matched.discarded⟩⟩
  · exact ⟨hdrain, h.memory.work hwork, h.conserved.work hwork, h.held.work h.drain hwork,
      h.matched.work hwork⟩
  · exact ⟨hdrain, h.memory.turn h.drain.slot hturn,
      h.conserved.turn h.drain.slot h.memory hturn,
      h.held.turn h.drain h.memory h.conserved hturn,
      h.matched.turn h.drain h.conserved h.held hturn⟩

theorem CommandRun.Inv.steps {run : CommandRun α} (h : run.Inv) (events : List (CommandEvent α)) :
    (run.steps events).Inv :=
  List.foldlRecOn events CommandRun.step h fun _ h event _ => h.step event

/-- The results of the command slot, for every interleaving of calls, timeouts
and worker steps. Every result the worker produced is in one place, no two
deliveries are of one command, and what was dropped carries neither an epoch
nor a report nor a release. A result goes to a call of its kind, a clear report
to a call with its identity, and a release to a release of that epoch. -/
theorem command_results_recovered {cfg : ArenaConfig} {zero : α} {worker₀ : WorkerState α}
    (hnew : WorkerState.new cfg zero = .ok worker₀) (slotCount : ℕ)
    (hpos : 0 < worker₀.cfg.slotFrames) (runtimeId : ℕ) (events : List (CommandEvent α)) :
    let run := (CommandRun.start (ArenaRun.start worker₀ slotCount hpos zero) runtimeId).steps
      events
    (run.log.delivered.map Delivery.number).Nodup ∧
    (run.log.delivered.map (fun delivery => (delivery.number, delivery.result)) ++
      run.log.discarded ++ run.recovered ++ run.inFlight).Perm
      (run.log.executed.map fun execution => (execution.number, execution.result)) ∧
    (∀ entry ∈ run.log.discarded, carries entry.2 = false) ∧
    (∀ delivery ∈ run.log.delivered, ∃ submission,
      run.log.submissions[delivery.number]? = some submission ∧
      delivery.call.kind = submission.command.kind ∧
      (∀ report, delivery.result = .ok (.cleared report) → delivery.call.Identifies report) ∧
      ∀ index generation, submission.command = .release index generation →
        ∃ epoch frozen, delivery.call = .release epoch ∧ run.epochs[epoch]? = some frozen ∧
          frozen.descriptor.index = index ∧ frozen.descriptor.generation = generation) := by
  intro run
  have hinv : run.Inv := (CommandRun.Inv.start hnew slotCount hpos runtimeId).steps events
  refine ⟨?_, hinv.conserved, hinv.matched.discarded, fun delivery hdelivery => ?_⟩
  · have hnumbers : (run.places.map Prod.fst).Nodup := by
      have hperm := hinv.conserved.map Prod.fst
      refine hperm.nodup_iff.mpr ?_
      have heq : run.results.map Prod.fst = run.log.executed.map Execution.number := by
        rw [CommandRun.results, List.map_map]
        rfl
      rw [heq, hinv.drain.slot.numbers]
      exact List.nodup_range
    refine hnumbers.sublist ?_
    simp only [CommandRun.places, CommandRun.settledResults, List.map_append, List.map_map]
    refine List.Sublist.trans ?_ (List.sublist_append_left _ _)
    refine List.Sublist.trans ?_ (List.sublist_append_left _ _)
    exact List.sublist_append_left _ _
  · obtain ⟨submission, hfound, hmatches⟩ := hinv.matched.delivered delivery hdelivery
    exact ⟨submission, hfound, hmatches.kind, hmatches.clear, hmatches.release⟩

/-- A freeze whose client gives up before the worker is done, and a second one
that gets its result. -/
def freezeRecovered : List (CommandEvent ℕ) :=
  .push [7, 8] 1 :: List.replicate 12 .producer ++ .call (.freeze none) ::
    List.replicate 4 .client ++ [.timeout] ++ List.replicate 18 (.worker 0) ++
    .call (.freeze none) :: List.replicate 3 .client

theorem command_results_recovered_two :
    ∃ worker₀, WorkerState.new smallArena (0 : ℕ) = .ok worker₀ ∧
      ∃ hpos : 0 < worker₀.cfg.slotFrames,
        let run := (CommandRun.start (ArenaRun.start worker₀ 4 hpos 0) 1).steps freezeRecovered
        run.log.delivered.length = 1 ∧ run.epochs.length = 1 ∧
        (run.log.delivered.map Delivery.number).Nodup := by
  refine ⟨_, rfl, by decide, by decide +kernel, by decide +kernel, ?_⟩
  exact (@command_results_recovered ℕ smallArena 0 _ rfl 4 (by decide) 1 freezeRecovered).1

end Lamb.Arena
