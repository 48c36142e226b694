import Lamb.Arena.Client

/-!
What travels through the command slot. A command or reply that concerns a
frozen epoch or a clear is somewhere between the client and the worker; this
module says what the coordinator may rely on when it gets it back, whatever
timed out on the way.
-/

namespace Lamb.Arena

open Lamb.Ring Lamb.Lib

variable {α : Type}

/-- What a coordinator has asked for: where its cursor stands, whether it may
be waiting for a freeze, and which clear accountings are its own. -/
structure Custody where
  committed : Option ℕ
  awaitsFreeze : Prop
  owned : CaptureClearAccounting → Prop

/-- A descriptor that continues the cursor of the coordinator. -/
def Custody.Grants (custody : Custody) (head : ℕ) (descriptor : FrozenDescriptor) : Prop :=
  custody.committed.getD 0 ≤ descriptor.absoluteRange.start ∧
    descriptor.absoluteRange.start < descriptor.absoluteRange.stop ∧
    descriptor.absoluteRange.stop ≤ head

/-- A report of a clear that the coordinator has asked for. -/
def Custody.Clears (custody : Custody) (head : ℕ) (report : CaptureClearReport) : Prop :=
  ∃ accounting, custody.owned accounting ∧ report.Reports accounting ∧
    report.activeAbsoluteRange.stop ≤ head ∧
    accounting.expectedActiveStart ≤ report.activeAbsoluteRange.stop

def Custody.Sends (custody : Custody) (head : ℕ) (command : WorkerCommand) : Prop :=
  match command with
  | .freeze committedStart => custody.awaitsFreeze ∧ committedStart = custody.committed
  | .clear _ accounting => custody.owned accounting ∧ accounting.expectedActiveStart ≤ head
  | _ => True

def CommandSlot.Carries (slot : CommandSlot) (custody : Custody) (head : ℕ) : Prop :=
  match slot with
  | .idle => True
  | .ready command => custody.Sends head command
  | .resultReady command result =>
      custody.Sends head command ∧ ∀ reply, result = .ok reply → reply.Answers command head

structure CaptureArena.Carries (arena : CaptureArena α) (custody : Custody) : Prop where
  worker : arena.worker.Inv
  slot : arena.slot.Carries custody arena.worker.absoluteHead
  frozen : ∀ descriptor, arena.recoveredFrozen = some descriptor →
    custody.awaitsFreeze ∧ custody.Grants arena.worker.absoluteHead descriptor ∧
      arena.slot = .idle ∧ arena.recoveredClear = none
  clear : ∀ report, arena.recoveredClear = some report →
    custody.Clears arena.worker.absoluteHead report ∧ arena.slot = .idle

/-- Nothing is on its way. -/
structure CaptureArena.Quiet (arena : CaptureArena α) : Prop where
  worker : arena.worker.Inv
  slot : arena.slot = .idle
  frozen : arena.recoveredFrozen = none
  clear : arena.recoveredClear = none

/-- What only grows while other threads run. -/
structure CaptureArena.Later (arena arena' : CaptureArena α) : Prop where
  worker : arena.worker.Advanced arena'.worker
  queue : arena.queue.Le arena'.queue
  runtimeId : arena'.runtimeId = arena.runtimeId

theorem CaptureArena.Later.refl (arena : CaptureArena α) : arena.Later arena :=
  ⟨.refl _, Nat.le_refl _, rfl⟩

theorem CaptureArena.Later.trans {arena arena' arena'' : CaptureArena α}
    (h : arena.Later arena') (h' : arena'.Later arena'') : arena.Later arena'' :=
  ⟨h.worker.trans h'.worker, Nat.le_trans h.queue h'.queue, h'.runtimeId.trans h.runtimeId⟩

/-! ### Monotonicity -/

section Mono

variable {custody : Custody} {head head' : ℕ}

theorem Custody.Grants.mono {descriptor : FrozenDescriptor} (h : custody.Grants head descriptor)
    (hle : head ≤ head') : custody.Grants head' descriptor :=
  ⟨h.1, h.2.1, h.2.2.trans hle⟩

theorem Custody.Clears.mono {report : CaptureClearReport} (h : custody.Clears head report)
    (hle : head ≤ head') : custody.Clears head' report := by
  obtain ⟨accounting, howned, hreports, hstop, hexpected⟩ := h
  exact ⟨accounting, howned, hreports, hstop.trans hle, hexpected⟩

theorem Custody.Sends.mono {command : WorkerCommand} (h : custody.Sends head command)
    (hle : head ≤ head') : custody.Sends head' command := by
  cases command with
  | freeze committedStart => exact h
  | release index generation => trivial
  | clear ingress accounting => exact ⟨h.1, h.2.trans hle⟩
  | status => trivial
  | shutdown => trivial

theorem Custody.Sends.sane {command : WorkerCommand} (h : custody.Sends head command) :
    command.Sane head := by
  cases command with
  | clear ingress accounting => exact h.2
  | freeze committedStart => trivial
  | release index generation => trivial
  | status => trivial
  | shutdown => trivial

theorem WorkerReply.Answers.mono {reply : WorkerReply} {command : WorkerCommand}
    (h : reply.Answers command head) (hle : head ≤ head') : reply.Answers command head' := by
  unfold WorkerReply.Answers at h ⊢
  split at h
  · intro frozen hfrozen
    obtain ⟨hlow, hlt, hstop⟩ := h frozen hfrozen
    exact ⟨hlow, hlt, hstop.trans hle⟩
  · trivial
  · exact ⟨h.1, h.2.1.trans hle, h.2.2⟩
  · trivial
  · trivial
  · exact h

theorem CommandSlot.Carries.mono {slot : CommandSlot} (h : slot.Carries custody head)
    (hle : head ≤ head') : slot.Carries custody head' := by
  cases slot with
  | idle => trivial
  | ready command => exact Custody.Sends.mono h hle
  | resultReady command result =>
      exact ⟨h.1.mono hle, fun reply hreply => (h.2 reply hreply).mono hle⟩

end Mono

theorem CaptureArena.Quiet.carries {arena : CaptureArena α} (h : arena.Quiet)
    (custody : Custody) : arena.Carries custody where
  worker := h.worker
  slot := by
    rw [h.slot]
    trivial
  frozen descriptor hfrozen := by
    rw [h.frozen] at hfrozen
    cases hfrozen
  clear report hclear := by
    rw [h.clear] at hclear
    cases hclear

theorem CaptureArena.Quiet.new {runtimeId : ℕ} {cfg : ArenaConfig} {zero : α}
    {arena : CaptureArena α} (hnew : CaptureArena.new runtimeId cfg zero = .ok arena) :
    arena.Quiet := by
  unfold CaptureArena.new at hnew
  cases hworker : WorkerState.new cfg zero with
  | error e =>
      rw [hworker] at hnew
      cases hnew
  | ok worker =>
      rw [hworker] at hnew
      obtain rfl := Except.ok.inj hnew
      exact ⟨.new hworker, rfl, rfl, rfl⟩

/-- The same slot, read for a coordinator that has moved on: it still waits for
any freeze on its way, and still owns every clear. -/
theorem CaptureArena.Carries.transfer {arena : CaptureArena α} {custody custody' : Custody}
    (h : arena.Carries custody)
    (hawaits : custody.awaitsFreeze →
      custody'.awaitsFreeze ∧ custody'.committed = custody.committed)
    (howned : ∀ accounting, custody.owned accounting → custody'.owned accounting) :
    arena.Carries custody' := by
  have hsends : ∀ {head command}, custody.Sends head command → custody'.Sends head command := by
    intro head command hsends
    cases command with
    | freeze committedStart =>
        obtain ⟨hawaits', hcommitted⟩ := hawaits hsends.1
        exact ⟨hawaits', hsends.2.trans hcommitted.symm⟩
    | clear ingress accounting => exact ⟨howned _ hsends.1, hsends.2⟩
    | release index generation => trivial
    | status => trivial
    | shutdown => trivial
  refine ⟨h.worker, ?_, fun descriptor hfrozen => ?_, fun report hclear => ?_⟩
  · have hslot := h.slot
    generalize arena.slot = slot at hslot ⊢
    cases slot with
    | idle => trivial
    | ready command => exact hsends hslot
    | resultReady command result => exact ⟨hsends hslot.1, hslot.2⟩
  · obtain ⟨hawaits₀, hgrants, hrest⟩ := h.frozen descriptor hfrozen
    obtain ⟨hawaits', hcommitted⟩ := hawaits hawaits₀
    refine ⟨hawaits', ?_, hrest⟩
    unfold Custody.Grants
    rw [hcommitted]
    exact hgrants
  · obtain ⟨⟨accounting, howned₀, hrest⟩, hslot⟩ := h.clear report hclear
    exact ⟨⟨accounting, howned _ howned₀, hrest⟩, hslot⟩

/-! ### Other threads -/

section Events

variable {custody : Custody} {arena : CaptureArena α}

/-- A step of another thread that leaves the slot and the kept replies alone. -/
theorem CaptureArena.Carries.of_worker (h : arena.Carries custody) {worker : WorkerState α}
    (hinv : worker.Inv) (hhead : arena.worker.absoluteHead ≤ worker.absoluteHead)
    (queue : DropCounters) : CaptureArena.Carries { arena with worker, queue } custody where
  worker := hinv
  slot := h.slot.mono hhead
  frozen descriptor hfrozen := by
    obtain ⟨hidle, hgrants, hrest⟩ := h.frozen descriptor hfrozen
    exact ⟨hidle, hgrants.mono hhead, hrest⟩
  clear report hclear := by
    obtain ⟨hclears, hslot⟩ := h.clear report hclear
    exact ⟨hclears.mono hhead, hslot⟩

theorem CaptureArena.Carries.event (h : arena.Carries custody) (event : ArenaEvent α) :
    (arena.event event).Carries custody ∧ arena.Later (arena.event event) := by
  cases event with
  | consume now samples =>
      simp only [CaptureArena.event]
      split
      · rename_i hblock
        obtain ⟨hinv, hadvanced⟩ := h.worker.consumeSamples arena.queue now hblock.2
        exact ⟨h.of_worker hinv hadvanced.head _,
          hadvanced, arena.worker.le_consumeSamples _ _ _, rfl⟩
      · exact ⟨h, .refl arena⟩
  | execute =>
      simp only [CaptureArena.event]
      split
      · rename_i command hslot
        have hsends : custody.Sends arena.worker.absoluteHead command := by
          have := h.slot
          rw [hslot] at this
          exact this
        obtain ⟨hinv, hcfg, hhead, hanswers⟩ := h.worker.processCommand arena.queue hsends.sane
        refine ⟨⟨hinv, ?_, fun descriptor hfrozen => ?_, fun report hclear => ?_⟩,
          ⟨hcfg, hhead.ge⟩, Nat.le_refl _, rfl⟩
        · refine ⟨?_, fun reply hreply => ?_⟩
          · simp only [hhead]
            exact hsends
          · simp only [hhead]
            exact hanswers reply hreply
        · have hidle := (h.frozen descriptor hfrozen).2.2.1
          rw [hslot] at hidle
          cases hidle
        · have hidle := (h.clear report hclear).2
          rw [hslot] at hidle
          cases hidle
      · exact ⟨h, .refl arena⟩
  | enqueue frames =>
      simp only [CaptureArena.event]
      split
      · exact ⟨h, .refl arena⟩
      · exact ⟨h.of_worker h.worker le_rfl _, .refl _, Nat.le_refl _, rfl⟩
  | drop frames =>
      have hle := arena.queue.le_addCumulativeDroppedFrames frames
      simp only [CaptureArena.event]
      split
      · exact ⟨h, .refl arena⟩
      · generalize arena.queue.addCumulativeDroppedFrames frames = added at hle
        obtain ⟨_ | _, queue⟩ := added
        · exact ⟨h.of_worker h.worker le_rfl _, .refl _, hle, rfl⟩
        · exact ⟨h.of_worker h.worker le_rfl _, .refl _, hle, rfl⟩
  | dropDone =>
      simp only [CaptureArena.event]
      split
      · exact ⟨h, .refl arena⟩
      · rename_i frames hpending
        exact ⟨h.of_worker h.worker le_rfl _, .refl _,
          arena.queue.le_addIngressDroppedFrames frames, rfl⟩

/-- Other threads never touch the kept replies. -/
theorem CaptureArena.event_kept (arena : CaptureArena α) (event : ArenaEvent α) :
    (arena.event event).recoveredFrozen = arena.recoveredFrozen ∧
      (arena.event event).recoveredClear = arena.recoveredClear := by
  cases event with
  | consume now samples =>
      simp only [CaptureArena.event]
      split <;> exact ⟨rfl, rfl⟩
  | execute =>
      simp only [CaptureArena.event]
      split <;> exact ⟨rfl, rfl⟩
  | enqueue frames =>
      simp only [CaptureArena.event]
      split <;> exact ⟨rfl, rfl⟩
  | drop frames =>
      simp only [CaptureArena.event]
      split
      · exact ⟨rfl, rfl⟩
      · split <;> exact ⟨rfl, rfl⟩
  | dropDone =>
      simp only [CaptureArena.event]
      split <;> exact ⟨rfl, rfl⟩

theorem CaptureArena.Carries.events (h : arena.Carries custody) (events : List (ArenaEvent α)) :
    (arena.events events).Carries custody ∧ arena.Later (arena.events events) := by
  induction events generalizing arena with
  | nil => exact ⟨h, .refl arena⟩
  | cons event events ih =>
      obtain ⟨hcarries, hlater⟩ := h.event event
      obtain ⟨hcarries', hlater'⟩ := ih hcarries
      exact ⟨hcarries', hlater.trans hlater'⟩

theorem CaptureArena.events_kept (arena : CaptureArena α) (events : List (ArenaEvent α)) :
    (arena.events events).recoveredFrozen = arena.recoveredFrozen ∧
      (arena.events events).recoveredClear = arena.recoveredClear := by
  induction events generalizing arena with
  | nil => exact ⟨rfl, rfl⟩
  | cons event events ih =>
      obtain ⟨hfrozen, hclear⟩ := arena.event_kept event
      obtain ⟨hfrozen', hclear'⟩ := ih (arena.event event)
      exact ⟨hfrozen'.trans hfrozen, hclear'.trans hclear⟩

end Events

/-! ### Client calls -/

/-- What a reply hands to the coordinator. -/
def Custody.Delivers (custody : Custody) (head : ℕ) (reply : WorkerReply) : Prop :=
  match reply with
  | .frozen (some descriptor) => custody.Grants head descriptor
  | .cleared report => custody.Clears head report
  | _ => True

theorem Custody.Sends.delivers {custody : Custody} {head : ℕ} {command : WorkerCommand}
    {reply : WorkerReply} (hsends : custody.Sends head command)
    (hanswers : reply.Answers command head) : custody.Delivers head reply := by
  cases command with
  | freeze committedStart =>
      obtain ⟨-, rfl⟩ := hsends
      cases reply with
      | frozen descriptor =>
          cases descriptor with
          | none => trivial
          | some frozen => exact hanswers frozen rfl
      | released => trivial
      | cleared report => exact hanswers.elim
      | status status => trivial
      | shutdown => trivial
  | clear ingress accounting =>
      cases reply with
      | cleared report =>
          obtain ⟨hreports, hstop, hexpected⟩ := hanswers
          exact ⟨accounting, hsends.1, hreports, hstop, hexpected⟩
      | frozen descriptor => exact hanswers.elim
      | released => trivial
      | status status => trivial
      | shutdown => trivial
  | release index generation =>
      cases reply with
      | released => trivial
      | frozen descriptor => exact hanswers.elim
      | cleared report => exact hanswers.elim
      | status status => trivial
      | shutdown => trivial
  | status =>
      cases reply with
      | status status => trivial
      | frozen descriptor => exact hanswers.elim
      | released => trivial
      | cleared report => exact hanswers.elim
      | shutdown => trivial
  | shutdown =>
      cases reply with
      | shutdown => trivial
      | frozen descriptor => exact hanswers.elim
      | released => trivial
      | cleared report => exact hanswers.elim
      | status status => trivial

section Calls

variable {custody : Custody} {arena : CaptureArena α}

/-- Every call may fail, and then everything on its way is still accounted for. -/
def CaptureArena.Kept (arena : CaptureArena α) (custody : Custody) (_ : LambError)
    (arena' : CaptureArena α) : Prop :=
  arena'.Carries custody ∧ arena.Later arena'

/-- A call that got a result has emptied the slot. -/
def CaptureArena.Got (arena : CaptureArena α) (custody : Custody)
    (result : Result WorkerReply) (arena' : CaptureArena α) : Prop :=
  arena'.Quiet ∧ arena.Later arena' ∧
    ∀ reply, result = .ok reply → custody.Delivers arena'.worker.absoluteHead reply

/-- Taking the result that stands in the slot. -/
theorem CaptureArena.Carries.take (h : arena.Carries custody)
    (hfrozen : arena.recoveredFrozen = none) (hclear : arena.recoveredClear = none)
    {command : WorkerCommand} {result : Result WorkerReply}
    (hslot : arena.slot = .resultReady command result) :
    arena.Got custody result { arena with slot := .idle, abandoned := false } := by
  have hcarries := h.slot
  rw [hslot] at hcarries
  refine ⟨⟨h.worker, rfl, hfrozen, hclear⟩, ⟨.refl _, Nat.le_refl _, rfl⟩, ?_⟩
  intro reply hreply
  exact hcarries.1.delivers (hcarries.2 reply hreply)

theorem CaptureArena.Carries.abandon (h : arena.Carries custody) (abandoned : Bool) :
    CaptureArena.Carries { arena with abandoned } custody :=
  ⟨h.worker, h.slot, h.frozen, h.clear⟩

theorem CaptureArena.Carries.waitSlotResult (h : arena.Carries custody)
    (hfrozen : arena.recoveredFrozen = none) (hclear : arena.recoveredClear = none)
    (wait : Wait α) :
    (CaptureArena.waitSlotResult wait).Ends arena (arena.Got custody) (arena.Kept custody) := by
  obtain ⟨hcarries, hlater⟩ := h.events wait.events
  obtain ⟨hkept, hkept'⟩ := arena.events_kept wait.events
  refine CaptureArena.waitSlotResult_ends wait (fun _ _ hready => ?_) (fun _ _ hready => ?_) ?_
  · exact h.take hfrozen hclear hready
  · obtain ⟨hquiet, hlater', hdelivers⟩ :=
      hcarries.take (hkept.trans hfrozen) (hkept'.trans hclear) hready
    exact ⟨hquiet, hlater.trans hlater', hdelivers⟩
  · exact ⟨hcarries.abandon true, hlater.trans ⟨.refl _, Nat.le_refl _, rfl⟩⟩

theorem CaptureArena.Quiet.submitLocked (h : arena.Quiet)
    {command : CaptureArena α → WorkerCommand}
    (hsends : custody.Sends arena.worker.absoluteHead (command arena)) (wait : Wait α) :
    (CaptureArena.submitLocked command wait).Ends arena
      (fun reply => arena.Got custody (.ok reply)) (arena.Kept custody) := by
  have hcarries : CaptureArena.Carries
      { arena with slot := .ready (command arena), abandoned := false } custody := by
    refine ⟨h.worker, hsends, fun descriptor hfrozen => ?_, fun report hclear => ?_⟩
    · rw [h.frozen] at hfrozen
      cases hfrozen
    · rw [h.clear] at hclear
      cases hclear
  have hlater : arena.Later { arena with slot := .ready (command arena), abandoned := false } :=
    ⟨.refl _, Nat.le_refl _, rfl⟩
  refine .bindGet (.bindRequire (fun _ => ⟨h.carries custody, .refl _⟩) fun _ => ?_)
  refine .bindModify (.bind ((hcarries.waitSlotResult h.frozen h.clear wait).mono
    (fun _ _ hgot => hgot) fun _ a hkept => ⟨hkept.1, hlater.trans hkept.2⟩) ?_)
  rintro result a ⟨hquiet, hlater', hdelivers⟩
  refine .ofExcept ?_ ?_
  · rintro reply rfl
    exact ⟨hquiet, hlater.trans hlater', hdelivers⟩
  · rintro e rfl
    exact ⟨hquiet.carries custody, hlater.trans hlater'⟩

/-- Whatever the result of an abandoned command was, it is handed on, kept, or
of no consequence. -/
theorem CaptureArena.Quiet.settleStale (h : arena.Quiet) {stale requested : CommandKind}
    (hrequested : requested ≠ .status) {result : Result WorkerReply}
    (hdelivers : ∀ reply, result = .ok reply →
      custody.Delivers arena.worker.absoluteHead reply)
    (hawaits : ∀ descriptor, result = .ok (.frozen (some descriptor)) →
      stale = .freeze → custody.awaitsFreeze) :
    (CaptureArena.settleStale stale requested result).Ends arena
      (fun recovered arena' => arena'.Quiet ∧ arena.Later arena' ∧
        ∀ result, recovered = some result → arena.Got custody result arena')
      (arena.Kept custody) := by
  have hnone : arena.Quiet ∧ arena.Later arena ∧
      ∀ result, (none : Option (Result WorkerReply)) = some result →
        arena.Got custody result arena := ⟨h, .refl _, by simp⟩
  have hsome : arena.Quiet ∧ arena.Later arena ∧
      ∀ result', some result = some result' → arena.Got custody result' arena := by
    refine ⟨h, .refl _, ?_⟩
    rintro _ ⟨rfl⟩
    exact ⟨h, .refl _, hdelivers⟩
  unfold CaptureArena.settleStale
  cases stale with
  | clear =>
      simp only
      split
      · rename_i report
        refine .bindModify ?_
        rw [if_neg hrequested]
        refine .fail ⟨⟨h.worker, ?_, ?_, ?_⟩, .refl _, Nat.le_refl _, rfl⟩
        · rw [h.slot]
          trivial
        · intro descriptor hfrozen
          rw [h.frozen] at hfrozen
          cases hfrozen
        · intro report' hreport
          obtain rfl := Option.some.inj hreport
          exact ⟨hdelivers _ rfl, h.slot⟩
      · exact .ite (fun _ => .pure hsome) fun _ => .pure hnone
  | freeze =>
      simp only
      split
      · rename_i descriptor
        refine .ite (fun _ => .pure hsome) fun _ => .bindModify (.fail ?_)
        refine ⟨⟨h.worker, ?_, ?_, ?_⟩, .refl _, Nat.le_refl _, rfl⟩
        · rw [h.slot]
          trivial
        · intro descriptor' hdescriptor
          obtain rfl := Option.some.inj hdescriptor
          exact ⟨hawaits _ rfl rfl, hdelivers _ rfl, h.slot, h.clear⟩
        · intro report hclear
          rw [h.clear] at hclear
          cases hclear
      · exact .ite (fun _ => .pure hsome) fun _ => .pure hnone
  | release => exact .pure hsome
  | status => exact .ite (fun _ => .pure hsome) fun _ => .pure hnone
  | shutdown =>
      exact .ite (fun _ => .pure hsome) fun _ => .fail ⟨h.carries custody, .refl _⟩

theorem CaptureArena.Carries.awaitsFreeze (h : arena.Carries custody) {command : WorkerCommand}
    (hslot : arena.slot = .ready command ∨ ∃ result, arena.slot = .resultReady command result)
    (hkind : command.kind = .freeze) : custody.awaitsFreeze := by
  have hsends : custody.Sends arena.worker.absoluteHead command := by
    have hcarries := h.slot
    rcases hslot with hready | ⟨result, hdone⟩
    · rw [hready] at hcarries
      exact hcarries
    · rw [hdone] at hcarries
      exact hcarries.1
  cases command with
  | freeze committedStart => exact hsends.1
  | release index generation => cases hkind
  | clear ingress accounting => cases hkind
  | status => cases hkind
  | shutdown => cases hkind

theorem CaptureArena.Carries.recoverBefore (h : arena.Carries custody) {requested : CommandKind}
    (hrequested : requested ≠ .status) (wait : Wait α) :
    (CaptureArena.recoverBefore requested wait).Ends arena
      (fun recovered arena' => arena'.Quiet ∧ arena.Later arena' ∧
        ∀ result, recovered = some result → arena.Got custody result arena')
      (arena.Kept custody) := by
  have hkept : ∀ e, arena.Kept custody e arena := fun _ => ⟨h, .refl _⟩
  have hnone (hclear : ¬(arena.recoveredClear.isSome ∧ requested ≠ .status)) :
      arena.recoveredClear = none := by
    simpa [hrequested, Option.isSome_iff_ne_none] using hclear
  refine CaptureArena.recoverBefore_ends requested wait hkept ?_ ?_ ?_
  · intro descriptor hclear hfrozen _
    obtain ⟨-, hgrants, hidle, -⟩ := h.frozen descriptor hfrozen
    have hquiet : CaptureArena.Quiet { arena with recoveredFrozen := none } :=
      ⟨h.worker, hidle, rfl, hnone hclear⟩
    have hlater : arena.Later { arena with recoveredFrozen := none } :=
      ⟨.refl _, Nat.le_refl _, rfl⟩
    refine ⟨hquiet, hlater, ?_⟩
    rintro _ ⟨rfl⟩
    refine ⟨hquiet, hlater, ?_⟩
    rintro reply ⟨rfl⟩
    exact hgrants
  · intro hclear hfrozen hslot
    exact ⟨⟨h.worker, hslot, hfrozen, hnone hclear⟩, .refl _, by simp⟩
  · intro command hclear hfrozen hslot _
    refine (h.waitSlotResult hfrozen (hnone hclear) wait).mono ?_ fun _ _ hlost => hlost
    rintro result a ⟨hquiet, hlater, hdelivers⟩
    refine (hquiet.settleStale hrequested hdelivers fun _ _ hkind =>
      h.awaitsFreeze hslot hkind).mono ?_ ?_
    · rintro recovered a' ⟨hquiet', hlater', hgot⟩
      refine ⟨hquiet', hlater.trans hlater', fun result hresult => ?_⟩
      obtain ⟨-, -, hdelivers'⟩ := hgot result hresult
      exact ⟨hquiet', hlater.trans hlater', hdelivers'⟩
    · rintro e a' ⟨hcarries, hlater'⟩
      exact ⟨hcarries, hlater.trans hlater'⟩

theorem CaptureArena.Carries.lockCommandClient (h : arena.Carries custody) (call : Call α) :
    (CaptureArena.lockCommandClient call).Ends arena
      (fun _ arena' => arena'.Carries custody ∧ arena.Later arena') (arena.Kept custody) := by
  have hevents := h.events call.before
  exact .bindModify (.ofExcept (fun _ _ => hevents) fun _ _ => hevents)

theorem CaptureArena.Quiet.recoveredOrSubmit (h : arena.Quiet)
    {recovered : Option (Result WorkerReply)}
    (hgot : ∀ result, recovered = some result → arena.Got custody result arena)
    {command : CaptureArena α → WorkerCommand}
    (hsends : custody.Sends arena.worker.absoluteHead (command arena)) (wait : Wait α) :
    (CaptureArena.recoveredOrSubmit recovered command wait).Ends arena
      (fun result arena' => arena'.Carries custody ∧ arena.Later arena' ∧
        ∀ reply, result = .ok reply → arena.Got custody (.ok reply) arena')
      (arena.Kept custody) := by
  cases recovered with
  | some result =>
      refine .pure ⟨h.carries custody, .refl _, ?_⟩
      rintro reply rfl
      exact hgot _ rfl
  | none =>
      refine .capture ((h.submitLocked hsends wait).mono ?_ ?_)
      · intro reply a hreply
        refine ⟨hreply.1.carries custody, hreply.2.1, ?_⟩
        rintro _ ⟨rfl⟩
        exact hreply
      · rintro e a ⟨hcarries, hlater⟩
        exact ⟨hcarries, hlater, by simp⟩

/-- One spec for every command: what is sent must be fit to be sent whenever
the lock is obtained. -/
theorem CaptureArena.Carries.executeCommand (h : arena.Carries custody) {kind : CommandKind}
    (hkind : kind ≠ .status) {command : CaptureArena α → WorkerCommand}
    (hsends : ∀ arena', arena.Later arena' →
      custody.Sends arena'.worker.absoluteHead (command arena')) (call : Call α) :
    (CaptureArena.executeCommand kind command call).Ends arena
      (fun reply => arena.Got custody (.ok reply)) (arena.Kept custody) := by
  refine .bind (h.lockCommandClient call) ?_
  rintro _ locked ⟨hlocked, hlater⟩
  refine .bind ((hlocked.recoverBefore hkind call.stale).mono (fun _ _ hrecovered => hrecovered)
    fun _ _ hkept => ⟨hkept.1, hlater.trans hkept.2⟩) ?_
  rintro recovered a ⟨hquiet, hlater', hgot⟩
  have hafter := hlater.trans hlater'
  have hgot' : ∀ result, recovered = some result → a.Got custody result a := by
    intro result hresult
    exact ⟨hquiet, .refl _, (hgot result hresult).2.2⟩
  refine .bind ((hquiet.recoveredOrSubmit hgot' (hsends a hafter) call.reply).mono
    (fun _ _ hresult => hresult) fun _ _ hkept => ⟨hkept.1, hafter.trans hkept.2⟩) ?_
  rintro result a' ⟨hcarries, hlater'', hreply⟩
  refine .ofExcept ?_ fun e _ => ⟨hcarries, hafter.trans hlater''⟩
  rintro reply rfl
  obtain ⟨hquiet', -, hdelivers⟩ := hreply reply rfl
  exact ⟨hquiet', hafter.trans hlater'', hdelivers⟩

theorem CaptureArena.Carries.freezeSince (h : arena.Carries custody)
    (hawaits : custody.awaitsFreeze) (call : Call α) :
    (CaptureArena.freezeSince custody.committed call).Ends arena
      (fun frozen arena' => arena'.Quiet ∧ arena.Later arena' ∧
        ∀ epoch, frozen = some epoch →
          custody.Grants arena'.worker.absoluteHead epoch.descriptor)
      (arena.Kept custody) := by
  have hsends : ∀ arena', arena.Later arena' →
      custody.Sends arena'.worker.absoluteHead (.freeze custody.committed) :=
    fun _ _ => ⟨hawaits, rfl⟩
  refine .bind (h.executeCommand (by decide) hsends call) ?_
  rintro reply a ⟨hquiet, hlater, hdelivers⟩
  refine .bindGet ?_
  cases reply with
  | frozen descriptor =>
      refine .pure ⟨hquiet, hlater, ?_⟩
      intro epoch hepoch
      cases descriptor with
      | none => cases hepoch
      | some descriptor =>
          obtain rfl := Option.some.inj hepoch
          exact hdelivers _ rfl
  | released => exact .fail ⟨hquiet.carries custody, hlater⟩
  | cleared report => exact .fail ⟨hquiet.carries custody, hlater⟩
  | status status => exact .fail ⟨hquiet.carries custody, hlater⟩
  | shutdown => exact .fail ⟨hquiet.carries custody, hlater⟩

theorem CaptureArena.Carries.clearActiveAccounted (h : arena.Carries custody)
    {accounting : CaptureClearAccounting} (howned : custody.owned accounting)
    (hexpected : accounting.expectedActiveStart ≤ arena.worker.absoluteHead) (call : Call α) :
    (CaptureArena.clearActiveAccounted accounting call).Ends arena
      (fun report arena' => arena'.Quiet ∧ arena.Later arena' ∧
        custody.Clears arena'.worker.absoluteHead report)
      (arena.Kept custody) := by
  have hsends : ∀ arena', arena.Later arena' → custody.Sends arena'.worker.absoluteHead
      (.clear arena'.queue.droppedFrames accounting) :=
    fun _ hlater => ⟨howned, hexpected.trans hlater.worker.head⟩
  refine .bindGet (.bindRequire (fun _ => ⟨h, .refl _⟩) fun _ => ?_)
  refine .bind (h.executeCommand (by decide) hsends call) ?_
  rintro reply a ⟨hquiet, hlater, hdelivers⟩
  cases reply with
  | cleared report => exact .pure ⟨hquiet, hlater, hdelivers _ rfl⟩
  | frozen descriptor => exact .fail ⟨hquiet.carries custody, hlater⟩
  | released => exact .fail ⟨hquiet.carries custody, hlater⟩
  | status status => exact .fail ⟨hquiet.carries custody, hlater⟩
  | shutdown => exact .fail ⟨hquiet.carries custody, hlater⟩

/-- A release never fails to hand the epoch back, and keeps everything else
on its way. -/
theorem CaptureArena.Carries.releaseFrozen (h : arena.Carries custody)
    (frozen : FrozenCaptureEpoch) (call : Call α) :
    (CaptureArena.releaseFrozen frozen call).Ends arena
      (fun result arena' => arena'.Carries custody ∧ arena.Later arena' ∧
        result.2.descriptor = frozen.descriptor ∧ result.2.runtimeId = frozen.runtimeId)
      (arena.Kept custody) := by
  refine .bindGet (.ite (fun _ => .pure ⟨h, .refl _, rfl, rfl⟩) fun _ =>
    .ite (fun _ => .pure ⟨h, .refl _, rfl, rfl⟩) fun _ => .bindModify ?_)
  obtain ⟨hevents, hlater⟩ := h.events call.before
  cases call.lock.result with
  | error e => exact .pure ⟨hevents, hlater, rfl, rfl⟩
  | ok _ =>
      have hrecovered : (CaptureArena.recoverBefore .release call.stale).capture.Ends
          (arena.events call.before)
          (fun recovered arena' => arena'.Carries custody ∧ arena.Later arena' ∧
            ∀ r, recovered = .ok r → arena'.Quiet ∧
              ∀ result, r = some result → arena'.Got custody result arena')
          (arena.Kept custody) := by
        refine .capture ((hevents.recoverBefore (by decide) call.stale).mono ?_ ?_)
        · rintro recovered a ⟨hquiet, hlater', hgot⟩
          refine ⟨hquiet.carries custody, hlater.trans hlater', ?_⟩
          rintro _ ⟨rfl⟩
          exact ⟨hquiet, fun result hresult => ⟨hquiet, .refl _, (hgot result hresult).2.2⟩⟩
        · rintro e a ⟨hcarries, hlater'⟩
          exact ⟨hcarries, hlater.trans hlater', by simp⟩
      refine .bind hrecovered ?_
      rintro recovered a ⟨hcarries, hlater', hok⟩
      cases recovered with
      | error e => exact .pure ⟨hcarries, hlater', rfl, rfl⟩
      | ok recovered =>
          obtain ⟨hquiet, hgot⟩ := hok recovered rfl
          have hsends : custody.Sends a.worker.absoluteHead
              (.release frozen.descriptor.index frozen.descriptor.generation) := trivial
          refine .bind ((hquiet.recoveredOrSubmit hgot hsends call.reply).mono
            (fun _ _ hresult => hresult) fun _ _ hkept => ⟨hkept.1, hlater'.trans hkept.2⟩) ?_
          rintro result a' ⟨hcarries', hlater'', -⟩
          have hafter := hlater'.trans hlater''
          refine .bindGet ?_
          cases result with
          | error e => exact .pure ⟨hcarries', hafter, rfl, rfl⟩
          | ok reply =>
              cases reply with
              | released => exact .pure ⟨hcarries', hafter, rfl, rfl⟩
              | frozen descriptor => exact .pure ⟨hcarries', hafter, rfl, rfl⟩
              | cleared report => exact .pure ⟨hcarries', hafter, rfl, rfl⟩
              | status status => exact .pure ⟨hcarries', hafter, rfl, rfl⟩
              | shutdown => exact .pure ⟨hcarries', hafter, rfl, rfl⟩

theorem CaptureArena.Carries.recoverClearResult (h : arena.Carries custody)
    (recovery : CaptureClearRecovery) (call : Call α) :
    (CaptureArena.recoverClearResult recovery call).Ends arena
      (fun report arena' => arena'.Carries custody ∧ arena.Later arena' ∧
        ∀ found, report = some found →
          arena'.Quiet ∧ custody.Clears arena'.worker.absoluteHead found)
      (arena.Kept custody) := by
  refine CaptureArena.recoverClearResult_ends recovery call (fun _ => ⟨h, .refl _⟩)
    (h.lockCommandClient call) (fun _ _ hlocked => hlocked) ?_ ?_ ?_
  · rintro a report ⟨hcarries, hlater⟩ hclear
    obtain ⟨hclears, hidle⟩ := hcarries.clear report hclear
    have hfrozen : a.recoveredFrozen = none := by
      cases hfrozen : a.recoveredFrozen with
      | none => rfl
      | some descriptor =>
          have hnone := (hcarries.frozen descriptor hfrozen).2.2.2
          rw [hclear] at hnone
          cases hnone
    have hquiet : CaptureArena.Quiet { a with recoveredClear := none } :=
      ⟨hcarries.worker, hidle, hfrozen, rfl⟩
    refine ⟨hquiet.carries custody, hlater.trans ⟨.refl _, Nat.le_refl _, rfl⟩, ?_⟩
    rintro _ ⟨rfl⟩
    exact ⟨hquiet, hclears⟩
  · rintro a ⟨hcarries, hlater⟩ _ _
    exact ⟨hcarries, hlater, by simp⟩
  · rintro a command ⟨hcarries, hlater⟩ hclear hslot _
    have hfrozen : a.recoveredFrozen = none := by
      cases hfrozen : a.recoveredFrozen with
      | none => rfl
      | some descriptor =>
          have hidle := (hcarries.frozen descriptor hfrozen).2.2.1
          rcases hslot with hready | ⟨result, hdone⟩
          · rw [hready] at hidle
            cases hidle
          · rw [hdone] at hidle
            cases hidle
    refine (hcarries.waitSlotResult hfrozen hclear call.stale).mono ?_
      fun _ _ hkept => ⟨hkept.1, hlater.trans hkept.2⟩
    rintro result a' ⟨hquiet, hlater', hdelivers⟩
    have hafter := hlater.trans hlater'
    refine ⟨fun _ => ⟨hquiet.carries custody, hafter⟩, fun report heq =>
      ⟨⟨hquiet.carries custody, hafter, ?_⟩, fun _ => ⟨⟨hquiet.worker, ?_, ?_, ?_⟩, ?_⟩⟩⟩
    · rintro _ ⟨rfl⟩
      exact ⟨hquiet, hdelivers _ heq⟩
    · rw [hquiet.slot]
      trivial
    · intro descriptor hfrozen'
      rw [hquiet.frozen] at hfrozen'
      cases hfrozen'
    · intro report' hreport
      obtain rfl := Option.some.inj hreport
      exact ⟨hdelivers _ heq, hquiet.slot⟩
    · exact hafter.trans ⟨.refl _, Nat.le_refl _, rfl⟩

end Calls

end Lamb.Arena
