import Lamb.Arena.CalibrationSlot

/-!
Who owns the buffers of the calibration slot. What the place of each call, the
state of the slot and the place of the worker say about each other is kept by
every step, as long as no call takes the slot while another one is inside
`begin`: a cancelled call that has not left `begin` would store idle over the
state of the next one.
-/

namespace Lamb.CalibrationSlot

/-- The call is inside `begin`. -/
def CallPc.Begins : CallPc → Prop
  | .preparing _ | .written _ | .rejected _ => True
  | _ => False

/-- The call is inside the waiting loop. -/
def CallPc.Attends : CallPc → Prop
  | .waiting _ | .observed _ _ | .cancelling _ | .expiring _ | .expired _ _ | .deserted _
  | .discarding _ => True
  | _ => False

def CallPc.Holds : CallPc → Prop
  | .holding _ _ => True
  | _ => False

/-- The worker has no request in hand. -/
def WorkerPc.Free : WorkerPc → Prop
  | .took | .accepted _ | .finishing _ | .publishing => False
  | _ => True

def WorkerPc.Gone : WorkerPc → Prop
  | .leaving | .done => True
  | _ => False

def SlotRun.Free (run : SlotRun) : Prop :=
  run.capture = none ∧ run.worker.Free

/-- What the place of a call says about the slot. -/
def SlotRun.CallFits (run : SlotRun) (call : ℕ) : Prop :=
  match run.calls call with
  | .absent | .returned => True
  | .preparing ticket =>
      call = run.last ∧ ticket + 1 = run.begun ∧ run.Free ∧
        (run.state = .preparing ∨ run.state = .cancelled ∨ run.state = .idle)
  | .written ticket =>
      call = run.last ∧ ticket + 1 = run.begun ∧ run.Free ∧
        (run.state = .preparing ∨ run.state = .cancelled ∨ run.state = .idle) ∧
        run.request = some ticket
  | .rejected ticket =>
      call = run.last ∧ ticket + 1 = run.begun ∧ run.Free ∧
        (run.state = .cancelled ∨ run.state = .idle)
  | .observed ticket seen =>
      ticket < run.begun ∧ (seen = .idle → call = run.last → run.state = .idle)
  | .waiting ticket | .cancelling ticket | .expiring ticket | .expired ticket _ =>
      ticket < run.begun
  | .deserted ticket => ticket < run.begun ∧ run.worker = .done
  | .discarding ticket =>
      ticket < run.begun ∧ run.worker = .done ∧ run.state ≠ .complete ∧ run.state ≠ .leased
  | .holding ticket result => ticket ≤ result ∧ call = run.holder ∧ run.state = .leased

/-- What the state of the slot says about the worker and the calls. -/
structure SlotRun.StateFits (run : SlotRun) : Prop where
  free : run.state ≠ .capturing → run.state ≠ .cancelled → run.Free
  preparing : run.state = .preparing → (run.calls run.last).Begins
  attended : run.state = .ready ∨ run.state = .capturing ∨ run.state = .complete ∨
    run.state = .failed → (run.calls run.last).Attends
  ready : run.state = .ready → ∃ request, run.request = some request ∧ request + 1 = run.begun
  capturing : run.state = .capturing → ¬run.worker.Gone
  complete : run.state = .complete → ∃ result, run.result = some result ∧ result + 1 = run.begun
  leased : run.state = .leased → (run.calls run.holder).Holds
  cancelled : run.state = .cancelled → run.worker.Gone → (run.calls run.last).Begins

/-- The request that the worker has in hand is the last one. -/
def SlotRun.WorkerFits (run : SlotRun) : Prop :=
  match run.worker with
  | .took => run.capture = none ∧ ∃ request, run.request = some request ∧ request + 1 = run.begun
  | .accepted request | .finishing request => run.capture = none ∧ request + 1 = run.begun
  | .publishing => run.capture = none ∧ ∃ result, run.result = some result ∧ result + 1 = run.begun
  | .loop | .polling => ∀ request, run.capture = some request → request + 1 = run.begun
  | _ => run.capture = none

structure SlotRun.Inv (run : SlotRun) : Prop where
  calls : ∀ call, run.CallFits call
  state : run.StateFits
  worker : run.WorkerFits

/-- A call does not take the slot while another one is inside `begin`. -/
def SlotRun.Orderly (run : SlotRun) : Action → Prop
  | .call call _ =>
      run.calls call = .absent → run.state = .idle → ∀ other, ¬(run.calls other).Begins
  | _ => True


section Inv

variable {run : SlotRun} {call : ℕ} {pc : CallPc}

@[simp] theorem SlotRun.goto_self (run : SlotRun) (call : ℕ) (pc : CallPc) :
    (run.goto call pc).calls call = pc :=
  Function.update_self ..

@[simp] theorem SlotRun.goto_last (run : SlotRun) (call : ℕ) (pc : CallPc) :
    (run.goto call pc).last = run.last :=
  rfl

@[simp] theorem SlotRun.goto_holder (run : SlotRun) (call : ℕ) (pc : CallPc) :
    (run.goto call pc).holder = run.holder :=
  rfl

@[simp] theorem SlotRun.goto_begun (run : SlotRun) (call : ℕ) (pc : CallPc) :
    (run.goto call pc).begun = run.begun :=
  rfl

theorem SlotRun.goto_ne (run : SlotRun) {call other : ℕ} (pc : CallPc) (h : other ≠ call) :
    (run.goto call pc).calls other = run.calls other :=
  Function.update_of_ne h ..

/-- What the place of a call says survives a change elsewhere. -/
theorem SlotRun.CallFits.transfer {run' : SlotRun} (h : run.CallFits call)
    (hplace : run'.calls call = run.calls call) (hlast : run'.last = run.last)
    (hbegun : run'.begun = run.begun)
    (hbegins : (run.calls call).Begins → run'.Free ∧ run'.request = run.request ∧
      (run'.state = .cancelled ∨ run'.state = .idle ∨ run'.state = run.state))
    (hidle : run.state = .idle → call = run.last → run'.state = .idle)
    (hdone : run.worker = .done → run'.worker = .done ∧
      (run.state ≠ .complete → run.state ≠ .leased →
        run'.state ≠ .complete ∧ run'.state ≠ .leased))
    (hheld : (run.calls call).Holds → run'.state = .leased ∧ run'.holder = run.holder) :
    run'.CallFits call := by
  unfold SlotRun.CallFits at h ⊢
  rw [hplace, hlast, hbegun]
  cases hpc : run.calls call with
  | absent => trivial
  | returned => trivial
  | preparing ticket =>
      simp only [hpc] at h ⊢
      obtain ⟨hfree, -, hstate⟩ := hbegins (hpc ▸ trivial)
      refine ⟨h.1, h.2.1, hfree, ?_⟩
      rcases hstate with hstate | hstate | hstate
      · exact .inr (.inl hstate)
      · exact .inr (.inr hstate)
      · exact hstate ▸ h.2.2.2
  | written ticket =>
      simp only [hpc] at h ⊢
      obtain ⟨hfree, hrequest, hstate⟩ := hbegins (hpc ▸ trivial)
      refine ⟨h.1, h.2.1, hfree, ?_, hrequest.trans h.2.2.2.2⟩
      rcases hstate with hstate | hstate | hstate
      · exact .inr (.inl hstate)
      · exact .inr (.inr hstate)
      · exact hstate ▸ h.2.2.2.1
  | rejected ticket =>
      simp only [hpc] at h ⊢
      obtain ⟨hfree, -, hstate⟩ := hbegins (hpc ▸ trivial)
      refine ⟨h.1, h.2.1, hfree, ?_⟩
      rcases hstate with hstate | hstate | hstate
      · exact .inl hstate
      · exact .inr hstate
      · exact hstate ▸ h.2.2.2
  | observed ticket seen =>
      simp only [hpc] at h ⊢
      exact ⟨h.1, fun hseen hsame => hidle (h.2 hseen hsame) hsame⟩
  | deserted ticket =>
      simp only [hpc] at h ⊢
      exact ⟨h.1, (hdone h.2).1⟩
  | discarding ticket =>
      simp only [hpc] at h ⊢
      exact ⟨h.1, (hdone h.2.1).1, (hdone h.2.1).2 h.2.2.1 h.2.2.2⟩
  | holding ticket result =>
      simp only [hpc] at h ⊢
      obtain ⟨hstate, hholder⟩ := hheld (hpc ▸ trivial)
      exact ⟨h.1, h.2.1.trans hholder.symm, hstate⟩
  | _ =>
      simp only [hpc] at h ⊢
      exact h

theorem SlotRun.CallFits.held (h : run.CallFits call) (hholds : (run.calls call).Holds) :
    call = run.holder ∧ run.state = .leased := by
  unfold SlotRun.CallFits at h
  cases hpc : run.calls call with
  | holding ticket result =>
      simp only [hpc] at h
      exact h.2
  | _ =>
      rw [hpc] at hholds
      exact hholds.elim

theorem SlotRun.CallFits.begins (h : run.CallFits call) (hbegins : (run.calls call).Begins) :
    call = run.last ∧ run.Free ∧
      (run.state = .preparing ∨ run.state = .cancelled ∨ run.state = .idle) := by
  unfold SlotRun.CallFits at h
  cases hpc : run.calls call with
  | preparing ticket =>
      simp only [hpc] at h
      exact ⟨h.1, h.2.2.1, h.2.2.2⟩
  | written ticket =>
      simp only [hpc] at h
      exact ⟨h.1, h.2.2.1, h.2.2.2.1⟩
  | rejected ticket =>
      simp only [hpc] at h
      exact ⟨h.1, h.2.2.1, .inr h.2.2.2⟩
  | _ =>
      rw [hpc] at hbegins
      exact hbegins.elim

/-- The steps of one call are not seen in the place of another. -/
theorem SlotRun.CallFits.goto {other : ℕ} (h : run.CallFits other) (hne : other ≠ call) :
    (run.goto call pc).CallFits other := by
  unfold SlotRun.CallFits at h ⊢
  rw [run.goto_ne pc hne]
  exact h

theorem SlotRun.Inv.goto (h : run.Inv) (hfits : (run.goto call pc).CallFits call)
    (hbegins : (run.calls call).Begins → pc.Begins)
    (hattends : (run.calls call).Attends → pc.Attends)
    (hholds : (run.calls call).Holds → pc.Holds) : (run.goto call pc).Inv := by
  have hkeeps : ∀ (P : CallPc → Prop) (other : ℕ), (P (run.calls call) → P pc) →
      P (run.calls other) → P ((run.goto call pc).calls other) := by
    intro P other hP hother
    by_cases hsame : other = call
    · subst hsame
      rw [SlotRun.goto_self]
      exact hP hother
    · rw [run.goto_ne pc hsame]
      exact hother
  refine ⟨fun other => ?_, ?_, h.worker⟩
  · by_cases hsame : other = call
    · subst hsame
      exact hfits
    · exact (h.calls other).goto hsame
  · exact
      { free := h.state.free
        preparing := fun hs => hkeeps _ _ hbegins (h.state.preparing hs)
        attended := fun hs => hkeeps _ _ hattends (h.state.attended hs)
        ready := h.state.ready
        capturing := h.state.capturing
        complete := h.state.complete
        leased := fun hs => hkeeps _ _ hholds (h.state.leased hs)
        cancelled := fun hs hgone => hkeeps _ _ hbegins (h.state.cancelled hs hgone) }

/-- Storing idle over a state without a lease. -/
theorem SlotRun.Inv.toIdle (h : run.Inv) (hfree : run.Free) (hstate : run.state ≠ .leased) :
    ({ run with state := .idle } : SlotRun).Inv := by
  refine ⟨fun other => (h.calls other).transfer rfl rfl rfl ?_ ?_ ?_ ?_, ?_, h.worker⟩
  · exact fun _ => ⟨hfree, rfl, .inr (.inl rfl)⟩
  · exact fun _ _ => rfl
  · exact fun hdone => ⟨hdone, by simp⟩
  · exact fun hholds => absurd ((h.calls other).held hholds).2 hstate
  · exact ⟨fun _ _ => hfree, nofun, by simp, nofun, nofun, nofun, nofun, nofun⟩

/-- A cancelled call inside `begin`, or a cancelled capture. -/
theorem SlotRun.Inv.toCancelled (h : run.Inv)
    (hstate : run.state = .preparing ∨ run.state = .capturing) :
    ({ run with state := .cancelled } : SlotRun).Inv := by
  have hbusy : run.state ≠ .idle ∧ run.state ≠ .leased := by
    rcases hstate with hstate | hstate <;> simp [hstate]
  refine ⟨fun other => (h.calls other).transfer rfl rfl rfl ?_ ?_ ?_ ?_, ?_, h.worker⟩
  · exact fun hbegins => ⟨((h.calls other).begins hbegins).2.1, rfl, .inl rfl⟩
  · exact fun hidle => absurd hidle hbusy.1
  · exact fun hdone => ⟨hdone, by simp⟩
  · exact fun hholds => absurd ((h.calls other).held hholds).2 hbusy.2
  · refine ⟨fun _ hne => absurd rfl hne, nofun, by simp, nofun, nofun, nofun, nofun, ?_⟩
    intro _ hgone
    rcases hstate with hstate | hstate
    · exact h.state.preparing hstate
    · exact absurd hgone (h.state.capturing hstate)

/-- A call that no state needs leaves. -/
theorem SlotRun.Inv.leave (h : run.Inv)
    (hlast : call = run.last → run.state = .idle ∨ run.state = .cancelled ∧ ¬run.worker.Gone)
    (hholder : call = run.holder → run.state ≠ .leased) : (run.goto call .returned).Inv := by
  refine ⟨fun other => ?_, ?_, h.worker⟩
  · by_cases hsame : other = call
    · subst hsame
      simp [SlotRun.CallFits]
    · exact (h.calls other).goto hsame
  · have hkept : ∀ other, other ≠ call → (run.goto call .returned).calls other = run.calls other :=
      fun other hne => run.goto_ne _ hne
    have hneeds : ¬(run.state = .idle ∨ run.state = .cancelled ∧ ¬run.worker.Gone) →
        run.last ≠ call := fun hno heq => hno (hlast heq.symm)
    refine ⟨h.state.free, fun hs => ?_, fun hs => ?_, h.state.ready, h.state.capturing,
      h.state.complete, fun hs => ?_, fun hs hgone => ?_⟩
    · have hs : run.state = .preparing := hs
      rw [SlotRun.goto_last, hkept _ (hneeds (by simp [hs]))]
      exact h.state.preparing hs
    · have hs : run.state = .ready ∨ run.state = .capturing ∨ run.state = .complete ∨
        run.state = .failed := hs
      have hno : ¬(run.state = .idle ∨ run.state = .cancelled ∧ ¬run.worker.Gone) := by
        rcases hs with hs | hs | hs | hs <;> simp [hs]
      rw [SlotRun.goto_last, hkept _ (hneeds hno)]
      exact h.state.attended hs
    · have hs : run.state = .leased := hs
      rw [SlotRun.goto_holder, hkept _ fun heq => hholder heq.symm hs]
      exact h.state.leased hs
    · have hs : run.state = .cancelled := hs
      have hgone : run.worker.Gone := hgone
      rw [SlotRun.goto_last, hkept _ (hneeds (by simp [hs, hgone]))]
      exact h.state.cancelled hs hgone

theorem SlotRun.Inv.free_of_done (h : run.Inv) (hdone : run.worker = .done) : run.Free := by
  have hworker := h.worker
  simp only [SlotRun.WorkerFits, hdone] at hworker
  exact ⟨hworker, by simp [hdone, WorkerPc.Free]⟩

/-- The exchange of `cancel`. -/
theorem SlotRun.Inv.cancelState (h : run.Inv) {state : SlotState}
    (hcancel : run.state.cancel = some state) : ({ run with state } : SlotRun).Inv := by
  cases hs : run.state with
  | preparing =>
      rw [hs] at hcancel
      cases hcancel
      exact h.toCancelled (.inl hs)
  | capturing =>
      rw [hs] at hcancel
      cases hcancel
      exact h.toCancelled (.inr hs)
  | ready =>
      rw [hs] at hcancel
      cases hcancel
      exact h.toIdle (h.state.free (by simp [hs]) (by simp [hs])) (by simp [hs])
  | _ =>
      rw [hs] at hcancel
      cases hcancel

theorem SlotState.expire_eq_some {seen state : SlotState} (h : seen.expire = some state) :
    seen.cancel = some state := by
  cases seen with
  | ready => exact h
  | capturing => exact h
  | _ => cases h

theorem SlotRun.Inv.cancel (h : run.Inv) : (run.step .cancel).Inv := by
  change ({ run with state := run.state.cancel.getD run.state } : SlotRun).Inv
  cases hcancel : run.state.cancel with
  | none => exact h
  | some state => exact h.cancelState hcancel

/-- A call that has cancelled the request in the slot leaves. -/
theorem SlotRun.Inv.cancelAndLeave (h : run.Inv) {state : SlotState}
    (hcancel : run.state.cancel = some state) (hattends : (run.calls call).Attends) :
    ({ run.goto call .returned with state } : SlotRun).Inv := by
  refine (h.cancelState hcancel).leave (fun hlast => ?_) fun _ hleased => ?_
  · have hlast : call = run.last := hlast
    cases hs : run.state with
    | preparing =>
        have hbegins := h.state.preparing hs
        rw [← hlast] at hbegins
        cases hpc : run.calls call <;> simp_all [CallPc.Begins, CallPc.Attends]
    | capturing =>
        rw [hs] at hcancel
        cases hcancel
        exact .inr ⟨rfl, h.state.capturing hs⟩
    | ready =>
        rw [hs] at hcancel
        cases hcancel
        exact .inl rfl
    | _ =>
        rw [hs] at hcancel
        cases hcancel
  · have hleased : state = .leased := hleased
    subst hleased
    cases hs : run.state <;> simp [hs, SlotState.cancel] at hcancel

/-- A call takes the slot while no other is inside `begin`. -/
theorem SlotRun.Inv.begin (h : run.Inv) (hidle : run.state = .idle)
    (horderly : ∀ other, ¬(run.calls other).Begins) :
    ({ run.goto call (.preparing run.begun) with
        state := .preparing, begun := run.begun + 1, last := call } : SlotRun).Inv := by
  have hfree : run.Free := h.state.free (by simp [hidle]) (by simp [hidle])
  refine ⟨fun other => ?_, ?_, ?_⟩
  · by_cases hsame : other = call
    · subst hsame
      simp [SlotRun.CallFits, SlotRun.goto, SlotRun.Free, hfree.1, hfree.2]
    · have hother := h.calls other
      have hout := horderly other
      unfold SlotRun.CallFits at hother ⊢
      dsimp only
      rw [run.goto_ne _ hsame]
      cases hpc : run.calls other with
      | preparing ticket => simp [hpc, CallPc.Begins] at hout
      | written ticket => simp [hpc, CallPc.Begins] at hout
      | rejected ticket => simp [hpc, CallPc.Begins] at hout
      | observed ticket seen =>
          simp only [hpc] at hother ⊢
          exact ⟨by omega, fun _ hlast => absurd hlast hsame⟩
      | holding ticket result =>
          simp only [hpc] at hother
          simp_all
      | deserted ticket =>
          simp only [hpc] at hother ⊢
          exact ⟨by omega, hother.2⟩
      | discarding ticket =>
          simp only [hpc] at hother ⊢
          exact ⟨by omega, hother.2.1, by simp⟩
      | absent => trivial
      | returned => trivial
      | _ =>
          simp only [hpc] at hother ⊢
          omega
  · refine ⟨fun _ _ => hfree, fun _ => ?_, by simp, nofun, nofun, nofun, nofun, nofun⟩
    simp [CallPc.Begins]
  · have hworker := h.worker
    have hcapture := hfree.1
    have hidleWorker := hfree.2
    unfold SlotRun.WorkerFits at hworker ⊢
    cases hpc : run.worker <;> simp_all [WorkerPc.Free, SlotRun.goto]

/-- The call inside `begin` writes its request. -/
theorem SlotRun.Inv.write (h : run.Inv) {ticket : ℕ} (hpc : run.calls call = .preparing ticket) :
    ({ run.goto call (.written ticket) with request := some ticket } : SlotRun).Inv := by
  have hcall := h.calls call
  simp only [SlotRun.CallFits, hpc] at hcall
  obtain ⟨rfl, hticket, hfree, hstate⟩ := hcall
  have hwritten : ({ run with request := some ticket } : SlotRun).Inv := by
    refine ⟨fun other => ?_, ?_, ?_⟩
    · have hother := h.calls other
      unfold SlotRun.CallFits at hother ⊢
      cases hplace : run.calls other with
      | written other =>
          simp only [hplace] at hother
          rw [hother.1, hpc] at hplace
          cases hplace
      | absent => trivial
      | returned => trivial
      | _ =>
          simp only [hplace] at hother ⊢
          exact hother
    · refine { h.state with ready := fun hs => ?_ }
      have hs : run.state = .ready := hs
      simp [hs] at hstate
    · have hworker := h.worker
      have hidle := hfree.2
      unfold SlotRun.WorkerFits at hworker ⊢
      cases hplace : run.worker with
      | took => simp [hplace, WorkerPc.Free] at hidle
      | _ =>
          simp only [hplace] at hworker ⊢
          exact hworker
  refine hwritten.goto ?_ (fun _ => trivial) (fun hattends => ?_) fun hholds => ?_
  · unfold SlotRun.CallFits
    rw [SlotRun.goto_self]
    exact ⟨rfl, hticket, hfree, hstate, rfl⟩
  · simp [hpc, CallPc.Attends] at hattends
  · simp [hpc, CallPc.Holds] at hholds

/-- The request is published. -/
theorem SlotRun.Inv.publish (h : run.Inv) {ticket : ℕ} (hpc : run.calls call = .written ticket)
    (hstate : run.state = .preparing) :
    ({ run.goto call (.waiting ticket) with state := .ready } : SlotRun).Inv := by
  have hcall := h.calls call
  simp only [SlotRun.CallFits, hpc] at hcall
  obtain ⟨rfl, hticket, hfree, -, hrequest⟩ := hcall
  refine ⟨fun other => ?_, ?_, h.worker⟩
  · by_cases hsame : other = run.last
    · subst hsame
      unfold SlotRun.CallFits
      dsimp only
      rw [SlotRun.goto_self]
      change ticket < run.begun
      omega
    · refine (h.calls other).transfer (run.goto_ne _ hsame) rfl rfl ?_ ?_ ?_ ?_
      · exact fun hbegins => absurd ((h.calls other).begins hbegins).1 hsame
      · exact fun _ hlast => absurd hlast hsame
      · exact fun hdone => ⟨hdone, by simp⟩
      · exact fun hholds => absurd ((h.calls other).held hholds).2 (by simp [hstate])
  · refine ⟨fun _ _ => hfree, nofun, fun _ => ?_, fun _ => ⟨ticket, hrequest, hticket⟩, nofun,
      nofun, nofun, nofun⟩
    simp [CallPc.Attends]

/-- A call takes the result. -/
theorem SlotRun.Inv.take (h : run.Inv) {ticket result : ℕ} {seen : SlotState}
    (hpc : run.calls call = .observed ticket seen) (hstate : run.state = .complete)
    (hresult : run.result = some result) :
    ({ run.goto call (.holding ticket result) with state := .leased, holder := call } :
      SlotRun).Inv := by
  have hcall := h.calls call
  simp only [SlotRun.CallFits, hpc] at hcall
  have hfree : run.Free := h.state.free (by simp [hstate]) (by simp [hstate])
  obtain ⟨current, hcurrent, hbegun⟩ := h.state.complete hstate
  rw [hresult] at hcurrent
  cases hcurrent
  refine ⟨fun other => ?_, ?_, h.worker⟩
  · by_cases hsame : other = call
    · subst hsame
      unfold SlotRun.CallFits
      dsimp only
      rw [SlotRun.goto_self]
      exact ⟨by omega, rfl, rfl⟩
    · refine (h.calls other).transfer (run.goto_ne _ hsame) rfl rfl ?_ ?_ ?_ ?_
      · intro hbegins
        have hfits := ((h.calls other).begins hbegins).2.2
        simp [hstate] at hfits
      · exact fun hidle => absurd hidle (by simp [hstate])
      · exact fun hdone => ⟨hdone, fun hno => absurd hstate hno⟩
      · exact fun hholds => absurd ((h.calls other).held hholds).2 (by simp [hstate])
  · refine ⟨fun _ _ => hfree, nofun, by simp, nofun, nofun, nofun, fun _ => ?_, nofun⟩
    simp [CallPc.Holds]

/-- The lease is dropped. -/
theorem SlotRun.Inv.release (h : run.Inv) (hholds : (run.calls call).Holds) :
    ({ run.goto call .returned with state := .idle } : SlotRun).Inv := by
  obtain ⟨hholder, hstate⟩ := (h.calls call).held hholds
  have hfree : run.Free := h.state.free (by simp [hstate]) (by simp [hstate])
  refine ⟨fun other => ?_, ?_, h.worker⟩
  · by_cases hsame : other = call
    · subst hsame
      simp [SlotRun.CallFits]
    · refine (h.calls other).transfer (run.goto_ne _ hsame) rfl rfl ?_ ?_ ?_ ?_
      · exact fun _ => ⟨hfree, rfl, .inr (.inl rfl)⟩
      · exact fun _ _ => rfl
      · exact fun hdone => ⟨hdone, by simp⟩
      · exact fun hother => absurd (((h.calls other).held hother).1.trans hholder.symm) hsame
  · exact ⟨fun _ _ => hfree, nofun, by simp, nofun, nofun, nofun, nofun, nofun⟩

/-- A waiting call goes on waiting. -/
theorem SlotRun.Inv.attends (h : run.Inv) (hattends : (run.calls call).Attends) (hpc : pc.Attends)
    (hfits : (run.goto call pc).CallFits call) : (run.goto call pc).Inv := by
  refine h.goto hfits (fun hbegins => ?_) (fun _ => hpc) fun hholds => ?_
  · cases hplace : run.calls call <;> simp_all [CallPc.Begins, CallPc.Attends]
  · cases hplace : run.calls call <;> simp_all [CallPc.Holds, CallPc.Attends]

/-- A call that gives the slot back as idle leaves. -/
theorem SlotRun.Inv.clearAndLeave (h : run.Inv) (hfree : run.Free) (hstate : run.state ≠ .leased) :
    ({ run.goto call .returned with state := .idle } : SlotRun).Inv :=
  (h.toIdle hfree hstate).leave (fun _ => .inl rfl) nofun

theorem SlotRun.Inv.attend (h : run.Inv) {ticket : ℕ} {seen : SlotState} (now : Circumstances)
    (hpc : run.calls call = .observed ticket seen) : (run.attend call ticket now seen).Inv := by
  have hcall := h.calls call
  simp only [SlotRun.CallFits, hpc] at hcall
  have hattends : (run.calls call).Attends := hpc ▸ trivial
  have hwait : (run.goto call (.waiting ticket)).Inv :=
    h.attends hattends trivial (by simpa [SlotRun.CallFits] using hcall.1)
  unfold SlotRun.attend
  split
  · exact h.attends hattends trivial (by simpa [SlotRun.CallFits] using hcall.1)
  · split
    · split
      · next hstate hresult => exact h.take hpc hstate hresult
      · exact hwait
    · split
      · next hstate =>
          have hfree : run.Free := h.state.free (by simp [hstate]) (by simp [hstate])
          exact h.clearAndLeave hfree (by simp [hstate])
      · exact hwait
    · have hidle := hcall.2 rfl
      refine h.leave (fun hlast => .inl (hidle hlast)) fun hholder hleased => ?_
      have hholds := h.state.leased hleased
      rw [← hholder, hpc] at hholds
      exact hholds
    · split
      · exact h.attends hattends trivial (by simpa [SlotRun.CallFits] using hcall.1)
      · split
        · next hdone =>
            exact h.attends hattends trivial (by simpa [SlotRun.CallFits] using ⟨hcall.1, hdone⟩)
        · exact hwait

theorem SlotRun.Inv.callStep (h : run.Inv) (now : Circumstances)
    (horderly : run.Orderly (.call call now)) : (run.callStep call now).Inv := by
  have hcall := h.calls call
  unfold SlotRun.callStep
  cases hpc : run.calls call with
  | absent =>
      dsimp only
      split
      · next hidle => exact h.begin hidle (horderly hpc hidle)
      · exact h.goto (by simp [SlotRun.CallFits]) (by simp [hpc, CallPc.Begins])
          (by simp [hpc, CallPc.Attends]) (by simp [hpc, CallPc.Holds])
  | preparing ticket => exact h.write hpc
  | written ticket =>
      simp only [SlotRun.CallFits, hpc] at hcall
      obtain ⟨hlast, hticket, hfree, hstate, -⟩ := hcall
      dsimp only
      split
      · next hpreparing => exact h.publish hpc hpreparing
      · next hcancelled =>
          refine h.goto ?_ (fun _ => trivial) (by simp [hpc, CallPc.Attends])
            (by simp [hpc, CallPc.Holds])
          simp only [SlotRun.CallFits, SlotRun.goto_self]
          exact ⟨hlast, hticket, hfree, .inl hcancelled⟩
      · next hidle =>
          refine h.goto ?_ (fun _ => trivial) (by simp [hpc, CallPc.Attends])
            (by simp [hpc, CallPc.Holds])
          simp only [SlotRun.CallFits, SlotRun.goto_self]
          exact ⟨hlast, hticket, hfree, .inr hidle⟩
      · rcases hstate with hstate | hstate | hstate <;> simp_all
  | rejected ticket =>
      simp only [SlotRun.CallFits, hpc] at hcall
      refine h.clearAndLeave hcall.2.2.1 ?_
      rcases hcall.2.2.2 with hstate | hstate <;> simp [hstate]
  | waiting ticket =>
      refine h.attends (hpc ▸ trivial) trivial ?_
      simp only [SlotRun.CallFits, hpc, SlotRun.goto_self] at hcall ⊢
      exact ⟨hcall, fun hseen _ => hseen⟩
  | observed ticket seen => exact h.attend now hpc
  | cancelling ticket =>
      simp only [SlotRun.CallFits, hpc] at hcall
      dsimp only
      split
      · next state hcancel => exact h.cancelAndLeave hcancel (hpc ▸ trivial)
      · exact h.attends (hpc ▸ trivial) trivial (by simpa [SlotRun.CallFits] using hcall)
  | expiring ticket =>
      simp only [SlotRun.CallFits, hpc] at hcall
      exact h.attends (hpc ▸ trivial) trivial (by simpa [SlotRun.CallFits] using hcall)
  | expired ticket seen =>
      simp only [SlotRun.CallFits, hpc] at hcall
      have hwait : (run.goto call (.waiting ticket)).Inv :=
        h.attends (hpc ▸ trivial) trivial (by simpa [SlotRun.CallFits] using hcall)
      dsimp only
      split
      · next state hexpire =>
          split
          · next hseen =>
              rw [← hseen] at hexpire
              exact h.cancelAndLeave (SlotState.expire_eq_some hexpire) (hpc ▸ trivial)
          · exact hwait
      · exact hwait
  | deserted ticket =>
      simp only [SlotRun.CallFits, hpc] at hcall
      dsimp only
      split
      · next hstate =>
          exact h.attends (hpc ▸ trivial) trivial (by simp_all [SlotRun.CallFits, SlotRun.goto])
      · next hstate =>
          exact h.attends (hpc ▸ trivial) trivial (by simp_all [SlotRun.CallFits, SlotRun.goto])
      · next hstate =>
          exact h.attends (hpc ▸ trivial) trivial (by simp_all [SlotRun.CallFits, SlotRun.goto])
      · exact h.attends (hpc ▸ trivial) trivial (by simpa [SlotRun.CallFits] using hcall.1)
  | discarding ticket =>
      simp only [SlotRun.CallFits, hpc] at hcall
      exact h.clearAndLeave (h.free_of_done hcall.2.1) hcall.2.2.2
  | holding ticket result =>
      have hholds : (run.calls call).Holds := hpc ▸ trivial
      have hreleased := h.release hholds
      simp only [((h.calls call).held hholds).2, if_true]
      exact hreleased
  | returned => exact h

/-- The worker moves on with the request it has in hand, or without one. -/
theorem SlotRun.Inv.moveWorker (h : run.Inv) {worker : WorkerPc} {capture : Option ℕ}
    (hfits : ({ run with worker, capture } : SlotRun).WorkerFits)
    (hfree : run.Free → ({ run with worker, capture } : SlotRun).Free)
    (hdone : run.worker = .done → worker = .done)
    (hgone : worker.Gone → run.worker.Gone ∨
      run.state ≠ .capturing ∧ (run.state = .cancelled → (run.calls run.last).Begins)) :
    ({ run with worker, capture } : SlotRun).Inv := by
  refine ⟨fun other => (h.calls other).transfer rfl rfl rfl ?_ ?_ ?_ ?_, ?_, hfits⟩
  · exact fun hbegins => ⟨hfree ((h.calls other).begins hbegins).2.1, rfl, .inr (.inr rfl)⟩
  · exact fun hidle _ => hidle
  · exact fun hwas => ⟨hdone hwas, fun hcomplete hleased => ⟨hcomplete, hleased⟩⟩
  · exact fun hholds => ⟨((h.calls other).held hholds).2, rfl⟩
  · refine
      { h.state with
        free := fun hcapturing hcancelled => hfree (h.state.free hcapturing hcancelled)
        capturing := fun hstate hleft => ?_
        cancelled := fun hstate hleft => ?_ }
    · rcases hgone hleft with hwas | hno
      · exact h.state.capturing hstate hwas
      · exact hno.1 hstate
    · rcases hgone hleft with hwas | hno
      · exact h.state.cancelled hstate hwas
      · exact hno.2 hstate

/-- The worker takes the request. -/
theorem SlotRun.Inv.accept (h : run.Inv) (hloop : run.worker = .loop)
    (hready : run.state = .ready) :
    ({ run with worker := .took, state := .capturing } : SlotRun).Inv := by
  have hfree : run.Free := h.state.free (by simp [hready]) (by simp [hready])
  refine ⟨fun other => (h.calls other).transfer rfl rfl rfl ?_ ?_ ?_ ?_, ?_, ?_⟩
  · intro hbegins
    have hfits := ((h.calls other).begins hbegins).2.2
    simp [hready] at hfits
  · exact fun hidle => absurd hidle (by simp [hready])
  · exact fun hdone => absurd hdone (by simp [hloop])
  · exact fun hholds => absurd ((h.calls other).held hholds).2 (by simp [hready])
  · refine ⟨fun hno => absurd rfl hno, nofun, fun _ => ?_, nofun, fun _ => nofun, nofun, nofun,
      nofun⟩
    exact h.state.attended (.inl hready)
  · exact ⟨hfree.1, h.state.ready hready⟩

/-- The worker publishes a result. -/
theorem SlotRun.Inv.finish (h : run.Inv) (hworker : run.worker = .publishing)
    (hcapturing : run.state = .capturing) :
    ({ run with worker := .loop, state := .complete } : SlotRun).Inv := by
  have hfits := h.worker
  simp only [SlotRun.WorkerFits, hworker] at hfits
  refine ⟨fun other => (h.calls other).transfer rfl rfl rfl ?_ ?_ ?_ ?_, ?_, ?_⟩
  · intro hbegins
    have hstate := ((h.calls other).begins hbegins).2.2
    simp [hcapturing] at hstate
  · exact fun hidle => absurd hidle (by simp [hcapturing])
  · exact fun hdone => absurd hdone (by simp [hworker])
  · exact fun hholds => absurd ((h.calls other).held hholds).2 (by simp [hcapturing])
  · refine ⟨fun _ _ => ⟨hfits.1, trivial⟩, nofun, fun _ => ?_, nofun, nofun, fun _ => hfits.2,
      nofun, nofun⟩
    exact h.state.attended (.inr (.inl hcapturing))
  · intro request hrequest
    simp [hfits.1] at hrequest

/-- The worker fails the request in the slot. -/
theorem SlotRun.Inv.toFailed (h : run.Inv) (hfree : run.Free)
    (hstate : run.state = .ready ∨ run.state = .capturing) :
    ({ run with state := .failed } : SlotRun).Inv := by
  have hbusy : run.state ≠ .preparing ∧ run.state ≠ .cancelled ∧ run.state ≠ .idle ∧
      run.state ≠ .leased := by
    rcases hstate with hstate | hstate <;> simp [hstate]
  refine ⟨fun other => (h.calls other).transfer rfl rfl rfl ?_ ?_ ?_ ?_, ?_, h.worker⟩
  · intro hbegins
    rcases ((h.calls other).begins hbegins).2.2 with hs | hs | hs <;> simp_all
  · exact fun hidle => absurd hidle hbusy.2.2.1
  · exact fun hdone => ⟨hdone, by simp⟩
  · exact fun hholds => absurd ((h.calls other).held hholds).2 hbusy.2.2.2
  · refine ⟨fun _ _ => hfree, nofun, fun _ => ?_, nofun, nofun, nofun, nofun, nofun⟩
    rcases hstate with hstate | hstate
    · exact h.state.attended (.inl hstate)
    · exact h.state.attended (.inr (.inl hstate))

theorem SlotRun.Inv.failState (h : run.Inv) (hfree : run.Free) :
    ({ run with state := run.state.fail.getD run.state } : SlotRun).Inv := by
  cases hfail : run.state.fail with
  | none => exact h
  | some state =>
      cases hs : run.state with
      | ready =>
          rw [hs] at hfail
          cases hfail
          exact h.toFailed hfree (.inl hs)
      | capturing =>
          rw [hs] at hfail
          cases hfail
          exact h.toFailed hfree (.inr hs)
      | cancelled =>
          rw [hs] at hfail
          cases hfail
          exact h.toIdle hfree (by simp [hs])
      | _ =>
          rw [hs] at hfail
          cases hfail

theorem SlotState.fail_ne (state : SlotState) :
    state.fail.getD state ≠ .capturing ∧ state.fail.getD state ≠ .cancelled := by
  cases state with
  | _ => decide

theorem SlotRun.Inv.workerLoop (h : run.Inv) (hloop : run.worker = .loop) (choice : WorkerChoice) :
    (run.workerStep choice).Inv := by
  have hfits := h.worker
  simp only [SlotRun.WorkerFits, hloop] at hfits
  have hfail : ∀ last, ({ run with worker := .failing last, capture := none } : SlotRun).Inv :=
    fun last => h.moveWorker rfl (fun _ => ⟨rfl, trivial⟩) (by simp [hloop]) nofun
  have hclear : ({ run with worker := .clearing, capture := none } : SlotRun).Inv :=
    h.moveWorker rfl (fun _ => ⟨rfl, trivial⟩) (by simp [hloop]) nofun
  unfold SlotRun.workerStep
  rw [hloop]
  cases choice with
  | poll =>
      exact h.moveWorker hfits (fun hfree => ⟨hfree.1, trivial⟩) (by simp [hloop]) nofun
  | start =>
      dsimp only
      split
      · next hready => exact h.accept hloop hready
      · exact h
  | copy last =>
      simp only [SlotRun.copy]
      split
      · exact h
      · next request hcapture =>
          split
          · exact hclear
          · next hstate =>
              split
              · refine h.moveWorker ⟨rfl, hfits request hcapture⟩ (fun hfree => ?_)
                  (by simp [hloop]) nofun
                simp [SlotRun.Free, hcapture] at hfree
              · exact h
  | fail => exact hfail false
  | exit => exact hfail true

/-- The worker writes the metadata of a capture that is complete. -/
theorem SlotRun.Inv.describe (h : run.Inv) {request : ℕ}
    (hworker : run.worker = .finishing request) :
    ({ run with worker := .publishing, result := some request } : SlotRun).Inv := by
  have hfits := h.worker
  simp only [SlotRun.WorkerFits, hworker] at hfits
  have hbusy : ¬run.Free := by simp [SlotRun.Free, hworker, WorkerPc.Free]
  have hstate : run.state = .capturing ∨ run.state = .cancelled := by
    by_contra hno
    rw [not_or] at hno
    exact hbusy (h.state.free hno.1 hno.2)
  refine ⟨fun other => (h.calls other).transfer rfl rfl rfl ?_ ?_ ?_ ?_, ?_, ?_⟩
  · exact fun hbegins => absurd ((h.calls other).begins hbegins).2.1 hbusy
  · exact fun hidle _ => hidle
  · exact fun hdone => absurd hdone (by simp [hworker])
  · exact fun hholds => ⟨((h.calls other).held hholds).2, rfl⟩
  · refine
      { h.state with
        free := fun hcapturing hcancelled => absurd (h.state.free hcapturing hcancelled) hbusy
        complete := fun hcomplete => ?_
        capturing := fun _ => nofun
        cancelled := fun _ => nofun }
    have hcomplete : run.state = .complete := hcomplete
    simp [hcomplete] at hstate
  · exact ⟨hfits.1, request, rfl, hfits.2⟩

theorem SlotRun.Inv.workerStep (h : run.Inv) (choice : WorkerChoice) :
    (run.workerStep choice).Inv := by
  have hfits := h.worker
  cases hworker : run.worker with
  | loop => exact h.workerLoop hworker choice
  | polling =>
      simp only [SlotRun.WorkerFits, hworker] at hfits
      simp only [SlotRun.workerStep, hworker]
      split
      · exact h.moveWorker rfl (fun _ => ⟨rfl, trivial⟩) (by simp [hworker]) nofun
      · exact h.moveWorker hfits (fun hfree => ⟨hfree.1, trivial⟩) (by simp [hworker]) nofun
  | clearing =>
      simp only [SlotRun.WorkerFits, hworker] at hfits
      simp only [SlotRun.workerStep, hworker]
      have hmoved : ({ run with worker := .loop, capture := run.capture } : SlotRun).Inv :=
        h.moveWorker (by simp [SlotRun.WorkerFits, hfits]) (fun hfree => ⟨hfree.1, trivial⟩)
          (by simp [hworker]) nofun
      split
      · next hcancelled => exact hmoved.toIdle ⟨hfits, trivial⟩ (by simp [hcancelled])
      · exact hmoved
  | took =>
      simp only [SlotRun.WorkerFits, hworker] at hfits
      obtain ⟨hcapture, request, hrequest, hbegun⟩ := hfits
      have hbusy : ¬run.Free := by simp [SlotRun.Free, hworker, WorkerPc.Free]
      have hmoved :
          ({ run with worker := .accepted request, capture := run.capture } : SlotRun).Inv :=
        h.moveWorker ⟨hcapture, hbegun⟩ (fun hfree => absurd hfree hbusy) (by simp [hworker]) nofun
      simpa only [SlotRun.workerStep, hworker, hrequest] using hmoved
  | accepted request =>
      simp only [SlotRun.WorkerFits, hworker] at hfits
      simp only [SlotRun.workerStep, hworker]
      have hbusy : ¬run.Free := by simp [SlotRun.Free, hworker, WorkerPc.Free]
      split
      · refine h.moveWorker (fun other hother => ?_) (fun hfree => absurd hfree hbusy)
          (by simp [hworker]) nofun
        cases hother
        exact hfits.2
      · refine h.moveWorker (fun other hother => ?_) (fun hfree => absurd hfree hbusy)
          (by simp [hworker]) nofun
        simp [hfits.1] at hother
  | finishing request =>
      simp only [SlotRun.workerStep, hworker]
      exact h.describe hworker
  | publishing =>
      simp only [SlotRun.WorkerFits, hworker] at hfits
      simp only [SlotRun.workerStep, hworker]
      split
      · next hcapturing => exact h.finish hworker hcapturing
      · exact h.moveWorker hfits.1 (fun hfree => ⟨hfree.1, trivial⟩) (by simp [hworker]) nofun
      · exact h.moveWorker (by simp [SlotRun.WorkerFits, hfits.1]) (fun hfree => ⟨hfree.1, trivial⟩)
          (by simp [hworker]) nofun
  | failing last =>
      simp only [SlotRun.WorkerFits, hworker] at hfits
      have hfree : run.Free := ⟨hfits, by simp [hworker, WorkerPc.Free]⟩
      obtain ⟨hcapturing, hcancelled⟩ := run.state.fail_ne
      simp only [SlotRun.workerStep, hworker]
      cases last with
      | false =>
          exact (h.failState hfree).moveWorker (by simp [SlotRun.WorkerFits, hfits])
            (fun _ => ⟨hfits, trivial⟩) (by simp [hworker]) nofun
      | true =>
          exact (h.failState hfree).moveWorker hfits (fun _ => ⟨hfits, trivial⟩)
            (by simp [hworker]) fun _ => .inr ⟨hcapturing, fun hs => absurd hs hcancelled⟩
  | leaving =>
      simp only [SlotRun.WorkerFits, hworker] at hfits
      simp only [SlotRun.workerStep, hworker]
      refine h.moveWorker hfits (fun _ => ⟨hfits, trivial⟩) (fun _ => rfl) fun _ => .inl ?_
      simp [hworker, WorkerPc.Gone]
  | done =>
      simp only [SlotRun.workerStep, hworker]
      exact h

theorem SlotRun.Inv.step (h : run.Inv) {action : Action} (horderly : run.Orderly action) :
    (run.step action).Inv := by
  cases action with
  | call call now => exact h.callStep now horderly
  | cancel => exact h.cancel
  | worker choice => exact h.workerStep choice

theorem SlotRun.Inv.start : SlotRun.start.Inv :=
  ⟨fun _ => trivial, ⟨fun _ _ => ⟨rfl, trivial⟩, nofun, by simp [SlotRun.start], nofun, nofun,
    nofun, nofun, nofun⟩, nofun⟩

end Inv

/-! ### Whole runs -/

inductive Party
  | worker
  | call (call : ℕ)
  deriving DecidableEq, Repr

/-- Who reads or writes the buffers. -/
def SlotRun.Owns (run : SlotRun) : Party → Prop
  | .worker => run.capture ≠ none ∨ (∃ request, run.worker = .finishing request) ∨
      run.worker = .publishing
  | .call call => (run.calls call).Holds

/-- The slot is idle, the worker alone makes it idle, or a call or a lease has
it. -/
def SlotRun.Settled (run : SlotRun) : Prop :=
  match run.state with
  | .idle => True
  | .cancelled =>
      (∃ choices : List WorkerChoice, (run.steps (choices.map .worker)).state = .idle) ∨
        ∃ call, (run.calls call).Begins
  | .preparing => ∃ call, (run.calls call).Begins
  | .leased => ∃ call, (run.calls call).Holds
  | _ => ∃ call, (run.calls call).Attends

/-- Every step is orderly. -/
def SlotRun.OrderlyRun : SlotRun → List Action → Prop
  | _, [] => True
  | run, action :: actions => run.Orderly action ∧ (run.step action).OrderlyRun actions

theorem SlotRun.Inv.steps {run : SlotRun} (h : run.Inv) {actions : List Action}
    (horderly : run.OrderlyRun actions) : (run.steps actions).Inv := by
  induction actions generalizing run with
  | nil => exact h
  | cons action actions ih => exact ih (h.step horderly.1) horderly.2

@[simp] theorem SlotRun.steps_worker (run : SlotRun) (choice : WorkerChoice)
    (actions : List Action) :
    run.steps (.worker choice :: actions) = (run.workerStep choice).steps actions :=
  rfl

@[simp] theorem SlotRun.steps_nil (run : SlotRun) : run.steps [] = run :=
  rfl

/-- A worker that has not gone clears a cancelled request. -/
theorem SlotRun.Inv.cleared {run : SlotRun} (h : run.Inv) (hstate : run.state = .cancelled)
    (hgone : ¬run.worker.Gone) :
    ∃ choices : List WorkerChoice, (run.steps (choices.map .worker)).state = .idle := by
  have hfits := h.worker
  cases hworker : run.worker with
  | loop => exact ⟨[.poll, .poll, .poll], by simp [SlotRun.workerStep, hworker, hstate]⟩
  | polling => exact ⟨[.poll, .poll], by simp [SlotRun.workerStep, hworker, hstate]⟩
  | clearing => exact ⟨[.poll], by simp [SlotRun.workerStep, hworker, hstate]⟩
  | took =>
      simp only [SlotRun.WorkerFits, hworker] at hfits
      obtain ⟨-, request, hrequest, -⟩ := hfits
      exact ⟨[.poll, .poll, .poll, .poll], by simp [SlotRun.workerStep, hworker, hstate, hrequest]⟩
  | accepted request => exact ⟨[.poll, .poll, .poll], by simp [SlotRun.workerStep, hworker, hstate]⟩
  | finishing request =>
      exact ⟨[.poll, .poll, .poll], by simp [SlotRun.workerStep, hworker, hstate]⟩
  | publishing => exact ⟨[.poll, .poll], by simp [SlotRun.workerStep, hworker, hstate]⟩
  | failing last => exact ⟨[.poll], by simp [SlotRun.workerStep, hworker, hstate, SlotState.fail]⟩
  | leaving => simp [hworker, WorkerPc.Gone] at hgone
  | done => simp [hworker, WorkerPc.Gone] at hgone

theorem SlotRun.Inv.settled {run : SlotRun} (h : run.Inv) : run.Settled := by
  unfold SlotRun.Settled
  cases hstate : run.state with
  | idle => trivial
  | preparing => exact ⟨run.last, h.state.preparing hstate⟩
  | ready => exact ⟨run.last, h.state.attended (.inl hstate)⟩
  | capturing => exact ⟨run.last, h.state.attended (.inr (.inl hstate))⟩
  | complete => exact ⟨run.last, h.state.attended (.inr (.inr (.inl hstate)))⟩
  | failed => exact ⟨run.last, h.state.attended (.inr (.inr (.inr hstate)))⟩
  | leased => exact ⟨run.holder, h.state.leased hstate⟩
  | cancelled =>
      by_cases hgone : run.worker.Gone
      · exact .inr ⟨run.last, h.state.cancelled hstate hgone⟩
      · exact .inl (h.cleared hstate hgone)

theorem SlotRun.Inv.owner {run : SlotRun} (h : run.Inv) {party other : Party}
    (hparty : run.Owns party) (hother : run.Owns other) : party = other := by
  have hworker : ∀ call, run.Owns .worker → ¬run.Owns (.call call) := by
    intro call howns hholds
    have hstate := ((h.calls call).held hholds).2
    obtain ⟨hcapture, hfree⟩ := h.state.free (by simp [hstate]) (by simp [hstate])
    rcases howns with hsome | ⟨request, hfinishing⟩ | hpublishing
    · exact hsome hcapture
    · simp [hfinishing, WorkerPc.Free] at hfree
    · simp [hpublishing, WorkerPc.Free] at hfree
  cases party with
  | worker =>
      cases other with
      | worker => rfl
      | call call => exact absurd hother (hworker call hparty)
  | call call =>
      cases other with
      | worker => exact absurd hparty (hworker call hother)
      | call other =>
          have hcall := ((h.calls call).held hparty).1
          have hheld := ((h.calls other).held hother).1
          rw [hcall, hheld]

/-- If no call takes the slot while another one is inside `begin`, the buffers
have one owner at most, nobody leaves the slot in a state that no one ends, and no
call takes the result of an earlier request. -/
theorem calibration_slot_owned (actions : List Action)
    (horderly : SlotRun.start.OrderlyRun actions) :
    (∀ party other, (SlotRun.start.steps actions).Owns party →
        (SlotRun.start.steps actions).Owns other → party = other) ∧
      (SlotRun.start.steps actions).Settled ∧
      ∀ call ticket result,
        (SlotRun.start.steps actions).calls call = .holding ticket result → ticket ≤ result := by
  have h : (SlotRun.start.steps actions).Inv := SlotRun.Inv.start.steps horderly
  refine ⟨fun _ _ => h.owner, h.settled, fun call ticket result hpc => ?_⟩
  have hcall := h.calls call
  simp only [SlotRun.CallFits, hpc] at hcall
  exact hcall.1

def patient : Circumstances := ⟨false, false⟩

/-- One call that gets its lease. -/
def leasedRun : List Action :=
  [.call 0 patient, .call 0 patient, .call 0 patient, .worker .start, .worker .poll, .worker .poll,
    .worker (.copy true), .worker .poll, .worker .poll, .call 0 patient, .call 0 patient]

theorem calibration_slot_owned_lease :
    SlotRun.start.OrderlyRun leasedRun ∧ (SlotRun.start.steps leasedRun).state = .leased ∧
      (SlotRun.start.steps leasedRun).Settled := by
  have hcalls : ∀ run : SlotRun, run.calls 0 ≠ .absent → run.Orderly (.call 0 patient) :=
    fun run hcall habsent => absurd habsent hcall
  have horderly : SlotRun.start.OrderlyRun leasedRun :=
    ⟨fun _ _ _ => id, hcalls _ (by decide), hcalls _ (by decide), trivial, trivial, trivial,
      trivial, trivial, trivial, hcalls _ (by decide), hcalls _ (by decide), trivial⟩
  exact ⟨horderly, by decide, (calibration_slot_owned leasedRun horderly).2.1⟩

/-- The first call is cancelled inside `begin`, and stores idle when the second
one has its lease; the worker accepts the third one. -/
def hijackedRun : List Action :=
  [.call 0 patient, .call 0 patient, .cancel, .call 0 patient, .worker .poll, .worker .poll,
    .worker .poll, .call 1 patient, .call 1 patient, .call 1 patient, .worker .start, .worker .poll,
    .worker .poll, .worker (.copy true), .worker .poll, .worker .poll, .call 1 patient,
    .call 1 patient, .call 0 patient, .call 2 patient, .call 2 patient, .call 2 patient,
    .worker .start, .worker .poll, .worker .poll]

theorem calibration_slot_two_owners :
    ¬∀ party other, (SlotRun.start.steps hijackedRun).Owns party →
      (SlotRun.start.steps hijackedRun).Owns other → party = other := by
  have hcapture : (SlotRun.start.steps hijackedRun).capture = some 2 := by decide
  have hlease : (SlotRun.start.steps hijackedRun).calls 1 = .holding 1 1 := by decide
  intro hone
  have hworker : (SlotRun.start.steps hijackedRun).Owns .worker := .inl (by rw [hcapture]; nofun)
  have hcall : (SlotRun.start.steps hijackedRun).Owns (.call 1) := by
    simp [SlotRun.Owns, hlease, CallPc.Holds]
  cases hone _ _ hworker hcall

end Lamb.CalibrationSlot
