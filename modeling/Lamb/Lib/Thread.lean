import Mathlib.Algebra.Ring.Nat
import Mathlib.Logic.Function.Basic

/-!
Threads that share a state. A thread is the tree of the atomic steps it may still
make; between two of them the other threads do what they like. The rules are those
of rely and guarantee: a thread meets its specification if it does so whatever steps
of the rely relation come between its own, and if each step of its own is one of the
guarantee relation. Threads whose guarantees are relied upon by the others meet their
specifications together, under every schedule.
-/

namespace Lamb.Lib

/-- A thread that ends with a `β`. A step waits until the shared state is ready for
it; what comes after it may depend on the state it has found. -/
inductive Thread (σ β : Type)
  | done (b : β)
  | step (ready : σ → Bool) (act : σ → σ) (next : σ → Thread σ β)

namespace Thread

variable {σ β γ : Type}

def bind : Thread σ β → (β → Thread σ γ) → Thread σ γ
  | .done b, f => f b
  | .step ready act next, f => .step ready act fun s => (next s).bind f

instance instMonad : Monad (Thread σ) where
  pure := .done
  bind := Thread.bind

/-- Looks at the state. -/
def read (f : σ → β) : Thread σ β :=
  .step (fun _ => true) id fun s => .done (f s)

def modify (f : σ → σ) : Thread σ Unit :=
  .step (fun _ => true) f fun _ => .done ()

/-- Waits for the state to be ready and changes it in the same step. -/
def await (ready : σ → Bool) (f : σ → σ) : Thread σ Unit :=
  .step ready f fun _ => .done ()

/-- As `await`, with an answer. -/
def atomic (ready : σ → Bool) (f : σ → β × σ) : Thread σ β :=
  .step ready (fun s => (f s).2) fun s => .done (f s).1

/-! ### What a thread does among others -/

/-- `P` survives the steps of others. -/
def Stable (R : σ → σ → Prop) (P : σ → Prop) : Prop :=
  ∀ s s', P s → R s s' → P s'

/-- Some steps of others, one after the other. -/
inductive Others (R : σ → σ → Prop) : σ → σ → Prop
  | none (s : σ) : Others R s s
  | some {s s' s'' : σ} : R s s' → Others R s' s'' → Others R s s''

theorem Stable.others {R : σ → σ → Prop} {P : σ → Prop} (h : Stable R P) {s s' : σ}
    (hothers : Others R s s') (hs : P s) : P s' := by
  induction hothers with
  | none s => exact hs
  | some hstep _ ih => exact ih (h _ _ hs hstep)

theorem Stable.and {R : σ → σ → Prop} {P P' : σ → Prop} (h : Stable R P) (h' : Stable R P') :
    Stable R fun s => P s ∧ P' s :=
  fun s s' hs hstep => ⟨h s s' hs.1 hstep, h' s s' hs.2 hstep⟩

/-- From `s` on, each step of the thread is one of `G`, and it ends with `Q`, whatever
steps of `R` the others make in between. -/
def Meets (R G : σ → σ → Prop) (Q : β → σ → Prop) : Thread σ β → σ → Prop
  | .done b, s => ∀ s', Others R s s' → Q b s'
  | .step ready act next, s => ∀ s', Others R s s' → ready s' = true →
      G s' (act s') ∧ (next s').Meets R G Q (act s')

/-- Started where `P` holds, the thread meets `Q`. -/
def Spec (R G : σ → σ → Prop) (P : σ → Prop) (thread : Thread σ β) (Q : β → σ → Prop) : Prop :=
  ∀ s, P s → thread.Meets R G Q s

section Rules

variable {R G : σ → σ → Prop} {P P' : σ → Prop} {Q Q' : β → σ → Prop}

/-- What a thread meets it still meets after a step of another one. -/
theorem Meets.other {thread : Thread σ β} {s s' : σ} (h : thread.Meets R G Q s) (hstep : R s s') :
    thread.Meets R G Q s' := by
  cases thread with
  | done b => exact fun _ hothers => h _ (.some hstep hothers)
  | step ready act next => exact fun _ hothers => h _ (.some hstep hothers)

theorem Meets.bind {thread : Thread σ β} {f : β → Thread σ γ} {Q' : γ → σ → Prop} {s : σ}
    (h : thread.Meets R G Q s) (hf : ∀ b, Spec R G (Q b) (f b) Q') :
    (thread.bind f).Meets R G Q' s := by
  induction thread generalizing s with
  | done b => exact hf b s (h s (.none s))
  | step ready act next ih =>
      intro s' hothers hready
      obtain ⟨hguarantee, hnext⟩ := h s' hothers hready
      exact ⟨hguarantee, ih s' hnext⟩

theorem Meets.mono {thread : Thread σ β} {s : σ} (h : thread.Meets R G Q s)
    (hQ : ∀ b s, Q b s → Q' b s) : thread.Meets R G Q' s := by
  induction thread generalizing s with
  | done b => exact fun s' hothers => hQ b s' (h s' hothers)
  | step ready act next ih =>
      intro s' hothers hready
      obtain ⟨hguarantee, hnext⟩ := h s' hothers hready
      exact ⟨hguarantee, ih s' hnext⟩

theorem Spec.bind {thread : Thread σ β} {f : β → Thread σ γ} {Q' : γ → σ → Prop}
    (h : Spec R G P thread Q) (hf : ∀ b, Spec R G (Q b) (f b) Q') :
    Spec R G P (thread >>= f) Q' :=
  fun s hs => (h s hs).bind hf

theorem Spec.mono {thread : Thread σ β} (h : Spec R G P thread Q) (hP : ∀ s, P' s → P s)
    (hQ : ∀ b s, Q b s → Q' b s) : Spec R G P' thread Q' :=
  fun s hs => (h s (hP s hs)).mono hQ

theorem Spec.pre {thread : Thread σ β} (h : Spec R G P thread Q) (hP : ∀ s, P' s → P s) :
    Spec R G P' thread Q :=
  fun s hs => h s (hP s hs)

theorem Spec.pure {b : β} (hP : Stable R P) (h : ∀ s, P s → Q b s) :
    Spec R G P (Pure.pure b) Q :=
  fun _ hs _ hothers => h _ (hP.others hothers hs)

theorem Spec.read {f : σ → β} (hP : Stable R P) (hQ : ∀ b, Stable R (Q b))
    (h : ∀ s, P s → G s s ∧ Q (f s) s) : Spec R G P (Thread.read f) Q := by
  intro s hs s' hothers _
  obtain ⟨hguarantee, hafter⟩ := h s' (hP.others hothers hs)
  exact ⟨hguarantee, fun _ hlater => (hQ _).others hlater hafter⟩

theorem Spec.await {ready : σ → Bool} {f : σ → σ} {Q : Unit → σ → Prop} (hP : Stable R P)
    (hQ : Stable R (Q ())) (h : ∀ s, P s → ready s = true → G s (f s) ∧ Q () (f s)) :
    Spec R G P (Thread.await ready f) Q := by
  intro s hs s' hothers hready
  obtain ⟨hguarantee, hafter⟩ := h s' (hP.others hothers hs) hready
  exact ⟨hguarantee, fun _ hlater => hQ.others hlater hafter⟩

theorem Spec.modify {f : σ → σ} {Q : Unit → σ → Prop} (hP : Stable R P) (hQ : Stable R (Q ()))
    (h : ∀ s, P s → G s (f s) ∧ Q () (f s)) : Spec R G P (Thread.modify f) Q :=
  .await hP hQ fun s hs _ => h s hs

theorem Spec.atomic {ready : σ → Bool} {f : σ → β × σ} (hP : Stable R P)
    (hQ : ∀ b, Stable R (Q b))
    (h : ∀ s, P s → ready s = true → G s (f s).2 ∧ Q (f s).1 (f s).2) :
    Spec R G P (Thread.atomic ready f) Q := by
  intro s hs s' hothers hready
  obtain ⟨hguarantee, hafter⟩ := h s' (hP.others hothers hs) hready
  exact ⟨hguarantee, fun _ hlater => (hQ _).others hlater hafter⟩

theorem Spec.ite {p : Prop} [Decidable p] {thread thread' : Thread σ β}
    (h : p → Spec R G P thread Q) (h' : ¬p → Spec R G P thread' Q) :
    Spec R G P (if p then thread else thread') Q := by
  by_cases hp : p
  · rw [if_pos hp]
    exact h hp
  · rw [if_neg hp]
    exact h' hp

/-- A thread that cannot be started there. -/
theorem Spec.absurd {thread : Thread σ β} (h : ∀ s, ¬P s) : Spec R G P thread Q :=
  fun s hs => (h s hs).elim

end Rules

end Thread

/-! ### Threads together -/

/-- Threads with the state they share. -/
structure Pool (ι σ : Type) where
  shared : σ
  threads : ι → Thread σ Unit

/-- What the scheduler chooses: a thread that makes its next step, or one that has
ended and takes up something new. -/
inductive Turn (ι κ : Type)
  | advance (i : ι)
  | launch (i : ι) (what : κ)
  deriving DecidableEq, Repr

namespace Pool

variable {ι κ σ : Type} [DecidableEq ι]

/-- What a thread takes up, and the step it takes it up with. -/
abbrev Launch (ι κ σ : Type) := ι → κ → σ → Option (Thread σ Unit × σ)

def turn (launch : Launch ι κ σ) (pool : Pool ι σ) : Turn ι κ → Pool ι σ
  | .advance i =>
      match pool.threads i with
      | .done _ => pool
      | .step ready act next =>
          if ready pool.shared then
            { shared := act pool.shared
              threads := Function.update pool.threads i (next pool.shared) }
          else pool
  | .launch i what =>
      match pool.threads i with
      | .step _ _ _ => pool
      | .done _ =>
          match launch i what pool.shared with
          | none => pool
          | some (thread, shared) =>
              { shared, threads := Function.update pool.threads i thread }

def run (launch : Launch ι κ σ) (pool : Pool ι σ) (turns : List (Turn ι κ)) : Pool ι σ :=
  turns.foldl (turn launch) pool

theorem run_append (launch : Launch ι κ σ) (pool : Pool ι σ) (turns later : List (Turn ι κ)) :
    pool.run launch (turns ++ later) = (pool.run launch turns).run launch later :=
  List.foldl_append ..

/-- The thread has ended, and may take up something new. -/
def Ended (pool : Pool ι σ) (i : ι) : Prop :=
  ∃ u, pool.threads i = .done u

/-- The guarantee of each thread is what the others rely on, and between two things it
takes up, thread `i` leaves `Q i` behind. -/
structure Compatible (launch : Launch ι κ σ) (R G : ι → σ → σ → Prop) (Q : ι → σ → Prop) :
    Prop where
  relies : ∀ i j, i ≠ j → ∀ s s', G i s s' → R j s s'
  launches : ∀ i what s thread s', Q i s → launch i what s = some (thread, s') →
    G i s s' ∧ thread.Meets (R i) (G i) (fun _ => Q i) s'

/-- Every thread meets its specification in the state that is shared. -/
def Lawful (R G : ι → σ → σ → Prop) (Q : ι → σ → Prop) (pool : Pool ι σ) : Prop :=
  ∀ i, (pool.threads i).Meets (R i) (G i) (fun _ => Q i) pool.shared

section Together

variable {launch : Launch ι κ σ} {R G : ι → σ → σ → Prop} {Q : ι → σ → Prop}
  {pool : Pool ι σ}

theorem Lawful.update (h : pool.Lawful R G Q) (hcompatible : Compatible launch R G Q) {i : ι}
    {thread : Thread σ Unit} {s : σ} (hstep : G i pool.shared s)
    (hthread : thread.Meets (R i) (G i) (fun _ => Q i) s) :
    Lawful R G Q ⟨s, Function.update pool.threads i thread⟩ := by
  intro j
  rcases eq_or_ne j i with rfl | hother
  · simp only [Function.update_self]
    exact hthread
  · simp only [Function.update_of_ne hother]
    exact (h j).other (hcompatible.relies i j hother.symm _ _ hstep)

/-- A turn is a step of some thread's guarantee, and all threads go on to meet their
specifications. -/
theorem Lawful.turn (h : pool.Lawful R G Q) (hcompatible : Compatible launch R G Q)
    (t : Turn ι κ) :
    (pool.turn launch t).Lawful R G Q ∧
      ((pool.turn launch t).shared = pool.shared ∨
        ∃ i, G i pool.shared (pool.turn launch t).shared) := by
  cases t with
  | advance i =>
      have hi := h i
      simp only [Pool.turn]
      cases hthread : pool.threads i with
      | done u => exact ⟨h, .inl rfl⟩
      | step ready act next =>
          rw [hthread] at hi
          simp only
          split
          · next hready =>
              obtain ⟨hstep, hnext⟩ := hi _ (.none _) hready
              exact ⟨h.update hcompatible hstep hnext, .inr ⟨i, hstep⟩⟩
          · exact ⟨h, .inl rfl⟩
  | launch i what =>
      have hi := h i
      simp only [Pool.turn]
      cases hthread : pool.threads i with
      | step ready act next => exact ⟨h, .inl rfl⟩
      | done u =>
          rw [hthread] at hi
          simp only
          cases hlaunch : launch i what pool.shared with
          | none => exact ⟨h, .inl rfl⟩
          | some launched =>
              obtain ⟨thread, s⟩ := launched
              obtain ⟨hstep, hmeets⟩ :=
                hcompatible.launches i what _ _ _ (hi _ (.none _)) hlaunch
              exact ⟨h.update hcompatible hstep hmeets, .inr ⟨i, hstep⟩⟩

theorem Lawful.run (h : pool.Lawful R G Q) (hcompatible : Compatible launch R G Q)
    (turns : List (Turn ι κ)) : (pool.run launch turns).Lawful R G Q := by
  induction turns generalizing pool with
  | nil => exact h
  | cons t turns ih => exact ih (h.turn hcompatible t).1

/-- What every thread's steps preserve, a run preserves. -/
theorem Lawful.preserves (h : pool.Lawful R G Q) (hcompatible : Compatible launch R G Q)
    {P : σ → Prop} (hkept : ∀ i s s', P s → G i s s' → P s') (turns : List (Turn ι κ))
    (hP : P pool.shared) : P (pool.run launch turns).shared := by
  induction turns generalizing pool with
  | nil => exact hP
  | cons t turns ih =>
      obtain ⟨hlawful, hsame | ⟨i, hstep⟩⟩ := h.turn hcompatible t
      · exact ih hlawful (by rw [hsame]; exact hP)
      · exact ih hlawful (hkept i _ _ hP hstep)

/-- Until it takes up something new, a thread also keeps to whatever it meets besides. -/
theorem Lawful.besides (h : pool.Lawful R G Q) (hcompatible : Compatible launch R G Q) {i : ι}
    {G' : σ → σ → Prop} {Q' : Unit → σ → Prop}
    (hmeets : (pool.threads i).Meets (R i) G' Q' pool.shared) (turns : List (Turn ι κ))
    (hturns : ∀ what, .launch i what ∉ turns) :
    ((pool.run launch turns).threads i).Meets (R i) G' Q' (pool.run launch turns).shared := by
  induction turns generalizing pool with
  | nil => exact hmeets
  | cons t turns ih =>
      refine ih (h.turn hcompatible t).1 ?_ fun what hmem =>
        hturns what (List.mem_cons_of_mem _ hmem)
      have hnot : ∀ what, t ≠ .launch i what := by
        rintro what rfl
        exact hturns what (List.mem_cons_self ..)
      cases t with
      | advance j =>
          have hj := h j
          simp only [Pool.turn]
          cases hthread : pool.threads j with
          | done u => exact hmeets
          | step ready act next =>
              rw [hthread] at hj
              simp only
              split
              · next hready =>
                  rcases eq_or_ne i j with rfl | hother
                  · rw [hthread] at hmeets
                    simp only [Function.update_self]
                    exact (hmeets _ (.none _) hready).2
                  · simp only [Function.update_of_ne hother]
                    exact hmeets.other (hcompatible.relies j i hother.symm _ _
                      (hj _ (.none _) hready).1)
              · exact hmeets
      | launch j what =>
          have hother : i ≠ j := by
            rintro rfl
            exact hnot what rfl
          have hj := h j
          simp only [Pool.turn]
          cases hthread : pool.threads j with
          | step ready act next => exact hmeets
          | done u =>
              rw [hthread] at hj
              simp only
              cases hlaunch : launch j what pool.shared with
              | none => exact hmeets
              | some launched =>
                  obtain ⟨thread, s⟩ := launched
                  simp only [Function.update_of_ne hother]
                  exact hmeets.other (hcompatible.relies j i hother.symm _ _
                    (hcompatible.launches j what _ _ _ (hj _ (.none _)) hlaunch).1)

/-- A turn of a thread is a step of whatever it meets. -/
theorem advance_of_meets {i : ι} {G' : σ → σ → Prop} {R' : σ → σ → Prop} {Q' : Unit → σ → Prop}
    (hmeets : (pool.threads i).Meets R' G' Q' pool.shared) :
    (pool.turn launch (.advance i)).shared = pool.shared ∨
      G' pool.shared (pool.turn launch (.advance i)).shared := by
  simp only [Pool.turn]
  cases hthread : pool.threads i with
  | done u => exact .inl rfl
  | step ready act next =>
      rw [hthread] at hmeets
      simp only
      split
      · next hready => exact .inr (hmeets _ (.none _) hready).1
      · exact .inl rfl

omit [DecidableEq ι] in
/-- A thread that has ended has left its postcondition behind. -/
theorem Lawful.ended (h : pool.Lawful R G Q) {i : ι} (hended : pool.Ended i) :
    Q i pool.shared := by
  obtain ⟨u, hthread⟩ := hended
  have hi := h i
  rw [hthread] at hi
  exact hi _ (.none _)

end Together

end Pool

end Lamb.Lib
