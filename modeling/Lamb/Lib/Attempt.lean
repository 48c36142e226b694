import Mathlib.Logic.Basic

/-!
Computations that may fail and keep the state they reached either way, and
rules of pre- and postconditions for them. A postcondition has two parts, one
for a result and one for an error; an invariant that every exit keeps is the
same predicate in both.
-/

namespace Lamb.Lib

def Attempt (σ ε β : Type) : Type := σ → Except ε β × σ

namespace Attempt

variable {σ τ ε β γ : Type}

instance : Monad (Attempt σ ε) where
  pure b := fun s => (.ok b, s)
  bind f g := fun s =>
    match f s with
    | (.ok b, s) => g b s
    | (.error e, s) => (.error e, s)

theorem bind_assoc {δ : Type} (f : Attempt σ ε β) (g : β → Attempt σ ε γ)
    (k : γ → Attempt σ ε δ) : (f >>= fun b => g b >>= k) = (f >>= g) >>= k := by
  funext s
  simp only [Bind.bind]
  generalize f s = result
  obtain ⟨_ | b, s'⟩ := result
  · rfl
  · rfl

theorem forM_append {α : Type} (f : α → Attempt σ ε PUnit) (front back : List α) :
    (front ++ back).forM f = (front.forM f >>= fun _ => back.forM f) := by
  induction front with
  | nil => rfl
  | cons a front ih =>
      change (f a >>= fun _ => (front ++ back).forM f) =
        ((f a >>= fun _ => front.forM f) >>= fun _ => back.forM f)
      rw [ih, bind_assoc]

/-- A loop that skips some of its elements is a loop over the others. -/
theorem forM_filter {α : Type} (f : α → Attempt σ ε PUnit) (skip : α → Bool) (l : List α) :
    l.forM (fun a => if skip a then Pure.pure () else f a) =
      (l.filter fun a => !skip a).forM f := by
  induction l with
  | nil => rfl
  | cons a l ih =>
      change ((if skip a then Pure.pure () else f a) >>= fun _ =>
        l.forM fun a => if skip a then Pure.pure () else f a) = _
      rw [ih, List.filter_cons]
      cases skip a with
      | true => rfl
      | false => rfl

theorem bind_of_ok {f : Attempt σ ε β} {g : β → Attempt σ ε γ} {s s' : σ} {b : β}
    (h : f s = (.ok b, s')) : (f >>= g) s = g b s' := by
  simp only [Bind.bind, h]

theorem bind_of_error {f : Attempt σ ε β} {g : β → Attempt σ ε γ} {s : σ} {e : ε}
    (h : (f s).1 = .error e) : (f >>= g) s = (.error e, (f s).2) := by
  simp only [Bind.bind]
  generalize f s = result at h
  obtain ⟨_ | b, s'⟩ := result
  · cases h
    rfl
  · cases h

def fail (e : ε) : Attempt σ ε β := fun s => (.error e, s)

def get : Attempt σ ε σ := fun s => (.ok s, s)

def modify (f : σ → σ) : Attempt σ ε Unit := fun s => (.ok (), f s)

def ofExcept (r : Except ε β) : Attempt σ ε β := fun s => (r, s)

/-- Fails with `e` unless `p` holds. -/
def require (p : Prop) [Decidable p] (e : ε) : Attempt σ ε Unit :=
  if p then pure () else fail e

/-- Runs `f` and hands its result or its error to the caller as a value. -/
def capture (f : Attempt σ ε β) : Attempt σ ε (Except ε β) := fun s =>
  let (r, s) := f s
  (.ok r, s)

/-- Runs `f` on a part of the state. -/
def zoom (view : σ → τ) (update : τ → σ → σ) (f : Attempt τ ε β) : Attempt σ ε β := fun s =>
  let (r, t) := f (view s)
  (r, update t s)

theorem zoom_of_eq {view : σ → τ} {update : τ → σ → σ} {f : Attempt τ ε β} {s : σ}
    {r : Except ε β} {t : τ} (h : f (view s) = (r, t)) :
    zoom view update f s = (r, update t s) := by
  simp only [zoom, h]

/-- Started in `s`, `f` ends with `Q` or fails with `E`. -/
def Ends (f : Attempt σ ε β) (s : σ) (Q : β → σ → Prop) (E : ε → σ → Prop) : Prop :=
  match f s with
  | (.ok b, s') => Q b s'
  | (.error e, s') => E e s'

section Rules

variable {s : σ} {Q Q' : β → σ → Prop} {R : γ → σ → Prop} {E E' : ε → σ → Prop}

theorem Ends.pure {b : β} (h : Q b s) : Ends (Pure.pure b : Attempt σ ε β) s Q E :=
  h

theorem Ends.fail {e : ε} (h : E e s) : Ends (Attempt.fail e : Attempt σ ε β) s Q E :=
  h

theorem Ends.modify {f : σ → σ} {Q : Unit → σ → Prop} (h : Q () (f s)) :
    Ends (Attempt.modify f : Attempt σ ε Unit) s Q E :=
  h

theorem Ends.ofExcept {r : Except ε β} (hok : ∀ b, r = .ok b → Q b s)
    (herror : ∀ e, r = .error e → E e s) : Ends (Attempt.ofExcept r : Attempt σ ε β) s Q E := by
  cases r with
  | error e => exact herror e rfl
  | ok b => exact hok b rfl

theorem Ends.bind {f : Attempt σ ε β} {g : β → Attempt σ ε γ} (hf : Ends f s Q E)
    (hg : ∀ b s', Q b s' → Ends (g b) s' R E) : Ends (f >>= g) s R E := by
  unfold Ends at hf ⊢
  change match (match f s with
    | (.ok b, s') => g b s'
    | (.error e, s') => (.error e, s')) with
    | (.ok c, s') => R c s'
    | (.error e, s') => E e s'
  generalize f s = result at hf
  obtain ⟨_ | b, s'⟩ := result
  · exact hf
  · exact hg b s' hf

theorem Ends.bindOk {f : Attempt σ ε β} {g : β → Attempt σ ε γ} {b : β} {s' : σ}
    (hf : f s = (.ok b, s')) (hg : Ends (g b) s' R E) : Ends (f >>= g) s R E := by
  refine .bind (Q := fun c t => c = b ∧ t = s') ?_ ?_
  · unfold Ends
    rw [hf]
    exact ⟨rfl, rfl⟩
  · rintro _ _ ⟨rfl, rfl⟩
    exact hg

theorem Ends.mono {f : Attempt σ ε β} (hf : Ends f s Q E) (hQ : ∀ b s', Q b s' → Q' b s')
    (hE : ∀ e s', E e s' → E' e s') : Ends f s Q' E' := by
  unfold Ends at hf ⊢
  generalize f s = result at hf
  obtain ⟨_ | b, s'⟩ := result
  · exact hE _ _ hf
  · exact hQ _ _ hf

theorem Ends.and {f : Attempt σ ε β} (h : Ends f s Q E) (h' : Ends f s Q' E') :
    Ends f s (fun b s' => Q b s' ∧ Q' b s') (fun e s' => E e s' ∧ E' e s') := by
  unfold Ends at h h' ⊢
  generalize f s = result at h h'
  obtain ⟨_ | b, s'⟩ := result
  · exact ⟨h, h'⟩
  · exact ⟨h, h'⟩

/-- A result may be traced back to the run it comes from. -/
theorem Ends.traced {f : Attempt σ ε β} (hf : Ends f s Q E) :
    Ends f s (fun b s' => f s = (.ok b, s') ∧ Q b s') E := by
  unfold Ends at hf ⊢
  generalize f s = result at hf ⊢
  obtain ⟨_ | b, s'⟩ := result
  · exact hf
  · exact ⟨rfl, hf⟩

theorem Ends.of_ok {f : Attempt σ ε β} {b : β} (hf : Ends f s Q E) (hb : (f s).1 = .ok b) :
    Q b (f s).2 := by
  unfold Ends at hf
  generalize f s = result at hf hb
  obtain ⟨r, s'⟩ := result
  cases hb
  exact hf

theorem Ends.of_error {f : Attempt σ ε β} {e : ε} (hf : Ends f s Q E)
    (he : (f s).1 = .error e) : E e (f s).2 := by
  unfold Ends at hf
  generalize f s = result at hf he
  obtain ⟨r, s'⟩ := result
  cases he
  exact hf

/-- What every exit guarantees holds of the state that is reached. -/
theorem Ends.reached {f : Attempt σ ε β} {P : σ → Prop} (hf : Ends f s (fun _ => P) fun _ => P) :
    P (f s).2 := by
  unfold Ends at hf
  generalize f s = result at hf
  obtain ⟨_ | b, s'⟩ := result
  · exact hf
  · exact hf

/-- What holds of the state that is reached holds at every exit. -/
theorem Ends.of_reached {f : Attempt σ ε β} {P : σ → Prop} (h : P (f s).2) :
    Ends f s (fun _ => P) fun _ => P := by
  unfold Ends
  generalize f s = result at h
  obtain ⟨_ | b, s'⟩ := result
  · exact h
  · exact h

theorem Ends.bindGet {g : σ → Attempt σ ε γ} (hg : Ends (g s) s R E) :
    Ends (Attempt.get >>= g) s R E :=
  hg

theorem Ends.bindModify {f : σ → σ} {g : Unit → Attempt σ ε γ} (hg : Ends (g ()) (f s) R E) :
    Ends (Attempt.modify f >>= g) s R E :=
  hg

theorem Ends.bindRequire {p : Prop} [Decidable p] {e : ε} {g : Unit → Attempt σ ε γ}
    (hno : ¬p → E e s) (hyes : p → Ends (g ()) s R E) :
    Ends (Attempt.require p e >>= g) s R E := by
  unfold Attempt.require
  by_cases hp : p
  · rw [if_pos hp]
    exact hyes hp
  · rw [if_neg hp]
    exact hno hp

theorem Ends.bindOfExcept {r : Except ε β} {g : β → Attempt σ ε γ}
    (herror : ∀ e, r = .error e → E e s) (hok : ∀ b, r = .ok b → Ends (g b) s R E) :
    Ends (Attempt.ofExcept r >>= g) s R E := by
  cases r with
  | error e => exact herror e rfl
  | ok b => exact hok b rfl

theorem Ends.capture {f : Attempt σ ε β} {Q' : Except ε β → σ → Prop}
    (hf : Ends f s (fun b => Q' (.ok b)) (fun e => Q' (.error e))) : Ends f.capture s Q' E := by
  unfold Ends at hf
  change Q' (f s).1 (f s).2
  generalize f s = result at hf
  obtain ⟨_ | b, s'⟩ := result
  · exact hf
  · exact hf

theorem Ends.zoom {view : σ → τ} {update : τ → σ → σ} {f : Attempt τ ε β}
    (hf : Ends f (view s) (fun b t => Q b (update t s)) (fun e t => E e (update t s))) :
    Ends (Attempt.zoom view update f) s Q E := by
  unfold Ends at hf
  change match ((f (view s)).1, update (f (view s)).2 s) with
    | (.ok b, s') => Q b s'
    | (.error e, s') => E e s'
  generalize f (view s) = result at hf
  obtain ⟨_ | b, t⟩ := result
  · exact hf
  · exact hf

theorem Ends.bindZoom {view : σ → τ} {update : τ → σ → σ} {f : Attempt τ ε β}
    {g : β → Attempt σ ε γ} {A : β → τ → Prop} {F : ε → τ → Prop} (hf : Ends f (view s) A F)
    (hg : ∀ b t, A b t → Ends (g b) (update t s) R E)
    (herror : ∀ e t, F e t → E e (update t s)) :
    Ends (Attempt.zoom view update f >>= g) s R E := by
  refine .bind (.zoom (hf.mono (fun b t hb => ?_) herror)) fun b s' hs' => hs'
  exact hg b t hb

theorem Ends.ite {p : Prop} [Decidable p] {f g : Attempt σ ε β} (hf : p → Ends f s Q E)
    (hg : ¬p → Ends g s Q E) : Ends (if p then f else g) s Q E := by
  by_cases hp : p
  · rw [if_pos hp]
    exact hf hp
  · rw [if_neg hp]
    exact hg hp

end Rules

/-! ### Kept predicates -/

/-- However it exits, `f` keeps `P`. -/
def Preserves (P : σ → Prop) (f : Attempt σ ε β) : Prop :=
  ∀ s, P s → Ends f s (fun _ => P) fun _ => P

section Preserves

variable {P : σ → Prop}

theorem Preserves.pure (b : β) : Preserves P (Pure.pure b : Attempt σ ε β) :=
  fun _ hs => hs

theorem Preserves.fail (e : ε) : Preserves P (Attempt.fail e : Attempt σ ε β) :=
  fun _ hs => hs

theorem Preserves.modify {f : σ → σ} (h : ∀ s, P s → P (f s)) :
    Preserves P (Attempt.modify f : Attempt σ ε Unit) :=
  h

theorem Preserves.ofExcept (r : Except ε β) : Preserves P (Attempt.ofExcept r : Attempt σ ε β) :=
  fun _ hs => .ofExcept (fun _ _ => hs) fun _ _ => hs

theorem Preserves.bind {f : Attempt σ ε β} {g : β → Attempt σ ε γ} (hf : Preserves P f)
    (hg : ∀ b, Preserves P (g b)) : Preserves P (f >>= g) :=
  fun s hs => .bind (hf s hs) fun b s' hs' => hg b s' hs'

theorem Preserves.bindGet {g : σ → Attempt σ ε γ} (hg : ∀ s, Preserves P (g s)) :
    Preserves P (Attempt.get >>= g) :=
  fun s hs => hg s s hs

theorem Preserves.bindModify {f : σ → σ} {g : Unit → Attempt σ ε γ} (h : ∀ s, P s → P (f s))
    (hg : Preserves P (g ())) : Preserves P (Attempt.modify f >>= g) :=
  fun s hs => hg (f s) (h s hs)

theorem Preserves.bindRequire {p : Prop} [Decidable p] {e : ε} {g : Unit → Attempt σ ε γ}
    (hg : Preserves P (g ())) : Preserves P (Attempt.require p e >>= g) :=
  fun s hs => .bindRequire (fun _ => hs) fun _ => hg s hs

theorem Preserves.bindOfExcept {r : Except ε β} {g : β → Attempt σ ε γ}
    (hg : ∀ b, Preserves P (g b)) : Preserves P (Attempt.ofExcept r >>= g) :=
  fun s hs => .bindOfExcept (fun _ _ => hs) fun b _ => hg b s hs

theorem Preserves.capture {f : Attempt σ ε β} (hf : Preserves P f) : Preserves P f.capture :=
  fun s hs => .capture (hf s hs)

theorem Preserves.ite {p : Prop} [Decidable p] {f g : Attempt σ ε β} (hf : Preserves P f)
    (hg : Preserves P g) : Preserves P (if p then f else g) :=
  fun s hs => .ite (fun _ => hf s hs) fun _ => hg s hs

theorem Preserves.reached {f : Attempt σ ε β} (hf : Preserves P f) {s : σ} (hs : P s) :
    P (f s).2 :=
  (hf s hs).reached

end Preserves

end Attempt

end Lamb.Lib
