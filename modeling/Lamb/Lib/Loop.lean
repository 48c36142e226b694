import Mathlib.Data.List.Forall2

/-!
Loops that stop at their first error, as folds in `Except`: when a loop
succeeds, and what it has then collected.
-/

namespace Lamb.Lib

variable {ε α β γ σ : Type}

theorem except_bind_eq_ok {r : Except ε α} {f : α → Except ε β} {b : β} :
    r >>= f = .ok b ↔ ∃ a, r = .ok a ∧ f a = .ok b := by
  cases r with
  | error e => simp [bind, Except.bind]
  | ok a => simp [bind, Except.bind]

theorem except_map_eq_ok {r : Except ε α} {f : α → β} {b : β} (h : r.map f = .ok b) :
    ∃ a, r = .ok a ∧ f a = b := by
  cases r with
  | error e => cases h
  | ok a => exact ⟨a, rfl, Except.ok.inj h⟩

theorem forM_eq_ok {f : α → Except ε Unit} {l : List α} :
    l.forM f = .ok () ↔ ∀ a ∈ l, f a = .ok () := by
  induction l with
  | nil => simp [List.forM, pure, Except.pure]
  | cons a l ih =>
      change (f a >>= fun _ => l.forM f) = .ok () ↔ _
      rw [except_bind_eq_ok, List.forall_mem_cons, ← ih]
      exact ⟨fun ⟨_, hfirst, hrest⟩ => ⟨hfirst, hrest⟩, fun ⟨hfirst, hrest⟩ => ⟨_, hfirst, hrest⟩⟩

theorem mapM_eq_ok {f : α → Except ε β} {l : List α} {l' : List β} :
    l.mapM f = .ok l' ↔ List.Forall₂ (fun a b => f a = .ok b) l l' := by
  induction l generalizing l' with
  | nil =>
      rw [List.mapM_nil, List.forall₂_nil_left_iff]
      exact ⟨fun h => (Except.ok.inj h).symm, fun h => h ▸ rfl⟩
  | cons a l ih =>
      rw [List.mapM_cons, except_bind_eq_ok, List.forall₂_cons_left_iff]
      refine exists_congr fun b => ?_
      rw [except_bind_eq_ok]
      constructor
      · rintro ⟨hb, bs, hbs, h⟩
        exact ⟨bs, hb, ih.mp hbs, (Except.ok.inj h).symm⟩
      · rintro ⟨bs, hb, hbs, rfl⟩
        exact ⟨hb, bs, ih.mpr hbs, rfl⟩

theorem toOption_congr {r r' : Except ε α} (h : ∀ a, r' = .ok a ↔ r = .ok a) :
    r'.toOption = r.toOption := by
  cases r with
  | ok a => rw [(h a).mpr rfl]
  | error e =>
      cases r' with
      | ok a => cases (h a).mp rfl
      | error e' => rfl

theorem foldlM_ok_congr {f g : σ → α → Except ε σ} {l : List α}
    (h : ∀ a ∈ l, ∀ s s', f s a = .ok s' ↔ g s a = .ok s') (s s' : σ) :
    l.foldlM f s = .ok s' ↔ l.foldlM g s = .ok s' := by
  induction l generalizing s with
  | nil => exact Iff.rfl
  | cons a l ih =>
      simp only [List.foldlM_cons, except_bind_eq_ok, h a (by simp)]
      exact exists_congr fun middle => and_congr_right fun _ =>
        ih (fun a ha => h a (by simp [ha])) middle

theorem foldlM_congr {f g : σ → α → Except ε σ} {l : List α} (h : ∀ a ∈ l, ∀ s, f s a = g s a)
    (s : σ) : l.foldlM f s = l.foldlM g s := by
  induction l generalizing s with
  | nil => rfl
  | cons a l ih =>
      rw [List.foldlM_cons, List.foldlM_cons, h a (by simp)]
      exact congrArg _ (funext (ih fun a ha => h a (by simp [ha])))

/-- A loop over blocks is a loop of loops. -/
theorem foldlM_flatMap_eq (f : σ → β → Except ε σ) (g : α → List β) (l : List α) (s : σ) :
    (l.flatMap g).foldlM f s = l.foldlM (fun s a => (g a).foldlM f s) s := by
  induction l generalizing s with
  | nil => rfl
  | cons a l ih =>
      rw [List.flatMap_cons, List.foldlM_append, List.foldlM_cons]
      exact congrArg _ (funext ih)

/-- A check made before a loop may as well be made in every pass. -/
theorem bind_foldlM_eq_ok {check : Except ε γ} {f : γ → σ → α → Except ε σ} {l : List α}
    (hne : l ≠ []) {s s' : σ} :
    (check >>= fun c => l.foldlM (f c) s) = .ok s' ↔
      l.foldlM (fun s a => check >>= fun c => f c s a) s = .ok s' := by
  cases check with
  | ok c => exact Iff.rfl
  | error e =>
      obtain ⟨a, l, rfl⟩ := List.exists_cons_of_ne_nil hne
      simp [bind, Except.bind, List.foldlM_cons]

/-- A loop that appends one result to what it has, when the result stands in
`D` to everything collected before. -/
theorem foldlM_collect {f : List β → α → Except ε (List β)} {R : α → β → Prop}
    {D : β → β → Prop} {l : List α}
    (hf : ∀ a ∈ l, ∀ acc acc', f acc a = .ok acc' ↔
      ∃ b, R a b ∧ (∀ x ∈ acc, D x b) ∧ acc' = acc ++ [b]) (acc acc' : List β) :
    l.foldlM f acc = .ok acc' ↔
      ∃ news, List.Forall₂ R l news ∧ (∀ x ∈ acc, ∀ b ∈ news, D x b) ∧ news.Pairwise D ∧
        acc' = acc ++ news := by
  induction l generalizing acc with
  | nil =>
      constructor
      · intro h
        obtain rfl := Except.ok.inj h
        exact ⟨[], .nil, by simp, .nil, by simp⟩
      · rintro ⟨news, hnews, -, -, rfl⟩
        cases hnews
        rw [List.append_nil]
        rfl
  | cons a l ih =>
      rw [List.foldlM_cons, except_bind_eq_ok]
      have hrest := ih fun a ha => hf a (by simp [ha])
      constructor
      · rintro ⟨middle, hstep, hloop⟩
        obtain ⟨b, hb, hapart, rfl⟩ := (hf a (by simp) _ _).mp hstep
        obtain ⟨news, hnews, hacc, hpair, rfl⟩ := (hrest _).mp hloop
        refine ⟨b :: news, .cons hb hnews, ?_, ?_, by simp⟩
        · intro x hx b' hb'
          rcases List.mem_cons.mp hb' with rfl | hb'
          · exact hapart x hx
          · exact hacc x (by simp [hx]) b' hb'
        · exact List.pairwise_cons.mpr ⟨fun b' hb' => hacc b (by simp) b' hb', hpair⟩
      · rintro ⟨news, hnews, hacc, hpair, rfl⟩
        cases hnews with
        | cons hb hnews =>
            rename_i b news
            obtain ⟨hfirst, hpair⟩ := List.pairwise_cons.mp hpair
            refine ⟨acc ++ [b], (hf a (by simp) _ _).mpr
              ⟨b, hb, fun x hx => hacc x hx b (by simp), rfl⟩, (hrest _).mpr
              ⟨news, hnews, ?_, hpair, by simp⟩⟩
            intro x hx b' hb'
            rcases List.mem_append.mp hx with hx | hx
            · exact hacc x hx b' (by simp [hb'])
            · rw [List.mem_singleton.mp hx]
              exact hfirst b' hb'

/-- What every pass keeps, the loop keeps. -/
theorem foldlM_invariant {f : σ → α → Except ε σ} {P : σ → Prop} {l : List α}
    (hstep : ∀ a ∈ l, ∀ s s', P s → f s a = .ok s' → P s') {s s' : σ} (hs : P s)
    (h : l.foldlM f s = .ok s') : P s' := by
  induction l generalizing s with
  | nil =>
      obtain rfl := Except.ok.inj h
      exact hs
  | cons a l ih =>
      rw [List.foldlM_cons, except_bind_eq_ok] at h
      obtain ⟨middle, hfirst, hrest⟩ := h
      exact ih (fun a ha => hstep a (by simp [ha])) (hstep a (by simp) s middle hs hfirst) hrest

/-- A loop over the first numbers, with an invariant that counts. -/
theorem foldlM_range_invariant {f : σ → ℕ → Except ε σ} {P : ℕ → σ → Prop} {n : ℕ}
    (hstep : ∀ i < n, ∀ s s', P i s → f s i = .ok s' → P (i + 1) s') {s s' : σ} (hs : P 0 s)
    (h : (List.range n).foldlM f s = .ok s') : P n s' := by
  induction n generalizing s' with
  | zero =>
      obtain rfl := Except.ok.inj h
      exact hs
  | succ n ih =>
      rw [List.range_succ, List.foldlM_append, except_bind_eq_ok] at h
      obtain ⟨middle, hloop, hlast⟩ := h
      rw [List.foldlM_cons, except_bind_eq_ok] at hlast
      obtain ⟨_, hlast, hend⟩ := hlast
      obtain rfl := Except.ok.inj hend
      exact hstep n (Nat.lt_succ_self n) middle _
        (ih (fun i hi => hstep i (by omega)) hloop) hlast

/-- A loop whose passes all succeed succeeds. -/
theorem foldlM_progress {f : σ → α → Except ε σ} {P : σ → Prop} {l : List α}
    (hstep : ∀ a ∈ l, ∀ s, P s → ∃ s', f s a = .ok s' ∧ P s') {s : σ} (hs : P s) :
    ∃ s', l.foldlM f s = .ok s' ∧ P s' := by
  induction l generalizing s with
  | nil => exact ⟨s, rfl, hs⟩
  | cons a l ih =>
      obtain ⟨middle, hfirst, hmiddle⟩ := hstep a (by simp) s hs
      obtain ⟨s', hrest, hs'⟩ := ih (fun a ha => hstep a (by simp [ha])) hmiddle
      rw [List.foldlM_cons]
      exact ⟨s', except_bind_eq_ok.mpr ⟨middle, hfirst, hrest⟩, hs'⟩

theorem foldlM_range_progress {f : σ → ℕ → Except ε σ} {P : ℕ → σ → Prop} {n : ℕ}
    (hstep : ∀ i < n, ∀ s, P i s → ∃ s', f s i = .ok s' ∧ P (i + 1) s') {s : σ} (hs : P 0 s) :
    ∃ s', (List.range n).foldlM f s = .ok s' ∧ P n s' := by
  induction n with
  | zero => exact ⟨s, rfl, hs⟩
  | succ n ih =>
      obtain ⟨middle, hloop, hmiddle⟩ := ih fun i hi => hstep i (by omega)
      obtain ⟨s', hlast, hs'⟩ := hstep n (Nat.lt_succ_self n) middle hmiddle
      refine ⟨s', ?_, hs'⟩
      rw [List.range_succ, List.foldlM_append, except_bind_eq_ok]
      refine ⟨middle, hloop, ?_⟩
      rw [List.foldlM_cons, except_bind_eq_ok]
      exact ⟨s', hlast, rfl⟩

/-- A map whose calls all succeed succeeds, with their results in order. -/
theorem mapM_progress {f : α → Except ε β} {l : List α} (h : ∀ a ∈ l, ∃ b, f a = .ok b) :
    ∃ l', l.mapM f = .ok l' ∧ l'.length = l.length ∧
      ∀ (i : ℕ) a b, l[i]? = some a → l'[i]? = some b → f a = .ok b := by
  induction l with
  | nil => exact ⟨[], rfl, rfl, by simp⟩
  | cons a l ih =>
      obtain ⟨b, hb⟩ := h a (by simp)
      obtain ⟨l', hl', hlength, hrest⟩ := ih fun a ha => h a (by simp [ha])
      refine ⟨b :: l', ?_, by simp [hlength], ?_⟩
      · rw [List.mapM_cons, hb]
        simp only [bind, Except.bind]
        rw [hl']
        rfl
      · intro i a' b' ha' hb'
        cases i with
        | zero =>
            obtain rfl := Option.some.inj ha'
            obtain rfl := Option.some.inj hb'
            exact hb
        | succ i => exact hrest i a' b' ha' hb'

end Lamb.Lib
