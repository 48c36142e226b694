import Mathlib.Algebra.Ring.Nat
import Mathlib.Data.Nat.Basic

/-!
Errors and the checked `u64` arithmetic shared by every component. The
error payloads are the texts of the source; `usize` is 64 bits wide, so a
conversion between `u64` and `usize` never fails and is not modelled.
-/

namespace Lamb

/-- The `io::ErrorKind` values the source distinguishes; every other kind
is `other`. -/
inductive IoErrorKind
  | notFound
  | alreadyExists
  | invalidData
  | other
  deriving DecidableEq, Repr

/-- The variants of `LambError` that the modelled functions return. -/
inductive LambError
  | config (message : String)
  | validation (message : String)
  | io (kind : IoErrorKind)
  | persistenceCleanup (operation cleanup : LambError)
  | indeterminatePublication (operation : LambError)
  | unidentifiedStagingCleanup
  | control (message : String)
  | captureInvariant (message : String)
  | export (message : String)
  | exportInvariant (message : String)
  | controlInvariant (message : String)
  /-- Not a variant of the source: the function panicked. -/
  | panicked
  deriving DecidableEq, Repr

abbrev Result (β : Type) := Except LambError β

/-- The arena has two epochs and the detector two accumulators; `Fin 2` numbers
them. -/
instance neZero_two : NeZero 2 := ⟨by decide⟩

theorem bind_eq_ok {β γ : Type} {r : Result β} {f : β → Result γ} {c : γ} :
    r >>= f = .ok c ↔ ∃ b, r = .ok b ∧ f b = .ok c := by
  constructor
  · intro h
    cases r with
    | error e => cases h
    | ok b => exact ⟨b, rfl, h⟩
  · rintro ⟨b, rfl, h⟩
    exact h

/-- Returns `e` unless `p` holds. -/
def ensure (p : Prop) [Decidable p] (e : LambError) : Result Unit :=
  if p then .ok () else .error e

theorem ensure_eq_ok {p : Prop} [Decidable p] {e : LambError} {u : Unit} :
    ensure p e = .ok u ↔ p := by
  unfold ensure
  split
  · simp_all
  · simp_all

/-- The largest value of a `u64` counter. -/
def u64Max : ℕ := 2 ^ 64 - 1

/-- `u64::checked_add`. -/
def checkedAdd (a b : ℕ) : Option ℕ :=
  if a + b ≤ u64Max then some (a + b) else none

theorem checkedAdd_eq_some {a b c : ℕ} :
    checkedAdd a b = some c ↔ c = a + b ∧ a + b ≤ u64Max := by
  unfold checkedAdd
  split
  · simp_all [eq_comm]
  · simp_all

theorem checkedAdd_eq_none {a b : ℕ} : checkedAdd a b = none ↔ u64Max < a + b := by
  unfold checkedAdd
  split
  · simp_all
  · simp_all

theorem checkedAdd_of_le {a b : ℕ} (h : a + b ≤ u64Max) : checkedAdd a b = some (a + b) := by
  simp [checkedAdd, h]

end Lamb
