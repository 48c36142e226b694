import Mathlib.Algebra.Ring.Nat
import Mathlib.Data.List.Basic
import Mathlib.Tactic.NormNum

/-!
Byte strings put together from fields that state their own length, and byte
strings printed in hexadecimal. Both can be read back: two lists of fields with
the same bytes are the same list, and two byte strings with the same print are the
same bytes.
-/

namespace Lamb.Lib

/-- `n` in `width` bytes, the most significant first. -/
def bigEndian : ℕ → ℕ → List UInt8
  | 0, _ => []
  | width + 1, n => bigEndian width (n / 256) ++ [UInt8.ofNat (n % 256)]

/-- A field behind its length in eight bytes. -/
def field (value : List UInt8) : List UInt8 :=
  bigEndian 8 value.length ++ value

/-- `{:x}` of a byte string: two lower case digits for every byte. -/
def lowerHex (bytes : List UInt8) : String :=
  String.ofList (bytes.flatMap fun byte =>
    [Nat.digitChar (byte.toNat / 16), Nat.digitChar (byte.toNat % 16)])

/-! ### Numbers -/

@[simp] theorem length_bigEndian (width n : ℕ) : (bigEndian width n).length = width := by
  induction width generalizing n with
  | zero => rfl
  | succ width ih => simp [bigEndian, ih]

theorem ofNat_inj_of_lt {m n : ℕ} (hm : m < 256) (hn : n < 256)
    (h : UInt8.ofNat m = UInt8.ofNat n) : m = n := by
  have hnat := congrArg UInt8.toNat h
  simp only [UInt8.toNat_ofNat'] at hnat
  omega

theorem bigEndian_inj {width m n : ℕ} (hm : m < 256 ^ width) (hn : n < 256 ^ width)
    (h : bigEndian width m = bigEndian width n) : m = n := by
  induction width generalizing m n with
  | zero =>
      simp only [pow_zero] at hm hn
      omega
  | succ width ih =>
      obtain ⟨hhigh, hlow⟩ := List.append_inj' h rfl
      have hquotient : m / 256 = n / 256 := by
        refine ih ?_ ?_ hhigh
        · rw [Nat.div_lt_iff_lt_mul (by omega), ← pow_succ]
          exact hm
        · rw [Nat.div_lt_iff_lt_mul (by omega), ← pow_succ]
          exact hn
      have hremainder : m % 256 = n % 256 :=
        ofNat_inj_of_lt (Nat.mod_lt _ (by omega)) (Nat.mod_lt _ (by omega))
          (List.singleton_inj.mp hlow)
      omega

/-! ### Fields -/

theorem field_append_inj {value value' rest rest' : List UInt8} (hvalue : value.length < 2 ^ 64)
    (hvalue' : value'.length < 2 ^ 64) (h : field value ++ rest = field value' ++ rest') :
    value = value' ∧ rest = rest' := by
  unfold field at h
  rw [List.append_assoc, List.append_assoc] at h
  obtain ⟨hlength, htail⟩ := List.append_inj h (by simp)
  have hlength : value.length = value'.length :=
    bigEndian_inj hvalue hvalue' hlength
  exact List.append_inj htail hlength

/-- Fields can be told apart: no byte string is made of two lists of fields. -/
theorem flatMap_field_inj {values values' : List (List UInt8)}
    (hvalues : ∀ value ∈ values, value.length < 2 ^ 64)
    (hvalues' : ∀ value ∈ values', value.length < 2 ^ 64)
    (h : values.flatMap field = values'.flatMap field) : values = values' := by
  have hne (value rest : List UInt8) : field value ++ rest ≠ [] := by
    intro hnil
    have hlength := congrArg List.length hnil
    simp [field] at hlength
  induction values generalizing values' with
  | nil =>
      cases values' with
      | nil => rfl
      | cons value' values' => exact absurd h.symm (hne _ _)
  | cons value values ih =>
      cases values' with
      | nil => exact absurd h (hne _ _)
      | cons value' values' =>
          obtain ⟨hfirst, hrest⟩ := List.forall_mem_cons.mp hvalues
          obtain ⟨hfirst', hrest'⟩ := List.forall_mem_cons.mp hvalues'
          rw [List.flatMap_cons, List.flatMap_cons] at h
          obtain ⟨rfl, htail⟩ := field_append_inj hfirst hfirst' h
          rw [ih hrest hrest' htail]

/-! ### Prints -/

theorem digitChar_inj {m n : ℕ} (hm : m < 16) (hn : n < 16)
    (h : Nat.digitChar m = Nat.digitChar n) : m = n := by
  have hall : ∀ m < 16, ∀ n < 16, Nat.digitChar m = Nat.digitChar n → m = n := by decide
  exact hall m hm n hn h

theorem lowerHex_injective : Function.Injective lowerHex := by
  intro bytes bytes' hprint
  have h := String.ofList_injective hprint
  clear hprint
  induction bytes generalizing bytes' with
  | nil =>
      cases bytes' with
      | nil => rfl
      | cons byte' bytes' => cases h
  | cons byte bytes ih =>
      cases bytes' with
      | nil => cases h
      | cons byte' bytes' =>
          simp only [List.flatMap_cons, List.cons_append, List.nil_append,
            List.cons.injEq] at h
          obtain ⟨hhigh, hlow, htail⟩ := h
          have hbyte := byte.toNat_lt
          have hbyte' := byte'.toNat_lt
          have hhigh := digitChar_inj (by omega) (by omega) hhigh
          have hlow := digitChar_inj (Nat.mod_lt _ (by omega)) (Nat.mod_lt _ (by omega)) hlow
          have heq : byte = byte' := UInt8.toNat_inj.mp (by omega)
          rw [heq, ih htail]

end Lamb.Lib
