import Mathlib.Data.String.Basic
import Mathlib.Tactic.Ring

/-!
The order of decimal digits. Digit lists of one length are ordered as texts
exactly as the numbers they denote.
-/

namespace Lamb.Lib.Decimal

def digitValue (c : Char) : ℕ := c.toNat - '0'.toNat

theorem isDigit_iff {c : Char} : c.isDigit = true ↔ 48 ≤ c.toNat ∧ c.toNat ≤ 57 := by
  simp only [Char.isDigit, Bool.and_eq_true, decide_eq_true_eq, ge_iff_le, UInt32.le_iff_toNat_le,
    Char.toNat]
  rfl

theorem digitValue_lt {c : Char} (h : c.isDigit = true) : digitValue c < 10 := by
  have hrange := isDigit_iff.mp h
  have hzero : '0'.toNat = 48 := rfl
  unfold digitValue
  omega

theorem char_lt_iff {c c' : Char} : c < c' ↔ c.toNat < c'.toNat := UInt32.lt_iff_toNat_lt

theorem digitValue_lt_iff {c c' : Char} (h : c.isDigit = true) (h' : c'.isDigit = true) :
    digitValue c < digitValue c' ↔ c < c' := by
  have hrange := isDigit_iff.mp h
  have hrange' := isDigit_iff.mp h'
  have hzero : '0'.toNat = 48 := rfl
  unfold digitValue
  rw [char_lt_iff]
  omega

theorem digitValue_inj {c c' : Char} (h : c.isDigit = true) (h' : c'.isDigit = true) :
    digitValue c = digitValue c' ↔ c = c' := by
  have hrange := isDigit_iff.mp h
  have hrange' := isDigit_iff.mp h'
  have hzero : '0'.toNat = 48 := rfl
  rw [← Char.toNat_inj]
  unfold digitValue
  omega

theorem ofDigitChars_cons (c : Char) (l : List Char) :
    Nat.ofDigitChars 10 (c :: l) 0 = 10 ^ l.length * digitValue c + Nat.ofDigitChars 10 l 0 := by
  rw [Nat.ofDigitChars_cons, Nat.ofDigitChars_eq_ofDigitChars_zero, Nat.mul_zero, Nat.zero_add]
  rfl

theorem ofDigitChars_lt {l : List Char} (h : ∀ c ∈ l, c.isDigit = true) :
    Nat.ofDigitChars 10 l 0 < 10 ^ l.length := by
  induction l with
  | nil => simp
  | cons c l ih =>
      have hhead := digitValue_lt (h c List.mem_cons_self)
      have htail := ih fun d hd => h d (List.mem_cons_of_mem c hd)
      have hmul : 10 ^ l.length * (digitValue c + 1) ≤ 10 ^ l.length * 10 :=
        Nat.mul_le_mul_left _ hhead
      rw [ofDigitChars_cons, List.length_cons, Nat.pow_succ]
      rw [Nat.mul_add_one] at hmul
      omega

/-- A number with a larger leading part is larger, whatever the rest is. -/
theorem mul_add_lt_iff {base first second low high : ℕ} (hlow : low < base) (hhigh : high < base) :
    base * first + low < base * second + high ↔
      first < second ∨ first = second ∧ low < high := by
  have hstep (m n : ℕ) (h : m < n) : base * m + base ≤ base * n := by
    rw [← Nat.mul_add_one]
    exact Nat.mul_le_mul_left base h
  rcases Nat.lt_trichotomy first second with h | rfl | h
  · have hle := hstep first second h
    omega
  · omega
  · have hle := hstep second first h
    omega

theorem lt_iff_ofDigitChars_lt {l l' : List Char} (h : ∀ c ∈ l, c.isDigit = true)
    (h' : ∀ c ∈ l', c.isDigit = true) (hlen : l.length = l'.length) :
    l < l' ↔ Nat.ofDigitChars 10 l 0 < Nat.ofDigitChars 10 l' 0 := by
  induction l generalizing l' with
  | nil =>
      obtain rfl := List.length_eq_zero_iff.mp hlen.symm
      simp
  | cons c l ih =>
      cases l' with
      | nil => simp at hlen
      | cons c' l' =>
          have htail := fun d hd => h d (List.mem_cons_of_mem c hd)
          have htail' := fun d hd => h' d (List.mem_cons_of_mem c' hd)
          have hlength : l.length = l'.length := Nat.succ.inj hlen
          have hrest := ofDigitChars_lt htail
          rw [hlength] at hrest
          rw [List.cons_lt_cons_iff, ofDigitChars_cons, ofDigitChars_cons, hlength,
            mul_add_lt_iff hrest (ofDigitChars_lt htail'), ih htail htail' hlength,
            digitValue_lt_iff (h c List.mem_cons_self) (h' c' List.mem_cons_self),
            digitValue_inj (h c List.mem_cons_self) (h' c' List.mem_cons_self)]

end Lamb.Lib.Decimal
