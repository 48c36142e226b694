import Mathlib.Algebra.Order.Floor.Semiring
import Mathlib.Data.Rat.Floor
import Mathlib.Tactic.Linarith
import Lamb.Runtime.MemoryPlan

/-!
The memory requirement against the exact product. A headroom factor stands for
the rational number of its bits. The numerator is shifted in 128 bits without a
look at the bits that leave: where all of them do, nothing is left to multiply
with.
-/

namespace Lamb.Runtime

/-- The number that the bits of a finite headroom of at least `1.0` stand for. -/
def headroomValue (bits : ℕ) : ℚ :=
  ((bits % 2 ^ 52 + 2 ^ 52 : ℕ) : ℚ) * 2 ^ (((bits / 2 ^ 52 : ℕ) : ℤ) - (1023 + 52))

/-- The requirement is the product rounded up, it is never below the committed
bytes, and a product that does not fit is an error. -/
def ExactRequirement (committedBytes bits : ℕ) : Prop :=
  (∀ required, requiredBytesWithHeadroom committedBytes bits = .ok required →
    required = ⌈(committedBytes : ℚ) * headroomValue bits⌉₊ ∧ committedBytes ≤ required) ∧
  (u64Max < ⌈(committedBytes : ℚ) * headroomValue bits⌉₊ →
    ∃ e, requiredBytesWithHeadroom committedBytes bits = .error e)

/-- A multiple of `2 ^ 128` below `2 ^ 180`: the shift leaves none of its bits. -/
def Vanishes (bits : ℕ) : Prop :=
  headroomValue bits < 2 ^ 180 ∧ ∃ k : ℕ, headroomValue bits = ((k * 2 ^ 128 : ℕ) : ℚ)

/-! ### The value -/

section Value

variable {bits : ℕ}

theorem headroomValue_of_lt (h : bits / 2 ^ 52 < 1023 + 52) :
    headroomValue bits =
      ((bits % 2 ^ 52 + 2 ^ 52 : ℕ) : ℚ) / ((2 ^ (1023 + 52 - bits / 2 ^ 52) : ℕ) : ℚ) := by
  have hexponent : ((bits / 2 ^ 52 : ℕ) : ℤ) - (1023 + 52) =
      -((1023 + 52 - bits / 2 ^ 52 : ℕ) : ℤ) := by omega
  rw [headroomValue, hexponent, zpow_neg, zpow_natCast, div_eq_mul_inv, Nat.cast_pow,
    Nat.cast_ofNat]

theorem headroomValue_of_le (h : 1023 + 52 ≤ bits / 2 ^ 52) :
    headroomValue bits =
      (((bits % 2 ^ 52 + 2 ^ 52) * 2 ^ (bits / 2 ^ 52 - (1023 + 52)) : ℕ) : ℚ) := by
  have hexponent : ((bits / 2 ^ 52 : ℕ) : ℤ) - (1023 + 52) =
      ((bits / 2 ^ 52 - (1023 + 52) : ℕ) : ℤ) := by omega
  rw [headroomValue, hexponent, zpow_natCast, Nat.cast_mul, Nat.cast_pow, Nat.cast_ofNat]

theorem one_le_headroomValue (h : headroomAccepted bits) : 1 ≤ headroomValue bits := by
  obtain ⟨hlow, -⟩ := h
  by_cases hlarge : 1023 + 52 ≤ bits / 2 ^ 52
  · rw [headroomValue_of_le hlarge]
    exact_mod_cast Nat.one_le_iff_ne_zero.2 (by positivity)
  · rw [headroomValue_of_lt (not_le.1 hlarge), one_le_div (by positivity)]
    have hpow : 2 ^ (1023 + 52 - bits / 2 ^ 52) ≤ 2 ^ 52 :=
      Nat.pow_le_pow_right (by decide) (by omega)
    exact_mod_cast hpow.trans (Nat.le_add_left _ _)

end Value

/-! ### The ratio -/

section Ratio

variable {bits numerator denominator : ℕ}

theorem commonPower_le (n limit : ℕ) : commonPower n limit ≤ limit := by
  induction limit generalizing n with
  | zero => exact Nat.le_refl 0
  | succ limit ih =>
      rw [commonPower]
      split
      · exact Nat.succ_le_succ (ih (n / 2))
      · exact Nat.zero_le _

theorem pow_commonPower_dvd (n limit : ℕ) : 2 ^ commonPower n limit ∣ n := by
  induction limit generalizing n with
  | zero => simp [commonPower]
  | succ limit ih =>
      rw [commonPower]
      split
      · next heven =>
          obtain ⟨half, hhalf⟩ := ih (n / 2)
          refine ⟨half, ?_⟩
          rw [pow_succ, mul_right_comm, ← hhalf]
          omega
      · exact one_dvd n

/-- A headroom whose lowest bit is below one has its exact ratio. -/
theorem headroomRatio_of_lt (haccepted : headroomAccepted bits)
    (h : bits / 2 ^ 52 < 1023 + 52) :
    ∃ numerator denominator, headroomRatio bits = .ok (numerator, denominator) ∧
      0 < denominator ∧ headroomValue bits = (numerator : ℚ) / (denominator : ℚ) := by
  have hfield : bits / 2 ^ 52 % 2 ^ 11 = bits / 2 ^ 52 := Nat.mod_eq_of_lt (by omega)
  have hlow := haccepted.1
  rw [headroomValue_of_lt h]
  generalize hm : bits % 2 ^ 52 + 2 ^ 52 = mantissa
  generalize hlimit : 1023 + 52 - bits / 2 ^ 52 = limit
  obtain ⟨rest, hrest⟩ := pow_commonPower_dvd mantissa limit
  have hle := commonPower_le mantissa limit
  refine ⟨mantissa / 2 ^ commonPower mantissa limit, 2 ^ (limit - commonPower mantissa limit), ?_,
    by positivity, ?_⟩
  · simp only [headroomRatio, hfield, hm, hlimit, if_pos h]
    rw [if_pos (by omega)]
  · have hpow : (2 : ℚ) ^ limit =
        2 ^ commonPower mantissa limit * 2 ^ (limit - commonPower mantissa limit) := by
      rw [← pow_add, Nat.add_sub_cancel' hle]
    have hquotient : mantissa / 2 ^ commonPower mantissa limit = rest := by
      rw [Nat.div_eq_of_eq_mul_right (by positivity) hrest]
    rw [hquotient]
    have hmantissa : (mantissa : ℚ) = 2 ^ commonPower mantissa limit * rest := by
      exact_mod_cast hrest
    rw [hmantissa, Nat.cast_pow, Nat.cast_pow, Nat.cast_ofNat, hpow,
      mul_div_mul_left _ _ (by positivity)]

/-- A headroom without a part below one is shifted, if the shift is below the
width. -/
theorem headroomRatio_of_le (haccepted : headroomAccepted bits)
    (h : 1023 + 52 ≤ bits / 2 ^ 52) :
    headroomRatio bits =
      if bits / 2 ^ 52 - (1023 + 52) < 128 then
        .ok ((bits % 2 ^ 52 + 2 ^ 52) * 2 ^ (bits / 2 ^ 52 - (1023 + 52)) % 2 ^ 128, 1)
      else .error (.validation "headroom ratio overflow") := by
  have hfield : bits / 2 ^ 52 % 2 ^ 11 = bits / 2 ^ 52 := by
    have hhigh := haccepted.2
    exact Nat.mod_eq_of_lt (by omega)
  simp only [headroomRatio, hfield, if_neg (not_lt.2 h)]

theorem vanishes_iff (h : 1023 + 52 ≤ bits / 2 ^ 52) :
    Vanishes bits ↔ bits / 2 ^ 52 - (1023 + 52) < 128 ∧
      (bits % 2 ^ 52 + 2 ^ 52) * 2 ^ (bits / 2 ^ 52 - (1023 + 52)) % 2 ^ 128 = 0 := by
  rw [Vanishes, headroomValue_of_le h]
  generalize hexponent : bits / 2 ^ 52 - (1023 + 52) = exponent
  have hlow : 2 ^ 52 ≤ bits % 2 ^ 52 + 2 ^ 52 := Nat.le_add_left _ _
  have hhigh : bits % 2 ^ 52 + 2 ^ 52 < 2 ^ 53 := by omega
  generalize bits % 2 ^ 52 + 2 ^ 52 = mantissa at hlow hhigh ⊢
  refine and_congr ?_ ?_
  · rw [show (2 : ℚ) ^ 180 = ((2 ^ 180 : ℕ) : ℚ) by norm_num, Nat.cast_lt]
    constructor
    · intro hlt
      by_contra hexponent
      have hpow : 2 ^ 128 ≤ 2 ^ exponent := Nat.pow_le_pow_right (by decide) (not_lt.1 hexponent)
      have hproduct := Nat.mul_le_mul hlow hpow
      omega
    · intro hexponent
      have hpow : 2 ^ exponent ≤ 2 ^ 127 := Nat.pow_le_pow_right (by decide) (by omega)
      calc mantissa * 2 ^ exponent < 2 ^ 53 * 2 ^ exponent :=
            Nat.mul_lt_mul_of_pos_right hhigh (by positivity)
        _ ≤ 2 ^ 53 * 2 ^ 127 := Nat.mul_le_mul_left _ hpow
        _ = 2 ^ 180 := by norm_num
  · rw [← Nat.dvd_iff_mod_eq_zero]
    constructor
    · rintro ⟨k, hk⟩
      refine ⟨k, ?_⟩
      rw [Nat.cast_inj] at hk
      rw [hk, mul_comm]
    · rintro ⟨k, hk⟩
      refine ⟨k, ?_⟩
      rw [hk, mul_comm]

/-- A headroom with a part below one does not vanish. -/
theorem not_vanishes_of_lt (h : bits / 2 ^ 52 < 1023 + 52) (haccepted : headroomAccepted bits) :
    ¬Vanishes bits := by
  rintro ⟨-, k, hk⟩
  have hlow := one_le_headroomValue haccepted
  have hhigh : headroomValue bits < 2 ^ 53 := by
    rw [headroomValue_of_lt h, div_lt_iff₀ (by positivity)]
    have hmantissa : bits % 2 ^ 52 + 2 ^ 52 < 2 ^ 53 := by omega
    have hpow : 1 ≤ 2 ^ (1023 + 52 - bits / 2 ^ 52) := Nat.one_le_two_pow
    have hproduct := Nat.mul_le_mul_left (2 ^ 53) hpow
    exact_mod_cast lt_of_lt_of_le hmantissa hproduct
  rw [hk] at hlow hhigh
  have hpositive : 1 ≤ k * 2 ^ 128 := by exact_mod_cast hlow
  have hsmall : k * 2 ^ 128 < 2 ^ 53 := by exact_mod_cast hhigh
  omega

end Ratio

/-! ### The requirement -/

section Requirement

variable {committedBytes bits numerator denominator required : ℕ}

theorem ceil_ratio (n : ℕ) {d : ℕ} (hd : 0 < d) :
    ⌈(n : ℚ) / (d : ℚ)⌉₊ = n / d + if n % d ≠ 0 then 1 else 0 := by
  have hsplit : (n : ℚ) / d = (n % d : ℕ) / d + (n / d : ℕ) := by
    rw [eq_comm, div_add' _ _ _ (by positivity)]
    congr 1
    exact_mod_cast Nat.mod_add_div' n d
  rw [hsplit, Nat.ceil_add_natCast (by positivity), Nat.add_comm]
  congr 1
  split
  · next hne =>
      refine (Nat.ceil_eq_iff one_ne_zero).2 ⟨?_, ?_⟩
      · have hpositive : 0 < n % d := Nat.pos_of_ne_zero hne
        simp only [Nat.sub_self, Nat.cast_zero]
        positivity
      · rw [Nat.cast_one, div_le_one (by positivity)]
        exact_mod_cast (Nat.mod_lt n hd).le
  · next heq =>
      rw [not_ne_iff.1 heq]
      simp

/-- A requirement that is returned is the product with the ratio, rounded up. -/
theorem required_eq (hratio : headroomRatio bits = .ok (numerator, denominator))
    (h : requiredBytesWithHeadroom committedBytes bits = .ok required) :
    committedBytes * numerator < 2 ^ 128 ∧ required ≤ u64Max ∧
      required = committedBytes * numerator / denominator +
        if committedBytes * numerator % denominator ≠ 0 then 1 else 0 := by
  unfold requiredBytesWithHeadroom at h
  obtain ⟨_, -, h⟩ := bind_eq_ok.1 h
  obtain ⟨ratio, hsame, h⟩ := bind_eq_ok.1 h
  rw [hratio] at hsame
  cases hsame
  obtain ⟨_, hproduct, h⟩ := bind_eq_ok.1 h
  obtain ⟨_, -, h⟩ := bind_eq_ok.1 h
  obtain ⟨_, hfits, h⟩ := bind_eq_ok.1 h
  cases h
  exact ⟨ensure_eq_ok.1 hproduct, ensure_eq_ok.1 hfits, rfl⟩

/-- An error is exact: nothing is returned. -/
theorem exactRequirement_of_error
    (h : ∀ required, requiredBytesWithHeadroom committedBytes bits ≠ .ok required) :
    ExactRequirement committedBytes bits := by
  refine ⟨fun required hok => absurd hok (h required), fun _ => ?_⟩
  cases hresult : requiredBytesWithHeadroom committedBytes bits with
  | error e => exact ⟨e, rfl⟩
  | ok required => exact absurd hresult (h required)

theorem exactRequirement_of_ratio (haccepted : headroomAccepted bits)
    (hratio : headroomRatio bits = .ok (numerator, denominator)) (hd : 0 < denominator)
    (hvalue : (committedBytes : ℚ) * headroomValue bits =
      ((committedBytes * numerator : ℕ) : ℚ) / (denominator : ℚ)) :
    ExactRequirement committedBytes bits := by
  have hceil : ∀ required, requiredBytesWithHeadroom committedBytes bits = .ok required →
      required = ⌈(committedBytes : ℚ) * headroomValue bits⌉₊ := by
    intro required h
    rw [hvalue, ceil_ratio _ hd]
    exact (required_eq hratio h).2.2
  refine ⟨fun required h => ⟨hceil required h, ?_⟩, fun hlarge => ?_⟩
  · rw [hceil required h]
    have hle : (committedBytes : ℚ) ≤ committedBytes * headroomValue bits :=
      le_mul_of_one_le_right (Nat.cast_nonneg _) (one_le_headroomValue haccepted)
    exact_mod_cast hle.trans (Nat.le_ceil _)
  · cases hresult : requiredBytesWithHeadroom committedBytes bits with
    | error e => exact ⟨e, rfl⟩
    | ok required =>
        have hfits := (required_eq hratio hresult).2.1
        rw [hceil required hresult] at hfits
        exact absurd hfits (not_le.2 hlarge)

/-- Nothing is returned for a numerator that lost some of its bits and not all:
what is left is a multiple of the shift. -/
theorem required_ne_of_multiple {exponent left : ℕ} (hcommitted : committedBytes ≠ 0)
    (hratio : headroomRatio bits = .ok (left * 2 ^ exponent, 1)) (hleft : left ≠ 0)
    (hexponent : 64 ≤ exponent) (required : ℕ) :
    requiredBytesWithHeadroom committedBytes bits ≠ .ok required := by
  intro h
  obtain ⟨-, hfits, hrequired⟩ := required_eq hratio h
  rw [Nat.div_one, Nat.mod_one, if_neg (by simp), Nat.add_zero] at hrequired
  have hpow : 2 ^ 64 ≤ 2 ^ exponent := Nat.pow_le_pow_right (by decide) hexponent
  have hone : 1 ≤ committedBytes * left :=
    Nat.one_le_iff_ne_zero.2 (Nat.mul_ne_zero hcommitted hleft)
  have hproduct := Nat.mul_le_mul hone hpow
  rw [Nat.mul_assoc, ← hrequired, Nat.one_mul] at hproduct
  unfold u64Max at hfits
  omega

theorem required_of_vanishes (haccepted : headroomAccepted bits) (h : Vanishes bits) :
    requiredBytesWithHeadroom committedBytes bits = .ok 0 := by
  have hlarge : 1023 + 52 ≤ bits / 2 ^ 52 := by
    by_contra hsmall
    exact not_vanishes_of_lt (not_le.1 hsmall) haccepted h
  obtain ⟨hexponent, hzero⟩ := (vanishes_iff hlarge).1 h
  have hratio := headroomRatio_of_le haccepted hlarge
  rw [if_pos hexponent, hzero] at hratio
  simp [requiredBytesWithHeadroom, ensure, haccepted, hratio, bind, Except.bind, pure, Except.pure]

/-- The memory requirement is exact unless the headroom is a multiple of
`2 ^ 128` below `2 ^ 180`, for which nothing at all is required. -/
theorem headroom_exact_iff (committedBytes bits : ℕ) (haccepted : headroomAccepted bits) :
    ExactRequirement committedBytes bits ↔ committedBytes = 0 ∨ ¬Vanishes bits := by
  constructor
  · intro hexact
    by_contra hnot
    obtain ⟨hcommitted, hvanishes⟩ := not_or.1 hnot
    have hle := (hexact.1 0 (required_of_vanishes haccepted (not_not.1 hvanishes))).2
    exact hcommitted (Nat.le_zero.1 hle)
  intro hcondition
  by_cases hsmall : bits / 2 ^ 52 < 1023 + 52
  · obtain ⟨numerator, denominator, hratio, hd, hvalue⟩ := headroomRatio_of_lt haccepted hsmall
    refine exactRequirement_of_ratio haccepted hratio hd ?_
    rw [hvalue, Nat.cast_mul, mul_div_assoc]
  have hlarge := not_lt.1 hsmall
  have hratio := headroomRatio_of_le haccepted hlarge
  have hvalue := headroomValue_of_le hlarge
  have hvanishes := vanishes_iff hlarge
  have hmantissa : bits % 2 ^ 52 + 2 ^ 52 < 2 ^ 53 := by omega
  generalize bits / 2 ^ 52 - (1023 + 52) = exponent at hratio hvalue hvanishes
  generalize bits % 2 ^ 52 + 2 ^ 52 = mantissa at hratio hvalue hvanishes hmantissa
  by_cases hexponent : exponent < 128
  · rw [if_pos hexponent] at hratio
    by_cases hfits : mantissa * 2 ^ exponent < 2 ^ 128
    · -- no bit is lost
      rw [Nat.mod_eq_of_lt hfits] at hratio
      refine exactRequirement_of_ratio haccepted hratio Nat.one_pos ?_
      rw [hvalue, Nat.cast_one, div_one, ← Nat.cast_mul]
    rcases eq_or_ne committedBytes 0 with rfl | hcommitted
    · refine exactRequirement_of_ratio haccepted hratio Nat.one_pos ?_
      simp
    -- some bits are lost and some are left: what is left is too large
    have hkept := hcondition.resolve_left hcommitted
    have hshift : mantissa * 2 ^ exponent % 2 ^ 128 =
        mantissa % 2 ^ (128 - exponent) * 2 ^ exponent := by
      rw [← Nat.mul_mod_mul_right, ← pow_add, Nat.sub_add_cancel hexponent.le]
    have hleft : mantissa % 2 ^ (128 - exponent) ≠ 0 := by
      intro hzero
      refine hkept (hvanishes.2 ⟨hexponent, ?_⟩)
      rw [hshift, hzero, Nat.zero_mul]
    have hwide : 64 ≤ exponent := by
      by_contra hnarrow
      have hpow : 2 ^ exponent ≤ 2 ^ 63 := Nat.pow_le_pow_right (by decide) (by omega)
      have hproduct := Nat.mul_le_mul hmantissa.le hpow
      omega
    rw [hshift] at hratio
    exact exactRequirement_of_error (required_ne_of_multiple hcommitted hratio hleft hwide)
  · rw [if_neg hexponent] at hratio
    refine exactRequirement_of_error fun required h => ?_
    unfold requiredBytesWithHeadroom at h
    obtain ⟨_, -, h⟩ := bind_eq_ok.1 h
    obtain ⟨ratio, hsame, -⟩ := bind_eq_ok.1 h
    rw [hratio] at hsame
    cases hsame

theorem headroom_exact_one_and_half :
    headroomAccepted 0x3FF8000000000000 ∧
      (ExactRequirement 5 0x3FF8000000000000 ↔ 5 = 0 ∨ ¬Vanishes 0x3FF8000000000000) :=
  ⟨by decide, headroom_exact_iff 5 0x3FF8000000000000 (by decide)⟩

/-- With a headroom of `2 ^ 128`, one byte requires none. -/
theorem headroom_inexact :
    headroomAccepted 0x47F0000000000000 ∧ headroomValue 0x47F0000000000000 = 2 ^ 128 ∧
      requiredBytesWithHeadroom 1 0x47F0000000000000 = .ok 0 ∧
      ¬ExactRequirement 1 0x47F0000000000000 := by
  have hrequired : requiredBytesWithHeadroom 1 0x47F0000000000000 = .ok 0 := by decide
  refine ⟨by decide, ?_, hrequired, fun hexact => ?_⟩
  · norm_num [headroomValue]
  · have hle := (hexact.1 0 hrequired).2
    omega

end Requirement

end Lamb.Runtime
