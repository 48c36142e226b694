import Mathlib.Algebra.Ring.Nat
import Mathlib.Data.List.Basic

/-!
Slices of a list, as a program indexes a fixed array. Every fact about a
slice is read off position by position: `getElem?_slice` and
`getElem?_copyFromSlice` say what stands at an index, and equalities of
lists follow by extensionality.
-/

namespace Lamb.Lib

variable {α : Type*}

/-- `&xs[start .. start + len]`. -/
def slice (xs : List α) (start len : ℕ) : List α := (xs.drop start).take len

/-- `xs[start .. start + src.len()].copy_from_slice(src)`. -/
def copyFromSlice (xs : List α) (start : ℕ) (src : List α) : List α :=
  xs.take start ++ src ++ xs.drop (start + src.length)

theorem getElem?_slice (xs : List α) (start len i : ℕ) :
    (slice xs start len)[i]? = if i < len then xs[start + i]? else none := by
  simp [slice, List.getElem?_take]

theorem length_slice (xs : List α) (start len : ℕ) :
    (slice xs start len).length = min len (xs.length - start) := by
  simp [slice]

theorem length_slice_of_le {xs : List α} {start len : ℕ} (h : start + len ≤ xs.length) :
    (slice xs start len).length = len := by
  rw [length_slice]
  omega

theorem length_copyFromSlice {xs src : List α} {start : ℕ}
    (h : start + src.length ≤ xs.length) :
    (copyFromSlice xs start src).length = xs.length := by
  simp [copyFromSlice]
  omega

theorem getElem?_copyFromSlice {xs src : List α} {start : ℕ} (i : ℕ)
    (h : start + src.length ≤ xs.length) :
    (copyFromSlice xs start src)[i]? =
      if i < start then xs[i]?
      else if i < start + src.length then src[i - start]? else xs[i]? := by
  have hlen : (xs.take start).length = start := by
    rw [List.length_take]
    omega
  unfold copyFromSlice
  by_cases h₁ : i < start
  · rw [List.append_assoc, List.getElem?_append_left (by omega), List.getElem?_take]
    simp [h₁]
  · by_cases h₂ : i < start + src.length
    · rw [List.append_assoc, List.getElem?_append_right (by omega), hlen,
        List.getElem?_append_left (by omega)]
      simp [h₁, h₂]
    · rw [List.getElem?_append_right (by simp; omega), List.getElem?_drop]
      have hi : start + src.length + (i - (xs.take start ++ src).length) = i := by
        simp
        omega
      rw [hi]
      simp [h₁, h₂]

/-- Two adjacent writes are one write. -/
theorem copyFromSlice_copyFromSlice (xs src src' : List α) (start : ℕ)
    (h : start + src.length + src'.length ≤ xs.length) :
    copyFromSlice (copyFromSlice xs start src) (start + src.length) src' =
      copyFromSlice xs start (src ++ src') := by
  have hlen : (copyFromSlice xs start src).length = xs.length :=
    length_copyFromSlice (by omega)
  refine List.ext_getElem? fun i => ?_
  rw [getElem?_copyFromSlice _ (by omega), getElem?_copyFromSlice _ (by omega),
    getElem?_copyFromSlice _ (by simp; omega)]
  simp only [List.length_append, List.getElem?_append]
  split_ifs <;> first | omega | rfl | (congr 1; omega)

theorem slice_append_slice (xs : List α) (start m n : ℕ) :
    slice xs start m ++ slice xs (start + m) n = slice xs start (m + n) := by
  simp only [slice]
  rw [List.take_add, List.drop_drop]

@[simp] theorem slice_zero (xs : List α) (start : ℕ) : slice xs start 0 = [] := by
  simp [slice]

end Lamb.Lib
