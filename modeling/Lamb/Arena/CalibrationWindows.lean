import Mathlib.Order.Bounds.Basic
import Lamb.Lib.Loop
import Lamb.Lib.Slice
import Lamb.Runtime.Retention

/-!
The windows of a calibration. Two accumulators take every other window; a window
is put out when its last sample comes, and its accumulator rests until the next
window of its own starts. Two suffice because a window is at most two hops long.

An accumulator sums up whatever the statistics need of the samples; it is folded
over them in the order of the capture. Writing outside a buffer is a panic.
-/

namespace Lamb.CalibrationWindows

open Lamb.Lib Lamb.Runtime

/-- The floating-point side: `E` is the sum of squares and the peak so far. -/
structure Gauge (S E : Type) where
  isFinite : S → Bool
  zero : E
  add : E → S → E
  rms : E → ℕ → S
  peak : E → S

structure Geometry where
  window : ℕ
  hop : ℕ
  deriving DecidableEq, Repr

structure Request where
  channel : ℕ
  frames : ℕ
  deriving DecidableEq, Repr

structure Accumulator (E : Type) where
  level : E
  count : ℕ
  start : ℕ
  started : Bool
  deriving DecidableEq, Repr

/-- A capture and the buffers of the slot that it writes to. -/
structure Capture (S E : Type) where
  samples : List S
  rms : List S
  peak : List S
  copied : ℕ
  completeWindows : ℕ
  accumulators : Fin 2 → Accumulator E
  invalid : Bool

variable {S E : Type}

section Model

variable (gauge : Gauge S E) (geometry : Geometry)

/-- A capture as it begins, on buffers that may hold anything. -/
def Capture.begin (samples rms peak : List S) : Capture S E where
  samples := samples
  rms := rms
  peak := peak
  copied := 0
  completeWindows := 0
  accumulators := fun _ => ⟨gauge.zero, 0, 0, false⟩
  invalid := false

/-- `buffer[index] = value`. -/
def writeAt (buffer : List S) (index : ℕ) (value : S) : Result (List S) :=
  if index < buffer.length then .ok (buffer.set index value) else .error .panicked

/-- A window starts at every hop. -/
def Capture.restart (capture : Capture S E) (index : ℕ) : Result (Capture S E) :=
  if geometry.hop = 0 then .error .panicked
  else if index % geometry.hop = 0 then
    .ok { capture with
      accumulators := Function.update capture.accumulators (Fin.ofNat 2 (index / geometry.hop))
        ⟨gauge.zero, 0, index, true⟩ }
  else .ok capture

/-- One accumulator takes a sample, and puts its window out if that is the last
one. -/
def Capture.take (capture : Capture S E) (sample : S) (index : Fin 2) : Result (Capture S E) := do
  let accumulator := capture.accumulators index
  if accumulator.started ∧ accumulator.count < geometry.window then
    let level := gauge.add accumulator.level sample
    let count := accumulator.count + 1
    if count = geometry.window then
      let rms ← writeAt capture.rms capture.completeWindows (gauge.rms level count)
      let peak ← writeAt capture.peak capture.completeWindows (gauge.peak level)
      pure { capture with
        rms
        peak
        completeWindows := capture.completeWindows + 1
        accumulators := Function.update capture.accumulators index
          ⟨level, count, accumulator.start, false⟩ }
    else
      pure { capture with
        accumulators := Function.update capture.accumulators index
          ⟨level, count, accumulator.start, accumulator.started⟩ }
  else pure capture

/-- The body of the loop over the frames of a block. -/
def Capture.copySample (capture : Capture S E) (sample : S) : Result (Capture S E) := do
  let samples ← writeAt capture.samples capture.copied sample
  let capture := { capture with samples, invalid := capture.invalid || !gauge.isFinite sample }
  let capture ← capture.restart gauge geometry capture.copied
  let capture ← capture.take gauge geometry sample 0
  let capture ← capture.take gauge geometry sample 1
  pure { capture with copied := capture.copied + 1 }

/-- `copy_calibration_samples` on one interleaved block. -/
def copyCalibrationSamples (request : Request) (channels : ℕ) (capture : Capture S E)
    (block : List S) : Result (Capture S E) :=
  (List.range (block.length / channels)).foldlM
    (fun capture frame =>
      if capture.copied = request.frames then .ok capture
      else
        match block[frame * channels + request.channel]? with
        | none => .error .panicked
        | some sample => capture.copySample gauge geometry sample)
    capture

/-- `max_by_key`: the last one of those with the largest key. -/
def maxByKey {ι : Type} (key : ι → ℕ) (items : List ι) : Option ι :=
  items.foldl
    (fun best item =>
      match best with
      | none => some item
      | some best => if key best ≤ key item then some item else some best)
    none

def Capture.partialFinalFrames (capture : Capture S E) : ℕ :=
  ((maxByKey (fun index => (capture.accumulators index).start)
    (([0, 1] : List (Fin 2)).filter fun index =>
      (capture.accumulators index).started && decide (0 < (capture.accumulators index).count) &&
        decide ((capture.accumulators index).count < geometry.window))).map
    fun index => (capture.accumulators index).count).getD 0

end Model

/-! ### What the windows are -/

/-- How many windows end among `n` samples. -/
def Geometry.windowCount (geometry : Geometry) (n : ℕ) : ℕ :=
  if geometry.window ≤ n then (n - geometry.window) / geometry.hop + 1 else 0

/-- The samples of window `k`. -/
def Geometry.windowOf (geometry : Geometry) (samples : List S) (k : ℕ) : List S :=
  slice samples (k * geometry.hop) geometry.window

def Gauge.level (gauge : Gauge S E) (samples : List S) : E :=
  samples.foldl gauge.add gauge.zero

/-- What the plan promises of the geometry. -/
structure Geometry.Sound (geometry : Geometry) : Prop where
  window_pos : 0 < geometry.window
  hop_pos : 0 < geometry.hop
  window_le : geometry.window ≤ 2 * geometry.hop

section Count

variable {geometry : Geometry} {m k : ℕ}

theorem windowCount_of_end (hsound : geometry.Sound)
    (h : k * geometry.hop + geometry.window = m + 1) :
    geometry.windowCount m = k ∧ geometry.windowCount (m + 1) = k + 1 := by
  have hhop := hsound.hop_pos
  unfold Geometry.windowCount
  constructor
  · cases k with
    | zero => rw [if_neg (by omega)]
    | succ k =>
        rw [Nat.succ_mul] at h
        rw [if_pos (by omega)]
        have hrest : m - geometry.window = geometry.hop - 1 + k * geometry.hop := by omega
        rw [hrest, Nat.add_mul_div_right _ _ hhop, Nat.div_eq_of_lt (by omega), Nat.zero_add]
  · rw [if_pos (by omega)]
    have hrest : m + 1 - geometry.window = k * geometry.hop := by omega
    rw [hrest, Nat.mul_div_cancel _ hhop]

theorem windowCount_of_no_end (h : ∀ k, k * geometry.hop + geometry.window ≠ m + 1) :
    geometry.windowCount (m + 1) = geometry.windowCount m := by
  unfold Geometry.windowCount
  by_cases hwindow : geometry.window ≤ m
  · rw [if_pos (by omega), if_pos hwindow, Nat.sub_add_comm hwindow, Nat.succ_div_of_not_dvd]
    rintro ⟨k, hk⟩
    refine h k ?_
    rw [Nat.mul_comm]
    omega
  · have hzero := h 0
    rw [if_neg (by omega), if_neg hwindow]

theorem lt_windowCount_iff (hsound : geometry.Sound) :
    k < geometry.windowCount m ↔ k * geometry.hop + geometry.window ≤ m := by
  unfold Geometry.windowCount
  split
  · next hwindow =>
      rw [Nat.lt_succ_iff, Nat.le_div_iff_mul_le hsound.hop_pos]
      omega
  · next hwindow => omega

theorem windowCount_mono (geometry : Geometry) {m n : ℕ} (h : m ≤ n) :
    geometry.windowCount m ≤ geometry.windowCount n := by
  unfold Geometry.windowCount
  split
  · rw [if_pos (by omega)]
    exact Nat.succ_le_succ (Nat.div_le_div_right (by omega))
  · exact Nat.zero_le _

end Count

/-! ### The accumulators -/

section Held

variable (gauge : Gauge S E) (geometry : Geometry)

/-- What an accumulator of window `k` holds after some samples. -/
def held (samples : List S) (k : ℕ) : Accumulator E where
  level := gauge.level (slice samples (k * geometry.hop)
    (min geometry.window (samples.length - k * geometry.hop)))
  count := min geometry.window (samples.length - k * geometry.hop)
  start := k * geometry.hop
  started := decide (min geometry.window (samples.length - k * geometry.hop) < geometry.window)

/-- The window that an accumulator holds at the sample `m`: the latest one or the
one before it. -/
def heldWindow (m : ℕ) (index : Fin 2) : Option ℕ :=
  if Fin.ofNat 2 (m / geometry.hop) = index then some (m / geometry.hop)
  else if m / geometry.hop = 0 then none
  else some (m / geometry.hop - 1)

/-- The window that an accumulator holds after `m` samples. -/
def latestWindow (m : ℕ) (index : Fin 2) : Option ℕ :=
  if m = 0 then none else heldWindow geometry (m - 1) index

/-- The accumulators hold these windows of the samples; one without a window
rests. -/
def Holds (samples : List S) (windows : Fin 2 → Option ℕ) (capture : Capture S E) : Prop :=
  ∀ index, match windows index with
    | some k => capture.accumulators index = held gauge geometry samples k
    | none => (capture.accumulators index).started = false

/-- One accumulator has taken the last of the samples. -/
def Capture.put (capture : Capture S E) (samples : List S) (index : Fin 2) (k : ℕ) :
    Capture S E :=
  let capture := { capture with
    accumulators := Function.update capture.accumulators index (held gauge geometry samples k) }
  if k * geometry.hop + geometry.window = samples.length then
    let level := gauge.level (geometry.windowOf samples k)
    { capture with
      rms := capture.rms.set capture.completeWindows (gauge.rms level geometry.window)
      peak := capture.peak.set capture.completeWindows (gauge.peak level)
      completeWindows := capture.completeWindows + 1 }
  else capture

end Held

section Take

variable {gauge : Gauge S E} {geometry : Geometry} {samples : List S} {sample : S}
  {capture : Capture S E} {index : Fin 2} {k m : ℕ}

theorem slice_concat (h : k ≤ samples.length) :
    slice (samples ++ [sample]) k (samples.length - k + 1) =
      slice samples k (samples.length - k) ++ [sample] := by
  have hlength : (samples.drop k).length = samples.length - k := List.length_drop
  rw [slice, slice, List.drop_append_of_le_length h, List.take_of_length_le, ← hlength,
    List.take_length]
  rw [List.length_append, hlength, List.length_singleton]

theorem slice_concat_of_le {start len : ℕ} (h : start + len ≤ samples.length) :
    slice (samples ++ [sample]) start len = slice samples start len := by
  rw [slice, slice, List.drop_append_of_le_length (by omega), List.take_append_of_le_length]
  rw [List.length_drop]
  omega

theorem held_of_start (hsound : geometry.Sound) (h : k * geometry.hop = samples.length) :
    held gauge geometry samples k = ⟨gauge.zero, 0, samples.length, true⟩ := by
  simp [held, h, Gauge.level, hsound.window_pos]

/-- A window that is complete stays as it is. -/
theorem held_of_complete (h : k * geometry.hop + geometry.window ≤ samples.length) :
    held gauge geometry (samples ++ [sample]) k = held gauge geometry samples k := by
  have hbefore : min geometry.window (samples.length - k * geometry.hop) = geometry.window := by
    omega
  have hafter : min geometry.window ((samples ++ [sample]).length - k * geometry.hop) =
      geometry.window := by
    rw [List.length_append]
    omega
  simp only [held, hbefore, hafter, slice_concat_of_le h]

theorem held_of_open (hstart : k * geometry.hop ≤ samples.length)
    (hopen : samples.length < k * geometry.hop + geometry.window) :
    held gauge geometry (samples ++ [sample]) k =
      ⟨gauge.add (held gauge geometry samples k).level sample,
        samples.length - k * geometry.hop + 1, k * geometry.hop,
        decide (samples.length - k * geometry.hop + 1 < geometry.window)⟩ := by
  have hbefore : min geometry.window (samples.length - k * geometry.hop) =
      samples.length - k * geometry.hop := by omega
  have hafter : min geometry.window ((samples ++ [sample]).length - k * geometry.hop) =
      samples.length - k * geometry.hop + 1 := by
    rw [List.length_append, List.length_singleton]
    omega
  simp only [held, hbefore, hafter, slice_concat hstart, Gauge.level, List.foldl_append,
    List.foldl_cons, List.foldl_nil]

/-- Taking a sample: the accumulator holds one more of its window, which is put
out if it is complete. -/
theorem take_held (hheld : capture.accumulators index = held gauge geometry samples k)
    (hstart : k * geometry.hop ≤ samples.length)
    (hroom : k * geometry.hop + geometry.window = samples.length + 1 →
      capture.completeWindows < capture.rms.length ∧
        capture.completeWindows < capture.peak.length) :
    capture.take gauge geometry sample index =
      .ok (capture.put gauge geometry (samples ++ [sample]) index k) := by
  by_cases hcomplete : k * geometry.hop + geometry.window ≤ samples.length
  · have hcount : min geometry.window (samples.length - k * geometry.hop) = geometry.window := by
      omega
    have hrests : ¬((capture.accumulators index).started ∧
        (capture.accumulators index).count < geometry.window) := by
      rw [hheld]
      simp [held, hcount]
    have hput : capture.put gauge geometry (samples ++ [sample]) index k = capture := by
      unfold Capture.put
      rw [if_neg (by rw [List.length_append, List.length_singleton]; omega),
        held_of_complete hcomplete, ← hheld, Function.update_eq_self]
    rw [Capture.take, if_neg hrests, hput]
    rfl
  have hopen := not_le.1 hcomplete
  have hcount : min geometry.window (samples.length - k * geometry.hop) =
      samples.length - k * geometry.hop := by omega
  have htakes : (capture.accumulators index).started ∧
      (capture.accumulators index).count < geometry.window := by
    rw [hheld]
    simp only [held, hcount, decide_eq_true_eq]
    omega
  have hafter : held gauge geometry (samples ++ [sample]) k = _ := held_of_open hstart hopen
  have hlength : (samples ++ [sample]).length = samples.length + 1 := by simp
  rw [Capture.take, if_pos htakes]
  simp only [hheld]
  rw [Capture.put, hlength, hafter]
  have htaken : (held gauge geometry samples k).count = samples.length - k * geometry.hop := hcount
  have hstarted : (held gauge geometry samples k).started = true := by
    rw [← hheld]
    exact htakes.1
  rw [htaken, hstarted]
  by_cases hlast : k * geometry.hop + geometry.window = samples.length + 1
  · obtain ⟨hrms, hpeak⟩ := hroom hlast
    have hfull : samples.length - k * geometry.hop + 1 = geometry.window := by omega
    have hlevel : gauge.level (geometry.windowOf (samples ++ [sample]) k) =
        gauge.add (held gauge geometry samples k).level sample := by
      rw [Geometry.windowOf, ← hfull, slice_concat hstart, Gauge.level, List.foldl_append, held,
        hcount]
      rfl
    rw [if_pos hfull, if_pos hlast, hlevel, hfull]
    simp only [writeAt, if_pos hrms, if_pos hpeak, bind, Except.bind, pure, Except.pure,
      lt_irrefl, decide_false]
    rfl
  · have hmore : samples.length - k * geometry.hop + 1 ≠ geometry.window := by omega
    have hless : samples.length - k * geometry.hop + 1 < geometry.window := by omega
    rw [if_neg hmore, if_neg hlast, decide_eq_true hless]
    rfl

theorem take_resting (h : (capture.accumulators index).started = false) :
    capture.take gauge geometry sample index = .ok capture := by
  rw [Capture.take, if_neg (by simp [h])]
  rfl

end Take

section Step

variable {gauge : Gauge S E} {geometry : Geometry} {samples : List S} {sample : S}
  {capture : Capture S E} {index : Fin 2} {k m : ℕ}

theorem heldWindow_le (h : heldWindow geometry m index = some k) :
    k * geometry.hop ≤ m := by
  have hlatest := Nat.div_mul_le_self m geometry.hop
  unfold heldWindow at h
  split at h
  · cases h
    exact hlatest
  · split at h
    · cases h
    · cases h
      exact (Nat.mul_le_mul_right _ (Nat.sub_le _ _)).trans hlatest

theorem parity_of_heldWindow (h : heldWindow geometry m index = some k) : Fin.ofNat 2 k = index := by
  unfold heldWindow at h
  split at h
  · next hparity =>
      cases h
      exact hparity
  · next hparity =>
      split at h
      · cases h
      · next hzero =>
          cases h
          generalize m / geometry.hop = latest at hparity hzero ⊢
          have hne : latest % 2 ≠ index.val := fun heq => hparity (Fin.ext heq)
          have hlt := index.isLt
          refine Fin.ext ?_
          change (latest - 1) % 2 = index.val
          omega

/-- A window that has started and is at most two hops old is held. -/
theorem heldWindow_eq (hsound : geometry.Sound) (hstart : k * geometry.hop ≤ m)
    (hrecent : m < (k + 2) * geometry.hop) :
    heldWindow geometry m (Fin.ofNat 2 k) = some k := by
  have hle : k ≤ m / geometry.hop := (Nat.le_div_iff_mul_le hsound.hop_pos).2 hstart
  have hlt : m / geometry.hop < k + 2 := Nat.div_lt_of_lt_mul (by rwa [Nat.mul_comm])
  unfold heldWindow
  obtain heq | heq : m / geometry.hop = k ∨ m / geometry.hop = k + 1 := by omega
  · rw [heq, if_pos rfl]
  · rw [heq, if_neg, if_neg (Nat.succ_ne_zero k), Nat.add_sub_cancel]
    intro hparity
    have hvalue := congrArg Fin.val hparity
    simp only [Fin.val_ofNat] at hvalue
    omega

theorem div_pred_mul {hop k : ℕ} (hhop : 0 < hop) (hk : 0 < k) : (k * hop - 1) / hop = k - 1 := by
  obtain ⟨k, rfl⟩ := Nat.exists_eq_succ_of_ne_zero hk.ne'
  have hsplit : (k + 1) * hop - 1 = hop - 1 + k * hop := by
    rw [Nat.succ_mul]
    omega
  rw [hsplit, Nat.add_mul_div_right _ _ hhop, Nat.div_eq_of_lt (by omega)]
  omega

/-- The next window starts in its accumulator if the sample is at a hop. -/
theorem restart_holds (hsound : geometry.Sound)
    (h : Holds gauge geometry samples (latestWindow geometry samples.length) capture) :
    ∃ accumulators, capture.restart gauge geometry samples.length =
        .ok { capture with accumulators } ∧
      Holds gauge geometry samples (heldWindow geometry samples.length)
        { capture with accumulators } := by
  have hhop := hsound.hop_pos
  unfold Capture.restart
  rw [if_neg (by omega)]
  by_cases hstart : samples.length % geometry.hop = 0
  · rw [if_pos hstart]
    refine ⟨_, rfl, fun index => ?_⟩
    have hmultiple : samples.length / geometry.hop * geometry.hop = samples.length :=
      Nat.div_mul_cancel (Nat.dvd_of_mod_eq_zero hstart)
    have hindex := h index
    unfold heldWindow
    by_cases hparity : Fin.ofNat 2 (samples.length / geometry.hop) = index
    · rw [if_pos hparity]
      simp only [hparity, Function.update_self]
      exact (held_of_start hsound hmultiple).symm
    · rw [if_neg hparity]
      simp only [Function.update_of_ne (Ne.symm hparity)]
      by_cases hzero : samples.length / geometry.hop = 0
      · rw [hzero, Nat.zero_mul] at hmultiple
        rw [latestWindow, if_pos hmultiple.symm] at hindex
        rw [if_pos hzero]
        exact hindex
      -- the other accumulator holds the window before
      have hbefore : (samples.length - 1) / geometry.hop = samples.length / geometry.hop - 1 := by
        rw [← hmultiple, Nat.mul_div_cancel _ hhop]
        exact div_pred_mul hhop (Nat.pos_of_ne_zero hzero)
      have hother : Fin.ofNat 2 (samples.length / geometry.hop - 1) = index := by
        generalize samples.length / geometry.hop = latest at hparity hzero
        have hne : latest % 2 ≠ index.val := fun heq => hparity (Fin.ext heq)
        have hlt := index.isLt
        refine Fin.ext ?_
        change (latest - 1) % 2 = index.val
        omega
      have hpos : samples.length ≠ 0 := by
        intro hnone
        rw [hnone, Nat.zero_div] at hzero
        exact hzero rfl
      rw [latestWindow, if_neg hpos, heldWindow, hbefore, if_pos hother] at hindex
      rw [if_neg hzero]
      exact hindex
  · rw [if_neg hstart]
    refine ⟨_, rfl, fun index => ?_⟩
    have hindex := h index
    have hpos : samples.length ≠ 0 := by
      intro hzero
      rw [hzero, Nat.zero_mod] at hstart
      exact hstart rfl
    have hsame : (samples.length - 1) / geometry.hop = samples.length / geometry.hop := by
      have hstep := Nat.succ_div_of_not_dvd
        (show ¬geometry.hop ∣ samples.length - 1 + 1 from fun hdvd => hstart (by
          rw [Nat.sub_add_cancel (Nat.pos_of_ne_zero hpos)] at hdvd
          exact Nat.mod_eq_zero_of_dvd hdvd))
      rw [Nat.sub_add_cancel (Nat.pos_of_ne_zero hpos)] at hstep
      exact hstep.symm
    rw [latestWindow, if_neg hpos, heldWindow, hsame] at hindex
    exact hindex

/-- The windows that are complete have been put out, in order. -/
structure Outputs (gauge : Gauge S E) (geometry : Geometry) (samples : List S) (count : ℕ)
    (capture : Capture S E) : Prop where
  complete : capture.completeWindows = count
  rms : capture.rms.take count = (List.range count).map fun k =>
    gauge.rms (gauge.level (geometry.windowOf samples k)) geometry.window
  peak : capture.peak.take count = (List.range count).map fun k =>
    gauge.peak (gauge.level (geometry.windowOf samples k))

/-- The windows of the first samples are windows of all of them. -/
theorem Outputs.concat (hsound : geometry.Sound)
    (h : Outputs gauge geometry samples (geometry.windowCount samples.length) capture)
    (sample : S) :
    Outputs gauge geometry (samples ++ [sample]) (geometry.windowCount samples.length) capture := by
  have hwindow : ∀ k ∈ List.range (geometry.windowCount samples.length),
      geometry.windowOf (samples ++ [sample]) k = geometry.windowOf samples k := by
    intro k hk
    refine slice_concat_of_le ?_
    exact (lt_windowCount_iff hsound).1 (List.mem_range.1 hk)
  refine ⟨h.complete, ?_, ?_⟩
  · rw [h.rms]
    exact List.map_congr_left fun k hk => by rw [hwindow k hk]
  · rw [h.peak]
    exact List.map_congr_left fun k hk => by rw [hwindow k hk]

theorem take_succ_set {α : Type} {xs : List α} {k : ℕ} (value : α) (h : k < xs.length) :
    (xs.set k value).take (k + 1) = xs.take k ++ [value] := by
  rw [List.take_add_one, List.take_set_of_le le_rfl, List.getElem?_set_self h]
  rfl

theorem Outputs.put_last (h : Outputs gauge geometry samples k capture)
    (hend : k * geometry.hop + geometry.window = samples.length)
    (hrms : k < capture.rms.length) (hpeak : k < capture.peak.length) :
    Outputs gauge geometry samples (k + 1) (capture.put gauge geometry samples index k) := by
  unfold Capture.put
  rw [if_pos hend]
  refine ⟨by simp only [h.complete], ?_, ?_⟩
  · simp only [h.complete]
    rw [take_succ_set _ hrms, h.rms, List.range_succ, List.map_append]
    rfl
  · simp only [h.complete]
    rw [take_succ_set _ hpeak, h.peak, List.range_succ, List.map_append]
    rfl

theorem Outputs.put_other {count : ℕ} (h : Outputs gauge geometry samples count capture)
    (hend : k * geometry.hop + geometry.window ≠ samples.length) :
    Outputs gauge geometry samples count (capture.put gauge geometry samples index k) := by
  unfold Capture.put
  rw [if_neg hend]
  exact ⟨h.complete, h.rms, h.peak⟩

/-- The sizes of the buffers, and everything else that an accumulator leaves
alone. -/
def SameBut (capture capture' : Capture S E) : Prop :=
  capture'.samples = capture.samples ∧ capture'.copied = capture.copied ∧
    capture'.invalid = capture.invalid ∧ capture'.rms.length = capture.rms.length ∧
    capture'.peak.length = capture.peak.length

theorem sameBut_put : SameBut capture (capture.put gauge geometry samples index k) := by
  unfold Capture.put
  split
  · exact ⟨rfl, rfl, rfl, List.length_set, List.length_set⟩
  · exact ⟨rfl, rfl, rfl, rfl, rfl⟩

theorem put_accumulators (capture : Capture S E) (samples : List S) (index : Fin 2) (k : ℕ) :
    (capture.put gauge geometry samples index k).accumulators =
      Function.update capture.accumulators index (held gauge geometry samples k) := by
  unfold Capture.put
  split
  · rfl
  · rfl

/-- What the two accumulators do with the sample after `samples`: `seen` are the
ones that have taken it. -/
structure Taking (gauge : Gauge S E) (geometry : Geometry) (samples : List S) (sample : S)
    (seen : Fin 2 → Prop) (capture : Capture S E) : Prop where
  before : ∀ index, ¬seen index → match heldWindow geometry samples.length index with
    | some k => capture.accumulators index = held gauge geometry samples k
    | none => (capture.accumulators index).started = false
  after : ∀ index, seen index → match heldWindow geometry samples.length index with
    | some k => capture.accumulators index = held gauge geometry (samples ++ [sample]) k
    | none => (capture.accumulators index).started = false
  /-- Among those that have taken it is the one whose window is complete now. -/
  put : ∀ index, seen index → ∀ k, heldWindow geometry samples.length index = some k →
    k * geometry.hop + geometry.window = samples.length + 1 →
    Outputs gauge geometry (samples ++ [sample]) (k + 1) capture
  still : (∀ index, seen index → ∀ k, heldWindow geometry samples.length index = some k →
      k * geometry.hop + geometry.window ≠ samples.length + 1) →
    Outputs gauge geometry (samples ++ [sample]) (geometry.windowCount samples.length) capture

theorem Taking.take {seen : Fin 2 → Prop} (hsound : geometry.Sound)
    (h : Taking gauge geometry samples sample seen capture) (index : Fin 2) (hindex : ¬seen index)
    (hrms : geometry.windowCount (samples.length + 1) ≤ capture.rms.length)
    (hpeak : geometry.windowCount (samples.length + 1) ≤ capture.peak.length) :
    ∃ capture', capture.take gauge geometry sample index = .ok capture' ∧
      Taking gauge geometry samples sample (fun other => seen other ∨ other = index) capture' ∧
      SameBut capture capture' := by
  have hbefore := h.before index hindex
  cases hwindow : heldWindow geometry samples.length index with
  | none =>
      rw [hwindow] at hbefore
      refine ⟨capture, take_resting hbefore, ⟨?_, ?_, ?_, ?_⟩, rfl, rfl, rfl, rfl, rfl⟩
      · exact fun other hother => h.before other fun hseen => hother (.inl hseen)
      · rintro other (hseen | rfl)
        · exact h.after other hseen
        · rw [hwindow]
          exact hbefore
      · rintro other (hseen | rfl) k hk
        · exact h.put other hseen k hk
        · rw [hwindow] at hk
          cases hk
      · exact fun hnone => h.still fun other hseen => hnone other (.inl hseen)
  | some k =>
  rw [hwindow] at hbefore
  -- no other window is complete at the same time
  have hstill : k * geometry.hop + geometry.window = samples.length + 1 →
      Outputs gauge geometry (samples ++ [sample]) k capture := by
    intro hend
    have houtputs := h.still ?_
    · rwa [(windowCount_of_end hsound hend).1] at houtputs
    · intro other hseen k' hk' hend'
      have hsame : k' = k := by
        refine Nat.eq_of_mul_eq_mul_right hsound.hop_pos ?_
        omega
      refine hindex ?_
      rw [← parity_of_heldWindow hwindow, ← hsame, parity_of_heldWindow hk']
      exact hseen
  have hroom : k * geometry.hop + geometry.window = samples.length + 1 →
      k < capture.rms.length ∧ k < capture.peak.length := by
    intro hend
    rw [(windowCount_of_end hsound hend).2] at hrms hpeak
    exact ⟨hrms, hpeak⟩
  have hlength : (samples ++ [sample]).length = samples.length + 1 := by simp
  refine ⟨_, take_held hbefore (heldWindow_le hwindow) ?_, ⟨?_, ?_, ?_, ?_⟩, sameBut_put⟩
  · intro hend
    rw [(hstill hend).complete]
    exact hroom hend
  · intro other hother
    rw [put_accumulators, Function.update_of_ne fun heq => hother (.inr heq)]
    exact h.before other fun hseen => hother (.inl hseen)
  · rintro other (hseen | rfl)
    · have hother : other ≠ index := fun heq => hindex (heq ▸ hseen)
      rw [put_accumulators, Function.update_of_ne hother]
      exact h.after other hseen
    · rw [put_accumulators, hwindow, Function.update_self]
  · rintro other (hseen | rfl) k' hk' hend'
    · -- then it was put out before, and this one is not complete
      have hother : other ≠ index := fun heq => hindex (heq ▸ hseen)
      refine (h.put other hseen k' hk' hend').put_other ?_
      rw [hlength]
      intro hend
      have hsame : k' = k := by
        refine Nat.eq_of_mul_eq_mul_right hsound.hop_pos ?_
        omega
      rw [← parity_of_heldWindow hwindow, ← parity_of_heldWindow hk', hsame] at hother
      exact hother rfl
    · rw [hwindow] at hk'
      cases hk'
      obtain ⟨hk, hk'⟩ := hroom hend'
      exact (hstill hend').put_last (hend'.trans hlength.symm) hk hk'
  · intro hnone
    have hother := hnone index (.inr rfl) k hwindow
    refine (h.still fun other hseen => hnone other (.inl hseen)).put_other ?_
    rw [hlength]
    exact hother

end Step

/-! ### The capture -/

section Run

variable {gauge : Gauge S E} {geometry : Geometry} {samples : List S} {sample : S}
  {capture : Capture S E} {frames windows : ℕ}

/-- A capture of some samples, in buffers for `frames` samples and `windows`
windows. -/
structure Follows (gauge : Gauge S E) (geometry : Geometry) (frames windows : ℕ)
    (samples : List S) (capture : Capture S E) : Prop where
  copied : capture.copied = samples.length
  stored : capture.samples.take samples.length = samples
  sizes : capture.samples.length = frames ∧ capture.rms.length = windows ∧
    capture.peak.length = windows
  outputs : Outputs gauge geometry samples (geometry.windowCount samples.length) capture
  holds : Holds gauge geometry samples (latestWindow geometry samples.length) capture
  finite : capture.invalid = samples.any fun sample => !gauge.isFinite sample

theorem follows_begin (hsound : geometry.Sound) {samples rms peak : List S}
    (hsizes : samples.length = frames ∧ rms.length = windows ∧ peak.length = windows) :
    Follows gauge geometry frames windows [] (.begin gauge samples rms peak) where
  copied := rfl
  stored := rfl
  sizes := hsizes
  outputs := by
    have hcount : geometry.windowCount 0 = 0 := by
      have hwindow := hsound.window_pos
      rw [Geometry.windowCount, if_neg (by omega)]
    rw [List.length_nil, hcount]
    exact ⟨rfl, rfl, rfl⟩
  holds := fun _ => rfl
  finite := rfl

theorem copySample_eq {index : ℕ} {stored : List S} {restarted first second : Capture S E}
    (hcopied : capture.copied = index)
    (hwrite : writeAt capture.samples index sample = .ok stored)
    (hrestart : Capture.restart gauge geometry
      { capture with samples := stored, invalid := capture.invalid || !gauge.isFinite sample }
      index = .ok restarted)
    (hfirst : restarted.take gauge geometry sample 0 = .ok first)
    (hsecond : first.take gauge geometry sample 1 = .ok second) :
    capture.copySample gauge geometry sample =
      .ok { second with copied := second.copied + 1 } := by
  subst hcopied
  simp only [Capture.copySample, hwrite, bind, Except.bind, hrestart, hfirst, hsecond]
  rfl

/-- A sample for which there is room. -/
theorem Follows.copySample (hsound : geometry.Sound)
    (h : Follows gauge geometry frames windows samples capture) (hframes : samples.length < frames)
    (hwindows : geometry.windowCount (samples.length + 1) ≤ windows) (sample : S) :
    ∃ capture', capture.copySample gauge geometry sample = .ok capture' ∧
      Follows gauge geometry frames windows (samples ++ [sample]) capture' := by
  obtain ⟨hsamples, hrms, hpeak⟩ := h.sizes
  have hwrite : writeAt capture.samples samples.length sample =
      .ok (capture.samples.set samples.length sample) := by
    rw [writeAt, if_pos (hframes.trans_eq hsamples.symm)]
  have hholds : Holds gauge geometry samples (latestWindow geometry samples.length)
      { capture with
        samples := capture.samples.set samples.length sample
        invalid := capture.invalid || !gauge.isFinite sample } := h.holds
  obtain ⟨accumulators, hrestart, hholds⟩ := restart_holds hsound hholds
  have htaking : Taking gauge geometry samples sample (fun _ => False)
      { capture with
        samples := capture.samples.set samples.length sample
        invalid := capture.invalid || !gauge.isFinite sample
        accumulators } := by
    have houtputs := h.outputs.concat hsound sample
    exact ⟨fun index _ => hholds index, fun _ hseen => hseen.elim, fun _ hseen => hseen.elim,
      fun _ => ⟨houtputs.complete, houtputs.rms, houtputs.peak⟩⟩
  obtain ⟨first, hfirst, htaking, hsame⟩ := htaking.take hsound 0 id
    (hwindows.trans hrms.ge) (hwindows.trans hpeak.ge)
  obtain ⟨second, hsecond, htaking, hsame'⟩ := htaking.take hsound 1
    (by simp) (hwindows.trans (hrms.symm.trans hsame.2.2.2.1.symm).le)
    (hwindows.trans (hpeak.symm.trans hsame.2.2.2.2.symm).le)
  refine ⟨_, copySample_eq h.copied hwrite hrestart hfirst hsecond, ?_⟩
  have hlength : (samples ++ [sample]).length = samples.length + 1 := by simp
  have hall : ∀ index : Fin 2, (False ∨ index = 0) ∨ index = 1 := by
    intro index
    omega
  refine ⟨?_, ?_, ⟨?_, ?_, ?_⟩, ?_, ?_, ?_⟩
  · change second.copied + 1 = _
    rw [hsame'.2.1, hsame.2.1, hlength]
    exact congrArg (· + 1) h.copied
  · change second.samples.take _ = _
    rw [hsame'.1, hsame.1, hlength, take_succ_set _ (hframes.trans_eq hsamples.symm), h.stored]
  · change second.samples.length = _
    rw [hsame'.1, hsame.1, List.length_set]
    exact hsamples
  · change second.rms.length = _
    rw [hsame'.2.2.2.1, hsame.2.2.2.1]
    exact hrms
  · change second.peak.length = _
    rw [hsame'.2.2.2.2, hsame.2.2.2.2]
    exact hpeak
  · rw [hlength]
    by_cases hend : ∃ k, k * geometry.hop + geometry.window = samples.length + 1
    · obtain ⟨k, hend⟩ := hend
      have hwindow : heldWindow geometry samples.length (Fin.ofNat 2 k) = some k := by
        have hpos := hsound.window_pos
        have hle := hsound.window_le
        refine heldWindow_eq hsound (by omega) ?_
        rw [Nat.add_mul]
        omega
      have houtputs := htaking.put _ (hall _) k hwindow hend
      rw [(windowCount_of_end hsound hend).2]
      exact ⟨houtputs.complete, houtputs.rms, houtputs.peak⟩
    · have hnone := not_exists.1 hend
      have houtputs := htaking.still fun _ _ k _ => hnone k
      rw [windowCount_of_no_end hnone]
      exact ⟨houtputs.complete, houtputs.rms, houtputs.peak⟩
  · intro index
    rw [hlength, latestWindow, if_neg (Nat.succ_ne_zero _), Nat.add_sub_cancel]
    exact htaking.after index (hall index)
  · change second.invalid = _
    rw [hsame'.2.2.1, hsame.2.2.1, List.any_append, ← h.finite]
    simp

/-- The samples of one channel of an interleaved block. -/
def channelSamples (channels channel : ℕ) (block : List S) : List S :=
  (List.range (block.length / channels)).filterMap fun frame => block[frame * channels + channel]?

theorem getElem?_block {channels channel frame : ℕ} {block : List S} (hchannel : channel < channels)
    (hframe : frame < block.length / channels) :
    ∃ sample, block[frame * channels + channel]? = some sample := by
  have hend : (frame + 1) * channels ≤ block.length :=
    (Nat.mul_le_mul_right _ hframe).trans (Nat.div_mul_le_self _ _)
  rw [Nat.succ_mul] at hend
  exact ⟨_, List.getElem?_eq_getElem (by omega)⟩

/-- A block: its samples are captured until there are enough. -/
theorem Follows.copyBlock {request : Request} {channels : ℕ} (hsound : geometry.Sound)
    (hframes : request.frames ≤ frames) (hwindows : geometry.windowCount request.frames ≤ windows)
    (hchannel : request.channel < channels)
    (h : Follows gauge geometry frames windows (samples.take request.frames) capture)
    (block : List S) :
    ∃ capture', copyCalibrationSamples gauge geometry request channels capture block =
        .ok capture' ∧
      Follows gauge geometry frames windows
        ((samples ++ channelSamples channels request.channel block).take request.frames)
        capture' := by
  refine foldlM_range_progress (P := fun count capture =>
    Follows gauge geometry frames windows
      ((samples ++ (List.range count).filterMap fun frame =>
        block[frame * channels + request.channel]?).take request.frames) capture) ?_ ?_
  · intro frame hframe capture hfollows
    obtain ⟨sample, hsample⟩ := getElem?_block hchannel hframe
    simp only [hsample]
    have hnext : ∀ before : List S, before = (samples ++ (List.range frame).filterMap fun frame =>
        block[frame * channels + request.channel]?) →
        samples ++ (List.range (frame + 1)).filterMap (fun frame =>
          block[frame * channels + request.channel]?) = before ++ [sample] := by
      rintro _ rfl
      rw [List.range_succ, List.filterMap_append, List.append_assoc]
      congr 2
      simp [hsample]
    generalize hbefore : (samples ++ (List.range frame).filterMap fun frame =>
      block[frame * channels + request.channel]?) = before at hfollows
    rw [hnext before hbefore.symm]
    have hcopied := hfollows.copied
    rw [List.length_take] at hcopied
    by_cases hdone : capture.copied = request.frames
    · refine ⟨capture, if_pos hdone, ?_⟩
      rw [List.take_append_of_le_length (by omega)]
      exact hfollows
    · have hlt : before.length < request.frames := by omega
      have hall : before.take request.frames = before := List.take_of_length_le hlt.le
      rw [hall] at hfollows
      have hlength : (before ++ [sample]).length ≤ request.frames := by
        rw [List.length_append, List.length_singleton]
        exact hlt
      rw [if_neg hdone, List.take_of_length_le hlength]
      refine hfollows.copySample hsound (hlt.trans_le hframes) ?_ sample
      exact (windowCount_mono geometry hlt).trans hwindows
  · rw [List.range_zero, List.filterMap_nil, List.append_nil]
    exact h

/-- The blocks that arrive while the capture goes on. -/
def captureBlocks (gauge : Gauge S E) (geometry : Geometry) (request : Request) (channels : ℕ)
    (capture : Capture S E) (blocks : List (List S)) : Result (Capture S E) :=
  blocks.foldlM (copyCalibrationSamples gauge geometry request channels) capture

theorem Follows.copyBlocks {request : Request} {channels : ℕ} (hsound : geometry.Sound)
    (hframes : request.frames ≤ frames) (hwindows : geometry.windowCount request.frames ≤ windows)
    (hchannel : request.channel < channels)
    (h : Follows gauge geometry frames windows (samples.take request.frames) capture)
    (blocks : List (List S)) :
    ∃ capture', captureBlocks gauge geometry request channels capture blocks = .ok capture' ∧
      Follows gauge geometry frames windows
        ((samples ++ blocks.flatMap (channelSamples channels request.channel)).take
          request.frames) capture' := by
  induction blocks generalizing samples capture with
  | nil =>
      rw [List.flatMap_nil, List.append_nil]
      exact ⟨capture, rfl, h⟩
  | cons block blocks ih =>
      obtain ⟨middle, hblock, hmiddle⟩ := h.copyBlock hsound hframes hwindows hchannel block
      obtain ⟨capture', hblocks, hcapture'⟩ := ih hmiddle
      rw [List.flatMap_cons, ← List.append_assoc]
      refine ⟨capture', ?_, hcapture'⟩
      rw [captureBlocks, List.foldlM_cons, except_bind_eq_ok]
      exact ⟨middle, hblock, hblocks⟩

end Run

/-! ### The rest of the last window -/

section Rest

variable {gauge : Gauge S E} {geometry : Geometry} {samples : List S} {capture : Capture S E}
  {k m : ℕ}

/-- The accumulators that `partialFinalFrames` looks at. -/
def Capture.isPartial (geometry : Geometry) (capture : Capture S E) (index : Fin 2) : Bool :=
  (capture.accumulators index).started && decide (0 < (capture.accumulators index).count) &&
    decide ((capture.accumulators index).count < geometry.window)

theorem partialFinalFrames_of_none
    (h : ∀ index, capture.isPartial geometry index = false) :
    capture.partialFinalFrames geometry = 0 := by
  have hnone : (([0, 1] : List (Fin 2)).filter (capture.isPartial geometry)) = [] := by
    simp [h]
  unfold Capture.partialFinalFrames
  change ((maxByKey _ (List.filter (capture.isPartial geometry) [0, 1])).map _).getD 0 = 0
  rw [hnone]
  rfl

theorem partialFinalFrames_of_latest {index : Fin 2}
    (h : capture.isPartial geometry index = true)
    (hlatest : ∀ other, other ≠ index → capture.isPartial geometry other = true →
      (capture.accumulators other).start < (capture.accumulators index).start) :
    capture.partialFinalFrames geometry = (capture.accumulators index).count := by
  unfold Capture.partialFinalFrames
  change ((maxByKey _ (List.filter (capture.isPartial geometry) [0, 1])).map _).getD 0 = _
  obtain rfl | rfl : index = 0 ∨ index = 1 := by omega
  · cases hother : capture.isPartial geometry 1 with
    | false => simp [List.filter, h, hother, maxByKey]
    | true =>
        have hstart := hlatest 1 (by decide) hother
        simp [List.filter, h, hother, maxByKey, not_le.2 hstart]
  · cases hother : capture.isPartial geometry 0 with
    | false => simp [List.filter, h, hother, maxByKey]
    | true =>
        have hstart := hlatest 0 (by decide) hother
        simp [List.filter, h, hother, maxByKey, hstart.le]

/-- The windows that have started among `n` samples and are not complete. -/
def Geometry.openWindows (geometry : Geometry) (n : ℕ) : Set ℕ :=
  {k | k * geometry.hop < n ∧ n < k * geometry.hop + geometry.window}

/-- An accumulator is partial if it holds an open window. -/
theorem isPartial_iff {index : Fin 2}
    (h : Holds gauge geometry samples (latestWindow geometry samples.length) capture) :
    capture.isPartial geometry index = true ↔
      ∃ k ∈ geometry.openWindows samples.length,
        latestWindow geometry samples.length index = some k := by
  have hindex := h index
  cases hwindow : latestWindow geometry samples.length index with
  | none =>
      rw [hwindow] at hindex
      simp only [Capture.isPartial, hindex, Bool.false_and, Bool.false_eq_true, false_iff]
      rintro ⟨k, -, hk⟩
      cases hk
  | some k =>
      rw [hwindow] at hindex
      simp only [Capture.isPartial, hindex, held, Geometry.openWindows, Set.mem_ofPred_eq,
        Bool.and_eq_true, decide_eq_true_eq, Option.some.injEq, exists_eq_right']
      omega

/-- An open window is held. -/
theorem latestWindow_eq (hsound : geometry.Sound) (hk : k ∈ geometry.openWindows m) :
    latestWindow geometry m (Fin.ofNat 2 k) = some k := by
  obtain ⟨hstart, hopen⟩ := hk
  have hle := hsound.window_le
  rw [latestWindow, if_neg (by omega)]
  refine heldWindow_eq hsound (by omega) ?_
  rw [Nat.add_mul]
  omega

theorem partialFinalFrames_eq (hsound : geometry.Sound)
    (h : Holds gauge geometry samples (latestWindow geometry samples.length) capture)
    (hk : IsGreatest (geometry.openWindows samples.length) k) :
    capture.partialFinalFrames geometry = samples.length - k * geometry.hop := by
  have hwindow := latestWindow_eq hsound hk.1
  have hheld := h (Fin.ofNat 2 k)
  rw [hwindow] at hheld
  have hcount := partialFinalFrames_of_latest ((isPartial_iff h).2 ⟨k, hk.1, hwindow⟩) ?_
  · obtain ⟨-, hopen⟩ := hk.1
    rw [hcount, hheld]
    simp only [held]
    omega
  · intro other hother hpart
    obtain ⟨k', hk', hwindow'⟩ := (isPartial_iff h).1 hpart
    have hheld' := h other
    rw [hwindow'] at hheld'
    have hne : k' ≠ k := by
      rintro rfl
      rw [latestWindow] at hwindow'
      split at hwindow'
      · cases hwindow'
      · exact hother (parity_of_heldWindow hwindow').symm
    have hlt : k' < k := lt_of_le_of_ne (hk.2 hk') hne
    rw [hheld', hheld]
    exact Nat.mul_lt_mul_of_pos_right hlt hsound.hop_pos

end Rest

/-! ### Planned captures -/

section Planned

variable {machine : Machine} {inputs : SessionMemoryInputs} {budget : CalibrationBudget}

/-- The geometry that a plan hands to the slot. -/
def plannedGeometry (budget : CalibrationBudget) : Geometry :=
  ⟨budget.windowFrames, budget.hopFrames⟩

theorem plannedGeometry_sound (h : calibrationBudget machine inputs = .ok budget) :
    (plannedGeometry budget).Sound ∧
      budget.completeWindows = (plannedGeometry budget).windowCount budget.sampleFrames := by
  unfold calibrationBudget at h
  obtain ⟨sampleFrames, -, h⟩ := bind_eq_ok.1 h
  obtain ⟨window, hwindow, h⟩ := bind_eq_ok.1 h
  obtain ⟨hop, hhop, h⟩ := bind_eq_ok.1 h
  obtain ⟨completeWindows, hcomplete, h⟩ := bind_eq_ok.1 h
  obtain ⟨_, -, h⟩ := bind_eq_ok.1 h
  obtain ⟨_, -, h⟩ := bind_eq_ok.1 h
  obtain ⟨_, -, h⟩ := bind_eq_ok.1 h
  obtain ⟨_, -, h⟩ := bind_eq_ok.1 h
  obtain ⟨_, -, h⟩ := bind_eq_ok.1 h
  obtain ⟨_, -, h⟩ := bind_eq_ok.1 h
  cases h
  have hwindow : window = inputs.sampleRate * 20 := (checkedMulOr_eq_ok.1 hwindow).1
  have hhop : hop = inputs.sampleRate * 10 := (checkedMulOr_eq_ok.1 hhop).1
  have hsound : Geometry.Sound ⟨max (divCeil window 1000) 1, max (divCeil hop 1000) 1⟩ := by
    rw [hwindow, hhop]
    unfold divCeil
    refine ⟨?_, ?_, ?_⟩
    · dsimp only
      omega
    · dsimp only
      omega
    · dsimp only
      omega
  refine ⟨hsound, ?_⟩
  unfold calibrationWindows at hcomplete
  change completeWindows = Geometry.windowCount _ sampleFrames
  unfold Geometry.windowCount
  have hpos := hsound.window_pos
  split at hcomplete
  · cases hcomplete
    rw [if_neg (by dsimp only [plannedGeometry] at hpos ⊢; omega)]
  · rw [if_pos (by dsimp only [plannedGeometry]; omega)]
    unfold Runtime.checkedAddOr at hcomplete
    split at hcomplete
    · cases hcomplete
      rfl
    · cases hcomplete

/-- Every complete window of a capture is put out once, in its place and with the
statistics of its samples, in whatever blocks the samples arrive; the rest is that
of the latest window that has started. -/
theorem calibration_windows (gauge : Gauge S E)
    (hplan : calibrationBudget machine inputs = .ok budget) (request : Request) (channels : ℕ)
    (hframes : request.frames ≤ budget.sampleFrames) (hchannel : request.channel < channels)
    (samples rms peak : List S)
    (hsizes : samples.length = budget.sampleFrames ∧ rms.length = budget.completeWindows ∧
      peak.length = budget.completeWindows) (blocks : List (List S)) :
    ∃ capture, captureBlocks gauge (plannedGeometry budget) request channels
        (.begin gauge samples rms peak) blocks = .ok capture ∧
      let captured := (blocks.flatMap (channelSamples channels request.channel)).take request.frames
      let n := captured.length
      let window := budget.windowFrames
      let hop := budget.hopFrames
      capture.copied = n ∧ capture.samples.take n = captured ∧
      capture.completeWindows = (if window ≤ n then (n - window) / hop + 1 else 0) ∧
      capture.completeWindows ≤ budget.completeWindows ∧
      (∀ k, k < capture.completeWindows ↔ k * hop + window ≤ n) ∧
      capture.rms.take capture.completeWindows =
        (List.range capture.completeWindows).map (fun k =>
          gauge.rms (gauge.level (slice captured (k * hop) window)) window) ∧
      capture.peak.take capture.completeWindows =
        (List.range capture.completeWindows).map (fun k =>
          gauge.peak (gauge.level (slice captured (k * hop) window))) ∧
      (∀ k, IsGreatest {k | k * hop < n ∧ n < k * hop + window} k →
        capture.partialFinalFrames (plannedGeometry budget) = n - k * hop) ∧
      ({k | k * hop < n ∧ n < k * hop + window} = ∅ →
        capture.partialFinalFrames (plannedGeometry budget) = 0) := by
  obtain ⟨hsound, hcapacity⟩ := plannedGeometry_sound hplan
  have hwindows : (plannedGeometry budget).windowCount request.frames ≤ budget.completeWindows := by
    rw [hcapacity]
    exact windowCount_mono _ hframes
  have hbegin : Follows gauge (plannedGeometry budget) budget.sampleFrames budget.completeWindows
      (([] : List S).take request.frames) (.begin gauge samples rms peak) := by
    rw [List.take_nil]
    exact follows_begin hsound hsizes
  obtain ⟨capture, hrun, hfollows⟩ :=
    hbegin.copyBlocks hsound hframes hwindows hchannel blocks
  rw [List.nil_append] at hfollows
  refine ⟨capture, hrun, ?_⟩
  have hlength := List.length_take_le request.frames
    (blocks.flatMap (channelSamples channels request.channel))
  generalize (blocks.flatMap (channelSamples channels request.channel)).take request.frames =
    captured at hfollows hlength
  dsimp only
  have hcomplete : capture.completeWindows =
      (plannedGeometry budget).windowCount captured.length := hfollows.outputs.complete
  have hends : ∀ k, k < capture.completeWindows ↔
      k * budget.hopFrames + budget.windowFrames ≤ captured.length := by
    intro k
    rw [hcomplete]
    exact lt_windowCount_iff hsound
  refine ⟨hfollows.copied, hfollows.stored, hcomplete, ?_, hends, ?_, ?_, ?_, ?_⟩
  · rw [hcomplete, hcapacity]
    exact windowCount_mono _ (hlength.trans hframes)
  · rw [hcomplete]
    exact hfollows.outputs.rms
  · rw [hcomplete]
    exact hfollows.outputs.peak
  · exact fun k hk => partialFinalFrames_eq hsound hfollows.holds hk
  · intro hnone
    refine partialFinalFrames_of_none fun index => ?_
    rw [← Bool.not_eq_true, isPartial_iff hfollows.holds]
    rintro ⟨k, hk, -⟩
    have hk' : k ∈ (∅ : Set ℕ) := hnone ▸ hk
    exact hk'

end Planned

/-- A gauge that adds the samples up. -/
def sumGauge : Gauge ℕ ℕ where
  isFinite := fun _ => true
  zero := 0
  add := fun level sample => level + sample
  rms := fun level count => level / count
  peak := id

def shortInputs : SessionMemoryInputs where
  retentionFrames := 100
  channels := 1
  sampleRate := 100
  sampleFormat := .f32Le
  chunkFrames := 10
  maxActiveSnapshots := 1
  sampleBytes := 4
  splitWhenOverBytes := 1000
  controlQueueCapacity := 1
  workerStackBytes := 4096
  captureQueueSlots := 2
  captureSlotFrames := 10
  captureWorkerStackBytes := 4096
  ioBufferBytesPerChannel := 4096
  maximumPathBytes := 100
  maximumCalibrationSeconds := 1
  headroom := 0x3FF0000000000000

def shortBudget : CalibrationBudget where
  sampleFrames := 100
  completeWindows := 99
  windowFrames := 2
  hopFrames := 1
  samples := 4096
  rms := 4096
  peak := 4096
  slotMetadata := 4096

theorem calibration_windows_of_three_samples :
    calibrationBudget ⟨4096, 64⟩ shortInputs = .ok shortBudget ∧
      ∃ capture, captureBlocks sumGauge (plannedGeometry shortBudget) ⟨0, 3⟩ 1
          (.begin sumGauge (List.replicate 100 0) (List.replicate 99 0) (List.replicate 99 0))
          [[1, 2], [3]] = .ok capture ∧
        capture.completeWindows = 2 := by
  have hplan : calibrationBudget ⟨4096, 64⟩ shortInputs = .ok shortBudget := by
    set_option maxRecDepth 20000 in rfl
  obtain ⟨capture, hrun, -, -, hcount, -⟩ := calibration_windows sumGauge hplan ⟨0, 3⟩ 1
    (by decide) (by decide) (List.replicate 100 0) (List.replicate 99 0) (List.replicate 99 0)
    ⟨List.length_replicate, List.length_replicate, List.length_replicate⟩ [[1, 2], [3]]
  exact ⟨hplan, capture, hrun, hcount.trans (by decide)⟩

end Lamb.CalibrationWindows
