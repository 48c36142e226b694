import Lamb.Activity.Detector
import Lamb.Lib.Blocks

/-!
The windows of one channel. After some samples every window that is full has
been evaluated, in order, and the accumulators hold the next two windows with
what has come of them. At the end the windows evaluated are those that start
before the last sample, each cut off there.
-/

namespace Lamb.Activity

open Lamb.Lib Lamb.Dump

variable {S L D : Type}

/-! ### Geometry -/

/-- What `WindowGeometry::new` promises; two accumulators suffice because a
window is no longer than two hops. -/
structure WindowGeometry.Sound (geometry : WindowGeometry) : Prop where
  window_pos : 0 < geometry.window
  hop_pos : 0 < geometry.hop
  window_le : geometry.window ≤ 2 * geometry.hop
  hop_le : geometry.hop ≤ u32Max

theorem WindowGeometry.Sound.of_new {sampleRate : ℕ} {geometry : WindowGeometry}
    (h : WindowGeometry.new sampleRate = .ok geometry) : geometry.Sound := by
  unfold WindowGeometry.new at h
  split_ifs at h with hrate hwindow hhop
  obtain rfl := Except.ok.inj h
  unfold Runtime.divCeil at *
  refine ⟨?_, ?_, ?_, ?_⟩ <;> simp only [u32Max] at * <;> omega

/-! ### What a window holds -/

/-- The sum of the finite samples among `samples`. -/
def level (scan : Scan S L D) (samples : List S) : L :=
  samples.foldl
    (fun level sample => if scan.meter.isFinite sample then scan.meter.add level sample else level)
    scan.meter.zero

/-- Window `k` over the samples before `stop`. -/
def windowAt (scan : Scan S L D) (samples : List S) (stop k : ℕ) : WindowAccumulator L where
  start := k * scan.geometry.hop
  level := level scan (slice samples (k * scan.geometry.hop) (stop - k * scan.geometry.hop))
  count := stop - k * scan.geometry.hop

/-- Where window `k` of `n` samples ends. -/
def windowStop (scan : Scan S L D) (n k : ℕ) : ℕ :=
  min (k * scan.geometry.hop + scan.geometry.window) n

/-- The frames of window `k` of `n` samples. -/
def windowRange (scan : Scan S L D) (n k : ℕ) : Ring.Range :=
  ⟨scan.transactionStart + k * scan.geometry.hop, scan.transactionStart + windowStop scan n k⟩

/-- Window `k` is judged by its samples. -/
def judgeWindow (scan : Scan S L D) (threshold : D) (samples : List S) (verdict : Verdict)
    (k : ℕ) : Verdict :=
  verdict.judge scan threshold (windowAt scan samples (windowStop scan samples.length k) k)
    (windowRange scan samples.length k)

theorem windowAt_empty (scan : Scan S L D) (samples : List S) {stop k : ℕ}
    (h : stop ≤ k * scan.geometry.hop) :
    windowAt scan samples stop k = .new scan (k * scan.geometry.hop) := by
  simp [windowAt, WindowAccumulator.new, Nat.sub_eq_zero_of_le h, slice, level]

theorem windowAt_take (scan : Scan S L D) {samples : List S} {m k : ℕ} {sample : S}
    (hsample : samples[m]? = some sample) (hstart : k * scan.geometry.hop ≤ m) :
    (windowAt scan samples m k).take scan sample = windowAt scan samples (m + 1) k := by
  have hcount : m + 1 - k * scan.geometry.hop = m - k * scan.geometry.hop + 1 := by omega
  have hslice : slice samples (k * scan.geometry.hop) (m - k * scan.geometry.hop + 1) =
      slice samples (k * scan.geometry.hop) (m - k * scan.geometry.hop) ++ [sample] := by
    rw [← slice_append_slice, Nat.add_sub_cancel' hstart]
    congr 1
    simp only [slice]
    rw [List.take_one, List.head?_drop, hsample]
    rfl
  simp only [windowAt, WindowAccumulator.take, hslice, hcount, level, List.foldl_append,
    List.foldl_cons, List.foldl_nil]

/-! ### The accumulators -/

/-- The window that accumulator `index` holds when `done` windows are full. -/
def heldWindow (done : ℕ) (index : Fin 2) : ℕ :=
  if done % 2 = index then done else done + 1

theorem heldWindow_succ (done : ℕ) (index : Fin 2) :
    heldWindow (done + 1) index =
      if heldWindow done index = done then done + 2 else heldWindow done index := by
  unfold heldWindow
  have hindex := index.isLt
  split_ifs <;> omega

theorem heldWindow_cases (done : ℕ) (index : Fin 2) :
    heldWindow done index = done ∨ heldWindow done index = done + 1 := by
  unfold heldWindow
  split_ifs
  · exact .inl rfl
  · exact .inr rfl

/-- The other accumulator holds the other window. -/
theorem heldWindow_ne (done : ℕ) : heldWindow done 0 ≠ heldWindow done 1 := by
  unfold heldWindow
  have hmod := Nat.mod_two_eq_zero_or_one done
  split_ifs <;> simp_all

section Feed

variable {scan : Scan S L D} {samples : List S} {threshold : D}

/-- The samples lie in memory, and their frame numbers are `u64` values. -/
structure InMemory (scan : Scan S L D) (n : ℕ) : Prop where
  size : n < 2 ^ 62
  frames : scan.transactionStart + n ≤ u64Max

theorem checkedAddOr_of_le {message : String} {a b : ℕ} (h : a + b ≤ u64Max) :
    checkedAddOr message a b = .ok (a + b) := by
  rw [checkedAddOr, checkedAdd_of_le h]

theorem evaluateWindow_windowAt (hmemory : InMemory scan samples.length) {stop k : ℕ}
    (hstop : stop ≤ samples.length) (hstart : k * scan.geometry.hop < stop) (verdict : Verdict) :
    evaluateWindow scan threshold (windowAt scan samples stop k) verdict =
      .ok (verdict.judge scan threshold (windowAt scan samples stop k)
        ⟨scan.transactionStart + k * scan.geometry.hop, scan.transactionStart + stop⟩) := by
  have hframes := hmemory.frames
  have hend : scan.transactionStart + k * scan.geometry.hop + (stop - k * scan.geometry.hop) =
      scan.transactionStart + stop := by omega
  unfold evaluateWindow
  rw [if_neg (by simp only [windowAt]; omega)]
  simp only [windowAt]
  rw [checkedAddOr_of_le (by omega)]
  simp only [bind, Except.bind]
  rw [checkedAddOr_of_le (by omega), hend]

/-- The accumulator of window `k` goes on to this window at sample `m`. -/
def nextWindow (scan : Scan S L D) (m k : ℕ) : ℕ :=
  if m + 1 = k * scan.geometry.hop + scan.geometry.window then k + 2 else k

/-- One accumulator takes the sample at `m`. -/
theorem feedAccumulator_windowAt (hgeometry : scan.geometry.Sound)
    (hmemory : InMemory scan samples.length) {m k : ℕ} {sample : S}
    (hsample : samples[m]? = some sample) {state : DetectorState L} {index : Fin 2}
    (hheld : state.accumulators index = windowAt scan samples m k)
    (hopen : m < k * scan.geometry.hop + scan.geometry.window)
    (hnear : k * scan.geometry.hop ≤ m + 2 * scan.geometry.hop) :
    feedAccumulator scan threshold sample m state index =
      .ok { state.setAccumulator index (windowAt scan samples (m + 1) (nextWindow scan m k)) with
        toVerdict :=
          if m + 1 = k * scan.geometry.hop + scan.geometry.window then
            judgeWindow scan threshold samples state.toVerdict k
          else state.toVerdict } := by
  have hlength : m < samples.length := (List.getElem?_eq_some_iff.mp hsample).1
  obtain ⟨hwindow, hhop, htwo, hbound⟩ := hgeometry
  have hsize := hmemory.size
  simp only [u32Max] at hbound
  have hwrap : ((windowAt scan samples m k).start + scan.geometry.window) % 2 ^ 64 =
      k * scan.geometry.hop + scan.geometry.window := by
    rw [Nat.mod_eq_of_lt]
    · rfl
    · simp only [windowAt]
      omega
  unfold feedAccumulator nextWindow
  simp only [hheld]
  rw [hwrap]
  by_cases hbefore : m < k * scan.geometry.hop
  · -- the window starts later: what is held of it stays empty
    have hsame : windowAt scan samples (m + 1) k = state.accumulators index := by
      rw [hheld, windowAt_empty scan samples (by omega), windowAt_empty scan samples (by omega)]
    rw [if_pos (.inl hbefore), if_neg (by omega), if_neg (by omega), hsame]
    simp only [DetectorState.setAccumulator, Function.update_eq_self]
  · rw [if_neg (by simp only [windowAt]; omega), windowAt_take scan hsample (by omega)]
    by_cases hfull : m + 1 = k * scan.geometry.hop + scan.geometry.window
    · have hstop : windowStop scan samples.length k = m + 1 := by
        unfold windowStop
        omega
      have hnext : (k + 2) * scan.geometry.hop = k * scan.geometry.hop + 2 * scan.geometry.hop :=
        Nat.add_mul k 2 _
      have hempty := windowAt_empty scan samples (show m + 1 ≤ (k + 2) * scan.geometry.hop by omega)
      rw [if_pos (by simp only [windowAt]; omega), if_pos hfull, if_pos hfull]
      rw [checkedAddOr_of_le (by simp only [windowAt, u64Max]; omega)]
      simp only [bind, Except.bind]
      rw [evaluateWindow_windowAt hmemory (by omega) (by omega), hempty]
      simp only [judgeWindow, windowRange, hstop, windowAt, hnext]
    · rw [if_neg (by simp only [windowAt]; omega), if_neg hfull, if_neg hfull]
      rfl

/-! ### A channel -/

/-- After the first `m` samples `done` windows are full and evaluated, and the
accumulators hold the next two. -/
structure Fed (scan : Scan S L D) (threshold : D) (samples : List S) (m done : ℕ)
    (state : DetectorState L) : Prop where
  full : ∀ k < done, k * scan.geometry.hop + scan.geometry.window ≤ m
  «open» : m < done * scan.geometry.hop + scan.geometry.window
  held : ∀ index, state.accumulators index = windowAt scan samples m (heldWindow done index)
  verdict : state.toVerdict =
    (List.range done).foldl (judgeWindow scan threshold samples) .empty
  nonFinite : state.nonFinite = (samples.take m).any fun sample => !scan.meter.isFinite sample
  exactNonzero : state.exactNonzero = (samples.take m).any fun sample =>
    scan.meter.isFinite sample && !scan.meter.isZero sample

theorem Fed.prepared (hgeometry : scan.geometry.Sound) (hdetector : scan.detector = .windowedRmsPeak) :
    Fed scan threshold samples 0 0 (prepareState scan (some threshold) (.empty scan)) := by
  unfold prepareState
  rw [if_pos hdetector]
  refine ⟨by simp, by have := hgeometry.window_pos; omega, fun index => ?_, rfl, by simp; rfl,
    by simp; rfl⟩
  rw [windowAt_empty scan samples (Nat.zero_le _)]
  simp only [DetectorState.prepareWindowed, heldWindow, Option.isNone_some, Bool.false_eq_true,
    if_false]
  revert index
  exact Fin.forall_fin_two.mpr ⟨by simp, by simp⟩

/-- A sample by itself only sets flags of a windowed detector. -/
theorem DetectorState.note_windowed (hdetector : scan.detector = .windowedRmsPeak) (sample : S)
    (frame : ℕ) (state : DetectorState L) :
    state.note scan sample frame =
      { state with
        nonFinite := state.nonFinite || !scan.meter.isFinite sample
        exactNonzero := state.exactNonzero ||
          (scan.meter.isFinite sample && !scan.meter.isZero sample) } := by
  unfold DetectorState.note
  rw [hdetector]
  cases scan.meter.isFinite sample <;> cases scan.meter.isZero sample <;> simp

theorem any_take_succ {p : S → Bool} {m : ℕ} {sample : S} (hsample : samples[m]? = some sample) :
    (samples.take (m + 1)).any p = ((samples.take m).any p || p sample) := by
  rw [List.take_add_one, hsample, List.any_append]
  simp

/-- The loop over the accumulators: at most the first window held is full. -/
theorem feedAccumulators_windowAt (hgeometry : scan.geometry.Sound)
    (hmemory : InMemory scan samples.length) {m done : ℕ} {sample : S}
    (hsample : samples[m]? = some sample) {state : DetectorState L}
    (hheld : ∀ index, state.accumulators index = windowAt scan samples m (heldWindow done index))
    (hopen : m < done * scan.geometry.hop + scan.geometry.window)
    (hnear : (done + 1) * scan.geometry.hop ≤ m + 2 * scan.geometry.hop) :
    (List.finRange 2).foldlM (feedAccumulator scan threshold sample m) state =
      .ok { state with
        toVerdict :=
          if m + 1 = done * scan.geometry.hop + scan.geometry.window then
            judgeWindow scan threshold samples state.toVerdict done
          else state.toVerdict
        accumulators := fun index =>
          windowAt scan samples (m + 1) (nextWindow scan m (heldWindow done index)) } := by
  have hhop := hgeometry.hop_pos
  have hsucc : (done + 1) * scan.geometry.hop =
      done * scan.geometry.hop + scan.geometry.hop := Nat.succ_mul done _
  have hbounds : ∀ index, m < heldWindow done index * scan.geometry.hop + scan.geometry.window ∧
      heldWindow done index * scan.geometry.hop ≤ m + 2 * scan.geometry.hop := by
    intro index
    rcases heldWindow_cases done index with heq | heq <;> rw [heq] <;> omega
  -- only window `done` can be full, whichever accumulator holds it
  have hverdict : (if m + 1 = heldWindow done 1 * scan.geometry.hop + scan.geometry.window then
      judgeWindow scan threshold samples
        (if m + 1 = heldWindow done 0 * scan.geometry.hop + scan.geometry.window then
          judgeWindow scan threshold samples state.toVerdict (heldWindow done 0)
        else state.toVerdict) (heldWindow done 1)
      else if m + 1 = heldWindow done 0 * scan.geometry.hop + scan.geometry.window then
        judgeWindow scan threshold samples state.toVerdict (heldWindow done 0)
      else state.toVerdict) =
      if m + 1 = done * scan.geometry.hop + scan.geometry.window then
        judgeWindow scan threshold samples state.toVerdict done
      else state.toVerdict := by
    have hne := heldWindow_ne done
    have hlater : ¬m + 1 = (done + 1) * scan.geometry.hop + scan.geometry.window := by omega
    rcases heldWindow_cases done 0 with hzero | hzero <;>
      rcases heldWindow_cases done 1 with hone | hone <;> rw [hzero, hone] at hne ⊢
    · exact absurd rfl hne
    · rw [if_neg hlater]
    · rw [if_neg hlater]
    · exact absurd rfl hne
  rw [show List.finRange 2 = [0, 1] from rfl, List.foldlM_cons,
    feedAccumulator_windowAt hgeometry hmemory hsample (hheld 0) (hbounds 0).1 (hbounds 0).2]
  simp only [bind, Except.bind, List.foldlM_cons]
  rw [feedAccumulator_windowAt hgeometry hmemory hsample ?_ (hbounds 1).1 (hbounds 1).2]
  · simp only [List.foldlM_nil, pure, Except.pure, DetectorState.setAccumulator, hverdict]
    congr 2
    funext index
    revert index
    exact Fin.forall_fin_two.mpr ⟨by simp, by simp⟩
  · exact hheld 1

theorem Fed.feedSample (hgeometry : scan.geometry.Sound)
    (hdetector : scan.detector = .windowedRmsPeak) (hmemory : InMemory scan samples.length)
    {m done : ℕ} {state : DetectorState L} (h : Fed scan threshold samples m done state)
    {sample : S} (hsample : samples[m]? = some sample) :
    ∃ done' state', feedSample scan (some threshold) sample m state = .ok state' ∧
      Fed scan threshold samples (m + 1) done' state' := by
  have hlength : m < samples.length := (List.getElem?_eq_some_iff.mp hsample).1
  have hframes := hmemory.frames
  have hwindow := hgeometry.window_pos
  have hhop := hgeometry.hop_pos
  have hsucc : (done + 1) * scan.geometry.hop =
      done * scan.geometry.hop + scan.geometry.hop := Nat.succ_mul done _
  have hnear : (done + 1) * scan.geometry.hop ≤ m + 2 * scan.geometry.hop := by
    cases done with
    | zero => omega
    | succ k =>
        have hfull := h.full k (Nat.lt_succ_self k)
        have hstep := Nat.add_mul k 1 scan.geometry.hop
        omega
  unfold Activity.feedSample
  rw [checkedAddOr_of_le (by omega)]
  simp only [bind, Except.bind]
  rw [if_pos hdetector, DetectorState.note_windowed hdetector,
    feedAccumulators_windowAt hgeometry hmemory hsample ?_ h.open hnear]
  swap
  · exact h.held
  by_cases hfull : m + 1 = done * scan.geometry.hop + scan.geometry.window
  · refine ⟨done + 1, _, rfl, ?_, by omega, fun index => ?_, ?_, ?_, ?_⟩
    · intro k hk
      rcases Nat.lt_succ_iff_lt_or_eq.mp hk with hk | rfl
      · exact (h.full k hk).trans (Nat.le_succ m)
      · exact hfull.ge
    · have hnext : nextWindow scan m (heldWindow done index) = heldWindow (done + 1) index := by
        rw [heldWindow_succ, nextWindow]
        rcases heldWindow_cases done index with heq | heq <;> rw [heq]
        · rw [if_pos hfull, if_pos rfl]
        · rw [if_neg (by omega), if_neg (by omega)]
      exact congrArg (windowAt scan samples (m + 1)) hnext
    · simp only [hfull, if_true, h.verdict, List.range_succ, List.foldl_append, List.foldl_cons,
        List.foldl_nil]
    · rw [any_take_succ hsample, ← h.nonFinite]
    · rw [any_take_succ hsample, ← h.exactNonzero]
  · refine ⟨done, _, rfl, fun k hk => (h.full k hk).trans (Nat.le_succ m), ?_, fun index => ?_,
      ?_, ?_, ?_⟩
    · have := h.open
      omega
    · have hnext : nextWindow scan m (heldWindow done index) = heldWindow done index := by
        have := h.open
        rw [nextWindow, if_neg]
        rcases heldWindow_cases done index with heq | heq <;> rw [heq] <;> omega
      exact congrArg (windowAt scan samples (m + 1)) hnext
    · simp only [hfull, if_false, h.verdict]
    · rw [any_take_succ hsample, ← h.nonFinite]
    · rw [any_take_succ hsample, ← h.exactNonzero]

/-! ### The end of the samples -/

/-- The verdict over all windows of a channel. -/
def windowsVerdict (scan : Scan S L D) (threshold : D) (samples : List S) : Verdict :=
  (List.range (samples.length ⌈/⌉ scan.geometry.hop)).foldl (judgeWindow scan threshold samples)
    .empty

theorem Verdict.judge_evaluated (scan : Scan S L D) (threshold : D)
    (accumulator : WindowAccumulator L) (range : Ring.Range) (verdict : Verdict) :
    (verdict.judge scan threshold accumulator range).evaluated = verdict.evaluated ++ [range] := by
  unfold Verdict.judge Verdict.gate
  simp only
  repeat' split
  all_goals rfl

/-- The windows a channel is judged by. -/
theorem windowsVerdict_evaluated (scan : Scan S L D) (threshold : D) (samples : List S) :
    (windowsVerdict scan threshold samples).evaluated =
      (List.range (samples.length ⌈/⌉ scan.geometry.hop)).map
        (windowRange scan samples.length) := by
  unfold windowsVerdict
  generalize samples.length ⌈/⌉ scan.geometry.hop = count
  induction count with
  | zero => rfl
  | succ count ih =>
      simp only [List.range_succ, List.foldl_append, List.foldl_cons, List.foldl_nil,
        List.map_append, List.map_cons, List.map_nil]
      rw [judgeWindow, Verdict.judge_evaluated, ih]

/-- A window held at the end is evaluated if it has a sample. -/
theorem evaluateWindow_last (hmemory : InMemory scan samples.length) {k : ℕ}
    (hopen : samples.length < k * scan.geometry.hop + scan.geometry.window) (verdict : Verdict) :
    evaluateWindow scan threshold (windowAt scan samples samples.length k) verdict =
      .ok (if k * scan.geometry.hop < samples.length then
        judgeWindow scan threshold samples verdict k else verdict) := by
  split
  · rename_i hstart
    have hstop : windowStop scan samples.length k = samples.length :=
      Nat.min_eq_right hopen.le
    rw [evaluateWindow_windowAt hmemory le_rfl hstart]
    simp only [judgeWindow, windowRange, hstop]
  · rename_i hstart
    rw [windowAt_empty scan samples (by omega), evaluateWindow]
    exact if_pos rfl

theorem Fed.sortedAccumulators (hgeometry : scan.geometry.Sound) {m done : ℕ}
    {state : DetectorState L} (h : Fed scan threshold samples m done state) :
    state.sortedAccumulators =
      [windowAt scan samples m done, windowAt scan samples m (done + 1)] := by
  have hhop := hgeometry.hop_pos
  have hsucc : (done + 1) * scan.geometry.hop =
      done * scan.geometry.hop + scan.geometry.hop := Nat.succ_mul done _
  have hne := heldWindow_ne done
  unfold DetectorState.sortedAccumulators
  rw [h.held 0, h.held 1]
  rcases heldWindow_cases done 0 with hzero | hzero <;>
    rcases heldWindow_cases done 1 with hone | hone <;> rw [hzero, hone] at hne ⊢
  · exact absurd rfl hne
  · rw [if_neg (by simp only [windowAt]; omega)]
  · rw [if_pos (by simp only [windowAt]; omega)]
  · exact absurd rfl hne

/-- The full windows and those still open are all windows of the channel. -/
theorem Fed.windows (hgeometry : scan.geometry.Sound) {done : ℕ} {state : DetectorState L}
    (h : Fed scan threshold samples samples.length done state) :
    windowsVerdict scan threshold samples =
      [done, done + 1].foldl (fun verdict k =>
        if k * scan.geometry.hop < samples.length then
          judgeWindow scan threshold samples verdict k else verdict) state.toVerdict := by
  have hhop := hgeometry.hop_pos
  have hwindow := hgeometry.window_pos
  have htwo := hgeometry.window_le
  have hopen := h.open
  have hone : (done + 1) * scan.geometry.hop =
      done * scan.geometry.hop + scan.geometry.hop := Nat.succ_mul done _
  have htwice : (done + 1 + 1) * scan.geometry.hop =
      done * scan.geometry.hop + 2 * scan.geometry.hop := by rw [Nat.succ_mul, hone]; omega
  simp only [List.foldl_cons, List.foldl_nil, h.verdict, windowsVerdict]
  by_cases hfirst : done * scan.geometry.hop < samples.length
  · rw [if_pos hfirst]
    by_cases hsecond : (done + 1) * scan.geometry.hop < samples.length
    · rw [if_pos hsecond, ceilDiv_eq_succ hhop hsecond (by omega)]
      simp only [List.range_succ, List.foldl_append, List.foldl_cons, List.foldl_nil]
    · rw [if_neg hsecond, ceilDiv_eq_succ hhop hfirst (by omega)]
      simp only [List.range_succ, List.foldl_append, List.foldl_cons, List.foldl_nil]
  · rw [if_neg hfirst, if_neg (by omega)]
    cases done with
    | zero =>
        rw [show samples.length = 0 by omega, zero_ceilDiv]
    | succ k =>
        have hfull := h.full k (Nat.lt_succ_self k)
        rw [ceilDiv_eq_succ hhop (show k * scan.geometry.hop < samples.length by omega) (by omega)]

theorem Fed.finishState (hgeometry : scan.geometry.Sound)
    (hdetector : scan.detector = .windowedRmsPeak) (hmemory : InMemory scan samples.length)
    {done : ℕ} {state : DetectorState L}
    (h : Fed scan threshold samples samples.length done state) :
    finishState scan (some threshold) state =
      .ok { state with
        toVerdict :=
          if samples.any fun sample => !scan.meter.isFinite sample then
            { windowsVerdict scan threshold samples with result := .ambiguous }
          else windowsVerdict scan threshold samples } := by
  have hopen := h.open
  have hhop := hgeometry.hop_pos
  have hsucc : (done + 1) * scan.geometry.hop =
      done * scan.geometry.hop + scan.geometry.hop := Nat.succ_mul done _
  have hnonFinite := h.nonFinite
  rw [List.take_length] at hnonFinite
  unfold Activity.finishState
  simp only [if_pos hdetector, h.sortedAccumulators hgeometry, List.foldlM_cons, List.foldlM_nil]
  rw [evaluateWindow_last hmemory hopen]
  simp only [bind, Except.bind]
  rw [evaluateWindow_last hmemory (by omega)]
  simp only [pure, Except.pure, hnonFinite, h.windows hgeometry, List.foldl_cons, List.foldl_nil]

end Feed

end Lamb.Activity
