import Lamb.Export.Passes
import Lamb.Export.Streamed

/-!
The split of an export into parts. The parts of a channel are computed at
once, counted, and computed one by one with their absolute frames; the header
of a part is built from its length.
-/

namespace Lamb.Export

open Lamb.Lib Lamb.Ring Lamb.Runtime

/-- The check of `LambConfig::validate_static` on `splitWhenOverBytes`. -/
def validateSplitWhenOverBytes (split : ℕ) : Result Unit :=
  ensure (¬(split = 0 ∨ 4000000000 ≤ split))
    (.validation "export.splitWhenOverBytes must be between 1 and 3999999999")

/-- Parts that are not empty and follow each other from `start` to `stop`. -/
def Tiles : ℕ → ℕ → List WavPart → Prop
  | start, stop, [] => start = stop
  | start, stop, part :: parts =>
      part.startFrame = start ∧ 0 < part.frameCount ∧ Tiles (start + part.frameCount) stop parts

/-- A part as a range of the capture. -/
def WavPart.shifted (part : WavPart) (exportStart : ℕ) : Range :=
  ⟨exportStart + part.startFrame, exportStart + part.startFrame + part.frameCount⟩

section Split

variable {framesPerPart bytesPerFrame split : ℕ}

/-- The loop leaves no frame out from where it starts. -/
theorem tiles_wavPartsFrom (hpos : 0 < framesPerPart) {totalFrames start : ℕ}
    (hstart : start ≤ totalFrames) :
    Tiles start totalFrames (wavPartsFrom totalFrames framesPerPart start) := by
  induction hrest : totalFrames - start using Nat.strong_induction_on generalizing start with
  | _ rest ih =>
      rw [wavPartsFrom]
      by_cases hlt : start < totalFrames
      · rw [if_pos ⟨hlt, hpos⟩]
        have hcount : 0 < min (totalFrames - start) framesPerPart := by omega
        refine ⟨rfl, hcount, ih _ ?_ ?_ rfl⟩
        · dsimp only
          omega
        · dsimp only
          omega
      · rw [if_neg fun h => hlt h.1]
        exact Nat.le_antisymm hstart (Nat.le_of_not_lt hlt)

/-- No part is longer than the split allows. -/
theorem partAt_bytes_le (h : wavFramesPerPart bytesPerFrame split = .ok framesPerPart)
    (totalFrames zeroPart : ℕ) :
    (partAt totalFrames framesPerPart zeroPart).frameCount * bytesPerFrame + wavHeaderBytes ≤
      split := by
  obtain ⟨heq, hpos⟩ := wavFramesPerPart_eq h
  have hroom : 0 < split - wavHeaderBytes := by
    by_contra hzero
    rw [heq, Nat.eq_zero_of_not_pos hzero, Nat.zero_div] at hpos
    exact hpos.false
  have hcount : (partAt totalFrames framesPerPart zeroPart).frameCount ≤ framesPerPart :=
    Nat.min_le_right _ _
  have hbytes : framesPerPart * bytesPerFrame ≤ split - wavHeaderBytes := by
    rw [heq]
    exact Nat.div_mul_le_self _ _
  have := Nat.mul_le_mul_right bytesPerFrame hcount
  omega

/-- Without a size for the parts no part has a range. -/
theorem wavFramesPerPart_error {e : LambError}
    (h : wavFramesPerPart bytesPerFrame split = .error e) :
    (split - wavHeaderBytes) / bytesPerFrame = 0 := by
  simp only [wavFramesPerPart] at h
  split_ifs at h with hbytes hsplit hzero
  · rw [hbytes, Nat.div_zero]
  · rw [Nat.sub_eq_zero_of_le hsplit, Nat.zero_div]
  · exact hzero

theorem absoluteSplitRange_outside (exportRange : Range) (zeroPart : ℕ)
    (h : framesPerPart = 0 ∨ exportRange.stop - exportRange.start ≤ zeroPart * framesPerPart) :
    ∃ e, absoluteSplitRange exportRange zeroPart framesPerPart = .error e := by
  simp only [absoluteSplitRange]
  split_ifs
  · exact ⟨_, rfl⟩
  · exact ⟨_, rfl⟩
  · exact ⟨_, rfl⟩

/-- The range of a part is the part itself, and there is one for every part. -/
theorem absoluteSplitRange_eq_ok_iff {exportRange range : Range} {zeroPart : ℕ}
    (horder : exportRange.start ≤ exportRange.stop) (hstop : exportRange.stop ≤ u64Max)
    (hpos : 0 < framesPerPart) :
    absoluteSplitRange exportRange zeroPart framesPerPart = .ok range ↔
      zeroPart * framesPerPart < exportRange.stop - exportRange.start ∧
        range = (partAt (exportRange.stop - exportRange.start) framesPerPart zeroPart).shifted
          exportRange.start := by
  by_cases hpart : zeroPart * framesPerPart < exportRange.stop - exportRange.start
  · rw [absoluteSplitRange_eq_ok horder hpos hpart]
    obtain ⟨start, stop⟩ := range
    simp only [hpart, true_and, WavPart.shifted, partAt, Range.mk.injEq]
    constructor
    · rintro ⟨rfl, rfl, -⟩
      exact ⟨rfl, rfl⟩
    · rintro ⟨rfl, rfl⟩
      exact ⟨rfl, rfl, by omega⟩
  · obtain ⟨e, he⟩ := absoluteSplitRange_outside exportRange zeroPart
      (.inr (Nat.le_of_not_lt hpart))
    rw [he]
    refine ⟨fun h => ?_, fun h => absurd h.1 hpart⟩
    cases h

end Split

/-- The three ways to split an export agree, and a part of at least three bytes
a frame has a header exactly if the sample rate fits one. -/
theorem split_agreement (exportRange : Range) (bytesPerFrame split : ℕ)
    (horder : exportRange.start ≤ exportRange.stop) (hstop : exportRange.stop ≤ u64Max)
    (hsplit : validateSplitWhenOverBytes split = .ok ()) :
    match wavPartsForChannel (exportRange.stop - exportRange.start) bytesPerFrame split with
    | .error e =>
        wavPartCount (exportRange.stop - exportRange.start) bytesPerFrame split = .error e ∧
          ∀ zeroPart, ∃ e', absoluteSplitRange exportRange zeroPart
            ((split - wavHeaderBytes) / bytesPerFrame) = .error e'
    | .ok parts =>
        wavPartCount (exportRange.stop - exportRange.start) bytesPerFrame split =
            .ok parts.length ∧
          Tiles 0 (exportRange.stop - exportRange.start) parts ∧
          (∀ part ∈ parts, part.frameCount * bytesPerFrame + wavHeaderBytes ≤ split) ∧
          (∀ zeroPart range, absoluteSplitRange exportRange zeroPart
              ((split - wavHeaderBytes) / bytesPerFrame) = .ok range ↔
            ∃ part, parts[zeroPart]? = some part ∧ range = part.shifted exportRange.start) ∧
          (wavSampleBytes ≤ bytesPerFrame → ∀ part ∈ parts, ∀ sampleRate,
            (∃ header, wavHeader part.frameCount sampleRate = .ok header) ↔
              sampleRate * 3 ≤ u32Max) := by
  cases hframes : wavFramesPerPart bytesPerFrame split with
  | error e =>
      have hparts : wavPartsForChannel (exportRange.stop - exportRange.start) bytesPerFrame split =
          .error e := by
        rw [wavPartsForChannel, hframes]
        rfl
      rw [hparts]
      refine ⟨?_, fun zeroPart => ?_⟩
      · rw [wavPartCount, hframes]
        rfl
      · exact absoluteSplitRange_outside _ _ (.inl (wavFramesPerPart_error hframes))
  | ok framesPerPart =>
      obtain ⟨heq, hpos⟩ := wavFramesPerPart_eq hframes
      have hparts := wavPartsForChannel_eq_ok.mpr ⟨framesPerPart, hframes,
        Eq.refl ((List.range (divCeil (exportRange.stop - exportRange.start) framesPerPart)).map
          (partAt (exportRange.stop - exportRange.start) framesPerPart))⟩
      have hloop : wavPartsForChannel (exportRange.stop - exportRange.start) bytesPerFrame split =
          .ok (wavPartsFrom (exportRange.stop - exportRange.start) framesPerPart 0) := by
        rw [wavPartsForChannel, hframes]
        rfl
      have hlist := Except.ok.inj (hloop.symm.trans hparts)
      rw [hparts]
      refine ⟨?_, ?_, ?_, ?_, ?_⟩
      · rw [wavPartCount, hframes, List.length_map, List.length_range]
        rfl
      · rw [← hlist]
        exact tiles_wavPartsFrom hpos (Nat.zero_le _)
      · intro part hpart
        obtain ⟨zeroPart, -, rfl⟩ := List.mem_map.mp hpart
        exact partAt_bytes_le hframes _ zeroPart
      · intro zeroPart range
        rw [← heq, absoluteSplitRange_eq_ok_iff horder hstop hpos, ← lt_divCeil_iff hpos]
        constructor
        · rintro ⟨hlt, rfl⟩
          exact ⟨_, by simp [hlt], rfl⟩
        · rintro ⟨part, hpart, rfl⟩
          obtain ⟨hlt, rfl⟩ := List.getElem?_eq_some_iff.mp hpart
          simp only [List.length_map, List.length_range] at hlt
          refine ⟨hlt, ?_⟩
          simp only [List.getElem_map, List.getElem_range]
      · intro hbytes part hpart sampleRate
        obtain ⟨zeroPart, -, rfl⟩ := List.mem_map.mp hpart
        have hroom := partAt_bytes_le hframes (exportRange.stop - exportRange.start) zeroPart
        have hthree := Nat.mul_le_mul_left
          (partAt (exportRange.stop - exportRange.start) framesPerPart zeroPart).frameCount hbytes
        have hlimit := ensure_eq_ok.mp hsplit
        have hu32 : u32Max = 2 ^ 32 - 1 := rfl
        rw [wavHeader_ok_iff]
        simp only [wavSampleBytes, wavHeaderBytes] at hthree hroom
        omega

theorem split_agreement_two :
    wavPartsForChannel 3 3 50 = .ok [⟨0, 2⟩, ⟨2, 1⟩] ∧
      ∀ zeroPart range, absoluteSplitRange ⟨7, 10⟩ zeroPart 2 = .ok range ↔
        ∃ part, [(⟨0, 2⟩ : WavPart), ⟨2, 1⟩][zeroPart]? = some part ∧ range = part.shifted 7 := by
  have hparts : wavPartsForChannel 3 3 50 = .ok [⟨0, 2⟩, ⟨2, 1⟩] := by
    rw [wavPartsForChannel_eq_ok]
    exact ⟨2, rfl, rfl⟩
  have h := split_agreement ⟨7, 10⟩ 3 50 (by decide) (by decide) rfl
  dsimp only at h
  rw [hparts] at h
  exact ⟨hparts, h.2.2.2.1⟩

/-- A sample rate of two gigahertz is not refused before the header is built. -/
theorem split_header_fails :
    ¬∀ (totalFrames split sampleRate : ℕ) (parts : List WavPart),
      validateSplitWhenOverBytes split = .ok () → 0 < sampleRate → sampleRate ≤ u32Max →
      wavPartsForChannel totalFrames wavSampleBytes split = .ok parts →
      ∀ part ∈ parts, ∃ header, wavHeader part.frameCount sampleRate = .ok header := by
  intro h
  have hparts : wavPartsForChannel 1 wavSampleBytes 3900000000 = .ok [⟨0, 1⟩] := by
    rw [wavPartsForChannel_eq_ok]
    exact ⟨1299999985, rfl, rfl⟩
  have hheader := h 1 3900000000 2000000000 _ rfl (by decide) (by decide) hparts ⟨0, 1⟩ (by simp)
  rw [wavHeader_ok_iff] at hheader
  revert hheader
  decide

end Lamb.Export
