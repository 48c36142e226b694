import Lamb.Export.Canonical
import Lamb.Runtime.Retention

/-!
What the planner writes into its slots is what the preview renders, whenever it
fits: the part suffix, the two rendered texts and the final path.
-/

namespace Lamb.Export

open Lamb.Lib Lamb.Lib.Path Lamb.Ring Lamb.Runtime

/-! ### Part numbers -/

theorem toString_eq_toDigits (n : ℕ) : toString n = String.ofList (Nat.toDigits 10 n) :=
  rfl

theorem ofDigitChars_zeroPadded (width n : ℕ) :
    Nat.ofDigitChars 10 (zeroPadded width n).toList 0 = n := by
  rw [zeroPadded, toString_eq_toDigits, String.toList_append, String.toList_ofList,
    String.toList_ofList, Nat.ofDigitChars_append, Nat.ofDigitChars_replicate_zero,
    Nat.mul_zero, Nat.ofDigitChars_ten_toDigits]

theorem countDigits_eq (value : ℕ) : countDigits value = (Nat.toDigits 10 value).length := by
  induction value using Nat.strong_induction_on with
  | _ value ih =>
      rw [countDigits]
      split
      · next hsmall => rw [Nat.toDigits_of_lt_base hsmall]; rfl
      · next hlarge =>
          have hdigits := Nat.toDigits_of_base_le (b := 10) (n := value) (by decide) (by omega)
          rw [ih (value / 10) (by omega), hdigits, List.length_append, List.length_singleton]

/-- Filling a wide enough field from the right pads the number with zeros. -/
theorem fillDigits_eq (width value : ℕ) (h : (Nat.toDigits 10 value).length ≤ width) :
    fillDigits width value =
      List.replicate (width - (Nat.toDigits 10 value).length) '0' ++ Nat.toDigits 10 value := by
  induction width generalizing value with
  | zero =>
      have := Nat.length_toDigits_pos (b := 10) (n := value)
      omega
  | succ width ih =>
      rw [fillDigits]
      by_cases hsmall : value < 10
      · have hdigit : Nat.toDigits 10 value = [value.digitChar] := Nat.toDigits_of_lt_base hsmall
        rw [hdigit, Nat.div_eq_of_lt hsmall, Nat.mod_eq_of_lt hsmall]
        clear h hdigit
        congr 1
        clear hsmall ih
        induction width with
        | zero => rfl
        | succ width ih =>
            rw [fillDigits, ih, List.length_singleton]
            simp [List.replicate_succ']
      · have hdigits := Nat.toDigits_of_base_le (b := 10) (n := value) (by decide) (by omega)
        rw [hdigits, List.length_append, List.length_singleton] at h
        rw [ih (value / 10) (by omega), hdigits, List.length_append, List.length_singleton,
          List.append_assoc]
        congr 2
        omega

/-- The suffix buffer is long enough for every part number below ten to the
nineteenth. -/
theorem planPartSuffix_eq {partCount part : ℕ} (h : part < 10 ^ 19) :
    planPartSuffix partCount part = .ok (partSuffixText partCount part) := by
  unfold planPartSuffix partSuffixText
  split
  · rfl
  · have hdigits : (Nat.toDigits 10 part).length ≤ 19 :=
      (Nat.length_toDigits_le_iff (by decide) (by decide)).mpr h
    have hcount := countDigits_eq part
    rw [if_neg (by omega), fillDigits_eq _ _ (by omega)]
    congr 1
    rw [← String.toList_inj]
    simp only [String.toList_ofList, String.toList_append, zeroPadded, toString_eq_toDigits,
      String.length_ofList]
    congr 3
    omega

/-! ### Parts -/

/-- The part of a split that starts after `zeroPart` full ones. -/
def partAt (totalFrames framesPerPart zeroPart : ℕ) : WavPart :=
  ⟨zeroPart * framesPerPart, min (totalFrames - zeroPart * framesPerPart) framesPerPart⟩

theorem lt_divCeil_iff {n d i : ℕ} (hd : 0 < d) : i < divCeil n d ↔ i * d < n := by
  rw [divCeil_eq_ceilDiv hd, lt_ceilDiv_iff hd]

theorem wavPartsFrom_eq {totalFrames framesPerPart : ℕ} (hpos : 0 < framesPerPart) (i : ℕ)
    (hi : i ≤ divCeil totalFrames framesPerPart) :
    wavPartsFrom totalFrames framesPerPart (i * framesPerPart) =
      (List.range' i (divCeil totalFrames framesPerPart - i)).map
        (partAt totalFrames framesPerPart) := by
  induction hn : divCeil totalFrames framesPerPart - i generalizing i with
  | zero =>
      rw [wavPartsFrom, if_neg]
      · rfl
      · rintro ⟨hlt, -⟩
        have := (lt_divCeil_iff hpos).mpr hlt
        omega
  | succ n ih =>
      have hlt : i * framesPerPart < totalFrames := (lt_divCeil_iff hpos).mp (by omega)
      rw [wavPartsFrom, if_pos ⟨hlt, hpos⟩, List.range'_succ, List.map_cons]
      refine congrArg (partAt totalFrames framesPerPart i :: ·) ?_
      by_cases hlast : (i + 1) * framesPerPart ≤ totalFrames
      · have hcount : min (totalFrames - i * framesPerPart) framesPerPart = framesPerPart := by
          rw [Nat.succ_mul] at hlast
          omega
        rw [hcount, ← Nat.succ_mul]
        exact ih (i + 1) (by omega) (by omega)
      · have hcount : i * framesPerPart + min (totalFrames - i * framesPerPart) framesPerPart =
            totalFrames := by
          rw [Nat.succ_mul] at hlast
          omega
        have hnone : n = 0 := by
          have : ¬i + 1 < divCeil totalFrames framesPerPart := fun h =>
            hlast (Nat.le_of_lt ((lt_divCeil_iff hpos).mp h))
          omega
        rw [hcount, hnone, wavPartsFrom, if_neg (by simp)]
        rfl

theorem wavFramesPerPart_eq {bytesPerFrame split framesPerPart : ℕ}
    (h : wavFramesPerPart bytesPerFrame split = .ok framesPerPart) :
    framesPerPart = (split - wavHeaderBytes) / bytesPerFrame ∧ 0 < framesPerPart := by
  simp only [wavFramesPerPart] at h
  split_ifs at h with hbytes hsplit hzero
  obtain rfl := Except.ok.inj h
  exact ⟨rfl, Nat.pos_of_ne_zero hzero⟩

theorem wavPartsForChannel_eq_ok {totalFrames bytesPerFrame split : ℕ} {parts : List WavPart} :
    wavPartsForChannel totalFrames bytesPerFrame split = .ok parts ↔
      ∃ framesPerPart, wavFramesPerPart bytesPerFrame split = .ok framesPerPart ∧
        parts = (List.range (divCeil totalFrames framesPerPart)).map
          (partAt totalFrames framesPerPart) := by
  simp only [wavPartsForChannel, bind_eq_ok]
  refine exists_congr fun framesPerPart => and_congr_right fun hframes => ?_
  have hall := wavPartsFrom_eq (wavFramesPerPart_eq hframes).2 0
    (Nat.zero_le (divCeil totalFrames framesPerPart))
  rw [Nat.zero_mul, Nat.sub_zero, ← List.range_eq_range'] at hall
  rw [hall]
  exact ⟨fun h => (Except.ok.inj h).symm, fun h => h ▸ rfl⟩

/-! ### Slots -/

/-- A text that a slot of `capacity` bytes can hold. -/
def Fits (capacity : ℕ) (text : String) : Prop :=
  nul ∉ text.toList ∧ text.utf8ByteSize ≤ capacity

theorem Fits.empty (capacity : ℕ) : Fits capacity "" := by
  simp [Fits]

theorem Fits.of_append {capacity : ℕ} {text more : String} (h : Fits capacity (text ++ more)) :
    Fits capacity text := by
  obtain ⟨hnul, hsize⟩ := h
  rw [String.toList_append, List.mem_append, not_or] at hnul
  rw [String.utf8ByteSize_append] at hsize
  exact ⟨hnul.1, by omega⟩

/-- What `push_separator` makes of a text. -/
def withSeparator (text : String) : String :=
  if text ≠ "" ∧ ¬endsWithSeparator text then text ++ "/" else text

theorem exists_withSeparator (text : String) : ∃ more, withSeparator text = text ++ more := by
  unfold withSeparator
  split
  · exact ⟨"/", rfl⟩
  · exact ⟨"", by simp⟩

theorem joinPath_eq {base path : String} (hhead : path.toList.head? ≠ some '/') :
    joinPath base path = withSeparator base ++ path := by
  by_cases hbase : base = ""
  · simp [joinPath, withSeparator, hhead, hbase]
  · by_cases hsep : endsWithSeparator base
    · simp [joinPath, withSeparator, hhead, hbase, hsep]
    · simp [joinPath, withSeparator, hhead, hbase, hsep]

section Slots

variable {capacity : ℕ} (hcapacity : capacity ≤ u64Max)
include hcapacity

theorem pushBytes_eq_ok {slot value slot' : String} (hslot : Fits capacity slot) :
    pushBytes capacity slot value = .ok slot' ↔ slot' = slot ++ value ∧ Fits capacity slot' := by
  unfold pushBytes
  by_cases hnul : nul ∈ value.toList
  · rw [if_pos hnul]
    constructor
    · intro h
      cases h
    · rintro ⟨rfl, hfits⟩
      exact absurd (by simp [hnul]) hfits.1
  · rw [if_neg hnul]
    have hboth : nul ∉ (slot ++ value).toList := by simp [hnul, hslot.1]
    split
    · next hsum =>
        rw [checkedAdd_eq_none] at hsum
        constructor
        · intro h
          cases h
        · rintro ⟨rfl, hfits⟩
          have := hfits.2
          rw [String.utf8ByteSize_append] at this
          omega
    · next stop hsum =>
        obtain ⟨rfl, -⟩ := checkedAdd_eq_some.mp hsum
        split
        · next hlong =>
            constructor
            · intro h
              cases h
            · rintro ⟨rfl, hfits⟩
              have := hfits.2
              rw [String.utf8ByteSize_append] at this
              omega
        · next hshort =>
            constructor
            · intro h
              obtain rfl := Except.ok.inj h
              exact ⟨rfl, hboth, by rw [String.utf8ByteSize_append]; omega⟩
            · rintro ⟨rfl, -⟩
              rfl

theorem setPath_eq_ok {path slot : String} :
    setPath capacity path = .ok slot ↔ slot = path ∧ Fits capacity slot := by
  rw [setPath, pushBytes_eq_ok hcapacity (Fits.empty capacity), String.empty_append]

theorem writeSlot_eq_some {slot text slot' : String} (hslot : Fits capacity slot) :
    writeSlot capacity slot text = some slot' ↔ slot' = slot ++ text ∧ Fits capacity slot' := by
  rw [← pushBytes_eq_ok hcapacity hslot, writeSlot]
  cases pushBytes capacity slot text with
  | error e => simp [Except.toOption]
  | ok slot => simp [Except.toOption]

theorem pushSeparator_eq_ok {slot slot' : String} (hslot : Fits capacity slot) :
    pushSeparator capacity slot = .ok slot' ↔
      slot' = withSeparator slot ∧ Fits capacity slot' := by
  unfold pushSeparator withSeparator
  split
  · exact pushBytes_eq_ok hcapacity hslot
  · constructor
    · intro h
      obtain rfl := Except.ok.inj h
      exact ⟨rfl, hslot⟩
    · rintro ⟨rfl, -⟩
      rfl

/-- A separator and a text behind it fit when the result does. -/
theorem pushSeparator_bind_pushBytes {slot value slot' : String} (hslot : Fits capacity slot) :
    (do let slot ← pushSeparator capacity slot; pushBytes capacity slot value) = .ok slot' ↔
      slot' = withSeparator slot ++ value ∧ Fits capacity slot' := by
  rw [bind_eq_ok]
  constructor
  · rintro ⟨middle, hmiddle, hpush⟩
    obtain ⟨rfl, hfits⟩ := (pushSeparator_eq_ok hcapacity hslot).mp hmiddle
    exact (pushBytes_eq_ok hcapacity hfits).mp hpush
  · rintro ⟨rfl, hfits⟩
    have hmiddle := hfits.of_append
    exact ⟨_, (pushSeparator_eq_ok hcapacity hslot).mpr ⟨rfl, hmiddle⟩,
      (pushBytes_eq_ok hcapacity hmiddle).mpr ⟨rfl, hfits⟩⟩

/-- The final path of the planner is the joined path of the preview. -/
theorem planFinalPath_eq_ok {outputDir directory filename slot : String} (hdir : outputDir ≠ "")
    (hdirectory : directory.toList.head? ≠ some '/') (hfilename : filename.toList.head? ≠ some '/') :
    planFinalPath capacity outputDir directory filename = .ok slot ↔
      slot = joinPath (joinPath outputDir directory) filename ∧ Fits capacity slot := by
  simp only [planFinalPath]
  rw [bind_eq_ok]
  simp only [setPath_eq_ok hcapacity]
  by_cases hempty : directory = ""
  · subst hempty
    rw [joinPath_joinPath_empty hdir hfilename, joinPath_eq hfilename]
    constructor
    · rintro ⟨base, ⟨rfl, hbase⟩, hrest⟩
      exact (pushSeparator_bind_pushBytes hcapacity hbase).mp hrest
    · rintro ⟨rfl, hfits⟩
      obtain ⟨more, hmore⟩ := exists_withSeparator outputDir
      have hbase : Fits capacity outputDir := (hmore ▸ hfits.of_append).of_append
      exact ⟨outputDir, ⟨rfl, hbase⟩, (pushSeparator_bind_pushBytes hcapacity hbase).mpr
        ⟨rfl, hfits⟩⟩
  · simp only [appendDirectory, hempty, if_false]
    rw [joinPath_eq hfilename, joinPath_eq hdirectory]
    constructor
    · rintro ⟨base, ⟨rfl, hbase⟩, hrest⟩
      obtain ⟨middle, hmiddle, hrest⟩ := bind_eq_ok.mp hrest
      obtain ⟨rfl, hfits⟩ := (pushSeparator_bind_pushBytes hcapacity hbase).mp hmiddle
      exact (pushSeparator_bind_pushBytes hcapacity hfits).mp hrest
    · rintro ⟨rfl, hfits⟩
      obtain ⟨more, hmore⟩ := exists_withSeparator (withSeparator outputDir ++ directory)
      have hmiddle : Fits capacity (withSeparator outputDir ++ directory) :=
        (hmore ▸ hfits.of_append).of_append
      obtain ⟨sep, hsep⟩ := exists_withSeparator outputDir
      have hbase : Fits capacity outputDir := (hsep ▸ hmiddle.of_append).of_append
      exact ⟨outputDir, ⟨rfl, hbase⟩, bind_eq_ok.mpr
        ⟨_, (pushSeparator_bind_pushBytes hcapacity hbase).mpr ⟨rfl, hmiddle⟩,
          (pushSeparator_bind_pushBytes hcapacity hmiddle).mpr ⟨rfl, hfits⟩⟩⟩

/-! ### Rendered texts -/

omit hcapacity in
theorem exists_append_of_render {segments : List PatternSegment} {context : RenderContext}
    {out : OutputPart} {text text' : String}
    (h : segments.foldlM (renderSegment pushStr context out) text = .ok text') :
    ∃ more, text' = text ++ more := by
  induction segments generalizing text with
  | nil =>
      obtain rfl := Except.ok.inj h
      exact ⟨"", by simp⟩
  | cons segment segments ih =>
      rw [List.foldlM_cons, bind_eq_ok] at h
      obtain ⟨middle, hsegment, hrest⟩ := h
      obtain ⟨value, -, hwrite⟩ := renderSegment_eq_ok.mp hsegment
      obtain rfl := Option.some.inj hwrite
      obtain ⟨more, rfl⟩ := ih hrest
      exact ⟨value ++ more, by rw [String.append_assoc]⟩

theorem renderSegments_writeSlot {segments : List PatternSegment} {context : RenderContext}
    {out : OutputPart} {text text' : String} (htext : Fits capacity text) :
    segments.foldlM (renderSegment (writeSlot capacity) context out) text = .ok text' ↔
      segments.foldlM (renderSegment pushStr context out) text = .ok text' ∧
        Fits capacity text' := by
  induction segments generalizing text with
  | nil =>
      constructor
      · intro h
        obtain rfl := Except.ok.inj h
        exact ⟨rfl, htext⟩
      · exact And.left
  | cons segment segments ih =>
      simp only [List.foldlM_cons, bind_eq_ok, renderSegment_eq_ok,
        writeSlot_eq_some hcapacity htext]
      constructor
      · rintro ⟨middle, ⟨value, hvalue, rfl, hfits⟩, hrest⟩
        obtain ⟨hrest, hlast⟩ := (ih hfits).mp hrest
        exact ⟨⟨_, ⟨value, hvalue, rfl⟩, hrest⟩, hlast⟩
      · rintro ⟨⟨middle, ⟨value, hvalue, hwrite⟩, hrest⟩, hlast⟩
        obtain rfl := Option.some.inj hwrite
        obtain ⟨more, rfl⟩ := exists_append_of_render hrest
        have hfits := hlast.of_append
        exact ⟨_, ⟨value, hvalue, rfl, hfits⟩, (ih hfits).mpr ⟨hrest, hlast⟩⟩

/-- A slot receives what a `String` would, if it has room for it. -/
theorem renderOutputTo_writeSlot {pattern : ValidatedPattern} {context : RenderContext}
    {out : OutputPart} {text : String} :
    renderOutputTo (writeSlot capacity) pattern context out "" = .ok text ↔
      renderOutputInto pattern context out = .ok text ∧ Fits capacity text :=
  renderSegments_writeSlot hcapacity (Fits.empty capacity)

end Slots

end Lamb.Export
