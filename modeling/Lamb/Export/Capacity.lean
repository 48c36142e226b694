import Lamb.Export.Agree

/-!
The room that a pattern may need. The length of a rendered text is bounded
before anything is rendered, token by token; a policy that passes the bound
renders paths that fit every slot and every later check.
-/

namespace Lamb.Export

open Lamb.Lib Lamb.Lib.Path Lamb.Ring Lamb.Runtime

/-! ### Numbers -/

theorem utf8ByteSize_ofList_of_ascii {chars : List Char} (h : ∀ c ∈ chars, c.utf8Size = 1) :
    (String.ofList chars).utf8ByteSize = chars.length := by
  rw [← byteLength_toList, String.toList_ofList, byteLength_of_ascii h]

theorem utf8ByteSize_toString (n : ℕ) :
    (toString n).utf8ByteSize = (Nat.toDigits 10 n).length := by
  rw [toString_eq_toDigits]
  refine utf8ByteSize_ofList_of_ascii fun c hc => ?_
  exact utf8Size_of_isDigit (Nat.isDigit_of_mem_toDigits (by decide) (by decide) hc)

/-- A number below a power of ten has as many digits at most. -/
theorem utf8ByteSize_toString_le {n digits : ℕ} (hdigits : 0 < digits) (h : n < 10 ^ digits) :
    (toString n).utf8ByteSize ≤ digits := by
  rw [utf8ByteSize_toString]
  exact (Nat.length_toDigits_le_iff (by decide) hdigits).mpr h

theorem utf8ByteSize_zeroPadded (width n : ℕ) :
    (zeroPadded width n).utf8ByteSize = max (toString n).utf8ByteSize width := by
  have hzeros : (String.ofList (List.replicate (width - (toString n).length) '0')).utf8ByteSize =
      width - (toString n).length := by
    rw [utf8ByteSize_ofList_of_ascii, List.length_replicate]
    intro c hc
    rw [List.eq_of_mem_replicate hc]
    rfl
  have hlength : (toString n).length = (toString n).utf8ByteSize := by
    rw [utf8ByteSize_toString, toString_eq_toDigits, String.length_ofList]
  rw [zeroPadded, String.utf8ByteSize_append, hzeros, hlength]
  omega

/-! ### One pattern -/

/-- What the types of the source and the split of an export guarantee of the
values that a pattern is rendered with. -/
structure WithinLimits (context : RenderContext) (out : OutputPart) : Prop where
  sampleRate : context.sampleRate ≤ u32Max
  startFrame : out.startFrame ≤ u64Max
  endFrame : out.endFrame ≤ u64Max
  part : out.part ≤ u64Max
  partSuffix : ∃ partCount, out.partSuffix = partSuffixText partCount out.part

section Pattern

variable {context : RenderContext} {out : OutputPart} (hlimits : WithinLimits context out)
include hlimits

theorem WithinLimits.partSuffix_le : out.partSuffix.utf8ByteSize ≤ 25 := by
  obtain ⟨partCount, hsuffix⟩ := hlimits.partSuffix
  rw [hsuffix, partSuffixText]
  split
  · decide
  · have hdigits : (toString out.part).utf8ByteSize ≤ 20 :=
      utf8ByteSize_toString_le (by decide) (hlimits.part.trans_lt (by decide))
    have hinitial : "-part".utf8ByteSize = 5 := by decide
    rw [String.utf8ByteSize_append, utf8ByteSize_zeroPadded, hinitial]
    omega

/-- No token is longer than the bound counts for it. -/
theorem WithinLimits.segmentText_le {segment : PatternSegment} {text : String}
    (h : segmentText context out segment = some text) :
    text.utf8ByteSize ≤ segment.maximumBytes context out.channel := by
  have hframe {n : ℕ} (hn : n ≤ u64Max) : (toString n).utf8ByteSize ≤ 20 :=
    utf8ByteSize_toString_le (by decide) (hn.trans_lt (by decide))
  have hrate : (toString context.sampleRate).utf8ByteSize ≤ 10 :=
    utf8ByteSize_toString_le (by decide) (hlimits.sampleRate.trans_lt (by decide))
  have hpadded {n width : ℕ} (hn : n ≤ u64Max) :
      (zeroPadded width n).utf8ByteSize ≤ max 20 width := by
    rw [utf8ByteSize_zeroPadded]
    exact max_le_max_right _ (hframe hn)
  cases segment with
  | literal value =>
      obtain rfl := Option.some.inj h
      exact le_rfl
  | token token =>
      cases token with
      | timestamp =>
          obtain rfl := Option.some.inj h
          exact le_rfl
      | channel =>
          obtain rfl := Option.some.inj h
          exact le_rfl
      | sampleRate =>
          obtain rfl := Option.some.inj h
          exact hrate
      | startFrame =>
          obtain rfl := Option.some.inj h
          exact hframe hlimits.startFrame
      | endFrame =>
          obtain rfl := Option.some.inj h
          exact hframe hlimits.endFrame
      | part =>
          obtain rfl := Option.some.inj h
          exact hframe hlimits.part
      | partSuffix =>
          obtain rfl := Option.some.inj h
          exact hlimits.partSuffix_le
      | profile =>
          obtain rfl := Option.some.inj h
          exact le_rfl
  | zeroPaddedToken token width =>
      cases token with
      | startFrame =>
          obtain rfl := Option.some.inj h
          exact hpadded hlimits.startFrame
      | endFrame =>
          obtain rfl := Option.some.inj h
          exact hpadded hlimits.endFrame
      | part =>
          obtain rfl := Option.some.inj h
          exact hpadded hlimits.part
      | _ => cases h

/-- The two passes over a pattern keep step: the bound stays ahead of the
text. -/
theorem WithinLimits.renderSegments_le {segments : List PatternSegment} {text text' : String}
    {length length' : ℕ} (hle : text.utf8ByteSize ≤ length)
    (hrender : segments.foldlM (renderSegment pushStr context out) text = .ok text')
    (hlength : segments.foldlM (fun length segment =>
      match checkedAdd length (segment.maximumBytes context out.channel) with
      | some length => (.ok length : Result ℕ)
      | none => .error (.validation "export pattern capacity overflow")) length = .ok length') :
    text'.utf8ByteSize ≤ length' := by
  induction segments generalizing text length with
  | nil =>
      obtain rfl := Except.ok.inj hrender
      obtain rfl := Except.ok.inj hlength
      exact hle
  | cons segment segments ih =>
      rw [List.foldlM_cons, bind_eq_ok] at hrender hlength
      obtain ⟨middle, hsegment, hrender⟩ := hrender
      obtain ⟨sum, hsum, hlength⟩ := hlength
      obtain ⟨value, hvalue, hwrite⟩ := renderSegment_eq_ok.mp hsegment
      obtain rfl := Option.some.inj hwrite
      refine ih ?_ hrender hlength
      have hbound := hlimits.segmentText_le hvalue
      split at hsum
      · next total htotal =>
          obtain ⟨rfl, -⟩ := checkedAdd_eq_some.mp htotal
          obtain rfl := Except.ok.inj hsum
          rw [String.utf8ByteSize_append]
          omega
      · cases hsum

theorem WithinLimits.render_le {pattern : ValidatedPattern} {text : String} {bytes : ℕ}
    (hrender : renderOutputInto pattern context out = .ok text)
    (hbytes : pattern.maximumRenderedBytes context out.channel = .ok bytes) :
    text.utf8ByteSize ≤ bytes :=
  hlimits.renderSegments_le (Nat.zero_le 0) hrender hbytes

end Pattern

/-! ### Whole paths -/

theorem checkedSum_eq_ok {message : String} {lengths : List ℕ} {total : ℕ}
    (h : checkedSum message lengths = .ok total) : total = lengths.sum := by
  have hloop : ∀ {start : ℕ}, lengths.foldlM (fun total length =>
      match checkedAdd total length with
      | some total => (.ok total : Result ℕ)
      | none => .error (.validation message)) start = .ok total → total = start + lengths.sum := by
    clear h
    induction lengths with
    | nil =>
        intro start h
        obtain rfl := Except.ok.inj h
        rfl
    | cons length lengths ih =>
        intro start h
        rw [List.foldlM_cons, bind_eq_ok] at h
        obtain ⟨sum, hsum, h⟩ := h
        split at hsum
        · next htotal =>
            obtain ⟨rfl, -⟩ := checkedAdd_eq_some.mp htotal
            obtain rfl := Except.ok.inj hsum
            rw [ih h, List.sum_cons, Nat.add_assoc]
        · cases hsum
  rw [hloop h, Nat.zero_add]

/-- The separator behind the output directory is counted unless it is the
root. -/
theorem withSeparator_outputDir_le {outputDir : String}
    (h : validateOutputDir outputDir = .ok ()) :
    (withSeparator outputDir).utf8ByteSize ≤
      outputDir.utf8ByteSize + if ofText outputDir = ofText "/" then 0 else 1 := by
  split
  · next hroot =>
      obtain ⟨names, rfl, hnames, -⟩ := validateOutputDir_render h
      have hnil : names = [] := by
        rw [ofText_render hnames] at hroot
        exact absolute_injective (hroot.trans (by decide +kernel))
      rw [hnil]
      decide +kernel
  · unfold withSeparator
    split
    · rw [String.utf8ByteSize_append]
      exact le_rfl
    · exact Nat.le_add_right _ _

/-- The text that the planner pushes into the slot of a final path. -/
def plannedPath (outputDir directory filename : String) : String :=
  withSeparator (if directory = "" then outputDir else withSeparator outputDir ++ directory) ++
    filename

theorem planFinalPath_of_fits {capacity : ℕ} (hcapacity : capacity ≤ u64Max)
    {outputDir directory filename : String}
    (hfits : Fits capacity (plannedPath outputDir directory filename)) :
    planFinalPath capacity outputDir directory filename =
      .ok (plannedPath outputDir directory filename) := by
  unfold plannedPath at hfits ⊢
  unfold planFinalPath appendDirectory
  by_cases hempty : directory = ""
  · rw [if_pos hempty] at hfits ⊢
    obtain ⟨more, hmore⟩ := exists_withSeparator outputDir
    have hbase : Fits capacity outputDir := (hmore ▸ hfits.of_append).of_append
    rw [bind_eq_ok]
    refine ⟨outputDir, (setPath_eq_ok hcapacity).mpr ⟨rfl, hbase⟩, ?_⟩
    rw [if_pos hempty]
    exact (pushSeparator_bind_pushBytes hcapacity hbase).mpr ⟨rfl, hfits⟩
  · rw [if_neg hempty] at hfits ⊢
    obtain ⟨more, hmore⟩ := exists_withSeparator (withSeparator outputDir ++ directory)
    have hmiddle : Fits capacity (withSeparator outputDir ++ directory) :=
      (hmore ▸ hfits.of_append).of_append
    obtain ⟨sep, hsep⟩ := exists_withSeparator outputDir
    have hbase : Fits capacity outputDir := (hsep ▸ hmiddle.of_append).of_append
    rw [bind_eq_ok]
    refine ⟨outputDir, (setPath_eq_ok hcapacity).mpr ⟨rfl, hbase⟩, ?_⟩
    rw [if_neg hempty, bind_eq_ok]
    exact ⟨_, (pushSeparator_bind_pushBytes hcapacity hbase).mpr ⟨rfl, hmiddle⟩,
      (pushSeparator_bind_pushBytes hcapacity hmiddle).mpr ⟨rfl, hfits⟩⟩

theorem utf8ByteSize_withSeparator_le (text : String) :
    (withSeparator text).utf8ByteSize ≤ text.utf8ByteSize + 1 := by
  unfold withSeparator
  split
  · rw [String.utf8ByteSize_append]
    exact le_rfl
  · exact Nat.le_succ _

theorem utf8ByteSize_joinPath_le (base path : String) :
    (joinPath base path).utf8ByteSize ≤ (withSeparator base).utf8ByteSize + path.utf8ByteSize := by
  by_cases hhead : path.toList.head? = some '/'
  · rw [joinPath, if_pos hhead]
    exact Nat.le_add_left _ _
  · rw [joinPath_eq hhead, String.utf8ByteSize_append]

/-- A path below a directory has one more separator than the directory, unless
the directory adds no name. -/
theorem utf8ByteSize_finalPath_le {outputDir directory filename : String}
    (hdir : outputDir ≠ "") :
    (joinPath (joinPath outputDir directory) filename).utf8ByteSize ≤
      (withSeparator outputDir).utf8ByteSize + directory.utf8ByteSize +
        (if directory = "" then 0 else 1) + filename.utf8ByteSize := by
  have houter := utf8ByteSize_joinPath_le (joinPath outputDir directory) filename
  have hinner := utf8ByteSize_joinPath_le outputDir directory
  by_cases hempty : directory = ""
  · subst hempty
    have hjoin : joinPath outputDir "" = withSeparator outputDir := by
      rw [joinPath_eq (by simp), String.append_empty]
    have hstable : withSeparator (withSeparator outputDir) = withSeparator outputDir := by
      have hends : endsWithSeparator (withSeparator outputDir) := by
        unfold withSeparator
        by_cases hsep : endsWithSeparator outputDir
        · rw [if_neg fun h => h.2 hsep]
          exact hsep
        · rw [if_pos ⟨hdir, hsep⟩]
          simp [endsWithSeparator]
      rw [withSeparator.eq_def (withSeparator outputDir), if_neg fun h => h.2 hends]
    rw [hjoin, hstable] at houter
    rw [hjoin, if_pos rfl, String.utf8ByteSize_empty]
    omega
  · have hone := utf8ByteSize_withSeparator_le (joinPath outputDir directory)
    rw [if_neg hempty]
    omega

theorem utf8ByteSize_plannedPath_le (outputDir directory filename : String) :
    (plannedPath outputDir directory filename).utf8ByteSize ≤
      (withSeparator outputDir).utf8ByteSize + directory.utf8ByteSize +
        (if directory = "" then 0 else 1) + filename.utf8ByteSize := by
  rw [plannedPath, String.utf8ByteSize_append]
  split
  · omega
  · have hone := utf8ByteSize_withSeparator_le (withSeparator outputDir ++ directory)
    rw [String.utf8ByteSize_append] at hone
    omega

/-- The bound of a policy covers every path that is rendered for it. -/
theorem WithinLimits.path_le {context : RenderContext} {out : OutputPart}
    (hlimits : WithinLimits context out) {policy : ResolvedExportPolicy}
    {directory filename : String}
    (hcapacity : validatePatternCapacity (policy.patterns context.command).1
      (policy.patterns context.command).2 policy.outputDir context out.channel = .ok ())
    (hdirectory : renderOutputInto (policy.patterns context.command).1 context out =
      .ok directory)
    (hfilename : renderOutputInto (policy.patterns context.command).2 context out =
      .ok filename) :
    (withSeparator policy.outputDir).utf8ByteSize + directory.utf8ByteSize +
      (if directory = "" then 0 else 1) + filename.utf8ByteSize ≤ context.maximumPathBytes := by
  simp only [validatePatternCapacity, bind_eq_ok, ensure_eq_ok] at hcapacity
  obtain ⟨directoryBytes, hdirectoryBytes, filenameBytes, hfilenameBytes, total, htotal, hle⟩ :=
    hcapacity
  have hdirectoryLe := hlimits.render_le hdirectory hdirectoryBytes
  have hfilenameLe := hlimits.render_le hfilename hfilenameBytes
  have hroot := withSeparator_outputDir_le policy.outputDir_valid
  have hsum := checkedSum_eq_ok htotal
  simp only [List.sum_cons, List.sum_nil, Nat.add_zero] at hsum
  -- a directory that is not empty makes its bound positive
  have hseparator : (if directory = "" then 0 else 1) ≤ if directoryBytes = 0 then 0 else 1 := by
    by_cases hempty : directory = ""
    · rw [if_pos hempty]
      exact Nat.zero_le _
    · have hpos : directoryBytes ≠ 0 := by
        rintro rfl
        exact hempty (String.utf8ByteSize_eq_zero_iff.mp (Nat.le_zero.mp hdirectoryLe))
      rw [if_neg hempty, if_neg hpos]
  omega

theorem nul_not_mem_withSeparator {text : String} (h : nul ∉ text.toList) :
    nul ∉ (withSeparator text).toList := by
  unfold withSeparator
  split
  · rw [String.toList_append, List.mem_append, not_or]
    exact ⟨h, by decide⟩
  · exact h

theorem nul_not_mem_plannedPath {outputDir directory filename : String}
    (hdir : nul ∉ outputDir.toList) (hdirectory : nul ∉ directory.toList)
    (hfilename : nul ∉ filename.toList) :
    nul ∉ (plannedPath outputDir directory filename).toList := by
  rw [plannedPath, String.toList_append, List.mem_append, not_or]
  refine ⟨nul_not_mem_withSeparator ?_, hfilename⟩
  split
  · exact hdir
  · rw [String.toList_append, List.mem_append, not_or]
    exact ⟨nul_not_mem_withSeparator hdir, hdirectory⟩

/-- A rendered text is never longer than the bound of its pattern. Once the
bound of a policy is accepted, its paths pass every later check of their length
and a slot refuses a text only for a NUL character. -/
theorem rendering_within_capacity :
    (∀ (pattern : ValidatedPattern) (context : RenderContext) (out : OutputPart) (text : String)
      (bytes : ℕ), WithinLimits context out → renderOutputInto pattern context out = .ok text →
      pattern.maximumRenderedBytes context out.channel = .ok bytes → text.utf8ByteSize ≤ bytes) ∧
    ∀ (policy : ResolvedExportPolicy) (context : RenderContext) (out : OutputPart)
      (directory filename : String), WithinLimits context out →
      validatePatternCapacity (policy.patterns context.command).1
        (policy.patterns context.command).2 policy.outputDir context out.channel = .ok () →
      renderOutputInto (policy.patterns context.command).1 context out = .ok directory →
      renderOutputInto (policy.patterns context.command).2 context out = .ok filename →
      (joinPath (joinPath policy.outputDir directory) filename).utf8ByteSize ≤
          context.maximumPathBytes ∧
        (plannedPath policy.outputDir directory filename).utf8ByteSize ≤
          context.maximumPathBytes ∧
        (nul ∉ directory.toList → nul ∉ filename.toList → ∀ capacity,
          context.maximumPathBytes ≤ capacity → capacity ≤ u64Max →
          renderOutputTo (writeSlot capacity) (policy.patterns context.command).1 context out "" =
              .ok directory ∧
            renderOutputTo (writeSlot capacity) (policy.patterns context.command).2 context out "" =
              .ok filename ∧
            planFinalPath capacity policy.outputDir directory filename =
              .ok (plannedPath policy.outputDir directory filename)) := by
  refine ⟨fun pattern context out text bytes hlimits => hlimits.render_le, ?_⟩
  intro policy context out directory filename hlimits hcapacity hdirectory hfilename
  have hpath := hlimits.path_le hcapacity hdirectory hfilename
  have hplanned := (utf8ByteSize_plannedPath_le policy.outputDir directory filename).trans hpath
  refine ⟨(utf8ByteSize_finalPath_le policy.outputDir_ne_empty).trans hpath, hplanned, ?_⟩
  intro hdirectoryNul hfilenameNul capacity hroom hmax
  obtain ⟨_, _, _, hdirNul⟩ := validateOutputDir_render policy.outputDir_valid
  refine ⟨?_, ?_, ?_⟩
  · exact (renderOutputTo_writeSlot hmax).mpr ⟨hdirectory, hdirectoryNul, by omega⟩
  · exact (renderOutputTo_writeSlot hmax).mpr ⟨hfilename, hfilenameNul, by omega⟩
  · exact planFinalPath_of_fits hmax
      ⟨nul_not_mem_plannedPath hdirNul hdirectoryNul hfilenameNul, hplanned.trans hroom⟩

/-- A part of the mono policy is rendered within the bound. -/
theorem rendering_within_capacity_mono :
    planFinalPath 255 "/out" "20240101" "mic.wav" = .ok "/out/20240101/mic.wav" := by
  have hlimits : WithinLimits (policyContext monoSlots.config .dump "studio" "20240101" monoDecision)
      ⟨"mic", 1, "", 0, 4⟩ := ⟨by decide, by decide, by decide, by decide, ⟨1, rfl⟩⟩
  have h := (rendering_within_capacity.2 monoPolicy
    (policyContext monoSlots.config .dump "studio" "20240101" monoDecision) ⟨"mic", 1, "", 0, 4⟩
    "20240101" "mic.wav" hlimits (by decide +kernel) (by decide +kernel) (by decide +kernel)).2.2
    (by decide) (by decide) 255 (by decide) (by decide)
  have hpath : plannedPath "/out" "20240101" "mic.wav" = "/out/20240101/mic.wav" := by
    decide +kernel
  rw [← hpath]
  exact h.2.2

/-- A pattern whose literal is a NUL character passes the bound, and the slot
refuses it. -/
theorem rendering_push_fails :
    ¬∀ (pattern directoryPattern : ValidatedPattern) (outputDir : String) (context : RenderContext)
      (out : OutputPart) (text : String), WithinLimits context out →
      (∃ source, ValidatedPattern.parse source = .ok pattern) →
      validatePatternCapacity directoryPattern pattern outputDir context out.channel = .ok () →
      renderOutputInto pattern context out = .ok text →
      renderOutputTo (writeSlot context.maximumPathBytes) pattern context out "" = .ok text := by
  intro h
  have hlimits : WithinLimits (policyContext monoSlots.config .dump "studio" "20240101" monoDecision)
      ⟨"mic", 1, "", 0, 4⟩ := ⟨by decide, by decide, by decide, by decide, ⟨1, rfl⟩⟩
  have hpush := h ⟨[.literal (String.ofList [nul])]⟩ ⟨[]⟩ "/out"
    (policyContext monoSlots.config .dump "studio" "20240101" monoDecision) ⟨"mic", 1, "", 0, 4⟩
    (String.ofList [nul]) hlimits ⟨String.ofList [nul], by decide +kernel⟩ (by decide +kernel)
    (by decide +kernel)
  revert hpush
  decide +kernel

end Lamb.Export
