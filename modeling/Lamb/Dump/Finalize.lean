import Mathlib.Order.Bounds.Basic
import Lamb.Lib.Attempt
import Lamb.Dump.Decision

/-!
Finalizing in place. The decision object is preallocated and reused: the checks
come first, then the channels are written one after the other, then the range.
The export range is determined by the decision that is left: it starts two
seconds before the earliest evidence of a channel that is retained.
-/

namespace Lamb.Dump

open Lamb.Lib Lamb.Ring

/-! ### The steps -/

/-- The loop that copies the given decisions over those of the object. -/
def storeChannels (forcedOmit : Bool) :
    ℕ → List FrozenChannelDecision → Attempt FrozenExportDecision LambError Unit
  | _, [] => pure ()
  | index, source :: rest => do
      Attempt.modify fun decision =>
        { decision with channels := decision.channels.set index (source.forceOmit forcedOmit) }
      storeChannels forcedOmit (index + 1) rest

def finalizeInPlace (frozenRange : Range) (channels : List FrozenChannelDecision)
    (trimLeadingSilence wholeExportExactZeroGate : Bool) :
    Attempt FrozenExportDecision LambError Unit := do
  let decision ← Attempt.get
  Attempt.require (decision.valid = false)
    (.exportInvariant "frozen export decision is already final")
  Attempt.require (frozenRange.start ≤ frozenRange.stop ∧
      channels.length = decision.channels.length)
    (.exportInvariant "invalid frozen export decision geometry")
  Attempt.require (∀ channel ∈ channels,
      channel.disposition = canonicalDisposition channel.mode channel.result)
    (.exportInvariant "activity disposition contradicts mode and result")
  Attempt.require (∀ channel ∈ channels, ∀ frame ∈ channel.firstEvidenceFrame,
      frozenRange.start ≤ frame ∧ frame < frozenRange.stop)
    (.exportInvariant "activity evidence is outside the frozen range")
  let forcedOmit := allNever channels || wholeExportExactZeroGate
  let start := exportStart frozenRange decision.sampleRate trimLeadingSilence
    (firstRetainedEvidence channels forcedOmit)
  Attempt.require (start ≤ frozenRange.stop)
    (.exportInvariant "activity crop is outside the frozen range")
  storeChannels forcedOmit 0 channels
  Attempt.modify fun decision =>
    { decision with exportRange := ⟨start, frozenRange.stop⟩, valid := true }

/-! ### What they leave -/

section Law

variable {decision decision' : FrozenExportDecision} {frozenRange : Range}
  {channels : List FrozenChannelDecision} {trim gate forcedOmit : Bool}

/-- Every channel is written once, in its place. -/
theorem storeChannels_eq (decision : FrozenExportDecision) (stored : List FrozenChannelDecision)
    (hlength : stored.length + channels.length = decision.channels.length)
    (hstored : decision.channels.take stored.length = stored) :
    storeChannels forcedOmit stored.length channels decision =
      (.ok (), { decision with
        channels := stored ++ channels.map fun channel => channel.forceOmit forcedOmit }) := by
  induction channels generalizing decision stored with
  | nil =>
      rw [List.map_nil, List.append_nil, ← hstored, List.take_of_length_le]
      · rfl
      · rw [← hlength, List.length_nil, Nat.add_zero]
  | cons source rest ih =>
      have hlt : stored.length < decision.channels.length := by
        rw [List.length_cons] at hlength
        omega
      have hnext := ih
        { decision with
          channels := decision.channels.set stored.length (source.forceOmit forcedOmit) }
        (stored ++ [source.forceOmit forcedOmit]) ?_ ?_
      · rw [List.length_append, List.length_singleton] at hnext
        rw [storeChannels]
        refine hnext.trans ?_
        rw [List.append_assoc, List.singleton_append, List.map_cons]
      · rw [List.length_append, List.length_singleton, List.length_set, ← hlength,
          List.length_cons]
        omega
      · rw [List.length_append, List.length_singleton, List.take_add_one, List.take_set_of_le le_rfl,
          hstored, List.getElem?_set_self hlt]
        rfl

theorem evidence_outside_iff (channels : List FrozenChannelDecision) (frozenRange : Range) :
    (channels.any fun channel => channel.firstEvidenceFrame.any fun frame =>
        decide (frame < frozenRange.start ∨ frozenRange.stop ≤ frame)) = true ↔
      ¬∀ channel ∈ channels, ∀ frame ∈ channel.firstEvidenceFrame,
        frozenRange.start ≤ frame ∧ frame < frozenRange.stop := by
  simp only [List.any_eq_true, Option.any_eq_true, decide_eq_true_eq, not_forall, not_and_or,
    not_le, not_lt, exists_prop, Option.mem_def]

/-- The steps in place are those of the function of the whole object, and an
error leaves the object as it was. -/
theorem finalizeInPlace_ends (decision : FrozenExportDecision) (frozenRange : Range)
    (channels : List FrozenChannelDecision) (trim gate : Bool) :
    Attempt.Ends (finalizeInPlace frozenRange channels trim gate) decision
      (fun _ final => decision.finalize frozenRange channels trim gate = .ok final)
      (fun e final => decision.finalize frozenRange channels trim gate = .error e ∧
        final = decision) := by
  unfold finalizeInPlace
  refine .bindGet (.bindRequire (fun hvalid => ⟨?_, rfl⟩) fun hvalid => ?_)
  · simp [FrozenExportDecision.finalize, hvalid]
  refine .bindRequire (fun hgeometry => ⟨?_, rfl⟩) fun hgeometry => ?_
  · have hbad : frozenRange.start > frozenRange.stop ∨
        channels.length ≠ decision.channels.length := by
      rwa [not_and_or, not_le] at hgeometry
    simp [FrozenExportDecision.finalize, hvalid, hbad]
  have hgood : ¬(frozenRange.start > frozenRange.stop ∨
      channels.length ≠ decision.channels.length) := by
    rw [not_or, not_lt, not_ne_iff]
    exact hgeometry
  refine .bindRequire (fun hcanonical => ⟨?_, rfl⟩) fun hcanonical => ?_
  · have hbad : ∃ channel ∈ channels,
        channel.disposition ≠ canonicalDisposition channel.mode channel.result := by
      simpa using hcanonical
    simp only [FrozenExportDecision.finalize, hvalid, hgood, if_pos hbad]
    rfl
  have hdispositions : ¬∃ channel ∈ channels,
      channel.disposition ≠ canonicalDisposition channel.mode channel.result := by
    simpa using hcanonical
  refine .bindRequire (fun hevidence => ⟨?_, rfl⟩) fun hevidence => ?_
  · have hbad := (evidence_outside_iff channels frozenRange).2 hevidence
    simp only [FrozenExportDecision.finalize, hvalid, hgood, if_neg hdispositions, if_pos hbad]
    rfl
  have hinside := mt (evidence_outside_iff channels frozenRange).1 (not_not.2 hevidence)
  refine .bindRequire (fun hcrop => ⟨?_, rfl⟩) fun hcrop => ?_
  · simp only [FrozenExportDecision.finalize, hvalid, hgood, if_neg hdispositions,
      if_neg hinside, if_pos (not_le.1 hcrop)]
    rfl
  -- every check has passed, and only now the object is written
  refine .bindOk (storeChannels_eq decision [] ?_ rfl) ?_
  · rw [List.length_nil, Nat.zero_add]
    exact hgeometry.2
  · change decision.finalize frozenRange channels trim gate = .ok _
    simp only [FrozenExportDecision.finalize, hvalid, hgood, if_neg hdispositions,
      if_neg hinside, if_neg (not_lt.2 hcrop)]
    rfl

/-- The frames at which a channel that is retained shows activity first. -/
def FrozenExportDecision.retainedEvidence (decision : FrozenExportDecision) : Set ℕ :=
  {frame | ∃ channel ∈ decision.channels, channel.disposition = .retain ∧
    channel.firstEvidenceFrame = some frame}

/-- What a final decision is, in terms of itself and of what it was made from. -/
structure ExportLaw (decision : FrozenExportDecision) (frozenRange : Range)
    (channels : List FrozenChannelDecision) (trim gate : Bool) (final : FrozenExportDecision) :
    Prop where
  inside : frozenRange.start ≤ final.exportRange.start ∧
    final.exportRange.start ≤ final.exportRange.stop
  ends : final.exportRange.stop = frozenRange.stop
  trimmed : trim = true → ∀ first, IsLeast final.retainedEvidence first →
    final.exportRange.start = max (first - 2 * decision.sampleRate) frozenRange.start
  untrimmed : trim = false ∨ final.retainedEvidence = ∅ →
    final.exportRange.start = frozenRange.start
  contains : ∀ frame ∈ final.retainedEvidence,
    final.exportRange.start ≤ frame ∧ frame < final.exportRange.stop
  omitted : (∀ channel ∈ channels, channel.mode = .never) ∨ gate = true →
    final.channels = channels.map fun channel => { channel with disposition := .omit }
  kept : ¬((∀ channel ∈ channels, channel.mode = .never) ∨ gate = true) →
    final.channels = channels
  rest : final.valid = true ∧ final.sampleRate = decision.sampleRate ∧
    final.frozenEpoch = decision.frozenEpoch

theorem forcedOmit_iff (channels : List FrozenChannelDecision) (gate : Bool) :
    (allNever channels || gate) = true ↔
      (∀ channel ∈ channels, channel.mode = .never) ∨ gate = true := by
  simp [allNever]

/-- The first retained evidence is the least one of the channels as they are
stored. -/
theorem mem_stored_evidence (channels : List FrozenChannelDecision) (forcedOmit : Bool)
    (frame : ℕ) :
    (∃ channel ∈ channels.map (fun channel => channel.forceOmit forcedOmit),
        channel.disposition = .retain ∧ channel.firstEvidenceFrame = some frame) ↔
      frame ∈ (channels.filter fun channel =>
        !forcedOmit && channel.disposition == .retain).filterMap
          FrozenChannelDecision.firstEvidenceFrame := by
  cases forcedOmit with
  | true => simp [FrozenChannelDecision.forceOmit]
  | false =>
      simp only [FrozenChannelDecision.forceOmit, Bool.false_eq_true, if_false, List.map_id_fun',
        id_eq, Bool.not_false, Bool.true_and, List.mem_filterMap, List.mem_filter, beq_iff_eq,
        and_assoc]

theorem exportStart_of_isLeast {frames : List ℕ} {sampleRate first : ℕ}
    (h : IsLeast {frame | frame ∈ frames} first) :
    exportStart frozenRange sampleRate true frames.min? =
      max (first - 2 * sampleRate) frozenRange.start := by
  have hmin : frames.min? = some first := List.min?_eq_some_iff.2 ⟨h.1, fun frame hframe => h.2 hframe⟩
  rw [hmin]
  rfl

theorem exportStart_le {frames : List ℕ} {sampleRate frame : ℕ} (hframe : frame ∈ frames)
    (hinside : frozenRange.start ≤ frame) :
    exportStart frozenRange sampleRate trim frames.min? ≤ frame := by
  obtain ⟨first, hmin⟩ := Option.isSome_iff_exists.1 (List.isSome_min?_of_mem hframe)
  have hfirst : first ≤ frame := (List.min?_eq_some_iff.1 hmin).2 frame hframe
  rw [hmin]
  cases trim with
  | false => exact hinside
  | true =>
      refine max_le ?_ hinside
      exact (Nat.sub_le first _).trans hfirst

theorem finalize_law (h : decision.finalize frozenRange channels trim gate = .ok decision') :
    ExportLaw decision frozenRange channels trim gate decision' := by
  have hrange := FrozenExportDecision.finalize_ok h
  simp only [FrozenExportDecision.finalize] at h
  split_ifs at h with hvalid hgeometry hcanonical hevidence hcrop
  rw [evidence_outside_iff, not_not] at hevidence
  obtain rfl := Except.ok.inj h
  have hset : FrozenExportDecision.retainedEvidence
      { decision with
        channels := channels.map fun channel => channel.forceOmit (allNever channels || gate)
        exportRange := ⟨exportStart frozenRange decision.sampleRate trim
          (firstRetainedEvidence channels (allNever channels || gate)), frozenRange.stop⟩
        valid := true } =
      {frame | frame ∈ (channels.filter fun channel =>
        !(allNever channels || gate) && channel.disposition == .retain).filterMap
          FrozenChannelDecision.firstEvidenceFrame} := by
    ext frame
    exact mem_stored_evidence channels _ frame
  refine ⟨⟨hrange.1, hrange.2.1⟩, rfl, ?_, ?_, ?_, ?_, ?_, rfl, rfl, rfl⟩
  · intro htrim first hfirst
    rw [hset] at hfirst
    subst htrim
    exact exportStart_of_isLeast hfirst
  · rintro (htrim | hempty)
    · subst htrim
      rfl
    · have hnil : (channels.filter fun channel =>
          !(allNever channels || gate) && channel.disposition == .retain).filterMap
            FrozenChannelDecision.firstEvidenceFrame = [] := by
        refine List.eq_nil_iff_forall_not_mem.2 fun frame hframe => ?_
        rw [hset] at hempty
        exact Set.notMem_empty frame (hempty ▸ hframe)
      change exportStart frozenRange decision.sampleRate trim (List.min? _) = _
      rw [hnil]
      cases trim with
      | false => rfl
      | true => exact max_self _
  · intro frame hframe
    rw [hset] at hframe
    obtain ⟨channel, hchannel, hfound⟩ := List.mem_filterMap.1 hframe
    have hinside := hevidence channel (List.mem_filter.1 hchannel).1 frame hfound
    exact ⟨exportStart_le hframe hinside.1, hinside.2⟩
  · intro hforced
    rw [← forcedOmit_iff] at hforced
    simp only [hforced]
    rfl
  · intro hforced
    rw [← forcedOmit_iff, Bool.not_eq_true] at hforced
    simp only [hforced]
    exact List.map_id _

/-- Finalizing yields the export range of the law, or leaves the decision as it
was. -/
theorem finalize_exports_from_evidence (decision : FrozenExportDecision) (frozenRange : Range)
    (channels : List FrozenChannelDecision) (trim gate : Bool) :
    Attempt.Ends (finalizeInPlace frozenRange channels trim gate) decision
      (fun _ final => ExportLaw decision frozenRange channels trim gate final)
      (fun _ final => final = decision) :=
  (finalizeInPlace_ends decision frozenRange channels trim gate).mono
    (fun _ _ h => finalize_law h) fun _ _ h => h.2

end Law

end Lamb.Dump
