import Mathlib.Algebra.Order.Ring.Int
import Mathlib.Data.List.Sort
import Lamb.Lib.Attempt
import Lamb.Error

/-!
A captured calibration on its way into the store: the threshold is derived from
the leased RMS values, and a generation is prepared under the first unused
identifier. Deriving sorts the leased values in place; the peaks keep the order
in which they were captured.

Levels are taken in any linear order. What follows the checks of a capture (the
directories and files of a generation) is a parameter.
-/

namespace Lamb.Preparation

open Lamb.Lib

/-- The floating-point functions of the source; `calibrated` is the threshold
ten decibels over an amplitude. -/
structure Scale (α θ : Type) where
  isFinite : α → Bool
  abs : α → α
  calibrated : α → θ
  inRange : θ → Bool

structure CalibrationCaptureMetadata where
  frames : ℕ
  sampleRate : ℕ
  completeWindows : ℕ
  partialFinalFrames : ℕ
  droppedFrames : ℕ
  usable : Bool
  deriving DecidableEq, Repr

/-- The buffers of a lease are as long as its metadata says. -/
structure CalibrationLease (α : Type) where
  metadata : CalibrationCaptureMetadata
  samples : List α
  rms : List α
  peak : List α
  samples_length : samples.length = metadata.frames
  rms_length : rms.length = metadata.completeWindows
  peak_length : peak.length = metadata.completeWindows

structure CalibrationMetadata (α θ : Type) where
  calibrationId : String
  thresholdDbfs : θ
  p95Rms : α
  observedPeak : α
  completeWindows : ℕ
  partialFinalFrames : ℕ
  droppedFrames : ℕ
  frames : ℕ
  sampleRate : ℕ
  createdAtUnixSeconds : ℕ
  deriving DecidableEq, Repr

structure CalibrationStore where
  rootIsAbsolute : Bool
  maximumFrames : ℕ

/-- The check that an RMS value exceeds its peak, and every other failure. -/
inductive PrepareError
  | rmsExceedsPeak
  | failed (error : LambError)
  deriving DecidableEq, Repr

def PrepareError.error : PrepareError → LambError
  | .rmsExceedsPeak => .validation "calibration RMS cannot exceed its corresponding peak"
  | .failed error => error

/-- The leased RMS values, the counter `NEXT_GENERATION` and the disk. -/
structure State (α σ : Type) where
  rms : List α
  nextGeneration : ℕ
  disk : σ
  deriving DecidableEq, Repr

/-- What a calibration cannot choose: `write` makes the directories and files of
a generation. -/
structure Host (α θ σ : Type) where
  processId : ℕ
  /-- The checks of the configured and of the live input, with the text of a
  failure. -/
  validateCanonical : Except String Unit
  write : CalibrationMetadata α θ → List α → Attempt σ LambError Unit

variable {α θ σ : Type}

/-! ### The threshold -/

/-- The rank of the 95th percentile among `windows` values. -/
def percentileRank (windows : ℕ) : ℕ :=
  (95 * windows + 99) / 100 - 1

def derivedThresholdFromAmplitude (scale : Scale α θ) (amplitude : α) : Result θ :=
  if scale.inRange (scale.calibrated amplitude) then .ok (scale.calibrated amplitude)
  else .error (.validation "derived calibration threshold is outside [-120, 0] dBFS")

/-- The threshold over the 95th percentile of values in ascending order. -/
def rankedThreshold (scale : Scale α θ) (stats : List α) : Result θ :=
  match stats[percentileRank stats.length]? with
  | none => .error .panicked
  | some amplitude => derivedThresholdFromAmplitude scale amplitude

theorem inRange_of_ranked {scale : Scale α θ} {stats : List α} {threshold : θ}
    (h : rankedThreshold scale stats = .ok threshold) :
    scale.inRange threshold = true := by
  unfold rankedThreshold derivedThresholdFromAmplitude at h
  split at h
  · cases h
  · split at h
    · next hrange =>
        cases h
        exact hrange
    · cases h

variable [LinearOrder α]

def sorted (stats : List α) : List α :=
  stats.insertionSort (· ≤ ·)

theorem sorted_idem (stats : List α) : sorted (sorted stats) = sorted stats :=
  (List.pairwise_insertionSort (· ≤ ·) stats).insertionSort_eq

theorem sorted_length (stats : List α) : (sorted stats).length = stats.length :=
  List.length_insertionSort _ _

theorem mem_sorted {stats : List α} {value : α} : value ∈ sorted stats ↔ value ∈ stats :=
  List.mem_insertionSort _

theorem sorted_eq_nil {stats : List α} : sorted stats = [] ↔ stats = [] := by
  rw [← List.length_eq_zero_iff, sorted_length, List.length_eq_zero_iff]

variable [Zero α]

def Statistics (scale : Scale α θ) (stats : List α) : Prop :=
  ∀ value ∈ stats, scale.isFinite value ∧ 0 ≤ value

instance (scale : Scale α θ) (stats : List α) : Decidable (Statistics scale stats) :=
  inferInstanceAs (Decidable (∀ value ∈ stats, _))

theorem statistics_sorted {scale : Scale α θ} {stats : List α} :
    Statistics scale (sorted stats) ↔ Statistics scale stats := by
  simp only [Statistics, mem_sorted]

/-- The values are left in ascending order. -/
def deriveCalibratedThreshold (scale : Scale α θ) : Attempt (List α) LambError θ := do
  let stats ← Attempt.get
  Attempt.require (stats ≠ []) (.validation "calibration requires complete RMS windows")
  Attempt.require (Statistics scale stats)
    (.validation "calibration RMS values must be finite and non-negative")
  Attempt.modify sorted
  let stats ← Attempt.get
  Attempt.ofExcept (rankedThreshold scale stats)

section Derive

variable {scale : Scale α θ} {stats : List α} {threshold : θ}

theorem derive_eq (hnil : stats ≠ []) (hfinite : Statistics scale stats) :
    deriveCalibratedThreshold scale stats = (rankedThreshold scale (sorted stats), sorted stats) := by
  simp [deriveCalibratedThreshold, Attempt.get, Attempt.modify, Attempt.require,
    Attempt.ofExcept, bind, pure, hfinite, hnil]

theorem derive_checks (h : (deriveCalibratedThreshold scale stats).1 = .ok threshold) :
    stats ≠ [] ∧ Statistics scale stats := by
  by_cases hnil : stats ≠ []
  · by_cases hfinite : Statistics scale stats
    · exact ⟨hnil, hfinite⟩
    · simp [deriveCalibratedThreshold, Attempt.get, Attempt.require, Attempt.fail, bind, pure,
        hnil, hfinite] at h
  · simp [deriveCalibratedThreshold, Attempt.get, Attempt.require, Attempt.fail, bind,
      hnil] at h

/-- A threshold that is derived is in range, and deriving it again from the values
it has sorted changes nothing. -/
theorem derive_ok (h : (deriveCalibratedThreshold scale stats).1 = .ok threshold) :
    scale.inRange threshold = true ∧
      deriveCalibratedThreshold scale stats = (.ok threshold, sorted stats) ∧
      deriveCalibratedThreshold scale (sorted stats) = (.ok threshold, sorted stats) := by
  obtain ⟨hnil, hfinite⟩ := derive_checks h
  rw [derive_eq hnil hfinite] at h ⊢
  rw [derive_eq (mt sorted_eq_nil.mp hnil) (statistics_sorted.mpr hfinite), sorted_idem]
  have h : rankedThreshold scale (sorted stats) = .ok threshold := h
  rw [h]
  exact ⟨inRange_of_ranked h, rfl, rfl⟩

end Derive

variable [DecidableEq θ]

/-! ### Preparing a generation -/

def failing {τ β : Type} (f : Attempt τ LambError β) : Attempt τ PrepareError β := fun s =>
  match f s with
  | (.ok b, s) => (.ok b, s)
  | (.error e, s) => (.error (.failed e), s)

def onRms {β : Type} (f : Attempt (List α) LambError β) :
    Attempt (State α σ) PrepareError β :=
  failing (Attempt.zoom State.rms (fun rms s => { s with rms }) f)

def onDisk {β : Type} (f : Attempt σ LambError β) : Attempt (State α σ) PrepareError β :=
  failing (Attempt.zoom State.disk (fun disk s => { s with disk }) f)

/-- Fails with a validation error unless `p` holds. -/
def check {τ : Type} (p : Prop) [Decidable p] (message : String) : Attempt τ PrepareError Unit :=
  Attempt.require p (.failed (.validation message))

def safeId (id : String) : Bool :=
  id ≠ "" ∧ id.utf8ByteSize ≤ 128 ∧ id.toList.all fun c => c.isAlphanum || c == '-' || c == '_'

def generationId (host : Host α θ σ) (createdAtUnixSeconds sequence : ℕ) : String :=
  s!"cal-{createdAtUnixSeconds}-{host.processId}-{sequence}"

def nextGenerationId (host : Host α θ σ) (createdAtUnixSeconds : ℕ) :
    Attempt (State α σ) PrepareError String := do
  let state ← Attempt.get
  match checkedAdd state.nextGeneration 1 with
  | none => Attempt.fail (.failed (.config "calibration generation counter exhausted"))
  | some next => do
      Attempt.modify fun state => { state with nextGeneration := next }
      pure (generationId host createdAtUnixSeconds state.nextGeneration)

def maximum (values : List α) : α :=
  values.foldl max 0

/-- `prepare_captured_with_hook` on the parts of a lease. -/
def prepareCaptured (scale : Scale α θ) (host : Host α θ σ) (store : CalibrationStore)
    (calibrationId : String) (lease : CalibrationLease α) (thresholdDbfs : θ)
    (createdAtUnixSeconds : ℕ) : Attempt (State α σ) PrepareError (CalibrationMetadata α θ) := do
  failing (Attempt.ofExcept (host.validateCanonical.mapError .validation))
  check (lease.samples.length ≤ store.maximumFrames)
    "calibration sample count exceeds store maximum"
  let rms := (← Attempt.get).rms
  check (safeId calibrationId ∧ lease.metadata.sampleRate ≠ 0 ∧ lease.samples ≠ [] ∧ rms ≠ [] ∧
    rms.length = lease.peak.length ∧ scale.inRange thresholdDbfs)
    "invalid calibration generation metadata"
  check ((∀ sample ∈ lease.samples, scale.isFinite sample) ∧ Statistics scale rms ∧
    Statistics scale lease.peak) "calibration sample/statistics must be finite"
  Attempt.require (∀ pair ∈ rms.zip lease.peak, pair.1 ≤ pair.2) .rmsExceedsPeak
  check (maximum lease.peak ≤ maximum (lease.samples.map scale.abs))
    "calibration complete-window peak exceeds retained samples"
  let derivedThreshold ← onRms (deriveCalibratedThreshold scale)
  check (thresholdDbfs = derivedThreshold) "calibration threshold does not match p95 RMS +10 dB"
  let rms := (← Attempt.get).rms
  match rms[percentileRank rms.length]? with
  | none => Attempt.fail (.failed .panicked)
  | some p95 => do
      let metadata :=
        { calibrationId, thresholdDbfs, p95Rms := p95, observedPeak := maximum lease.peak,
          completeWindows := rms.length, partialFinalFrames := lease.metadata.partialFinalFrames,
          droppedFrames := lease.metadata.droppedFrames, frames := lease.samples.length,
          sampleRate := lease.metadata.sampleRate, createdAtUnixSeconds }
      onDisk (host.write metadata lease.samples)
      pure metadata

/-- A complete usable capture that fits the store. -/
def CalibrationLease.complete (lease : CalibrationLease α) (store : CalibrationStore) : Bool :=
  lease.metadata.usable ∧ lease.metadata.droppedFrames = 0 ∧ lease.metadata.frames ≠ 0 ∧
    lease.metadata.frames ≤ store.maximumFrames ∧ lease.metadata.completeWindows ≠ 0 ∧
    lease.metadata.completeWindows ≤ lease.metadata.frames ∧ lease.metadata.sampleRate ≠ 0

def prepareLease (scale : Scale α θ) (host : Host α θ σ) (store : CalibrationStore)
    (calibrationId : String) (lease : CalibrationLease α) (thresholdDbfs : θ)
    (createdAtUnixSeconds : ℕ) : Attempt (State α σ) PrepareError (CalibrationMetadata α θ) := do
  check (lease.complete store) "calibration lease is not a complete usable capture"
  prepareCaptured scale host store calibrationId lease thresholdDbfs createdAtUnixSeconds

/-- The attempts of `prepare_generated_lease_with_hook`: an identifier whose
directory exists is skipped. -/
def prepareGeneratedLease (scale : Scale α θ) (host : Host α θ σ) (store : CalibrationStore)
    (lease : CalibrationLease α) (thresholdDbfs : θ) (createdAtUnixSeconds : ℕ) :
    ℕ → Attempt (State α σ) PrepareError (CalibrationMetadata α θ)
  | 0 => Attempt.fail
      (.failed (.config "could not allocate a unique calibration generation id"))
  | attempts + 1 => do
      let id ← nextGenerationId host createdAtUnixSeconds
      match ← (prepareLease scale host store id lease thresholdDbfs createdAtUnixSeconds).capture with
      | .error (.failed (.io .alreadyExists)) =>
          prepareGeneratedLease scale host store lease thresholdDbfs createdAtUnixSeconds attempts
      | .error error => Attempt.fail error
      | .ok metadata => pure metadata

/-- `CalibrationStore::new`. -/
def CalibrationStore.validate (store : CalibrationStore) : Result Unit := do
  ensure store.rootIsAbsolute (.validation "calibration store root must be absolute")
  ensure (store.maximumFrames ≠ 0)
    (.validation "calibration store maximum frames must be nonzero")
  ensure (store.maximumFrames * 4 < 2 ^ 32) (.validation "WAV data too large")
  ensure (36 + store.maximumFrames * 4 < 2 ^ 32) (.validation "WAV size overflow")

/-- `calibrate_threshold_with` from the captured lease to the prepared
generation. -/
def calibrateCaptured (scale : Scale α θ) (host : Host α θ σ) (store : CalibrationStore)
    (targetIsCurrent : Bool) (lease : CalibrationLease α) (createdAtUnixSeconds : ℕ) :
    Attempt (State α σ) PrepareError (CalibrationMetadata α θ) := do
  Attempt.require (targetIsCurrent ∧ lease.metadata.usable)
    (.failed (.captureInvariant "calibration observation was invalidated"))
  let thresholdDbfs ← onRms (deriveCalibratedThreshold scale)
  failing (Attempt.ofExcept store.validate)
  prepareGeneratedLease scale host store lease thresholdDbfs createdAtUnixSeconds 1024

/-! ### The order of the windows -/

section Order

variable {scale : Scale α θ} {host : Host α θ σ} {store : CalibrationStore}
  {lease : CalibrationLease α} {threshold : θ} {createdAt : ℕ} {s : State α σ}

/-- In ascending order, the RMS values stay below the peaks in the order of the
capture. -/
def SortedBelow (lease : CalibrationLease α) : Prop :=
  List.Forall₂ (· ≤ ·) (sorted lease.rms) lease.peak

/-- The checks before that of the peaks, for the identifier `id`. -/
def Admits (scale : Scale α θ) (host : Host α θ σ) (store : CalibrationStore)
    (lease : CalibrationLease α) (id : String) : Prop :=
  lease.complete store ∧ host.validateCanonical = .ok () ∧ safeId id ∧
    (∀ sample ∈ lease.samples, scale.isFinite sample) ∧ Statistics scale lease.peak

omit [Zero α] in
theorem sortedBelow_iff :
    SortedBelow lease ↔ ∀ pair ∈ (sorted lease.rms).zip lease.peak, pair.1 ≤ pair.2 := by
  have hlength : (sorted lease.rms).length = lease.peak.length := by
    rw [sorted_length, lease.rms_length, lease.peak_length]
  rw [SortedBelow, List.forall₂_iff_zip]
  exact ⟨fun h pair hpair => h.2 hpair, fun h => ⟨hlength, fun hpair => h _ hpair⟩⟩

theorem Ends.bindCheck {τ γ : Type} {p : Prop} [Decidable p] {message : String} {t : τ}
    {g : Unit → Attempt τ PrepareError γ} {R : γ → τ → Prop} {E : PrepareError → τ → Prop}
    (hno : ¬p → E (.failed (.validation message)) t) (hyes : p → Attempt.Ends (g ()) t R E) :
    Attempt.Ends (check p message >>= g) t R E :=
  .bindRequire hno hyes

theorem Ends.failing {τ β : Type} {f : Attempt τ LambError β} {t : τ} {Q : β → τ → Prop}
    {E : PrepareError → τ → Prop} (h : Attempt.Ends f t Q fun e => E (.failed e)) :
    Attempt.Ends (failing f) t Q E := by
  unfold Attempt.Ends at h ⊢
  unfold Preparation.failing
  generalize f t = result at h
  obtain ⟨_ | b, t'⟩ := result
  · exact h
  · exact h

omit [DecidableEq θ] in
/-- What deriving the threshold from the values in ascending order does. -/
theorem onRms_sorted (hderive : (deriveCalibratedThreshold scale lease.rms).1 = .ok threshold)
    (hs : s.rms = sorted lease.rms) :
    onRms (deriveCalibratedThreshold scale) s = (.ok threshold, s) := by
  obtain ⟨_, _, hagain⟩ := derive_ok hderive
  simp only [onRms, failing, Attempt.zoom, hs, hagain]
  rw [← hs]

/-- An attempt on values in ascending order that stay below the peaks. -/
theorem prepareLease_below (hderive : (deriveCalibratedThreshold scale lease.rms).1 = .ok threshold)
    (hbelow : SortedBelow lease) (hs : s.rms = sorted lease.rms) (id : String) :
    Attempt.Ends (prepareLease scale host store id lease threshold createdAt) s
      (fun _ s' => s'.rms = sorted lease.rms)
      (fun e s' => e ≠ .rmsExceedsPeak ∧ s'.rms = sorted lease.rms) := by
  have hfailed : ∀ e : LambError, PrepareError.failed e ≠ .rmsExceedsPeak := by
    intro e h
    cases h
  refine Ends.bindCheck (fun _ => ⟨hfailed _, hs⟩) fun _ => ?_
  refine .bind (Q := fun _ t => t = s)
    (Ends.failing (.ofExcept (fun _ _ => rfl) fun e _ => ⟨hfailed e, hs⟩)) ?_
  rintro ⟨⟩ _ rfl
  refine Ends.bindCheck (fun _ => ⟨hfailed _, hs⟩) fun _ => ?_
  refine .bindGet ?_
  refine Ends.bindCheck (fun _ => ⟨hfailed _, hs⟩) fun _ => ?_
  refine Ends.bindCheck (fun _ => ⟨hfailed _, hs⟩) fun _ => ?_
  refine .bindRequire (fun habove => ?_) fun _ => ?_
  · rw [hs] at habove
    exact absurd (sortedBelow_iff.mp hbelow) habove
  refine Ends.bindCheck (fun _ => ⟨hfailed _, hs⟩) fun _ => ?_
  refine .bindOk (onRms_sorted hderive hs) ?_
  refine Ends.bindCheck (fun _ => ⟨hfailed _, hs⟩) fun _ => ?_
  refine .bindGet ?_
  dsimp only
  split
  · exact .fail ⟨hfailed _, hs⟩
  · refine .bind (Q := fun _ s' => s'.rms = sorted lease.rms) (Ends.failing (.zoom ?_))
      fun _ s' hs' => .pure hs'
    have hwrite : ∀ (f : Attempt σ LambError Unit) (disk : σ),
        Attempt.Ends f disk (fun _ _ => True) fun _ _ => True :=
      fun f disk => .of_reached (P := fun _ => True) trivial
    refine (hwrite _ _).mono (fun _ _ _ => hs) ?_
    intro e disk _
    exact ⟨hfailed e, hs⟩

/-- An attempt on values in ascending order, one of which is over its peak: it
fails at the check, or before it by another validation. -/
theorem prepareLease_above (hderive : (deriveCalibratedThreshold scale lease.rms).1 = .ok threshold)
    (hbelow : ¬SortedBelow lease) (hs : s.rms = sorted lease.rms) (id : String) :
    Attempt.Ends (prepareLease scale host store id lease threshold createdAt) s
      (fun _ _ => False)
      (fun e _ => e = .rmsExceedsPeak ∧ Admits scale host store lease id ∨
        (∃ message, e = .failed (.validation message)) ∧ ¬Admits scale host store lease id) := by
  obtain ⟨hnil, hfinite⟩ := derive_checks hderive
  refine Ends.bindCheck (fun hno => .inr ⟨⟨_, rfl⟩, fun h => hno h.1⟩) fun hcomplete => ?_
  have hlease := hcomplete
  simp only [CalibrationLease.complete, decide_eq_true_eq] at hlease
  obtain ⟨_, _, hframes, hmaximum, _, _, hrate⟩ := hlease
  refine .bind (Q := fun _ t => t = s ∧ host.validateCanonical = .ok ()) (Ends.failing ?_) ?_
  · cases hcanonical : host.validateCanonical with
    | error message =>
        refine .inr ⟨⟨message, rfl⟩, fun h => ?_⟩
        cases h.2.1.symm.trans hcanonical
    | ok _ => exact ⟨rfl, rfl⟩
  rintro ⟨⟩ _ ⟨rfl, hcanonical⟩
  refine Ends.bindCheck (fun hno => ?_) fun _ => ?_
  · exact absurd (lease.samples_length.trans_le hmaximum) hno
  refine .bindGet ?_
  refine Ends.bindCheck (fun hno => .inr ⟨⟨_, rfl⟩, fun h => hno ?_⟩) fun hid => ?_
  · refine ⟨h.2.2.1, hrate, ?_, ?_, ?_, (derive_ok hderive).1⟩
    · rw [← List.length_pos_iff_ne_nil, lease.samples_length]
      exact Nat.pos_of_ne_zero hframes
    · rw [hs]
      exact mt sorted_eq_nil.mp hnil
    · rw [hs, sorted_length, lease.rms_length, lease.peak_length]
  refine Ends.bindCheck (fun hno => .inr ⟨⟨_, rfl⟩, fun h => hno ?_⟩) fun hlevels => ?_
  · refine ⟨h.2.2.2.1, ?_, h.2.2.2.2⟩
    rw [hs]
    exact statistics_sorted.mpr hfinite
  refine .bindRequire (fun _ => .inl ⟨rfl, hcomplete, hcanonical, hid.1, hlevels.1, hlevels.2.2⟩) ?_
  intro hall
  rw [hs] at hall
  exact absurd (sortedBelow_iff.mpr hall) hbelow

theorem prepareGeneratedLease_below
    (hderive : (deriveCalibratedThreshold scale lease.rms).1 = .ok threshold)
    (hbelow : SortedBelow lease) (attempts : ℕ) (s : State α σ) (hs : s.rms = sorted lease.rms) :
    Attempt.Ends (prepareGeneratedLease scale host store lease threshold createdAt attempts) s
      (fun _ _ => True) (fun e _ => e ≠ .rmsExceedsPeak) := by
  induction attempts generalizing s with
  | zero => exact .fail (by decide)
  | succ attempts ih =>
      refine .bind (Q := fun _ s' => s'.rms = sorted lease.rms) ?_ ?_
      · refine .bindGet ?_
        split
        · exact .fail (by decide)
        · exact .bindModify (.pure hs)
      intro id s' hs'
      have hattempt : Attempt.Ends (prepareLease scale host store id lease threshold createdAt) s'
          _ _ := prepareLease_below hderive hbelow hs' id
      refine .bind (Q := fun r t => t.rms = sorted lease.rms ∧ r ≠ .error .rmsExceedsPeak)
        (.capture ?_) ?_
      · refine hattempt.mono (fun _ _ h => ⟨h, nofun⟩) ?_
        rintro e t ⟨he, ht⟩
        refine ⟨ht, fun h => he ?_⟩
        cases h
        rfl
      rintro r t ⟨ht, hr⟩
      split
      · exact ih t ht
      · next error _ =>
          refine .fail fun h => hr ?_
          rw [h]
      · exact .pure trivial

theorem prepareGeneratedLease_above
    (hderive : (deriveCalibratedThreshold scale lease.rms).1 = .ok threshold)
    (hbelow : ¬SortedBelow lease) (attempts : ℕ) (hs : s.rms = sorted lease.rms) :
    Attempt.Ends (prepareGeneratedLease scale host store lease threshold createdAt (attempts + 1)) s
      (fun _ _ => False)
      (fun e _ => e = .rmsExceedsPeak ↔ s.nextGeneration < u64Max ∧
        Admits scale host store lease (generationId host createdAt s.nextGeneration)) := by
  refine .bind (Q := fun id s' => s'.rms = sorted lease.rms ∧ s.nextGeneration < u64Max ∧
    id = generationId host createdAt s.nextGeneration) ?_ ?_
  · refine .bindGet ?_
    split
    · next hnone =>
        have hfull := checkedAdd_eq_none.mp hnone
        refine .fail ⟨nofun, ?_⟩
        rintro ⟨hroom, -⟩
        omega
    · next hsome =>
        have hnext := (checkedAdd_eq_some.mp hsome).2
        exact .bindModify (.pure ⟨hs, hnext, rfl⟩)
  rintro id s' ⟨hs', hnext, rfl⟩
  have hattempt : Attempt.Ends (prepareLease scale host store _ lease threshold createdAt) s'
      _ _ := prepareLease_above hderive hbelow hs' (generationId host createdAt s.nextGeneration)
  refine .bind (Q := fun r _ => ∃ e, r = .error e ∧ e ≠ .failed (.io .alreadyExists) ∧
    (e = .rmsExceedsPeak ↔
      Admits scale host store lease (generationId host createdAt s.nextGeneration)))
    (.capture ?_) ?_
  · refine hattempt.mono (fun _ _ h => h.elim) ?_
    rintro e t (⟨rfl, hadmits⟩ | ⟨⟨message, rfl⟩, hadmits⟩)
    · exact ⟨_, rfl, nofun, fun _ => hadmits, fun _ => rfl⟩
    · exact ⟨_, rfl, nofun, nofun, fun h => absurd h hadmits⟩
  rintro _ t ⟨e, rfl, hother, hpeak⟩
  split
  · next h =>
      cases h
      exact absurd rfl hother
  · next h =>
      cases h
      exact .fail ⟨fun h => ⟨hnext, hpeak.mp h⟩, fun h => hpeak.mpr h.2⟩
  · next h => cases h

/-- The capture gets as far as the check of the peaks on the first attempt. -/
def ReachesPeakCheck (scale : Scale α θ) (host : Host α θ σ) (store : CalibrationStore)
    (targetIsCurrent : Bool) (lease : CalibrationLease α) (createdAt sequence : ℕ) : Prop :=
  targetIsCurrent ∧ store.validate = .ok () ∧ sequence < u64Max ∧
    Admits scale host store lease (generationId host createdAt sequence)

theorem calibrateCaptured_ends (targetIsCurrent : Bool) (sequence : ℕ) (disk : σ)
    (hderive : (deriveCalibratedThreshold scale lease.rms).1 = .ok threshold) :
    Attempt.Ends (calibrateCaptured scale host store targetIsCurrent lease createdAt)
      ⟨lease.rms, sequence, disk⟩
      (fun _ _ => ¬ReachesPeakCheck scale host store targetIsCurrent lease createdAt sequence ∨
        SortedBelow lease)
      (fun e _ => e = .rmsExceedsPeak ↔
        ReachesPeakCheck scale host store targetIsCurrent lease createdAt sequence ∧
          ¬SortedBelow lease) := by
  refine .bindRequire (fun hno => ⟨by rintro ⟨⟩, ?_⟩) fun hcurrent => ?_
  · rintro ⟨⟨hcurrent, _, _, hcomplete, _⟩, _⟩
    simp only [CalibrationLease.complete, decide_eq_true_eq] at hcomplete
    exact absurd ⟨hcurrent, hcomplete.1⟩ hno
  obtain ⟨_, hfirst, _⟩ := derive_ok hderive
  have hsorts : onRms (deriveCalibratedThreshold scale) ⟨lease.rms, sequence, disk⟩ =
      (.ok threshold, ⟨sorted lease.rms, sequence, disk⟩) := by
    simp only [onRms, failing, Attempt.zoom, hfirst]
  refine .bindOk hsorts ?_
  refine .bind (Q := fun _ t => t = ⟨sorted lease.rms, sequence, disk⟩ ∧ store.validate = .ok ())
    (Ends.failing ?_) ?_
  · cases hvalid : store.validate with
    | error e =>
        refine ⟨by rintro ⟨⟩, ?_⟩
        rintro ⟨⟨_, hstore, _⟩, _⟩
        cases hstore.symm.trans hvalid
    | ok _ => exact ⟨rfl, rfl⟩
  rintro ⟨⟩ _ ⟨rfl, hstore⟩
  by_cases hbelow : SortedBelow lease
  · refine (prepareGeneratedLease_below hderive hbelow 1024 _ rfl).mono (fun _ _ _ => .inr hbelow) ?_
    exact fun e _ he => ⟨fun h => absurd h he, fun h => absurd hbelow h.2⟩
  · refine (prepareGeneratedLease_above hderive hbelow 1023 rfl).mono (fun _ _ h => h.elim) ?_
    intro e _ he
    refine he.trans ⟨fun h => ⟨⟨hcurrent.1, hstore, h⟩, hbelow⟩, fun h => h.1.2.2⟩

/-- A capture with a threshold in range is never refused for an RMS value over its
peak exactly if something else is wrong with it, or its values in ascending order
stay below the peaks in the order of the capture. -/
theorem calibration_peak_check_iff (targetIsCurrent : Bool) (sequence : ℕ) (disk : σ)
    (hderive : (deriveCalibratedThreshold scale lease.rms).1 = .ok threshold) :
    (calibrateCaptured scale host store targetIsCurrent lease createdAt
        ⟨lease.rms, sequence, disk⟩).1 ≠ .error .rmsExceedsPeak ↔
      ¬ReachesPeakCheck scale host store targetIsCurrent lease createdAt sequence ∨
        SortedBelow lease := by
  have hends : Attempt.Ends (calibrateCaptured scale host store targetIsCurrent lease createdAt)
      _ _ _ := calibrateCaptured_ends targetIsCurrent sequence disk hderive
  unfold Attempt.Ends at hends
  generalize calibrateCaptured scale host store targetIsCurrent lease createdAt
    ⟨lease.rms, sequence, disk⟩ = result at hends ⊢
  obtain ⟨e | metadata, s'⟩ := result
  · have hiff : e = .rmsExceedsPeak ↔ _ := hends
    rw [ne_eq, Except.error.injEq, hiff, not_and_or, not_not]
  · exact ⟨fun _ => hends, fun _ => nofun⟩

end Order

/-! ### A capture that grows quieter -/

/-- Levels in tenths of the full scale, thresholds in whole decibels. -/
def tenths : Scale ℤ ℤ where
  isFinite _ := true
  abs value := value.natAbs
  calibrated level := if level ≤ 0 then -110 else if level ≤ 1 then -10 else -4
  inRange threshold := -120 ≤ threshold ∧ threshold ≤ 0

def writingHost : Host ℤ ℤ Unit where
  processId := 4711
  validateCanonical := .ok ()
  write _ _ := pure ()

def twoWindows (first second : ℤ) : CalibrationLease ℤ where
  metadata :=
    { frames := 4, sampleRate := 48000, completeWindows := 2, partialFinalFrames := 0,
      droppedFrames := 0, usable := true }
  samples := [first, first, second, second]
  rms := [first, second]
  peak := [first, second]
  samples_length := rfl
  rms_length := rfl
  peak_length := rfl

theorem calibration_peak_check_louder :
    (deriveCalibratedThreshold tenths (twoWindows 1 2).rms).1 = .ok (-4) ∧
      (calibrateCaptured tenths writingHost ⟨true, 4⟩ true (twoWindows 1 2) 1700000000
        ⟨(twoWindows 1 2).rms, 0, ()⟩).1 ≠ .error .rmsExceedsPeak := by
  have hderive : (deriveCalibratedThreshold tenths (twoWindows 1 2).rms).1 = .ok (-4) := by decide
  refine ⟨hderive, (calibration_peak_check_iff true 0 () hderive).mpr (.inr ?_)⟩
  exact .cons (by decide) (.cons (by decide) .nil)

/-- A loud window and a quiet one, both at their peaks, in that order. -/
theorem calibration_quieter_refused :
    List.Forall₂ (· ≤ ·) (twoWindows 2 1).rms (twoWindows 2 1).peak ∧
      (deriveCalibratedThreshold tenths (twoWindows 2 1).rms).1 = .ok (-4) ∧
      (calibrateCaptured tenths writingHost ⟨true, 4⟩ true (twoWindows 2 1) 1700000000
        ⟨(twoWindows 2 1).rms, 0, ()⟩).1 = .error .rmsExceedsPeak :=
  ⟨.cons le_rfl (.cons le_rfl .nil), by decide, by decide +kernel⟩

end Lamb.Preparation
