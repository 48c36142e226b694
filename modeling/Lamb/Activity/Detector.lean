import Lamb.Dump.Decision
import Lamb.Runtime.MemoryPlan
import Lamb.Lib.Slice

/-!
The activity detectors. A windowed detector keeps two accumulators, each of
which takes every other window; a window is evaluated when it is full, and the
windows that are still open at the end are evaluated then. The arithmetic on
samples and decibels is a parameter.
-/

namespace Lamb.Activity

open Lamb.Lib Lamb.Dump Lamb.Runtime

inductive ActivityDetectorKind
  | exactZero
  | windowedRmsPeak
  | fixedLevel
  | calibratedNoiseFloor
  deriving DecidableEq, Repr

/-- The floating-point side: `S` are samples, `L` what an accumulator sums up
of them, `D` values in dBFS. Comparisons are separate because of NaN. -/
structure Meter (S L D : Type) where
  isFinite : S → Bool
  isZero : S → Bool
  zero : L
  add : L → S → L
  rmsDbfs : L → ℕ → D
  peakDbfs : L → D
  closeThreshold : D → D
  transientThreshold : D → D
  ge : D → D → Bool
  lt : D → D → Bool
  isFiniteDbfs : D → Bool

structure WindowGeometry where
  window : ℕ
  hop : ℕ
  sustained : ℕ
  deriving DecidableEq, Repr

def u32Max : ℕ := 2 ^ 32 - 1

def WindowGeometry.new (sampleRate : ℕ) : Result WindowGeometry :=
  if sampleRate = 0 then .error (.validation "windowed detector sample rate is zero")
  else if u32Max < divCeil (sampleRate * 20) 1000 then
    .error (.validation "window size overflow")
  else if u32Max < divCeil (sampleRate * 10) 1000 then
    .error (.validation "window hop overflow")
  else .ok
    { window := max (divCeil (sampleRate * 20) 1000) 1
      hop := max (divCeil (sampleRate * 10) 1000) 1
      sustained := max (divCeil (sampleRate * 100) 1000) 1 }

structure WindowAccumulator (L : Type) where
  start : ℕ
  level : L
  count : ℕ

/-- What the windows evaluated so far have shown. The last field lists them by
their first and last frame; the source does not keep it. -/
structure Verdict where
  gateOpenSince : Option ℕ
  result : ActivityResult
  evidence : Option ℕ
  evaluated : List Ring.Range
  deriving DecidableEq, Repr

structure DetectorState (L : Type) extends Verdict where
  accumulators : Fin 2 → WindowAccumulator L
  nonFinite : Bool
  exactNonzero : Bool

def Verdict.empty : Verdict where
  gateOpenSince := none
  result := .inactive
  evidence := none
  evaluated := []

/-- What the samples of one epoch are classified with. -/
structure Scan (S L D : Type) where
  meter : Meter S L D
  detector : ActivityDetectorKind
  geometry : WindowGeometry
  transactionStart : ℕ

variable {S L D : Type}

def WindowAccumulator.new (scan : Scan S L D) (start : ℕ) : WindowAccumulator L where
  start := start
  level := scan.meter.zero
  count := 0

def DetectorState.empty (scan : Scan S L D) : DetectorState L where
  toVerdict := .empty
  accumulators := fun _ => .new scan 0
  nonFinite := false
  exactNonzero := false

def DetectorState.prepareWindowed (scan : Scan S L D) (state : DetectorState L) :
    DetectorState L :=
  { state with
    accumulators := fun index => .new scan (if index = 0 then 0 else scan.geometry.hop) }

def prepareState (scan : Scan S L D) (threshold : Option D) (state : DetectorState L) :
    DetectorState L :=
  if scan.detector = .windowedRmsPeak then
    let state := state.prepareWindowed scan
    if threshold.isNone then
      { state with result := .ambiguous, evidence := some scan.transactionStart }
    else state
  else state

/-- The gate after a window without a transient: it opens at the open
threshold, closes below the close threshold, and reports once it has been open
for long enough. -/
def Verdict.gate (scan : Scan S L D) (openThreshold : D) (rmsDbfs : D) (range : Ring.Range)
    (verdict : Verdict) : Verdict :=
  match verdict.gateOpenSince with
  | some openSince =>
      if scan.meter.lt rmsDbfs (scan.meter.closeThreshold openThreshold) then
        { verdict with gateOpenSince := none }
      else if scan.geometry.sustained ≤ range.stop - openSince then
        { verdict with result := .active }
      else verdict
  | none =>
      if scan.meter.ge rmsDbfs openThreshold then
        if scan.geometry.sustained ≤ range.stop - range.start then
          { verdict with gateOpenSince := some range.start, result := .active }
        else { verdict with gateOpenSince := some range.start }
      else verdict

/-- What a window with samples, at `range`, makes of the verdict. -/
def Verdict.judge (scan : Scan S L D) (openThreshold : D) (accumulator : WindowAccumulator L)
    (range : Ring.Range) (verdict : Verdict) : Verdict :=
  let rmsDbfs := scan.meter.rmsDbfs accumulator.level accumulator.count
  let transient := scan.meter.ge (scan.meter.peakDbfs accumulator.level)
    (scan.meter.transientThreshold openThreshold)
  let verdict := { verdict with evaluated := verdict.evaluated ++ [range] }
  let verdict :=
    if scan.meter.ge rmsDbfs (scan.meter.closeThreshold openThreshold) || transient then
      { verdict with
        evidence := some (verdict.evidence.elim range.start fun current => min current range.start)
        result := if verdict.result = .inactive then .ambiguous else verdict.result }
    else verdict
  if transient then { verdict with result := .active }
  else verdict.gate scan openThreshold rmsDbfs range

def checkedAddOr (message : String) (a b : ℕ) : Result ℕ :=
  match checkedAdd a b with
  | none => .error (.exportInvariant message)
  | some c => .ok c

def evaluateWindow (scan : Scan S L D) (openThreshold : D) (accumulator : WindowAccumulator L)
    (verdict : Verdict) : Result Verdict :=
  if accumulator.count = 0 then .ok verdict
  else do
    let windowStart ← checkedAddOr "activity evidence overflow" scan.transactionStart
      accumulator.start
    let windowEnd ← checkedAddOr "activity window end overflow" windowStart accumulator.count
    .ok (verdict.judge scan openThreshold accumulator ⟨windowStart, windowEnd⟩)

def WindowAccumulator.take (scan : Scan S L D) (sample : S) (accumulator : WindowAccumulator L) :
    WindowAccumulator L :=
  { accumulator with
    count := accumulator.count + 1
    level :=
      if scan.meter.isFinite sample then scan.meter.add accumulator.level sample
      else accumulator.level }

def DetectorState.setAccumulator (state : DetectorState L) (index : Fin 2)
    (accumulator : WindowAccumulator L) : DetectorState L :=
  { state with accumulators := Function.update state.accumulators index accumulator }

/-- The loop body of `feed_sample`; the end of a window is computed modulo
`2 ^ 64`. -/
def feedAccumulator (scan : Scan S L D) (threshold : D) (sample : S) (relativeFrame : ℕ)
    (state : DetectorState L) (index : Fin 2) : Result (DetectorState L) :=
  let accumulator := state.accumulators index
  if relativeFrame < accumulator.start ∨
      (accumulator.start + scan.geometry.window) % 2 ^ 64 ≤ relativeFrame then
    .ok state
  else
    let completed := accumulator.take scan sample
    if completed.count = scan.geometry.window then do
      let start ← checkedAddOr "activity window overflow" accumulator.start
        (2 * scan.geometry.hop)
      let verdict ← evaluateWindow scan threshold completed state.toVerdict
      .ok { state.setAccumulator index (.new scan start) with toVerdict := verdict }
    else .ok (state.setAccumulator index completed)

/-- What a sample shows by itself. -/
def DetectorState.note (scan : Scan S L D) (sample : S) (absoluteFrame : ℕ)
    (state : DetectorState L) : DetectorState L :=
  if !scan.meter.isFinite sample then { state with nonFinite := true }
  else if !scan.meter.isZero sample then
    if scan.detector = .exactZero then
      { state with
        exactNonzero := true
        result := .active
        evidence := some (state.evidence.getD absoluteFrame) }
    else { state with exactNonzero := true }
  else state

def feedSample (scan : Scan S L D) (threshold : Option D) (sample : S) (relativeFrame : ℕ)
    (state : DetectorState L) : Result (DetectorState L) := do
  let absoluteFrame ← checkedAddOr "activity frame overflow" scan.transactionStart relativeFrame
  let state := state.note scan sample absoluteFrame
  match threshold with
  | none => .ok state
  | some threshold =>
      if scan.detector = .windowedRmsPeak then
        (List.finRange 2).foldlM (feedAccumulator scan threshold sample relativeFrame) state
      else .ok state

/-- The accumulators by their start, as the stable sort leaves them. -/
def DetectorState.sortedAccumulators (state : DetectorState L) : List (WindowAccumulator L) :=
  if (state.accumulators 1).start < (state.accumulators 0).start then
    [state.accumulators 1, state.accumulators 0]
  else [state.accumulators 0, state.accumulators 1]

def finishState (scan : Scan S L D) (threshold : Option D) (state : DetectorState L) :
    Result (DetectorState L) := do
  let verdict ←
    match threshold with
    | none => .ok state.toVerdict
    | some threshold =>
        if scan.detector = .windowedRmsPeak then
          state.sortedAccumulators.foldlM
            (fun verdict accumulator => evaluateWindow scan threshold accumulator verdict)
            state.toVerdict
        else .ok state.toVerdict
  .ok
    { state with
      toVerdict :=
        if state.nonFinite then { verdict with result := .ambiguous } else verdict }

end Lamb.Activity
