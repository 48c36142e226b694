import Mathlib.Data.List.AList
import Lamb.Calibration.Store

/-!
The commit of a prepared generation. The configuration that refers to the
generation is saved first; the live policy follows once it is durable, and the
generation that was replaced is removed last. A save that is sure to have
failed takes the prepared generation back.
-/

namespace Lamb.Calibration

open Lamb.Lib Lamb.Lib.SharedDisk

/-! ### The configuration -/

inductive ThresholdSource
  | manual
  | calibrated
  deriving DecidableEq, Repr

structure ActivityThresholdConfig (δ : Type) where
  thresholdDbfs : δ
  thresholdSource : ThresholdSource
  updatedAtUnixSeconds : ℕ
  inputId : String
  calibrationId : Option String
  deriving DecidableEq

/-- Tables are compared entry by entry; the instance of the library does not compute. -/
instance decidableEqAList {ι : Type} {β : ι → Type} [DecidableEq ι] [∀ i, DecidableEq (β i)] :
    DecidableEq (AList β) := fun first second =>
  decidable_of_iff (first.entries = second.entries) AList.ext_iff.symm

/-- A profile: the thresholds of its channels, and everything else. -/
structure ProfileConfig (δ π : Type) where
  rest : π
  channels : AList fun _ : String => Option (ActivityThresholdConfig δ)
  deriving DecidableEq

/-- The configuration: its profiles, and everything else. -/
structure AppConfig (δ π ρ : Type) where
  daemon : ρ
  profiles : AList fun _ : String => ProfileConfig δ π
  deriving DecidableEq

section Config

variable {δ π ρ : Type}

def ProfileConfig.activities (profile : ProfileConfig δ π) : List (ActivityThresholdConfig δ) :=
  profile.channels.entries.filterMap fun channel => channel.2

/-- The generation a threshold refers to. -/
def ActivityThresholdConfig.generation (activity : ActivityThresholdConfig δ) :
    Option (String × String) :=
  activity.calibrationId.map fun id => (activity.inputId, id)

def calibrationReferences (config : AppConfig δ π ρ) : List (String × String) :=
  config.profiles.entries.flatMap fun profile =>
    profile.2.activities.filterMap ActivityThresholdConfig.generation

end Config

/-! ### The prepared generation -/

structure PreparedCalibrationGeneration (δ : Type) where
  inputDir : Location
  inputId : String
  calibrationId : String
  identity : Recovery.FileIdentity
  thresholdDbfs : δ
  createdAtUnixSeconds : ℕ

def PreparedCalibrationGeneration.location {δ : Type} (prepared : PreparedCalibrationGeneration δ) :
    Location :=
  prepared.inputDir ++ [prepared.calibrationId]

/-- The configuration's disk, the store, whether the prepared generation has
become authoritative, and the live state of the daemon. -/
structure Setup (ℓ : Type) where
  disk : World FileData
  store : Recovery.World
  authoritative : Bool
  live : ℓ

section Setup

variable {ℓ : Type}

def onDisk {β : Type} (f : Io β) : Attempt (Setup ℓ) LambError β :=
  Attempt.zoom Setup.disk (fun disk setup => { setup with disk := disk }) f

def onStore {β : Type} (f : Recovery.Io β) : Attempt (Setup ℓ) LambError β :=
  Attempt.zoom Setup.store (fun store setup => { setup with store := store }) f

end Setup

/-! ### The commit -/

inductive OldGenerationCleanup
  | notRequested
  | removed
  | pending
  deriving DecidableEq, Repr

section Commit

variable {δ π ρ ℓ : Type} [DecidableEq δ] (host : Host) (store : Generations.StoreHost)
  (prepared : PreparedCalibrationGeneration δ) (cleanupHook : Generations.CleanupHook)

/-- The threshold that the prepared generation calibrated. -/
def PreparedCalibrationGeneration.calibrates (activity : ActivityThresholdConfig δ) : Prop :=
  activity.thresholdSource = .calibrated ∧ activity.inputId = prepared.inputId ∧
    activity.calibrationId = some prepared.calibrationId ∧
    activity.updatedAtUnixSeconds = prepared.createdAtUnixSeconds ∧
    activity.thresholdDbfs = prepared.thresholdDbfs

instance (activity : ActivityThresholdConfig δ) : Decidable (prepared.calibrates activity) :=
  inferInstanceAs (Decidable (_ ∧ _ ∧ _ ∧ _ ∧ _))

/-- The one profile that refers to the prepared generation, by one channel. -/
def candidateProfileReferencingPrepared (candidate : AppConfig δ π ρ) :
    Option (String × ProfileConfig δ π) :=
  match candidate.profiles.entries.filter fun profile =>
      profile.2.activities.any fun activity => prepared.calibrates activity with
  | [profile] =>
      if (profile.2.activities.filter fun activity => prepared.calibrates activity).length = 1 then
        some (profile.1, profile.2)
      else none
  | _ => none

/-- `PreparedCalibrationGeneration::cleanup_with_hook`. -/
def cleanupWithHook : Attempt (Setup ℓ) LambError Bool := do
  if (← Attempt.get).authoritative then pure false
  else
    onStore (Generations.removeGenerationAt store prepared.inputDir prepared.calibrationId
      prepared.identity cleanupHook)

def cleanupFailedPrecommit {β : Type} (operation : LambError) : Attempt (Setup ℓ) LambError β := do
  match ← (cleanupWithHook store prepared cleanupHook).capture with
  | .ok true => Attempt.fail operation
  | .ok false => Attempt.fail (.persistenceCleanup operation .unidentifiedStagingCleanup)
  | .error error => Attempt.fail (.persistenceCleanup operation error)

def markAuthoritative : Attempt (Setup ℓ) LambError Unit :=
  Attempt.modify fun setup => { setup with authoritative := true }

/-- The generation that the candidate replaced is removed. -/
def removePrevious (previous : Option Generations.RecordedGeneration) :
    Attempt (Setup ℓ) LambError OldGenerationCleanup :=
  match previous with
  | none => pure .notRequested
  | some old => do
      match ← (onStore (Generations.removeRecordedGeneration store old cleanupHook)).capture with
      | .ok true => pure .removed
      | _ => pure .pending

variable [DecidableEq π] [DecidableEq ρ] (format : ConfigFormat (AppConfig δ π ρ))
  (validateProfile : String → ProfileConfig δ π → Result Unit)

def validateCandidate (candidate : AppConfig δ π ρ) : Result Unit :=
  match candidateProfileReferencingPrepared prepared candidate with
  | none =>
      .error (.validation "candidate does not reference exactly the prepared calibrated generation")
  | some (name, profile) => validateProfile name profile

def commitPreparedGenerationWithHooks (configPath : Path) (candidate : AppConfig δ π ρ)
    (previous : Option Generations.RecordedGeneration) (install : ℓ → ℓ)
    (configHook : DurabilityHook) (nameSource : World FileData → Result ℕ) :
    Attempt (Setup ℓ) LambError OldGenerationCleanup :=
  if previous.any fun old => old.identity = prepared.identity then
    Attempt.fail (.validation "previous generation aliases the prepared generation")
  else
    match validateCandidate prepared validateProfile candidate with
    | .error operation => cleanupFailedPrecommit store prepared cleanupHook operation
    | .ok _ => do
        let saved ← (onDisk (saveConfigAtomicWithHookAndNameSource host format configPath candidate
          configHook nameSource)).capture
        match saved with
        | .error operation =>
            if configSaveFailureOutcome operation = .notEstablished then do
              markAuthoritative
              Attempt.fail operation
            else cleanupFailedPrecommit store prepared cleanupHook operation
        | .ok _ => do
            markAuthoritative
            Attempt.modify fun setup => { setup with live := install setup.live }
            removePrevious store cleanupHook previous

end Commit

end Lamb.Calibration
