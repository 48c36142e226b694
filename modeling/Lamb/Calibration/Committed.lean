import Lamb.Calibration.Commit
import Lamb.Calibration.Outcome
import Lamb.Calibration.Spare

/-!
What a save and a commit tell by the way they end.
-/

namespace Lamb.Calibration

open Lamb.Lib Lamb.Lib.SharedDisk

section Commit

variable {δ π ρ ℓ : Type} {host : Host} {store : Generations.StoreHost}
  {prepared : PreparedCalibrationGeneration δ} {cleanupHook : Generations.CleanupHook}
  {setup : Setup ℓ}

/-- A prepared generation is taken back by a step that leaves the rest. -/
theorem cleanupFailedPrecommit_ends {β : Type} {operation : LambError}
    {Q : β → Setup ℓ → Prop} :
    Attempt.Ends (cleanupFailedPrecommit store prepared cleanupHook operation) setup Q
      (fun _ setup' => setup'.disk = setup.disk ∧ setup'.live = setup.live ∧
        Generations.Spares (Generations.Apart prepared.location) setup.store.fs
          setup'.store.fs) := by
  unfold cleanupFailedPrecommit
  refine .bind (Q := fun _ setup' => setup'.disk = setup.disk ∧ setup'.live = setup.live ∧
    Generations.Spares (Generations.Apart prepared.location) setup.store.fs setup'.store.fs)
    (.capture ?_) ?_
  · unfold cleanupWithHook
    refine .bindGet (.ite (fun _ => ⟨rfl, rfl, .refl⟩) fun _ => ?_)
    refine .zoom (Attempt.Ends.mono Generations.sparesIn_removeGenerationAt ?_ ?_)
    · exact fun _ _ h => ⟨rfl, rfl, h⟩
    · exact fun _ _ h => ⟨rfl, rfl, h⟩
  · intro result setup' h
    cases result with
    | error error => exact h
    | ok removed =>
        cases removed with
        | true => exact h
        | false => exact h

/-- Removing the previous generation is a step of the store. -/
theorem removePrevious_ends {previous : Option Generations.RecordedGeneration}
    {P : Recovery.World → Prop} {E : LambError → Setup ℓ → Prop} (hnone : P setup.store)
    (hold : ∀ old ∈ previous,
      Attempt.Ends (Generations.removeRecordedGeneration store old cleanupHook) setup.store
        (fun _ => P) fun _ => P) :
    Attempt.Ends (removePrevious store cleanupHook previous) setup
      (fun _ setup' => setup'.disk = setup.disk ∧ setup'.live = setup.live ∧ P setup'.store)
      E := by
  cases previous with
  | none => exact ⟨rfl, rfl, hnone⟩
  | some old =>
      unfold removePrevious
      refine .bind (Q := fun _ setup' => setup'.disk = setup.disk ∧ setup'.live = setup.live ∧
        P setup'.store) (.capture (.zoom ?_)) ?_
      · refine Attempt.Ends.mono (hold old rfl) ?_ ?_
        · exact fun _ _ h => ⟨rfl, rfl, h⟩
        · exact fun _ _ h => ⟨rfl, rfl, h⟩
      · intro result setup' h
        cases result with
        | error error => exact h
        | ok removed =>
            cases removed with
            | true => exact h
            | false => exact h

/-- Removing the previous generation spares what is apart from it. -/
theorem removePrevious_spares {previous : Option Generations.RecordedGeneration}
    {E : LambError → Setup ℓ → Prop} :
    Attempt.Ends (removePrevious store cleanupHook previous) setup
      (fun _ setup' => setup'.disk = setup.disk ∧ setup'.live = setup.live ∧
        Generations.Spares
          (fun location => ∀ old ∈ previous, Generations.Apart old.location location)
          setup.store.fs setup'.store.fs) E := by
  refine removePrevious_ends (P := fun store' => Generations.Spares
    (fun location => ∀ old ∈ previous, Generations.Apart old.location location)
    setup.store.fs store'.fs) .refl fun old hold => ?_
  refine Attempt.Ends.mono Generations.sparesIn_removeGenerationAt ?_ ?_
  · exact fun _ _ h location hsome hapart => h location hsome (hapart old hold)
  · exact fun _ _ h location hsome hapart => h location hsome (hapart old hold)

/-- The prepared generation is in its place, and the previous one is a generation
of some input as well. -/
structure InStore (prepared : PreparedCalibrationGeneration δ)
    (previous : Option Generations.RecordedGeneration) (fs : Recovery.FileSystem) : Prop where
  isThere : fs.lookup prepared.location = some (.directory prepared.identity)
  sameDepth : ∀ old ∈ previous, old.location.length = prepared.location.length

/-- Removing the previous generation leaves the prepared one, even in its
place. -/
theorem removePrevious_keeps {previous : Option Generations.RecordedGeneration}
    {E : LambError → Setup ℓ → Prop} (hne : ∀ old ∈ previous, old.identity ≠ prepared.identity) :
    Attempt.Ends (removePrevious store cleanupHook previous) setup
      (fun _ setup' => setup'.disk = setup.disk ∧ setup'.live = setup.live ∧
        (InStore prepared previous setup.store.fs →
          Generations.Keeps prepared.location setup.store.fs setup'.store.fs)) E := by
  refine removePrevious_ends (P := fun store' => InStore prepared previous setup.store.fs →
    Generations.Keeps prepared.location setup.store.fs store'.fs) (fun _ _ _ => rfl)
    fun old hold => ?_
  by_cases hsame : old.location = prepared.location
  · by_cases hstore : InStore prepared previous setup.store.fs
    · have hfound := hstore.isThere
      rw [← hsame] at hfound
      refine (Generations.removeGenerationAt_other hfound (hne old hold).symm).mono ?_ ?_
      · exact fun _ _ hfs _ below _ => by rw [hfs]
      · exact fun _ _ hfs _ below _ => by rw [hfs]
    · exact .of_reached fun h => absurd h hstore
  · have hkeeps : ∀ {fs : Recovery.FileSystem},
        Generations.Spares (Generations.Apart old.location) setup.store.fs fs →
        InStore prepared previous setup.store.fs →
        Generations.Keeps prepared.location setup.store.fs fs := by
      intro fs hspares hstore
      have hdepth := hstore.sameDepth old hold
      refine hspares prepared.location ?_ ⟨fun hpre => hsame (hpre.eq_of_length hdepth),
        fun hpre => hsame (hpre.eq_of_length hdepth.symm).symm⟩
      rw [hstore.isThere]
      nofun
    refine Attempt.Ends.mono Generations.sparesIn_removeGenerationAt ?_ ?_
    · exact fun _ _ h => hkeeps h
    · exact fun _ _ h => hkeeps h

variable [DecidableEq δ] [DecidableEq π] [DecidableEq ρ]

/-- The state in which a save leaves the configuration's disk. -/
def savedDisk (host : Host) (format : ConfigFormat (AppConfig δ π ρ)) (configPath : Path)
    (candidate : AppConfig δ π ρ) (configHook : DurabilityHook)
    (nameSource : World FileData → Result ℕ) (disk : World FileData) :
    Result Unit × World FileData :=
  saveConfigAtomicWithHookAndNameSource host format configPath candidate configHook nameSource disk

/-- A commit that succeeds has saved the candidate and installed the policy; one
that fails has installed nothing, and it touched the prepared generation only
if the save was not made or failed for sure. -/
theorem commit_ends (format : ConfigFormat (AppConfig δ π ρ))
    (validateProfile : String → ProfileConfig δ π → Result Unit) (configPath : Path)
    (candidate : AppConfig δ π ρ) (previous : Option Generations.RecordedGeneration)
    (install : ℓ → ℓ) (configHook : DurabilityHook) (nameSource : World FileData → Result ℕ) :
    Attempt.Ends
      (commitPreparedGenerationWithHooks host store prepared cleanupHook format validateProfile
        configPath candidate previous install configHook nameSource) setup
      (fun _ setup' => setup'.live = install setup.live ∧
        (.ok (), setup'.disk) =
          savedDisk host format configPath candidate configHook nameSource setup.disk ∧
        Generations.Spares
          (fun location => ∀ old ∈ previous, Generations.Apart old.location location)
          setup.store.fs setup'.store.fs ∧
        (InStore prepared previous setup.store.fs →
          Generations.Keeps prepared.location setup.store.fs setup'.store.fs))
      (fun _ setup' => setup'.live = setup.live ∧
        (setup'.disk = setup.disk ∧
            Generations.Spares (Generations.Apart prepared.location) setup.store.fs
              setup'.store.fs ∨
          ∃ e, (.error e, setup'.disk) =
              savedDisk host format configPath candidate configHook nameSource setup.disk ∧
            (Unsure e ∧ setup'.store = setup.store ∨
              ¬Unsure e ∧ Generations.Spares (Generations.Apart prepared.location) setup.store.fs
                setup'.store.fs))) := by
  unfold commitPreparedGenerationWithHooks
  refine .ite (fun _ => ⟨rfl, .inl ⟨rfl, .refl⟩⟩) fun halias => ?_
  have hne : ∀ old ∈ previous, old.identity ≠ prepared.identity := by
    rintro old rfl heq
    exact halias (by simp [heq])
  cases validateCandidate prepared validateProfile candidate with
  | error operation =>
      refine cleanupFailedPrecommit_ends.mono (fun _ _ h => h) ?_
      rintro _ setup' ⟨hdisk, hlive, hspares⟩
      exact ⟨hlive, .inl ⟨hdisk, hspares⟩⟩
  | ok _ =>
  refine .bind (Q := fun saved setup' => (saved, setup'.disk) =
      savedDisk host format configPath candidate configHook nameSource setup.disk ∧
    setup'.store = setup.store ∧ setup'.live = setup.live) (.capture (.zoom ?_)) ?_
  · unfold savedDisk Attempt.Ends
    generalize saveConfigAtomicWithHookAndNameSource host format configPath candidate configHook
      nameSource setup.disk = result
    obtain ⟨_ | _, disk⟩ := result
    · exact ⟨rfl, rfl, rfl⟩
    · exact ⟨rfl, rfl, rfl⟩
  · rintro saved setup₁ ⟨hdisk, hstore, hlive⟩
    cases saved with
    | error operation =>
        refine .ite (fun hunsure => ?_) fun hsure => ?_
        · exact ⟨hlive, .inr ⟨operation, hdisk, .inl ⟨hunsure, hstore⟩⟩⟩
        · refine cleanupFailedPrecommit_ends.mono (fun _ _ h => h) ?_
          rintro _ setup' ⟨hdisk', hlive', hspares⟩
          rw [hstore] at hspares
          refine ⟨hlive'.trans hlive, .inr ⟨operation, ?_, .inr ⟨hsure, hspares⟩⟩⟩
          rw [hdisk', hdisk]
    | ok _ =>
        refine .bindModify (.bindModify ?_)
        refine ((removePrevious_spares (E := fun _ _ => False)).and
          (removePrevious_keeps (E := fun _ _ => False) hne)).mono ?_ ?_
        · rintro _ setup' ⟨⟨hdisk', hlive', hspares⟩, -, -, hkeeps⟩
          rw [← hstore]
          refine ⟨hlive'.trans (congrArg install hlive), ?_, hspares, hkeeps⟩
          rw [hdisk', ← hdisk]
        · exact fun _ _ h => h.1.elim

/-- A save that failed for sure: the target does not hold the candidate. -/
def Refuses (path : Path) (world now : World FileData) : Prop :=
  ∃ late, now.past = late ++ world.past ∧ Careful (targetOf path) late ∧
    Refused (targetOf path) world late now

theorem Refuses.refl {path : Path} {world : World FileData} : Refuses path world world :=
  ⟨[], rfl, trivial, .inl (by simp), fun _ _ _ => rfl⟩

end Commit

/-! ### A target that somebody else replaces -/

def sharedPath : Path :=
  Path.absolute ["config"]

def failingHook : DurabilityHook := fun checkpoint _ =>
  if checkpoint = .configParentSynced then .error (.config "hook") else .ok ()

end Lamb.Calibration
