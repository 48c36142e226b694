import Lamb.Recovery.Effects
import Lamb.Calibration.Save

/-!
The store of calibration generations: a directory for each input below the
root, and a directory for each generation in it. A generation is removed by
giving it another name first, so that nothing reads a half removed one.

Nobody else writes below the root. A call may fail without effect; names are
listed before they are visited.
-/

namespace Lamb.Generations

open Lamb.Lib Lamb.Recovery

inductive CleanupCheckpoint
  | identityCaptured
  | quarantineVerified
  deriving DecidableEq, Repr

/-- What the store cannot choose. -/
structure StoreHost where
  os : Recovery.Os
  root : Location
  /-- The counter `NEXT_TEMP`, which may be exhausted. -/
  nextTemp : Recovery.World → Option ℕ

abbrev CleanupHook := CleanupCheckpoint → Recovery.World → Result Unit

def runHook (hook : CleanupHook) (checkpoint : CleanupCheckpoint) : Recovery.Io Unit := fun world =>
  (hook checkpoint world, world)

/-! ### Calls -/

section Calls

variable (host : StoreHost)

/-- `fs::read_dir` of an open directory. -/
def directoryEntryNames (directory : Location) : Recovery.Io (List String) :=
  orFail (query host.os fun fs => .ok ((fs.children directory).filterMap List.getLast?))

/-- `unlinkat` with `AT_REMOVEDIR`. -/
def removeDirAt (parent : Location) (name : String) : Recovery.Io (Except IoErrorKind Unit) :=
  call host.os fun _ fs => removeDirEntry fs (parent ++ [name])

/-- The directory that plain names lead to from `directory`. -/
def openNames (fs : FileSystem) : Location → List String → Except IoErrorKind Location
  | directory, [] => .ok directory
  | directory, name :: names =>
      match fs.lookup (directory ++ [name]) with
      | some (.directory _) => openNames fs (directory ++ [name]) names
      | some _ => .error .other
      | none => .error .notFound

/-- `open_existing_directory` of an absolute path. -/
def openExistingDirectory (location : Location) : Recovery.Io (Except IoErrorKind Location) :=
  query host.os fun fs => openNames fs [] location

end Calls

/-! ### Removing a generation -/

section Remove

variable (host : StoreHost)

/-- The entries of one directory, the directories among them by `clear`. -/
def clearEntries (clear : Location → ℕ → Recovery.Io ℕ) (directory : Location) :
    List String → ℕ → Recovery.Io ℕ
  | [], budget => pure budget
  | _ :: _, 0 => Attempt.fail (.config "calibration cleanup tree exceeds safe bounds")
  | name :: names, budget + 1 => do
      match ← statAt host.os directory name with
      | .error .notFound => Attempt.fail (.config "calibration cleanup entry disappeared")
      | .error kind => Attempt.fail (.io kind)
      | .ok (.directory _) => do
          let child ← orFail (openDirectoryAt host.os directory name)
          let budget ← clear child budget
          orFail (removeDirAt host directory name)
          clearEntries clear directory names budget
      | .ok _ => do
          orFail (unlinkAt host.os directory name)
          clearEntries clear directory names budget

/-- `clear_directory_at` with `levels` levels left; the budget that is left is
returned. -/
def clearDirectoryAt : ℕ → Location → ℕ → Recovery.Io ℕ
  | 0, _, _ => Attempt.fail (.config "calibration cleanup tree exceeds safe bounds")
  | levels + 1, directory, budget =>
      if budget = 0 then Attempt.fail (.config "calibration cleanup tree exceeds safe bounds")
      else do
        let names ← directoryEntryNames host directory
        clearEntries host (clearDirectoryAt levels) directory names budget

/-- Opens a directory and runs `next` if it has the expected identity; the
answer is `false` if it does not or cannot be opened. -/
def withIdentity (parent : Location) (name : String) (expected : FileIdentity)
    (next : Location → Recovery.Io Bool) : Recovery.Io Bool := do
  match ← openDirectoryAt host.os parent name with
  | .error _ => pure false
  | .ok directory => do
      let metadata ← orFail (metadataOf host.os directory)
      if metadata.identity = expected then next directory else pure false

/-- What follows once the generation has its other name. -/
def removeQuarantined (parent : Location) (quarantine : String) (expected : FileIdentity)
    (hook : CleanupHook) : Recovery.Io Bool :=
  withIdentity host parent quarantine expected fun _ => do
    runHook hook .quarantineVerified
    withIdentity host parent quarantine expected fun verified => do
      match ← (clearDirectoryAt host 64 verified 4096).capture with
      | .error _ => pure false
      | .ok _ =>
          match ← openDirectoryAt host.os parent quarantine with
          | .error _ => pure false
          | .ok directory =>
              match ← metadataOf host.os directory with
              | .error _ => pure false
              | .ok metadata =>
                  if metadata.identity = expected then do
                    match ← removeDirAt host parent quarantine with
                    | .error _ => pure false
                    | .ok _ => do
                        let _ ← onOpenFile host.os
                        pure true
                  else pure false

def removeGenerationAt (parent : Location) (name : String) (expected : FileIdentity)
    (hook : CleanupHook) : Recovery.Io Bool :=
  withIdentity host parent name expected fun _ => do
    runHook hook .identityCaptured
    withIdentity host parent name expected fun _ => do
      match host.nextTemp (← Attempt.get) with
      | none => pure false
      | some sequence => do
          let quarantine := Calibration.adjacentName name "cleanup" sequence
          match ← renameNoReplaceAt host.os parent name quarantine with
          | .error _ => pure false
          | .ok _ => removeQuarantined host parent quarantine expected hook

/-- A generation that was seen in its place. -/
structure RecordedGeneration where
  parent : Location
  name : String
  identity : FileIdentity

def RecordedGeneration.location (recorded : RecordedGeneration) : Location :=
  recorded.parent ++ [recorded.name]

/-- `RecordedGeneration::capture` of `root/input_id/calibration_id`. -/
def RecordedGeneration.capture (inputId calibrationId : String) :
    Recovery.Io RecordedGeneration := do
  let parent ← orFail (openExistingDirectory host (host.root ++ [inputId]))
  let directory ← orFail (openDirectoryAt host.os parent calibrationId)
  let metadata ← orFail (metadataOf host.os directory)
  pure ⟨parent, calibrationId, metadata.identity⟩

def removeRecordedGeneration (recorded : RecordedGeneration) (hook : CleanupHook) :
    Recovery.Io Bool :=
  removeGenerationAt host recorded.parent recorded.name recorded.identity hook

end Remove

/-! ### Removing what nothing refers to -/

section Cleanup

variable (host : StoreHost) (referenced : List (String × String)) (hook : CleanupHook)

/-- One generation of an input; the ones that stay are returned. -/
def cleanupGeneration (inputName : String) (input : Location) (name : String) :
    Recovery.Io (List Location) := do
  if (inputName, name) ∈ referenced then pure []
  else
    match ← openDirectoryAt host.os input name with
    | .error _ => pure [input ++ [name]]
    | .ok generation => do
        let metadata ← orFail (metadataOf host.os generation)
        if ← removeRecordedGeneration host ⟨input, name, metadata.identity⟩ hook then pure []
        else pure [input ++ [name]]

def cleanupGenerations (inputName : String) (input : Location) :
    List String → Recovery.Io (List Location)
  | [] => pure []
  | name :: names => do
      let pending ← cleanupGeneration host referenced hook inputName input name
      let rest ← cleanupGenerations inputName input names
      pure (pending ++ rest)

def cleanupInputs (root : Location) : List String → Recovery.Io (List Location)
  | [] => pure []
  | inputName :: inputNames => do
      match ← openDirectoryAt host.os root inputName with
      | .error _ => cleanupInputs root inputNames
      | .ok input => do
          let names ← directoryEntryNames host input
          let pending ← cleanupGenerations host referenced hook inputName input names
          let rest ← cleanupInputs root inputNames
          pure (pending ++ rest)

def cleanupUnreferencedWithHook : Recovery.Io (List Location) := do
  match ← openExistingDirectory host host.root with
  | .error .notFound => pure []
  | .error kind => Attempt.fail (.io kind)
  | .ok root => do
      let inputNames ← directoryEntryNames host root
      cleanupInputs host referenced hook root inputNames

end Cleanup

end Lamb.Generations
