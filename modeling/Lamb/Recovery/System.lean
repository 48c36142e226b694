import Lamb.Lib.Attempt
import Lamb.Recovery.Manifest

/-!
The calls into the operating system. Every call is one atomic step on the
file system. A call may also fail without effect; which ones do is up to the
system, so that a crash after some step is a system on which every later call
fails. Synchronization changes nothing, as a step is durable when it is made.

A directory that is held open is represented by its location: nothing that
holds one open moves it.
-/

namespace Lamb.Recovery

open Lamb.Lib

structure Os where
  euid : ℕ
  cwd : Location
  fails : ℕ → FileSystem → Bool
  /-- The identity a new entry gets; it may have belonged to one removed
  earlier. -/
  allocate : ℕ → FileSystem → FileIdentity
  allocate_fresh : ∀ clock fs location entry, fs.lookup location = some entry →
    entry.identity ≠ allocate clock fs

/-- No call fails unless the file system makes it fail. -/
def Os.Reliable (os : Os) : Prop :=
  ∀ clock fs, os.fails clock fs = false

/-- A system on which nothing fails and which numbers entries upwards. -/
def Os.upward : Os where
  euid := 0
  cwd := []
  fails := fun _ _ => false
  allocate := fun _ fs => ⟨0, (fs.entries.map fun entry => entry.2.identity.inode).sum + 1⟩
  allocate_fresh := by
    intro _ fs location entry hentry heq
    obtain ⟨front, back, hentries, -⟩ := List.lookup_eq_some_iff.1 hentry
    have hinode := congrArg FileIdentity.inode heq
    rw [hentries] at hinode
    simp only [List.map_append, List.map_cons, List.sum_append, List.sum_cons] at hinode
    omega

theorem Os.upward_reliable : Os.upward.Reliable :=
  fun _ _ => rfl

structure World where
  fs : FileSystem
  clock : ℕ

abbrev Io (β : Type) := Attempt World LambError β

def World.tick (world : World) (fs : FileSystem) : World :=
  ⟨fs, world.clock + 1⟩

@[simp] theorem World.tick_fs (world : World) (fs : FileSystem) : (world.tick fs).fs = fs :=
  rfl

def call {β : Type} (os : Os) (operation : ℕ → FileSystem → Except IoErrorKind (β × FileSystem)) :
    Io (Except IoErrorKind β) := fun world =>
  if os.fails world.clock world.fs then (.ok (.error .other), world.tick world.fs)
  else
    match operation world.clock world.fs with
    | .ok (b, fs) => (.ok (.ok b), world.tick fs)
    | .error kind => (.ok (.error kind), world.tick world.fs)

/-- A call that changes nothing. -/
def query {β : Type} (os : Os) (read : FileSystem → Except IoErrorKind β) :
    Io (Except IoErrorKind β) :=
  call os fun _ fs => (read fs).map fun b => (b, fs)

/-- `result.map_err(|source| io_error(path, source))?`. -/
def orFail {β : Type} (attempt : Io (Except IoErrorKind β)) : Io β := do
  match ← attempt with
  | .ok b => pure b
  | .error kind => Attempt.fail (.io kind)

/-! ### Path lookup -/

/-- The location of the entry a path names, from the directory `location`.
Links above the last component are followed by `follow`. -/
def walkWith (fs : FileSystem)
    (follow : Location → List Component → Except IoErrorKind Location) :
    Location → List Component → Except IoErrorKind Location
  | location, [] => .ok location
  | location, .curDir :: parts => walkWith fs follow location parts
  | location, .parentDir :: parts => walkWith fs follow location.dropLast parts
  | location, .normal name :: parts =>
      if parts = [] then .ok (location ++ [name])
      else
        match fs.lookup (location ++ [name]) with
        | none => .error .notFound
        | some (.file _ _) => .error .other
        | some (.directory _) => walkWith fs follow (location ++ [name]) parts
        | some (.symlink _ target) =>
            let path := Path.ofText target
            follow (if path.rooted then [] else location) (path.parts ++ parts)

/-- Path lookup through at most `links` symbolic links. -/
def walk (fs : FileSystem) : ℕ → Location → List Component → Except IoErrorKind Location
  | 0 => walkWith fs fun _ _ => .error .other
  | links + 1 => walkWith fs fun location parts => walk fs links location parts

def maximumLinks : ℕ := 40

def resolve (os : Os) (fs : FileSystem) (path : Path) : Except IoErrorKind Location :=
  if path.rooted then walk fs maximumLinks [] path.parts
  else if path.parts = [] then .error .notFound
  else walk fs maximumLinks os.cwd path.parts

def entryAt (fs : FileSystem) (location : Location) : Except IoErrorKind Entry :=
  match fs.lookup location with
  | some entry => .ok entry
  | none => .error .notFound

def stat (os : Os) (fs : FileSystem) (path : Path) : Except IoErrorKind Entry :=
  (resolve os fs path).bind (entryAt fs)

/-! ### Calls by path -/

/-- `fs::symlink_metadata`. -/
def symlinkMetadata (os : Os) (path : Path) : Io (Except IoErrorKind Entry) :=
  query os fun fs => stat os fs path

/-- Looks at what a path names. That nothing is there is an answer; any other
error is returned. -/
def lookAt {β : Type} (os : Os) (path : Path) (missing : Io β) (found : Entry → Io β) : Io β := do
  match ← symlinkMetadata os path with
  | .ok entry => found entry
  | .error .notFound => missing
  | .error kind => Attempt.fail (.io kind)

/-- `open` with `O_NOFOLLOW`, for reading. -/
def openNoFollow (os : Os) (path : Path) : Io (Except IoErrorKind Entry) :=
  query os fun fs =>
    match stat os fs path with
    | .ok (.symlink _ _) => .error .other
    | found => found

/-- `open` with `O_DIRECTORY|O_NOFOLLOW`. -/
def openDirectory (os : Os) (path : Path) : Io (Except IoErrorKind Entry) :=
  query os fun fs =>
    match stat os fs path with
    | .ok (.directory identity) => .ok (.directory identity)
    | .ok _ => .error .other
    | .error kind => .error kind

/-- `File::open` of a directory, which follows a link in the last place too. -/
def openFollowing (os : Os) (path : Path) : Io (Except IoErrorKind Location) :=
  query os fun fs => resolve os fs { path with parts := path.parts ++ [.curDir] }

/-- A call on an open file that leaves the file system as it is: `metadata`,
`read`, `flush`, `sync_all`. -/
def onOpenFile (os : Os) : Io (Except IoErrorKind Unit) :=
  query os fun _ => .ok ()

/-- The names of the entries of a directory. -/
def readDir (os : Os) (path : Path) : Io (Except IoErrorKind (List String)) :=
  query os fun fs =>
    (resolve os fs { path with parts := path.parts ++ [.curDir] }).map fun location =>
      (fs.children location).filterMap List.getLast?

def unlinkEntry (fs : FileSystem) (location : Location) : Except IoErrorKind (Unit × FileSystem) :=
  match h : fs.lookup location with
  | none => .error .notFound
  | some entry =>
      if hdir : entry.isDir = false then
        .ok ((), fs.update location none (FileTree.canUpdate_replace h hdir))
      else .error .other

/-- `fs::remove_file`. -/
def removeFile (os : Os) (path : Path) : Io (Except IoErrorKind Unit) :=
  call os fun _ fs => (resolve os fs path).bind (unlinkEntry fs)

def removeDirEntry (fs : FileSystem) (location : Location) :
    Except IoErrorKind (Unit × FileSystem) :=
  match fs.lookup location with
  | none => .error .notFound
  | some (.directory _) =>
      if h : location ≠ [] ∧ fs.children location = [] then
        .ok ((), fs.update location none (FileTree.canUpdate_remove h.1 h.2))
      else .error .other
  | some _ => .error .other

/-- `fs::remove_dir`. -/
def removeDir (os : Os) (path : Path) : Io (Except IoErrorKind Unit) :=
  call os fun _ fs => (resolve os fs path).bind (removeDirEntry fs)

/-! ### Calls relative to an open directory -/

/-- `openat` with `O_DIRECTORY|O_NOFOLLOW`: the directory's own location. -/
def openDirectoryAt (os : Os) (parent : Location) (name : String) :
    Io (Except IoErrorKind Location) :=
  query os fun fs =>
    match fs.lookup (parent ++ [name]) with
    | some (.directory _) => .ok (parent ++ [name])
    | some _ => .error .other
    | none => .error .notFound

/-- `openat` with `O_NOFOLLOW`, for reading. -/
def openNoFollowAt (os : Os) (parent : Location) (name : String) : Io (Except IoErrorKind Entry) :=
  query os fun fs =>
    match fs.lookup (parent ++ [name]) with
    | some (.symlink _ _) => .error .other
    | some entry => .ok entry
    | none => .error .notFound

/-- `fstatat` with `AT_SYMLINK_NOFOLLOW`. -/
def statAt (os : Os) (parent : Location) (name : String) : Io (Except IoErrorKind Entry) :=
  query os fun fs => entryAt fs (parent ++ [name])

/-- `metadata` of an open file or directory. -/
def metadataOf (os : Os) (location : Location) : Io (Except IoErrorKind Entry) :=
  query os fun fs => entryAt fs location

/-- A new entry in an open directory; the caller gets its identity. -/
def createAt (os : Os) (make : FileIdentity → Entry) (parent : Location) (name : String) :
    Io (Except IoErrorKind FileIdentity) :=
  call os fun clock fs =>
    if h : IsDirectory (fs.lookup parent) ∧ fs.lookup (parent ++ [name]) = none then
      let identity := os.allocate clock fs
      .ok (identity, fs.update (parent ++ [name]) (some (make identity))
        (FileTree.canUpdate_create h.1 h.2))
    else if IsDirectory (fs.lookup parent) then .error .alreadyExists
    else .error .notFound

/-- `openat` with `O_CREAT|O_EXCL`. -/
def createNewAt (os : Os) (parent : Location) (name : String) :
    Io (Except IoErrorKind FileIdentity) :=
  createAt os (fun identity => .file identity (.data [])) parent name

/-- `mkdirat`. -/
def mkdirAt (os : Os) (parent : Location) (name : String) : Io (Except IoErrorKind Unit) := do
  let made ← createAt os (fun identity => .directory identity) parent name
  pure (made.map fun _ => ())

/-- The content of an open file replaced as a whole. -/
def writeAll (os : Os) (location : Location) (content : Content) : Io (Except IoErrorKind Unit) :=
  call os fun _ fs =>
    match h : fs.lookup location with
    | some (.file identity _) =>
        .ok ((), fs.update location (some (.file identity content))
          (FileTree.canUpdate_replace h rfl))
    | _ => .error .other

/-- `unlinkat`. -/
def unlinkAt (os : Os) (parent : Location) (name : String) : Io (Except IoErrorKind Unit) :=
  call os fun _ fs => unlinkEntry fs (parent ++ [name])

/-- `renameat2` with `RENAME_NOREPLACE`. -/
def renameNoReplaceAt (os : Os) (parent : Location) (source target : String) :
    Io (Except IoErrorKind Unit) :=
  call os fun _ fs =>
    match hsource : fs.lookup (parent ++ [source]) with
    | none => .error .notFound
    | some entry =>
        if hfree : fs.lookup (parent ++ [target]) = none then
          if hdir : entry.isDir = false then .ok ((), fs.rename parent hsource hdir hfree)
          else .ok ((), fs.move (parent ++ [source]) (parent ++ [target])
            (FileTree.canMove_sibling hsource hfree))
        else .error .alreadyExists

/-- `renameat2` with `RENAME_EXCHANGE`, of two files. -/
def renameExchangeAt (os : Os) (parent : Location) (first second : String) :
    Io (Except IoErrorKind Unit) :=
  call os fun _ fs =>
    match hfirst : fs.lookup (parent ++ [first]), hsecond : fs.lookup (parent ++ [second]) with
    | some (.file _ _), some (.file _ _) => .ok ((), fs.exchange hfirst rfl hsecond rfl)
    | none, _ => .error .notFound
    | _, none => .error .notFound
    | _, _ => .error .other

end Lamb.Recovery
