import Mathlib.Algebra.Order.BigOperators.Group.List
import Mathlib.Algebra.Order.Group.Nat
import Mathlib.Algebra.Ring.Nat
import Lamb.Lib.Attempt

/-!
A file system that others write to while a program runs. A file or directory
is known by its inode number, whatever names it has; a name is an entry of a
directory. Before every call of the program the others may rearrange the
entries as they like. They do not write into a file that is there, and a
number is given out once.

The history of a run keeps the state before every step. What a directory holds
after a crash is one of its states since it was last synchronized.
-/

namespace Lamb.Lib.SharedDisk

abbrev Ino := ℕ

inductive Kind (κ : Type)
  | file (data : κ)
  | directory
  | special
  deriving DecidableEq, Repr

structure Disk (κ : Type) where
  inodes : List (Ino × Kind κ)
  entries : List ((Ino × String) × Option Ino)

namespace Disk

variable {κ : Type}

def inode (disk : Disk κ) (ino : Ino) : Option (Kind κ) :=
  disk.inodes.lookup ino

def entry (disk : Disk κ) (dir : Ino) (name : String) : Option Ino :=
  (disk.entries.lookup (dir, name)).join

def setInode (disk : Disk κ) (ino : Ino) (kind : Kind κ) : Disk κ :=
  { disk with inodes := (ino, kind) :: disk.inodes }

def setEntry (disk : Disk κ) (dir : Ino) (name : String) (found : Option Ino) : Disk κ :=
  { disk with entries := ((dir, name), found) :: disk.entries }

theorem inode_setInode (disk : Disk κ) (ino ino' : Ino) (kind : Kind κ) :
    (disk.setInode ino kind).inode ino' = if ino' = ino then some kind else disk.inode ino' := by
  by_cases h : ino' = ino
  · simp [inode, setInode, h]
  · simp [inode, setInode, h, List.lookup_cons, beq_false_of_ne h]

@[simp] theorem entry_setInode (disk : Disk κ) (ino dir : Ino) (kind : Kind κ) (name : String) :
    (disk.setInode ino kind).entry dir name = disk.entry dir name :=
  rfl

@[simp] theorem inode_setEntry (disk : Disk κ) (dir ino : Ino) (name : String)
    (found : Option Ino) : (disk.setEntry dir name found).inode ino = disk.inode ino :=
  rfl

theorem entry_setEntry (disk : Disk κ) (dir dir' : Ino) (name name' : String)
    (found : Option Ino) :
    (disk.setEntry dir name found).entry dir' name' =
      if dir' = dir ∧ name' = name then found else disk.entry dir' name' := by
  by_cases h : dir' = dir ∧ name' = name
  · simp [entry, setEntry, h]
  · rw [if_neg h]
    have hne : ((dir', name') == (dir, name)) = false := by
      simpa [Prod.ext_iff] using h
    simp only [entry, setEntry, List.lookup_cons, hne]

/-- The directory a name leads to; links are not followed. -/
def child (disk : Disk κ) (dir : Ino) (name : String) : Option Ino :=
  match disk.entry dir name with
  | none => none
  | some ino => if disk.inode ino matches some .directory then some ino else none

theorem child_eq_some_iff {disk : Disk κ} {dir ino : Ino} {name : String} :
    disk.child dir name = some ino ↔
      disk.entry dir name = some ino ∧ disk.inode ino = some .directory := by
  unfold child
  constructor
  · intro h
    split at h
    · cases h
    · next hentry =>
        split at h
        · next hdirectory =>
            cases h
            exact ⟨hentry, hdirectory⟩
        · cases h
  · rintro ⟨hentry, hinode⟩
    simp [hentry, hinode]

/-- The directory that plain names lead to from `dir`. -/
def walk (disk : Disk κ) (dir : Ino) (names : List String) : Option Ino :=
  names.foldlM disk.child dir

theorem walk_congr {disk disk' : Disk κ}
    (h : ∀ dir name, disk'.child dir name = disk.child dir name) (dir : Ino)
    (names : List String) : disk'.walk dir names = disk.walk dir names := by
  have hchild : disk'.child = disk.child := by
    funext dir name
    exact h dir name
  rw [walk, walk, hchild]

end Disk

/-! ### Steps -/

/-- What a program does to the disk in one call. -/
inductive Event (κ : Type)
  /-- A step of somebody else. -/
  | others
  /-- A call that changed nothing, and what it saw is not recorded. -/
  | idle
  | found (dir : Ino) (name : String) (ino : Option Ino)
  | made (dir : Ino) (name : String) (ino : Ino)
  | created (dir : Ino) (name : String) (ino : Ino) (data : κ)
  | wrote (ino : Ino) (data : κ)
  | synced (ino : Ino)
  | unlinked (dir : Ino) (name : String)
  | exchanged (dir : Ino) (first second : String)
  | moved (dir : Ino) (source target : String)
  deriving DecidableEq, Repr

namespace Event

variable {κ : Type}

def apply : Event κ → Disk κ → Disk κ
  | .made dir name ino, disk => (disk.setInode ino .directory).setEntry dir name (some ino)
  | .created dir name ino data, disk =>
      (disk.setInode ino (.file data)).setEntry dir name (some ino)
  | .wrote ino data, disk => disk.setInode ino (.file data)
  | .unlinked dir name, disk => disk.setEntry dir name none
  | .exchanged dir first second, disk =>
      (disk.setEntry dir first (disk.entry dir second)).setEntry dir second (disk.entry dir first)
  | .moved dir source target, disk =>
      (disk.setEntry dir source none).setEntry dir target (disk.entry dir source)
  | _, disk => disk

/-- Whether a step of the program itself changes what stands under a name. -/
def touches : Event κ → Ino → String → Prop
  | .made dir name _, dir', name' => dir' = dir ∧ name' = name
  | .created dir name _ _, dir', name' => dir' = dir ∧ name' = name
  | .unlinked dir name, dir', name' => dir' = dir ∧ name' = name
  | .exchanged dir first second, dir', name' => dir' = dir ∧ (name' = first ∨ name' = second)
  | .moved dir source target, dir', name' => dir' = dir ∧ (name' = source ∨ name' = target)
  | _, _, _ => False

theorem entry_apply {event : Event κ} {dir : Ino} {name : String} (disk : Disk κ)
    (h : ¬event.touches dir name) : (event.apply disk).entry dir name = disk.entry dir name := by
  cases event with
  | made dir' name' ino => simpa [apply, Disk.entry_setEntry] using fun hd hn => absurd ⟨hd, hn⟩ h
  | created dir' name' ino data =>
      simpa [apply, Disk.entry_setEntry] using fun hd hn => absurd ⟨hd, hn⟩ h
  | unlinked dir' name' =>
      rw [apply, Disk.entry_setEntry]
      exact if_neg h
  | exchanged dir' first second =>
      simp only [touches, not_and, not_or] at h
      rw [apply, Disk.entry_setEntry, if_neg fun heq => (h heq.1).2 heq.2, Disk.entry_setEntry,
        if_neg fun heq => (h heq.1).1 heq.2]
  | moved dir' source target =>
      simp only [touches, not_and, not_or] at h
      rw [apply, Disk.entry_setEntry, if_neg fun heq => (h heq.1).2 heq.2, Disk.entry_setEntry,
        if_neg fun heq => (h heq.1).1 heq.2]
  | others => rfl
  | idle => rfl
  | found dir' name' ino => rfl
  | wrote ino data => rfl
  | synced ino => rfl

def syncs : Event κ → Ino → Bool
  | .synced ino, ino' => ino = ino'
  | _, _ => false

/-- A call that only looks. -/
def Quiet : Event κ → Prop
  | .idle => True
  | .found _ _ _ => True
  | _ => False

theorem Quiet.apply_eq {event : Event κ} (h : event.Quiet) (disk : Disk κ) :
    event.apply disk = disk := by
  cases event with
  | idle => rfl
  | found dir name ino => rfl
  | others => cases h
  | made dir name ino => cases h
  | created dir name ino data => cases h
  | wrote ino data => cases h
  | synced ino => cases h
  | unlinked dir name => cases h
  | exchanged dir first second => cases h
  | moved dir source target => cases h

theorem Quiet.not_touches {event : Event κ} (h : event.Quiet) (dir : Ino) (name : String) :
    ¬event.touches dir name := by
  cases event with
  | idle => exact id
  | found dir name ino => exact id
  | others => cases h
  | made dir name ino => cases h
  | created dir name ino data => cases h
  | wrote ino data => cases h
  | synced ino => cases h
  | unlinked dir name => cases h
  | exchanged dir first second => cases h
  | moved dir source target => cases h

/-- A step that changes names only. -/
def KeepsInodes (event : Event κ) : Prop :=
  ∀ (disk : Disk κ) (ino : Ino), (event.apply disk).inode ino = disk.inode ino

theorem Quiet.keepsInodes {event : Event κ} (h : event.Quiet) : event.KeepsInodes :=
  fun disk _ => by rw [h.apply_eq]

def unlinks : Event κ → Bool
  | .unlinked _ _ => true
  | _ => false

theorem Quiet.not_unlinks {event : Event κ} (h : event.Quiet) : event.unlinks = false := by
  cases event with
  | unlinked dir name => cases h
  | _ => rfl

def creates : Event κ → Bool
  | .created _ _ _ _ => true
  | _ => false

theorem Quiet.not_creates {event : Event κ} (h : event.Quiet) : event.creates = false := by
  cases event with
  | created dir name ino data => cases h
  | _ => rfl

end Event

/-- One step of a run: what happened, and the disk before and after. -/
structure Step (κ : Type) where
  event : Event κ
  before : Disk κ
  after : Disk κ

/-- The disk and the steps that led to it, newest first. -/
structure World (κ : Type) where
  disk : Disk κ
  past : List (Step κ)

namespace World

variable {κ : Type}

def states (world : World κ) : List (Disk κ) :=
  world.disk :: world.past.map Step.before

/-- The program's own step. -/
def record (world : World κ) (event : Event κ) : World κ :=
  let disk := event.apply world.disk
  ⟨disk, ⟨event, world.disk, disk⟩ :: world.past⟩

def disturb (world : World κ) (disk : Disk κ) : World κ :=
  ⟨disk, ⟨.others, world.disk, disk⟩ :: world.past⟩

/-- The states that a directory or file may be in after a crash: those since
it was last synchronized. -/
def mayPersist (world : World κ) (ino : Ino) : List (Disk κ) :=
  world.disk :: (world.past.takeWhile fun step => !step.event.syncs ino).map Step.before

end World

/-- What the program cannot choose: the steps of the others, the calls that
fail, and the numbers of new files. -/
structure Os (κ : Type) where
  others : World κ → Disk κ
  others_keep : ∀ world ino data, world.disk.inode ino = some (.file data) →
    (others world).inode ino = some (.file data)
  fails : World κ → Bool
  allocate : World κ → Ino
  allocate_fresh : ∀ world, ∀ disk ∈ world.states, disk.inode (allocate world) = none ∧
    ∀ dir name, disk.entry dir name ≠ some (allocate world)

namespace World

variable {κ : Type} {world : World κ}

@[simp] theorem record_disk (event : Event κ) :
    (world.record event).disk = event.apply world.disk :=
  rfl

@[simp] theorem record_past (event : Event κ) :
    (world.record event).past = ⟨event, world.disk, event.apply world.disk⟩ :: world.past :=
  rfl

@[simp] theorem disturb_disk (disk : Disk κ) : (world.disturb disk).disk = disk :=
  rfl

@[simp] theorem disturb_past (disk : Disk κ) :
    (world.disturb disk).past = ⟨.others, world.disk, disk⟩ :: world.past :=
  rfl

end World

namespace World

variable {κ : Type} {world : World κ}

theorem states_disturb (disk : Disk κ) : (world.disturb disk).states = disk :: world.states :=
  rfl

theorem mayPersist_disturb (disk : Disk κ) (ino : Ino) :
    (world.disturb disk).mayPersist ino = disk :: world.mayPersist ino :=
  rfl

theorem mayPersist_record (event : Event κ) (ino : Ino) :
    (world.record event).mayPersist ino =
      if event.syncs ino then [event.apply world.disk]
      else event.apply world.disk :: world.mayPersist ino := by
  cases h : event.syncs ino with
  | true => simp [mayPersist, h]
  | false => simp [mayPersist, h]

theorem mem_mayPersist_of_record {event : Event κ} {ino : Ino} {disk : Disk κ}
    (h : disk ∈ (world.record event).mayPersist ino) :
    disk = event.apply world.disk ∨ disk ∈ world.mayPersist ino := by
  rw [mayPersist_record] at h
  split at h
  · exact .inl (List.mem_singleton.1 h)
  · exact List.mem_cons.1 h

theorem mem_states_of_mem_mayPersist {ino : Ino} {disk : Disk κ}
    (h : disk ∈ world.mayPersist ino) : disk ∈ world.states := by
  rcases List.mem_cons.1 h with rfl | h
  · exact List.mem_cons_self
  · obtain ⟨step, hstep, rfl⟩ := List.mem_map.1 h
    exact List.mem_cons_of_mem _ (List.mem_map_of_mem ((List.takeWhile_prefix _).subset hstep))

end World

/-- The numbers in use. -/
def Disk.numbers {κ : Type} (disk : Disk κ) : List Ino :=
  disk.inodes.map Prod.fst ++ disk.entries.filterMap Prod.snd

theorem Disk.mem_numbers_of_inode {κ : Type} {disk : Disk κ} {ino : Ino}
    (h : disk.inode ino ≠ none) : ino ∈ disk.numbers := by
  obtain ⟨kind, hkind⟩ := Option.ne_none_iff_exists'.1 h
  obtain ⟨front, back, hinodes, -⟩ := List.lookup_eq_some_iff.1 hkind
  simp [numbers, hinodes]

theorem Disk.mem_numbers_of_entry {κ : Type} {disk : Disk κ} {dir ino : Ino} {name : String}
    (h : disk.entry dir name = some ino) : ino ∈ disk.numbers := by
  obtain ⟨front, back, hentries, -⟩ := List.lookup_eq_some_iff.1 (Option.join_eq_some_iff.1 h)
  simp [numbers, hentries]

/-- A system that numbers files upwards; the others rearrange entries. -/
def Os.upward {κ : Type} (others : World κ → List ((Ino × String) × Option Ino))
    (fails : World κ → Bool) : Os κ where
  others := fun world => { world.disk with entries := others world ++ world.disk.entries }
  others_keep := fun _ _ _ h => h
  fails := fails
  allocate := fun world => (world.states.flatMap Disk.numbers).sum + 1
  allocate_fresh := by
    intro world disk hdisk
    have hnot : ∀ ino ∈ disk.numbers, ino ≠ (world.states.flatMap Disk.numbers).sum + 1 := by
      intro ino hino heq
      have hle := List.le_sum_of_mem (List.mem_flatMap_of_mem hdisk hino)
      exact (Nat.lt_succ_of_le hle).ne heq
    refine ⟨?_, fun dir name hentry => hnot _ (Disk.mem_numbers_of_entry hentry) rfl⟩
    by_contra hinode
    exact hnot _ (Disk.mem_numbers_of_inode hinode) rfl

/-! ### Calls -/

section Calls

variable {κ φ ε β : Type}

/-- The others take their step, then the call is made. It fails if the system
says so or if the disk is not as it has to be; a call that fails changes
nothing. -/
def call (os : Os κ) (failure : φ) (operation : World κ → Except φ (β × Event κ)) :
    Attempt (World κ) ε (Except φ β) := fun world =>
  let world := world.disturb (os.others world)
  if os.fails world then (.ok (.error failure), world.record .idle)
  else
    match operation world with
    | .ok (b, event) => (.ok (.ok b), world.record event)
    | .error e => (.ok (.error e), world.record .idle)

theorem call_ends {os : Os κ} {failure : φ} {operation : World κ → Except φ (β × Event κ)}
    {world : World κ} {Q : Except φ β → World κ → Prop} {E : ε → World κ → Prop}
    (hfail : Q (.error failure) ((world.disturb (os.others world)).record .idle))
    (herror : ∀ e, operation (world.disturb (os.others world)) = .error e →
      Q (.error e) ((world.disturb (os.others world)).record .idle))
    (hok : ∀ b event, operation (world.disturb (os.others world)) = .ok (b, event) →
      Q (.ok b) ((world.disturb (os.others world)).record event)) :
    Attempt.Ends (call os failure operation) world Q E := by
  unfold Attempt.Ends call
  dsimp only
  by_cases hfails : os.fails (world.disturb (os.others world))
  · rw [if_pos hfails]
    exact hfail
  · rw [if_neg hfails]
    cases h : operation (world.disturb (os.others world)) with
    | error e => exact herror e h
    | ok result => exact hok _ _ h

end Calls

/-! ### Runs -/

/-- `world'` is reached from `world` by the steps `late`, newest first, where
the program's own steps are all `allowed`. -/
inductive Run {κ : Type} (os : Os κ) (allowed : Event κ → Prop) (world : World κ) :
    List (Step κ) → World κ → Prop
  | refl : Run os allowed world [] world
  | others {late : List (Step κ)} {world' : World κ} (h : Run os allowed world late world') :
      Run os allowed world (⟨.others, world'.disk, os.others world'⟩ :: late)
        (world'.disturb (os.others world'))
  | own {late : List (Step κ)} {world' : World κ} {event : Event κ}
      (h : Run os allowed world late world') (hallowed : allowed event) :
      Run os allowed world (⟨event, world'.disk, event.apply world'.disk⟩ :: late)
        (world'.record event)

namespace Run

variable {κ : Type} {os : Os κ} {allowed allowed' : Event κ → Prop}
  {world world' world'' : World κ} {late late' : List (Step κ)}

theorem trans (h : Run os allowed world late world') (h' : Run os allowed world' late' world'') :
    Run os allowed world (late' ++ late) world'' := by
  induction h' with
  | refl => exact h
  | others _ ih => exact ih.others
  | own _ hallowed ih => exact ih.own hallowed

theorem mono (h : Run os allowed world late world') (hsub : ∀ event, allowed event → allowed' event) :
    Run os allowed' world late world' := by
  induction h with
  | refl => exact .refl
  | others _ ih => exact ih.others
  | own _ hallowed ih => exact ih.own (hsub _ hallowed)

theorem past_eq (h : Run os allowed world late world') : world'.past = late ++ world.past := by
  induction h with
  | refl => rfl
  | others _ ih => rw [World.disturb_past, ih, List.cons_append]
  | own _ _ ih => rw [World.record_past, ih, List.cons_append]

theorem event_of_mem (h : Run os allowed world late world') {step : Step κ} (hstep : step ∈ late) :
    step.event = .others ∨ allowed step.event := by
  induction h with
  | refl => cases hstep
  | others _ ih =>
      rcases List.mem_cons.1 hstep with rfl | hstep
      · exact .inl rfl
      · exact ih hstep
  | own _ hallowed ih =>
      rcases List.mem_cons.1 hstep with rfl | hstep
      · exact .inr hallowed
      · exact ih hstep

/-- One call of the program, with the step of the others before it. -/
theorem call (h : Run os allowed world late world') (event : Event κ) (hallowed : allowed event) :
    Run os allowed world
      (⟨event, os.others world', event.apply (os.others world')⟩ ::
        ⟨.others, world'.disk, os.others world'⟩ :: late)
      ((world'.disturb (os.others world')).record event) :=
  h.others.own hallowed

/-- A file that is on the disk for good stays so while the program does not
write to it. -/
theorem mayPersist_file (h : Run os allowed world late world') {ino : Ino} {data : κ}
    (hallowed : ∀ event, allowed event → ∀ disk : Disk κ,
      (event.apply disk).inode ino = disk.inode ino)
    (hfile : ∀ disk ∈ world.mayPersist ino, disk.inode ino = some (.file data)) :
    ∀ disk ∈ world'.mayPersist ino, disk.inode ino = some (.file data) := by
  induction h with
  | refl => exact hfile
  | others _ ih =>
      intro disk hdisk
      rcases List.mem_cons.1 hdisk with rfl | hdisk
      · exact os.others_keep _ _ _ (ih _ List.mem_cons_self)
      · exact ih disk hdisk
  | own _ hevent ih =>
      intro disk hdisk
      rcases World.mem_mayPersist_of_record hdisk with rfl | hdisk
      · rw [hallowed _ hevent]
        exact ih _ List.mem_cons_self
      · exact ih disk hdisk

theorem mem_states (h : Run os allowed world late world') {disk : Disk κ}
    (hdisk : disk ∈ world.states) : disk ∈ world'.states := by
  induction h with
  | refl => exact hdisk
  | others _ ih => exact List.mem_cons_of_mem _ ih
  | own _ _ ih => exact List.mem_cons_of_mem _ ih

/-- After a synchronization in `late` only the states of `late` may persist. -/
theorem mem_mayPersist (h : Run os allowed world late world') {ino : Ino}
    (hsync : ∃ step ∈ late, step.event.syncs ino) {disk : Disk κ}
    (hdisk : disk ∈ world'.mayPersist ino) :
    disk = world'.disk ∨ ∃ step ∈ late, disk = step.before := by
  induction h generalizing disk with
  | refl =>
      obtain ⟨step, hstep, -⟩ := hsync
      cases hstep
  | @others late world' _ ih =>
      obtain ⟨step, hstep, hsyncs⟩ := hsync
      rcases List.mem_cons.1 hstep with rfl | hstep
      · cases hsyncs
      · rcases List.mem_cons.1 hdisk with rfl | hdisk
        · exact .inl rfl
        · rcases ih ⟨step, hstep, hsyncs⟩ hdisk with rfl | ⟨step', hstep', rfl⟩
          · exact .inr ⟨_, List.mem_cons_self, rfl⟩
          · exact .inr ⟨step', List.mem_cons_of_mem _ hstep', rfl⟩
  | @own late world' event _ hevent ih =>
      rw [World.mayPersist_record] at hdisk
      split at hdisk
      · exact .inl (List.mem_singleton.1 hdisk)
      · rename_i hnot
        obtain ⟨step, hstep, hsyncs⟩ := hsync
        rcases List.mem_cons.1 hstep with rfl | hstep
        · exact absurd hsyncs hnot
        · rcases List.mem_cons.1 hdisk with rfl | hdisk
          · exact .inl rfl
          · rcases ih ⟨step, hstep, hsyncs⟩ hdisk with rfl | ⟨step', hstep', rfl⟩
            · exact .inr ⟨_, List.mem_cons_self, rfl⟩
            · exact .inr ⟨step', List.mem_cons_of_mem _ hstep', rfl⟩

/-- What stands under a name stays if the others leave it, and so does every
step of the program that touches it. -/
theorem entry_eq (h : Run os allowed world late world') {dir : Ino} {name : String}
    (hkept : ∀ step ∈ late, step.event = .others ∨ step.event.touches dir name →
      step.after.entry dir name = step.before.entry dir name) :
    world'.disk.entry dir name = world.disk.entry dir name ∧
      ∀ step ∈ late, step.before.entry dir name = world.disk.entry dir name := by
  induction h with
  | refl => exact ⟨rfl, by simp⟩
  | @others late world' _ ih =>
      obtain ⟨hentry, hsteps⟩ := ih fun step hstep => hkept step (List.mem_cons_of_mem _ hstep)
      refine ⟨(hkept _ List.mem_cons_self (.inl rfl)).trans hentry, fun step hstep => ?_⟩
      rcases List.mem_cons.1 hstep with rfl | hstep
      · exact hentry
      · exact hsteps step hstep
  | @own late world' event _ hevent ih =>
      obtain ⟨hentry, hsteps⟩ := ih fun step hstep => hkept step (List.mem_cons_of_mem _ hstep)
      refine ⟨?_, fun step hstep => ?_⟩
      · by_cases htouches : event.touches dir name
        · exact (hkept _ List.mem_cons_self (.inr htouches)).trans hentry
        · exact (Event.entry_apply _ htouches).trans hentry
      · rcases List.mem_cons.1 hstep with rfl | hstep
        · exact hentry
        · exact hsteps step hstep

/-- A number that nobody else puts under a name the program does not touch
stays away from it. -/
theorem entry_ne (h : Run os allowed world late world') {dir ino : Ino} {name : String}
    (hallowed : ∀ event, allowed event → ¬event.touches dir name)
    (hothers : ∀ step ∈ late, step.event = .others → step.after.entry dir name = some ino →
      step.before.entry dir name = some ino)
    (hne : world.disk.entry dir name ≠ some ino) :
    world'.disk.entry dir name ≠ some ino ∧
      ∀ step ∈ late, step.before.entry dir name ≠ some ino := by
  induction h with
  | refl => exact ⟨hne, by simp⟩
  | @others late world' _ ih =>
      obtain ⟨hentry, hsteps⟩ := ih fun step hstep => hothers step (List.mem_cons_of_mem _ hstep)
      refine ⟨fun heq => hentry (hothers _ List.mem_cons_self rfl heq), fun step hstep => ?_⟩
      rcases List.mem_cons.1 hstep with rfl | hstep
      · exact hentry
      · exact hsteps step hstep
  | @own late world' event _ hevent ih =>
      obtain ⟨hentry, hsteps⟩ := ih fun step hstep => hothers step (List.mem_cons_of_mem _ hstep)
      refine ⟨?_, fun step hstep => ?_⟩
      · rw [World.record_disk, Event.entry_apply _ (hallowed _ hevent)]
        exact hentry
      · rcases List.mem_cons.1 hstep with rfl | hstep
        · exact hentry
        · exact hsteps step hstep

/-- What may persist after a run is a state of the run or may have persisted
before it. -/
theorem mem_mayPersist_or (h : Run os allowed world late world') {ino : Ino} {disk : Disk κ}
    (hdisk : disk ∈ world'.mayPersist ino) :
    disk = world'.disk ∨ (∃ step ∈ late, disk = step.before) ∨ disk ∈ world.mayPersist ino := by
  induction h generalizing disk with
  | refl => exact .inr (.inr hdisk)
  | @others late world' _ ih =>
      rcases List.mem_cons.1 hdisk with rfl | hdisk
      · exact .inl rfl
      · rcases ih hdisk with rfl | ⟨step, hstep, rfl⟩ | hbefore
        · exact .inr (.inl ⟨_, List.mem_cons_self, rfl⟩)
        · exact .inr (.inl ⟨step, List.mem_cons_of_mem _ hstep, rfl⟩)
        · exact .inr (.inr hbefore)
  | @own late world' event _ _ ih =>
      rcases World.mem_mayPersist_of_record hdisk with rfl | hdisk
      · exact .inl rfl
      · rcases ih hdisk with rfl | ⟨step, hstep, rfl⟩ | hbefore
        · exact .inr (.inl ⟨_, List.mem_cons_self, rfl⟩)
        · exact .inr (.inl ⟨step, List.mem_cons_of_mem _ hstep, rfl⟩)
        · exact .inr (.inr hbefore)

end Run

end Lamb.Lib.SharedDisk
