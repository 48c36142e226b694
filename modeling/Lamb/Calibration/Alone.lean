import Lamb.Calibration.Outcome

/-!
A save on a disk that nobody else writes to. The target is a file from the
first call to the last: the old one or the new one. A save that returns leaves
the new file there; one that fails and says so leaves the old one, with the
content it had.
-/

namespace Lamb.Calibration

open Lamb.Lib Lamb.Lib.SharedDisk

/-- Nobody else writes to the disk. -/
def Alone (host : Host) : Prop :=
  ∀ world, host.os.others world = world.disk

/-- A regular file stands under a name of the directory that a path leads to. -/
structure FileAt (host : Host) (parentPath : Path) (targetName : String) (disk : Disk FileData)
    (parent file : Ino) (data : FileData) : Prop where
  leads : LeadsTo host parentPath disk parent
  entry : disk.entry parent targetName = some file
  inode : disk.inode file = some (.file data)

/-! ### Calls -/

section Calls

variable {host : Host} {world world' : World FileData} {late : List (Step FileData)}

theorem run_disk_eq {allowed : Event FileData → Prop} (halone : Alone host)
    (h : Run host.os allowed world late world')
    (hallowed : ∀ event, allowed event → ∀ disk, event.apply disk = disk) :
    world'.disk = world.disk := by
  induction h with
  | refl => rfl
  | others _ ih => exact (halone _).trans ih
  | own _ hevent ih => exact (hallowed _ hevent _).trans ih

theorem run_othersKeep {allowed : Event FileData → Prop} {dir : Ino} {name : String}
    (halone : Alone host) (h : Run host.os allowed world late world') :
    OthersKeep dir name late := by
  induction h with
  | refl => exact nofun
  | others _ ih =>
      refine List.forall_mem_cons.2 ⟨fun _ => ?_, ih⟩
      rw [halone]
  | own _ _ ih =>
      refine List.forall_mem_cons.2 ⟨fun hothers => ?_, ih⟩
      dsimp only at hothers
      rw [hothers]
      rfl

/-- A file that was created in the last step stands under its name. -/
theorem entry_of_created {allowed : Event FileData → Prop} {step : Step FileData} {dir ino : Ino}
    {name : String} {data : FileData} (h : Run host.os allowed world (step :: late) world')
    (hcreated : step.event = .created dir name ino data) :
    world'.disk.entry dir name = some ino := by
  cases h with
  | others _ => cases hcreated
  | own _ _ =>
      dsimp only at hcreated
      rw [World.record_disk, hcreated, Event.apply, Disk.entry_setEntry, if_pos ⟨rfl, rfl⟩]

/-- Without others nobody replaces a new file. -/
theorem not_swapped {allowed : Event FileData → Prop} (halone : Alone host)
    (h : Run host.os allowed world late world') : ¬Swapped late := by
  rintro ⟨newer, swap, made, older, dir, name, ino, data, hlate, hmade, hothers, hentry⟩
  induction h generalizing newer with
  | refl => cases newer <;> cases hlate
  | others h ih =>
      cases newer with
      | cons step newer => exact ih newer (List.cons.inj hlate).2
      | nil =>
          obtain ⟨rfl, rfl⟩ := List.cons.inj hlate
          refine hentry ?_
          dsimp only
          rw [halone]
          exact entry_of_created h hmade
  | own h _ ih =>
      cases newer with
      | cons step newer => exact ih newer (List.cons.inj hlate).2
      | nil =>
          obtain ⟨rfl, rfl⟩ := List.cons.inj hlate
          dsimp only at hothers
          rw [hothers] at hentry
          exact hentry (entry_of_created h hmade)

theorem Looked.disk_eq (halone : Alone host) (h : Looked host world world') :
    world'.disk = world.disk := by
  obtain ⟨late, hrun⟩ := h
  exact run_disk_eq halone hrun fun _ hquiet => hquiet.apply_eq

theorem recorded_disk (halone : Alone host) (event : Event FileData) :
    ((world.disturb (host.os.others world)).record event).disk = event.apply world.disk := by
  rw [World.record_disk, World.disturb_disk, halone]

/-- A check that only looks decides how a save goes on. -/
theorem check_alone {β : Type} {check : Io Bool} {yes no : Io β} {P : Bool → World FileData → Prop}
    {Q : β → World FileData → Prop} {E : LambError → World FileData → Prop} (halone : Alone host)
    (hcheck : Attempt.Ends check world (fun same world' => Looked host world world' ∧ P same world')
      (fun _ _ => False))
    (hyes : ∀ world', world'.disk = world.disk → Attempt.Ends yes world' Q E)
    (hno : ∀ world', world'.disk = world.disk → Attempt.Ends no world' Q E) :
    Attempt.Ends (do if ← check then yes else no) world Q E := by
  refine .bind (hcheck.mono (fun _ _ h => h) fun _ _ h => h.elim) ?_
  rintro same world' ⟨hlooked, -⟩
  have hdisk := hlooked.disk_eq halone
  cases same with
  | false => exact hno world' hdisk
  | true => exact hyes world' hdisk

theorem openDirectoryAt_alone {dir next : Ino} {name : String} (halone : Alone host)
    (hchild : world.disk.child dir name = some next) :
    Attempt.Ends (openDirectoryAt host dir name) world
      (fun found world' => world'.disk = world.disk ∧ (found = .ok next ∨ found = .error .other))
      (fun _ _ => False) := by
  obtain ⟨hentry, hinode⟩ := Disk.child_eq_some_iff.1 hchild
  have hlookup : lookupAt (world.disturb (host.os.others world)).disk dir name =
      .ok (next, .directory) := by
    rw [World.disturb_disk, halone]
    simp only [lookupAt, hentry, hinode]
  unfold openDirectoryAt sys
  refine call_ends ⟨recorded_disk halone _, .inr rfl⟩ ?_ ?_
  · intro e h
    simp only [hlookup] at h
    cases h
  · intro found event h
    simp only [hlookup] at h
    cases h
    exact ⟨recorded_disk halone _, .inl rfl⟩

/-- A directory that is there is opened, and nothing is made on the way. -/
theorem openOrCreateFrom_alone {hook : DurabilityHook} {parts : List Component}
    {names : List String} {dir ino : Ino} (halone : Alone host)
    (hnames : plainNames parts = some names) (hwalk : world.disk.walk dir names = some ino) :
    Attempt.Ends (openOrCreateFrom host hook dir parts) world
      (fun found world' => found = ino ∧ world'.disk = world.disk)
      (fun _ world' => world'.disk = world.disk) := by
  induction parts generalizing dir names world with
  | nil =>
      cases hnames
      cases hwalk
      exact ⟨rfl, rfl⟩
  | cons part parts ih =>
      cases part with
      | normal name =>
          obtain ⟨rest, hrest, rfl⟩ := Option.map_eq_some_iff.1 hnames
          obtain ⟨next, hchild, hwalk⟩ := Option.bind_eq_some_iff.1 hwalk
          unfold openOrCreateFrom
          refine .bind ((openDirectoryAt_alone halone hchild).mono (fun _ _ h => h)
            fun _ _ h => h.elim) ?_
          rintro found world' ⟨hdisk, rfl | rfl⟩
          · have hnext : world'.disk.walk next rest = some ino := by
              rw [hdisk]
              exact hwalk
            refine (ih hrest hnext).mono ?_ ?_
            · exact fun _ _ h => ⟨h.1, h.2.trans hdisk⟩
            · exact fun _ _ h => h.trans hdisk
          · exact hdisk
      | parentDir => cases hnames
      | curDir => cases hnames

end Calls

/-! ### The disk during a save -/

/-- The disk of a save that started on `base` and works at `site`: what stands
at the target and under the temporary name, and the content of the new file.
Everything else is as it was. -/
structure During (site : Site) (base disk : Disk FileData) (atTarget : Ino) (atTemp : Option Ino)
    (data : FileData) : Prop where
  target : disk.entry site.parent site.targetName = some atTarget
  temp : disk.entry site.parent site.tempName = atTemp
  content : disk.inode site.file = some (.file data)
  entries : ∀ dir name, (dir = site.parent → name ≠ site.targetName ∧ name ≠ site.tempName) →
    disk.entry dir name = base.entry dir name
  inodes : ∀ ino, ino ≠ site.file → disk.inode ino = base.inode ino

/-- A save starts: its target is the file `old`, the temporary name is free, and
the number of its new file is unused. -/
structure Started (site : Site) (base : Disk FileData) (old : Ino) (data : FileData) : Prop where
  named : site.tempName ≠ site.targetName
  target : base.entry site.parent site.targetName = some old
  inode : base.inode old = some (.file data)
  free : base.entry site.parent site.tempName = none
  fresh : ∀ dir name, base.entry dir name ≠ some site.file

namespace During

variable {site : Site} {base disk : Disk FileData} {atTarget old : Ino} {atTemp : Option Ino}
  {data : FileData} {host : Host} {world world' : World FileData} {late : List (Step FileData)}

theorem create {old : Ino} {oldData : FileData} (h : Started site base old oldData)
    (data : FileData) :
    During site base
      ((Event.created site.parent site.tempName site.file data).apply base) old (some site.file)
      data where
  target := by
    rw [Event.apply, Disk.entry_setEntry, if_neg fun heq => h.named heq.2.symm,
      Disk.entry_setInode]
    exact h.target
  temp := by rw [Event.apply, Disk.entry_setEntry, if_pos ⟨rfl, rfl⟩]
  content := by rw [Event.apply, Disk.inode_setEntry, Disk.inode_setInode, if_pos rfl]
  entries := by
    intro dir name hne
    rw [Event.apply, Disk.entry_setEntry, if_neg fun heq => (hne heq.1).2 heq.2,
      Disk.entry_setInode]
  inodes := by
    intro ino hne
    rw [Event.apply, Disk.inode_setEntry, Disk.inode_setInode, if_neg hne]

theorem write (h : During site base disk atTarget atTemp data) (data' : FileData) :
    During site base ((Event.wrote site.file data').apply disk) atTarget atTemp data' where
  target := h.target
  temp := h.temp
  content := by rw [Event.apply, Disk.inode_setInode, if_pos rfl]
  entries := h.entries
  inodes := by
    intro ino hne
    rw [Event.apply, Disk.inode_setInode, if_neg hne]
    exact h.inodes ino hne

theorem unlink (h : During site base disk atTarget atTemp data)
    (hne : site.tempName ≠ site.targetName) :
    During site base ((Event.unlinked site.parent site.tempName).apply disk) atTarget none
      data where
  target := by
    rw [Event.apply, Disk.entry_setEntry, if_neg fun heq => hne heq.2.symm]
    exact h.target
  temp := by rw [Event.apply, Disk.entry_setEntry, if_pos ⟨rfl, rfl⟩]
  content := h.content
  entries := by
    intro dir name hother
    rw [Event.apply, Disk.entry_setEntry, if_neg fun heq => (hother heq.1).2 heq.2]
    exact h.entries dir name hother
  inodes := h.inodes

theorem exchange {ino : Ino} (h : During site base disk atTarget (some ino) data)
    (hne : site.tempName ≠ site.targetName) :
    During site base ((Event.exchanged site.parent site.tempName site.targetName).apply disk) ino
      (some atTarget) data where
  target := by
    rw [Event.apply, Disk.entry_setEntry, if_pos ⟨rfl, rfl⟩]
    exact h.temp
  temp := by
    rw [Event.apply, Disk.entry_setEntry, if_neg fun heq => hne heq.2, Disk.entry_setEntry,
      if_pos ⟨rfl, rfl⟩]
    exact h.target
  content := h.content
  entries := by
    intro dir name hother
    rw [Event.apply, Disk.entry_setEntry, if_neg fun heq => (hother heq.1).1 heq.2,
      Disk.entry_setEntry, if_neg fun heq => (hother heq.1).2 heq.2]
    exact h.entries dir name hother
  inodes := h.inodes

theorem of_disk_eq (h : During site base world.disk atTarget atTemp data)
    (hdisk : world'.disk = world.disk) : During site base world'.disk atTarget atTemp data := by
  rw [hdisk]
  exact h

/-- The new file is filled, whether that succeeds or not. -/
theorem fill (halone : Alone host) (h : During site base world.disk atTarget atTemp data)
    (hrun : Run host.os (Fills site.file) world late world') :
    ∃ data, During site base world'.disk atTarget atTemp data := by
  induction hrun with
  | refl => exact ⟨data, h⟩
  | others _ ih =>
      obtain ⟨data, h⟩ := ih
      exact ⟨data, h.of_disk_eq (halone _)⟩
  | own _ hfills ih =>
      obtain ⟨data, h⟩ := ih
      rcases hfills with hquiet | rfl | ⟨data', rfl⟩
      · exact ⟨data, h.of_disk_eq (hquiet.apply_eq _)⟩
      · exact ⟨data, h⟩
      · exact ⟨data', h.write data'⟩

/-- No directory goes or comes: every path leads where it led. -/
theorem child_eq {oldData : FileData} (hstart : Started site base old oldData)
    (h : During site base disk atTarget atTemp data)
    (htarget : atTarget = old ∨ atTarget = site.file)
    (htemp : ∀ ino, atTemp = some ino → ino = old ∨ ino = site.file) (dir : Ino) (name : String) :
    disk.child dir name = base.child dir name := by
  have hold : old ≠ site.file := by
    intro heq
    exact hstart.fresh _ _ (heq ▸ hstart.target)
  -- neither file is a directory, before or after
  have hfile : ∀ ino, ino = old ∨ ino = site.file → disk.inode ino ≠ some .directory := by
    rintro ino (rfl | rfl)
    · rw [h.inodes ino hold, hstart.inode]
      nofun
    · rw [h.content]
      nofun
  refine Option.ext fun ino => ?_
  rw [Disk.child_eq_some_iff, Disk.child_eq_some_iff]
  by_cases hother : dir = site.parent → name ≠ site.targetName ∧ name ≠ site.tempName
  · rw [h.entries dir name hother]
    refine and_congr_right fun hentry => ?_
    rw [h.inodes ino fun heq => hstart.fresh dir name (heq ▸ hentry)]
  · obtain ⟨rfl, hname⟩ := Classical.not_imp.1 hother
    rw [not_and_or, not_ne_iff, not_ne_iff] at hname
    rcases hname with rfl | rfl
    · rw [h.target, hstart.target]
      constructor
      · rintro ⟨hentry, hinode⟩
        cases hentry
        exact absurd hinode (hfile _ htarget)
      · rintro ⟨hentry, hinode⟩
        cases hentry
        rw [hstart.inode] at hinode
        cases hinode
    · rw [h.temp, hstart.free]
      constructor
      · rintro ⟨hentry, hinode⟩
        exact absurd hinode (hfile _ (htemp ino hentry))
      · rintro ⟨hentry, -⟩
        cases hentry

end During

/-! ### The save -/

section Save

variable {host : Host} {site : Site} {base : Disk FileData} {old atTarget expected : Ino}
  {atTemp : Option Ino} {data oldData : FileData} {world : World FileData} {parentPath : Path}
  {hook : DurabilityHook} {text : String} {operation : LambError}

/-- Under the temporary name is nothing, or one of the two files. -/
def Spare (site : Site) (old : Ino) (atTemp : Option Ino) : Prop :=
  ∀ ino, atTemp = some ino → ino = old ∨ ino = site.file

/-- A save that returned left the new file at the target. -/
def Placed (site : Site) (base : Disk FileData) (old : Ino) (text : String)
    (disk : Disk FileData) : Prop :=
  ∃ atTemp data, During site base disk site.file atTemp data ∧ Spare site old atTemp ∧
    data.text = text

/-- A save that failed left the old file at the target, or it is unsure. -/
def Left (site : Site) (base : Disk FileData) (old : Ino) (e : LambError)
    (disk : Disk FileData) : Prop :=
  ∃ atTarget atTemp data, During site base disk atTarget atTemp data ∧ Spare site old atTemp ∧
    (atTarget = old ∨ atTarget = site.file ∧ Unsure e)

/-- What stands under the temporary name is removed, whether or not that
succeeds. -/
theorem removeTemp_alone (halone : Alone host) (hne : site.tempName ≠ site.targetName)
    (h : During site base world.disk atTarget atTemp data) (hspare : Spare site old atTemp) :
    Attempt.Ends (removeIfIdentityAt host site.parent site.tempName expected) world
      (fun _ world' => ∃ atTemp, During site base world'.disk atTarget atTemp data ∧
        Spare site old atTemp)
      (fun _ world' => ∃ atTemp, During site base world'.disk atTarget atTemp data ∧
        Spare site old atTemp) := by
  refine removeIfIdentityAt_ends.mono ?_ ?_
  · rintro _ _ ⟨seen, late, hrun, -, rfl⟩
    have hdisk := Looked.disk_eq halone ⟨late, hrun⟩
    refine ⟨none, ?_, nofun⟩
    rw [recorded_disk halone]
    exact (h.of_disk_eq hdisk).unlink hne
  · intro _ world' hlooked
    exact ⟨atTemp, h.of_disk_eq (hlooked.disk_eq halone), hspare⟩

theorem cleanupOwnedErrorAt_alone {Q : Unit → World FileData → Prop} (halone : Alone host)
    (hne : site.tempName ≠ site.targetName) (h : During site base world.disk old atTemp data)
    (hspare : Spare site old atTemp) :
    Attempt.Ends (cleanupOwnedErrorAt host operation site.parent site.tempName expected) world Q
      (fun e world' => Left site base old e world'.disk) := by
  unfold cleanupOwnedErrorAt
  refine .bind (Q := fun _ world' => ∃ atTemp, During site base world'.disk old atTemp data ∧
    Spare site old atTemp) (.capture (removeTemp_alone halone hne h hspare)) ?_
  rintro result world' ⟨atTemp, h, hspare⟩
  cases result with
  | ok _ => exact ⟨old, atTemp, data, h, hspare, .inl rfl⟩
  | error cleanup => exact ⟨old, atTemp, data, h, hspare, .inl rfl⟩

theorem left_of_unsure {Q : Unit → World FileData → Prop}
    (h : During site base world.disk site.file atTemp data) (hspare : Spare site old atTemp) :
    Attempt.Ends (Attempt.fail (.indeterminatePublication operation) : Io Unit) world Q
      (fun e world' => Left site base old e world'.disk) :=
  ⟨site.file, atTemp, data, h, hspare, .inr ⟨rfl, rfl⟩⟩

theorem left_of_old {Q : Unit → World FileData → Prop}
    (h : During site base world.disk old atTemp data) (hspare : Spare site old atTemp) :
    Attempt.Ends (Attempt.fail operation : Io Unit) world Q
      (fun e world' => Left site base old e world'.disk) :=
  ⟨old, atTemp, data, h, hspare, .inl rfl⟩

theorem parentPathMatches_alone {expected : Ino} :
    Attempt.Ends (parentPathMatches host parentPath expected) world
      (fun _ world' => Looked host world world' ∧ True) (fun _ _ => False) :=
  parentPathMatches_looks.mono (fun _ _ h => ⟨h.1, trivial⟩) fun _ _ h => h

/-- The names are exchanged back, or the save is unsure. -/
theorem undoExchange_alone {Q : Unit → World FileData → Prop} {newIdentity previous : Ino}
    (halone : Alone host) (hne : site.tempName ≠ site.targetName)
    (h : During site base world.disk site.file (some old) data) :
    Attempt.Ends
      (undoExchange host parentPath site.parent site.targetName site.tempName newIdentity previous
        operation) world Q (fun e world' => Left site base old e world'.disk) := by
  have hold : Spare site old (some old) := by
    rintro ino ⟨⟩
    exact .inl rfl
  have hnew : Spare site old (some site.file) := by
    rintro ino ⟨⟩
    exact .inr rfl
  unfold undoExchange
  refine check_alone halone parentPathMatches_alone (fun _ hdisk => ?_) fun _ hdisk =>
    left_of_unsure (h.of_disk_eq hdisk) hold
  have h := h.of_disk_eq hdisk
  refine check_alone halone identifies_ends (fun _ hdisk => ?_) fun _ hdisk =>
    left_of_unsure (h.of_disk_eq hdisk) hold
  have h := h.of_disk_eq hdisk
  refine check_alone halone identifies_ends (fun _ hdisk => ?_) fun _ hdisk =>
    left_of_unsure (h.of_disk_eq hdisk) hold
  have h := h.of_disk_eq hdisk
  refine .bind (renameat2_called.mono (fun _ _ h => h) fun _ _ h => h.elim) ?_
  intro result now hresult
  cases result with
  | error kind => exact left_of_unsure (h.of_disk_eq (Looked.disk_eq halone hresult)) hold
  | ok _ =>
  -- from here on the old file is at the target
  have h : During site base now.disk old (some site.file) data := by
    rw [show now = _ from hresult, recorded_disk halone]
    exact h.exchange hne
  refine check_alone halone identifies_ends (fun _ hdisk => ?_) fun _ hdisk =>
    left_of_old (h.of_disk_eq hdisk) hnew
  have h := h.of_disk_eq hdisk
  refine check_alone halone identifies_ends (fun _ hdisk => ?_) fun _ hdisk =>
    left_of_old (h.of_disk_eq hdisk) hnew
  have h := h.of_disk_eq hdisk
  refine .bind (syncAll_called.mono (fun _ _ h => h) fun _ _ h => h.elim) ?_
  intro result now hresult
  cases result with
  | error kind => exact left_of_old (h.of_disk_eq (Looked.disk_eq halone hresult)) hnew
  | ok _ =>
  have h : During site base now.disk old (some site.file) data := by
    rw [show now = _ from hresult, recorded_disk halone]
    exact h
  refine .bind (Q := fun _ world' => ∃ atTemp, During site base world'.disk old atTemp data ∧
    Spare site old atTemp) (.capture ?_) ?_
  · refine .bind (removeTemp_alone halone hne h hnew) ?_
    rintro _ removed ⟨atTemp, h, hspare⟩
    refine (orFail_called syncAll_called).mono ?_ ?_
    · rintro _ _ rfl
      rw [recorded_disk halone]
      exact ⟨atTemp, h, hspare⟩
    · exact fun _ _ hlooked => ⟨atTemp, h.of_disk_eq (hlooked.disk_eq halone), hspare⟩
  · rintro result now ⟨atTemp, h, hspare⟩
    cases result with
    | ok _ => exact left_of_old h hspare
    | error cleanup => exact left_of_old h hspare

theorem publication_alone {parent : Ino} (halone : Alone host) :
    Attempt.Ends (publication host hook parentPath parent).capture world
      (fun _ world' => world'.disk = world.disk) (fun _ _ => False) := by
  refine captured_publication_ends.mono ?_ fun _ _ h => h
  rintro _ world' ⟨newer, hrun, -⟩
  refine run_disk_eq halone hrun ?_
  rintro event (hquiet | rfl) disk
  · exact hquiet.apply_eq disk
  · rfl

theorem installOver_alone {newIdentity : Ino} {previous : ConfigTarget} (halone : Alone host)
    (hne : site.tempName ≠ site.targetName)
    (h : During site base world.disk old (some site.file) data) (htext : data.text = text) :
    Attempt.Ends
      (installOver host hook parentPath site.parent site.targetName site.tempName newIdentity
        previous) world
      (fun _ world' => Placed site base old text world'.disk)
      (fun e world' => Left site base old e world'.disk) := by
  have hold : Spare site old (some old) := by
    rintro ino ⟨⟩
    exact .inl rfl
  have hnew : Spare site old (some site.file) := by
    rintro ino ⟨⟩
    exact .inr rfl
  unfold installOver
  refine .bind (captured_rename_ends.mono (fun _ _ h => h) fun _ _ h => h.elim) ?_
  intro result now hresult
  cases result with
  | error operation =>
      exact cleanupOwnedErrorAt_alone halone hne (h.of_disk_eq (Looked.disk_eq halone hresult)) hnew
  | ok _ =>
  -- from here on the new file is at the target
  have h : During site base now.disk site.file (some old) data := by
    rw [show now = _ from hresult, recorded_disk halone]
    exact h.exchange hne
  refine .bind (identifies_ends.mono (fun _ _ h => h) fun _ _ h => h.elim) ?_
  rintro isNew now₁ ⟨hlooked, -⟩
  have h := h.of_disk_eq (hlooked.disk_eq halone)
  refine .bind (identifies_ends.mono (fun _ _ h => h) fun _ _ h => h.elim) ?_
  rintro isOld now₂ ⟨hlooked, -⟩
  have h := h.of_disk_eq (hlooked.disk_eq halone)
  refine .ite (fun _ => left_of_unsure h hold) fun _ => ?_
  refine .bind ((publication_alone halone).mono (fun _ _ h => h) fun _ _ h => h.elim) ?_
  intro result now₃ hdisk
  have h := h.of_disk_eq hdisk
  cases result with
  | error operation => exact undoExchange_alone halone hne h
  | ok _ =>
  refine .bind (Q := fun _ world' => ∃ atTemp, During site base world'.disk site.file atTemp data ∧
    Spare site old atTemp) (.capture (removeTemp_alone halone hne h hold)) ?_
  rintro result now₄ ⟨atTemp, h, hspare⟩
  cases result with
  | error e => exact ⟨atTemp, data, h, hspare, htext⟩
  | ok _ =>
      refine .bind (syncAll_called.mono (fun _ _ h => h) fun _ _ h => h.elim) ?_
      intro result now₅ hresult
      refine ⟨atTemp, data, h.of_disk_eq ?_, hspare, htext⟩
      cases result with
      | error kind => exact Looked.disk_eq halone hresult
      | ok _ =>
          rw [show now₅ = _ from hresult, recorded_disk halone]
          rfl

theorem install_alone {previous : ConfigTarget} (halone : Alone host)
    (hne : site.tempName ≠ site.targetName)
    (h : During site base world.disk old (some site.file) data) (htext : data.text = "") :
    Attempt.Ends
      (install host hook text parentPath site.parent site.targetName site.tempName site.file
        site.newIdentity (some previous)) world
      (fun _ world' => Placed site base old text world'.disk)
      (fun e world' => Left site base old e world'.disk) := by
  have hnew : Spare site old (some site.file) := by
    rintro ino ⟨⟩
    exact .inr rfl
  unfold install
  refine .bind (Q := fun result world' => ∃ data,
      During site base world'.disk old (some site.file) data ∧
      (result = .ok () → data.text = text))
    (.capture ((prepare_ends h.content htext).mono ?_ ?_)) ?_
  · rintro _ now ⟨late, written, hrun, hwritten, hdurable⟩
    obtain ⟨data, h⟩ := h.fill halone hrun
    have hsame := hdurable now.disk List.mem_cons_self
    rw [h.content] at hsame
    cases hsame
    exact ⟨_, h, fun _ => hwritten⟩
  · rintro _ now ⟨late, hrun⟩
    obtain ⟨data, h⟩ := h.fill halone hrun
    exact ⟨data, h, nofun⟩
  rintro result now ⟨data, h, htext⟩
  cases result with
  | error operation => exact cleanupOwnedErrorAt_alone halone hne h hnew
  | ok _ =>
  refine check_alone halone parentPathMatches_alone (fun _ hdisk => ?_) fun _ hdisk =>
    cleanupOwnedErrorAt_alone halone hne (h.of_disk_eq hdisk) hnew
  have h := h.of_disk_eq hdisk
  refine check_alone (P := fun _ _ => True) halone
    (targetMatchesAt_looks.mono (fun _ _ h => ⟨h, trivial⟩) fun _ _ h => h)
    (fun _ hdisk => ?_) fun _ hdisk =>
      cleanupOwnedErrorAt_alone halone hne (h.of_disk_eq hdisk) hnew
  exact installOver_alone halone hne (h.of_disk_eq hdisk) (htext rfl)

/-- The file at the target during a save. -/
theorem During.fileAt (hstart : Started site base old oldData)
    (hat : FileAt host parentPath site.targetName base site.parent old oldData)
    {disk : Disk FileData} (h : During site base disk atTarget atTemp data)
    (hspare : Spare site old atTemp) :
    (atTarget = old → FileAt host parentPath site.targetName disk site.parent old oldData) ∧
      (atTarget = site.file →
        FileAt host parentPath site.targetName disk site.parent site.file data) := by
  have hleads : atTarget = old ∨ atTarget = site.file →
      LeadsTo host parentPath disk site.parent := by
    intro htarget
    obtain ⟨names, hnames, hwalk⟩ := hat.leads
    refine ⟨names, hnames, ?_⟩
    rw [Disk.walk_congr (h.child_eq hstart htarget hspare)]
    exact hwalk
  refine ⟨fun heq => ⟨hleads (.inl heq), heq ▸ h.target, ?_⟩, fun heq =>
    ⟨hleads (.inr heq), heq ▸ h.target, h.content⟩⟩
  rw [h.inodes old fun hfile => hstart.fresh _ _ (hfile ▸ hstart.target)]
  exact hstart.inode

/-- No crash takes the file with that text away from the name. -/
def Durable (world : World FileData) (parent : Ino) (targetName text : String) : Prop :=
  ∃ file data, data.text = text ∧
    (∀ disk ∈ world.mayPersist parent, disk.entry parent targetName = some file) ∧
    ∀ disk ∈ world.mayPersist file, disk.inode file = some (.file data)

/-- A save that returned is durable. -/
theorem replaceTarget_durable {parent : Ino} {targetName : String}
    {nameSource : World FileData → Result ℕ} (halone : Alone host) :
    Attempt.Ends (replaceTarget host hook text parentPath parent targetName nameSource) world
      (fun _ world' => Durable world' parent targetName text) (fun _ _ => True) := by
  refine replaceTarget_ends.mono ?_ fun _ _ _ => trivial
  rintro _ now ⟨allowed, late, hrun, -, hcase⟩
  obtain ⟨file, data, earlier, newer, verified, hverified, hnow, -, -, -, hentry, htext, hinode⟩ :=
    hcase.resolve_left (not_swapped halone hrun)
  refine ⟨file, data, htext, hentry ?_, hinode⟩
  have hlate : newer ++ earlier = late := by
    have hpast := hrun.past_eq
    rw [hnow, hverified, ← List.append_assoc] at hpast
    exact List.append_cancel_right hpast
  have hkeep : OthersKeep parent targetName (newer ++ earlier) := by
    rw [hlate]
    exact run_othersKeep halone hrun
  exact hkeep.of_append.1

/-- A save that failed left a file at the target, and the one that was there if
it is sure. -/
def Unpublished (host : Host) (parentPath : Path) (targetName : String) (parent old : Ino)
    (oldData : FileData) (e : LambError) (disk : Disk FileData) : Prop :=
  ∃ file data, FileAt host parentPath targetName disk parent file data ∧
    (Unsure e ∨ file = old ∧ data = oldData)

theorem replaceTarget_alone {parent : Ino} {targetName : String}
    {nameSource : World FileData → Result ℕ} (halone : Alone host)
    (hat : FileAt host parentPath targetName world.disk parent old oldData) :
    Attempt.Ends (replaceTarget host hook text parentPath parent targetName nameSource) world
      (fun _ world' => ∃ file data,
        FileAt host parentPath targetName world'.disk parent file data ∧ data.text = text)
      (fun e world' => Unpublished host parentPath targetName parent old oldData e world'.disk) := by
  have hunchanged : ∀ {e : LambError} {world' : World FileData}, world'.disk = world.disk →
      Unpublished host parentPath targetName parent old oldData e world'.disk := by
    intro e world' hdisk
    rw [hdisk]
    exact ⟨old, oldData, hat, .inr ⟨rfl, rfl⟩⟩
  unfold replaceTarget
  refine .bind (captureConfigTargetAt_ends.mono (fun _ _ h => h) fun _ _ h =>
    hunchanged (h.disk_eq halone)) ?_
  rintro previous captured ⟨_, hsaw, -, hprevious⟩
  have hcaptured := hsaw.looked.disk_eq halone
  -- the target is there, so that it is replaced and not only moved to
  rw [hcaptured, hat.entry] at hprevious
  obtain ⟨previous, rfl, -⟩ := Option.map_eq_some_iff.1 hprevious.symm
  refine .bind (createUniqueAdjacentAt_ends.mono (fun _ _ h => h) fun _ _ h =>
    hunchanged ((h.disk_eq halone).trans hcaptured)) ?_
  rintro ⟨tempName, file⟩ _ ⟨searching, free, sequence, hsearch, hname, hfree, hfile, rfl⟩
  have hdisk : free.disk = world.disk := (Looked.disk_eq halone ⟨_, hsearch⟩).trans hcaptured
  dsimp only at hname hfree hfile ⊢
  rw [halone, hdisk] at hfree
  have hstart : ∀ newIdentity,
      Started ⟨parent, targetName, tempName, file, newIdentity, some previous⟩ world.disk old
        oldData := by
    refine fun newIdentity => ⟨?_, hat.entry, hat.inode, hfree, fun dir name => ?_⟩
    · rw [hname]
      exact adjacentName_ne _ _ _
    · rw [hfile]
      refine (host.os.allocate_fresh _ world.disk ?_).2 dir name
      rw [World.states_disturb, halone, hdisk]
      exact List.mem_cons_self
  have hcreated : ∀ newIdentity now, Looked host
      ((free.disturb (host.os.others free)).record
        (.created parent tempName file ⟨"", 0o600, host.uid, host.gid⟩)) now →
      During ⟨parent, targetName, tempName, file, newIdentity, some previous⟩ world.disk now.disk
        old (some file) ⟨"", 0o600, host.uid, host.gid⟩ := by
    intro newIdentity now hlooked
    rw [hlooked.disk_eq halone, recorded_disk halone, hdisk]
    exact During.create (hstart newIdentity) _
  have hnew : ∀ newIdentity,
      Spare ⟨parent, targetName, tempName, file, newIdentity, some previous⟩ old (some file) := by
    rintro newIdentity ino ⟨⟩
    exact .inr rfl
  refine .bind (fileIdentityAt_ends.mono (fun _ _ h => h) ?_) ?_
  · intro e now hlooked
    have hat' := ((hcreated file now hlooked).fileAt (hstart file) hat (hnew file)).1 rfl
    exact ⟨old, oldData, hat', .inr ⟨rfl, rfl⟩⟩
  rintro newIdentity now ⟨_, hsaw, -⟩
  refine (install_alone halone (hstart newIdentity).named
    (hcreated newIdentity now hsaw.looked) rfl).mono ?_ ?_
  · rintro _ now' ⟨atTemp, data, h, hspare, htext⟩
    exact ⟨file, data, (h.fileAt (hstart newIdentity) hat hspare).2 rfl, htext⟩
  · rintro e now' ⟨atTarget, atTemp, data, h, hspare, htarget⟩
    have hfile := h.fileAt (hstart newIdentity) hat hspare
    rcases htarget with rfl | ⟨rfl, hunsure⟩
    · exact ⟨atTarget, oldData, hfile.1 rfl, .inr ⟨rfl, rfl⟩⟩
    · exact ⟨_, data, hfile.2 rfl, .inl hunsure⟩

/-- A save of a file that is there, on a disk that nobody else writes to: it
leaves a file that reads as the candidate, or the one that was there unless it
is unsure. -/
theorem saveConfigAtomic_alone {α : Type} [DecidableEq α] (format : ConfigFormat α) {path : Path}
    {parent : Ino} {targetName : String} (candidate : α) (hook : DurabilityHook)
    (nameSource : World FileData → Result ℕ) (halone : Alone host)
    (hparent : path.parent = some parentPath) (hname : path.fileName = some targetName)
    (hat : FileAt host parentPath targetName world.disk parent old oldData) :
    Attempt.Ends
      (saveConfigAtomicWithHookAndNameSource host format path candidate hook nameSource) world
      (fun _ world' => ∃ text, format.fromStr text = .ok candidate ∧
        (∃ file data, FileAt host parentPath targetName world'.disk parent file data ∧
          data.text = text) ∧
        Durable world' parent targetName text)
      (fun e world' => Unpublished host parentPath targetName parent old oldData e world'.disk) := by
  have hunchanged : ∀ {e : LambError} {world' : World FileData}, world'.disk = world.disk →
      Unpublished host parentPath targetName parent old oldData e world'.disk := by
    intro e world' hdisk
    rw [hdisk]
    exact ⟨old, oldData, hat, .inr ⟨rfl, rfl⟩⟩
  unfold saveConfigAtomicWithHookAndNameSource
  refine .bindOfExcept (fun _ _ => hunchanged rfl) fun text htext => ?_
  rw [hparent, hname]
  obtain ⟨names, hnames, hwalk⟩ := hat.leads
  refine .bind ((openOrCreateFrom_alone halone hnames hwalk).mono (fun _ _ h => h) fun _ _ h =>
    hunchanged h) ?_
  rintro found opened ⟨rfl, hdisk⟩
  refine .bind (Q := fun ino world' => ino = found ∧ world'.disk = world.disk) ?_ ?_
  · unfold orFail fstat sys
    refine .bind (Q := fun result world' => world'.disk = world.disk ∧
      ∀ ino, result = .ok ino → ino = found) (call_ends ?_ ?_ ?_) ?_
    · exact ⟨(recorded_disk halone _).trans hdisk, nofun⟩
    · exact fun _ _ => ⟨(recorded_disk halone _).trans hdisk, nofun⟩
    · rintro _ _ ⟨⟩
      refine ⟨(recorded_disk halone _).trans hdisk, ?_⟩
      rintro _ ⟨⟩
      rfl
    · rintro result world' ⟨hdisk, hino⟩
      cases result with
      | ok ino => exact ⟨hino ino rfl, hdisk⟩
      | error kind => exact hunchanged hdisk
  rintro _ world' ⟨rfl, hdisk⟩
  rw [← hdisk] at hat
  refine ((replaceTarget_alone halone hat).and (replaceTarget_durable halone)).mono ?_
    fun _ _ h => h.1
  rintro _ now ⟨hfile, hdurable⟩
  exact ⟨text, fromStr_of_serialized htext, hfile, hdurable⟩

end Save

end Lamb.Calibration
