import Lamb.Calibration.Save

/-!
What a save leaves behind. The steps of the program are followed through the
calls: a call that only looks leaves the disk to the others, and each of the
few calls that change a name comes with what was seen under the name before.
-/

namespace Lamb.Calibration

open Lamb.Lib Lamb.Lib.SharedDisk

/-! ### Calls that only look -/

section Quiet

variable {host : Host} {world world' world'' : World FileData} {parent ino : Ino} {name : String}

/-- Nothing but looking happened, apart from the others. -/
def Looked (host : Host) (world world' : World FileData) : Prop :=
  ∃ late, Run host.os Event.Quiet world late world'

theorem Looked.refl : Looked host world world :=
  ⟨[], .refl⟩

theorem Looked.trans (h : Looked host world world') (h' : Looked host world' world'') :
    Looked host world world'' := by
  obtain ⟨late, hrun⟩ := h
  obtain ⟨late', hrun'⟩ := h'
  exact ⟨late' ++ late, hrun.trans hrun'⟩

theorem Looked.call {event : Event FileData} (hquiet : event.Quiet) :
    Looked host world ((world.disturb (host.os.others world)).record event) :=
  ⟨_, Run.refl.call _ hquiet⟩

theorem runHook_looks {hook : DurabilityHook} {checkpoint : DurabilityCheckpoint} :
    Attempt.Ends (runHook host hook checkpoint) world (fun _ => Looked host world)
      (fun _ => Looked host world) := by
  have hlooked : Looked host world (world.disturb (host.os.others world)) := ⟨_, .others .refl⟩
  unfold Attempt.Ends runHook
  dsimp only
  cases hook checkpoint (world.disturb (host.os.others world)) with
  | ok _ => exact hlooked
  | error e => exact hlooked

/-- What was found under a name is what stands there. -/
theorem lookupAt_eq_ok {disk : Disk FileData} {kind : Kind FileData}
    (h : lookupAt disk parent name = .ok (ino, kind)) :
    disk.entry parent name = some ino ∧ disk.inode ino = some kind := by
  unfold lookupAt at h
  split at h
  · cases h
  · rename_i ino' hentry
    split at h
    · rename_i kind' hinode
      cases h
      exact ⟨hentry, hinode⟩
    · cases h

theorem lookupAt_eq_notFound {disk : Disk FileData}
    (h : lookupAt disk parent name = .error .notFound) : disk.entry parent name = none := by
  unfold lookupAt at h
  split at h
  · assumption
  · split at h
    · cases h
    · cases h

/-- One call that only looked, and what it looked at. -/
def Saw (host : Host) (event : Event FileData) (world world' : World FileData) : Prop :=
  event.Quiet ∧ world' = (world.disturb (host.os.others world)).record event

theorem Saw.run {event : Event FileData} (h : Saw host event world world') :
    Run host.os Event.Quiet world
      [⟨event, host.os.others world, event.apply (host.os.others world)⟩,
        ⟨.others, world.disk, host.os.others world⟩] world' := by
  obtain ⟨hquiet, rfl⟩ := h
  exact Run.refl.call event hquiet

theorem Saw.looked {event : Event FileData} (h : Saw host event world world') :
    Looked host world world' :=
  ⟨_, h.run⟩

theorem fstatat_ends : Attempt.Ends (fstatat host parent name) world
    (fun found world' => ∃ event, Saw host event world world' ∧
      (∀ ino kind, found = .ok (ino, kind) → event = .found parent name (some ino) ∧
        world'.disk.entry parent name = some ino) ∧
      (found = .error .notFound → world'.disk.entry parent name = none))
    (fun _ _ => False) := by
  unfold fstatat sys
  refine call_ends ⟨.idle, ⟨trivial, rfl⟩, nofun, nofun⟩ ?_ ?_
  · intro e he
    refine ⟨.idle, ⟨trivial, rfl⟩, nofun, ?_⟩
    rintro ⟨⟩
    rw [World.record_disk]
    cases hfound : lookupAt (world.disturb (host.os.others world)).disk parent name with
    | error kind =>
        rw [hfound] at he
        cases he
        exact lookupAt_eq_notFound hfound
    | ok found =>
        rw [hfound] at he
        cases he
  · intro found event hevent
    cases hfound : lookupAt (world.disturb (host.os.others world)).disk parent name with
    | error kind =>
        rw [hfound] at hevent
        cases hevent
    | ok found =>
        rw [hfound] at hevent
        cases hevent
        refine ⟨.found parent name (some found.1), ⟨trivial, rfl⟩, ?_, nofun⟩
        rintro ino kind ⟨⟩
        exact ⟨rfl, (lookupAt_eq_ok hfound).1⟩

theorem metadataAt_ends : Attempt.Ends (metadataAt host parent name) world
    (fun metadata world' => ∃ event, Saw host event world world' ∧
      (∀ ino kind, metadata = some (ino, kind) → event = .found parent name (some ino)) ∧
      world'.disk.entry parent name = metadata.map Prod.fst)
    (fun _ => Looked host world) := by
  unfold metadataAt
  refine .bind (fstatat_ends.mono (fun _ _ h => h) fun _ _ h => h.elim) ?_
  rintro found world' ⟨event, hsaw, hok, hmissing⟩
  cases found with
  | ok metadata =>
      refine ⟨event, hsaw, ?_, (hok _ _ rfl).2⟩
      rintro ino kind ⟨⟩
      exact (hok ino kind rfl).1
  | error kind =>
      cases kind with
      | notFound => exact ⟨event, hsaw, nofun, hmissing rfl⟩
      | alreadyExists => exact hsaw.looked
      | invalidData => exact hsaw.looked
      | other => exact hsaw.looked

theorem captureConfigTargetAt_ends : Attempt.Ends (captureConfigTargetAt host parent name) world
    (fun target world' => ∃ event, Saw host event world world' ∧
      (∀ previous, target = some previous →
        event = .found parent name (some previous.identity)) ∧
      world'.disk.entry parent name = target.map ConfigTarget.identity)
    (fun _ => Looked host world) := by
  unfold captureConfigTargetAt
  refine .bind metadataAt_ends ?_
  rintro metadata world' ⟨event, hsaw, hevent, hentry⟩
  cases metadata with
  | none => exact ⟨event, hsaw, nofun, hentry⟩
  | some metadata =>
      obtain ⟨ino, kind⟩ := metadata
      cases kind with
      | file data =>
          refine ⟨event, hsaw, ?_, hentry⟩
          rintro previous ⟨⟩
          exact hevent ino _ rfl
      | directory => exact hsaw.looked
      | special => exact hsaw.looked

theorem targetMatchesAt_looks {expected : Option ConfigTarget} :
    Attempt.Ends (targetMatchesAt host parent name expected) world (fun _ => Looked host world)
      (fun _ _ => False) := by
  unfold targetMatchesAt
  refine .bind (.capture (captureConfigTargetAt_ends.mono (fun _ world' h => ?_) fun _ _ h => h))
    fun _ _ h => h
  obtain ⟨event, hsaw, -, -⟩ := h
  exact hsaw.looked

theorem fileIdentityAt_ends : Attempt.Ends (fileIdentityAt host parent name) world
    (fun ino world' => ∃ event, Saw host event world world' ∧
      world'.disk.entry parent name = some ino)
    (fun _ => Looked host world) := by
  unfold fileIdentityAt
  refine .bind metadataAt_ends ?_
  rintro metadata world' ⟨event, hsaw, -, hentry⟩
  cases metadata with
  | none => exact hsaw.looked
  | some metadata =>
      obtain ⟨ino, kind⟩ := metadata
      cases kind with
      | file data => exact ⟨event, hsaw, hentry⟩
      | directory => exact hsaw.looked
      | special => exact hsaw.looked

theorem identifies_ends {expected : Ino} : Attempt.Ends (identifies host parent name expected) world
    (fun same world' => Looked host world world' ∧
      (same = true → world'.disk.entry parent name = some expected))
    (fun _ _ => False) := by
  unfold identifies
  refine .bind (Q := fun found world' => Looked host world world' ∧
      ∀ ino, found = .ok ino → world'.disk.entry parent name = some ino)
    (.capture (fileIdentityAt_ends.mono ?_ fun _ _ h => ⟨h, nofun⟩)) ?_
  · rintro ino world' ⟨event, hsaw, hentry⟩
    refine ⟨hsaw.looked, ?_⟩
    rintro _ ⟨⟩
    exact hentry
  · rintro found world' ⟨hlooked, hentry⟩
    exact ⟨hlooked, fun hsame => hentry _ (of_decide_eq_true hsame)⟩

/-- The directory that a path leads to. -/
def LeadsTo (host : Host) (path : Path) (disk : Disk FileData) (ino : Ino) : Prop :=
  ∃ names, plainNames path.parts = some names ∧ disk.walk (startOf host path) names = some ino

theorem openExistingDirectory_ends {path : Path} :
    Attempt.Ends (openExistingDirectory host path) world
      (fun ino world' => ∃ late, Run host.os Event.Quiet world late world' ∧
        ∃ step ∈ late, LeadsTo host path step.before ino)
      (fun _ => Looked host world) := by
  unfold openExistingDirectory
  cases hnames : plainNames path.parts with
  | none => exact Looked.refl
  | some names =>
      refine .bind (Q := fun found world' => ∃ late, Run host.os Event.Quiet world late world' ∧
        ∀ ino, found = .ok ino → ∃ step ∈ late, LeadsTo host path step.before ino) ?_ ?_
      · refine call_ends ⟨_, Run.refl.call _ trivial, nofun⟩
          (fun _ _ => ⟨_, Run.refl.call _ trivial, nofun⟩) ?_
        intro ino event hevent
        cases hwalk : (world.disturb (host.os.others world)).disk.walk (startOf host path) names with
        | none =>
            rw [hwalk] at hevent
            cases hevent
        | some found =>
            rw [hwalk] at hevent
            cases hevent
            refine ⟨_, Run.refl.call _ trivial, ?_⟩
            rintro _ ⟨⟩
            exact ⟨_, List.mem_cons_self, names, hnames, hwalk⟩
      · rintro found world' ⟨late, hrun, hleads⟩
        cases found with
        | ok ino => exact ⟨late, hrun, hleads ino rfl⟩
        | error kind => exact ⟨late, hrun⟩

theorem parentPathMatches_ends {path : Path} {expected : Ino} :
    Attempt.Ends (parentPathMatches host path expected) world
      (fun same world' => ∃ late, Run host.os Event.Quiet world late world' ∧
        (same = true → ∃ step ∈ late, LeadsTo host path step.before expected))
      (fun _ _ => False) := by
  unfold parentPathMatches
  refine .bind (Q := fun found world' => ∃ late, Run host.os Event.Quiet world late world' ∧
      ∀ ino, found = .ok (.ok ino) → ∃ step ∈ late, LeadsTo host path step.before ino)
    (.capture ?_) ?_
  · refine .bind (openExistingDirectory_ends.mono (fun _ _ h => h) ?_) ?_
    · rintro e world' ⟨late, hrun⟩
      exact ⟨late, hrun, nofun⟩
    · rintro ino world' ⟨late, hrun, step, hstep, hleads⟩
      unfold fstat sys
      refine call_ends ?_ ?_ ?_
      · exact ⟨_, hrun.call _ trivial, nofun⟩
      · exact fun _ _ => ⟨_, hrun.call _ trivial, nofun⟩
      · rintro _ _ ⟨⟩
        refine ⟨_, hrun.call _ trivial, ?_⟩
        rintro _ ⟨⟩
        exact ⟨step, List.mem_cons_of_mem _ (List.mem_cons_of_mem _ hstep), hleads⟩
  · rintro found world' ⟨late, hrun, hleads⟩
    exact ⟨late, hrun, fun hsame => hleads _ (of_decide_eq_true hsame)⟩

end Quiet

/-! ### What others do meanwhile -/

section Others

variable {dir ino : Ino} {name : String} {late early : List (Step FileData)}

/-- Nobody else changes what stands under a name. -/
def OthersKeep (dir : Ino) (name : String) (late : List (Step FileData)) : Prop :=
  ∀ step ∈ late, step.event = .others → step.after.entry dir name = step.before.entry dir name

/-- Nobody else puts a file under a name. -/
def OthersNeverPut (ino dir : Ino) (name : String) (late : List (Step FileData)) : Prop :=
  ∀ step ∈ late, step.event = .others → step.after.entry dir name = some ino →
    step.before.entry dir name = some ino

theorem OthersKeep.of_append (h : OthersKeep dir name (late ++ early)) :
    OthersKeep dir name late ∧ OthersKeep dir name early :=
  ⟨fun step hstep => h step (List.mem_append_left _ hstep),
    fun step hstep => h step (List.mem_append_right _ hstep)⟩

theorem OthersNeverPut.of_append (h : OthersNeverPut ino dir name (late ++ early)) :
    OthersNeverPut ino dir name late ∧ OthersNeverPut ino dir name early :=
  ⟨fun step hstep => h step (List.mem_append_left _ hstep),
    fun step hstep => h step (List.mem_append_right _ hstep)⟩

end Others

/-! ### Removing files -/

section Careful

variable {target name : String} {dir ino : Ino} {early late more : List (Step FileData)}

/-- The others replaced a new file before the program looked at it again. -/
def Swapped (early : List (Step FileData)) : Prop :=
  ∃ newer swap made older dir name ino data, early = newer ++ swap :: made :: older ∧
    made.event = .created dir name ino data ∧ swap.event = .others ∧
    swap.after.entry dir name ≠ some ino

/-- The file that stood at the target when the program looked there, before it
created anything. -/
def Captured (target : String) (early : List (Step FileData)) (dir ino : Ino) : Prop :=
  ∃ newer seen older, early = newer ++ seen :: older ∧
    seen.event = .found dir target (some ino) ∧ ∀ step ∈ older, step.event.creates = false

/-- A file the program may take for its own. -/
def Owned (target : String) (early : List (Step FileData)) (dir ino : Ino) : Prop :=
  (∃ step ∈ early, ∃ name data, step.event = .created dir name ino data) ∨
    Captured target early dir ino ∨ Swapped early

/-- Whatever the program unlinks it may take for its own, unless the others
put it under the name just before. -/
def Careful (target : String) : List (Step FileData) → Prop
  | [] => True
  | step :: early =>
      (∀ dir name ino, step.event = .unlinked dir name → step.before.entry dir name = some ino →
        Owned target early dir ino ∨
          ∃ swap older, early = swap :: older ∧ swap.event = .others ∧
            swap.before.entry dir name ≠ some ino) ∧
        Careful target early

theorem Swapped.append (h : Swapped early) (more : List (Step FileData)) :
    Swapped (more ++ early) := by
  obtain ⟨newer, swap, made, older, dir, name, ino, data, rfl, hrest⟩ := h
  exact ⟨more ++ newer, swap, made, older, dir, name, ino, data, (List.append_assoc _ _ _).symm,
    hrest⟩

theorem Captured.append (h : Captured target early dir ino) (more : List (Step FileData)) :
    Captured target (more ++ early) dir ino := by
  obtain ⟨newer, seen, older, rfl, hrest⟩ := h
  exact ⟨more ++ newer, seen, older, (List.append_assoc _ _ _).symm, hrest⟩

theorem Owned.append (h : Owned target early dir ino) (more : List (Step FileData)) :
    Owned target (more ++ early) dir ino := by
  rcases h with ⟨step, hstep, hcreated⟩ | hcaptured | hswapped
  · exact .inl ⟨step, List.mem_append_right _ hstep, hcreated⟩
  · exact .inr (.inl (hcaptured.append more))
  · exact .inr (.inr (hswapped.append more))

theorem Careful.append (h : Careful target early) (more : List (Step FileData))
    (hmore : ∀ step ∈ more, step.event.unlinks = false) : Careful target (more ++ early) := by
  induction more with
  | nil => exact h
  | cons step more ih =>
      refine ⟨fun dir name ino hevent _ => ?_, ih fun step hstep =>
        hmore step (List.mem_cons_of_mem _ hstep)⟩
      have hnot := hmore step List.mem_cons_self
      rw [hevent] at hnot
      cases hnot

/-- A file is unlinked after its name was seen to lead to one of its own. -/
theorem Careful.unlink {world : World FileData} {disk : Disk FileData} {expected : Ino}
    (h : Careful target early) (howned : Owned target early dir expected)
    (hentry : world.disk.entry dir name = some expected) :
    Careful target (⟨.unlinked dir name, disk, (Event.unlinked dir name).apply disk⟩ ::
      ⟨.others, world.disk, disk⟩ :: early) := by
  refine ⟨?_, h.append [_] (by simp [Event.unlinks])⟩
  rintro dir' name' ino hevent -
  cases hevent
  by_cases heq : ino = expected
  · rw [heq]
    exact .inl (howned.append [_])
  · refine .inr ⟨_, _, rfl, rfl, ?_⟩
    rw [hentry]
    exact fun h => heq (Option.some.inj h).symm

end Careful

/-! ### Installing -/

/-- What stands at the target of a save: its directory, its name, and the
identities the save works with. -/
structure Site where
  parent : Ino
  targetName : String
  tempName : String
  /-- The file that was created, and the identity found under its name. -/
  file : Ino
  newIdentity : Ino
  previous : Option ConfigTarget

section Install

variable {host : Host} {site : Site} {world prepared now now' : World FileData}
  {late late' : List (Step FileData)}

/-- A step that leaves the target of every directory alone. -/
def Aside (targetName : String) (event : Event FileData) : Prop :=
  ∀ dir, ¬event.touches dir targetName

/-- A step that touches no target but the one in the parent. -/
def Within (site : Site) (event : Event FileData) : Prop :=
  ∀ dir, event.touches dir site.targetName → dir = site.parent

/-- The steps so far of a save that looked at its target first in `world` and
had its new file ready in `prepared`. -/
structure Tracked (host : Host) (site : Site) (world prepared : World FileData)
    (late : List (Step FileData)) (now : World FileData) : Prop where
  run : Run host.os (Within site) world late now
  careful : Careful site.targetName late
  inodes : ∃ newer, Run host.os Event.KeepsInodes prepared newer now
  created : ∃ step ∈ late, ∃ data, step.event = .created site.parent site.tempName site.file data
  identified : site.newIdentity = site.file ∨ Swapped late
  kept : OthersKeep site.parent site.targetName late →
    world.disk.entry site.parent site.targetName = site.previous.map ConfigTarget.identity
  ownsOld : ∀ previous, site.previous = some previous →
    Owned site.targetName late site.parent previous.identity

theorem Tracked.ownsNew (h : Tracked host site world prepared late now) :
    Owned site.targetName late site.parent site.newIdentity := by
  rcases h.identified with heq | hswapped
  · obtain ⟨step, hstep, data, hcreated⟩ := h.created
    exact .inl ⟨step, hstep, site.tempName, data, by rw [heq]; exact hcreated⟩
  · exact .inr (.inr hswapped)

theorem Tracked.past (h : Tracked host site world prepared late now) :
    now.past = late ++ world.past :=
  h.run.past_eq

/-- Since `base`, in which the name led to `found`, only the others changed
what stands there, and the directory was synchronized. -/
def Settled (host : Host) (dir : Ino) (name : String) (found : Option Ino)
    (world now : World FileData) : Prop :=
  ∃ earlier base late, base.past = earlier ++ world.past ∧ base.disk.entry dir name = found ∧
    Run host.os (fun event => ¬event.touches dir name) base late now ∧
    ∃ step ∈ late, step.event.syncs dir

theorem Tracked.extend {allowed : Event FileData → Prop}
    (h : Tracked host site world prepared late now) (hrun : Run host.os allowed now late' now')
    (hwithin : ∀ event, allowed event → Within site event)
    (hinodes : ∀ event, allowed event → event.KeepsInodes)
    (hunlinks : ∀ event, allowed event → event.unlinks = false) :
    Tracked host site world prepared (late' ++ late) now' where
  run := h.run.trans (hrun.mono hwithin)
  careful := by
    refine h.careful.append late' fun step hstep => ?_
    rcases hrun.event_of_mem hstep with hothers | hallowed
    · rw [hothers]
      rfl
    · exact hunlinks _ hallowed
  inodes := by
    obtain ⟨newer, hnewer⟩ := h.inodes
    exact ⟨late' ++ newer, hnewer.trans (hrun.mono hinodes)⟩
  created := by
    obtain ⟨step, hstep, hcreated⟩ := h.created
    exact ⟨step, List.mem_append_right _ hstep, hcreated⟩
  identified := h.identified.imp_right fun hswapped => hswapped.append late'
  kept := fun hkeep => h.kept hkeep.of_append.2
  ownsOld := fun previous hprevious => (h.ownsOld previous hprevious).append late'

theorem Tracked.rename (h : Tracked host site world prepared late now) (event : Event FileData)
    (hwithin : Within site event) (hinodes : event.KeepsInodes) (hunlinks : event.unlinks = false) :
    Tracked host site world prepared
      ([⟨event, host.os.others now, event.apply (host.os.others now)⟩,
        ⟨.others, now.disk, host.os.others now⟩] ++ late)
      ((now.disturb (host.os.others now)).record event) :=
  h.extend (Run.refl.call event (rfl : event = event)) (fun _ h => h ▸ hwithin)
    (fun _ h => h ▸ hinodes) fun _ h => h ▸ hunlinks

theorem Tracked.look (h : Tracked host site world prepared late now)
    (hrun : Run host.os Event.Quiet now late' now') :
    Tracked host site world prepared (late' ++ late) now' :=
  h.extend hrun (fun _ hquiet dir htouches => absurd htouches (hquiet.not_touches dir _))
    (fun _ hquiet => hquiet.keepsInodes) fun _ hquiet => hquiet.not_unlinks

theorem Tracked.unlink {name : String} {expected : Ino}
    (h : Tracked host site world prepared late now)
    (howned : Owned site.targetName late site.parent expected)
    (hentry : now.disk.entry site.parent name = some expected) :
    Tracked host site world prepared
      (⟨.unlinked site.parent name, host.os.others now,
          (Event.unlinked site.parent name).apply (host.os.others now)⟩ ::
        ⟨.others, now.disk, host.os.others now⟩ :: late)
      ((now.disturb (host.os.others now)).record (.unlinked site.parent name)) where
  run := h.run.call _ fun _ htouches => htouches.1
  careful := h.careful.unlink howned hentry
  inodes := by
    obtain ⟨newer, hnewer⟩ := h.inodes
    exact ⟨_, hnewer.call _ fun _ _ => rfl⟩
  created := by
    obtain ⟨step, hstep, hcreated⟩ := h.created
    exact ⟨step, List.mem_cons_of_mem _ (List.mem_cons_of_mem _ hstep), hcreated⟩
  identified := h.identified.imp_right fun hswapped => hswapped.append [_, _]
  kept := fun hkeep => h.kept fun step hstep =>
    hkeep step (List.mem_cons_of_mem _ (List.mem_cons_of_mem _ hstep))
  ownsOld := fun previous hprevious => (h.ownsOld previous hprevious).append [_, _]

theorem run_aside_of_quiet {targetName : String} (h : Run host.os Event.Quiet now late now') :
    Run host.os (Aside targetName) now late now' :=
  h.mono fun _ hquiet dir => hquiet.not_touches dir targetName

theorem run_aside (h : Run host.os Event.Quiet now late now') (dir : Ino) (name : String) :
    Run host.os (fun event => ¬event.touches dir name) now late now' :=
  h.mono fun _ hquiet => hquiet.not_touches dir name

theorem run_beside_unlink {parent : Ino} {name name' : String}
    (h : Run host.os (fun event => event.Quiet ∨ event = .unlinked parent name) now late now')
    (hne : name ≠ name') :
    Run host.os (fun event => ¬event.touches parent name') now late now' := by
  refine h.mono ?_
  rintro _ (hquiet | rfl)
  · exact hquiet.not_touches _ _
  · exact fun htouches => hne htouches.2.symm

/-- A call that takes one step if it succeeds. -/
def Called {β : Type} (host : Host) (event : Event FileData) (now : World FileData) :
    Except IoErrorKind β → World FileData → Prop
  | .ok _, now' => now' = (now.disturb (host.os.others now)).record event
  | .error _, now' => Looked host now now'

theorem sys_called {β : Type} {event : Event FileData}
    {operation : World FileData → Except IoErrorKind (β × Event FileData)}
    (hevent : ∀ b event', operation (now.disturb (host.os.others now)) = .ok (b, event') →
      event' = event) :
    Attempt.Ends (sys host operation) now (Called host event now) (fun _ _ => False) := by
  refine call_ends (Looked.call trivial) (fun _ _ => Looked.call trivial) ?_
  intro b event' h
  rw [hevent _ _ h]
  rfl

theorem orFail_called {β : Type} {event : Event FileData} {attempt : Io (Except IoErrorKind β)}
    (h : Attempt.Ends attempt now (Called host event now) (fun _ _ => False)) :
    Attempt.Ends (orFail attempt) now
      (fun _ now' => now' = (now.disturb (host.os.others now)).record event)
      (fun _ => Looked host now) := by
  unfold orFail
  refine .bind (h.mono (fun _ _ h => h) fun _ _ h => h.elim) ?_
  intro result now' hnow'
  cases result with
  | ok b => exact hnow'
  | error kind => exact hnow'

theorem unlinkat_called {dir : Ino} {name : String} :
    Attempt.Ends (unlinkat host dir name) now (Called host (.unlinked dir name) now)
      (fun _ _ => False) := by
  refine sys_called fun b event h => ?_
  split at h
  · cases h
  · cases h
    rfl
  · cases h

theorem syncAll_called {ino : Ino} :
    Attempt.Ends (syncAll host ino) now (Called host (.synced ino) now) (fun _ _ => False) := by
  refine sys_called fun b event h => ?_
  cases h
  rfl

theorem renameat2_called {dir : Ino} {source target : String} {exchange : Bool} :
    Attempt.Ends (renameat2 host dir source target exchange) now
      (Called host (if exchange then .exchanged dir source target else .moved dir source target)
        now) (fun _ _ => False) := by
  refine sys_called fun b event h => ?_
  cases exchange with
  | true =>
      split at h
      · cases h
      · cases h
      · cases h
      · cases h
        rfl
  | false =>
      split at h
      · cases h
      · cases h
        rfl
      · cases h
      · cases h

theorem removeIfIdentityAt_ends {parent expected : Ino} {name : String} :
    Attempt.Ends (removeIfIdentityAt host parent name expected) now
      (fun _ now' => ∃ seen late, Run host.os Event.Quiet now late seen ∧
        seen.disk.entry parent name = some expected ∧
        now' = (seen.disturb (host.os.others seen)).record (.unlinked parent name))
      (fun _ => Looked host now) := by
  unfold removeIfIdentityAt
  refine .bind fileIdentityAt_ends ?_
  rintro found seen ⟨event, hsaw, hentry⟩
  refine .bindRequire (fun _ => hsaw.looked) fun heq => ?_
  rw [heq] at hentry
  refine (orFail_called unlinkat_called).mono ?_ ?_
  · rintro _ now' rfl
    exact ⟨seen, _, hsaw.run, hentry, rfl⟩
  · rintro _ now' ⟨newer, hnewer⟩
    exact ⟨_, hsaw.run.trans hnewer⟩

/-- The temporary file is removed before the target was touched. -/
theorem cleanupOwnedErrorAt_ends {operation : LambError} (hne : site.tempName ≠ site.targetName)
    (h : Tracked host site world prepared late now)
    (haside : Run host.os (Aside site.targetName) world late now) :
    Attempt.Ends
      (cleanupOwnedErrorAt host operation site.parent site.tempName site.newIdentity) now
      (fun _ _ => False)
      (fun _ now' => ∃ late', Tracked host site world prepared late' now' ∧
        Run host.os (Aside site.targetName) world late' now') := by
  unfold cleanupOwnedErrorAt
  refine .bind (Q := fun _ now' => ∃ late', Tracked host site world prepared late' now' ∧
      Run host.os (Aside site.targetName) world late' now')
    (.capture (removeIfIdentityAt_ends.mono ?_ ?_)) ?_
  · rintro _ now' ⟨seen, newer, hrun, hentry, rfl⟩
    have hseen := h.look hrun
    refine ⟨_, hseen.unlink hseen.ownsNew hentry, (haside.trans (run_aside_of_quiet hrun)).call _ ?_⟩
    exact fun dir htouches => hne htouches.2.symm
  · rintro _ now' ⟨newer, hrun⟩
    exact ⟨_, h.look hrun, haside.trans (run_aside_of_quiet hrun)⟩
  · intro result now' hnow'
    cases result with
    | ok _ => exact hnow'
    | error cleanup => exact hnow'

/-- The steps that make an installed name durable. -/
def Publishes (parent : Ino) (event : Event FileData) : Prop :=
  event.Quiet ∨ event = .synced parent

theorem Publishes.not_touches {parent : Ino} {event : Event FileData} (h : Publishes parent event)
    (dir : Ino) (name : String) : ¬event.touches dir name := by
  rcases h with hquiet | rfl
  · exact hquiet.not_touches dir name
  · exact id

theorem Tracked.publish (h : Tracked host site world prepared late now)
    (hrun : Run host.os (Publishes site.parent) now late' now') :
    Tracked host site world prepared (late' ++ late) now' := by
  refine h.extend hrun (fun _ h dir htouches => absurd htouches (h.not_touches dir _)) ?_ ?_
  · rintro event (hquiet | rfl)
    · exact hquiet.keepsInodes
    · exact fun _ _ => rfl
  · rintro event (hquiet | rfl)
    · exact hquiet.not_unlinks
    · rfl

theorem publication_ends {hook : DurabilityHook} {parentPath : Path} {parent : Ino} :
    Attempt.Ends (publication host hook parentPath parent) now
      (fun _ now' => ∃ late, Run host.os (Publishes parent) now late now' ∧
        (∃ step ∈ late, step.event.syncs parent) ∧
        ∃ step ∈ late, LeadsTo host parentPath step.before parent)
      (fun _ now' => ∃ late, Run host.os (Publishes parent) now late now') := by
  unfold publication
  have hmono : ∀ {now now' late}, Run host.os Event.Quiet now late now' →
      Run host.os (Publishes parent) now late now' := fun h => h.mono fun _ => .inl
  refine .bind (runHook_looks.mono (fun _ _ h => h) ?_) ?_
  · rintro _ now' ⟨late, hrun⟩
    exact ⟨late, hmono hrun⟩
  rintro _ hooked ⟨late, hrun⟩
  refine .bind (parentPathMatches_ends.mono (fun _ _ h => h) fun _ _ h => h.elim) ?_
  rintro same checked ⟨late', hrun', hleads⟩
  have hchecked : Run host.os (Publishes parent) now (late' ++ late) checked :=
    (hmono hrun).trans (hmono hrun')
  cases same with
  | false => exact ⟨_, hchecked⟩
  | true =>
      obtain ⟨step, hstep, hleads⟩ := hleads rfl
      refine .bind ((orFail_called syncAll_called).mono (fun _ _ h => h) ?_) ?_
      · rintro _ now' ⟨newer, hnewer⟩
        exact ⟨_, hchecked.trans (hmono hnewer)⟩
      · rintro _ _ rfl
        have hsynced := hchecked.call (.synced parent) (.inr rfl)
        refine runHook_looks.mono ?_ ?_
        · rintro _ now' ⟨newer, hnewer⟩
          refine ⟨_, hsynced.trans (hmono hnewer), ⟨_, List.mem_append_right _ List.mem_cons_self,
            by simp [Event.syncs]⟩, step, ?_, hleads⟩
          simp [hstep]
        · rintro _ now' ⟨newer, hnewer⟩
          exact ⟨_, hsynced.trans (hmono hnewer)⟩

/-- A file is removed from the parent, and the parent is synchronized. -/
theorem removeAndSync_ends {name : String} {expected : Ino}
    (h : Tracked host site world prepared late now)
    (howned : Owned site.targetName late site.parent expected) :
    Attempt.Ends (do
        removeIfIdentityAt host site.parent name expected
        orFail (syncAll host site.parent) : Io Unit) now
      (fun _ now' => (∃ late', Tracked host site world prepared late' now') ∧
        ∃ removed newer newest,
          Run host.os (fun event => event.Quiet ∨ event = .unlinked site.parent name) now newer
            removed ∧
          removed.disk.entry site.parent name = none ∧
          Run host.os (Publishes site.parent) removed newest now' ∧
          ∃ step ∈ newest, step.event.syncs site.parent)
      (fun _ now' => ∃ late', Tracked host site world prepared late' now') := by
  refine .bind (removeIfIdentityAt_ends.mono (fun _ _ h => h) ?_) ?_
  · rintro _ now' ⟨newer, hrun⟩
    exact ⟨_, h.look hrun⟩
  · rintro _ _ ⟨seen, newer, hrun, hentry, rfl⟩
    have hremoved := (h.look hrun).unlink (howned.append newer) hentry
    refine (orFail_called syncAll_called).mono ?_ ?_
    · rintro _ _ rfl
      have hsynced : Run host.os (Publishes site.parent)
          ((seen.disturb (host.os.others seen)).record (.unlinked site.parent name)) _ _ :=
        Run.refl.call (.synced site.parent) (.inr rfl)
      refine ⟨⟨_, hremoved.publish hsynced⟩, _, _, _, (hrun.mono fun _ => .inl).call _ (.inr rfl), ?_,
        hsynced, _, List.mem_cons_self, by simp [Event.syncs]⟩
      rw [World.record_disk, Event.apply, Disk.entry_setEntry, if_pos ⟨rfl, rfl⟩]
    · rintro _ now' ⟨newest, hnewest⟩
      exact ⟨_, hremoved.look hnewest⟩

/-- An error that leaves open whether the candidate was published. -/
def Unsure (e : LambError) : Prop :=
  configSaveFailureOutcome e = .notEstablished

/-- A check that only looks decides how a save goes on. -/
theorem Tracked.check {β : Type} {check : Io Bool} {yes no : Io β} {P : World FileData → Prop}
    {Q : β → World FileData → Prop} {E : LambError → World FileData → Prop}
    (h : Tracked host site world prepared late now)
    (hcheck : Attempt.Ends check now
      (fun same now' => Looked host now now' ∧ (same = true → P now')) (fun _ _ => False))
    (hyes : ∀ late' now', Tracked host site world prepared late' now' → P now' →
      Attempt.Ends yes now' Q E)
    (hno : ∀ late' now', Tracked host site world prepared late' now' → Attempt.Ends no now' Q E) :
    Attempt.Ends (do if ← check then yes else no) now Q E := by
  refine .bind (hcheck.mono (fun _ _ h => h) fun _ _ h => h.elim) ?_
  rintro same now' ⟨⟨late', hrun⟩, hP⟩
  cases same with
  | false => exact hno _ now' (h.look hrun)
  | true => exact hyes _ now' (h.look hrun) (hP rfl)

theorem parentPathMatches_looks {path : Path} {expected : Ino} :
    Attempt.Ends (parentPathMatches host path expected) now
      (fun same now' => Looked host now now' ∧ (same = true → True)) (fun _ _ => False) :=
  parentPathMatches_ends.mono (fun _ _ ⟨late, hrun, _⟩ => ⟨⟨late, hrun⟩, fun _ => trivial⟩)
    fun _ _ h => h

/-- How a save ends that fails once its new file is there: it never touched
the target, it is not sure, or it put the old file back. -/
def Failed (host : Host) (site : Site) (world prepared : World FileData) (e : LambError)
    (now : World FileData) : Prop :=
  ∃ late, Tracked host site world prepared late now ∧
    (Run host.os (Aside site.targetName) world late now ∨ Unsure e ∨
      Settled host site.parent site.targetName (site.previous.map ConfigTarget.identity) world now)

/-- How a save ends that succeeds: since the target was seen to lead to the new
file, only the others changed it, the parent path was seen to lead to the
parent, and the parent was synchronized. -/
def Installed (host : Host) (site : Site) (parentPath : Path) (world prepared now : World FileData) :
    Prop :=
  (∃ late, Tracked host site world prepared late now) ∧
    ∃ earlier base late, Tracked host site world prepared earlier base ∧
      base.disk.entry site.parent site.targetName = some site.newIdentity ∧
      Run host.os (fun event => ¬event.touches site.parent site.targetName) base late now ∧
      (∃ step ∈ late, step.event.syncs site.parent) ∧
      ∃ step ∈ late, LeadsTo host parentPath step.before site.parent

theorem Tracked.unsure {operation : LambError} (h : Tracked host site world prepared late now) :
    Attempt.Ends (Attempt.fail (.indeterminatePublication operation) : Io Unit) now
      (fun _ _ => False) (Failed host site world prepared) :=
  ⟨late, h, .inr (.inl rfl)⟩

theorem undoExchange_ends {parentPath : Path} {previous : ConfigTarget} {operation : LambError}
    (hprevious : site.previous = some previous) (hne : site.tempName ≠ site.targetName)
    (h : Tracked host site world prepared late now) :
    Attempt.Ends
      (undoExchange host parentPath site.parent site.targetName site.tempName site.newIdentity
        previous.identity operation) now
      (fun _ _ => False) (Failed host site world prepared) := by
  unfold undoExchange
  refine h.check parentPathMatches_looks (fun late now h _ => ?_) fun _ _ h => h.unsure
  refine h.check identifies_ends (fun late now h _ => ?_) fun _ _ h => h.unsure
  refine h.check identifies_ends (fun late now h _ => ?_) fun _ _ h => h.unsure
  refine .bind (renameat2_called.mono (fun _ _ h => h) fun _ _ h => h.elim) ?_
  intro result now₁ hresult
  cases result with
  | error kind =>
      obtain ⟨newer, hrun⟩ := hresult
      exact (h.look hrun).unsure
  | ok _ =>
  cases hresult
  have h := h.rename (.exchanged site.parent site.tempName site.targetName)
    (fun _ htouches => htouches.1) (fun _ _ => rfl) rfl
  refine h.check identifies_ends (fun late base h hentry => ?_) fun _ _ h => h.unsure
  -- from here on the target leads to the old file and is left alone
  refine .bind (identifies_ends.mono (fun _ _ h => h) fun _ _ h => h.elim) ?_
  rintro same now₂ ⟨⟨late₂, hrun₂⟩, -⟩
  have h₂ := h.look hrun₂
  cases same with
  | false => exact h₂.unsure
  | true =>
  refine .bind (syncAll_called.mono (fun _ _ h => h) fun _ _ h => h.elim) ?_
  intro result now₃ hresult
  cases result with
  | error kind =>
      obtain ⟨newer, hrun⟩ := hresult
      exact (h₂.look hrun).unsure
  | ok _ =>
  cases hresult
  have h₃ := h₂.publish (Run.refl.call _ (.inr rfl))
  refine .bind (Q := fun result now' => (∃ late', Tracked host site world prepared late' now') ∧
      (result = .ok () →
        Settled host site.parent site.targetName (some previous.identity) world now'))
    (.capture ((removeAndSync_ends h₃ h₃.ownsNew).mono ?_ fun _ _ h => ⟨h, by simp⟩)) ?_
  · rintro _ now' ⟨htracked, removed, newer, newest, hnewer, -, hnewest, hsync⟩
    have hbefore := (run_aside hrun₂ site.parent site.targetName).call (.synced site.parent) id
    have hduring := run_beside_unlink hnewer hne
    have hafter := hnewest.mono fun _ h => h.not_touches site.parent site.targetName
    obtain ⟨step, hstep, hsyncs⟩ := hsync
    exact ⟨htracked, fun _ => ⟨late, base, _, h.past, hentry, (hbefore.trans hduring).trans hafter,
      step, List.mem_append_left _ hstep, hsyncs⟩⟩
  · rintro result now' ⟨⟨late', htracked⟩, hsettled⟩
    cases result with
    | ok _ =>
        refine ⟨late', htracked, .inr (.inr ?_)⟩
        rw [hprevious]
        exact hsettled rfl
    | error cleanup => exact ⟨late', htracked, .inr (.inl rfl)⟩

theorem undoMove_ends {parentPath : Path} {operation : LambError} (hprevious : site.previous = none)
    (h : Tracked host site world prepared late now) :
    Attempt.Ends
      (undoMove host parentPath site.parent site.targetName site.newIdentity operation) now
      (fun _ _ => False) (Failed host site world prepared) := by
  unfold undoMove
  refine h.check parentPathMatches_looks (fun late now h _ => ?_) fun _ _ h => h.unsure
  refine h.check identifies_ends (fun late now h _ => ?_) fun _ _ h => h.unsure
  refine .bind (Q := fun result now' => ∃ late', Tracked host site world prepared late' now' ∧
      (result = .ok () → Settled host site.parent site.targetName none world now'))
    (.capture ((removeAndSync_ends h h.ownsNew).mono ?_ ?_)) ?_
  · rintro _ now' ⟨⟨late', htracked⟩, removed, newer, newest, hnewer, hentry, hnewest, hsync⟩
    refine ⟨late', htracked, fun _ => ⟨newer ++ late, removed, newest, ?_, hentry,
      hnewest.mono fun _ h => h.not_touches _ _, hsync⟩⟩
    rw [hnewer.past_eq, h.past, List.append_assoc]
  · rintro _ now' ⟨late', htracked⟩
    exact ⟨late', htracked, nofun⟩
  · rintro result now' ⟨late', htracked, hsettled⟩
    cases result with
    | ok _ =>
        refine ⟨late', htracked, .inr (.inr ?_)⟩
        rw [hprevious]
        exact hsettled rfl
    | error cleanup => exact ⟨late', htracked, .inr (.inl rfl)⟩

theorem captured_rename_ends {dir : Ino} {source target : String} {exchange : Bool} :
    Attempt.Ends (orFail (renameat2 host dir source target exchange)).capture now
      (fun result now' => match result with
        | .ok _ => now' = (now.disturb (host.os.others now)).record
            (if exchange then .exchanged dir source target else .moved dir source target)
        | .error _ => Looked host now now')
      (fun _ _ => False) :=
  .capture ((orFail_called renameat2_called).mono (fun _ _ h => h) fun _ _ h => h)

theorem captured_publication_ends {hook : DurabilityHook} {parentPath : Path} {parent : Ino} :
    Attempt.Ends (publication host hook parentPath parent).capture now
      (fun result now' => ∃ newer, Run host.os (Publishes parent) now newer now' ∧
        (result = .ok () → (∃ step ∈ newer, step.event.syncs parent) ∧
          ∃ step ∈ newer, LeadsTo host parentPath step.before parent))
      (fun _ _ => False) := by
  refine .capture (publication_ends.mono ?_ ?_)
  · rintro _ now' ⟨newer, hrun, hsync, hleads⟩
    exact ⟨newer, hrun, fun _ => ⟨hsync, hleads⟩⟩
  · rintro _ now' ⟨newer, hrun⟩
    exact ⟨newer, hrun, nofun⟩

/-- A save that never touched its target removes its new file. -/
theorem cleanup_fails {operation : LambError} (hne : site.tempName ≠ site.targetName)
    {Q : Unit → World FileData → Prop} (h : Tracked host site world prepared late now)
    (haside : Run host.os (Aside site.targetName) world late now) :
    Attempt.Ends
      (cleanupOwnedErrorAt host operation site.parent site.tempName site.newIdentity) now Q
      (Failed host site world prepared) := by
  refine (cleanupOwnedErrorAt_ends hne h haside).mono (fun _ _ h => h.elim) ?_
  rintro _ now' ⟨late', htracked, haside'⟩
  exact ⟨late', htracked, .inl haside'⟩

/-- The new file and the old one change places. -/
theorem installOver_ends {hook : DurabilityHook} {parentPath : Path} {previous : ConfigTarget}
    (hprevious : site.previous = some previous) (hne : site.tempName ≠ site.targetName)
    (h : Tracked host site world prepared late now)
    (haside : Run host.os (Aside site.targetName) world late now) :
    Attempt.Ends
      (installOver host hook parentPath site.parent site.targetName site.tempName site.newIdentity
        previous) now
      (fun _ => Installed host site parentPath world prepared)
      (Failed host site world prepared) := by
  unfold installOver
  refine .bind (captured_rename_ends.mono (fun _ _ h => h) fun _ _ h => h.elim) ?_
  intro result now₁ hresult
  cases result with
  | error operation =>
      obtain ⟨newer, hrun⟩ := hresult
      exact cleanup_fails hne (h.look hrun) (haside.trans (run_aside_of_quiet hrun))
  | ok _ =>
  cases hresult
  have h := h.rename (.exchanged site.parent site.tempName site.targetName)
    (fun _ htouches => htouches.1) (fun _ _ => rfl) rfl
  refine .bind (identifies_ends.mono (fun _ _ h => h) fun _ _ h => h.elim) ?_
  rintro isNew base ⟨⟨late₁, hrun₁⟩, hnew⟩
  have hbase := h.look hrun₁
  refine .bind (identifies_ends.mono (fun _ _ h => h) fun _ _ h => h.elim) ?_
  rintro isOld now₂ ⟨⟨late₂, hrun₂⟩, -⟩
  have h₂ := hbase.look hrun₂
  refine .ite (fun _ => h₂.unsure.mono (fun _ _ h => h.elim) fun _ _ h => h) fun hboth => ?_
  have hentry : base.disk.entry site.parent site.targetName = some site.newIdentity := by
    refine hnew ?_
    cases isNew with
    | true => rfl
    | false => exact absurd rfl hboth
  refine .bind (captured_publication_ends.mono (fun _ _ h => h) fun _ _ h => h.elim) ?_
  rintro result now₃ ⟨newer, hrun₃, hok⟩
  have h₃ := h₂.publish hrun₃
  cases result with
  | error operation =>
      exact (undoExchange_ends hprevious hne h₃).mono (fun _ _ h => h.elim) fun _ _ h => h
  | ok _ =>
  obtain ⟨⟨step, hstep, hsyncs⟩, step', hstep', hleads⟩ := hok rfl
  have hpublished := (run_aside hrun₂ site.parent site.targetName).trans
    (hrun₃.mono fun _ h => h.not_touches _ _)
  -- removing the old file leaves the target alone
  have hinstalled : ∀ {late' newest now'}, Tracked host site world prepared late' now' →
      Run host.os (fun event => ¬event.touches site.parent site.targetName) now₃ newest now' →
      Installed host site parentPath world prepared now' := by
    intro late' newest now' htracked hrun
    refine ⟨⟨late', htracked⟩, _, base, _, hbase, hentry, hpublished.trans hrun,
      ⟨step, ?_, hsyncs⟩, step', ?_, hleads⟩
    · simp [hstep]
    · simp [hstep']
  refine .bind (Q := fun result now' => match result with
    | .ok _ => ∃ seen late, Run host.os Event.Quiet now₃ late seen ∧
        seen.disk.entry site.parent site.tempName = some previous.identity ∧
        now' = (seen.disturb (host.os.others seen)).record (.unlinked site.parent site.tempName)
    | .error _ => Looked host now₃ now')
    (.capture (removeIfIdentityAt_ends.mono (fun _ _ h => h) fun _ _ h => h)) ?_
  intro result now₄ hresult
  cases result with
  | error e =>
      obtain ⟨newest, hrun⟩ := hresult
      exact hinstalled (h₃.look hrun) (run_aside hrun _ _)
  | ok _ =>
  obtain ⟨seen, newest, hrun, hold, rfl⟩ := hresult
  have hseen := h₃.look hrun
  have hremoved := hseen.unlink (hseen.ownsOld previous hprevious) hold
  have hbeside := (run_aside hrun site.parent site.targetName).call
    (.unlinked site.parent site.tempName) fun htouches => hne htouches.2.symm
  refine .bind (syncAll_called.mono (fun _ _ h => h) fun _ _ h => h.elim) ?_
  intro result now₅ hresult
  cases result with
  | error kind =>
      obtain ⟨last, hlast⟩ := hresult
      exact hinstalled (hremoved.look hlast) (hbeside.trans (run_aside hlast _ _))
  | ok _ =>
      cases hresult
      exact hinstalled (hremoved.publish (Run.refl.call _ (.inr rfl)))
        (hbeside.call (.synced site.parent) id)

/-- The new file is moved to a target where nothing was. -/
theorem installNew_ends {hook : DurabilityHook} {parentPath : Path}
    (hprevious : site.previous = none) (hne : site.tempName ≠ site.targetName)
    (h : Tracked host site world prepared late now)
    (haside : Run host.os (Aside site.targetName) world late now) :
    Attempt.Ends
      (installNew host hook parentPath site.parent site.targetName site.tempName site.newIdentity)
      now (fun _ => Installed host site parentPath world prepared)
      (Failed host site world prepared) := by
  unfold installNew
  refine .bind (captured_rename_ends.mono (fun _ _ h => h) fun _ _ h => h.elim) ?_
  intro result now₁ hresult
  cases result with
  | error operation =>
      obtain ⟨newer, hrun⟩ := hresult
      exact cleanup_fails hne (h.look hrun) (haside.trans (run_aside_of_quiet hrun))
  | ok _ =>
  cases hresult
  have h := h.rename (.moved site.parent site.tempName site.targetName)
    (fun _ htouches => htouches.1) (fun _ _ => rfl) rfl
  refine h.check identifies_ends (fun late base h hentry => ?_) fun _ _ h =>
    h.unsure.mono (fun _ _ h => h.elim) fun _ _ h => h
  refine .bind (captured_publication_ends.mono (fun _ _ h => h) fun _ _ h => h.elim) ?_
  rintro result now' ⟨newer, hrun, hok⟩
  cases result with
  | error operation =>
      exact (undoMove_ends hprevious (h.publish hrun)).mono (fun _ _ h => h.elim) fun _ _ h => h
  | ok _ =>
      obtain ⟨hsync, hleads⟩ := hok rfl
      exact ⟨⟨_, h.publish hrun⟩, late, base, newer, h, hentry,
        hrun.mono fun _ h => h.not_touches _ _, hsync, hleads⟩

end Install

end Lamb.Calibration
