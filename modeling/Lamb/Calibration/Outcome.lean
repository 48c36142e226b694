import Lamb.Calibration.Saved

/-!
The outcome of a whole save: from the first directory that is opened to the
last synchronization.
-/

namespace Lamb.Calibration

open Lamb.Lib Lamb.Lib.SharedDisk

/-! ### The new file -/

section Prepare

variable {host : Host} {now now' : World FileData} {file : Ino}

/-- The steps that fill the new file. -/
def Fills (file : Ino) (event : Event FileData) : Prop :=
  event.Quiet ∨ event = .synced file ∨ ∃ data, event = .wrote file data

theorem Fills.not_touches {event : Event FileData} (h : Fills file event) (dir : Ino)
    (name : String) : ¬event.touches dir name := by
  rcases h with hquiet | rfl | ⟨data, rfl⟩
  · exact hquiet.not_touches dir name
  · exact id
  · exact id

theorem Fills.not_unlinks {event : Event FileData} (h : Fills file event) :
    event.unlinks = false := by
  rcases h with hquiet | rfl | ⟨data, rfl⟩
  · exact hquiet.not_unlinks
  · rfl
  · rfl

theorem run_fills {late : List (Step FileData)} (h : Run host.os Event.Quiet now late now') :
    Run host.os (Fills file) now late now' :=
  h.mono fun _ => .inl

theorem modifyFile_ends {data : FileData} (change : FileData → FileData)
    (hfile : now.disk.inode file = some (.file data)) :
    Attempt.Ends (orFail (modifyFile host file change)) now
      (fun _ now' => ∃ late, Run host.os (Fills file) now late now' ∧
        now'.disk.inode file = some (.file (change data)))
      (fun _ now' => ∃ late, Run host.os (Fills file) now late now') := by
  have hcalled : Attempt.Ends (modifyFile host file change) now
      (Called host (.wrote file (change data)) now) (fun _ _ => False) := by
    refine sys_called fun b event h => ?_
    rw [World.disturb_disk, host.os.others_keep now file data hfile] at h
    cases h
    rfl
  refine (orFail_called hcalled).mono ?_ ?_
  · rintro _ _ rfl
    refine ⟨_, Run.refl.call _ (.inr (.inr ⟨_, rfl⟩)), ?_⟩
    rw [World.record_disk, Event.apply, Disk.inode_setInode, if_pos rfl]
  · rintro _ now' ⟨late, hrun⟩
    exact ⟨late, run_fills hrun⟩

/-- The content, owner and mode are written and synchronized. -/
theorem prepare_ends {hook : DurabilityHook} {text : String} {previous : Option ConfigTarget}
    {data : FileData} (hfile : now.disk.inode file = some (.file data)) (htext : data.text = "") :
    Attempt.Ends (prepare host hook text previous file) now
      (fun _ now' => ∃ late data, Run host.os (Fills file) now late now' ∧ data.text = text ∧
        ∀ disk ∈ now'.mayPersist file, disk.inode file = some (.file data))
      (fun _ now' => ∃ late, Run host.os (Fills file) now late now') := by
  have htrans : ∀ {early : List (Step FileData)} {now₁ now' : World FileData},
      Run host.os (Fills file) now early now₁ →
      (∃ late, Run host.os (Fills file) now₁ late now') →
      ∃ late, Run host.os (Fills file) now late now' :=
    fun hearly ⟨late, hlate⟩ => ⟨_, hearly.trans hlate⟩
  unfold prepare
  -- the owner
  refine .bind (Q := fun _ now' => ∃ late data, Run host.os (Fills file) now late now' ∧
    data.text = "" ∧ now'.disk.inode file = some (.file data)) ?_ ?_
  · unfold fchown
    cases previous with
    | none => exact ⟨[], data, .refl, htext, hfile⟩
    | some previous =>
        refine (modifyFile_ends _ hfile).mono ?_ fun _ _ h => h
        rintro _ now' ⟨late, hrun, hinode⟩
        exact ⟨late, { data with uid := previous.uid, gid := previous.gid }, hrun, htext, hinode⟩
  rintro _ now₁ ⟨late₁, data₁, hrun₁, htext₁, hfile₁⟩
  -- the content
  refine .bind ((modifyFile_ends _ hfile₁).mono (fun _ _ h => h) fun _ _ h => htrans hrun₁ h) ?_
  rintro _ now₂ ⟨late₂, hrun₂, hfile₂⟩
  have hrun₂ := hrun₁.trans hrun₂
  -- the mode
  refine .bind ((modifyFile_ends _ hfile₂).mono (fun _ _ h => h) fun _ _ h => htrans hrun₂ h) ?_
  rintro _ now₃ ⟨late₃, hrun₃, hfile₃⟩
  have hrun₃ := hrun₂.trans hrun₃
  obtain ⟨data₃, htext₃, hfile₃⟩ : ∃ data₃ : FileData, data₃.text = text ∧
      now₃.disk.inode file = some (.file data₃) := by
    refine ⟨_, ?_, hfile₃⟩
    simp [htext₁]
  refine .bind ((orFail_called syncAll_called).mono (fun _ _ h => h) ?_) ?_
  · rintro _ now' ⟨late, hrun⟩
    exact htrans hrun₃ ⟨late, run_fills hrun⟩
  rintro _ _ rfl
  have hrun₄ := hrun₃.call (.synced file) (.inr (.inl rfl))
  refine runHook_looks.mono ?_ ?_
  · rintro _ now' ⟨late, hrun⟩
    refine ⟨_, data₃, hrun₄.trans (run_fills hrun), htext₃, hrun.mayPersist_file
      (fun _ hquiet disk => hquiet.keepsInodes disk file) fun disk hdisk => ?_⟩
    rw [World.mayPersist_record, if_pos (by simp [Event.syncs])] at hdisk
    cases List.mem_singleton.1 hdisk
    exact host.os.others_keep now₃ file data₃ hfile₃
  · rintro _ now' ⟨late, hrun⟩
    exact htrans hrun₄ ⟨late, run_fills hrun⟩

end Prepare

/-! ### From the new file on -/

section Install

variable {host : Host} {world now : World FileData} {late : List (Step FileData)}

theorem install_ends (site : Site) {hook : DurabilityHook} {text : String} {parentPath : Path}
    {data : FileData} (hne : site.tempName ≠ site.targetName)
    (haside : Run host.os (Aside site.targetName) world late now)
    (hcareful : Careful site.targetName late)
    (hcreated : ∃ step ∈ late, ∃ data,
      step.event = .created site.parent site.tempName site.file data)
    (hidentified : site.newIdentity = site.file ∨ Swapped late)
    (hkept : OthersKeep site.parent site.targetName late →
      world.disk.entry site.parent site.targetName = site.previous.map ConfigTarget.identity)
    (hold : ∀ previous, site.previous = some previous →
      Owned site.targetName late site.parent previous.identity)
    (hfile : now.disk.inode site.file = some (.file data)) (htext : data.text = "") :
    Attempt.Ends
      (install host hook text parentPath site.parent site.targetName site.tempName site.file
        site.newIdentity site.previous) now
      (fun _ now' => ∃ prepared data, data.text = text ∧
        (∀ disk ∈ prepared.mayPersist site.file, disk.inode site.file = some (.file data)) ∧
        Installed host site parentPath world prepared now')
      (fun e now' => ∃ prepared, Failed host site world prepared e now') := by
  unfold install
  refine .bind (Q := fun result now' => (∃ newer, Run host.os (Fills site.file) now newer now') ∧
      (result = .ok () → ∃ data : FileData, data.text = text ∧
        ∀ disk ∈ now'.mayPersist site.file, disk.inode site.file = some (.file data)))
    (.capture ((prepare_ends hfile htext).mono ?_ ?_)) ?_
  · rintro _ now' ⟨newer, data, hrun, htext, hdurable⟩
    exact ⟨⟨newer, hrun⟩, fun _ => ⟨data, htext, hdurable⟩⟩
  · rintro _ now' hrun
    exact ⟨hrun, by simp⟩
  rintro result prepared ⟨⟨newer, hrun⟩, hdurable⟩
  have haside := haside.trans (hrun.mono fun _ hfills dir => hfills.not_touches dir site.targetName)
  have htracked : Tracked host site world prepared (newer ++ late) prepared := by
    refine ⟨haside.mono fun _ h dir htouches => absurd htouches (h dir),
      hcareful.append newer fun step hstep => ?_, ⟨[], .refl⟩, ?_,
      hidentified.imp_right fun h => h.append newer, fun hkeep => hkept hkeep.of_append.2,
      fun previous hprevious => (hold previous hprevious).append newer⟩
    · rcases hrun.event_of_mem hstep with hothers | hfills
      · rw [hothers]
        rfl
      · exact hfills.not_unlinks
    · obtain ⟨step, hstep, hcreated⟩ := hcreated
      exact ⟨step, List.mem_append_right _ hstep, hcreated⟩
  cases result with
  | error operation =>
      exact (cleanup_fails (Q := fun _ _ => False) hne htracked haside).mono
        (fun _ _ h => h.elim) fun _ _ h => ⟨prepared, h⟩
  | ok _ =>
  obtain ⟨data, htext, hdurable⟩ := hdurable rfl
  suffices h : Attempt.Ends _ prepared
      (fun _ => Installed host site parentPath world prepared) (Failed host site world prepared) from
    h.mono (fun _ _ h => ⟨prepared, data, htext, hdurable, h⟩) fun _ _ h => ⟨prepared, h⟩
  refine .bind (parentPathMatches_ends.mono (fun _ _ h => h) fun _ _ h => h.elim) ?_
  rintro same now₁ ⟨late₁, hrun₁, -⟩
  have htracked₁ := htracked.look hrun₁
  have haside₁ := haside.trans (run_aside_of_quiet hrun₁)
  cases same with
  | false => exact cleanup_fails hne htracked₁ haside₁
  | true =>
  refine .bind (targetMatchesAt_looks.mono (fun _ _ h => h) fun _ _ h => h.elim) ?_
  rintro same now₂ ⟨late₂, hrun₂⟩
  have htracked₂ := htracked₁.look hrun₂
  have haside₂ := haside₁.trans (run_aside_of_quiet hrun₂)
  cases same with
  | false => exact cleanup_fails hne htracked₂ haside₂
  | true =>
      cases hprevious : site.previous with
      | some previous => exact installOver_ends hprevious hne htracked₂ haside₂
      | none => exact installNew_ends hprevious hne htracked₂ haside₂

end Install

/-! ### Opening the parent and creating the new file -/

section Open

variable {host : Host} {now now' : World FileData}

/-- The steps that open a directory and make those that are missing. -/
def Opens (event : Event FileData) : Prop :=
  event.Quiet ∨ (∃ dir name ino, event = .made dir name ino) ∨ ∃ ino, event = .synced ino

def Opened (host : Host) (now now' : World FileData) : Prop :=
  ∃ late, Run host.os Opens now late now'

theorem Opened.trans {now'' : World FileData} (h : Opened host now now')
    (h' : Opened host now' now'') : Opened host now now'' := by
  obtain ⟨late, hrun⟩ := h
  obtain ⟨late', hrun'⟩ := h'
  exact ⟨late' ++ late, hrun.trans hrun'⟩

theorem Looked.opened (h : Looked host now now') : Opened host now now' := by
  obtain ⟨late, hrun⟩ := h
  exact ⟨late, hrun.mono fun _ => .inl⟩

theorem createat_ends {parent : Ino} {name : String} {mode : ℕ} :
    Attempt.Ends (createat host parent name mode) now
      (fun result now' => match result with
        | .ok ino => (host.os.others now).entry parent name = none ∧
            ino = host.os.allocate (now.disturb (host.os.others now)) ∧
            now' = (now.disturb (host.os.others now)).record
              (.created parent name ino ⟨"", mode, host.uid, host.gid⟩)
        | .error _ => Looked host now now')
      (fun _ _ => False) := by
  have hidle : (Event.idle : Event FileData).Quiet := trivial
  unfold createat sys
  refine call_ends ?_ ?_ ?_
  · exact Looked.call hidle
  · exact fun _ _ => Looked.call hidle
  · intro ino event h
    split at h
    · rename_i hfound
      cases h
      exact ⟨lookupAt_eq_notFound hfound, rfl, rfl⟩
    · cases h
    · cases h

/-- The new file is the first free name that is tried. -/
theorem createUniqueAdjacentAt_ends {parent : Ino} {target tag : String}
    {names : World FileData → Result ℕ} {attempts : ℕ} :
    Attempt.Ends (createUniqueAdjacentAt host parent target tag names attempts) now
      (fun made now' => ∃ late seen sequence, Run host.os Event.Quiet now late seen ∧
        made.1 = adjacentName target tag sequence ∧
        (host.os.others seen).entry parent made.1 = none ∧
        made.2 = host.os.allocate (seen.disturb (host.os.others seen)) ∧
        now' = (seen.disturb (host.os.others seen)).record
          (.created parent made.1 made.2 ⟨"", 0o600, host.uid, host.gid⟩))
      (fun _ => Looked host now) := by
  induction attempts generalizing now with
  | zero => exact Looked.refl
  | succ attempts ih =>
      unfold createUniqueAdjacentAt
      refine .bindGet (.bindOfExcept (fun _ _ => Looked.refl) fun sequence _ => ?_)
      refine .bind (createat_ends.mono (fun _ _ h => h) fun _ _ h => h.elim) ?_
      intro result now₁ hresult
      cases result with
      | ok ino =>
          obtain ⟨hfree, hino, rfl⟩ := hresult
          exact ⟨[], now, sequence, .refl, rfl, hfree, hino, rfl⟩
      | error kind =>
          obtain ⟨early, hearly⟩ := hresult
          cases kind with
          | notFound => exact ⟨early, hearly⟩
          | invalidData => exact ⟨early, hearly⟩
          | other => exact ⟨early, hearly⟩
          | alreadyExists =>
              refine ih.mono ?_ fun _ _ h => Looked.trans ⟨early, hearly⟩ h
              rintro made now' ⟨late, seen, sequence, hrun, hmade⟩
              exact ⟨_, seen, sequence, hearly.trans hrun, hmade⟩

theorem adjacentName_ne (target tag : String) (sequence : ℕ) :
    adjacentName target tag sequence ≠ target := by
  intro h
  have hlength := congrArg String.length h
  simp only [adjacentName, String.length_append] at hlength
  have hdot : (".".length) = 1 := rfl
  omega

end Open

/-! ### What others do meanwhile -/

section Others

variable {dir ino : Ino} {name : String} {late : List (Step FileData)} {host : Host}
  {world now : World FileData}

/-- Where the names of a run of steps stand that leaves them to the others. -/
theorem run_entry_eq {allowed : Event FileData → Prop} (h : Run host.os allowed world late now)
    (hallowed : ∀ event, allowed event → ¬event.touches dir name) (hkeep : OthersKeep dir name late) :
    now.disk.entry dir name = world.disk.entry dir name ∧
      ∀ step ∈ late, step.before.entry dir name = world.disk.entry dir name := by
  refine h.entry_eq fun step hstep hevent => ?_
  rcases hevent with hothers | htouches
  · exact hkeep step hstep hothers
  · rcases h.event_of_mem hstep with hothers | hevent
    · rw [hothers] at htouches
      exact htouches.elim
    · exact absurd htouches (hallowed _ hevent)

theorem Settled.entry_eq {found : Option Ino} (h : Settled host dir name found world now)
    (hpast : now.past = late ++ world.past) (hkeep : OthersKeep dir name late) :
    now.disk.entry dir name = found := by
  obtain ⟨earlier, base, newer, hbase, hentry, hrun, -⟩ := h
  have hlate : late = newer ++ earlier := by
    have := hrun.past_eq
    rw [hpast, hbase, ← List.append_assoc] at this
    exact List.append_cancel_right this
  rw [hlate] at hkeep
  exact (run_entry_eq hrun (fun _ h => h) hkeep.of_append.1).1.trans hentry

theorem Settled.mayPersist_ne {found : Option Ino} (h : Settled host dir name found world now)
    (hpast : now.past = late ++ world.past) (hnever : OthersNeverPut ino dir name late)
    (hne : found ≠ some ino) : ∀ disk ∈ now.mayPersist dir, disk.entry dir name ≠ some ino := by
  obtain ⟨earlier, base, newer, hbase, hentry, hrun, hsync⟩ := h
  have hlate : late = newer ++ earlier := by
    have := hrun.past_eq
    rw [hpast, hbase, ← List.append_assoc] at this
    exact List.append_cancel_right this
  rw [hlate] at hnever
  rw [← hentry] at hne
  obtain ⟨hnow, hsteps⟩ := hrun.entry_ne (fun _ h => h) hnever.of_append.1 hne
  intro disk hdisk
  rcases hrun.mem_mayPersist hsync hdisk with rfl | ⟨step, hstep, rfl⟩
  · exact hnow
  · exact hsteps step hstep

end Others

/-! ### The outcome -/

section Outcome

variable {host : Host} {world now : World FileData} {late : List (Step FileData)}
  {targetName text : String} {parentPath : Path}

/-- The file that the call created was seen at the target, after which the
parent path was seen to lead to its directory; and its content is on the disk
for good. As long as nobody else changed the target since it was seen, no crash
takes the file away from it. -/
def HoldsCandidate (host : Host) (parentPath : Path) (targetName text : String)
    (world now : World FileData) : Prop :=
  ∃ (parent file : Ino) (data : FileData) (earlier newer : List (Step FileData))
      (verified : World FileData),
    verified.past = earlier ++ world.past ∧ now.past = newer ++ verified.past ∧
    (∃ step ∈ earlier, ∃ name data, step.event = .created parent name file data) ∧
    verified.disk.entry parent targetName = some file ∧
    (∃ step ∈ newer, LeadsTo host parentPath step.before parent) ∧
    (OthersKeep parent targetName newer →
      ∀ disk ∈ now.mayPersist parent, disk.entry parent targetName = some file) ∧
    data.text = text ∧ ∀ disk ∈ now.mayPersist file, disk.inode file = some (.file data)

/-- The parts of `HoldsCandidate` for a given directory. -/
def HoldsIn (host : Host) (parentPath : Path) (targetName text : String) (parent : Ino)
    (world now : World FileData) : Prop :=
  ∃ (file : Ino) (data : FileData) (earlier newer : List (Step FileData))
      (verified : World FileData),
    verified.past = earlier ++ world.past ∧ now.past = newer ++ verified.past ∧
    (∃ step ∈ earlier, ∃ name data, step.event = .created parent name file data) ∧
    verified.disk.entry parent targetName = some file ∧
    (∃ step ∈ newer, LeadsTo host parentPath step.before parent) ∧
    (OthersKeep parent targetName newer →
      ∀ disk ∈ now.mayPersist parent, disk.entry parent targetName = some file) ∧
    data.text = text ∧ ∀ disk ∈ now.mayPersist file, disk.inode file = some (.file data)

/-- The file that the call created, if any, is not at the target and does not
come to be there after a crash, unless somebody else put it there. -/
def NotInstalled (targetName : String) (late : List (Step FileData)) (now : World FileData) : Prop :=
  (∀ step ∈ late, step.event.creates = false) ∨
    ∃ parent name file data, (∃ step ∈ late, step.event = .created parent name file data) ∧
      (OthersNeverPut file parent targetName late →
        ∀ disk ∈ now.mayPersist parent, disk.entry parent targetName ≠ some file)

/-- How a save fails that is sure that it did not publish the candidate: what
stood at the target is there if nobody else changed it. The directories on the
way that the call made itself are no targets. -/
def Refused (targetName : String) (world : World FileData) (late : List (Step FileData))
    (now : World FileData) : Prop :=
  NotInstalled targetName late now ∧
    ∀ dir, OthersKeep dir targetName late →
      (∀ step ∈ late, ∀ ino, step.event ≠ .made dir targetName ino) →
      now.disk.entry dir targetName = world.disk.entry dir targetName

/-- A step that leaves every target alone and removes nothing. -/
def Begins (targetName : String) (event : Event FileData) : Prop :=
  Aside targetName event ∧ event.unlinks = false

theorem run_begins (hrun : Run host.os Event.Quiet world late now) :
    Run host.os (Begins targetName) world late now :=
  hrun.mono fun _ hquiet => ⟨fun dir => hquiet.not_touches dir targetName, hquiet.not_unlinks⟩

theorem careful_of_begins (hrun : Run host.os (Begins targetName) world late now) :
    Careful targetName late := by
  have hnil : Careful targetName [] := trivial
  rw [← List.append_nil late]
  refine hnil.append late fun step hstep => ?_
  rcases hrun.event_of_mem hstep with hothers | hbegins
  · rw [hothers]
    rfl
  · exact hbegins.2

/-- A save that only looked. -/
theorem refused_of_looked (hrun : Run host.os Event.Quiet world late now) :
    Refused targetName world late now := by
  refine ⟨.inl fun step hstep => ?_, fun dir hkeep _ =>
    (run_entry_eq hrun (fun _ hquiet => hquiet.not_touches _ _) hkeep).1⟩
  rcases hrun.event_of_mem hstep with hothers | hquiet
  · rw [hothers]
    rfl
  · exact hquiet.not_creates

/-- A save that created its file and left every target alone. -/
theorem refused_of_aside {parent file : Ino} {name : String} {data : FileData}
    (hrun : Run host.os (Aside targetName) world late now)
    (hcreated : ∃ step ∈ late, step.event = .created parent name file data)
    (hfresh : ∀ disk ∈ world.states, ∀ dir name, disk.entry dir name ≠ some file) :
    Refused targetName world late now := by
  refine ⟨.inr ⟨parent, name, file, data, hcreated, fun hnever => ?_⟩, fun dir hkeep _ =>
    (run_entry_eq hrun (fun _ h => h dir) hkeep).1⟩
  obtain ⟨hnow, hsteps⟩ := hrun.entry_ne (fun _ h => h parent) hnever
    (hfresh _ List.mem_cons_self parent targetName)
  intro disk hdisk
  rcases hrun.mem_mayPersist_or hdisk with rfl | ⟨step, hstep, rfl⟩ | hbefore
  · exact hnow
  · exact hsteps step hstep
  · exact hfresh disk (World.mem_states_of_mem_mayPersist hbefore) parent targetName

theorem Failed.refused {site : Site} {prepared : World FileData} {e : LambError}
    (h : Failed host site world prepared e now)
    (hfresh : ∀ disk ∈ world.states, ∀ dir name, disk.entry dir name ≠ some site.file)
    (hprevious : ∀ previous, site.previous = some previous → previous.identity ≠ site.file) :
    ∃ late, now.past = late ++ world.past ∧ Careful site.targetName late ∧
      (Unsure e ∨ Refused site.targetName world late now) := by
  obtain ⟨late, htracked, hcase⟩ := h
  refine ⟨late, htracked.past, htracked.careful, ?_⟩
  obtain ⟨step, hstep, data, hcreated⟩ := htracked.created
  rcases hcase with haside | hunsure | hsettled
  · exact .inr (refused_of_aside haside ⟨step, hstep, hcreated⟩ hfresh)
  · exact .inl hunsure
  · refine .inr ⟨.inr ⟨site.parent, site.tempName, site.file, data, ⟨step, hstep, hcreated⟩,
      fun hnever => hsettled.mayPersist_ne htracked.past hnever ?_⟩, fun dir hkeep _ => ?_⟩
    · intro heq
      cases hcase : site.previous with
      | none =>
          rw [hcase] at heq
          cases heq
      | some previous =>
          rw [hcase] at heq
          exact hprevious previous hcase (Option.some.inj heq)
    · by_cases hdir : dir = site.parent
      · rw [hdir] at hkeep ⊢
        rw [hsettled.entry_eq htracked.past hkeep, htracked.kept hkeep]
      · exact (run_entry_eq htracked.run (fun _ hwithin htouches => hdir (hwithin dir htouches))
          hkeep).1

theorem Installed.holds {site : Site} {prepared : World FileData} {data : FileData}
    (h : Installed host site parentPath world prepared now) (htext : data.text = text)
    (hdurable : ∀ disk ∈ prepared.mayPersist site.file, disk.inode site.file = some (.file data)) :
    ∃ late, Run host.os (Within site) world late now ∧ Careful site.targetName late ∧
      (Swapped late ∨ HoldsIn host parentPath site.targetName text site.parent world now) := by
  obtain ⟨⟨late, htracked⟩, earlier, base, newer, hbase, hentry, hrun, hsync, hleads⟩ := h
  refine ⟨late, htracked.run, htracked.careful, ?_⟩
  rcases htracked.identified with heq | hswapped
  · obtain ⟨step, hstep, data', hcreated⟩ := hbase.created
    rw [heq] at hentry
    refine .inr ⟨site.file, data, earlier, newer, base, hbase.past, hrun.past_eq,
      ⟨step, hstep, site.tempName, data', hcreated⟩, hentry, hleads, fun hkeep disk hdisk => ?_,
      htext, ?_⟩
    · obtain ⟨hnow, hsteps⟩ := run_entry_eq hrun (fun _ h => h) hkeep
      rcases hrun.mem_mayPersist hsync hdisk with rfl | ⟨step, hstep, rfl⟩
      · exact hnow.trans hentry
      · exact (hsteps step hstep).trans hentry
    · obtain ⟨newest, hnewest⟩ := htracked.inodes
      exact hnewest.mayPersist_file (fun _ hkeeps disk => hkeeps disk site.file) hdurable
  · exact .inl hswapped

/-- What every save tells about its steps, from where its parent is open. -/
theorem replaceTarget_ends {hook : DurabilityHook} {parent : Ino}
    {nameSource : World FileData → Result ℕ} :
    Attempt.Ends (replaceTarget host hook text parentPath parent targetName nameSource) world
      (fun _ now => ∃ allowed late, Run host.os allowed world late now ∧ Careful targetName late ∧
        (Swapped late ∨ HoldsIn host parentPath targetName text parent world now))
      (fun e now => ∃ late, now.past = late ++ world.past ∧ Careful targetName late ∧
        (Unsure e ∨ Refused targetName world late now)) := by
  have hlooked : ∀ {e late now}, Run host.os Event.Quiet world late now →
      ∃ late, now.past = late ++ world.past ∧ Careful targetName late ∧
        (Unsure e ∨ Refused targetName world late now) := by
    intro e late now hrun
    exact ⟨late, hrun.past_eq, careful_of_begins (run_begins hrun), .inr (refused_of_looked hrun)⟩
  unfold replaceTarget
  refine .bind (captureConfigTargetAt_ends.mono (fun _ _ h => h) fun _ _ ⟨_, h⟩ => hlooked h) ?_
  rintro previous captured ⟨seenEvent, hsaw, hseen, hprevious⟩
  refine .bind (createUniqueAdjacentAt_ends.mono (fun _ _ h => h) fun _ _ ⟨_, h⟩ =>
    hlooked (hsaw.run.trans h)) ?_
  rintro ⟨tempName, file⟩ _ ⟨searching, free, sequence, hsearch, hname, -, hfile, rfl⟩
  dsimp only at hname hfile ⊢
  have hne : tempName ≠ targetName := by
    rw [hname]
    exact adjacentName_ne _ _ _
  -- the number of the new file was nowhere before
  have hfresh : ∀ disk ∈ captured.states, ∀ dir name, disk.entry dir name ≠ some file := by
    intro disk hdisk
    rw [hfile]
    refine (host.os.allocate_fresh _ disk ?_).2
    rw [World.states_disturb]
    exact List.mem_cons_of_mem _ (hsearch.mem_states hdisk)
  have hworld : ∀ disk ∈ world.states, ∀ dir name, disk.entry dir name ≠ some file :=
    fun disk hdisk => hfresh disk (hsaw.run.mem_states hdisk)
  have hfound : Run host.os (Begins targetName) world _ free :=
    run_begins (hsaw.run.trans hsearch)
  have hcreate := hfound.call (.created parent tempName file ⟨"", 0o600, host.uid, host.gid⟩)
    ⟨fun dir htouches => hne htouches.2.symm, rfl⟩
  refine .bind (fileIdentityAt_ends.mono (fun _ _ h => h) ?_) ?_
  · rintro e now ⟨newer, hrun⟩
    have hbegun := hcreate.trans (run_begins hrun)
    exact ⟨_, hbegun.past_eq, careful_of_begins hbegun, .inr (refused_of_aside
      (hbegun.mono fun _ h => h.1) ⟨_, List.mem_append_right _ List.mem_cons_self, rfl⟩ hworld)⟩
  · rintro newIdentity now ⟨event, hidentity, hentry⟩
    obtain ⟨late, hlate, hbegun⟩ : ∃ late, late = _ ∧ Run host.os (Begins targetName) world late now :=
      ⟨_, rfl, hcreate.trans (run_begins hidentity.run)⟩
    have hfirst : previous.map ConfigTarget.identity ≠ some file := by
      rw [← hprevious]
      exact hfresh _ List.mem_cons_self parent targetName
    have hcreated : ∃ step ∈ late, ∃ data, step.event = .created parent tempName file data := by
      rw [hlate]
      exact ⟨_, List.mem_append_right _ List.mem_cons_self, _, rfl⟩
    have hidentified : newIdentity = file ∨ Swapped late := by
      by_cases heq : newIdentity = file
      · exact .inl heq
      · refine .inr ⟨[_], _, _, _, parent, tempName, file, _, hlate, rfl, rfl, ?_⟩
        rw [hidentity.2, World.record_disk, hidentity.1.apply_eq, World.disturb_disk] at hentry
        rw [hentry]
        exact fun h => heq (Option.some.inj h)
    have hcaptured : ∀ found, previous = some found → Owned targetName late parent
        found.identity := by
      intro found hfound
      refine .inr (.inl ⟨_ :: _ :: _ :: _ :: searching, _, [_], hlate, hseen found hfound, ?_⟩)
      simp [Event.creates]
    have hkept : OthersKeep parent targetName late →
        world.disk.entry parent targetName = previous.map ConfigTarget.identity := by
      intro hkeep
      rw [← hprevious]
      refine (run_entry_eq hsaw.run (fun _ h => h.not_touches _ _) fun step hstep => ?_).1.symm
      refine hkeep step ?_
      rw [hlate]
      exact List.mem_append_right _ (List.mem_cons_of_mem _ (List.mem_cons_of_mem _
        (List.mem_append_right _ hstep)))
    have hinode : now.disk.inode file = some (.file ⟨"", 0o600, host.uid, host.gid⟩) := by
      rw [hidentity.2, World.record_disk, hidentity.1.apply_eq, World.disturb_disk]
      refine host.os.others_keep _ _ _ ?_
      rw [World.record_disk, Event.apply, Disk.inode_setEntry, Disk.inode_setInode, if_pos rfl]
    refine (install_ends ⟨parent, targetName, tempName, file, newIdentity, previous⟩ hne
      (hbegun.mono fun _ h => h.1) (careful_of_begins hbegun) hcreated hidentified hkept hcaptured
      hinode rfl).mono ?_ ?_
    · rintro _ now' ⟨prepared, data, htext, hdurable, hinstalled⟩
      exact ⟨_, hinstalled.holds htext hdurable⟩
    · rintro e now' ⟨prepared, hfailed⟩
      refine hfailed.refused hworld ?_
      rintro found hfound heq
      refine hfirst ?_
      change previous = some found at hfound
      rw [hfound, Option.map_some, heq]

end Outcome

/-! ### From the first directory on -/

section Whole

variable {host : Host} {world opened now : World FileData}
  {late opening : List (Step FileData)} {targetName text : String} {parentPath : Path}

theorem opens_event (hrun : Run host.os Opens world opening opened) {step : Step FileData}
    (hstep : step ∈ opening) : step.event.creates = false ∧ step.event.unlinks = false := by
  rcases hrun.event_of_mem hstep with hothers | hquiet | ⟨dir, name, ino, hmade⟩ | ⟨ino, hsynced⟩
  · rw [hothers]
    exact ⟨rfl, rfl⟩
  · exact ⟨hquiet.not_creates, hquiet.not_unlinks⟩
  · rw [hmade]
    exact ⟨rfl, rfl⟩
  · rw [hsynced]
    exact ⟨rfl, rfl⟩

theorem Swapped.after (h : Swapped late) (opening : List (Step FileData)) :
    Swapped (late ++ opening) := by
  obtain ⟨newer, swap, made, older, dir, name, ino, data, rfl, hrest⟩ := h
  exact ⟨newer, swap, made, older ++ opening, dir, name, ino, data, by simp, hrest⟩

theorem Owned.after {dir ino : Ino} (h : Owned targetName late dir ino)
    (hopening : ∀ step ∈ opening, step.event.creates = false) :
    Owned targetName (late ++ opening) dir ino := by
  rcases h with ⟨step, hstep, hcreated⟩ | ⟨newer, seen, older, rfl, hseen, holder⟩ | hswapped
  · exact .inl ⟨step, List.mem_append_left _ hstep, hcreated⟩
  · refine .inr (.inl ⟨newer, seen, older ++ opening, by simp, hseen, fun step hstep => ?_⟩)
    rcases List.mem_append.1 hstep with hstep | hstep
    · exact holder step hstep
    · exact hopening step hstep
  · exact .inr (.inr (hswapped.after opening))

theorem Careful.after (h : Careful targetName late)
    (hrun : Run host.os Opens world opening opened) : Careful targetName (late ++ opening) := by
  induction late with
  | nil =>
      have hnil : Careful targetName [] := trivial
      simpa using hnil.append opening fun step hstep => (opens_event hrun hstep).2
  | cons step late ih =>
      obtain ⟨hstep, hlate⟩ := h
      refine ⟨fun dir name ino hevent hentry => ?_, ih hlate⟩
      rcases hstep dir name ino hevent hentry with howned | ⟨swap, older, rfl, hswap⟩
      · exact .inl (howned.after fun step hstep => (opens_event hrun hstep).1)
      · exact .inr ⟨swap, older ++ opening, rfl, hswap⟩

theorem Refused.after (h : Refused targetName opened late now)
    (hrun : Run host.os Opens world opening opened) :
    Refused targetName world (late ++ opening) now := by
  refine ⟨?_, fun dir hkeep hmade => ?_⟩
  · rcases h.1 with hnone | ⟨parent, name, file, data, ⟨step, hstep, hcreated⟩, hnever⟩
    · refine .inl fun step hstep => ?_
      rcases List.mem_append.1 hstep with hstep | hstep
      · exact hnone step hstep
      · exact (opens_event hrun hstep).1
    · exact .inr ⟨parent, name, file, data, ⟨step, List.mem_append_left _ hstep, hcreated⟩,
        fun hothers => hnever hothers.of_append.1⟩
  · rw [h.2 dir hkeep.of_append.1 fun step hstep => hmade step (List.mem_append_left _ hstep)]
    refine (hrun.entry_eq fun step hstep hevent => ?_).1
    rcases hevent with hothers | htouches
    · exact hkeep.of_append.2 step hstep hothers
    · rcases hrun.event_of_mem hstep with hothers | hquiet | ⟨dir', name, ino, hevent⟩ |
        ⟨ino, hevent⟩
      · exact hkeep.of_append.2 step hstep hothers
      · exact absurd htouches (hquiet.not_touches dir targetName)
      · rw [hevent] at htouches
        obtain ⟨rfl, rfl⟩ := htouches
        exact absurd hevent (hmade step (List.mem_append_right _ hstep) ino)
      · rw [hevent] at htouches
        exact htouches.elim

theorem HoldsCandidate.after (h : HoldsCandidate host parentPath targetName text opened now)
    (hrun : Run host.os Opens world opening opened) :
    HoldsCandidate host parentPath targetName text world now := by
  obtain ⟨parent, file, data, earlier, newer, verified, hverified, hnow, ⟨step, hstep, hcreated⟩,
    hrest⟩ := h
  refine ⟨parent, file, data, earlier ++ opening, newer, verified, ?_, hnow,
    ⟨step, List.mem_append_left _ hstep, hcreated⟩, hrest⟩
  rw [hverified, hrun.past_eq, List.append_assoc]

/-- The name of the file a save replaces. -/
def targetOf (path : Path) : String :=
  path.fileName.getD ""

/-- The text that a save writes reads back as the candidate. -/
theorem fromStr_of_serialized {α : Type} [DecidableEq α] {format : ConfigFormat α} {candidate : α}
    (h : serialized format candidate = .ok text) : format.fromStr text = .ok candidate := by
  unfold serialized at h
  obtain ⟨_, -, h⟩ := bind_eq_ok.1 h
  obtain ⟨pretty, -, h⟩ := bind_eq_ok.1 h
  obtain ⟨roundTrip, hparse, h⟩ := bind_eq_ok.1 h
  obtain ⟨_, hsame, h⟩ := bind_eq_ok.1 h
  cases h
  rw [hparse, ensure_eq_ok.1 hsame]

end Whole

end Lamb.Calibration
