import Lamb.Calibration.Together

/-!
Which generations an operation removes. A reset and a start of the daemon remove
what the whole configuration does not refer to; a calibration removes the one
generation that it replaced, whoever else refers to it.

A configuration may be durable if some state after a crash reads as it: the
directory as it was at some moment since it was last synchronized, and the file
that its entry led to then, as it was at some moment since that was.
-/

namespace Lamb.Calibration

open Lamb.Lib Lamb.Lib.SharedDisk

section Config

variable {δ π ρ : Type} {config : AppConfig δ π ρ} {profile : ProfileConfig δ π}
  {reference : String × String}

theorem mem_calibrationReferences : reference ∈ calibrationReferences config ↔
    ∃ entry ∈ config.profiles.entries, ∃ channel ∈ entry.2.channels.entries,
      ∃ activity, channel.2 = some activity ∧ activity.generation = some reference := by
  simp only [calibrationReferences, ProfileConfig.activities, List.mem_flatMap, List.mem_filterMap]
  constructor
  · rintro ⟨entry, hentry, activity, ⟨channel, hchannel, hactivity⟩, hreference⟩
    exact ⟨entry, hentry, channel, hchannel, activity, hactivity, hreference⟩
  · rintro ⟨entry, hentry, channel, hchannel, activity, hactivity, hreference⟩
    exact ⟨entry, hentry, activity, ⟨channel, hchannel, hactivity⟩, hreference⟩

/-- Changing the threshold of a channel refers to the generation of the new one
and to those of the others. -/
theorem mem_references_setActivity {profileName channel : String}
    {activity : Option (ActivityThresholdConfig δ)}
    (h : reference ∈ calibrationReferences
      (config.setActivity profileName profile channel activity)) :
    reference ∈ calibrationReferences (config.setActivity profileName profile channel none) ∨
      activity.bind ActivityThresholdConfig.generation = some reference := by
  obtain ⟨entry, hentry, found, hfound, threshold, hthreshold, hreference⟩ :=
    mem_calibrationReferences.1 h
  rcases Table.mem_put.1 hentry with rfl | hother
  · rcases Table.mem_put.1 hfound with rfl | hother
    · right
      dsimp only at hthreshold
      rw [hthreshold]
      exact hreference
    · exact .inl (mem_calibrationReferences.2 ⟨_, Table.mem_put.2 (.inl rfl), found,
        Table.mem_put.2 (.inr hother), threshold, hthreshold, hreference⟩)
  · exact .inl (mem_calibrationReferences.2 ⟨entry, Table.mem_put.2 (.inr hother), found, hfound,
      threshold, hthreshold, hreference⟩)

end Config

/-! ### What may be durable -/

section Durable

variable {γ φ δ π ρ κ : Type} {ctx : DaemonContext γ φ δ π ρ κ} {world : World FileData}
  {config candidate : AppConfig δ π ρ}

/-- A configuration that may be there after a crash. -/
def MayBeDurable (ctx : DaemonContext γ φ δ π ρ κ) (world : World FileData)
    (config : AppConfig δ π ρ) : Prop :=
  ∃ parentPath targetName parent file data,
    ctx.configPath.parent = some parentPath ∧ ctx.configPath.fileName = some targetName ∧
    LeadsTo ctx.host parentPath world.disk parent ∧
    (∃ disk ∈ world.mayPersist parent, disk.entry parent targetName = some file) ∧
    (∃ disk ∈ world.mayPersist file, disk.inode file = some (.file data)) ∧
    ctx.format.fromStr data.text = .ok config

/-- What can be read now may be durable. -/
theorem Stored.mayBeDurable (h : Stored ctx world.disk config) : MayBeDurable ctx world config := by
  obtain ⟨file, data, ⟨parentPath, targetName, parent, hparent, hname, hat⟩, htext⟩ := h
  exact ⟨parentPath, targetName, parent, file, data, hparent, hname, hat.leads,
    ⟨_, List.mem_cons_self, hat.entry⟩, ⟨_, List.mem_cons_self, hat.inode⟩, htext⟩

variable [DecidableEq δ] [DecidableEq π] [DecidableEq ρ]

/-- After a save that returned, no configuration may be durable but the
candidate. -/
theorem savedDisk_durable (halone : Alone ctx.host)
    (hfile : ∃ file data, OnDisk ctx world.disk file data) (candidate : AppConfig δ π ρ)
    (hook : DurabilityHook) (nameSource : World FileData → Result ℕ) :
    Attempt.Ends (savedDisk ctx.host ctx.format ctx.configPath candidate hook nameSource) world
      (fun _ after => ∀ config, MayBeDurable ctx after config → config = candidate)
      (fun _ _ => True) := by
  obtain ⟨file, data, parentPath, targetName, parent, hparent, hname, hat⟩ := hfile
  refine (saveConfigAtomic_alone ctx.format candidate hook nameSource halone hparent hname
    hat).mono ?_ fun _ _ _ => trivial
  rintro _ after ⟨text, htext, ⟨_, _, ⟨⟨names, hnames, hwalk⟩, -, -⟩, -⟩,
    ⟨installed, content, rfl, hentry, hinode⟩⟩
  rintro config ⟨_, _, parent', file', data', hparent', hname', ⟨names', hnames', hwalk'⟩,
    ⟨disk, hdisk, hentry'⟩, ⟨disk', hdisk', hinode'⟩, htext'⟩
  cases hparent.symm.trans hparent'
  cases hname.symm.trans hname'
  cases hnames.symm.trans hnames'
  cases hwalk.symm.trans hwalk'
  cases (hentry disk hdisk).symm.trans hentry'
  cases (hinode disk' hdisk').symm.trans hinode'
  cases htext.symm.trans htext'
  rfl

end Durable

/-! ### The commit -/

section Commit

variable {δ π ρ ℓ : Type} {host : Host} {store : Generations.StoreHost}
  {prepared : PreparedCalibrationGeneration δ} {cleanupHook : Generations.CleanupHook}
  {setup : Setup ℓ}

theorem onStore_authoritative {β : Type} {f : Recovery.Io β} :
    Attempt.Ends (onStore f) setup (fun _ after => after.authoritative = setup.authoritative)
      fun _ after => after.authoritative = setup.authoritative := by
  refine .zoom ?_
  exact Attempt.Ends.mono (Attempt.Ends.of_reached (P := fun _ => True) trivial)
    (fun _ _ _ => rfl) fun _ _ _ => rfl

theorem cleanupWithHook_authoritative :
    Attempt.Ends (cleanupWithHook store prepared cleanupHook) setup
      (fun _ after => after.authoritative = setup.authoritative)
      fun _ after => after.authoritative = setup.authoritative := by
  unfold cleanupWithHook
  exact .bindGet (.ite (fun _ => rfl) fun _ => onStore_authoritative)

theorem cleanupFailedPrecommit_authoritative {β : Type} {operation : LambError}
    {Q : β → Setup ℓ → Prop} :
    Attempt.Ends (cleanupFailedPrecommit store prepared cleanupHook operation) setup Q
      fun _ after => after.authoritative = setup.authoritative := by
  unfold cleanupFailedPrecommit
  refine .bind (Q := fun _ after => after.authoritative = setup.authoritative)
    (.capture cleanupWithHook_authoritative) ?_
  intro result after hafter
  cases result with
  | error error => exact hafter
  | ok removed =>
      cases removed with
      | true => exact hafter
      | false => exact hafter

theorem removePrevious_authoritative {previous : Option Generations.RecordedGeneration}
    {E : LambError → Setup ℓ → Prop} :
    Attempt.Ends (removePrevious store cleanupHook previous) setup
      (fun _ after => after.authoritative = setup.authoritative) E := by
  cases previous with
  | none => exact .pure rfl
  | some old =>
      unfold removePrevious
      refine .bind (Q := fun _ after => after.authoritative = setup.authoritative)
        (.capture onStore_authoritative) ?_
      intro result after hafter
      cases result with
      | error error => exact hafter
      | ok removed =>
          cases removed with
          | true => exact hafter
          | false => exact hafter

variable [DecidableEq δ] [DecidableEq π] [DecidableEq ρ]

/-- A prepared generation is authoritative when its configuration was saved, or
may have been; then it is left alone. -/
theorem commit_authoritative (format : ConfigFormat (AppConfig δ π ρ))
    (validateProfile : String → ProfileConfig δ π → Result Unit) (configPath : Path)
    (candidate : AppConfig δ π ρ) (previous : Option Generations.RecordedGeneration)
    (install : ℓ → ℓ) (configHook : DurabilityHook) (nameSource : World FileData → Result ℕ)
    (hnot : setup.authoritative = false) :
    Attempt.Ends
      (commitPreparedGenerationWithHooks host store prepared cleanupHook format validateProfile
        configPath candidate previous install configHook nameSource) setup
      (fun _ after => after.authoritative = true)
      (fun _ after => after.authoritative = true → after.store = setup.store) := by
  unfold commitPreparedGenerationWithHooks
  have hlost : ∀ {after : Setup ℓ}, after.authoritative = false →
      after.authoritative = true → after.store = setup.store := by
    intro after hfalse htrue
    rw [hfalse] at htrue
    cases htrue
  refine .ite (fun _ => hlost hnot) fun _ => ?_
  cases validateCandidate prepared validateProfile candidate with
  | error operation =>
      exact cleanupFailedPrecommit_authoritative.mono (fun _ _ h => h)
        fun _ _ h => hlost (h.trans hnot)
  | ok _ =>
  refine .bind (Q := fun _ after => after.store = setup.store ∧ after.authoritative = false)
    (.capture (.zoom ?_)) ?_
  · exact Attempt.Ends.mono (Attempt.Ends.of_reached (P := fun _ => True) trivial)
      (fun _ _ _ => ⟨rfl, hnot⟩) fun _ _ _ => ⟨rfl, hnot⟩
  · rintro saved after ⟨hstore, hfalse⟩
    cases saved with
    | error operation =>
        refine .ite (fun _ => .bindModify (.fail fun _ => hstore)) fun _ => ?_
        exact cleanupFailedPrecommit_authoritative.mono (fun _ _ h => h)
          fun _ _ h => hlost (h.trans hfalse)
    | ok _ => exact .bindModify (.bindModify removePrevious_authoritative)

end Commit

/-! ### The operations -/

section Operations

variable {γ φ δ π ρ κ : Type} {ctx : DaemonContext γ φ δ π ρ κ} {occasion : Occasion δ}
  {setup : Setup (AppRuntimeState δ π ρ κ)} {profileName channel : String}

/-- Every generation in `fs` is left alone if a configuration refers to it that
may be durable. -/
def KeepsReferenced (ctx : DaemonContext γ φ δ π ρ κ) (fs : Recovery.FileSystem)
    (after : Setup (AppRuntimeState δ π ρ κ)) : Prop :=
  ∀ config, MayBeDurable ctx after.disk config → ∀ reference ∈ calibrationReferences config,
    fs.lookup (ctx.store.generation reference) ≠ none →
      Generations.Keeps (ctx.store.generation reference) fs after.store.fs

/-- What the preparation of a generation relies on and promises: it makes a new
directory for its input, and leaves the generations that are there alone. -/
def Prepares (store : Generations.StoreHost) (occasion : Occasion δ) : Prop :=
  ∀ configured live threshold now world,
    Attempt.Ends (occasion.prepareGeneration configured live threshold now) world
      (fun prepared after =>
        prepared.location = store.generation (configured.inputId, prepared.calibrationId) ∧
        world.fs.lookup prepared.location = none ∧
        after.fs.lookup prepared.location = some (.directory prepared.identity) ∧
        Generations.Spares (fun location => ∃ reference, location = store.generation reference)
          world.fs after.fs)
      (fun _ after =>
        Generations.Spares (fun location => ∃ reference, location = store.generation reference)
          world.fs after.fs)

/-- Nothing but the channel itself refers to its generation. -/
def AppConfig.Unshared (config : AppConfig δ π ρ) (profileName channel : String) : Prop :=
  ∀ profile reference, config.profiles.lookup profileName = some profile →
    (profile.channels.lookup channel).join.bind ActivityThresholdConfig.generation =
      some reference →
    reference ∉ calibrationReferences (config.setActivity profileName profile channel none)

theorem keepsReferenced_of_eq {fs : Recovery.FileSystem}
    {after : Setup (AppRuntimeState δ π ρ κ)} (h : after.store.fs = fs) :
    KeepsReferenced ctx fs after := by
  intro config _ reference _ _ below _
  rw [h]

theorem capturePrevious_ends {config : AppConfig δ π ρ} {world : Recovery.World} :
    Attempt.Ends (capturePrevious ctx config profileName channel) world
      (fun previous after => after.fs = world.fs ∧ ∀ old ∈ previous, ∃ profile reference,
        config.profiles.lookup profileName = some profile ∧
        (profile.channels.lookup channel).join.bind ActivityThresholdConfig.generation =
          some reference ∧
        old.location = ctx.store.generation reference)
      (fun _ after => after.fs = world.fs) := by
  unfold capturePrevious
  dsimp only
  cases hlookup : config.profiles.lookup profileName with
  | none => exact .pure ⟨rfl, nofun⟩
  | some profile =>
  simp only [Option.bind_some]
  cases hgeneration : (profile.channels.lookup channel).join.bind
      ActivityThresholdConfig.generation with
  | none => exact .pure ⟨rfl, nofun⟩
  | some reference =>
  refine .bind (Q := fun captured after => after.fs = world.fs ∧ ∀ recorded,
      captured = .ok recorded → recorded.location = ctx.store.generation reference)
    (.capture ((Generations.capture_ends (E := fun _ after => after.fs = world.fs)
      fun _ _ h => h).mono ?_ ?_)) ?_
  · rintro recorded after ⟨hfs, hlocation⟩
    refine ⟨hfs, ?_⟩
    rintro _ ⟨rfl⟩
    exact hlocation
  · exact fun _ _ hfs => ⟨hfs, nofun⟩
  rintro captured after ⟨hfs, hlocation⟩
  cases captured with
  | ok recorded =>
      refine .pure ⟨hfs, ?_⟩
      rintro _ ⟨rfl⟩
      exact ⟨profile, reference, rfl, hgeneration, hlocation recorded rfl⟩
  | error e =>
      split
      · next heq => cases heq
      · exact .pure ⟨hfs, nofun⟩
      · exact .fail hfs

/-- A preparation before makes no difference to what is kept. -/
theorem KeepsReferenced.before {fs made : Recovery.FileSystem}
    {after : Setup (AppRuntimeState δ π ρ κ)} (h : KeepsReferenced ctx made after)
    (hspares : Generations.Spares
      (fun location => ∃ reference, location = ctx.store.generation reference) fs made) :
    KeepsReferenced ctx fs after := by
  intro config hconfig reference hreference hsome below hbelow
  have hkept := hspares _ hsome ⟨reference, rfl⟩
  have hsome' : made.lookup (ctx.store.generation reference) ≠ none := by
    rw [hkept _ (List.prefix_refl _)]
    exact hsome
  rw [h config hconfig reference hreference hsome' below hbelow, hkept below hbelow]

/-- A generation that was not there before may go. -/
theorem keepsReferenced_of_spares {prepared : PreparedCalibrationGeneration δ}
    {reference : String × String} {fs made : Recovery.FileSystem}
    {after : Setup (AppRuntimeState δ π ρ κ)}
    (hplace : prepared.location = ctx.store.generation reference)
    (hfree : fs.lookup prepared.location = none)
    (hmade : Generations.Spares
      (fun location => ∃ reference, location = ctx.store.generation reference) fs made)
    (hspares : Generations.Spares (Generations.Apart prepared.location) made after.store.fs) :
    KeepsReferenced ctx fs after := by
  intro config _ other _ hsome below hbelow
  have hkept := hmade _ hsome ⟨other, rfl⟩
  have hsome' : made.lookup (ctx.store.generation other) ≠ none := by
    rw [hkept _ (List.prefix_refl _)]
    exact hsome
  have hapart : Generations.Apart prepared.location (ctx.store.generation other) := by
    rw [hplace] at hfree ⊢
    refine Generations.apart_generation ?_
    rintro rfl
    exact hsome hfree
  rw [hspares _ hsome' hapart below hbelow, hkept below hbelow]

theorem cleanupWithHook_spares {prepared : PreparedCalibrationGeneration δ}
    {hook : Generations.CleanupHook} :
    Attempt.Ends (cleanupWithHook ctx.store prepared hook) setup
      (fun _ after => after.authoritative = setup.authoritative ∧
        (setup.authoritative = true → after = setup) ∧
        Generations.Spares (Generations.Apart prepared.location) setup.store.fs after.store.fs)
      (fun _ after => after.authoritative = setup.authoritative ∧
        (setup.authoritative = true → after = setup) ∧
        Generations.Spares (Generations.Apart prepared.location) setup.store.fs
          after.store.fs) := by
  unfold cleanupWithHook
  refine .bindGet (.ite (fun _ => ⟨rfl, fun _ => rfl, .refl⟩) fun hnot => ?_)
  refine .zoom (Attempt.Ends.mono Generations.sparesIn_removeGenerationAt ?_ ?_)
  · exact fun _ _ h => ⟨rfl, fun htrue => absurd htrue hnot, h⟩
  · exact fun _ _ h => ⟨rfl, fun htrue => absurd htrue hnot, h⟩

variable [DecidableEq δ] [DecidableEq κ]

/-- The store once the request has written its generation, if it gets so far. -/
def ThresholdRequest.written (ctx : DaemonContext γ φ δ π ρ κ) (occasion : Occasion δ)
    (live : AppRuntimeState δ π ρ κ) (store : Recovery.World) :
    ThresholdRequest δ → Recovery.World
  | .calibrate profileName channelName _ =>
      match sessionCalibrationTarget ctx occasion live profileName channelName,
          occasion.deriveThreshold with
      | .ok target, .ok thresholdDbfs =>
          (occasion.prepareGeneration target.configured target.live thresholdDbfs occasion.now
            store).2
      | _, _ => store
  | _ => store

/-- A request removes no generation that a configuration refers to which may be
durable after it; nor does it remove the one that it has made, once that has
become authoritative. -/
def ThresholdRequest.Keeps (request : ThresholdRequest δ) (ctx : DaemonContext γ φ δ π ρ κ)
    (occasion : Occasion δ) (setup after : Setup (AppRuntimeState δ π ρ κ)) : Prop :=
  KeepsReferenced ctx setup.store.fs after ∧
    (after.authoritative = true →
      KeepsReferenced ctx (request.written ctx occasion setup.live setup.store).fs after)

theorem keeps_of_eq {request : ThresholdRequest δ} {after : Setup (AppRuntimeState δ π ρ κ)}
    (hstore : after.store.fs = setup.store.fs) (hnot : after.authoritative = false) :
    request.Keeps ctx occasion setup after := by
  refine ⟨keepsReferenced_of_eq hstore, fun htrue => ?_⟩
  rw [hnot] at htrue
  cases htrue

variable [DecidableEq π] [DecidableEq ρ]

/-- A calibration that succeeds keeps what may be referred to, if the generation
that it replaces is not shared; one that fails touches its own generation at
most, and not even that if it may have been saved. -/
theorem commitCalibration_kept (halone : Alone ctx.host)
    (hfile : ∃ file data, OnDisk ctx setup.disk.disk file data)
    (hnot : setup.authoritative = false) {target : SessionCalibrationTarget δ κ}
    {prepared : PreparedCalibrationGeneration δ} {thresholdDbfs : δ}
    (hplace : prepared.location =
      ctx.store.generation (target.configured.inputId, prepared.calibrationId))
    (hthere : setup.store.fs.lookup prepared.location = some (.directory prepared.identity))
    (hunshared : setup.live.config.Unshared profileName channel) :
    Attempt.Ends
      (commitCalibration ctx occasion profileName channel target prepared thresholdDbfs) setup
      (fun _ after => after.authoritative = true ∧ KeepsReferenced ctx setup.store.fs after)
      (fun _ after =>
        Generations.Spares (Generations.Apart prepared.location) setup.store.fs after.store.fs ∧
        (after.authoritative = true → after.store.fs = setup.store.fs)) := by
  have hfails : ∀ {after : Setup (AppRuntimeState δ π ρ κ)}, after.store.fs = setup.store.fs →
      Generations.Spares (Generations.Apart prepared.location) setup.store.fs after.store.fs ∧
        (after.authoritative = true → after.store.fs = setup.store.fs) := by
    intro after hfs
    rw [hfs]
    exact ⟨.refl, fun _ => rfl⟩
  unfold commitCalibration
  refine .bindGet (.bindRequire (fun _ => hfails rfl) fun _ =>
    .bindRequire (fun _ => hfails rfl) fun _ => ?_)
  refine .bind (Q := fun previous after => (after.store.fs = setup.store.fs ∧
      after.disk = setup.disk ∧ after.authoritative = false) ∧
      ∀ old ∈ previous, ∃ profile reference,
        setup.live.config.profiles.lookup profileName = some profile ∧
        (profile.channels.lookup channel).join.bind ActivityThresholdConfig.generation =
          some reference ∧
        old.location = ctx.store.generation reference)
    (.zoom (capturePrevious_ends.mono ?_ ?_)) ?_
  · rintro previous store ⟨hfs, hold⟩
    exact ⟨⟨hfs, rfl, hnot⟩, hold⟩
  · exact fun _ _ hfs => hfails hfs
  rintro previous captured ⟨⟨hfs, hdisk, hnot⟩, hold⟩
  refine .bindOfExcept (fun _ _ => hfails hfs) fun profile hprofile => ?_
  refine .bindOfExcept (fun _ _ => hfails hfs) fun _ _ => ?_
  refine .bindOfExcept (fun _ _ => hfails hfs) fun resolved _ => ?_
  refine .bindGet ?_
  refine .bindOfExcept (fun _ _ => hfails hfs) fun report _ => ?_
  refine .bindOfExcept (fun _ _ => hfails hfs) fun effective _ => ?_
  rw [← hdisk] at hfile
  refine .bind (((commit_ends ctx.format _ ctx.configPath _ previous _ occasion.configHook
    occasion.nameSource).and (commit_authoritative ctx.format _ ctx.configPath _ previous _
    occasion.configHook occasion.nameSource hnot)).mono (fun _ _ h => h) ?_) ?_
  · rintro e after ⟨⟨-, hcase⟩, hauthoritative⟩
    rw [← hfs]
    refine ⟨?_, fun htrue => by rw [hauthoritative htrue]⟩
    rcases hcase with ⟨-, hspares⟩ | ⟨_, -, ⟨-, hstore⟩ | ⟨-, hspares⟩⟩
    · exact hspares
    · rw [hstore]
      exact .refl
    · exact hspares
  · rintro cleanup after ⟨⟨-, hsaved, hspares, hkeeps⟩, hauthoritative⟩
    refine .pure ⟨hauthoritative, ?_⟩
    rw [← hfs]
    rw [← hfs] at hthere
    have hdurable := savedDisk_durable halone hfile
      (setup.live.config.setActivity profileName profile channel
        (some (calibratedThreshold occasion target prepared thresholdDbfs)))
      occasion.configHook occasion.nameSource
    unfold Attempt.Ends at hdurable
    rw [← hsaved] at hdurable
    intro config hconfig reference hreference hsome
    obtain rfl := hdurable config hconfig
    have hlookup : setup.live.config.profiles.lookup profileName = some profile := by
      unfold AppConfig.profile at hprofile
      cases hfound : setup.live.config.profiles.lookup profileName with
      | none =>
          rw [hfound] at hprofile
          cases hprofile
      | some found =>
          rw [hfound] at hprofile
          exact congrArg some (Except.ok.inj hprofile)
    rcases mem_references_setActivity hreference with hother | hown
    · refine hspares _ hsome fun old hmem => ?_
      obtain ⟨profile', replaced, hlookup', hreplaced, hlocation⟩ := hold old hmem
      rw [hlookup] at hlookup'
      cases hlookup'
      rw [hlocation]
      refine Generations.apart_generation ?_
      rintro rfl
      exact hunshared profile _ hlookup hreplaced hother
    · have hreference : reference = (target.configured.inputId, prepared.calibrationId) := by
        simpa [calibratedThreshold, ActivityThresholdConfig.generation, eq_comm] using hown
      rw [hreference, ← hplace]
      refine hkeeps ⟨hthere, fun old hmem => ?_⟩
      obtain ⟨_, _, -, -, hlocation⟩ := hold old hmem
      rw [hlocation, hplace]
      simp [Generations.StoreHost.generation]

theorem calibrateThreshold_kept (halone : Alone ctx.host)
    (hfile : ∃ file data, OnDisk ctx setup.disk.disk file data)
    (hnot : setup.authoritative = false) (hprepares : Prepares ctx.store occasion)
    (hunshared : setup.live.config.Unshared profileName channel) (seconds : ℕ) :
    Attempt.Ends (calibrateThreshold ctx occasion profileName channel seconds) setup
      (fun _ => (ThresholdRequest.calibrate profileName channel seconds).Keeps ctx occasion setup)
      (fun _ =>
        (ThresholdRequest.calibrate profileName channel seconds).Keeps ctx occasion setup) := by
  have hunchanged : (ThresholdRequest.calibrate profileName channel seconds : ThresholdRequest
      δ).Keeps ctx occasion setup setup := keeps_of_eq rfl hnot
  unfold calibrateThreshold
  refine .bindRequire (fun _ => hunchanged) fun _ => .bindGet ?_
  refine .bindOfExcept (fun _ _ => hunchanged) fun target htarget => ?_
  refine .bindRequire (fun _ => hunchanged) fun _ => .bindRequire (fun _ => hunchanged) fun _ => ?_
  refine .bindOfExcept (fun _ _ => hunchanged) fun usable _ => ?_
  refine .bindRequire (fun _ => hunchanged) fun _ => ?_
  refine .bindOfExcept (fun _ _ => hunchanged) fun thresholdDbfs hderive => ?_
  refine .bindOfExcept (fun _ _ => hunchanged) fun _ _ => ?_
  have hprepare := hprepares target.configured target.live thresholdDbfs occasion.now setup.store
  refine .bindZoom hprepare.traced ?_ ?_
  · rintro prepared made ⟨htraced, hplace, hfree, hthere, hmade⟩
    refine .bindModify ?_
    have hwritten : (ThresholdRequest.calibrate profileName channel seconds).written ctx occasion
        setup.live setup.store = made := by
      simp only [ThresholdRequest.written, htarget, hderive, htraced]
    have hrest : Attempt.Ends
        (commitCalibration ctx occasion profileName channel target prepared thresholdDbfs)
        { setup with store := made, authoritative := false } _ _ :=
      commitCalibration_kept halone (by exact hfile) rfl hplace (by exact hthere)
        (by exact hunshared)
    unfold dropping
    refine .bind (Q := fun result reached => match result with
      | .ok _ => reached.authoritative = true ∧ KeepsReferenced ctx made.fs reached
      | .error _ => Generations.Spares (Generations.Apart prepared.location) made.fs
          reached.store.fs ∧ (reached.authoritative = true → reached.store.fs = made.fs))
      (.capture hrest) ?_
    intro result reached hreached
    refine .bind (Q := fun _ after => after.authoritative = reached.authoritative ∧
        (reached.authoritative = true → after = reached) ∧
        Generations.Spares (Generations.Apart prepared.location) reached.store.fs after.store.fs)
      (.capture cleanupWithHook_spares) ?_
    rintro _ after ⟨hsame, hkept, hspares⟩
    cases result with
    | ok result =>
        obtain ⟨htrue, hkeeps⟩ := hreached
        obtain rfl := hkept htrue
        refine ⟨hkeeps.before hmade, fun _ => ?_⟩
        rw [hwritten]
        exact hkeeps
    | error e =>
        obtain ⟨hlost, hstore⟩ := hreached
        refine ⟨keepsReferenced_of_spares hplace hfree hmade (hlost.trans hspares), fun htrue => ?_⟩
        rw [hsame] at htrue
        obtain rfl := hkept htrue
        rw [hwritten]
        exact keepsReferenced_of_eq (hstore htrue)
  · intro e made hmade
    refine ⟨?_, fun htrue => ?_⟩
    · intro config _ reference _ hsome
      exact hmade _ hsome ⟨reference, rfl⟩
    · dsimp only at htrue
      rw [hnot] at htrue
      cases htrue

theorem mutateThreshold_kept (halone : Alone ctx.host)
    (hfile : ∃ file data, OnDisk ctx setup.disk.disk file data)
    (hnot : setup.authoritative = false) (request : ThresholdRequest δ) (dbfs : Option δ) :
    Attempt.Ends (mutateThreshold ctx occasion profileName channel dbfs) setup
      (fun _ => request.Keeps ctx occasion setup) (fun _ => request.Keeps ctx occasion setup) := by
  have hunchanged : request.Keeps ctx occasion setup setup := keeps_of_eq rfl hnot
  unfold mutateThreshold
  refine .bindGet ?_
  refine .bindOfExcept (fun _ _ => hunchanged) fun profile _ => ?_
  refine .bindOfExcept (fun _ _ => hunchanged) fun _ _ => ?_
  refine .bindOfExcept (fun _ _ => hunchanged) fun identity _ => ?_
  refine .bindOfExcept (fun _ _ => hunchanged) fun _ _ => ?_
  refine .bindOfExcept (fun _ _ => hunchanged) fun resolved hresolved => ?_
  refine .bindGet ?_
  refine .bindOfExcept (fun _ _ => hunchanged) fun report _ => ?_
  refine .bindOfExcept (fun _ _ => hunchanged) fun effective _ => ?_
  unfold saveConfig onDisk
  refine .bindZoom (savedDisk_durable halone hfile _ _ _) ?_ fun e disk' _ => keeps_of_eq rfl hnot
  intro _ disk' hdurable
  refine .bindModify ?_
  cases dbfs with
  | some dbfs => exact .pure (keeps_of_eq rfl hnot)
  | none =>
      have hkept : ∀ store', Generations.Spares (fun location => ∃ reference ∈
          calibrationReferences (setup.live.config.setActivity profileName profile channel none),
          location = ctx.store.generation reference) setup.store.fs store'.fs →
          ∀ live, request.Keeps ctx occasion setup
            { setup with disk := disk', store := store', live } := by
        intro store' hspares live
        refine ⟨?_, fun htrue => ?_⟩
        · intro config hconfig reference hreference hsome
          obtain rfl := hdurable config hconfig
          exact hspares _ hsome ⟨reference, hreference, rfl⟩
        · dsimp only at htrue
          rw [hnot] at htrue
          cases htrue
      unfold cleanupReset
      refine .bind (Q := fun _ => request.Keeps ctx occasion setup) ?_ fun message _ hafter =>
        .pure hafter
      refine .bind (Q := fun _ => request.Keeps ctx occasion setup) (.capture (.zoom ?_)) ?_
      · exact Attempt.Ends.mono Generations.sparesIn_cleanupUnreferenced
          (fun _ store' hspares => hkept store' hspares _)
          fun _ store' hspares => hkept store' hspares _
      · intro cleaned after hafter
        cases cleaned with
        | error e => exact .pure hafter
        | ok pending =>
            cases pending with
            | nil => exact .pure hafter
            | cons location pending => exact .pure hafter

end Operations

/-! ### Starting the daemon -/

inductive ConfigLoadState
  | missing
  | loaded
  | invalid
  deriving DecidableEq, Repr

structure LoadedAppConfig (δ π ρ : Type) where
  config : AppConfig δ π ρ
  state : ConfigLoadState

/-- A step of the daemon's life: a request, or a start with what was loaded,
after which the daemon lives on as `live`. -/
inductive Operation (δ π ρ κ : Type)
  | request (request : ThresholdRequest δ) (occasion : Occasion δ)
  | startup (loaded : LoadedAppConfig δ π ρ) (live : AppRuntimeState δ π ρ κ)

/-- No generation has been prepared when an operation starts. -/
def Setup.unprepared {ℓ : Type} (setup : Setup ℓ) : Setup ℓ :=
  { setup with authoritative := false }

section Runs

variable {γ φ δ π ρ κ : Type} {ctx : DaemonContext γ φ δ π ρ κ}
  {setup : Setup (AppRuntimeState δ π ρ κ)}

def reconcileStartupCalibrations (ctx : DaemonContext γ φ δ π ρ κ)
    (loaded : LoadedAppConfig δ π ρ) : Recovery.Io (List Location) :=
  if loaded.state = .loaded then
    Generations.cleanupUnreferencedWithHook ctx.store (calibrationReferences loaded.config)
      fun _ _ => .ok ()
  else pure []

theorem sparesIn_reconcileStartupCalibrations {loaded : LoadedAppConfig δ π ρ}
    {world : Recovery.World} :
    Generations.SparesIn (fun location => loaded.state = .loaded →
        ∃ reference ∈ calibrationReferences loaded.config,
          location = ctx.store.generation reference)
      (reconcileStartupCalibrations ctx loaded) world := by
  unfold reconcileStartupCalibrations
  by_cases hloaded : loaded.state = .loaded
  · rw [if_pos hloaded]
    exact Attempt.Ends.mono Generations.sparesIn_cleanupUnreferenced
      (fun _ _ h location hsome hthere => h location hsome (hthere hloaded))
      fun _ _ h location hsome hthere => h location hsome (hthere hloaded)
  · rw [if_neg hloaded]
    exact .of_readOnly (.pure _)

namespace Operation

/-- What an operation relies on: a start has read the configuration file. -/
def Possible (ctx : DaemonContext γ φ δ π ρ κ) (setup : Setup (AppRuntimeState δ π ρ κ)) :
    Operation δ π ρ κ → Prop
  | .request _ occasion => Prepares ctx.store occasion
  | .startup loaded live => live.config = loaded.config ∧
      (loaded.state = .loaded → Stored ctx setup.disk.disk loaded.config)

/-- What is not checked: a calibration replaces a generation that nothing else
refers to, and a start has loaded a configuration that refers to whatever any
refers to that may be durable. -/
def Meets (ctx : DaemonContext γ φ δ π ρ κ) (setup : Setup (AppRuntimeState δ π ρ κ)) :
    Operation δ π ρ κ → Prop
  | .request (.calibrate profileName channel _) _ =>
      setup.live.config.Unshared profileName channel
  | .request _ _ => True
  | .startup loaded _ => loaded.state = .loaded → ∀ config, MayBeDurable ctx setup.disk config →
      ∀ reference ∈ calibrationReferences config, reference ∈ calibrationReferences loaded.config

variable [DecidableEq δ] [DecidableEq κ] [DecidableEq π] [DecidableEq ρ]

def run (ctx : DaemonContext γ φ δ π ρ κ) (setup : Setup (AppRuntimeState δ π ρ κ)) :
    Operation δ π ρ κ → Setup (AppRuntimeState δ π ρ κ)
  | .request asked occasion =>
      (asked.run ctx occasion setup.unprepared).2
  | .startup loaded live =>
      { setup.unprepared with
        store := (reconcileStartupCalibrations ctx loaded setup.store).2
        live }

/-- An operation removes no generation that a configuration refers to which may
be durable after it. -/
def Keeps (ctx : DaemonContext γ φ δ π ρ κ) (setup : Setup (AppRuntimeState δ π ρ κ))
    (operation : Operation δ π ρ κ) : Prop :=
  match operation with
  | .request asked occasion =>
      asked.Keeps ctx occasion setup.unprepared (operation.run ctx setup)
  | .startup _ _ => KeepsReferenced ctx setup.store.fs (operation.run ctx setup)

/-- A run all of whose operations satisfy `P` where they start. -/
def Along (ctx : DaemonContext γ φ δ π ρ κ)
    (P : Setup (AppRuntimeState δ π ρ κ) → Operation δ π ρ κ → Prop) :
    Setup (AppRuntimeState δ π ρ κ) → List (Operation δ π ρ κ) → Prop
  | _, [] => True
  | setup, operation :: operations =>
      P setup operation ∧ Along ctx P (operation.run ctx setup) operations

theorem keeps_of_meets (halone : Alone ctx.host)
    (hfile : ∃ file data, OnDisk ctx setup.disk.disk file data) {operation : Operation δ π ρ κ}
    (hpossible : operation.Possible ctx setup) (hmeets : operation.Meets ctx setup) :
    operation.Keeps ctx setup := by
  cases operation with
  | request asked occasion =>
      change ∃ file data, OnDisk ctx setup.unprepared.disk.disk file data at hfile
      cases asked with
      | set profileName channel dbfs =>
          refine Attempt.Ends.reached (.bindRequire (fun _ => keeps_of_eq rfl rfl) fun _ => ?_)
          exact mutateThreshold_kept halone hfile rfl _ (some dbfs)
      | reset profileName channel =>
          exact Attempt.Ends.reached (mutateThreshold_kept halone hfile rfl _ none)
      | calibrate profileName channel seconds =>
          exact Attempt.Ends.reached
            (calibrateThreshold_kept halone hfile rfl hpossible hmeets seconds)
  | startup loaded live =>
      have hspares : Generations.Spares _ setup.store.fs
          (reconcileStartupCalibrations ctx loaded setup.store).2.fs :=
        Attempt.Ends.reached sparesIn_reconcileStartupCalibrations
      intro config hconfig reference hreference hsome
      exact hspares _ hsome fun hloaded =>
        ⟨reference, hmeets hloaded config hconfig reference hreference, rfl⟩

theorem file_run (halone : Alone ctx.host)
    (hfile : ∃ file data, OnDisk ctx setup.disk.disk file data) (operation : Operation δ π ρ κ) :
    ∃ file data, OnDisk ctx (operation.run ctx setup).disk.disk file data := by
  cases operation with
  | request asked occasion =>
      change ∃ file data, OnDisk ctx setup.unprepared.disk.disk file data at hfile
      refine Attempt.Ends.reached
        (P := fun after => ∃ file data, OnDisk ctx after.disk.disk file data)
        ((threshold_request_ends halone hfile asked).mono ?_ ?_)
      · rintro _ after ⟨⟨file, data, hdisk, -⟩, -⟩
        exact ⟨file, data, hdisk⟩
      · exact fun _ _ hfails => hfails.2.1
  | startup loaded live => exact hfile

end Operation

variable [DecidableEq δ] [DecidableEq κ] [DecidableEq π] [DecidableEq ρ]

/-- In a run whose calibrations replace generations that nothing else refers to,
and whose starts load a configuration that refers to all that may be referred to
after a crash, no operation removes a generation that is referred to by a
configuration that may be durable. -/
theorem referenced_calibrations_kept (halone : Alone ctx.host)
    (hfile : ∃ file data, OnDisk ctx setup.disk.disk file data)
    {operations : List (Operation δ π ρ κ)}
    (hrun : Operation.Along ctx
      (fun setup operation => operation.Possible ctx setup ∧ operation.Meets ctx setup)
      setup operations) :
    Operation.Along ctx (fun setup operation => operation.Keeps ctx setup) setup operations := by
  induction operations generalizing setup with
  | nil => trivial
  | cons operation operations ih =>
      obtain ⟨⟨hpossible, hmeets⟩, hrest⟩ := hrun
      exact ⟨operation.keeps_of_meets halone hfile hpossible hmeets,
        ih (operation.file_run halone hfile) hrest⟩

end Runs

/-! ### A shared generation, and a save that does not know -/

def configuredBare : ConfiguredInputIdentity :=
  ⟨.pipeWire, .pipeWireAuto, "c", "s", lowerHex (List.replicate 32 0)⟩

def thresholdOf (updatedAt : ℕ) (id : String) : ActivityThresholdConfig Unit :=
  ⟨(), .calibrated, updatedAt, configuredBare.inputId, some id⟩

/-- A profile whose channel `c` has the generation `id`. -/
def profileOf (updatedAt : ℕ) (id : String) : ProfileConfig Unit Unit :=
  bareProfile.setActivity "c" (some (thresholdOf updatedAt id))

def ownConfig : AppConfig Unit Unit Unit where
  daemon := ()
  profiles := AList.singleton "p" (profileOf 0 "g")

/-- Two profiles that refer to one generation. -/
def pairConfig : AppConfig Unit Unit Unit where
  daemon := ()
  profiles := Table.put ownConfig.profiles "q" (profileOf 0 "g")

/-- The configuration once the channel of `p` has been calibrated. -/
def calibratedConfig (config : AppConfig Unit Unit Unit) : AppConfig Unit Unit Unit :=
  config.setActivity "p" (profileOf 0 "g") "c" (some (thresholdOf 7 "h"))

/-- A format with a text for a configuration before and after the calibration. -/
def calibrationFormat (config : AppConfig Unit Unit Unit) :
    ConfigFormat (AppConfig Unit Unit Unit) where
  validatePersistedConfig := fun _ => .ok ()
  toStringPretty := fun written =>
    .ok (if written = calibratedConfig config then "calibrated" else "first")
  fromStr := fun text =>
    if text = "calibrated\n" then .ok (calibratedConfig config)
    else if text = "first\n" then .ok config
    else .error (.config "toml")

def calibrationContext (fails : World FileData → Bool) (config : AppConfig Unit Unit Unit) :
    DaemonContext Unit Unit Unit Unit Unit Unit :=
  { bareContext fails with format := calibrationFormat config }

/-- A generation that is the empty directory `h`. -/
def makeGeneration (configured : ConfiguredInputIdentity) (now : ℕ) :
    Recovery.Io (PreparedCalibrationGeneration Unit) := do
  let identity ← Recovery.orFail
    (Recovery.createAt .upward (fun identity => .directory identity) [configured.inputId] "h")
  pure ⟨[configured.inputId], configured.inputId, "h", identity, (), now⟩

def calibrationOccasion (hook : DurabilityHook) : Occasion Unit :=
  { bareOccasion hook with
    prepareGeneration := fun configured _ _ now => makeGeneration configured now }

/-- The channel of `p` is captured, and its generation is there. -/
def calibrationSetup (config : AppConfig Unit Unit Unit) :
    Setup (AppRuntimeState Unit Unit Unit Unit) where
  disk := ⟨⟨[(0, .directory), (1, .file ⟨"first\n", 0o600, 0, 0⟩)], [((0, "config"), some 1)]⟩, []⟩
  store := ⟨FileTree.ofEntries [([], .directory ⟨0, 0⟩),
    ([configuredBare.inputId], .directory ⟨0, 1⟩),
    ([configuredBare.inputId, "g"], .directory ⟨0, 2⟩)] (by decide +kernel), 0⟩
  authoritative := false
  live :=
    { config
      state := "capturing"
      capture := some ⟨.pipeWire, 1, false⟩
      activeProfile := some { resolveBare (profileOf 0 "g") with name := "p" }
      session := some
        { identity := 0
          sampleRate := 1
          channelCount := 1
          profileName := "p"
          activity := (resolveBare (profileOf 0 "g")).activity
          configuredInputs := [configuredBare]
          resolvedLiveInputs := [some ⟨.pipeWire, .nodeName, "k", "s"⟩]
          calibrationSampleFrames := 30 } }

theorem prepares_calibrationOccasion (hook : DurabilityHook) :
    Prepares ⟨.upward, [], fun _ => some 0⟩ (calibrationOccasion hook) := by
  intro configured live threshold now world
  refine .bind (Q := fun identity after =>
      world.fs.lookup [configured.inputId, "h"] = none ∧
      after.fs.lookup [configured.inputId, "h"] = some (.directory identity) ∧
      ∀ location, world.fs.lookup location ≠ none → location.length = 2 →
        Generations.Keeps location world.fs after.fs)
    (Recovery.ends_orFail (Recovery.ends_call (fun _ => .refl) ?_ fun _ _ => .refl)) ?_
  · intro identity fs hmade
    split at hmade
    · next hfree =>
        cases hmade
        refine ⟨hfree.2, ?_, fun location hsome hlength below hbelow => ?_⟩
        · simp
        · rw [Recovery.World.tick_fs, FileTree.lookup_update, if_neg]
          rintro rfl
          have heq := hbelow.eq_of_length hlength
          rw [heq] at hsome
          exact hsome hfree.2
    · split at hmade
      · cases hmade
      · cases hmade
  · rintro identity after ⟨hfree, hthere, hkeeps⟩
    refine .pure ⟨rfl, hfree, hthere, ?_⟩
    rintro location hsome ⟨reference, rfl⟩
    exact hkeeps _ hsome rfl

theorem onDisk_calibrationSetup (fails : World FileData → Bool)
    (config : AppConfig Unit Unit Unit) :
    ∃ file data, OnDisk (calibrationContext fails config) (calibrationSetup config).disk.disk
      file data :=
  ⟨1, ⟨"first\n", 0o600, 0, 0⟩, Path.absolute [], "config", 0, rfl, rfl, ⟨[], rfl, rfl⟩, rfl, rfl⟩

/-- The request to calibrate the channel of `p`. -/
def calibrateOperation (hook : DurabilityHook) : Operation Unit Unit Unit Unit :=
  .request (.calibrate "p" "c" 1) (calibrationOccasion hook)

/-- The generation that nothing else refers to is replaced. -/
theorem referenced_calibrations_kept_own :
    Operation.Along (calibrationContext (fun _ => false) ownConfig)
      (fun setup operation => operation.Keeps (calibrationContext (fun _ => false) ownConfig) setup)
      (calibrationSetup ownConfig) [calibrateOperation fun _ _ => .ok ()] := by
  refine referenced_calibrations_kept (alone_aloneHost _) (onDisk_calibrationSetup _ _) ?_
  refine ⟨⟨prepares_calibrationOccasion _, ?_⟩, trivial⟩
  intro profile reference hprofile hreference
  obtain rfl : profileOf 0 "g" = profile := Option.some.inj hprofile
  have hnone : calibrationReferences
      (ownConfig.setActivity "p" (profileOf 0 "g") "c" none) = [] := by decide +kernel
  change reference ∉ calibrationReferences (ownConfig.setActivity "p" (profileOf 0 "g") "c" none)
  rw [hnone]
  exact List.not_mem_nil

/-- A generation that is gone although a configuration refers to it that may be
durable. -/
theorem not_keepsReferenced {ctx : DaemonContext Unit Unit Unit Unit Unit Unit}
    {fs : Recovery.FileSystem} {after : Setup (AppRuntimeState Unit Unit Unit Unit)}
    {config : AppConfig Unit Unit Unit} {reference : String × String}
    (hconfig : MayBeDurable ctx after.disk config)
    (hreference : reference ∈ calibrationReferences config)
    (hthere : (fs.lookup (ctx.store.generation reference)).isSome = true)
    (hgone : after.store.fs.lookup (ctx.store.generation reference) = none) :
    ¬KeepsReferenced ctx fs after := by
  intro h
  have hsome : fs.lookup (ctx.store.generation reference) ≠ none := by
    intro hnone
    rw [hnone] at hthere
    cases hthere
  have hkept := h config hconfig reference hreference hsome _ (List.prefix_refl _)
  rw [hgone] at hkept
  exact hsome hkept.symm

/-- The calibration of a shared generation. -/
def pairCalibrated : Setup (AppRuntimeState Unit Unit Unit Unit) :=
  (calibrateOperation fun _ _ => .ok ()).run (calibrationContext (fun _ => false) pairConfig)
    (calibrationSetup pairConfig)

/-- Once the names are exchanged, every other call fails. -/
def exchangedContext : DaemonContext Unit Unit Unit Unit Unit Unit :=
  calibrationContext (fun world => world.past.any fun step =>
    step.event matches .exchanged _ _ _) ownConfig

def renamedHook : DurabilityHook := fun checkpoint _ =>
  if checkpoint = .configRenamed then .error (.config "hook") else .ok ()

/-- A calibration whose save does not know, and a start with its configuration. -/
def unknownCalibrated : Setup (AppRuntimeState Unit Unit Unit Unit) :=
  (calibrateOperation renamedHook).run exchangedContext (calibrationSetup ownConfig)

def startOperation : Operation Unit Unit Unit Unit :=
  .startup ⟨calibratedConfig ownConfig, .loaded⟩
    ⟨calibratedConfig ownConfig, "idle", none, none, none⟩

/-- A possible run in which an operation removes a generation that may be
referred to. -/
def Loses (ctx : DaemonContext Unit Unit Unit Unit Unit Unit)
    (setup : Setup (AppRuntimeState Unit Unit Unit Unit))
    (operations : List (Operation Unit Unit Unit Unit)) : Prop :=
  Alone ctx.host ∧ (∃ file data, OnDisk ctx setup.disk.disk file data) ∧
    Operation.Along ctx (fun setup operation => operation.Possible ctx setup) setup operations ∧
    ¬Operation.Along ctx (fun setup operation => operation.Keeps ctx setup) setup operations

theorem stored_calibrated {fails : World FileData → Bool} {config : AppConfig Unit Unit Unit}
    {disk : Disk FileData}
    (hwalk : disk.entry 0 "config" = some 13)
    (hinode : disk.inode 13 = some (.file ⟨"calibrated\n", 0o600, 0, 0⟩)) :
    Stored (calibrationContext fails config) disk (calibratedConfig config) :=
  ⟨13, ⟨"calibrated\n", 0o600, 0, 0⟩,
    ⟨Path.absolute [], "config", 0, rfl, rfl, ⟨[], rfl, rfl⟩, hwalk, hinode⟩, rfl⟩

/-- Calibrating one of two channels that share a generation removes it from the
other; and a start with a configuration whose save was not known to be durable
removes what the one before refers to. -/
theorem referenced_calibrations_removed :
    Loses (calibrationContext (fun _ => false) pairConfig) (calibrationSetup pairConfig)
      [calibrateOperation fun _ _ => .ok ()] ∧
    Loses exchangedContext (calibrationSetup ownConfig)
      [calibrateOperation renamedHook, startOperation] := by
  constructor
  · refine ⟨alone_aloneHost _, onDisk_calibrationSetup _ _,
      ⟨prepares_calibrationOccasion _, trivial⟩, ?_⟩
    rintro ⟨⟨hkeeps, -⟩, -⟩
    refine not_keepsReferenced (Stored.mayBeDurable (stored_calibrated ?_ ?_))
      (List.mem_of_elem_eq_true (a := (configuredBare.inputId, "g")) ?_) ?_ ?_ hkeeps
    · decide +kernel
    · decide +kernel
    · decide +kernel
    · decide +kernel
    · decide +kernel
  · have hstored : Stored exchangedContext unknownCalibrated.disk.disk
        (calibratedConfig ownConfig) := by
      refine stored_calibrated ?_ ?_
      · decide +kernel
      · decide +kernel
    have hstart : startOperation.Possible exchangedContext unknownCalibrated :=
      ⟨rfl, fun _ => hstored⟩
    refine ⟨alone_aloneHost _, onDisk_calibrationSetup _ _,
      ⟨prepares_calibrationOccasion _, hstart, trivial⟩, ?_⟩
    rintro ⟨-, hkeeps, -⟩
    change KeepsReferenced exchangedContext unknownCalibrated.store.fs
      (startOperation.run exchangedContext unknownCalibrated) at hkeeps
    have hbefore : (unknownCalibrated.disk.mayPersist 0).any
        (fun disk => disk.entry 0 "config" = some 1) = true := by
      decide +kernel
    obtain ⟨disk, hdisk, hentry⟩ := List.any_eq_true.1 hbefore
    have hconfig : MayBeDurable exchangedContext unknownCalibrated.disk ownConfig := by
      refine ⟨Path.absolute [], "config", 0, 1, ⟨"first\n", 0o600, 0, 0⟩, rfl, rfl, ⟨[], rfl, rfl⟩,
        ⟨disk, hdisk, of_decide_eq_true hentry⟩, ⟨_, List.mem_cons_self, ?_⟩, rfl⟩
      decide +kernel
    have hafter : MayBeDurable exchangedContext
        (startOperation.run exchangedContext unknownCalibrated).disk ownConfig := hconfig
    refine not_keepsReferenced hafter
      (List.mem_of_elem_eq_true (a := (configuredBare.inputId, "g")) ?_) ?_ ?_ hkeeps
    · decide +kernel
    · decide +kernel
    · decide +kernel

end Lamb.Calibration
