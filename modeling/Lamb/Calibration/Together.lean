import Lamb.Calibration.Alone
import Lamb.Calibration.Committed
import Lamb.Calibration.Threshold

/-!
The configuration on the disk, the one in memory, the active profile and the
policy of the session over a sequence of threshold operations, on a disk that
nobody else writes to.

An operation that succeeds brings the four together, whatever the disk held. One
that fails changes nothing in memory; it may leave its configuration on the disk
if it says that it does not know.
-/

namespace Lamb.Calibration

open Lamb.Lib Lamb.Lib.SharedDisk

section Together

variable {γ φ δ π ρ κ : Type} {ctx : DaemonContext γ φ δ π ρ κ}

/-! ### What the disk holds -/

/-- The configuration file, as the configured path leads to it. -/
def OnDisk (ctx : DaemonContext γ φ δ π ρ κ) (disk : Disk FileData) (file : Ino)
    (data : FileData) : Prop :=
  ∃ parentPath targetName parent, ctx.configPath.parent = some parentPath ∧
    ctx.configPath.fileName = some targetName ∧
    FileAt ctx.host parentPath targetName disk parent file data

/-- The configuration file reads as a configuration. -/
def Stored (ctx : DaemonContext γ φ δ π ρ κ) (disk : Disk FileData) (config : AppConfig δ π ρ) :
    Prop :=
  ∃ file data, OnDisk ctx disk file data ∧ ctx.format.fromStr data.text = .ok config

theorem OnDisk.unique {disk : Disk FileData} {file file' : Ino} {data data' : FileData}
    (h : OnDisk ctx disk file data) (h' : OnDisk ctx disk file' data') :
    file = file' ∧ data = data' := by
  obtain ⟨parentPath, targetName, parent, hparent, hname, ⟨names, hnames, hwalk⟩, hentry, hinode⟩ :=
    h
  obtain ⟨_, _, parent', hparent', hname', ⟨names', hnames', hwalk'⟩, hentry', hinode'⟩ := h'
  cases hparent.symm.trans hparent'
  cases hname.symm.trans hname'
  cases hnames.symm.trans hnames'
  cases hwalk.symm.trans hwalk'
  cases hentry.symm.trans hentry'
  cases hinode.symm.trans hinode'
  exact ⟨rfl, rfl⟩

theorem Stored.unique {disk : Disk FileData} {config config' : AppConfig δ π ρ}
    (h : Stored ctx disk config) (h' : Stored ctx disk config') : config = config' := by
  obtain ⟨file, data, hdisk, htext⟩ := h
  obtain ⟨file', data', hdisk', htext'⟩ := h'
  obtain ⟨rfl, rfl⟩ := hdisk.unique hdisk'
  cases htext.symm.trans htext'
  rfl

/-- What a failed operation leaves on the disk: a configuration file, and the one
that was there unless it says that it does not know. -/
def Kept (ctx : DaemonContext γ φ δ π ρ κ) (base : Disk FileData) (e : LambError)
    (disk : Disk FileData) : Prop :=
  (∃ file data, OnDisk ctx disk file data) ∧
    (Unsure e ∨ ∀ file data, OnDisk ctx base file data → OnDisk ctx disk file data)

theorem Kept.refl {disk : Disk FileData} {e : LambError}
    (hfile : ∃ file data, OnDisk ctx disk file data) : Kept ctx disk e disk :=
  ⟨hfile, .inr fun _ _ h => h⟩

theorem Kept.stored {base disk : Disk FileData} {e : LambError} {config : AppConfig δ π ρ}
    (h : Kept ctx base e disk) (hsure : ¬Unsure e) (hstored : Stored ctx base config) :
    Stored ctx disk config := by
  obtain ⟨file, data, hdisk, htext⟩ := hstored
  exact ⟨file, data, h.2.resolve_left hsure file data hdisk, htext⟩

/-! ### What an operation does to the live state -/

theorem validateProfile_name {host : ThresholdHost γ φ δ π κ} {name : String}
    {profile : ProfileConfig δ π} {resolved : ResolvedProfile δ κ}
    (h : validateProfile host name profile = .ok resolved) : resolved.name = name := by
  obtain ⟨settings, -, h⟩ := bind_eq_ok.mp h
  cases h
  rfl

/-- The session after an operation: if it is a session of the operation's
profile, and that is the active one, it has the policy that the report leaves. -/
def SessionFollows (profileName : String) (report : ThresholdReport δ)
    (activity : ResolvedActivityPolicy δ) (session session' : CaptureSession δ) : Prop :=
  if session.profileName = profileName then
    Effective report activity session'.activity ∧
      session' = { session with activity := session'.activity }
  else session' = session

/-- What an operation on a profile installs. -/
structure Followed (ctx : DaemonContext γ φ δ π ρ κ) (profileName : String)
    (report : ThresholdReport δ) (live live' : AppRuntimeState δ π ρ κ) : Prop where
  config : live'.config.daemon = live.config.daemon ∧ ∀ name ≠ profileName,
    live'.config.profiles.lookup name = live.config.profiles.lookup name
  inactive : (∀ active ∈ live.activeProfile, active.name ≠ profileName) →
    live'.activeProfile = live.activeProfile ∧ live'.session = live.session
  active : ∀ active ∈ live.activeProfile, active.name = profileName →
    ∃ profile resolved, live'.config.profiles.lookup profileName = some profile ∧
      validateProfile ctx.thresholds profileName profile = .ok resolved ∧
      live'.activeProfile = some resolved ∧
      (live.session = none → live'.session = none) ∧
      ∀ session ∈ live.session, ∃ session', live'.session = some session' ∧
        SessionFollows profileName report resolved.activity session session'

/-- The active profile is the validation of its entry. -/
def ActiveValid (ctx : DaemonContext γ φ δ π ρ κ) (live : AppRuntimeState δ π ρ κ) : Prop :=
  ∀ active ∈ live.activeProfile, ∃ profile,
    live.config.profiles.lookup active.name = some profile ∧
    validateProfile ctx.thresholds active.name profile = .ok active

/-- A session of the active profile has its policy, less what some report does
not evaluate as effective. -/
def PolicyFollows (live : AppRuntimeState δ π ρ κ) : Prop :=
  ∀ active ∈ live.activeProfile, ∀ session ∈ live.session, session.profileName = active.name →
    ∃ report, Effective report active.activity session.activity

variable {profileName channel : String} {profile : ProfileConfig δ π}
  {live live' : AppRuntimeState δ π ρ κ} {report : ThresholdReport δ}
  {resolved : ResolvedProfile δ κ} {activity : Option (ActivityThresholdConfig δ)}
  {effective : ResolvedActivityPolicy δ}

theorem followed_install
    (hresolved : validateProfile ctx.thresholds profileName (profile.setActivity channel activity) =
      .ok resolved)
    (heffective : Effective report resolved.activity effective) :
    Followed ctx profileName report live
      (live.install (live.config.setActivity profileName profile channel activity)
        (if live.activeProfile.any fun active => active.name = profileName then some resolved
          else live.activeProfile)
        ((live.session.filter fun session =>
          (live.activeProfile.any fun active => active.name = profileName) &&
            session.profileName = profileName).map fun _ => effective)) where
  config := ⟨rfl, fun name hne => Table.lookup_put_of_ne _ _ hne⟩
  inactive := by
    intro hne
    have hinactive : (live.activeProfile.any fun active => active.name = profileName) = false := by
      cases hactive : live.activeProfile with
      | none => rfl
      | some active => simpa using hne active hactive
    rw [hinactive]
    refine ⟨rfl, ?_⟩
    cases hsession : live.session with
    | none => simp [AppRuntimeState.install, hsession]
    | some session => simp [AppRuntimeState.install, hsession, Option.filter]
  active := by
    intro active hactive hname
    have hrequested : (live.activeProfile.any fun active => active.name = profileName) = true := by
      rw [hactive]
      simpa using hname
    rw [hrequested]
    refine ⟨_, resolved, Table.lookup_put_self _ _ _, hresolved, rfl, ?_, ?_⟩
    · intro hsession
      simp [AppRuntimeState.install, hsession]
    · intro session hsession
      rw [Option.mem_def] at hsession
      refine ⟨_, by rw [AppRuntimeState.install, hsession]; rfl, ?_⟩
      unfold SessionFollows
      split
      · next hsame =>
          have hpolicy : (Option.map (fun _ => effective) (Option.filter (fun session =>
              true && decide (session.profileName = profileName)) (some session))).getD
              session.activity = effective := by
            simp [Option.filter, hsame]
          dsimp only
          rw [hpolicy]
          exact ⟨heffective, rfl⟩
      · next hother =>
          have hpolicy : (Option.map (fun _ => effective) (Option.filter (fun session =>
              true && decide (session.profileName = profileName)) (some session))).getD
              session.activity = session.activity := by
            simp [Option.filter, hother]
          dsimp only
          rw [hpolicy]

theorem Followed.activeValid (h : Followed ctx profileName report live live')
    (hvalid : ActiveValid ctx live) : ActiveValid ctx live' := by
  intro active' hactive'
  by_cases hrequested : ∃ active ∈ live.activeProfile, active.name = profileName
  · obtain ⟨active, hactive, hname⟩ := hrequested
    obtain ⟨profile, resolved, hlookup, hresolved, hinstalled, -⟩ := h.active active hactive hname
    rw [hinstalled] at hactive'
    cases hactive'
    rw [validateProfile_name hresolved]
    exact ⟨profile, hlookup, hresolved⟩
  · have hne : ∀ active ∈ live.activeProfile, active.name ≠ profileName :=
      fun active hactive hname => hrequested ⟨active, hactive, hname⟩
    rw [(h.inactive hne).1] at hactive'
    obtain ⟨profile, hlookup, hresolved⟩ := hvalid active' hactive'
    refine ⟨profile, ?_, hresolved⟩
    rw [h.config.2 _ (hne active' hactive')]
    exact hlookup

theorem Followed.policyFollows (h : Followed ctx profileName report live live')
    (hpolicy : PolicyFollows live) : PolicyFollows live' := by
  intro active' hactive' session' hsession' hname'
  by_cases hrequested : ∃ active ∈ live.activeProfile, active.name = profileName
  · obtain ⟨active, hactive, hname⟩ := hrequested
    obtain ⟨profile, resolved, -, hresolved, hinstalled, hnone, hsome⟩ :=
      h.active active hactive hname
    rw [hinstalled] at hactive'
    cases hactive'
    cases hsession : live.session with
    | none =>
        rw [hnone hsession] at hsession'
        cases hsession'
    | some session =>
        obtain ⟨found, hfound, hfollows⟩ := hsome session hsession
        rw [hfound] at hsession'
        cases hsession'
        rw [validateProfile_name hresolved] at hname'
        unfold SessionFollows at hfollows
        split at hfollows
        · exact ⟨report, hfollows.1⟩
        · next hother =>
            rw [hfollows] at hname'
            exact absurd hname' hother
  · have hne : ∀ active ∈ live.activeProfile, active.name ≠ profileName :=
      fun active hactive hname => hrequested ⟨active, hactive, hname⟩
    obtain ⟨hactive, hsession⟩ := h.inactive hne
    rw [hactive] at hactive'
    rw [hsession] at hsession'
    exact hpolicy active' hactive' session' hsession' hname'

/-- The configuration in memory is the one on the disk, the active profile is the
validation of its entry, and the policy of its session follows it. -/
structure Together (ctx : DaemonContext γ φ δ π ρ κ)
    (setup : Setup (AppRuntimeState δ π ρ κ)) : Prop where
  stored : Stored ctx setup.disk.disk setup.live.config
  active : ActiveValid ctx setup.live
  policy : PolicyFollows setup.live

theorem Together.file {setup : Setup (AppRuntimeState δ π ρ κ)} (h : Together ctx setup) :
    ∃ file data, OnDisk ctx setup.disk.disk file data := by
  obtain ⟨file, data, hdisk, -⟩ := h.stored
  exact ⟨file, data, hdisk⟩

end Together

/-! ### The operations -/

section Operations

variable {γ φ δ π ρ κ : Type} {ctx : DaemonContext γ φ δ π ρ κ} {occasion : Occasion δ}
  {setup : Setup (AppRuntimeState δ π ρ κ)}

/-- A step of the store leaves the configuration and the live state. -/
def Untouched (setup after : Setup (AppRuntimeState δ π ρ κ)) : Prop :=
  after.disk = setup.disk ∧ after.live = setup.live

theorem onStore_untouched {β : Type} {f : Recovery.Io β} :
    Attempt.Ends (onStore f) setup (fun _ => Untouched setup) fun _ => Untouched setup := by
  refine .zoom ?_
  exact Attempt.Ends.mono (Attempt.Ends.of_reached (P := fun _ => True) trivial)
    (fun _ _ _ => ⟨rfl, rfl⟩) fun _ _ _ => ⟨rfl, rfl⟩

theorem cleanupWithHook_untouched {store : Generations.StoreHost}
    {prepared : PreparedCalibrationGeneration δ} {hook : Generations.CleanupHook} :
    Attempt.Ends (cleanupWithHook store prepared hook) setup (fun _ => Untouched setup)
      fun _ => Untouched setup := by
  unfold cleanupWithHook
  exact .bindGet (.ite (fun _ => ⟨rfl, rfl⟩) fun _ => onStore_untouched)

/-- Dropping a generation leaves what an operation reached. -/
theorem dropping_ends {β : Type} {prepared : PreparedCalibrationGeneration δ}
    {rest : ThresholdIo δ π ρ κ β} {Q : β → Setup (AppRuntimeState δ π ρ κ) → Prop}
    {E : LambError → Setup (AppRuntimeState δ π ρ κ) → Prop} (hrest : Attempt.Ends rest setup Q E)
    (hQ : ∀ b reached after, Q b reached → Untouched reached after → Q b after)
    (hE : ∀ e reached after, E e reached → Untouched reached after → E e after) :
    Attempt.Ends (dropping ctx prepared rest) setup Q E := by
  unfold dropping
  refine .bind (Q := fun result after => match result with
    | .ok b => Q b after
    | .error e => E e after) (.capture hrest) ?_
  intro result reached hreached
  refine .bind (Q := fun _ => Untouched reached) (.capture cleanupWithHook_untouched) ?_
  intro _ after hafter
  cases result with
  | error e => exact hE e reached after hreached hafter
  | ok b => exact hQ b reached after hreached hafter

/-- What every failed operation guarantees. -/
def Fails (ctx : DaemonContext γ φ δ π ρ κ) (setup : Setup (AppRuntimeState δ π ρ κ))
    (e : LambError) (after : Setup (AppRuntimeState δ π ρ κ)) : Prop :=
  after.live = setup.live ∧ Kept ctx setup.disk.disk e after.disk.disk

/-- What every operation that succeeds guarantees. -/
def Succeeds (ctx : DaemonContext γ φ δ π ρ κ) (profileName : String)
    (setup : Setup (AppRuntimeState δ π ρ κ)) (report : ThresholdReport δ)
    (after : Setup (AppRuntimeState δ π ρ κ)) : Prop :=
  Stored ctx after.disk.disk after.live.config ∧
    Followed ctx profileName report setup.live after.live

variable {profileName channel : String} {e : LambError}
  {reached after : Setup (AppRuntimeState δ π ρ κ)} {report : ThresholdReport δ}

theorem fails_of_untouched (hfile : ∃ file data, OnDisk ctx setup.disk.disk file data)
    (h : Untouched setup after) : Fails ctx setup e after := by
  refine ⟨h.2, ?_⟩
  rw [h.1]
  exact .refl hfile

theorem Fails.untouched (h : Fails ctx setup e reached) (hafter : Untouched reached after) :
    Fails ctx setup e after :=
  ⟨hafter.2.trans h.1, by rw [hafter.1]; exact h.2⟩

theorem Succeeds.untouched (h : Succeeds ctx profileName setup report reached)
    (hafter : Untouched reached after) : Succeeds ctx profileName setup report after := by
  unfold Succeeds
  rw [hafter.1, hafter.2]
  exact h

theorem cleanupReset_untouched {referenced : List (String × String)}
    {E : LambError → Setup (AppRuntimeState δ π ρ κ) → Prop} :
    Attempt.Ends (cleanupReset ctx occasion referenced) setup (fun _ => Untouched setup) E := by
  unfold cleanupReset
  refine .bind (Q := fun _ => Untouched setup) (.capture onStore_untouched) ?_
  intro cleaned after hafter
  cases cleaned with
  | error error => exact hafter
  | ok pending =>
      cases pending with
      | nil => exact hafter
      | cons location pending => exact hafter

section Target

variable [DecidableEq δ] [DecidableEq κ]

/-- The target of a calibration is the session, and its profile the active one. -/
theorem calibrationTargetIsCurrent_eq {moment : ℕ} {live : AppRuntimeState δ π ρ κ}
    {target : SessionCalibrationTarget δ κ}
    (h : calibrationTargetIsCurrent ctx occasion moment live target = true) :
    live.activeProfile = some target.activeProfile ∧
      ∃ session, live.session = some session ∧ session.profileName = target.activeProfile.name := by
  unfold calibrationTargetIsCurrent calibrationTargetMatchesRuntime at h
  rw [Bool.and_eq_true] at h
  cases hsession : live.session with
  | none =>
      rw [hsession] at h
      cases h.2
  | some session =>
      rw [hsession] at h
      obtain ⟨-, -, -, hactive, hname, -⟩ := of_decide_eq_true h.2
      exact ⟨hactive, session, rfl, hname.symm⟩

theorem sessionCalibrationTarget_name {live : AppRuntimeState δ π ρ κ}
    {target : SessionCalibrationTarget δ κ}
    (h : sessionCalibrationTarget ctx occasion live profileName channel = .ok target) :
    target.activeProfile.name = profileName := by
  unfold sessionCalibrationTarget at h
  obtain ⟨_, -, h⟩ := bind_eq_ok.mp h
  obtain ⟨active, -, h⟩ := bind_eq_ok.mp h
  obtain ⟨_, hname, h⟩ := bind_eq_ok.mp h
  obtain ⟨session, -, h⟩ := bind_eq_ok.mp h
  obtain ⟨_, -, h⟩ := bind_eq_ok.mp h
  split at h
  · cases h
  · split at h
    · obtain ⟨_, -, h⟩ := bind_eq_ok.mp h
      cases h
      exact ensure_eq_ok.mp hname
    · cases h

end Target

variable [DecidableEq δ] [DecidableEq π] [DecidableEq ρ]

/-- A save leaves a file that reads as the candidate, or what was there unless it
is unsure. -/
theorem savedDisk_alone (halone : Alone ctx.host) {disk : World FileData}
    (hfile : ∃ file data, OnDisk ctx disk.disk file data) (candidate : AppConfig δ π ρ)
    (hook : DurabilityHook) (nameSource : World FileData → Result ℕ) :
    Attempt.Ends (savedDisk ctx.host ctx.format ctx.configPath candidate hook nameSource) disk
      (fun _ disk' => Stored ctx disk'.disk candidate)
      (fun e disk' => Kept ctx disk.disk e disk'.disk) := by
  obtain ⟨file, data, parentPath, targetName, parent, hparent, hname, hat⟩ := hfile
  refine (saveConfigAtomic_alone ctx.format candidate hook nameSource halone hparent hname
    hat).mono ?_ ?_
  · rintro _ disk' ⟨text, hcandidate, ⟨file', data', hat', rfl⟩, -⟩
    exact ⟨file', data', ⟨parentPath, targetName, parent, hparent, hname, hat'⟩, hcandidate⟩
  · rintro e disk' ⟨file', data', hat', hcase⟩
    have hthere : OnDisk ctx disk'.disk file' data' :=
      ⟨parentPath, targetName, parent, hparent, hname, hat'⟩
    refine ⟨⟨file', data', hthere⟩, hcase.imp_right ?_⟩
    rintro ⟨rfl, rfl⟩ found foundData hfound
    obtain ⟨rfl, rfl⟩ :=
      hfound.unique ⟨parentPath, targetName, parent, hparent, hname, hat⟩
    exact hthere

/-- A commit whose save does not know whether it published does not know it
either. -/
theorem commit_unsure {prepared : PreparedCalibrationGeneration δ}
    (validateProfile : String → ProfileConfig δ π → Result Unit) (candidate : AppConfig δ π ρ)
    (previous : Option Generations.RecordedGeneration)
    (install : AppRuntimeState δ π ρ κ → AppRuntimeState δ π ρ κ) :
    Attempt.Ends
      (commitPreparedGenerationWithHooks ctx.host ctx.store prepared occasion.cleanupHook ctx.format
        validateProfile ctx.configPath candidate previous install occasion.configHook
        occasion.nameSource) setup (fun _ _ => True)
      (fun e after => after.disk = setup.disk ∨
        ∀ e', (savedDisk ctx.host ctx.format ctx.configPath candidate occasion.configHook
          occasion.nameSource setup.disk).1 = .error e' → Unsure e' → Unsure e) := by
  unfold commitPreparedGenerationWithHooks
  refine .ite (fun _ => .inl rfl) fun _ => ?_
  cases validateCandidate prepared validateProfile candidate with
  | error operation =>
      exact cleanupFailedPrecommit_ends.mono (Q := fun _ _ => True) (fun _ _ h => h)
        fun _ _ h => .inl h.1
  | ok _ =>
  refine .bind (Q := fun saved _ => (savedDisk ctx.host ctx.format ctx.configPath candidate
    occasion.configHook occasion.nameSource setup.disk).1 = saved) (.capture (.zoom ?_)) ?_
  · unfold savedDisk Attempt.Ends
    generalize saveConfigAtomicWithHookAndNameSource ctx.host ctx.format ctx.configPath candidate
      occasion.configHook occasion.nameSource setup.disk = result
    obtain ⟨_ | _, disk⟩ := result
    · rfl
    · rfl
  · intro saved setup₁ hsaved
    rw [hsaved]
    cases saved with
    | error operation =>
        refine .ite (fun hunsure => ?_) fun hsure => ?_
        · refine .bindModify (.fail (.inr ?_))
          rintro e' ⟨⟩ -
          exact hunsure
        · refine Attempt.Ends.mono (Attempt.Ends.of_reached (P := fun _ => True) trivial)
            (fun _ _ _ => trivial) fun _ _ _ => .inr ?_
          rintro e' ⟨⟩ hunsure
          exact absurd hunsure hsure
    | ok _ =>
        refine Attempt.Ends.mono (Attempt.Ends.of_reached (P := fun _ => True) trivial)
          (fun _ _ _ => trivial) fun _ _ _ => .inr nofun

/-- A commit saves the candidate and installs what it is given, or changes
nothing in memory. -/
theorem commit_together (halone : Alone ctx.host)
    (hfile : ∃ file data, OnDisk ctx setup.disk.disk file data)
    (prepared : PreparedCalibrationGeneration δ)
    (validateProfile : String → ProfileConfig δ π → Result Unit) (candidate : AppConfig δ π ρ)
    (previous : Option Generations.RecordedGeneration)
    (install : AppRuntimeState δ π ρ κ → AppRuntimeState δ π ρ κ) :
    Attempt.Ends
      (commitPreparedGenerationWithHooks ctx.host ctx.store prepared occasion.cleanupHook ctx.format
        validateProfile ctx.configPath candidate previous install occasion.configHook
        occasion.nameSource) setup
      (fun _ after => after.live = install setup.live ∧ Stored ctx after.disk.disk candidate)
      (Fails ctx setup) := by
  have hsaved := savedDisk_alone halone hfile candidate occasion.configHook occasion.nameSource
  have hcommit : Attempt.Ends
      (commitPreparedGenerationWithHooks ctx.host ctx.store prepared occasion.cleanupHook ctx.format
        validateProfile ctx.configPath candidate previous install occasion.configHook
        occasion.nameSource) setup _ _ :=
    commit_ends ctx.format validateProfile ctx.configPath candidate previous install
      occasion.configHook occasion.nameSource
  refine (hcommit.and (commit_unsure validateProfile candidate previous install)).mono ?_ ?_
  · rintro _ after ⟨⟨hlive, hdisk, -⟩, -⟩
    unfold Attempt.Ends at hsaved
    rw [← hdisk] at hsaved
    exact ⟨hlive, hsaved⟩
  · rintro e after ⟨⟨hlive, hcase⟩, hunsure⟩
    refine ⟨hlive, ?_⟩
    rcases hcase with ⟨hdisk, -⟩ | ⟨e', hdisk, -⟩
    · rw [hdisk]
      exact .refl hfile
    · rcases hunsure with hsame | hunsure
      · rw [hsame]
        exact .refl hfile
      · unfold Attempt.Ends at hsaved
        rw [← hdisk] at hsaved
        refine ⟨hsaved.1, hsaved.2.imp_left fun h => ?_⟩
        exact hunsure e' (by rw [← hdisk]) h

theorem mutateThreshold_ends (halone : Alone ctx.host)
    (hfile : ∃ file data, OnDisk ctx setup.disk.disk file data) (dbfs : Option δ) :
    Attempt.Ends (mutateThreshold ctx occasion profileName channel dbfs) setup
      (fun result => Succeeds ctx profileName setup result.2) (Fails ctx setup) := by
  have hunchanged : ∀ e, Fails ctx setup e setup := fun e => fails_of_untouched hfile ⟨rfl, rfl⟩
  unfold mutateThreshold
  refine .bindGet ?_
  refine .bindOfExcept (fun e _ => hunchanged e) fun profile _ => ?_
  refine .bindOfExcept (fun e _ => hunchanged e) fun _ _ => ?_
  refine .bindOfExcept (fun e _ => hunchanged e) fun identity _ => ?_
  refine .bindOfExcept (fun e _ => hunchanged e) fun _ _ => ?_
  refine .bindOfExcept (fun e _ => hunchanged e) fun resolved hresolved => ?_
  refine .bindGet ?_
  refine .bindOfExcept (fun e _ => hunchanged e) fun report _ => ?_
  refine .bindOfExcept (fun e _ => hunchanged e) fun effective heffective => ?_
  have hpolicy := effectiveActivity_eq_ok heffective
  unfold saveConfig onDisk
  refine .bindZoom (savedDisk_alone halone hfile _ _ _) ?_ fun e disk' hkept => ⟨rfl, hkept⟩
  intro _ disk' hstored
  refine .bindModify ?_
  have hfollowed : Followed ctx profileName _ setup.live _ := followed_install hresolved hpolicy
  have hsucceeds := And.intro hstored hfollowed
  cases dbfs with
  | some dbfs => exact hsucceeds
  | none =>
      refine .bind cleanupReset_untouched ?_
      intro message after hafter
      refine Succeeds.untouched ?_ hafter
      exact hsucceeds

variable [DecidableEq κ]

theorem commitCalibration_ends (halone : Alone ctx.host)
    (hfile : ∃ file data, OnDisk ctx setup.disk.disk file data)
    {target : SessionCalibrationTarget δ κ} {prepared : PreparedCalibrationGeneration δ}
    {thresholdDbfs : δ} (hname : target.activeProfile.name = profileName) :
    Attempt.Ends
      (commitCalibration ctx occasion profileName channel target prepared thresholdDbfs) setup
      (fun result => Succeeds ctx profileName setup result.2) (Fails ctx setup) := by
  unfold commitCalibration
  refine .bindGet ?_
  refine .bindRequire (fun _ => fails_of_untouched hfile ⟨rfl, rfl⟩) fun hcurrent => ?_
  refine .bindRequire (fun _ => fails_of_untouched hfile ⟨rfl, rfl⟩) fun _ => ?_
  refine .bind (onStore_untouched.mono (fun _ _ h => h) fun _ _ h => fails_of_untouched hfile h) ?_
  intro previous captured hcaptured
  have hunchanged : ∀ e, Fails ctx setup e captured := fun e => fails_of_untouched hfile hcaptured
  refine .bindOfExcept (fun e _ => hunchanged e) fun profile _ => ?_
  refine .bindOfExcept (fun e _ => hunchanged e) fun _ _ => ?_
  refine .bindOfExcept (fun e _ => hunchanged e) fun resolved hresolved => ?_
  refine .bindGet ?_
  refine .bindOfExcept (fun e _ => hunchanged e) fun report _ => ?_
  refine .bindOfExcept (fun e _ => hunchanged e) fun effective heffective => ?_
  have hpolicy := effectiveActivity_eq_ok heffective
  have hfollowed : Followed ctx profileName _ setup.live _ := followed_install hresolved hpolicy
  obtain ⟨hactive, session, hsession, hsame⟩ := calibrationTargetIsCurrent_eq hcurrent
  -- the operation's profile is the active one, and the session is its session
  rw [hactive, Option.any_some, decide_eq_true hname, hsession] at hfollowed
  rw [Option.filter_some, decide_eq_true (hsame.trans hname)] at hfollowed
  rw [← hcaptured.1] at hfile
  refine .bind ((commit_together halone hfile _ _ _ _ _).mono (fun _ _ h => h) ?_) ?_
  · rintro e after ⟨hlive, hkept⟩
    rw [hcaptured.1] at hkept
    exact ⟨hlive.trans hcaptured.2, hkept⟩
  · rintro cleanup after ⟨hlive, hstored⟩
    rw [hcaptured.2] at hlive
    refine ⟨?_, ?_⟩
    · rw [hlive]
      exact hstored
    · rw [hlive]
      exact hfollowed

theorem calibrateThreshold_ends (halone : Alone ctx.host)
    (hfile : ∃ file data, OnDisk ctx setup.disk.disk file data) (seconds : ℕ) :
    Attempt.Ends (calibrateThreshold ctx occasion profileName channel seconds) setup
      (fun result => Succeeds ctx profileName setup result.2) (Fails ctx setup) := by
  have hunchanged : ∀ e, Fails ctx setup e setup := fun e => fails_of_untouched hfile ⟨rfl, rfl⟩
  unfold calibrateThreshold
  refine .bindRequire (fun _ => hunchanged _) fun _ => ?_
  refine .bindGet ?_
  refine .bindOfExcept (fun e _ => hunchanged e) fun target htarget => ?_
  refine .bindRequire (fun _ => hunchanged _) fun _ => ?_
  refine .bindRequire (fun _ => hunchanged _) fun _ => ?_
  refine .bindOfExcept (fun e _ => hunchanged e) fun usable _ => ?_
  refine .bindRequire (fun _ => hunchanged _) fun _ => ?_
  refine .bindOfExcept (fun e _ => hunchanged e) fun thresholdDbfs _ => ?_
  refine .bindOfExcept (fun e _ => hunchanged e) fun _ _ => ?_
  refine .bind (onStore_untouched.mono (fun _ _ h => h) fun _ _ h => fails_of_untouched hfile h) ?_
  intro prepared made hmade
  refine .bindModify ?_
  have hcommit : Attempt.Ends
      (commitCalibration ctx occasion profileName channel _ prepared thresholdDbfs)
      { made with authoritative := false } _ _ :=
    commitCalibration_ends halone (by rw [hmade.1]; exact hfile)
      (sessionCalibrationTarget_name htarget)
  refine dropping_ends (hcommit.mono ?_ ?_) ?_ ?_
  · rintro result after ⟨hstored, hfollowed⟩
    rw [hmade.2] at hfollowed
    exact And.intro hstored hfollowed
  · rintro e after ⟨hlive, hkept⟩
    rw [hmade.1] at hkept
    exact And.intro (hlive.trans hmade.2) hkept
  · exact fun _ _ _ h hafter => Succeeds.untouched h hafter
  · exact fun _ _ _ h hafter => Fails.untouched h hafter

/-- What one operation does. -/
theorem threshold_request_ends (halone : Alone ctx.host)
    (hfile : ∃ file data, OnDisk ctx setup.disk.disk file data) (request : ThresholdRequest δ) :
    Attempt.Ends (request.run ctx occasion) setup
      (fun result => Succeeds ctx request.profile setup result.2) (Fails ctx setup) := by
  cases request with
  | set profile channel dbfs =>
      refine .bindRequire (fun _ => fails_of_untouched hfile ⟨rfl, rfl⟩) fun _ => ?_
      exact mutateThreshold_ends halone hfile (some dbfs)
  | reset profile channel => exact mutateThreshold_ends halone hfile none
  | calibrate profile channel seconds => exact calibrateThreshold_ends halone hfile seconds

/-! ### Runs -/

/-- A sequence of operations; those that fail do so with errors in `allowed`. -/
inductive ThresholdRun (ctx : DaemonContext γ φ δ π ρ κ) (allowed : LambError → Prop)
    (start : Setup (AppRuntimeState δ π ρ κ)) : Setup (AppRuntimeState δ π ρ κ) → Prop
  | start : ThresholdRun ctx allowed start start
  | step {setup : Setup (AppRuntimeState δ π ρ κ)} (h : ThresholdRun ctx allowed start setup)
      (request : ThresholdRequest δ) (occasion : Occasion δ)
      (hallowed : ∀ e, (request.run ctx occasion setup).1 = .error e → allowed e) :
      ThresholdRun ctx allowed start (request.run ctx occasion setup).2

theorem ThresholdRun.file {allowed : LambError → Prop}
    {start setup : Setup (AppRuntimeState δ π ρ κ)} (h : ThresholdRun ctx allowed start setup)
    (halone : Alone ctx.host) (hfile : ∃ file data, OnDisk ctx start.disk.disk file data) :
    ∃ file data, OnDisk ctx setup.disk.disk file data := by
  induction h with
  | start => exact hfile
  | step h request occasion hallowed ih =>
      refine Attempt.Ends.reached
        (P := fun after => ∃ file data, OnDisk ctx after.disk.disk file data)
        ((threshold_request_ends halone ih request).mono ?_ ?_)
      · rintro _ after ⟨⟨file, data, hdisk, -⟩, -⟩
        exact ⟨file, data, hdisk⟩
      · exact fun _ _ hfails => hfails.2.1

/-- Operations that never fail without knowing keep all of it together. -/
theorem Together.run {start setup : Setup (AppRuntimeState δ π ρ κ)}
    (htogether : Together ctx start)
    (halone : Alone ctx.host) (h : ThresholdRun ctx (fun e => ¬Unsure e) start setup) :
    Together ctx setup := by
  induction h with
  | start => exact htogether
  | @step setup h request occasion hallowed ih =>
      have hends : Attempt.Ends (request.run ctx occasion) setup _ _ :=
        threshold_request_ends halone ih.file request
      cases hresult : (request.run ctx occasion setup).1 with
      | ok result =>
          obtain ⟨hstored, hfollowed⟩ := hends.of_ok hresult
          exact ⟨hstored, hfollowed.activeValid ih.active, hfollowed.policyFollows ih.policy⟩
      | error e =>
          obtain ⟨hlive, hkept⟩ := hends.of_error hresult
          refine ⟨?_, ?_, ?_⟩
          · rw [hlive]
            exact hkept.stored (hallowed e hresult) ih.stored
          · rw [hlive]
            exact ih.active
          · rw [hlive]
            exact ih.policy

/-- Starting from a state that is together: whatever operations went before, one
that succeeds brings the disk, the memory, the active profile and the policy
together, and one that fails changes none of them, except that it may leave its
configuration on the disk if it fails without knowing. As long as no operation
does that, everything stays together. -/
theorem threshold_operations_together (halone : Alone ctx.host)
    {start : Setup (AppRuntimeState δ π ρ κ)} (htogether : Together ctx start) :
    (∀ setup, ThresholdRun ctx (fun e => ¬Unsure e) start setup → Together ctx setup) ∧
      ∀ setup, ThresholdRun ctx (fun _ => True) start setup →
        ∀ (request : ThresholdRequest δ) (occasion : Occasion δ),
          Attempt.Ends (request.run ctx occasion) setup
            (fun result after => Stored ctx after.disk.disk after.live.config ∧
              Followed ctx request.profile result.2 setup.live after.live)
            (fun e after => after.live = setup.live ∧
              (Unsure e ∨ ∀ file data, OnDisk ctx setup.disk.disk file data →
                OnDisk ctx after.disk.disk file data)) := by
  refine ⟨fun setup hrun => htogether.run halone hrun, ?_⟩
  intro setup hrun request occasion
  refine (threshold_request_ends halone (hrun.file halone htogether.file) request).mono ?_ ?_
  · exact fun _ _ h => h
  · exact fun _ _ h => ⟨h.1, h.2.2⟩

end Operations

/-! ### A save that does not know -/

def bareProfile : ProfileConfig Unit Unit where
  rest := ()
  channels := ∅

def bareConfig : AppConfig Unit Unit Unit where
  daemon := ()
  profiles := AList.singleton "p" bareProfile

/-- One input named `c`, whose threshold is the one of the profile. -/
def resolveBare (profile : ProfileConfig Unit Unit) : ProfileSettings Unit Unit where
  backend := "pipewire"
  ports := [⟨"s", "c"⟩]
  target := none
  activity :=
    { detector := .windowedRmsPeak
      channels := [⟨"c", .auto, (profile.channels.lookup "c").join⟩]
      wholeExportExactZeroGate := false
      trimLeadingSilence := true }
  rest := ()

def bareThresholds : ThresholdHost Unit Unit Unit Unit Unit where
  resolveProfile := fun _ profile => .ok (resolveBare profile)
  sha256 := fun _ => List.replicate 32 0
  generations := fun _ =>
    { maximumFrames := 0
      openGeneration := fun _ _ => .error (.io .notFound)
      readMetadataAt := fun _ => .error (.io .notFound)
      validateWavAt := fun _ _ _ => .ok ()
      sameThreshold := fun _ _ => true
      exceeds := fun _ _ => false }

/-- The configuration once the threshold of `c` has been set. -/
def manualConfig : AppConfig Unit Unit Unit :=
  bareConfig.setActivity "p" bareProfile "c"
    (some ⟨(), .manual, 7, lowerHex (List.replicate 32 0), none⟩)

/-- A format with two texts. -/
def twoTexts : ConfigFormat (AppConfig Unit Unit Unit) where
  validatePersistedConfig := fun _ => .ok ()
  toStringPretty := fun config => .ok (if config = manualConfig then "manual" else "bare")
  fromStr := fun text =>
    if text = "manual\n" then .ok manualConfig
    else if text = "bare\n" then .ok bareConfig
    else .error (.config "toml")

/-- A system on which nobody else acts, and calls fail as `fails` says. -/
def aloneHost (fails : World FileData → Bool) : Host where
  os := .upward (fun _ => []) fails
  root := 0
  cwd := 0
  uid := 0
  gid := 0

def bareContext (fails : World FileData → Bool) : DaemonContext Unit Unit Unit Unit Unit Unit where
  host := aloneHost fails
  configPath := sharedPath
  store := ⟨.upward, [], fun _ => some 0⟩
  thresholds := bareThresholds
  format := twoTexts
  thresholdInRange := fun _ => true
  display := fun _ => ""

def bareOccasion (hook : DurabilityHook) : Occasion Unit where
  now := 7
  configHook := hook
  cleanupHook := fun _ _ => .ok ()
  nameSource := fun _ => .ok 0
  interrupted := fun _ => false
  calibrateChannel := fun _ _ => .ok true
  deriveThreshold := .ok ()
  prepareGeneration := fun _ _ _ _ => Attempt.fail (.config "generation")

/-- The configuration file is there; the profile is neither active nor captured. -/
def bareSetup : Setup (AppRuntimeState Unit Unit Unit Unit) where
  disk := ⟨⟨[(0, .directory), (1, .file ⟨"bare\n", 0o600, 0, 0⟩)], [((0, "config"), some 1)]⟩, []⟩
  store := ⟨.bare ⟨0, 0⟩, 0⟩
  authoritative := false
  live := ⟨bareConfig, "idle", none, none, none⟩

theorem alone_aloneHost (fails : World FileData → Bool) : Alone (aloneHost fails) :=
  fun _ => rfl

theorem together_bareSetup (fails : World FileData → Bool) :
    Together (bareContext fails) bareSetup where
  stored := ⟨1, ⟨"bare\n", 0o600, 0, 0⟩,
    ⟨Path.absolute [], "config", 0, rfl, rfl, ⟨[], rfl, rfl⟩, rfl, rfl⟩, rfl⟩
  active := nofun
  policy := nofun

/-- Nothing fails. -/
def setSaved : Except LambError (String × ThresholdReport Unit) ×
    Setup (AppRuntimeState Unit Unit Unit Unit) :=
  (ThresholdRequest.set "p" "c" ()).run (bareContext fun _ => false)
    (bareOccasion fun _ _ => .ok ()) bareSetup

theorem threshold_set_together :
    setSaved.2.live.config = manualConfig ∧
      Stored (bareContext fun _ => false) setSaved.2.disk.disk manualConfig := by
  have hok : setSaved.1.isOk = true := by decide +kernel
  have hlive : setSaved.2.live.config = manualConfig := by decide +kernel
  cases hresult : setSaved.1 with
  | error e =>
      rw [hresult] at hok
      cases hok
  | ok result =>
      have hends := (threshold_operations_together (alone_aloneHost _)
        (together_bareSetup fun _ => false)).2 _ .start (.set "p" "c" ())
        (bareOccasion fun _ _ => .ok ())
      refine ⟨hlive, ?_⟩
      have hstored := (hends.of_ok hresult).1
      rw [← hlive]
      exact hstored

/-- Once the parent is synchronized, every call fails. -/
def unsureContext : DaemonContext Unit Unit Unit Unit Unit Unit :=
  bareContext fun world => world.past.any fun step => step.event = .synced 0

def setUnsure : Except LambError (String × ThresholdReport Unit) ×
    Setup (AppRuntimeState Unit Unit Unit Unit) :=
  (ThresholdRequest.set "p" "c" ()).run unsureContext (bareOccasion failingHook) bareSetup

/-- After a save that does not know, an operation on a profile that is not there
fails plainly and finds the disk apart from the memory. -/
theorem threshold_unsure_set_apart :
    ¬∀ (ctx : DaemonContext Unit Unit Unit Unit Unit Unit)
      (start setup : Setup (AppRuntimeState Unit Unit Unit Unit)) (request : ThresholdRequest Unit)
      (occasion : Occasion Unit),
      Alone ctx.host → Together ctx start → ThresholdRun ctx (fun _ => True) start setup →
      (∀ e, (request.run ctx occasion setup).1 = .error e → ¬Unsure e) →
      Stored ctx (request.run ctx occasion setup).2.disk.disk
        (request.run ctx occasion setup).2.live.config := by
  intro h
  have hplain : (ThresholdRequest.set "q" "c" ()).run unsureContext (bareOccasion failingHook)
      setUnsure.2 = (.error (missingProfile "q"), setUnsure.2) := by
    refine Prod.ext ?_ rfl
    decide +kernel
  have hstored := h unsureContext bareSetup setUnsure.2 (.set "q" "c" ()) (bareOccasion failingHook)
    (alone_aloneHost _) (together_bareSetup _)
    (.step .start (.set "p" "c" ()) (bareOccasion failingHook) fun _ _ => trivial) ?_
  · rw [hplain] at hstored
    have hlive : setUnsure.2.live.config = bareConfig := by decide +kernel
    have hdisk : (setUnsure.2.disk.disk.entry 0 "config").bind setUnsure.2.disk.disk.inode =
        some (.file ⟨"manual\n", 0o600, 0, 0⟩) := by
      decide +kernel
    obtain ⟨file, hentry, hinode⟩ := Option.bind_eq_some_iff.1 hdisk
    have hmanual : Stored unsureContext setUnsure.2.disk.disk manualConfig :=
      ⟨file, ⟨"manual\n", 0o600, 0, 0⟩,
        ⟨Path.absolute [], "config", 0, rfl, rfl, ⟨[], rfl, rfl⟩, hentry, hinode⟩, rfl⟩
    dsimp only at hstored
    rw [hlive] at hstored
    exact absurd (hstored.unique hmanual) (by decide +kernel)
  · intro e he
    rw [hplain] at he
    cases he
    nofun

end Lamb.Calibration
