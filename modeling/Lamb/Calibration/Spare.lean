import Lamb.Calibration.Store

/-!
What removing a generation leaves alone: everything at and below a directory
that is neither inside the generation nor around it.
-/

namespace Lamb.Generations

open Lamb.Lib Lamb.Recovery

/-! ### Locations apart from each other -/

/-- Neither of two locations is inside the other. -/
def Apart (location location' : Location) : Prop :=
  ¬location <+: location' ∧ ¬location' <+: location

theorem Apart.not_isPrefix {location location' below : Location} (h : Apart location location')
    (hbelow : location' <+: below) : ¬location <+: below := by
  intro hpre
  rcases List.prefix_or_prefix_of_prefix hpre hbelow with hpre | hpre
  · exact h.1 hpre
  · exact h.2 hpre

/-- Everything at and below a location is as it was. -/
def Keeps (location : Location) (fs fs' : FileSystem) : Prop :=
  ∀ below, location <+: below → fs'.lookup below = fs.lookup below

/-- Everything at and below an entry that `P` holds of is as it was. -/
def Spares (P : Location → Prop) (fs fs' : FileSystem) : Prop :=
  ∀ location, fs.lookup location ≠ none → P location → Keeps location fs fs'

section Spares

variable {P : Location → Prop} {fs fs' fs'' : FileSystem}

theorem Spares.refl : Spares P fs fs :=
  fun _ _ _ _ _ => rfl

theorem Spares.trans (h : Spares P fs fs') (h' : Spares P fs' fs'') : Spares P fs fs'' := by
  intro location hsome hP below hbelow
  have hkept := h location hsome hP
  have hsome' : fs'.lookup location ≠ none := by
    rw [hkept location (List.prefix_refl _)]
    exact hsome
  rw [h' location hsome' hP below hbelow, hkept below hbelow]

theorem Spares.of_shrinks {location : Location}
    (h : fs.Shrinks (fun location' _ => location <+: location') fs') :
    Spares (Apart location) fs fs' := by
  intro location' _ hapart below hbelow
  exact h.lookup_of_not fun _ _ => hapart.not_isPrefix hbelow

end Spares

/-! ### Clearing a directory -/

section Clear

variable {host : StoreHost} {world : Recovery.World}

/-- Only entries below a directory are removed. -/
def Below (directory : Location) (location : Location) (_ : Entry) : Prop :=
  directory <+: location

theorem removesOnly_removeDirAt {directory parent : Location} {name : String}
    (h : directory <+: parent ++ [name]) :
    RemovesOnly (Below directory) (removeDirAt host parent name) world := by
  refine ends_call (fun _ => .refl _) ?_ fun _ _ => .refl _
  intro _ fs hok
  refine (shrinks_of_lookup (removeDirEntry_ok hok)).mono ?_
  rintro location entry - rfl
  exact h

theorem removesOnly_unlinkAt {directory parent : Location} {name : String}
    (h : directory <+: parent ++ [name]) :
    RemovesOnly (Below directory) (unlinkAt host.os parent name) world := by
  refine ends_call (fun _ => .refl _) ?_ fun _ _ => .refl _
  intro _ fs hok
  obtain ⟨entry, -, hlookup⟩ := unlinkEntry_ok hok
  refine (shrinks_of_lookup hlookup).mono ?_
  rintro location entry - rfl
  exact h

theorem removesOnly_orFail {β : Type} {directory : Location}
    {attempt : Recovery.Io (Except IoErrorKind β)}
    (h : RemovesOnly (Below directory) attempt world) :
    RemovesOnly (Below directory) (orFail attempt) world := by
  refine .bind h fun result world' _ => ?_
  cases result with
  | ok b => exact .of_readOnly (.pure b)
  | error kind => exact .of_readOnly (.fail _)

/-- An open directory is where it was opened. -/
theorem openDirectoryAt_ends {parent : Location} {name : String} {E : LambError → Recovery.World → Prop} :
    Attempt.Ends (openDirectoryAt host.os parent name) world
      (fun result world' => world'.fs = world.fs ∧
        ∀ directory, result = .ok directory → directory = parent ++ [name] ∧
          ∃ identity, world.fs.lookup directory = some (.directory identity)) E := by
  refine ends_query (fun _ => ⟨rfl, nofun⟩) ⟨rfl, fun directory h => ?_⟩
  split at h
  · rename_i identity hfound
    cases h
    exact ⟨rfl, identity, hfound⟩
  · cases h
  · cases h

theorem removesOnly_clearEntries {clear : Location → ℕ → Recovery.Io ℕ} {directory : Location}
    (hclear : ∀ child budget world, RemovesOnly (Below child) (clear child budget) world)
    (names : List String) (budget : ℕ) :
    RemovesOnly (Below directory) (clearEntries host clear directory names budget) world := by
  induction names generalizing budget world with
  | nil => exact .of_readOnly (.pure budget)
  | cons name names ih =>
      have hinside : directory <+: directory ++ [name] := List.prefix_append _ _
      cases budget with
      | zero => exact .of_readOnly (.fail _)
      | succ budget =>
          unfold clearEntries
          refine .bind (.of_readOnly .query) fun found world' _ => ?_
          cases found with
          | error kind =>
              cases kind with
              | notFound => exact .of_readOnly (.fail _)
              | alreadyExists => exact .of_readOnly (.fail _)
              | invalidData => exact .of_readOnly (.fail _)
              | other => exact .of_readOnly (.fail _)
          | ok entry =>
              cases entry with
              | file identity content =>
                  exact .bind (removesOnly_orFail (removesOnly_unlinkAt hinside))
                    fun _ _ _ => ih budget
              | symlink identity target =>
                  exact .bind (removesOnly_orFail (removesOnly_unlinkAt hinside))
                    fun _ _ _ => ih budget
              | directory identity =>
                  refine Attempt.Ends.bind (Q := fun child world'' => world''.fs = world'.fs ∧
                    child = directory ++ [name]) (ends_orFail ?_) ?_
                  · refine openDirectoryAt_ends.mono ?_ fun _ _ h => h
                    rintro (kind | child) world'' ⟨hfs, hchild⟩
                    · dsimp only
                      rw [hfs]
                      exact .refl _
                    · exact ⟨hfs, (hchild child rfl).1⟩
                  · rintro child world'' ⟨hfs, rfl⟩
                    rw [← hfs]
                    refine RemovesOnly.bind ((hclear _ budget world'').mono fun location _ h =>
                      hinside.trans h) fun budget _ _ => ?_
                    exact .bind (removesOnly_orFail (removesOnly_removeDirAt hinside))
                      fun _ _ _ => ih budget

theorem removesOnly_clearDirectoryAt (levels : ℕ) (directory : Location) (budget : ℕ) :
    RemovesOnly (Below directory) (clearDirectoryAt host levels directory budget) world := by
  induction levels generalizing directory budget world with
  | zero => exact .of_readOnly (.fail _)
  | succ levels ih =>
      unfold clearDirectoryAt
      refine .ite (fun _ => .of_readOnly (.fail _)) fun _ => ?_
      refine .bind (.of_readOnly (.orFail .query)) fun names world' _ => ?_
      exact removesOnly_clearEntries (fun child budget world => ih child budget) names budget

end Clear

/-! ### Removing a generation -/

section Remove

variable {host : StoreHost} {world : Recovery.World} {P : Location → Prop}

/-- However a step ends, it spares what `P` holds of. -/
def SparesIn {β : Type} (P : Location → Prop) (f : Recovery.Io β) (world : Recovery.World) : Prop :=
  Attempt.Ends f world (fun _ world' => Spares P world.fs world'.fs)
    fun _ world' => Spares P world.fs world'.fs

namespace SparesIn

variable {β γ : Type}

theorem of_readOnly {f : Recovery.Io β} (h : ReadOnly f) : SparesIn P f world := by
  refine h.ends ?_ ?_
  · intro b world' _ hfs
    rw [hfs]
    exact .refl
  · intro e world' hfs
    rw [hfs]
    exact .refl

theorem bind {f : Recovery.Io β} {g : β → Recovery.Io γ} (hf : SparesIn P f world)
    (hg : ∀ b world', SparesIn P (g b) world') : SparesIn P (f >>= g) world := by
  refine Attempt.Ends.bind hf ?_
  intro b world' hspares
  exact Attempt.Ends.mono (hg b world') (fun _ _ h => hspares.trans h) fun _ _ h => hspares.trans h

theorem capture {f : Recovery.Io β} (hf : SparesIn P f world) : SparesIn P f.capture world :=
  Attempt.Ends.capture hf

theorem ite {p : Prop} [Decidable p] {f g : Recovery.Io β} (hf : SparesIn P f world)
    (hg : SparesIn P g world) : SparesIn P (if p then f else g) world := by
  split
  · exact hf
  · exact hg

theorem of_removesOnly {directory : Location} {f : Recovery.Io β}
    (h : RemovesOnly (Below directory) f world) : SparesIn (Apart directory) f world :=
  Attempt.Ends.mono h (fun _ _ hshrinks => .of_shrinks hshrinks)
    fun _ _ hshrinks => .of_shrinks hshrinks

end SparesIn

theorem readOnly_runHook (hook : CleanupHook) (checkpoint : CleanupCheckpoint) :
    ReadOnly (runHook hook checkpoint) :=
  fun _ => rfl

theorem sparesIn_withIdentity {parent : Location} {name : String} {expected : FileIdentity}
    {next : Location → Recovery.Io Bool}
    (hnext : ∀ world', SparesIn P (next (parent ++ [name])) world') :
    SparesIn P (withIdentity host parent name expected next) world := by
  unfold withIdentity
  refine Attempt.Ends.bind openDirectoryAt_ends ?_
  rintro result world' ⟨hfs, hdirectory⟩
  rw [← hfs]
  cases result with
  | error kind => exact SparesIn.of_readOnly (.pure false)
  | ok directory =>
      rw [(hdirectory directory rfl).1]
      exact SparesIn.bind (.of_readOnly (.orFail .query)) fun metadata _ =>
        .ite (hnext _) (.of_readOnly (.pure false))

/-- A new name is one that was free, and only the two names are affected. -/
theorem renameNoReplaceAt_ends {parent : Location} {source target : String}
    {E : LambError → Recovery.World → Prop} :
    Attempt.Ends (renameNoReplaceAt host.os parent source target) world
      (fun result world' => match result with
        | .error _ => world'.fs = world.fs
        | .ok _ => world.fs.lookup (parent ++ [target]) = none ∧
            Spares (fun location => Apart (parent ++ [source]) location ∧
              Apart (parent ++ [target]) location) world.fs world'.fs) E := by
  refine ends_call (fun _ => rfl) ?_ fun _ _ => rfl
  intro _ fs h
  split at h
  · cases h
  · rename_i entry hsource
    split at h
    · rename_i hfree
      refine ⟨hfree, ?_⟩
      rintro location - ⟨hapart, hapart'⟩ below hbelow
      have hnot := hapart.not_isPrefix hbelow
      have hnot' := hapart'.not_isPrefix hbelow
      split at h
      · cases h
        rw [World.tick_fs, FileTree.lookup_rename, if_neg, if_neg]
        · exact fun heq => hnot (heq ▸ List.prefix_refl _)
        · exact fun heq => hnot' (heq ▸ List.prefix_refl _)
      · cases h
        rw [World.tick_fs, FileTree.lookup_move, FileTree.lookupMoved, if_neg hnot', if_neg hnot]
    · cases h

/-- A free name beside an entry is apart from whatever is there and apart from
the entry. -/
theorem apart_sibling {fs : FileSystem} {parent location : Location} {name name' : String}
    (hfree : fs.lookup (parent ++ [name']) = none) (hsome : fs.lookup location ≠ none)
    (h : Apart (parent ++ [name]) location) : Apart (parent ++ [name']) location := by
  refine ⟨fun hpre => ?_, fun hpre => ?_⟩
  · by_cases heq : parent ++ [name'] = location
    · exact hsome (heq ▸ hfree)
    · obtain ⟨identity, hdirectory⟩ := FileTree.isDirectory_of_isPrefix hsome hpre heq
      rw [hfree] at hdirectory
      cases hdirectory
  · rcases List.prefix_concat_iff.1 hpre with heq | hpre
    · exact hsome (heq ▸ hfree)
    · exact h.2 (hpre.trans (List.prefix_append _ _))

/-- What is left of a removal once the generation has its other name. -/
theorem sparesIn_removeQuarantined {parent : Location} {quarantine : String}
    {expected : FileIdentity} {hook : CleanupHook} :
    SparesIn (Apart (parent ++ [quarantine])) (removeQuarantined host parent quarantine expected hook)
      world := by
  unfold removeQuarantined
  refine sparesIn_withIdentity fun world' => ?_
  refine SparesIn.bind (.of_readOnly (readOnly_runHook _ _)) fun _ world' => ?_
  refine sparesIn_withIdentity fun world' => ?_
  refine .bind (.capture (.of_removesOnly (removesOnly_clearDirectoryAt _ _ _)))
    fun result world' => ?_
  cases result with
  | error _ => exact .of_readOnly (.pure false)
  | ok _ =>
  refine .bind (.of_readOnly .query) fun result world' => ?_
  cases result with
  | error _ => exact .of_readOnly (.pure false)
  | ok directory =>
  refine .bind (.of_readOnly .query) fun result world' => ?_
  cases result with
  | error _ => exact .of_readOnly (.pure false)
  | ok metadata =>
  refine .ite ?_ (.of_readOnly (.pure false))
  refine .bind (.of_removesOnly (removesOnly_removeDirAt (List.prefix_refl _)))
    fun result world' => ?_
  cases result with
  | error _ => exact .of_readOnly (.pure false)
  | ok _ => exact .bind (.of_readOnly .query) fun _ _ => .of_readOnly (.pure true)

/-- Removing a generation spares whatever is apart from it. -/
theorem sparesIn_removeGenerationAt {parent : Location} {name : String} {expected : FileIdentity}
    {hook : CleanupHook} :
    SparesIn (Apart (parent ++ [name])) (removeGenerationAt host parent name expected hook) world := by
  unfold removeGenerationAt
  refine sparesIn_withIdentity fun world' => ?_
  refine SparesIn.bind (.of_readOnly (readOnly_runHook _ _)) fun _ world' => ?_
  refine sparesIn_withIdentity fun world => ?_
  refine .bindGet ?_
  cases host.nextTemp world with
  | none => exact SparesIn.of_readOnly (.pure false)
  | some sequence =>
      refine .bind renameNoReplaceAt_ends ?_
      intro result world' hresult
      cases result with
      | error kind =>
          rw [← hresult]
          exact SparesIn.of_readOnly (.pure false)
      | ok _ =>
          obtain ⟨hfree, hspares⟩ := hresult
          -- what was apart from the old name is apart from the new one
          have hboth : ∀ {fs : FileSystem},
              Spares (Apart (parent ++ [Calibration.adjacentName name "cleanup" sequence]))
                world'.fs fs → Spares (Apart (parent ++ [name])) world.fs fs := by
            intro fs hrest location hsome hapart
            have hapart' := apart_sibling hfree hsome hapart
            have hkept := hspares location hsome ⟨hapart, hapart'⟩
            intro below hbelow
            have hsome' : world'.fs.lookup location ≠ none := by
              rw [hkept location (List.prefix_refl _)]
              exact hsome
            rw [hrest location hsome' hapart' below hbelow, hkept below hbelow]
          exact Attempt.Ends.mono sparesIn_removeQuarantined (fun _ _ h => hboth h)
            fun _ _ h => hboth h

/-- A directory that is not the one expected is left alone. -/
theorem removeGenerationAt_other {parent : Location} {name : String}
    {identity expected : FileIdentity} {hook : CleanupHook}
    (hfound : world.fs.lookup (parent ++ [name]) = some (.directory identity))
    (hne : identity ≠ expected) :
    Attempt.Ends (removeGenerationAt host parent name expected hook) world
      (fun _ world' => world'.fs = world.fs) fun _ world' => world'.fs = world.fs := by
  unfold removeGenerationAt withIdentity
  refine .bind openDirectoryAt_ends ?_
  rintro result world₁ ⟨hfs₁, hdirectory⟩
  cases result with
  | error kind => exact hfs₁
  | ok directory =>
      obtain ⟨rfl, -⟩ := hdirectory directory rfl
      refine .bind (Q := fun metadata world' => world'.fs = world.fs ∧
        metadata = .directory identity) ?_ ?_
      · unfold orFail metadataOf
        refine .bind (Q := fun result world' => world'.fs = world.fs ∧
          ∀ metadata, result = .ok metadata → metadata = .directory identity)
          (ends_query (fun _ => ⟨hfs₁, nofun⟩) ⟨hfs₁, fun metadata hok => ?_⟩) ?_
        · rw [entryAt, hfs₁, hfound] at hok
          cases hok
          rfl
        · rintro (kind | metadata) world₂ ⟨hfs₂, hmetadata⟩
          · exact hfs₂
          · exact ⟨hfs₂, hmetadata metadata rfl⟩
      · rintro metadata world₂ ⟨hfs₂, rfl⟩
        exact .ite (fun heq => absurd heq hne) fun _ => hfs₂

end Remove

/-! ### Removing what nothing refers to -/

section Cleanup

variable {host : StoreHost} {hook : CleanupHook} {referenced : List (String × String)}
  {world : Recovery.World}

/-- The place of a generation. -/
def StoreHost.generation (host : StoreHost) (reference : String × String) : Location :=
  host.root ++ [reference.1, reference.2]

/-- Two generations of one store are apart from each other. -/
theorem apart_generation {reference reference' : String × String} (hne : reference ≠ reference') :
    Apart (host.generation reference) (host.generation reference') := by
  have hnot : ∀ {first second : String × String}, first ≠ second →
      ¬host.generation first <+: host.generation second := by
    intro first second hne hpre
    have heq := hpre.eq_of_length (by simp [StoreHost.generation])
    obtain ⟨hinput, hid, -⟩ := List.cons.inj (List.append_cancel_left heq) |>.imp_right List.cons.inj
    exact hne (Prod.ext hinput hid)
  exact ⟨hnot hne, hnot hne.symm⟩

theorem openNames_ok {fs : FileSystem} {directory found : Location} {names : List String}
    (h : openNames fs directory names = .ok found) : found = directory ++ names := by
  induction names generalizing directory with
  | nil =>
      cases h
      exact (List.append_nil _).symm
  | cons name names ih =>
      unfold openNames at h
      split at h
      · rw [ih h, List.append_assoc]
        rfl
      · cases h
      · cases h

/-- Removing what is not referred to spares what is. -/
theorem sparesIn_cleanupGeneration {inputName name : String} :
    SparesIn (fun location => ∃ reference ∈ referenced, location = host.generation reference)
      (cleanupGeneration host referenced hook inputName (host.root ++ [inputName]) name) world := by
  unfold cleanupGeneration
  by_cases hmem : (inputName, name) ∈ referenced
  · rw [if_pos hmem]
    exact .of_readOnly (.pure _)
  · rw [if_neg hmem]
    refine .bind (.of_readOnly .query) fun opened world' => ?_
    cases opened with
    | error kind => exact .of_readOnly (.pure _)
    | ok generation =>
        refine .bind (.of_readOnly (.orFail .query)) fun metadata world' => .bind ?_ fun _ _ =>
          .ite (.of_readOnly (.pure _)) (.of_readOnly (.pure _))
        have hspares : SparesIn (Apart (host.root ++ [inputName] ++ [name]))
            (removeRecordedGeneration host ⟨host.root ++ [inputName], name, metadata.identity⟩ hook)
            world' := sparesIn_removeGenerationAt
        have hapart : ∀ location, (∃ reference ∈ referenced, location = host.generation reference) →
            Apart (host.root ++ [inputName] ++ [name]) location := by
          rintro location ⟨reference, hreference, rfl⟩
          have hne : (inputName, name) ≠ reference := by
            rintro rfl
            exact hmem hreference
          rw [List.append_assoc]
          exact apart_generation hne
        exact Attempt.Ends.mono hspares
          (fun _ _ h location hsome hthere => h location hsome (hapart location hthere))
          fun _ _ h location hsome hthere => h location hsome (hapart location hthere)

/-- What is spared at the reference is spared in a step for each name. -/
theorem sparesIn_cleanupGenerations {inputName : String} (names : List String) :
    SparesIn (fun location => ∃ reference ∈ referenced, location = host.generation reference)
      (cleanupGenerations host referenced hook inputName (host.root ++ [inputName]) names) world := by
  induction names generalizing world with
  | nil => exact .of_readOnly (.pure _)
  | cons name names ih =>
      exact .bind sparesIn_cleanupGeneration fun _ _ => .bind ih fun _ _ => .of_readOnly (.pure _)

theorem sparesIn_cleanupInputs (inputNames : List String) :
    SparesIn (fun location => ∃ reference ∈ referenced, location = host.generation reference)
      (cleanupInputs host referenced hook host.root inputNames) world := by
  induction inputNames generalizing world with
  | nil => exact .of_readOnly (.pure _)
  | cons inputName inputNames ih =>
      unfold cleanupInputs
      refine Attempt.Ends.bind openDirectoryAt_ends ?_
      rintro opened world' ⟨hfs, hopened⟩
      rw [← hfs]
      cases opened with
      | error kind => exact ih
      | ok input =>
          rw [(hopened input rfl).1]
          exact SparesIn.bind (.of_readOnly (.orFail .query)) fun names _ =>
            .bind (sparesIn_cleanupGenerations names) fun _ _ =>
              .bind ih fun _ _ => .of_readOnly (.pure _)

theorem openExistingDirectory_at {location : Location} {E : LambError → Recovery.World → Prop} :
    Attempt.Ends (openExistingDirectory host location) world
      (fun opened world' => world'.fs = world.fs ∧ ∀ found, opened = .ok found → found = location)
      E := by
  refine ends_query (fun _ => ⟨rfl, nofun⟩) ⟨rfl, fun found hfound => ?_⟩
  rw [openNames_ok hfound, List.nil_append]

theorem sparesIn_cleanupUnreferenced :
    SparesIn (fun location => ∃ reference ∈ referenced, location = host.generation reference)
      (cleanupUnreferencedWithHook host referenced hook) world := by
  unfold cleanupUnreferencedWithHook
  refine Attempt.Ends.bind openExistingDirectory_at ?_
  rintro opened world' ⟨hfs, hopened⟩
  rw [← hfs]
  cases opened with
  | error kind =>
      cases kind with
      | notFound => exact SparesIn.of_readOnly (.pure _)
      | alreadyExists => exact SparesIn.of_readOnly (.fail _)
      | invalidData => exact SparesIn.of_readOnly (.fail _)
      | other => exact SparesIn.of_readOnly (.fail _)
  | ok root =>
      rw [hopened root rfl]
      exact SparesIn.bind (.of_readOnly (.orFail .query)) fun names _ =>
        sparesIn_cleanupInputs names

/-- A generation that is captured is in its place. -/
theorem capture_ends {inputId calibrationId : String} {E : LambError → Recovery.World → Prop}
    (herror : ∀ e world', world'.fs = world.fs → E e world') :
    Attempt.Ends (RecordedGeneration.capture host inputId calibrationId) world
      (fun recorded world' => world'.fs = world.fs ∧
        recorded.location = host.generation (inputId, calibrationId)) E := by
  unfold RecordedGeneration.capture
  refine .bind (Q := fun parent world' => world'.fs = world.fs ∧ parent = host.root ++ [inputId])
    (ends_orFail (openExistingDirectory_at.mono ?_ fun _ _ h => h)) ?_
  · rintro (kind | parent) world' ⟨hfs, hparent⟩
    · exact herror _ _ hfs
    · exact ⟨hfs, hparent parent rfl⟩
  rintro parent world' ⟨hfs, rfl⟩
  refine .bind (Q := fun _ world'' => world''.fs = world.fs)
    (ends_orFail (openDirectoryAt_ends.mono ?_ fun _ _ h => h)) ?_
  · rintro (kind | directory) world'' ⟨hfs', -⟩
    · exact herror _ _ (hfs'.trans hfs)
    · exact hfs'.trans hfs
  intro directory world'' hfs
  refine .bind (Q := fun _ world₃ => world₃.fs = world.fs)
    (ends_orFail (ends_query (fun _ => herror _ _ hfs) ?_)) ?_
  · cases entryAt world''.fs directory with
    | error kind => exact herror _ _ hfs
    | ok entry => exact hfs
  intro metadata world₃ hfs
  refine .pure ⟨hfs, ?_⟩
  exact List.append_assoc _ _ _

end Cleanup

end Lamb.Generations
