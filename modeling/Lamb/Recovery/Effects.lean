import Lamb.Recovery.Lookup

/-!
What the steps of recovery may do to the file system: most only read it, and
the others remove an entry that carries a given identity.
-/

namespace Lamb.Recovery

open Lamb.Lib

variable {os : Os} {β γ : Type} {world : World}

/-! ### Steps that only read -/

def ReadOnly (f : Io β) : Prop :=
  ∀ world, (f world).2.fs = world.fs

namespace ReadOnly

theorem pure (b : β) : ReadOnly (Pure.pure b : Io β) :=
  fun _ => rfl

theorem fail (e : LambError) : ReadOnly (Attempt.fail e : Io β) :=
  fun _ => rfl

theorem ofExcept (r : Result β) : ReadOnly (Attempt.ofExcept r : Io β) :=
  fun _ => rfl

theorem bind {f : Io β} {g : β → Io γ} (hf : ReadOnly f) (hg : ∀ b, ReadOnly (g b)) :
    ReadOnly (f >>= g) := by
  intro world
  have hfirst := hf world
  have h : Attempt.Ends (f >>= g) world (fun _ world' => world'.fs = world.fs)
      fun _ world' => world'.fs = world.fs := by
    refine .bind (Q := fun _ world' => world'.fs = world.fs) ?_ ?_
    · exact .of_reached hfirst
    · intro b world' hfs
      exact .of_reached ((hg b world').trans hfs)
  exact h.reached

theorem require {p : Prop} [Decidable p] (e : LambError) :
    ReadOnly (Attempt.require p e : Io Unit) := by
  unfold Attempt.require
  split
  · exact .pure ()
  · exact .fail e

theorem query {read : FileSystem → Except IoErrorKind β} : ReadOnly (query os read) := by
  intro world
  have h : Attempt.Ends (Recovery.query os read) world (fun _ world' => world'.fs = world.fs)
      fun _ world' => world'.fs = world.fs := ends_query (fun _ => rfl) rfl
  exact h.reached

theorem orFail {f : Io (Except IoErrorKind β)} (hf : ReadOnly f) : ReadOnly (orFail f) := by
  refine .bind hf ?_
  intro result
  cases result with
  | error kind => exact .fail _
  | ok b => exact .pure b

theorem capture {f : Io β} (hf : ReadOnly f) : ReadOnly f.capture :=
  hf

theorem lookAt {path : Path} {missing : Io β} {found : Entry → Io β} (hmissing : ReadOnly missing)
    (hfound : ∀ entry, ReadOnly (found entry)) : ReadOnly (lookAt os path missing found) := by
  intro world
  have h : Attempt.Ends (Recovery.lookAt os path missing found) world
      (fun _ world' => world'.fs = world.fs) fun _ world' => world'.fs = world.fs := by
    refine ends_lookAt ?_ ?_ (fun _ _ => rfl)
    · exact fun _ => .of_reached (hmissing _)
    · exact fun entry _ => .of_reached (hfound entry _)
  exact h.reached

theorem ite {p : Prop} [Decidable p] {f g : Io β} (hf : ReadOnly f) (hg : ReadOnly g) :
    ReadOnly (if p then f else g) := by
  split
  · exact hf
  · exact hg

/-- A step that only reads ends with what it read in the same file system. -/
theorem ends {f : Io β} (h : ReadOnly f) {Q : β → World → Prop} {E : LambError → World → Prop}
    (hok : ∀ b world', f world = (.ok b, world') → world'.fs = world.fs → Q b world')
    (herror : ∀ e world', world'.fs = world.fs → E e world') : Attempt.Ends f world Q E := by
  have hfs := h world
  unfold Attempt.Ends
  generalize hresult : f world = result at hfs
  obtain ⟨_ | b, world'⟩ := result
  · exact herror _ _ hfs
  · exact hok b world' hresult hfs

end ReadOnly

theorem readOnly_pathExists {path : Path} : ReadOnly (pathExists os path) :=
  .lookAt (.pure _) fun _ => .pure _

theorem readOnly_identityMatches {path : Path} {expected : FileIdentity} {directory : Bool} :
    ReadOnly (identityMatches os path expected directory) :=
  .lookAt (.pure _) fun _ => .pure _

theorem readOnly_syncDirectory {path : Path} : ReadOnly (syncDirectory os path) :=
  .bind (.orFail .query) fun _ => .orFail .query

theorem readOnly_syncOwnedDirectory {path : Path} {expected : FileIdentity} :
    ReadOnly (syncOwnedDirectory os path expected) := by
  refine .bind (.orFail .query) ?_
  intro entry
  refine .bind (.orFail .query) fun _ => .bind (.require _) fun _ => ?_
  exact .bind (.orFail .query) fun _ => .bind readOnly_identityMatches fun _ => .require _

theorem readOnly_syncRegularFile {path : Path} {expected : FileIdentity} :
    ReadOnly (syncRegularFile os path expected) := by
  refine .bind (.orFail .query) ?_
  intro entry
  refine .bind (.orFail .query) fun _ => .bind (.require _) fun _ => .bind (.require _) fun _ => ?_
  exact .bind (.orFail .query) fun _ => .bind readOnly_identityMatches fun _ => .require _

theorem readOnly_syncAncestors {seen : Path → Bool} {parent : List Char} (fuel stop : ℕ) :
    ReadOnly (syncAncestors os seen parent fuel stop) := by
  induction fuel generalizing stop with
  | zero => exact .pure ()
  | succ fuel ih =>
      unfold syncAncestors
      refine .ite ?_ (.pure ())
      split
      · exact .fail _
      · dsimp only
        split
        · exact .fail _
        · exact .bind (.ite (.pure ()) readOnly_syncDirectory) fun _ => ih _

theorem readOnly_syncEntryAncestors {outputRoot : Path} (prior entries : List ManifestEntrySlot) :
    ReadOnly (syncEntryAncestors os outputRoot prior entries) := by
  induction entries generalizing prior with
  | nil => exact .pure ()
  | cons entry entries ih =>
      refine .bind ?_ fun _ => ih _
      unfold syncParents
      split
      · exact .pure ()
      · exact readOnly_syncAncestors _ _

theorem readOnly_syncFileSetDirectories {manifest : TransactionManifest} {outputRoot : Path} :
    ReadOnly (syncFileSetDirectories os manifest outputRoot) :=
  .bind readOnly_syncDirectory fun _ => readOnly_syncEntryAncestors _ _

theorem readOnly_inferredFinalIdentity {manifest : TransactionManifest} {entry : ManifestEntrySlot}
    {index : ℕ} : ReadOnly (inferredFinalIdentity os manifest entry index) := by
  unfold inferredFinalIdentity
  refine .ite (.pure _) (.ite (.pure _) ?_)
  split
  · exact .pure _
  · split
    · exact .fail _
    · exact .bind readOnly_pathExists fun _ => .pure _

theorem readOnly_finalsMatch {manifest : TransactionManifest}
    (entries : List (ManifestEntrySlot × ℕ)) : ReadOnly (finalsMatch os manifest entries) := by
  induction entries with
  | nil => exact .pure _
  | cons item entries ih =>
      obtain ⟨entry, index⟩ := item
      refine .bind readOnly_inferredFinalIdentity ?_
      rintro (_ | identity)
      · exact .pure _
      · exact .bind readOnly_identityMatches fun _ => .ite ih (.pure _)

theorem readOnly_completeFinalSet {manifest : TransactionManifest} :
    ReadOnly (completeFinalSet os manifest) := by
  unfold completeFinalSet
  refine .ite ?_ (readOnly_finalsMatch _)
  split
  · exact .bind readOnly_identityMatches fun _ => .ite (readOnly_finalsMatch _) (.pure _)
  · exact .pure _

theorem readOnly_syncFinals {manifest : TransactionManifest}
    (entries : List (ManifestEntrySlot × ℕ)) : ReadOnly (syncFinals os manifest entries) := by
  induction entries with
  | nil => exact .pure _
  | cons item entries ih =>
      obtain ⟨entry, index⟩ := item
      refine .bind readOnly_inferredFinalIdentity ?_
      rintro (_ | identity)
      · exact .fail _
      · exact .bind readOnly_syncRegularFile fun _ => ih

theorem readOnly_syncDumpFinals (entries : List ManifestEntrySlot) :
    ReadOnly (syncDumpFinals os entries) := by
  induction entries with
  | nil => exact .pure _
  | cons entry entries ih =>
      unfold syncDumpFinals
      split
      · exact .fail _
      · exact .bind readOnly_syncRegularFile fun _ => ih

theorem readOnly_directoryContainsOnly {directory allowed : Path} :
    ReadOnly (directoryContainsOnly os directory allowed) :=
  .bind (.orFail .query) fun _ => .pure _

theorem readOnly_finalDirectoryInPlace {path : Path} {identity : Option FileIdentity} :
    ReadOnly (finalDirectoryInPlace os path identity) := by
  refine .bind readOnly_pathExists ?_
  intro exists_
  refine .ite ?_ (.pure _)
  cases identity with
  | none => exact .pure _
  | some identity => exact readOnly_identityMatches

/-! ### Steps that only remove -/

/-- However the step ends, entries of the given kind are all that is gone. -/
def RemovesOnly (allowed : Location → Entry → Prop) (f : Io β) (world : World) : Prop :=
  Attempt.Ends f world (fun _ world' => world.fs.Shrinks allowed world'.fs)
    fun _ world' => world.fs.Shrinks allowed world'.fs

namespace RemovesOnly

variable {allowed allowed' : Location → Entry → Prop}

theorem reached {f : Io β} (h : RemovesOnly allowed f world) :
    FileTree.Shrinks allowed world.fs (f world).2.fs :=
  Attempt.Ends.reached h

theorem of_readOnly {f : Io β} (h : ReadOnly f) : RemovesOnly allowed f world := by
  refine h.ends ?_ ?_
  · intro b world' _ hfs
    rw [hfs]
    exact .refl _
  · intro e world' hfs
    rw [hfs]
    exact .refl _

theorem mono {f : Io β} (h : RemovesOnly allowed f world)
    (himp : ∀ location entry, allowed location entry → allowed' location entry) :
    RemovesOnly allowed' f world :=
  Attempt.Ends.mono h
    (fun _ _ hshrinks => hshrinks.mono fun location entry _ => himp location entry)
    fun _ _ hshrinks => hshrinks.mono fun location entry _ => himp location entry

theorem bind {f : Io β} {g : β → Io γ} (hf : RemovesOnly allowed f world)
    (hg : ∀ b world', world.fs.Shrinks allowed world'.fs → RemovesOnly allowed (g b) world') :
    RemovesOnly allowed (f >>= g) world := by
  refine Attempt.Ends.bind hf ?_
  intro b world' hshrinks
  exact Attempt.Ends.mono (hg b world' hshrinks) (fun _ _ h => hshrinks.trans h)
    fun _ _ h => hshrinks.trans h

/-- The steps are judged by an earlier file system, which contains the ones in
between. -/
theorem bindContains {fs : FileSystem} {f : Io β} {g : β → Io γ} (h : fs.Contains world.fs)
    (hf : RemovesOnly allowed f world)
    (hg : ∀ b world', fs.Contains world'.fs → RemovesOnly allowed (g b) world') :
    RemovesOnly allowed (f >>= g) world :=
  .bind hf fun b world' hshrinks => hg b world' (h.trans hshrinks.contains)

theorem capture {f : Io β} (hf : RemovesOnly allowed f world) :
    RemovesOnly allowed f.capture world :=
  Attempt.Ends.capture hf

theorem ite {p : Prop} [Decidable p] {f g : Io β} (hf : p → RemovesOnly allowed f world)
    (hg : ¬p → RemovesOnly allowed g world) : RemovesOnly allowed (if p then f else g) world := by
  split
  · exact hf (by assumption)
  · exact hg (by assumption)

end RemovesOnly

/-! ### Single removals -/

theorem unlinkEntry_ok {fs fs' : FileSystem} {location : Location}
    (h : unlinkEntry fs location = .ok ((), fs')) : ∃ entry, fs.lookup location = some entry ∧
      ∀ location', fs'.lookup location' =
        if location' = location then none else fs.lookup location' := by
  unfold unlinkEntry at h
  split at h
  · cases h
  · rename_i entry hentry
    split at h
    · obtain rfl := (Prod.mk.inj (Except.ok.inj h)).2
      exact ⟨entry, hentry, fun location' => FileTree.lookup_update _ location'⟩
    · cases h

theorem removeDirEntry_ok {fs fs' : FileSystem} {location : Location}
    (h : removeDirEntry fs location = .ok ((), fs')) :
    ∀ location', fs'.lookup location' =
      if location' = location then none else fs.lookup location' := by
  unfold removeDirEntry at h
  split at h
  · cases h
  · split at h
    · obtain rfl := (Prod.mk.inj (Except.ok.inj h)).2
      exact FileTree.lookup_update _
    · cases h
  · cases h

theorem shrinks_of_lookup {fs fs' : FileSystem} {location : Location}
    (h : ∀ location', fs'.lookup location' =
      if location' = location then none else fs.lookup location') :
    fs.Shrinks (fun location' _ => location' = location) fs' := by
  intro location'
  rw [h]
  split
  · rename_i heq
    cases hfound : fs.lookup location' with
    | none => exact .inl rfl
    | some entry => exact .inr ⟨rfl, entry, rfl, heq⟩
  · exact .inl rfl

theorem bind_eq_ok_except {ε : Type} {r : Except ε β} {f : β → Except ε γ} {c : γ}
    (h : r.bind f = .ok c) : ∃ b, r = .ok b ∧ f b = .ok c := by
  cases r with
  | error e => cases h
  | ok b => exact ⟨b, rfl, h⟩

theorem removesOnly_removeFile {path : Path} :
    RemovesOnly (fun location _ => resolve os world.fs path = .ok location) (removeFile os path)
      world := by
  refine ends_call ?_ ?_ ?_
  · exact fun _ => .refl _
  · intro _ fs' hok
    obtain ⟨location, hresolve, hunlink⟩ := bind_eq_ok_except hok
    obtain ⟨entry, -, hlookup⟩ := unlinkEntry_ok hunlink
    refine (shrinks_of_lookup hlookup).mono ?_
    rintro location' entry' - rfl
    exact hresolve
  · exact fun _ _ => .refl _

theorem removesOnly_removeDir {path : Path} :
    RemovesOnly (fun location _ => resolve os world.fs path = .ok location) (removeDir os path)
      world := by
  refine ends_call ?_ ?_ ?_
  · exact fun _ => .refl _
  · intro _ fs' hok
    obtain ⟨location, hresolve, hremove⟩ := bind_eq_ok_except hok
    refine (shrinks_of_lookup (removeDirEntry_ok hremove)).mono ?_
    rintro location' entry' - rfl
    exact hresolve
  · exact fun _ _ => .refl _

/-- The entry a path names, if it has the kind and the identity. -/
def Named (os : Os) (fs : FileSystem) (rightKind : Entry → Bool) (path : Path)
    (identity : Option FileIdentity) (location : Location) (entry : Entry) : Prop :=
  resolve os fs path = .ok location ∧ identity = some entry.identity ∧ rightKind entry = true

/-- What lookup has just found is what a removal by the same path removes. -/
theorem shrinks_named {fs : FileSystem} (fs' : FileSystem) {rightKind : Entry → Bool}
    {path : Path} {identity : FileIdentity} {entry : Entry} (hstat : stat os fs path = .ok entry)
    (hidentity : entry.identity = identity) (hkind : rightKind entry = true)
    (h : fs.Shrinks (fun location _ => resolve os fs path = .ok location) fs') :
    fs.Shrinks (Named os fs rightKind path (some identity)) fs' := by
  refine h.mono ?_
  intro location entry' hentry' hresolve
  rw [stat, hresolve] at hstat
  have hfound : entryAt fs location = .ok entry := hstat
  rw [entryAt, hentry'] at hfound
  obtain rfl := Except.ok.inj hfound
  exact ⟨hresolve, by rw [hidentity], hkind⟩

theorem removesOnly_removeOwned {rightKind : Entry → Bool}
    {remove : Os → Path → Io (Except IoErrorKind Unit)} {path : Path}
    {identity : Option FileIdentity}
    (hremove : ∀ world, RemovesOnly (fun location _ => resolve os world.fs path = .ok location)
      (remove os path) world) :
    RemovesOnly (Named os world.fs rightKind path identity)
      (removeOwned os rightKind remove path identity) world := by
  unfold removeOwned
  cases identity with
  | none => exact .of_readOnly (.bind readOnly_pathExists fun _ => .pure _)
  | some identity =>
      refine ends_lookAt (fun _ => .pure (.refl _)) ?_ (fun _ _ => .refl _)
      intro entry hstat
      refine .ite (fun _ => .pure (.refl _)) fun hidentity => ?_
      refine .ite (fun _ => .pure (.refl _)) fun hkind => ?_
      have hnamed (fs' : FileSystem) := shrinks_named fs' hstat (not_not.1 hidentity)
        (eq_true_of_ne_false hkind)
      refine .bind (Attempt.Ends.mono (hremove _) (fun _ _ h => hnamed _ h)
        fun _ _ h => hnamed _ h) ?_
      exact fun _ _ hshrinks => .pure hshrinks

theorem removesOnly_cleanupFile {path : Path} {identity : Option FileIdentity} :
    RemovesOnly (Named os world.fs Node.isFile path identity) (cleanupFile os path identity) world :=
  removesOnly_removeOwned fun _ => removesOnly_removeFile

theorem removesOnly_removeDirectoryIfIdentity {path : Path} {identity : Option FileIdentity} :
    RemovesOnly (Named os world.fs Node.isDir path identity)
      (removeDirectoryIfIdentity os path identity) world :=
  removesOnly_removeOwned fun _ => removesOnly_removeDir

theorem removesOnly_removeIfIdentity {path : Path} {expected : FileIdentity} :
    RemovesOnly (Named os world.fs Node.isFile path (some expected))
      (removeIfIdentity os path expected) world := by
  refine ends_lookAt (fun _ => .pure (.refl _)) ?_ (fun _ _ => .refl _)
  intro entry hstat
  refine .ite (fun _ => .pure (.refl _)) fun hmatch => ?_
  obtain ⟨hidentity, hkind⟩ := not_or.1 hmatch
  have hnamed (fs' : FileSystem) := shrinks_named fs' hstat (not_not.1 hidentity)
    (eq_true_of_ne_false hkind)
  refine ends_orFail (Attempt.Ends.mono removesOnly_removeFile ?_ fun _ _ h => hnamed _ h)
  rintro (kind | _) world' h
  · exact hnamed _ h
  · exact hnamed _ h

theorem removesOnly_cleanupDumpTempManifest {manifestPath tempPath : Path}
    {transactionId : String} (htemp : manifestTempPath manifestPath transactionId = .ok tempPath) :
    RemovesOnly (fun location _ => resolve os world.fs tempPath = .ok location)
      (cleanupDumpTempManifest os manifestPath transactionId) world := by
  unfold cleanupDumpTempManifest
  rw [htemp]
  refine Attempt.Ends.bindOfExcept (fun _ herror => by cases herror) ?_
  rintro _ ⟨⟩
  refine ends_lookAt (fun _ => .pure (.refl _)) ?_ (fun _ _ => .refl _)
  intro entry _
  refine .ite (fun _ => .pure (.refl _)) fun _ => ?_
  exact .bind removesOnly_removeFile fun _ _ hshrinks => .pure hshrinks

end Lamb.Recovery
