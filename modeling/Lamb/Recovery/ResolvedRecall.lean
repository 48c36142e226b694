import Mathlib.Data.List.Nodup
import Lamb.Recovery.Resolution

/-!
A recall is resolved as a whole. Recovery completes it when every final file is in
place under the identity that the manifest tells, and rolls every file back
otherwise. The manifest goes last.
-/

namespace Lamb.Recovery

open Lamb.Lib

variable {os : Os} {fs fs' : FileSystem} {world : World} {names staging output : List String}
  {path manifestPath : Path} {manifest : TransactionManifest} {identity : FileIdentity}
  {entry : ManifestEntrySlot} {index : ℕ}

/-! ### The files of a recall -/

/-- The identity of a final file: the one recorded for it or, in the entry that
was being published, the one recorded for a partial file that is gone. -/
def FinalIdentity (fs : FileSystem) (manifest : TransactionManifest) (entry : ManifestEntrySlot)
    (index : ℕ) (identity : FileIdentity) : Prop :=
  entry.finalIdentity = some identity ∨
    entry.finalIdentity = none ∧ manifest.phase = .publishing index ∧
      ∃ path, entry.partialOf = some (path, some identity) ∧ Gone fs path none

def FinalsInPlace (fs : FileSystem) (manifest : TransactionManifest) : Prop :=
  ∀ item ∈ manifest.entries.zipIdx, ∃ identity,
    FinalIdentity fs manifest item.1 item.2 identity ∧ HasFile fs item.1.finalOf.1 identity

/-- No file of the entry is left. -/
structure ManifestEntrySlot.Gone (fs : FileSystem) (entry : ManifestEntrySlot) : Prop where
  finalOf : Recovery.Gone fs entry.finalOf.1 (entry.finalIdentity.or entry.partialIdentity)
  partialOf : ∀ path identity, entry.partialOf = some (path, identity) →
    Recovery.Gone fs path identity
  staged : Recovery.Gone fs entry.staged.1 entry.staged.2

def NothingLeft (fs : FileSystem) (manifest : TransactionManifest) : Prop :=
  ∀ entry ∈ manifest.entries, entry.Gone fs

theorem ManifestEntrySlot.Gone.of_contains (h : entry.Gone fs) (hcontains : fs.Contains fs') :
    entry.Gone fs' where
  finalOf := h.finalOf.of_contains hcontains
  partialOf := fun path identity hpath => (h.partialOf path identity hpath).of_contains hcontains
  staged := h.staged.of_contains hcontains

theorem NothingLeft.of_contains (h : NothingLeft fs manifest) (hcontains : fs.Contains fs') :
    NothingLeft fs' manifest :=
  fun entry hentry => (h entry hentry).of_contains hcontains

theorem FinalIdentity.of_contains (h : FinalIdentity fs manifest entry index identity)
    (hcontains : fs.Contains fs') : FinalIdentity fs' manifest entry index identity := by
  rcases h with hrecorded | ⟨hnone, hphase, path, hpath, hgone⟩
  · exact .inl hrecorded
  · exact .inr ⟨hnone, hphase, path, hpath, hgone.of_contains hcontains⟩

/-! ### Distinct paths -/

/-- No file of the entry lies where one of the given paths does. -/
structure ManifestEntrySlot.Apart (entry : ManifestEntrySlot) (paths : List Path) : Prop where
  finalOf : entry.finalOf.1 ∉ paths
  partialOf : ∀ path identity, entry.partialOf = some (path, identity) → path ∉ paths
  staged : entry.staged.1 ∉ paths

theorem ManifestEntrySlot.Apart.mono {paths paths' : List Path} (h : entry.Apart paths')
    (hsub : paths ⊆ paths') : entry.Apart paths where
  finalOf := fun hin => h.finalOf (hsub hin)
  partialOf := fun path identity hpath hin => h.partialOf path identity hpath (hsub hin)
  staged := fun hin => h.staged (hsub hin)

theorem validateStrategy_apart {expected : Strategy} {paths paths' : List Path}
    (h : validateStrategy manifest expected paths entry = .ok paths') : paths ⊆ paths' ∧
      ∀ path identity, entry.partialOf = some (path, identity) → path ∉ paths := by
  unfold validateStrategy at h
  cases expected with
  | fileSet =>
      cases hpiece : entry.partialOf with
      | none => simp [hpiece] at h
      | some piece =>
          simp only [hpiece, bind_eq_ok, insertUniquePath_eq_ok] at h
          obtain ⟨_, -, _, -, hnew, rfl⟩ := h
          refine ⟨by simp, ?_⟩
          rintro path identity ⟨⟩
          exact hnew
  | atomicDirectory =>
      simp only [bind_eq_ok, ensure_eq_ok] at h
      obtain ⟨_, hnone, h⟩ := h
      refine ⟨?_, by simp [hnone]⟩
      split at h
      · cases h
      · simp only [bind_eq_ok, Except.ok.injEq] at h
        obtain ⟨_, -, _, -, rfl⟩ := h
        simp

theorem validateEntry_apart {expected : Strategy} {stagingRoot outputRoot : Path}
    {paths paths' : List Path}
    (h : validateEntry manifest expected stagingRoot outputRoot paths entry = .ok paths') :
    paths ⊆ paths' ∧ entry.Apart paths := by
  simp only [validateEntry, bind_eq_ok, insertUniquePath_eq_ok] at h
  obtain ⟨_, -, _, -, _, -, pieces, hstrategy, _, ⟨hstaged, rfl⟩, hfinal, rfl⟩ := h
  obtain ⟨hsub, hpiece⟩ := validateStrategy_apart hstrategy
  refine ⟨fun path hin => by simp [hsub hin], ?_⟩
  exact
    { finalOf := fun hin => hfinal (by simp [hsub hin])
      partialOf := hpiece
      staged := fun hin => hstaged (hsub hin) }

theorem ends_validateEntries_apart {expected : Strategy} {stagingRoot outputRoot : Path}
    {entries : List ManifestEntrySlot} {paths : List Path} :
    Attempt.Ends (validateEntries os manifest expected stagingRoot outputRoot entries paths) world
      (fun _ _ => ∀ entry ∈ entries, entry.Apart paths) fun _ _ => True := by
  induction entries generalizing paths world with
  | nil => exact Attempt.Ends.pure (by simp)
  | cons entry entries ih =>
      refine .bindOfExcept (fun _ _ => trivial) ?_
      intro paths' hentry
      obtain ⟨hsub, hapart⟩ := validateEntry_apart hentry
      refine ends_bind_last fun _ _ => ends_bind_last fun _ _ => ends_bind_last fun _ _ => ?_
      refine Attempt.Ends.mono ih ?_ fun _ _ h => h
      intro _ _ hrest entry' hin
      rcases List.mem_cons.1 hin with rfl | hin
      · exact hapart
      · exact (hrest entry' hin).mono hsub

theorem validateFinalDirectory_manifest {expected : Strategy} {outputRoot : Path}
    {paths : List Path}
    (h : validateFinalDirectory manifest expected outputRoot manifestPath = .ok paths) :
    manifestPath ∈ paths := by
  simp only [validateFinalDirectory, bind_eq_ok, insertUniquePath_eq_ok] at h
  obtain ⟨_, ⟨-, rfl⟩, _, ⟨-, rfl⟩, h⟩ := h
  split at h
  · cases h
  · simp only [bind_eq_ok, insertUniquePath_eq_ok] at h
    obtain ⟨_, -, _, -, -, rfl⟩ := h
    simp
  · cases h
  · cases h
    simp

theorem ends_validateManifest_apart {expected : Strategy} {stagingRoot outputRoot : Path} :
    Attempt.Ends (validateManifest os manifest expected stagingRoot outputRoot manifestPath) world
      (fun _ _ => ∀ entry ∈ manifest.entries, entry.Apart [manifestPath]) fun _ _ => True := by
  refine ends_bind_last fun _ _ => ends_bind_last fun _ _ => ends_bind_last fun _ _ => ?_
  refine ends_bind_last fun _ _ => .bindOfExcept (fun _ _ => trivial) ?_
  intro paths hpaths
  refine ends_bind_last fun _ _ => .bind ends_validateEntries_apart ?_
  intro _ world' hapart
  refine Attempt.Ends.mono (.of_reached (P := fun _ => True) trivial) ?_ fun _ _ h => h
  intro _ _ _ entry hentry
  refine (hapart entry hentry).mono ?_
  simpa using validateFinalDirectory_manifest hpaths

theorem ends_readValidated_apart {expected : Strategy}
    {stagingRoot : TransactionManifest → Path} {outputRoot : Path} :
    Attempt.Ends (readValidated os expected stagingRoot outputRoot manifestPath) world
      (fun result _ => ∀ entry ∈ result.1.entries, entry.Apart [manifestPath]) fun _ _ => True := by
  refine ends_bind_last ?_
  rintro ⟨manifest, identity⟩ world₁
  refine .bind ends_validateManifest_apart ?_
  exact fun _ _ hapart => Attempt.Ends.pure hapart

/-! ### What completes a file set -/

theorem partialOf_identity {recorded : Option FileIdentity}
    (h : entry.partialOf = some (path, recorded)) : recorded = entry.partialIdentity := by
  unfold ManifestEntrySlot.partialOf at h
  split at h
  · cases h
  · exact (Prod.mk.inj (Option.some.inj h)).2.symm

theorem ends_inferredFinalIdentity_iff (happroved : entry.Approved world.fs staging output) :
    Attempt.Ends (inferredFinalIdentity os manifest entry index) world
      (fun inferred world' => world'.fs = world.fs ∧ ∀ identity,
        inferred = some identity ↔ FinalIdentity world.fs manifest entry index identity)
      fun _ world' => world'.fs = world.fs := by
  unfold inferredFinalIdentity FinalIdentity
  cases hfinal : entry.finalIdentity with
  | some recorded => exact Attempt.Ends.pure ⟨rfl, by simp [eq_comm]⟩
  | none =>
      refine .ite (fun hsome => by cases hsome) fun _ => ?_
      refine .ite (fun hphase => Attempt.Ends.pure ⟨rfl, by simp [hphase]⟩) fun hphase => ?_
      cases hrecorded : entry.partialIdentity with
      | none =>
          refine Attempt.Ends.pure ⟨rfl, fun identity => ⟨fun h => (by cases h), ?_⟩⟩
          rintro (hsome | ⟨-, -, path, hpath, -⟩)
          · cases hsome
          · rw [← partialOf_identity hpath] at hrecorded
            cases hrecorded
      | some recorded =>
          cases hpiece : entry.partialOf with
          | none => exact Attempt.Ends.fail rfl
          | some piece =>
              obtain ⟨path, known⟩ := piece
              obtain rfl : known = some recorded := (partialOf_identity hpiece).trans hrecorded
              obtain ⟨names, rfl, -, -, hfree⟩ := happroved.partialOf _ _ hpiece
              -- the partial file was renamed exactly if its own path is free again
              refine .bind (ends_pathExists hfree.above) ?_
              rintro exists_ world' ⟨hfs, hexists⟩
              refine Attempt.Ends.pure ⟨hfs, fun identity => ?_⟩
              constructor
              · intro hsome
                split at hsome
                · cases hsome
                · rename_i hnot
                  cases hsome
                  have hnone : world.fs.lookup names = none := by
                    by_contra hthere
                    exact hnot (hexists.2 hthere)
                  exact .inr ⟨rfl, not_not.1 hphase, _, rfl, gone_of_lookup hnone⟩
              · rintro (hsome | ⟨-, -, path, hpath, hgone⟩)
                · cases hsome
                · cases hpath
                  have hnot : ¬exists_ = true := by
                    rw [hexists, gone_none_iff.1 hgone]
                    simp
                  rw [if_neg hnot]

/-- Whether the finals of some entries match, and of no fewer. -/
theorem ends_finalsMatch (entries : List (ManifestEntrySlot × ℕ))
    (happroved : ∀ item ∈ entries, item.1.Approved world.fs staging output) :
    Attempt.Ends (finalsMatch os manifest entries) world
      (fun complete world' => world'.fs = world.fs ∧ (complete = true ↔ ∀ item ∈ entries,
        ∃ identity, FinalIdentity world.fs manifest item.1 item.2 identity ∧
          HasFile world.fs item.1.finalOf.1 identity))
      fun _ world' => world'.fs = world.fs := by
  induction entries generalizing world with
  | nil => exact Attempt.Ends.pure ⟨rfl, by simp⟩
  | cons item entries ih =>
      obtain ⟨entry, index⟩ := item
      have hentry := happroved (entry, index) (by simp)
      obtain ⟨names, hnames, -, -, hfree⟩ := hentry.finalOf
      refine .bind (ends_inferredFinalIdentity_iff hentry) ?_
      rintro inferred world₁ ⟨hfs₁, hinferred⟩
      simp only [List.forall_mem_cons]
      cases inferred with
      | none =>
          refine Attempt.Ends.pure ⟨hfs₁, ?_⟩
          simp only [Bool.false_eq_true, false_iff, not_and]
          rintro ⟨identity, hidentity, -⟩
          cases (hinferred identity).2 hidentity
      | some inferred =>
          -- an entry has at most one identity that its final file can be known by
          have hunique (identity : FileIdentity) :
              FinalIdentity world.fs manifest entry index identity ↔ inferred = identity := by
            rw [← hinferred]
            simp
          simp only [hunique, exists_eq_left']
          rw [hnames, hasFile_iff]
          rw [← hfs₁] at hfree happroved ⊢
          refine .bind (ends_identityMatches hfree.above) ?_
          rintro matches_ world₂ ⟨hfs₂, hmatches⟩
          simp only [Bool.false_eq_true, if_false] at hmatches
          rw [← hfs₂] at hmatches happroved ⊢
          refine .ite (fun htrue => ?_) fun hfalse => ?_
          · refine Attempt.Ends.mono (ih fun item hin => happroved item (by simp [hin])) ?_
              fun _ _ h => h
            rintro complete world₃ ⟨hfs₃, hcomplete⟩
            refine ⟨hfs₃, ?_⟩
            rw [hcomplete]
            simp [hmatches.1 htrue]
          · refine Attempt.Ends.pure ⟨rfl, ?_⟩
            simp only [Bool.false_eq_true, false_iff, not_and]
            intro hthere
            exact absurd (hmatches.2 hthere) hfalse

theorem ends_completeFileSet (hkind : manifest.renamesDirectory = false)
    (happroved : ∀ entry ∈ manifest.entries, entry.Approved world.fs staging output) :
    Attempt.Ends (completeFinalSet os manifest) world
      (fun complete world' => world'.fs = world.fs ∧
        (complete = true ↔ FinalsInPlace world.fs manifest))
      fun _ world' => world'.fs = world.fs := by
  have hitems : ∀ item ∈ manifest.entries.zipIdx, item.1.Approved world.fs staging output :=
    fun item hin => happroved item.1 (List.fst_mem_of_mem_zipIdx hin)
  unfold completeFinalSet
  rw [hkind]
  exact ends_finalsMatch _ hitems

/-! ### Finals that stay -/

theorem eq_of_mem_flatMap {β γ : Type} {l : List β} {f : β → List γ} (h : (l.flatMap f).Nodup)
    {a b : β} (ha : a ∈ l) (hb : b ∈ l) {c : γ} (hca : c ∈ f a) (hcb : c ∈ f b) : a = b := by
  induction l with
  | nil => cases ha
  | cons d l ih =>
      rw [List.flatMap_cons, List.nodup_append] at h
      obtain ⟨-, hrest, hdisjoint⟩ := h
      rcases List.mem_cons.1 ha with rfl | hal
      · rcases List.mem_cons.1 hb with rfl | hbl
        · rfl
        · exact absurd rfl (hdisjoint c hca c (List.mem_flatMap.2 ⟨b, hbl, hcb⟩))
      · rcases List.mem_cons.1 hb with rfl | hbl
        · exact absurd rfl (hdisjoint c hcb c (List.mem_flatMap.2 ⟨a, hal, hca⟩))
        · exact ih hrest hal hbl

section Unique

variable (hkind : manifest.renamesDirectory = false) (hunique : manifest.ownedIdentities.Nodup)

include hkind hunique

theorem nodup_entryIdentities : (manifest.entries.flatMap fun entry =>
    entry.stagedIdentity.toList ++ (entry.partialIdentity.toList ++
      entry.finalIdentity.toList)).Nodup := by
  unfold TransactionManifest.ownedIdentities at hunique
  rw [hkind] at hunique
  exact (List.nodup_append.1 (List.nodup_append.1 hunique).1).2.1

theorem nodup_entry (hentry : entry ∈ manifest.entries) : (entry.stagedIdentity.toList ++
    (entry.partialIdentity.toList ++ entry.finalIdentity.toList)).Nodup :=
  (List.nodup_flatMap.1 (nodup_entryIdentities hkind hunique)).1 entry hentry

theorem eq_of_identity {entry' : ManifestEntrySlot} (hentry : entry ∈ manifest.entries)
    (hentry' : entry' ∈ manifest.entries)
    (h : entry.finalIdentity = some identity ∨ entry.partialIdentity = some identity)
    (h' : entry'.stagedIdentity = some identity ∨ entry'.partialIdentity = some identity) :
    entry = entry' := by
  refine eq_of_mem_flatMap (nodup_entryIdentities hkind hunique) hentry hentry' (c := identity)
    ?_ ?_
  · rcases h with h | h
    · simp [h]
    · simp [h]
  · rcases h' with h' | h'
    · simp [h']
    · simp [h']

end Unique

theorem FinalIdentity.recorded (h : FinalIdentity fs manifest entry index identity) :
    entry.finalIdentity = some identity ∨ entry.partialIdentity = some identity := by
  rcases h with hrecorded | ⟨-, -, path, hpath, -⟩
  · exact .inl hrecorded
  · exact .inr (partialOf_identity hpath).symm

/-- A final file in place is no metadata: its identity and its path are its own. -/
theorem not_ownsMetadata (happroved : Approved fs .fileSet staging output manifestPath manifest)
    (hapart : ∀ entry ∈ manifest.entries, entry.Apart [manifestPath])
    (hentry : entry ∈ manifest.entries) {content : Content}
    (hfinal : entry.finalOf.1 = Path.absolute names)
    (hknown : FinalIdentity fs manifest entry index identity)
    (hfound : fs.lookup names = some (.file identity content)) :
    ¬OwnsMetadata os fs manifest manifestPath names (.file identity content) := by
  have hkind : manifest.renamesDirectory = false := happroved.kind
  have hnodup := nodup_entry hkind happroved.unique hentry
  rintro (⟨entry', hentry', ⟨path, hpath, hresolve, hclaimed, -⟩ | ⟨-, hstaged, -⟩⟩ |
    hresolve | ⟨-, -, hdir⟩)
  · -- the partial file is the entry's own, so the final file is not yet known by itself
    obtain rfl := eq_of_identity hkind happroved.unique hentry hentry' hknown.recorded
      (.inr hclaimed)
    rcases hknown with hrecorded | ⟨-, -, path', hpath', hgone⟩
    · rw [hclaimed, hrecorded] at hnodup
      simp [Node.identity, List.nodup_append] at hnodup
    · obtain rfl := (Prod.mk.inj (Option.some.inj (hpath.symm.trans hpath'))).1
      obtain ⟨names', rfl, -, -, hfree⟩ := (happroved.entries entry hentry).partialOf _ _ hpath
      obtain rfl := hfree.above.resolve_eq hresolve
      rw [gone_none_iff.1 hgone] at hfound
      cases hfound
  · obtain rfl := eq_of_identity hkind happroved.unique hentry hentry' hknown.recorded
      (.inl hstaged)
    rcases hknown.recorded with hrecorded | hrecorded
    · rw [hstaged, hrecorded] at hnodup
      simp [Node.identity] at hnodup
    · rw [hstaged, hrecorded] at hnodup
      simp [Node.identity] at hnodup
  · -- the manifest's own path was checked against those of the entries
    have hfree := happroved.manifestFree rfl
    have hmanifest := happroved.manifestInside rfl
    rw [OwnsManifest, hmanifest] at hresolve
    obtain rfl := hfree.above.resolve_eq hresolve
    refine (hapart entry hentry).finalOf ?_
    rw [hfinal, hmanifest]
    simp
  · cases hdir

/-- A final file stays where it is while only metadata goes. -/
theorem FinalIdentity.hasFile_of_shrinks (hknown : FinalIdentity fs manifest entry index identity)
    (happroved : Approved fs .fileSet staging output manifestPath manifest)
    (hapart : ∀ entry ∈ manifest.entries, entry.Apart [manifestPath])
    (hentry : entry ∈ manifest.entries)
    (hshrinks : fs.Shrinks (OwnsMetadata os fs manifest manifestPath) fs')
    (hfile : HasFile fs entry.finalOf.1 identity) : HasFile fs' entry.finalOf.1 identity := by
  obtain ⟨names, content, hfinal, hfound⟩ := hfile
  refine ⟨names, content, hfinal, ?_⟩
  rw [hshrinks.lookup_of_not, hfound]
  intro found hfound'
  rw [hfound] at hfound'
  cases hfound'
  exact not_ownsMetadata happroved hapart hentry hfinal hknown hfound

theorem FinalsInPlace.of_shrinks (h : FinalsInPlace fs manifest)
    (happroved : Approved fs .fileSet staging output manifestPath manifest)
    (hapart : ∀ entry ∈ manifest.entries, entry.Apart [manifestPath])
    (hshrinks : fs.Shrinks (OwnsMetadata os fs manifest manifestPath) fs') :
    FinalsInPlace fs' manifest := by
  rintro ⟨entry, index⟩ hin
  obtain ⟨identity, hknown, hfile⟩ := h _ hin
  refine ⟨identity, hknown.of_contains hshrinks.contains, ?_⟩
  exact hknown.hasFile_of_shrinks happroved hapart (List.fst_mem_of_mem_zipIdx hin) hshrinks hfile

/-! ### Entries rolled back -/

theorem ManifestEntrySlot.Approved.of_contains (h : entry.Approved fs staging output)
    (hcontains : fs.Contains fs') : entry.Approved fs' staging output := by
  have hinside {root : List String} {path : Path} (hin : Inside fs root path) :
      Inside fs' root path := by
    obtain ⟨names, hpath, hpre, hne, hfree⟩ := hin
    exact ⟨names, hpath, hpre, hne, hfree.of_shrinks hcontains⟩
  exact
    { staged := hinside h.staged
      finalOf := hinside h.finalOf
      partialOf := fun path identity hpath => hinside (h.partialOf path identity hpath) }

theorem ends_cleanupPartial (h : entry.Approved world.fs staging output) :
    Attempt.Ends (cleanupPartial os entry) world
      (fun clean world' => world.fs.Contains world'.fs ∧ (clean = true →
        ∀ path recorded, entry.partialOf = some (path, recorded) → Gone world'.fs path recorded))
      fun _ _ => True := by
  unfold cleanupPartial
  cases hpiece : entry.partialOf with
  | none => exact Attempt.Ends.pure ⟨.refl _, by simp⟩
  | some piece =>
      obtain ⟨path, recorded⟩ := piece
      obtain ⟨names, rfl, -, -, hfree⟩ := h.partialOf _ _ hpiece
      refine Attempt.Ends.mono (ends_cleanupFile hfree.above) ?_ fun _ _ h => h
      rintro clean world' ⟨hcontains, hgone⟩
      refine ⟨hcontains, fun hclean => ?_⟩
      rintro _ _ ⟨⟩
      exact hgone hclean

/-- The final file is gone under every identity that it could be known by. -/
theorem gone_final {inferred : Option FileIdentity} (hgone : Gone fs path inferred)
    (hinferred : inferred = none ∨ inferred = entry.finalIdentity ∨
      entry.finalIdentity = none ∧ inferred = entry.partialIdentity) :
    Gone fs path (entry.finalIdentity.or entry.partialIdentity) := by
  rcases hinferred with rfl | rfl | ⟨hnone, rfl⟩
  · exact hgone.of_none _
  · cases hfinal : entry.finalIdentity with
    | none =>
        rw [hfinal] at hgone
        exact hgone.of_none _
    | some identity =>
        rw [hfinal] at hgone
        exact hgone
  · rw [hnone]
    exact hgone

theorem ends_cleanupEntries (entries : List (ManifestEntrySlot × ℕ))
    (happroved : ∀ item ∈ entries, item.1.Approved world.fs staging output) :
    Attempt.Ends (cleanupEntries os manifest entries) world
      (fun pending world' => world.fs.Contains world'.fs ∧
        (pending = false → ∀ item ∈ entries, item.1.Gone world'.fs))
      fun _ _ => True := by
  induction entries generalizing world with
  | nil => exact Attempt.Ends.pure ⟨.refl _, by simp⟩
  | cons item entries ih =>
      obtain ⟨entry, index⟩ := item
      have hentry := happroved (entry, index) (by simp)
      unfold cleanupEntries
      refine .bind (Attempt.Ends.mono ends_inferredFinalIdentity (fun _ _ hq => hq)
        fun _ _ _ => trivial) ?_
      rintro inferred world₁ ⟨hfs₁, hinferred⟩
      rw [← hfs₁] at hentry happroved ⊢
      obtain ⟨final, hfinal, -, -, hfinalFree⟩ := hentry.finalOf
      rw [hfinal]
      refine .bind (ends_cleanupFile hfinalFree.above) ?_
      rintro finalClean world₂ ⟨h₂, hfinalGone⟩
      refine .bind (ends_cleanupPartial (hentry.of_contains h₂)) ?_
      rintro partialClean world₃ ⟨h₃, hpartialGone⟩
      obtain ⟨staged, hstaged, -, -, hstagedFree⟩ := (hentry.of_contains (h₂.trans h₃)).staged
      rw [hstaged]
      refine .bind (ends_cleanupFile hstagedFree.above) ?_
      rintro stagedClean world₄ ⟨h₄, hstagedGone⟩
      have hrest : ∀ item ∈ entries, item.1.Approved world₄.fs staging output := by
        intro item hin
        exact (happroved item (by simp [hin])).of_contains ((h₂.trans h₃).trans h₄)
      refine .bind (ih hrest) ?_
      rintro pending world₅ ⟨h₅, hgone⟩
      -- what one step has left empty, the steps after it leave empty too
      refine Attempt.Ends.pure ⟨((h₂.trans h₃).trans h₄).trans h₅, fun hclean => ?_⟩
      simp only [Bool.or_eq_false_iff, Bool.not_eq_false'] at hclean
      obtain ⟨⟨⟨hfinalClean, hpartialClean⟩, hstagedClean⟩, hnotPending⟩ := hclean
      refine List.forall_mem_cons.2 ⟨?_, hgone hnotPending⟩
      exact
        { finalOf := by
            rw [hfinal]
            exact gone_final ((hfinalGone hfinalClean).of_contains ((h₃.trans h₄).trans h₅))
              hinferred
          partialOf := fun path recorded hpath =>
            (hpartialGone hpartialClean path recorded hpath).of_contains (h₄.trans h₅)
          staged := by
            rw [hstaged]
            exact (hstagedGone hstagedClean).of_contains h₅ }

/-- No entry's file is the manifest. -/
theorem not_ownsEntry_manifest
    (happroved : Approved fs .fileSet staging output manifestPath manifest)
    (hapart : ∀ entry ∈ manifest.entries, entry.Apart [manifestPath])
    (hnames : manifestPath = Path.absolute names) (found : Entry) :
    ¬OwnsEntry os fs manifest.entries names found := by
  have hlocation {root : List String} {path : Path} (hinside : Inside fs root path)
      (hne : path ∉ [manifestPath]) : resolve os fs path ≠ .ok names := by
    obtain ⟨names', rfl, -, -, hfree⟩ := hinside
    intro hresolve
    obtain rfl := hfree.above.resolve_eq hresolve
    exact hne (by simp [hnames])
  rintro ⟨entry, hentry, (hnamed | ⟨-, hnamed⟩) | ⟨path, hpath, hnamed⟩ | hnamed⟩
  · exact hlocation (happroved.entries entry hentry).finalOf (hapart entry hentry).finalOf hnamed.1
  · exact hlocation (happroved.entries entry hentry).finalOf (hapart entry hentry).finalOf hnamed.1
  · exact hlocation ((happroved.entries entry hentry).partialOf _ _ hpath)
      ((hapart entry hentry).partialOf _ _ hpath) hnamed.1
  · exact hlocation (happroved.entries entry hentry).staged (hapart entry hentry).staged hnamed.1

theorem HasManifest.of_cleanupEntries (h : HasManifest fs manifestPath manifest identity)
    (happroved : Approved fs .fileSet staging output manifestPath manifest)
    (hapart : ∀ entry ∈ manifest.entries, entry.Apart [manifestPath])
    (hshrinks : fs.Shrinks (OwnsEntry os fs (manifest.entries.zipIdx.map Prod.fst)) fs') :
    HasManifest fs' manifestPath manifest identity := by
  refine h.of_shrinks hshrinks ?_
  intro names hnames
  rw [List.zipIdx_map_fst]
  exact not_ownsEntry_manifest happroved hapart hnames _

/-! ### Resolution -/

def recallResolution (manifestPath : Path) (manifest : TransactionManifest)
    (identity : FileIdentity) : Resolution where
  manifestPath := manifestPath
  manifest := manifest
  identity := identity
  inPlace := fun fs => FinalsInPlace fs manifest
  undone := fun fs => NothingLeft fs manifest
  reported
    | .complete, fs => FinalsInPlace fs manifest
    | .rolledBack, fs => NothingLeft fs manifest ∧ ¬HasFile fs manifestPath identity ∧
        Gone fs manifest.stagingRoot manifest.stagingRootIdentity
    | .pending, _ => True
  reported_of_contains := by
    intro outcome fs fs' hcontains hinPlace h
    cases outcome with
    | complete => exact hinPlace h
    | rolledBack =>
        obtain ⟨hleft, hmanifest, hroot⟩ := h
        exact ⟨hleft.of_contains hcontains, not_hasFile_of_contains hmanifest hcontains,
          hroot.of_contains hcontains⟩
    | pending => trivial

theorem ends_finishRecall
    (happroved : Approved world.fs .fileSet staging output manifestPath manifest)
    (hapart : ∀ entry ∈ manifest.entries, entry.Apart [manifestPath])
    (hfinals : FinalsInPlace world.fs manifest) {outputRoot : Path} :
    Attempt.Ends (finishRecall os manifest identity outputRoot manifestPath) world
      (fun _ world' => FinalsInPlace world'.fs manifest)
      fun _ world' => FinalsInPlace world'.fs manifest :=
  Attempt.Ends.mono (removesOnly_finishRecall (.refl _))
    (fun _ _ hshrinks => hfinals.of_shrinks happroved hapart hshrinks)
    fun _ _ hshrinks => hfinals.of_shrinks happroved hapart hshrinks

theorem outcome_finishRecall {outputRoot : Path} :
    Attempt.Ends (finishRecall os manifest identity outputRoot manifestPath) world
      (fun outcome _ => outcome = .complete) fun _ _ => True := by
  unfold finishRecall
  refine ends_bind_last fun _ _ => ends_bind_last fun _ _ => ends_bind_last fun _ _ => ?_
  split
  · exact ends_bind_last fun _ _ => Attempt.Ends.pure rfl
  · exact Attempt.Ends.pure rfl

/-- The last part of a rollback, which removes the manifest and its directory. -/
theorem ends_removeRecallMetadata (happroved : Approved fs .fileSet staging output manifestPath
      manifest) (hcontains : fs.Contains world.fs) (hleft : NothingLeft world.fs manifest) :
    Attempt.Ends (do
        removeIfIdentity os manifestPath identity
        let removed ← removeDirectoryIfIdentity os manifest.stagingRoot
          manifest.stagingRootIdentity
        pure (if removed then RecoveryOutcome.rolledBack else .pending)) world
      (fun outcome world' => NothingLeft world'.fs manifest ∧
        (recallResolution manifestPath manifest identity).reported outcome world'.fs)
      fun _ world' => NothingLeft world'.fs manifest := by
  have hfree := (happroved.manifestFree rfl).of_shrinks hcontains
  have hstaging := happroved.stagingFree.of_shrinks hcontains
  rw [happroved.manifestInside rfl, happroved.stagingRoot]
  refine .bind (Attempt.Ends.mono (Attempt.Ends.and (removesOnly_removeManifest (.refl _))
    (ends_removeIfIdentity hfree.above)) (fun _ _ hq => hq)
    fun _ _ hq => hleft.of_contains hq.1.contains) ?_
  rintro _ world₁ ⟨hshrinks₁, hremoved⟩
  have h₁ := hshrinks₁.contains
  refine .bind (Attempt.Ends.mono (ends_removeDirectoryIfIdentity (hstaging.of_shrinks h₁).above)
    (fun _ _ hq => hq) fun _ _ h₂ => hleft.of_contains (h₁.trans h₂)) ?_
  rintro removed world₂ ⟨h₂, hgone⟩
  have hleft₂ := hleft.of_contains (h₁.trans h₂)
  refine Attempt.Ends.pure ⟨hleft₂, ?_⟩
  cases removed with
  | false => trivial
  | true =>
      refine ⟨hleft₂, not_hasFile_of_contains hremoved h₂, ?_⟩
      rw [happroved.stagingRoot]
      exact hgone rfl

/-- The manifest goes after everything else: before, it stands; from then on,
nothing of the transaction is left. -/
theorem ends_rollBackRecall
    (happroved : Approved world.fs .fileSet staging output manifestPath manifest)
    (hapart : ∀ entry ∈ manifest.entries, entry.Apart [manifestPath])
    (hmanifest : HasManifest world.fs manifestPath manifest identity) :
    Attempt.Ends (rollBackRecall os manifest identity manifestPath) world
      (fun outcome world' => (recallResolution manifestPath manifest identity).Settled world'.fs ∧
        (recallResolution manifestPath manifest identity).reported outcome world'.fs)
      fun _ world' => (recallResolution manifestPath manifest identity).Settled world'.fs := by
  have hstands {fs' : FileSystem} (hshrinks : world.fs.Shrinks
      (OwnsEntry os world.fs (manifest.entries.zipIdx.map Prod.fst)) fs') :
      HasManifest fs' manifestPath manifest identity :=
    hmanifest.of_cleanupEntries happroved hapart hshrinks
  have hitems : ∀ item ∈ manifest.entries.zipIdx, item.1.Approved world.fs staging output :=
    fun item hin => happroved.entries item.1 (List.fst_mem_of_mem_zipIdx hin)
  unfold rollBackRecall
  refine .bind (Attempt.Ends.mono (Attempt.Ends.and
    (removesOnly_cleanupEntries manifest.entries.zipIdx (.refl _))
    (ends_cleanupEntries manifest.entries.zipIdx hitems)) (fun _ _ hq => hq)
    fun _ _ hq => .inl (hstands hq.1)) ?_
  rintro pending world₁ ⟨hshrinks₁, h₁, hgone⟩
  refine .ite (fun _ => Attempt.Ends.pure ⟨.inl (hstands hshrinks₁), trivial⟩) fun hclean => ?_
  -- from here on the entries are gone, whatever happens to the manifest
  have hleft : NothingLeft world₁.fs manifest := by
    intro entry hentry
    obtain ⟨index, hlt, rfl⟩ := List.mem_iff_getElem.1 hentry
    refine hgone (eq_false_of_ne_true hclean) (manifest.entries[index], index) ?_
    exact List.mk_mem_zipIdx_iff_getElem?.2 (by simp)
  refine .bind (Attempt.Ends.mono (removesOnly_removeDirectories manifest.directories.reverse
    (.refl _)) (fun _ _ hshrinks => hshrinks.contains)
    fun _ _ hshrinks => .inr (.inr (hleft.of_contains hshrinks.contains))) ?_
  intro _ world₂ h₂
  have hleft₂ := hleft.of_contains h₂
  refine .bind (Q := fun _ world' => world'.fs = world₂.fs)
    (readOnly_directoryContainsOnly.ends (fun _ _ _ hfs => hfs) ?_) ?_
  · intro _ world' hfs
    exact .inr (.inr (hfs ▸ hleft₂))
  intro only world₃ hfs₃
  rw [← hfs₃] at h₂ hleft₂
  refine .ite (fun _ => ?_) fun _ => Attempt.Ends.pure ⟨.inr (.inr hleft₂), trivial⟩
  refine Attempt.Ends.mono (ends_removeRecallMetadata happroved (h₁.trans h₂) hleft₂) ?_ ?_
  · exact fun _ _ hq => ⟨.inr (.inr hq.1), hq.2⟩
  · exact fun _ _ hq => .inr (.inr hq)

/-- What a recovery of a recall works with, once the manifest has passed. -/
theorem ends_readRecall {transactionRoot outputRoot : Path}
    (hmanifest : HasManifest world.fs (transactionRoot.join recallManifestName) manifest
      identity) :
    Attempt.Ends (readValidated os .fileSet (fun _ => transactionRoot) outputRoot
        (transactionRoot.join recallManifestName)) world
      (fun result world' => world'.fs = world.fs ∧ result = (manifest, identity) ∧
        ∃ staging output, transactionRoot = Path.absolute staging ∧
          outputRoot = Path.absolute output ∧
          Approved world.fs .fileSet staging output (transactionRoot.join recallManifestName)
            manifest ∧
          ∀ entry ∈ manifest.entries, entry.Apart [transactionRoot.join recallManifestName])
      fun _ world' => world'.fs = world.fs := by
  refine Attempt.Ends.mono (Attempt.Ends.and ends_readValidated ends_readValidated_apart) ?_
    fun _ _ hq => hq.1
  rintro ⟨read, readIdentity⟩ world' ⟨⟨hfs, hat, staging, output, hroot, hout, happroved⟩, hapart⟩
  obtain ⟨rfl, rfl⟩ := hmanifest.eq hat
  exact ⟨hfs, rfl, staging, output, hroot, hout, happroved, hapart⟩

theorem ends_recoverRecall {transactionRoot outputRoot : Path}
    (hmanifest : HasManifest world.fs (transactionRoot.join recallManifestName) manifest
      identity) :
    let resolution := recallResolution (transactionRoot.join recallManifestName) manifest identity
    Attempt.Ends (recoverRecallRootWithDirectories os transactionRoot outputRoot) world
      (fun outcome world' => (FinalsInPlace world.fs manifest → FinalsInPlace world'.fs manifest) ∧
        resolution.Settled world'.fs ∧ resolution.reported outcome world'.fs)
      fun _ world' => (FinalsInPlace world.fs manifest → FinalsInPlace world'.fs manifest) ∧
        resolution.Settled world'.fs := by
  intro resolution
  have hsame {fs' : FileSystem} (hfs : fs' = world.fs) :
      (FinalsInPlace world.fs manifest → FinalsInPlace fs' manifest) ∧
        resolution.Settled fs' := by
    rw [hfs]
    exact ⟨id, .inl hmanifest⟩
  unfold recoverRecallRootWithDirectories
  refine .bind (Attempt.Ends.mono (ends_readRecall hmanifest) (fun _ _ hq => hq)
    fun _ _ hfs => hsame hfs) ?_
  rintro _ world₁ ⟨hfs₁, rfl, staging, output, rfl, rfl, happroved, hapart⟩
  rw [← hfs₁] at hmanifest happroved hsame ⊢
  refine .bind (Attempt.Ends.mono (ends_completeFileSet happroved.kind happroved.entries)
    (fun _ _ hq => hq) fun _ _ hq => hsame hq) ?_
  rintro complete world₂ ⟨hfs₂, hcomplete⟩
  rw [← hfs₂] at hmanifest happroved hcomplete ⊢
  refine .ite (fun htrue => ?_) fun hfalse => ?_
  · have hfinals := hcomplete.1 htrue
    refine Attempt.Ends.mono (Attempt.Ends.and (ends_finishRecall happroved hapart hfinals)
      outcome_finishRecall) ?_ ?_
    · rintro _ world' ⟨hq, rfl⟩
      exact ⟨fun _ => hq, .inr (.inl hq), hq⟩
    · exact fun _ _ hq => ⟨fun _ => hq.1, .inr (.inl hq.1)⟩
  · have hnot := fun hfinals => hfalse (hcomplete.2 hfinals)
    refine Attempt.Ends.mono (ends_rollBackRecall happroved hapart hmanifest) ?_ ?_
    · exact fun _ _ hq => ⟨fun hfinals => absurd hfinals hnot, hq⟩
    · exact fun _ _ hq => ⟨fun hfinals => absurd hfinals hnot, hq⟩

/-- Without a manifest a recovery fails and changes nothing. -/
theorem NoManifest.recoverRecall {transactionRoot outputRoot : Path}
    (h : NoManifest world.fs (transactionRoot.join recallManifestName)) :
    Attempt.Ends (recoverRecallRootWithDirectories os transactionRoot outputRoot) world
      (fun _ _ => False) fun _ world' => world'.fs = world.fs := by
  refine .bind (Attempt.Ends.mono ends_readValidated (fun _ _ hq => hq) fun _ _ hfs => hfs) ?_
  rintro ⟨read, readIdentity⟩ world₁ ⟨-, hat, -⟩
  exact absurd hat h.not_manifestAt

theorem recovers_recall (transactionRoot outputRoot : Path) (os : Os) (world : World)
    (h : (recallResolution (transactionRoot.join recallManifestName) manifest
      identity).Recoverable world.fs) :
    (recallResolution (transactionRoot.join recallManifestName) manifest identity).Recovers
      world.fs (recoverRecallRootWithDirectories os transactionRoot outputRoot world).2.fs
      (recoverRecallRootWithDirectories os transactionRoot outputRoot world).1 := by
  -- an earlier recovery may have removed the manifest
  rcases h.stands with hmanifest | hnone
  · exact hmanifest.recovers removesOnly_recoverRecall (ends_recoverRecall hmanifest)
  · exact h.recovers_nothing hnone.recoverRecall

/-! ### Recoveries of a recall -/

def recoverRecallAgain (transactionRoot outputRoot : Path) : List Os → World → World :=
  Resolution.recoverAgain fun os => recoverRecallRootWithDirectories os transactionRoot outputRoot

/-- However often the recovery of a recall is tried and wherever each try fails,
once the manifest is gone either every final file is in place or nothing of the
transaction is left. Final files that were all in place stay so, and what one of
the recoveries reported still holds after the later ones. -/
theorem recall_all_or_nothing (transactionRoot outputRoot : Path) (earlier later : List Os)
    (os : Os) (world : World) (manifest : TransactionManifest) (identity : FileIdentity)
    (hmanifest : HasManifest world.fs (transactionRoot.join recallManifestName) manifest
      identity) :
    let before := recoverRecallAgain transactionRoot outputRoot earlier world
    let outcome := (recoverRecallRootWithDirectories os transactionRoot outputRoot before).1
    let after := recoverRecallAgain transactionRoot outputRoot (earlier ++ os :: later) world
    (HasManifest after.fs (transactionRoot.join recallManifestName) manifest identity ∨
        FinalsInPlace after.fs manifest ∨ NothingLeft after.fs manifest) ∧
      (FinalsInPlace world.fs manifest → FinalsInPlace after.fs manifest) ∧
      (outcome = .ok .complete → FinalsInPlace after.fs manifest) ∧
      (outcome = .ok .rolledBack → NothingLeft after.fs manifest ∧
        ¬HasFile after.fs (transactionRoot.join recallManifestName) identity ∧
        Gone after.fs manifest.stagingRoot manifest.stagingRootIdentity) := by
  have hstands : (recallResolution (transactionRoot.join recallManifestName) manifest
      identity).Stands world.fs := hmanifest
  obtain ⟨hsettled, hinPlace, hreported⟩ :=
    hstands.all_or_nothing (recovers_recall transactionRoot outputRoot) earlier later os
  exact ⟨hsettled, hinPlace, hreported .complete, hreported .rolledBack⟩

/-- A first recovery fails in the middle of the rollback and a second one ends it. -/
theorem recall_all_or_nothing_prepared :
    let after := recoverRecallAgain (Path.absolute ["s", "t"]) (Path.absolute ["o"])
      [Os.failingFrom 28, Os.upward] ⟨preparedFileSystem, 0⟩
    NothingLeft after.fs preparedManifest ∧
      ¬HasFile after.fs (Path.absolute ["s", "t", "manifest.json"]) ⟨0, 5⟩ ∧
      Gone after.fs preparedManifest.stagingRoot preparedManifest.stagingRootIdentity :=
  (recall_all_or_nothing (Path.absolute ["s", "t"]) (Path.absolute ["o"]) [Os.failingFrom 28] []
    Os.upward ⟨preparedFileSystem, 0⟩ preparedManifest ⟨0, 5⟩
    ⟨["s", "t", "manifest.json"], by decide +kernel, by decide +kernel⟩).2.2.2 (by decide +kernel)

end Lamb.Recovery
