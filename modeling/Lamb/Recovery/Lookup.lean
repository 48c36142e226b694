import Lamb.Recovery.Recover

/-!
What path lookup finds. A path of plain names leads to the location it
spells as long as no link lies above it, and lookup in a file system that has
only lost entries finds nothing it did not find before.
-/

namespace Lamb.Recovery

open Lamb.Lib

variable {os : Os} {fs fs' : FileSystem} {names base : List String} {entry : Entry}
  {path : Path} {location : Location}

/-! ### Lookup in a smaller file system -/

theorem walkWith_of_shrinks {allowed : Location → Entry → Prop} (h : fs.Shrinks allowed fs')
    {follow follow' : Location → List Component → Except IoErrorKind Location}
    (hfollow : ∀ location parts target, follow' location parts = .ok target →
      follow location parts = .ok target) {parts : List Component} {start : Location}
    (hwalk : walkWith fs' follow' start parts = .ok location) :
    walkWith fs follow start parts = .ok location := by
  induction parts generalizing start with
  | nil => exact hwalk
  | cons part parts ih =>
      cases part with
      | curDir => exact ih hwalk
      | parentDir => exact ih hwalk
      | normal name =>
          simp only [walkWith] at hwalk ⊢
          split at hwalk
          · rename_i hlast
            rwa [if_pos hlast]
          · rename_i hlast
            rw [if_neg hlast]
            split at hwalk
            · cases hwalk
            · cases hwalk
            · rename_i identity hfound
              simp only [h.lookup hfound]
              exact ih hwalk
            · rename_i identity target hfound
              simp only [h.lookup hfound]
              exact hfollow _ _ _ hwalk

theorem walk_of_shrinks {allowed : Location → Entry → Prop} (h : fs.Shrinks allowed fs')
    {links : ℕ} {parts : List Component} {start : Location}
    (hwalk : walk fs' links start parts = .ok location) :
    walk fs links start parts = .ok location := by
  induction links generalizing parts start location with
  | zero => exact walkWith_of_shrinks h (fun _ _ _ hlost => by cases hlost) hwalk
  | succ links ih => exact walkWith_of_shrinks h (fun _ _ _ hwalk => ih hwalk) hwalk

theorem resolve_of_shrinks {allowed : Location → Entry → Prop} (h : fs.Shrinks allowed fs')
    (hresolve : resolve os fs' path = .ok location) : resolve os fs path = .ok location := by
  unfold resolve at hresolve ⊢
  split
  · rename_i hrooted
    rw [if_pos hrooted] at hresolve
    exact walk_of_shrinks h hresolve
  · rename_i hrooted
    rw [if_neg hrooted] at hresolve
    split
    · rename_i hempty
      rw [if_pos hempty] at hresolve
      cases hresolve
    · rename_i hempty
      rw [if_neg hempty] at hresolve
      exact walk_of_shrinks h hresolve

/-! ### Plain names -/

/-- No link lies on the way to a location, nor at it. -/
def LinkFree (fs : FileSystem) (names : List String) : Prop :=
  ∀ names', names' <+: names → ∀ entry, fs.lookup names' = some entry → entry.isSymlink = false

/-- No link lies on the way to a location. -/
def LinkFreeAbove (fs : FileSystem) (names : List String) : Prop :=
  ∀ names', names' <+: names → names' ≠ names → ∀ entry, fs.lookup names' = some entry →
    entry.isSymlink = false

/-- Every location above is a directory, or nothing is there. -/
def Clear (fs : FileSystem) (names : List String) : Prop :=
  ∀ names', names' <+: names → names' ≠ names →
    fs.lookup names' = none ∨ IsDirectory (fs.lookup names')

theorem LinkFree.above (h : LinkFree fs names) : LinkFreeAbove fs names :=
  fun names' hpre _ => h names' hpre

theorem LinkFree.of_isPrefix {names' : List String} (h : LinkFree fs names)
    (hpre : names' <+: names) : LinkFree fs names' :=
  fun above habove => h above (habove.trans hpre)

theorem LinkFree.of_shrinks {allowed : Location → Entry → Prop} (h : LinkFree fs names)
    (hshrinks : fs.Shrinks allowed fs') : LinkFree fs' names :=
  fun names' hpre entry hentry => h names' hpre entry (hshrinks.lookup hentry)

theorem Clear.of_isPrefix {names' : List String} (h : Clear fs names) (hpre : names' <+: names) :
    Clear fs names' := by
  intro above habove hne
  refine h above (habove.trans hpre) ?_
  rintro rfl
  exact hne (habove.eq_of_length_le hpre.length_le)

theorem Clear.of_lookup (h : fs.lookup names ≠ none) : Clear fs names :=
  fun _ hpre hne => .inr (FileTree.isDirectory_of_isPrefix h hpre hne)

theorem Clear.of_shrinks {allowed : Location → Entry → Prop} (h : Clear fs names)
    (hshrinks : fs.Shrinks allowed fs') : Clear fs' names := by
  intro names' hpre hne
  rcases hshrinks names' with heq | ⟨hnone, -⟩
  · rw [heq]
    exact h names' hpre hne
  · exact .inl hnone

section Walk

variable {follow : Location → List Component → Except IoErrorKind Location}

theorem isPrefix_cons {name : String} {rest : List String} (h : names <+: rest) :
    name :: names <+: name :: rest :=
  List.prefix_cons_inj name |>.2 h

/-- One step of the walk down plain names. -/
theorem walkWith_cons (name : String) (rest : List String) (hrest : rest ≠ []) :
    walkWith fs follow base ((name :: rest).map .normal) =
      match fs.lookup (base ++ [name]) with
      | none => .error .notFound
      | some (.file _ _) => .error .other
      | some (.directory _) => walkWith fs follow (base ++ [name]) (rest.map .normal)
      | some (.symlink _ target) =>
          follow (if (Path.ofText target).rooted then [] else base)
            ((Path.ofText target).parts ++ rest.map .normal) := by
  have hmap : rest.map Component.normal ≠ [] := by simpa using hrest
  rw [List.map_cons]
  cases hfound : fs.lookup (base ++ [name]) with
  | none => simp [walkWith, hmap, hfound]
  | some entry => cases entry <;> simp [walkWith, hmap, hfound]

/-- A walk down plain names that meets no link arrives where they say, and if
it stops at a missing directory then nothing is there. -/
theorem walkWith_names (hlinks : ∀ names', names' <+: names → names' ≠ [] → names' ≠ names →
    ∀ entry, fs.lookup (base ++ names') = some entry → entry.isSymlink = false) :
    (∀ target, walkWith fs follow base (names.map .normal) = .ok target →
      target = base ++ names) ∧
    (walkWith fs follow base (names.map .normal) = .error .notFound →
      fs.lookup (base ++ names) = none) := by
  induction names generalizing base with
  | nil => simp [walkWith]
  | cons name rest ih =>
      by_cases hrest : rest = []
      · subst hrest
        simp [walkWith]
      · have hfirst := hlinks [name] (isPrefix_cons List.nil_prefix) (by simp) (by simpa using Ne.symm hrest)
        have hmissing (hnot : ¬IsDirectory (fs.lookup (base ++ [name]))) :
            fs.lookup (base ++ name :: rest) = none := by
          refine FileTree.lookup_eq_none_of_isPrefix hnot ⟨rest, by simp⟩ ?_
          simpa using Ne.symm hrest
        rw [walkWith_cons name rest hrest]
        cases hfound : fs.lookup (base ++ [name]) with
        | none =>
            refine ⟨?_, ?_⟩
            · rintro target ⟨⟩
            · intro _
              refine hmissing ?_
              rw [hfound]
              rintro ⟨_, ⟨⟩⟩
        | some entry =>
            cases entry with
            | file identity content =>
                refine ⟨?_, ?_⟩
                · rintro target ⟨⟩
                · rintro ⟨⟩
            | symlink identity target => cases hfirst _ hfound
            | directory identity =>
                have hih := @ih (base ++ [name]) (by
                  intro names' hpre hne hne' entry hentry
                  refine hlinks (name :: names') (isPrefix_cons hpre) (by simp) (by simpa using hne')
                    entry ?_
                  simpa using hentry)
                simpa using hih

theorem walkWith_of_isDirectory (hdirs : ∀ names', names' <+: names → names' ≠ [] →
    names' ≠ names → IsDirectory (fs.lookup (base ++ names'))) :
    walkWith fs follow base (names.map .normal) = .ok (base ++ names) := by
  induction names generalizing base with
  | nil => simp [walkWith]
  | cons name rest ih =>
      by_cases hrest : rest = []
      · subst hrest
        simp [walkWith]
      · obtain ⟨identity, hfound⟩ := hdirs [name] (isPrefix_cons List.nil_prefix) (by simp)
          (by simpa using Ne.symm hrest)
        rw [walkWith_cons name rest hrest, hfound]
        have hih := @ih (base ++ [name]) (by
          intro names' hpre hne hne'
          simpa using hdirs (name :: names') (isPrefix_cons hpre) (by simp) (by simpa using hne'))
        simpa using hih

theorem walkWith_of_clear (hclear : ∀ names', names' <+: names → names' ≠ [] → names' ≠ names →
    fs.lookup (base ++ names') = none ∨ IsDirectory (fs.lookup (base ++ names'))) :
    walkWith fs follow base (names.map .normal) = .ok (base ++ names) ∨
      walkWith fs follow base (names.map .normal) = .error .notFound := by
  induction names generalizing base with
  | nil => simp [walkWith]
  | cons name rest ih =>
      by_cases hrest : rest = []
      · subst hrest
        simp [walkWith]
      · have hfirst := hclear [name] (isPrefix_cons List.nil_prefix) (by simp)
          (by simpa using Ne.symm hrest)
        rw [walkWith_cons name rest hrest]
        rcases hfirst with hnone | ⟨identity, hfound⟩
        · exact .inr (by rw [hnone])
        · rw [hfound]
          have hih := @ih (base ++ [name]) (by
            intro names' hpre hne hne'
            simpa using hclear (name :: names') (isPrefix_cons hpre) (by simp)
              (by simpa using hne'))
          simpa using hih

end Walk

theorem resolve_absolute (names : List String) : resolve os fs (Path.absolute names) =
    walkWith fs (fun location parts => walk fs 39 location parts) [] (names.map .normal) :=
  rfl

theorem LinkFreeAbove.resolve_eq (h : LinkFreeAbove fs names)
    (hresolve : resolve os fs (Path.absolute names) = .ok location) : location = names := by
  rw [resolve_absolute] at hresolve
  simpa using (@walkWith_names fs names [] _ fun names' hpre _ hne => h names' hpre hne).1 _ hresolve

theorem LinkFreeAbove.lookup_of_stat (h : LinkFreeAbove fs names)
    (hstat : stat os fs (Path.absolute names) = .ok entry) : fs.lookup names = some entry := by
  unfold stat at hstat
  cases hresolve : resolve os fs (Path.absolute names) with
  | error kind =>
      rw [hresolve] at hstat
      cases hstat
  | ok location =>
      rw [hresolve] at hstat
      obtain rfl := h.resolve_eq hresolve
      simp only [Except.bind, entryAt] at hstat
      split at hstat
      · rename_i entry' hfound
        rw [hfound, Except.ok.inj hstat]
      · cases hstat

/-- Nothing is found only where nothing is, also when a directory above is
missing. -/
theorem LinkFreeAbove.lookup_of_notFound (h : LinkFreeAbove fs names)
    (hstat : stat os fs (Path.absolute names) = .error .notFound) : fs.lookup names = none := by
  have hwalk := @walkWith_names fs names [] (fun location parts => walk fs 39 location parts)
    fun names' hpre _ hne => h names' hpre hne
  unfold stat at hstat
  cases hresolve : resolve os fs (Path.absolute names) with
  | error kind =>
      rw [hresolve] at hstat
      obtain rfl : kind = .notFound := by simpa [Except.bind] using hstat
      exact hwalk.2 hresolve
  | ok location =>
      rw [hresolve] at hstat
      obtain rfl : location = names := by simpa using hwalk.1 _ hresolve
      simp only [Except.bind, entryAt] at hstat
      split at hstat
      · cases hstat
      · assumption

theorem resolve_of_lookup (h : fs.lookup names ≠ none) :
    resolve os fs (Path.absolute names) = .ok names := by
  rw [resolve_absolute]
  exact @walkWith_of_isDirectory fs names [] _ fun names' hpre _ hne =>
    FileTree.isDirectory_of_isPrefix h hpre hne

theorem stat_of_lookup (h : fs.lookup names = some entry) :
    stat os fs (Path.absolute names) = .ok entry := by
  unfold stat
  rw [resolve_of_lookup (by rw [h]; simp)]
  simp [Except.bind, entryAt, h]

theorem Clear.stat_eq (h : Clear fs names) (hnone : fs.lookup names = none) :
    stat os fs (Path.absolute names) = .error .notFound := by
  have hwalk := @walkWith_of_clear fs names [] (fun location parts => walk fs 39 location parts)
    fun names' hpre _ hne => h names' hpre hne
  unfold stat
  rw [resolve_absolute]
  rcases hwalk with hok | hmissing
  · rw [hok]
    simp [Except.bind, entryAt, hnone]
  · rw [hmissing]
    rfl

/-- With a way cleared, lookup by path is lookup by location. -/
theorem Clear.stat_eq_entryAt (h : Clear fs names) :
    stat os fs (Path.absolute names) = entryAt fs names := by
  unfold entryAt
  cases hfound : fs.lookup names with
  | none => exact h.stat_eq hfound
  | some entry => exact stat_of_lookup hfound

/-! ### Rules for calls -/

section Rules

variable {β : Type} {world : World} {E : LambError → World → Prop}

theorem ends_call {operation : ℕ → FileSystem → Except IoErrorKind (β × FileSystem)}
    {Q : Except IoErrorKind β → World → Prop}
    (hfails : os.fails world.clock world.fs = true → Q (.error .other) (world.tick world.fs))
    (hok : ∀ b fs, operation world.clock world.fs = .ok (b, fs) → Q (.ok b) (world.tick fs))
    (herror : ∀ kind, operation world.clock world.fs = .error kind →
      Q (.error kind) (world.tick world.fs)) :
    Attempt.Ends (call os operation) world Q E := by
  unfold Attempt.Ends call
  by_cases hos : os.fails world.clock world.fs = true
  · rw [if_pos hos]
    exact hfails hos
  · rw [if_neg hos]
    cases hoperation : operation world.clock world.fs with
    | error kind => exact herror kind hoperation
    | ok result => exact hok result.1 result.2 hoperation

theorem ends_query {read : FileSystem → Except IoErrorKind β}
    {Q : Except IoErrorKind β → World → Prop}
    (hfails : os.fails world.clock world.fs = true → Q (.error .other) (world.tick world.fs))
    (hread : Q (read world.fs) (world.tick world.fs)) :
    Attempt.Ends (query os read) world Q E := by
  refine ends_call hfails ?_ ?_
  · intro b fs hok
    cases hresult : read world.fs with
    | error kind =>
        rw [hresult] at hok
        cases hok
    | ok b' =>
        rw [hresult] at hok hread
        cases hok
        exact hread
  · intro kind herror
    cases hresult : read world.fs with
    | error kind' =>
        rw [hresult] at herror hread
        cases herror
        exact hread
    | ok b' =>
        rw [hresult] at herror
        cases herror

theorem ends_orFail {attempt : Io (Except IoErrorKind β)} {Q : β → World → Prop}
    (h : Attempt.Ends attempt world
      (fun result world' => match result with
        | .ok b => Q b world'
        | .error kind => E (.io kind) world') E) :
    Attempt.Ends (orFail attempt) world Q E := by
  refine .bind h ?_
  intro result world' hresult
  cases result with
  | error kind => exact Attempt.Ends.fail hresult
  | ok b => exact Attempt.Ends.pure hresult

theorem ends_lookAt {path : Path} {missing : Io β} {found : Entry → Io β}
    {Q : β → World → Prop}
    (hmissing : stat os world.fs path = .error .notFound →
      Attempt.Ends missing (world.tick world.fs) Q E)
    (hfound : ∀ entry, stat os world.fs path = .ok entry →
      Attempt.Ends (found entry) (world.tick world.fs) Q E)
    (hfails : ∀ kind, os.fails world.clock world.fs = true ∨
      kind ≠ .notFound ∧ stat os world.fs path = .error kind →
        E (.io kind) (world.tick world.fs)) :
    Attempt.Ends (lookAt os path missing found) world Q E := by
  refine .bind (Q := fun result world' => world' = world.tick world.fs ∧
    (result = stat os world.fs path ∨
      os.fails world.clock world.fs = true ∧ result = .error .other)) ?_ ?_
  · refine ends_query ?_ ⟨rfl, .inl rfl⟩
    exact fun hos => ⟨rfl, .inr ⟨hos, rfl⟩⟩
  · rintro result _ ⟨rfl, hresult | ⟨hos, rfl⟩⟩
    · cases result with
      | ok entry => exact hfound entry hresult.symm
      | error kind =>
          cases kind with
          | notFound => exact hmissing hresult.symm
          | alreadyExists => exact hfails _ (.inr ⟨by simp, hresult.symm⟩)
          | invalidData => exact hfails _ (.inr ⟨by simp, hresult.symm⟩)
          | other => exact hfails _ (.inr ⟨by simp, hresult.symm⟩)
    · exact hfails _ (.inl hos)

end Rules

end Lamb.Recovery
