import Mathlib.Data.List.Forall2
import Mathlib.Data.List.Infix
import Lamb.Recovery.Lookup
import Lamb.Recovery.Recover

/-!
The directories that are synchronised after a file set has been published. The
walk finds them by byte positions in the text of every final's parent, starting
behind the text of the output root. Below the root of the file system it starts
one byte into the first name, which is no character boundary when the name begins
with a character of several bytes.
-/

namespace Lamb.Recovery

open Lamb.Lib Lamb.Lib.Path

/-! ### Texts of canonical paths -/

theorem dropBlank_names {names : List String} (hnames : ∀ name ∈ names, IsName name) :
    dropBlank (names.map String.toList) = names.map String.toList := by
  induction names using List.reverseRecOn with
  | nil => rfl
  | append_singleton names name ih =>
      obtain ⟨hempty, hdot, -⟩ := hnames name (by simp)
      have hblank : ¬ (name.toList = [] ∨ name.toList = ['.']) := by
        rintro (h | h)
        · exact hempty (String.toList_inj.mp h)
        · exact hdot (String.toList_inj.mp h)
      unfold dropBlank
      rw [List.map_append, List.reverse_append]
      simp only [List.map_cons, List.map_nil, List.reverse_singleton, List.singleton_append]
      rw [List.dropWhile_cons_of_neg (by simpa using hblank)]
      simp

theorem splitOn_names {names : List String} (hnames : ∀ name ∈ names, IsName name)
    (hne : names ≠ []) : (renderChars names).splitOn '/' = [] :: names.map String.toList := by
  obtain ⟨name, names, rfl⟩ := List.exists_cons_of_ne_nil hne
  obtain ⟨hname, hrest⟩ := List.forall_mem_cons.mp hnames
  rw [renderChars, if_neg hne, List.flatMap_cons, List.cons_append,
    ← splitOn_renderChars hname hrest]
  exact splitOn_append_separator [] _

/-- The parent of a canonical text is the text of the names without the last. -/
theorem parentChars_render {names : List String} {name : String}
    (hnames : ∀ name' ∈ names ++ [name], IsName name') :
    parentChars (renderChars (names ++ [name])) = some (renderChars names) := by
  have hfront : ∀ name' ∈ names, IsName name' := fun name' h => hnames name' (by simp [h])
  unfold parentChars
  rw [splitOn_names hnames (by simp)]
  dsimp only
  rw [dropBlank_names hnames, if_neg (by simp), List.map_append, List.map_cons, List.map_nil,
    List.dropLast_concat, dropBlank_names hfront, ← cons_intercalate_eq_renderChars]
  cases names with
  | nil => rfl
  | cons first names => simp [List.intercalate]

/-! ### The walk above one final -/

section Walk

variable {os : Os} {seen : Path → Bool}

/-- What the walk meets below the directory `base`, on the way to `base ++ below`. -/
def ways (base below : List String) : List (List String) :=
  below.inits.tail.map (base ++ ·)

theorem ways_nil (base : List String) : ways base [] = [] :=
  rfl

theorem ways_cons (base : List String) (name : String) (below : List String) :
    ways base (name :: below) = (base ++ [name]) :: ways (base ++ [name]) below := by
  cases below with
  | nil => simp [ways]
  | cons next below => simp [ways, Function.comp_def]

theorem takeWhile_free {chars : List Char} (hfree : '/' ∉ chars) (below : List String) :
    (chars ++ below.flatMap fun name => '/' :: name.toList).takeWhile (· ≠ '/') = chars := by
  have hall : ∀ c ∈ chars, decide (c ≠ '/') = true := by
    intro c hc
    simp only [decide_eq_true_eq]
    rintro rfl
    exact hfree hc
  rw [List.takeWhile_append_of_pos hall]
  cases below with
  | nil => simp
  | cons next below => simp

theorem renderChars_concat (base : List String) (name : String) (below : List String)
    (hbase : base ≠ []) :
    renderChars (base ++ name :: below) =
      renderChars base ++ '/' :: (name.toList ++ below.flatMap fun name => '/' :: name.toList) := by
  simp [renderChars, hbase]

/-- Whether the walk from `base` on can step over the first byte of `name`. -/
def StepsOver (base : List String) (name : String) : Prop :=
  base ≠ [] ∨ ∀ c ∈ name.toList.head?, c.utf8Size = 1

/-- A round of the walk ends at the next separator. -/
theorem syncAncestors_round {base below : List String} {name : String} (hname : IsName name)
    (hbase : ∀ other ∈ base, IsName other) (hsteps : StepsOver base name) (fuel : ℕ) :
    syncAncestors os seen (renderChars (base ++ name :: below)) (fuel + 1)
        (byteLength (renderChars base)) =
      (syncUnseen os seen (absolute (base ++ [name])) >>= fun _ =>
        syncAncestors os seen (renderChars (base ++ name :: below)) fuel
          (byteLength (renderChars (base ++ [name])))) := by
  -- The text is cut one byte behind `base`; what follows up to the next separator
  -- completes `base ++ [name]`.
  obtain ⟨front, tail, hcut, hfront, htext, hfree⟩ : ∃ front tail,
      renderChars (base ++ name :: below) =
        front ++ (tail ++ below.flatMap fun name => '/' :: name.toList) ∧
      byteLength front = byteLength (renderChars base) + 1 ∧
      front ++ tail = renderChars (base ++ [name]) ∧ '/' ∉ tail := by
    by_cases hnil : base = []
    · subst hnil
      obtain ⟨c, tail, hchars⟩ : ∃ c tail, name.toList = c :: tail :=
        List.exists_cons_of_ne_nil fun h => hname.1 (String.toList_inj.mp h)
      have hc : c.utf8Size = 1 := by
        rcases hsteps with hbase | hsteps
        · exact absurd rfl hbase
        · exact hsteps c (by simp [hchars])
      refine ⟨['/', c], tail, ?_, ?_, ?_, ?_⟩
      · simp [renderChars, hchars]
      · simp only [byteLength, renderChars, List.map_cons, hc]
        rfl
      · simp [renderChars, hchars]
      · intro hmem
        exact hname.2.2.2 (by rw [hchars]; exact List.mem_cons_of_mem _ hmem)
    · refine ⟨renderChars base ++ ['/'], name.toList, ?_, ?_, ?_, hname.2.2.2⟩
      · rw [renderChars_concat _ _ _ hnil]
        simp
      · rw [byteLength_append]
        rfl
      · rw [renderChars_concat _ _ _ hnil]
        simp
  have hnames : ∀ other ∈ base ++ [name], IsName other := by
    intro other hother
    rcases List.mem_append.mp hother with h | h
    · exact hbase other h
    · rw [List.mem_singleton.mp h]
      exact hname
  have hstop : byteLength (renderChars base) + 1 +
      byteLength ((tail ++ below.flatMap fun name => '/' :: name.toList).takeWhile (· ≠ '/')) =
        byteLength (renderChars (base ++ [name])) := by
    rw [takeWhile_free hfree, ← hfront, ← byteLength_append, htext]
  have hwhole : renderChars (base ++ name :: below) =
      renderChars (base ++ [name]) ++ below.flatMap fun name => '/' :: name.toList := by
    rw [hcut, ← htext, List.append_assoc]
  have hlt : byteLength (renderChars base) < byteLength (renderChars (base ++ name :: below)) := by
    rw [hcut, byteLength_append]
    omega
  rw [syncAncestors, if_pos hlt]
  have hdrop : dropBytes (renderChars (base ++ name :: below))
      (byteLength (renderChars base) + 1) =
        some (tail ++ below.flatMap fun name => '/' :: name.toList) := by
    rw [hcut, ← hfront, dropBytes_append]
  have htake : takeBytes (renderChars (base ++ name :: below))
      (byteLength (renderChars (base ++ [name]))) = some (renderChars (base ++ [name])) := by
    rw [hwhole, takeBytes_append]
  rw [hdrop]
  dsimp only
  rw [hstop, htake]
  dsimp only
  rw [← render, ofText_render hnames]

/-- Below the root of the file system a name that begins with a character of several
bytes is cut inside it. -/
theorem syncAncestors_panics {below : List String} {name : String}
    (hsteps : ¬ StepsOver [] name) (fuel : ℕ) :
    syncAncestors os seen (renderChars (name :: below)) (fuel + 1) (byteLength (renderChars [])) =
      Attempt.fail .panicked := by
  obtain ⟨c, hhead, hc⟩ : ∃ c ∈ name.toList.head?, c.utf8Size ≠ 1 := by
    by_contra hnone
    apply hsteps
    refine .inr fun c hc => ?_
    by_contra hne
    exact hnone ⟨c, hc, hne⟩
  obtain ⟨tail, hchars⟩ := List.head?_eq_some_iff.mp hhead
  have hpos := c.utf8Size_pos
  have htext : renderChars (name :: below) =
      '/' :: c :: (tail ++ below.flatMap fun name => '/' :: name.toList) := by
    simp [renderChars, hchars]
  have hroot : byteLength (renderChars []) = 1 := rfl
  have hslash : Char.utf8Size '/' = 1 := rfl
  rw [htext, hroot, syncAncestors, if_pos (by rw [byteLength_cons, byteLength_cons]; omega)]
  have hdrop : dropBytes ('/' :: c :: (tail ++ below.flatMap fun name => '/' :: name.toList))
      (1 + 1) = none := by
    rw [dropBytes, splitBytes, if_pos (by decide), hslash, splitBytes, if_neg (by omega)]
    rfl
  rw [hdrop]

/-- The walk from `base` to `base ++ below` visits the directories in between. -/
theorem syncAncestors_eq {base below : List String} {fuel : ℕ}
    (hnames : ∀ other ∈ base ++ below, IsName other) (hfuel : below.length < fuel)
    (hsteps : ∀ name ∈ below.head?, StepsOver base name) :
    syncAncestors os seen (renderChars (base ++ below)) fuel (byteLength (renderChars base)) =
      (ways base below).forM fun names => syncUnseen os seen (absolute names) := by
  induction below generalizing base fuel with
  | nil =>
      obtain ⟨fuel, rfl⟩ := Nat.exists_eq_add_of_lt hfuel
      rw [List.append_nil, syncAncestors, if_neg (Nat.lt_irrefl _)]
      rfl
  | cons name below ih =>
      obtain ⟨fuel, rfl⟩ := Nat.exists_eq_add_of_lt hfuel
      have hnext := @ih (base ++ [name]) (below.length + 1 + fuel) (by simpa using hnames)
        (by omega) (fun _ _ => .inl (by simp))
      rw [List.append_assoc, List.singleton_append] at hnext
      rw [List.length_cons, syncAncestors_round (hnames name (by simp))
        (fun other hother => hnames other (by simp [hother])) (hsteps name rfl), hnext, ways_cons]
      rfl

end Walk

/-! ### The walks above all finals -/

/-- A file that has been published: the directories below the output root, and its
name. -/
structure FinalFile where
  directories : List String
  name : String

def FinalFile.names (root : List String) (final : FinalFile) : List String :=
  root ++ final.directories ++ [final.name]

/-- The entry names the file, and spells its path canonically. -/
structure Names (root : List String) (entry : ManifestEntrySlot) (final : FinalFile) : Prop where
  text : entry.finalPath = render (final.names root)
  names : ∀ name ∈ final.names root, IsName name

/-- The directories the walk above `final` finds that no final before it lies in. -/
def unseen (root : List String) (prior : List FinalFile) (final : FinalFile) :
    List (List String) :=
  (ways root final.directories).filter fun names =>
    !prior.any fun earlier => decide (names <+: root ++ earlier.directories)

def syncedBelow (root : List String) (prior : List FinalFile) :
    List FinalFile → List (List String)
  | [] => []
  | final :: finals => unseen root prior final ++ syncedBelow root (prior ++ [final]) finals

section Finals

variable {os : Os} {root : List String} {entry : ManifestEntrySlot} {final : FinalFile}
  {prior entries : List ManifestEntrySlot} {priorFinals finals : List FinalFile}

theorem Names.parent_eq (h : Names root entry final) :
    entry.finalOf.1.parent = some (absolute (root ++ final.directories)) := by
  rw [ManifestEntrySlot.finalOf, h.text, ofText_render h.names, FinalFile.names,
    parent_absolute_append]

theorem Names.parentChars_eq (h : Names root entry final) :
    parentChars entry.finalPath.toList = some (renderChars (root ++ final.directories)) := by
  rw [h.text, render, String.toList_ofList]
  exact parentChars_render h.names

theorem Names.isName (h : Names root entry final) :
    ∀ name ∈ root ++ final.directories, IsName name :=
  fun name hname => h.names name (List.mem_append_left _ hname)

theorem any_seen (h : List.Forall₂ (Names root) prior priorFinals) (names : List String) :
    (prior.any fun earlier =>
        earlier.finalOf.1.parent.any fun parent => parent.startsWith (absolute names)) =
      priorFinals.any fun earlier => decide (names <+: root ++ earlier.directories) := by
  induction h with
  | nil => rfl
  | cons hnames _ ih =>
      rw [List.any_cons, List.any_cons, ih, hnames.parent_eq]
      congr 1
      rw [Option.any_some, Bool.eq_iff_iff, startsWith_absolute, decide_eq_true_iff]

theorem length_le_byteLength_renderChars {names : List String} :
    names.length ≤ byteLength (renderChars names) := by
  by_cases hnil : names = []
  · simp [hnil]
  · rw [renderChars, if_neg hnil]
    clear hnil
    induction names with
    | nil => simp
    | cons name names ih =>
        have hslash : Char.utf8Size '/' = 1 := rfl
        rw [List.flatMap_cons, List.cons_append, byteLength_cons, byteLength_append, hslash,
          List.length_cons]
        omega

/-- The walk above one final synchronises what no earlier final lies in. -/
theorem syncParents_eq (h : Names root entry final)
    (hprior : List.Forall₂ (Names root) prior priorFinals)
    (hsteps : ∀ name ∈ final.directories.head?, StepsOver root name) :
    syncParents os (absolute root) prior entry =
      (unseen root priorFinals final).forM fun names => syncDirectory os (absolute names) := by
  have hlength := @length_le_byteLength_renderChars (root ++ final.directories)
  rw [List.length_append] at hlength
  unfold syncParents
  rw [h.parentChars_eq, display_absolute, render, String.toList_ofList]
  dsimp only
  rw [syncAncestors_eq h.isName (by omega) hsteps]
  simp only [syncUnseen, any_seen hprior]
  exact Attempt.forM_filter _ _ _

theorem syncEntryAncestors_eq (h : List.Forall₂ (Names root) entries finals)
    (hprior : List.Forall₂ (Names root) prior priorFinals)
    (hsteps : ∀ final ∈ finals, ∀ name ∈ final.directories.head?, StepsOver root name) :
    syncEntryAncestors os (absolute root) prior entries =
      (syncedBelow root priorFinals finals).forM fun names =>
        syncDirectory os (absolute names) := by
  induction h generalizing prior priorFinals with
  | nil => rfl
  | cons hnames _ ih =>
      obtain ⟨hfirst, hrest⟩ := List.forall_mem_cons.mp hsteps
      have hprior' := List.rel_append hprior (List.Forall₂.cons hnames .nil)
      rw [syncedBelow, Attempt.forM_append, ← ih hprior' hrest,
        ← syncParents_eq hnames hprior hfirst]
      rfl

end Finals

/-! ### The order of the walks -/

theorem mem_ways {base below names : List String} :
    names ∈ ways base below ↔ base <+: names ∧ names <+: base ++ below ∧ names ≠ base := by
  induction below generalizing base with
  | nil =>
      rw [ways_nil, List.append_nil]
      simp only [List.not_mem_nil, false_iff, not_and, not_not]
      intro hbase hnames
      exact hnames.eq_of_length_le hbase.length_le
  | cons name below ih =>
      rw [ways_cons, List.mem_cons, ih, List.append_assoc, List.singleton_append]
      constructor
      · rintro (rfl | ⟨hbase, hnames, -⟩)
        · refine ⟨List.prefix_append _ _, ?_, by simp⟩
          exact ⟨below, by simp⟩
        · refine ⟨(List.prefix_append _ _).trans hbase, hnames, ?_⟩
          rintro rfl
          have hlength := hbase.length_le
          rw [List.length_append, List.length_singleton] at hlength
          omega
      · rintro ⟨⟨rest, rfl⟩, hnames, hne⟩
        cases rest with
        | nil => simp at hne
        | cons next rest =>
            rw [List.prefix_append_right_inj, List.cons_prefix_cons] at hnames
            obtain ⟨rfl, hrest⟩ := hnames
            cases rest with
            | nil => exact .inl rfl
            | cons another rest =>
                refine .inr ⟨⟨another :: rest, by simp⟩, ?_, by simp⟩
                rw [List.prefix_append_right_inj, List.cons_prefix_cons]
                exact ⟨rfl, hrest⟩

/-- No directory of a walk lies above an earlier one. -/
theorem ways_pairwise (base below : List String) :
    (ways base below).Pairwise fun earlier later => ¬ later <+: earlier := by
  induction below generalizing base with
  | nil => simp [ways]
  | cons name below ih =>
      rw [ways_cons, List.pairwise_cons]
      refine ⟨?_, ih _⟩
      intro later hlater hinitial
      obtain ⟨hbase, -, hne⟩ := mem_ways.mp hlater
      exact hne (hinitial.eq_of_length_le hbase.length_le)

section Order

variable {root names : List String} {prior finals : List FinalFile} {final : FinalFile}

theorem mem_unseen :
    names ∈ unseen root prior final ↔
      (root <+: names ∧ names <+: root ++ final.directories ∧ names ≠ root) ∧
        ∀ earlier ∈ prior, ¬ names <+: root ++ earlier.directories := by
  simp [unseen, List.mem_filter, mem_ways]

theorem mem_syncedBelow :
    names ∈ syncedBelow root prior finals ↔
      root <+: names ∧ names ≠ root ∧
        (∃ final ∈ finals, names <+: root ++ final.directories) ∧
        ∀ earlier ∈ prior, ¬ names <+: root ++ earlier.directories := by
  induction finals generalizing prior with
  | nil => simp [syncedBelow]
  | cons final finals ih =>
      rw [syncedBelow, List.mem_append, mem_unseen, ih]
      simp only [List.mem_append, List.mem_singleton, List.exists_mem_cons_iff]
      constructor
      · rintro (⟨⟨hroot, hfinal, hne⟩, hprior⟩ | ⟨hroot, hne, hlater, hprior⟩)
        · exact ⟨hroot, hne, .inl hfinal, hprior⟩
        · exact ⟨hroot, hne, .inr hlater, fun earlier h => hprior earlier (.inl h)⟩
      · rintro ⟨hroot, hne, hsome, hprior⟩
        by_cases hfinal : names <+: root ++ final.directories
        · exact .inl ⟨⟨hroot, hfinal, hne⟩, hprior⟩
        · refine .inr ⟨hroot, hne, hsome.resolve_left hfinal, ?_⟩
          rintro earlier (h | rfl)
          · exact hprior earlier h
          · exact hfinal

theorem syncedBelow_pairwise (root : List String) (prior finals : List FinalFile) :
    (syncedBelow root prior finals).Pairwise fun earlier later => ¬ later <+: earlier := by
  induction finals generalizing prior with
  | nil => exact .nil
  | cons final finals ih =>
      rw [syncedBelow, List.pairwise_append]
      refine ⟨(ways_pairwise root _).filter _, ih _, ?_⟩
      intro earlier hearlier later hlater hinitial
      obtain ⟨⟨-, hfinal, -⟩, -⟩ := mem_unseen.mp hearlier
      obtain ⟨-, -, -, hunseen⟩ := mem_syncedBelow.mp hlater
      exact hunseen final (by simp) (hinitial.trans hfinal)

end Order

/-! ### A file system in which every directory is there -/

theorem lookup_map_const {α β : Type} [BEq α] [LawfulBEq α] {l : List α} {b : β} {a : α}
    (h : a ∈ l) : (l.map fun a => (a, b)).lookup a = some b := by
  induction l with
  | nil => cases h
  | cons a' l ih =>
      rw [List.map_cons, List.lookup_cons]
      by_cases heq : a = a'
      · simp [heq]
      · rw [beq_eq_false_iff_ne.mpr heq]
        exact ih ((List.mem_cons.mp h).resolve_left heq)

theorem mem_of_lookup_map_const {α β : Type} [BEq α] [LawfulBEq α] {l : List α} {b : β} {a : α}
    (h : (l.map fun a => (a, b)).lookup a ≠ none) : a ∈ l := by
  by_contra hout
  apply h
  rw [List.lookup_eq_none_iff]
  intro entry hentry
  obtain ⟨a', ha', rfl⟩ := List.mem_map.mp hentry
  rw [bne_iff_ne]
  rintro rfl
  exact hout ha'

/-- The tree of the directories that lead to `finals`. -/
def directoryTree (finals : List FinalFile) : FileSystem where
  entries := ([] :: finals.flatMap fun final => final.directories.inits).map fun names =>
    (names, .directory ⟨0, 0⟩)
  root := ⟨⟨0, 0⟩, rfl⟩
  parent := by
    intro location name h
    have hin := mem_of_lookup_map_const h
    simp only [List.mem_cons, List.append_eq_nil_iff, List.cons_ne_nil, and_false, false_or,
      List.mem_flatMap, List.mem_inits] at hin
    obtain ⟨final, hfinal, hinitial⟩ := hin
    refine ⟨_, lookup_map_const (List.mem_cons_of_mem _ (List.mem_flatMap.mpr ⟨final, hfinal, ?_⟩))⟩
    exact (List.mem_inits _ _).mpr ((List.prefix_append _ _).trans hinitial)

theorem lookup_directoryTree {finals : List FinalFile} {final : FinalFile} {names : List String}
    (hfinal : final ∈ finals) (hnames : names <+: final.directories) :
    (directoryTree finals).lookup names = some (.directory ⟨0, 0⟩) := by
  refine lookup_map_const (List.mem_cons_of_mem _ (List.mem_flatMap.mpr ⟨final, hfinal, ?_⟩))
  exact (List.mem_inits _ _).mpr hnames

theorem query_upward {β : Type} {read : FileSystem → Except IoErrorKind β} (world : World) :
    query Os.upward read world = (.ok (read world.fs), world.tick world.fs) := by
  unfold query call
  dsimp only [Os.upward]
  cases read world.fs with
  | ok b => rfl
  | error kind => rfl

/-- A directory that is there is synchronised. -/
theorem syncDirectory_upward {world : World} {names : List String} {identity : FileIdentity}
    (h : world.fs.lookup names = some (.directory identity)) :
    syncDirectory Os.upward (absolute names) world =
      (.ok (), (world.tick world.fs).tick world.fs) := by
  unfold syncDirectory orFail openDirectory onOpenFile
  simp only [Bind.bind, query_upward, stat_of_lookup h]
  rfl

section Panic

variable {prior entries : List ManifestEntrySlot} {priorFinals finals all : List FinalFile}

theorem forM_syncDirectory_upward {dirs : List (List String)} {world : World}
    (h : ∀ names ∈ dirs, ∃ identity, world.fs.lookup names = some (.directory identity)) :
    ∃ world', dirs.forM (fun names => syncDirectory Os.upward (absolute names)) world =
      (.ok (), world') ∧ world'.fs = world.fs := by
  induction dirs generalizing world with
  | nil => exact ⟨world, rfl, rfl⟩
  | cons names dirs ih =>
      obtain ⟨⟨identity, hfirst⟩, hrest⟩ := List.forall_mem_cons.mp h
      obtain ⟨world', hrun, hfs⟩ := @ih ((world.tick world.fs).tick world.fs) hrest
      refine ⟨world', ?_, hfs⟩
      change (syncDirectory Os.upward (absolute names) >>= fun _ =>
        dirs.forM fun names => syncDirectory Os.upward (absolute names)) world = _
      simp only [Bind.bind, syncDirectory_upward hfirst]
      exact hrun

/-- With every directory in place, the walk reaches the first final whose path is cut
inside a character, and panics. -/
theorem syncEntryAncestors_panics (h : List.Forall₂ (Names []) entries finals)
    (hprior : List.Forall₂ (Names []) prior priorFinals)
    (hcut : ∃ final ∈ finals, ∃ name ∈ final.directories.head?, ¬ StepsOver [] name)
    {world : World} (hfs : ∀ final ∈ finals, ∀ names, names <+: final.directories →
      ∃ identity, world.fs.lookup names = some (.directory identity)) :
    (syncEntryAncestors Os.upward (absolute []) prior entries world).1 = .error .panicked := by
  induction h generalizing prior priorFinals world with
  | nil =>
      obtain ⟨final, hfinal, -⟩ := hcut
      cases hfinal
  | @cons entry final entries finals hnames hrest ih =>
      obtain ⟨hfirst, hlater⟩ := List.forall_mem_cons.mp hfs
      by_cases hsteps : ∀ name ∈ final.directories.head?, StepsOver [] name
      · obtain ⟨world', hrun, hfs'⟩ := @forM_syncDirectory_upward
          (unseen [] priorFinals final) world (by
            intro names hmem
            exact hfirst names (by simpa using (mem_unseen.mp hmem).1.2.1))
        rw [← syncParents_eq hnames hprior hsteps] at hrun
        unfold syncEntryAncestors
        simp only [Bind.bind, hrun]
        refine ih (List.rel_append hprior (List.Forall₂.cons hnames .nil)) ?_ ?_
        · obtain ⟨other, hother, name, hname, hcut⟩ := hcut
          rcases List.mem_cons.mp hother with rfl | hother
          · exact absurd (hsteps name hname) hcut
          · exact ⟨other, hother, name, hname, hcut⟩
        · rw [hfs']
          exact hlater
      · obtain ⟨name, hname, hcut⟩ : ∃ name ∈ final.directories.head?, ¬ StepsOver [] name := by
          by_contra hnone
          exact hsteps fun name hname => by_contra fun h => hnone ⟨name, hname, h⟩
        obtain ⟨below, hbelow⟩ := List.head?_eq_some_iff.mp hname
        have hpanics : syncParents Os.upward (absolute []) prior entry =
            Attempt.fail .panicked := by
          unfold syncParents
          rw [hnames.parentChars_eq, List.nil_append, hbelow, display_absolute, render,
            String.toList_ofList]
          exact syncAncestors_panics hcut _
        unfold syncEntryAncestors
        simp only [Bind.bind, hpanics, Attempt.fail]

end Panic

/-! ### The directories that are synchronised -/

theorem syncDirectory_ne_panicked (os : Os) (path : Path) (world : World) :
    (syncDirectory os path world).1 ≠ .error .panicked := by
  have hend : Attempt.Ends (syncDirectory os path) world (fun _ _ => True)
      (fun e _ => e ≠ .panicked) := by
    have hcall {β : Type} (read : FileSystem → Except IoErrorKind β) (world : World) :
        Attempt.Ends (orFail (query os read)) world (fun _ _ => True)
          (fun e _ => e ≠ .panicked) := by
      refine ends_orFail (ends_query (fun _ => by simp) ?_)
      cases read world.fs with
      | ok b => trivial
      | error kind => simp
    exact .bind (hcall _ _) fun _ world' _ => hcall _ _
  intro herror
  unfold Attempt.Ends at hend
  generalize syncDirectory os path world = result at hend herror
  obtain ⟨result, world'⟩ := result
  cases herror
  exact hend rfl

/-- Every directory from the root to the parent of each final is synchronised, once and
after the directories above it, until a call fails. -/
structure SyncsInOrder (manifest : TransactionManifest) (root : List String)
    (finals : List FinalFile) (dirs : List (List String)) : Prop where
  run : ∀ os, syncFileSetDirectories os manifest (absolute root) =
    dirs.forM fun names => syncDirectory os (absolute names)
  noPanic : ∀ os world,
    (syncFileSetDirectories os manifest (absolute root) world).1 ≠ .error .panicked
  all : ∀ names, names ∈ dirs ↔ names = root ∨
    ∃ final ∈ finals, root <+: names ∧ names <+: root ++ final.directories
  once : dirs.Nodup
  ancestorsFirst : dirs.Pairwise fun earlier later => ¬ later <+: earlier

theorem forM_syncDirectory_ne_panicked (os : Os) (dirs : List (List String)) (world : World) :
    (dirs.forM (fun names => syncDirectory os (absolute names)) world).1 ≠ .error .panicked := by
  induction dirs generalizing world with
  | nil => simp [List.forM, Pure.pure]
  | cons names dirs ih =>
      change ((syncDirectory os (absolute names) >>= fun _ =>
        dirs.forM fun names => syncDirectory os (absolute names)) world).1 ≠ _
      have hfirst := syncDirectory_ne_panicked os (absolute names) world
      simp only [Bind.bind]
      generalize syncDirectory os (absolute names) world = result at hfirst
      obtain ⟨e | _, world'⟩ := result
      · exact hfirst
      · exact ih world'

/-- The directories are synchronised in order unless the output root is the root of
the file system and a final lies in a directory whose path from there begins with a
character of several bytes. -/
theorem file_set_directories_synced_iff (manifest : TransactionManifest) (root : List String)
    (finals : List FinalFile) (hfinals : List.Forall₂ (Names root) manifest.entries finals) :
    (∃ dirs, SyncsInOrder manifest root finals dirs) ↔
      root ≠ [] ∨ ∀ final ∈ finals, ∀ name ∈ final.directories.head?,
        ∀ c ∈ name.toList.head?, c.utf8Size = 1 := by
  constructor
  · rintro ⟨dirs, hsyncs⟩
    by_contra hneither
    obtain ⟨hnil, hcut⟩ := not_or.mp hneither
    obtain rfl := not_not.mp hnil
    have hfs : ∀ final ∈ finals, ∀ names, names <+: final.directories →
        ∃ identity, (directoryTree finals).lookup names = some (.directory identity) :=
      fun final hfinal names hnames => ⟨_, lookup_directoryTree hfinal hnames⟩
    have hstart : (directoryTree finals).lookup [] = some (.directory ⟨0, 0⟩) := rfl
    apply hsyncs.noPanic Os.upward ⟨directoryTree finals, 0⟩
    unfold syncFileSetDirectories
    simp only [Bind.bind, @syncDirectory_upward ⟨directoryTree finals, 0⟩ [] _ hstart]
    refine syncEntryAncestors_panics hfinals .nil ?_ hfs
    by_contra hnone
    apply hcut
    intro final hfinal name hname
    by_contra hsize
    refine hnone ⟨final, hfinal, name, hname, ?_⟩
    rintro (h | h)
    · exact h rfl
    · exact hsize h
  · intro hsteps
    have hsteps : ∀ final ∈ finals, ∀ name ∈ final.directories.head?, StepsOver root name :=
      fun final hfinal name hname => hsteps.imp_right fun h => h final hfinal name hname
    have hrun (os : Os) : syncFileSetDirectories os manifest (absolute root) =
        (root :: syncedBelow root [] finals).forM fun names =>
          syncDirectory os (absolute names) := by
      unfold syncFileSetDirectories
      rw [syncEntryAncestors_eq hfinals .nil hsteps]
      rfl
    have horder : (root :: syncedBelow root [] finals).Pairwise
        fun earlier later => ¬ later <+: earlier := by
      rw [List.pairwise_cons]
      refine ⟨?_, syncedBelow_pairwise root [] finals⟩
      intro later hlater hinitial
      obtain ⟨hbelow, hne, -⟩ := mem_syncedBelow.mp hlater
      exact hne (hinitial.eq_of_length_le hbelow.length_le)
    refine ⟨root :: syncedBelow root [] finals, hrun, ?_, ?_, ?_, horder⟩
    · intro os world
      rw [hrun]
      exact forM_syncDirectory_ne_panicked os _ world
    · intro names
      rw [List.mem_cons, mem_syncedBelow]
      constructor
      · rintro (rfl | ⟨hbelow, -, ⟨final, hfinal, hnames⟩, -⟩)
        · exact .inl rfl
        · exact .inr ⟨final, hfinal, hbelow, hnames⟩
      · rintro (rfl | ⟨final, hfinal, hbelow, hnames⟩)
        · exact .inl rfl
        · by_cases heq : names = root
          · exact .inl heq
          · exact .inr ⟨hbelow, heq, ⟨final, hfinal, hnames⟩, by simp⟩
    · refine horder.imp ?_
      rintro earlier later hnot rfl
      exact hnot List.prefix_rfl

/-- A file set of one file. -/
def oneFile (outputRoot finalPath : String) : TransactionManifest where
  version := 2
  uid := 0
  kind := .fileSet
  phase := .prepared
  transactionId := "t"
  stagingRootPath := "/s/t"
  stagingRootIdentity := none
  outputRoot := outputRoot
  entries := [{ stagedPath := "/s/t/x", finalPath := finalPath }]

theorem file_set_directories_synced_below_out :
    List.Forall₂ (Names ["out"]) (oneFile "/out" "/out/é/x").entries [⟨["é"], "x"⟩] ∧
      ∃ dirs, SyncsInOrder (oneFile "/out" "/out/é/x") ["out"] [⟨["é"], "x"⟩] dirs := by
  have hnames : List.Forall₂ (Names ["out"]) (oneFile "/out" "/out/é/x").entries
      [⟨["é"], "x"⟩] :=
    .cons ⟨by decide, by decide⟩ .nil
  exact ⟨hnames, (file_set_directories_synced_iff _ _ _ hnames).mpr (.inl (by simp))⟩

/-- Below the root of the file system the first directory may begin with a character
of two bytes. -/
theorem file_set_directories_panic :
    List.Forall₂ (Names []) (oneFile "/" "/é/x").entries [⟨["é"], "x"⟩] ∧
      (syncFileSetDirectories Os.upward (oneFile "/" "/é/x") (absolute [])
        ⟨directoryTree [⟨["é"], "x"⟩], 0⟩).1 = .error .panicked ∧
      ¬ ∃ dirs, SyncsInOrder (oneFile "/" "/é/x") [] [⟨["é"], "x"⟩] dirs := by
  have hpanic : (syncFileSetDirectories Os.upward (oneFile "/" "/é/x") (absolute [])
      ⟨directoryTree [⟨["é"], "x"⟩], 0⟩).1 = .error .panicked := by decide +kernel
  refine ⟨.cons ⟨by decide, by decide⟩ .nil, hpanic, ?_⟩
  rintro ⟨dirs, hsyncs⟩
  exact hsyncs.noPanic _ _ hpanic

end Lamb.Recovery
