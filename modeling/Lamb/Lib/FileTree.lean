import Mathlib.Algebra.Ring.Nat
import Mathlib.Data.List.Basic
import Mathlib.Data.List.Induction

/-!
Trees of files, directories and symbolic links, kept as a finite map from
locations to nodes. A location is the list of names from the root. Every
entry but the root lies in a directory; an update of one location has to say
that this stays so.
-/

namespace Lamb.Lib

abbrev Location := List String

inductive Node (ι κ : Type)
  | file (identity : ι) (content : κ)
  | directory (identity : ι)
  | symlink (identity : ι) (target : String)
  deriving DecidableEq, Repr

namespace Node

variable {ι κ : Type}

def identity : Node ι κ → ι
  | .file identity _ => identity
  | .directory identity => identity
  | .symlink identity _ => identity

def isFile : Node ι κ → Bool
  | .file _ _ => true
  | _ => false

def isDir : Node ι κ → Bool
  | .directory _ => true
  | _ => false

def isSymlink : Node ι κ → Bool
  | .symlink _ _ => true
  | _ => false

theorem eq_directory {node : Node ι κ} (h : node.isDir = true) :
    node = .directory node.identity := by
  cases node with
  | directory identity => rfl
  | file identity content => cases h
  | symlink identity target => cases h

end Node

/-- Whether what is found at a location is a directory. -/
def IsDirectory {ι κ : Type} (found : Option (Node ι κ)) : Prop :=
  ∃ identity, found = some (.directory identity)

instance {ι κ : Type} (found : Option (Node ι κ)) : Decidable (IsDirectory found) :=
  match found with
  | some (.directory identity) => isTrue ⟨identity, rfl⟩
  | some (.file _ _) => isFalse (by rintro ⟨_, ⟨⟩⟩)
  | some (.symlink _ _) => isFalse (by rintro ⟨_, ⟨⟩⟩)
  | none => isFalse (by rintro ⟨_, ⟨⟩⟩)

structure FileTree (ι κ : Type) where
  entries : List (Location × Node ι κ)
  root : IsDirectory (entries.lookup [])
  parent : ∀ location name, entries.lookup (location ++ [name]) ≠ none →
    IsDirectory (entries.lookup location)

namespace FileTree

variable {ι κ : Type} {tree tree' tree'' : FileTree ι κ} {location location' : Location}
  {node : Node ι κ}

def lookup (tree : FileTree ι κ) (location : Location) : Option (Node ι κ) :=
  tree.entries.lookup location

theorem isDirectory_parent {name : String} (h : tree.lookup (location ++ [name]) ≠ none) :
    IsDirectory (tree.lookup location) :=
  tree.parent location name h

/-- Everything above an entry is a directory. -/
theorem isDirectory_of_isPrefix (h : tree.lookup location ≠ none) (hpre : location' <+: location)
    (hne : location' ≠ location) : IsDirectory (tree.lookup location') := by
  induction location using List.reverseRecOn with
  | nil => exact absurd (List.prefix_nil.1 hpre) hne
  | append_singleton above name ih =>
      have habove := isDirectory_parent h
      rcases List.prefix_concat_iff.1 hpre with heq | hpre'
      · exact absurd heq hne
      · by_cases heq : location' = above
        · rwa [heq]
        · obtain ⟨identity, hidentity⟩ := habove
          exact ih (by rw [hidentity]; simp) hpre' heq

theorem lookup_eq_none_of_isPrefix (h : ¬IsDirectory (tree.lookup location'))
    (hpre : location' <+: location) (hne : location' ≠ location) :
    tree.lookup location = none := by
  by_contra hsome
  exact h (isDirectory_of_isPrefix hsome hpre hne)

/-- A list of entries that is a tree, as can be checked. -/
def WellFormed (entries : List (Location × Node ι κ)) : Prop :=
  IsDirectory (entries.lookup []) ∧
    ∀ entry ∈ entries, entry.1 ≠ [] → IsDirectory (entries.lookup entry.1.dropLast)

instance (entries : List (Location × Node ι κ)) : Decidable (WellFormed entries) :=
  inferInstanceAs (Decidable (_ ∧ ∀ _ ∈ entries, _))

def ofEntries (entries : List (Location × Node ι κ)) (h : WellFormed entries) : FileTree ι κ where
  entries := entries
  root := h.1
  parent := by
    intro location name hsome
    obtain ⟨node, hnode⟩ := Option.ne_none_iff_exists'.1 hsome
    have hin : (location ++ [name], node) ∈ entries := by
      obtain ⟨front, back, heq, -⟩ := List.lookup_eq_some_iff.1 hnode
      rw [heq]
      simp
    simpa using h.2 _ hin (by simp)

/-- The tree of an empty root directory. -/
def bare (identity : ι) : FileTree ι κ where
  entries := [([], .directory identity)]
  root := ⟨identity, rfl⟩
  parent := by
    intro location name hsome
    refine absurd ?_ hsome
    exact List.lookup_eq_none_iff.2 (by simp)

/-! ### Children -/

/-- The entries directly below a location, as `read_dir` lists them. -/
def children (tree : FileTree ι κ) (location : Location) : List Location :=
  (tree.entries.map Prod.fst).filter fun entry => entry ≠ [] ∧ entry.dropLast = location

theorem mem_keys : location ∈ tree.entries.map Prod.fst ↔ tree.lookup location ≠ none := by
  rw [lookup, Ne, List.lookup_eq_none_iff, List.mem_map]
  simp only [bne_iff_ne, ne_eq, not_forall, not_not]
  constructor
  · rintro ⟨entry, hin, rfl⟩
    exact ⟨entry, hin, rfl⟩
  · rintro ⟨entry, hin, rfl⟩
    exact ⟨entry, hin, rfl⟩

theorem mem_children : location' ∈ tree.children location ↔
    ∃ name, location' = location ++ [name] ∧ tree.lookup location' ≠ none := by
  simp only [children, List.mem_filter, mem_keys, decide_eq_true_eq]
  constructor
  · rintro ⟨hsome, hne, hlast⟩
    refine ⟨location'.getLast hne, ?_, hsome⟩
    rw [← hlast]
    exact (List.dropLast_append_getLast hne).symm
  · rintro ⟨name, rfl, hsome⟩
    exact ⟨hsome, by simp, by simp⟩

theorem children_eq_nil : tree.children location = [] ↔
    ∀ name, tree.lookup (location ++ [name]) = none := by
  rw [List.eq_nil_iff_forall_not_mem]
  constructor
  · intro h name
    by_contra hsome
    exact h _ (mem_children.2 ⟨name, rfl, hsome⟩)
  · intro h location' hin
    obtain ⟨name, rfl, hsome⟩ := mem_children.1 hin
    exact hsome (h name)

/-! ### One location updated -/

def setEntry (entries : List (Location × Node ι κ)) (location : Location)
    (found : Option (Node ι κ)) : List (Location × Node ι κ) :=
  let others := entries.filter fun entry => entry.1 ≠ location
  match found with
  | some node => (location, node) :: others
  | none => others

theorem lookup_cons_eq_ite (entries : List (Location × Node ι κ)) (location key : Location)
    (node : Node ι κ) :
    ((key, node) :: entries).lookup location =
      if location = key then some node else entries.lookup location := by
  by_cases heq : location = key
  · rw [List.lookup_cons, if_pos heq, beq_iff_eq.2 heq]
  · rw [List.lookup_cons, if_neg heq, beq_false_of_ne heq]

theorem lookup_setEntry (entries : List (Location × Node ι κ)) (location location' : Location)
    (found : Option (Node ι κ)) :
    (setEntry entries location found).lookup location' =
      if location' = location then found else entries.lookup location' := by
  have hothers : (entries.filter fun entry => entry.1 ≠ location).lookup location' =
      if location' = location then none else entries.lookup location' := by
    induction entries with
    | nil => simp
    | cons entry entries ih =>
        obtain ⟨key, value⟩ := entry
        by_cases hkey : key = location
        · rw [List.filter_cons_of_neg (by simp [hkey]), ih, lookup_cons_eq_ite, hkey]
          split <;> rfl
        · rw [List.filter_cons_of_pos (by simp [hkey]), lookup_cons_eq_ite, ih, lookup_cons_eq_ite]
          by_cases hlocation : location' = key
          · rw [if_pos hlocation, if_neg (by rwa [hlocation]), if_pos hlocation]
          · rw [if_neg hlocation, if_neg hlocation]
  unfold setEntry
  cases found with
  | none => exact hothers
  | some node =>
      simp only [lookup_cons_eq_ite, hothers]
      split <;> rfl

/-- An update that leaves every entry in a directory: a new node has a
directory above it, and only a directory has anything below it. -/
structure CanUpdate (tree : FileTree ι κ) (location : Location) (found : Option (Node ι κ)) :
    Prop where
  notRoot : location ≠ []
  above : found ≠ none → IsDirectory (tree.lookup location.dropLast)
  below : ¬IsDirectory found → ∀ name, tree.lookup (location ++ [name]) = none

def update (tree : FileTree ι κ) (location : Location) (found : Option (Node ι κ))
    (h : tree.CanUpdate location found) : FileTree ι κ where
  entries := setEntry tree.entries location found
  root := by
    rw [lookup_setEntry, if_neg h.notRoot.symm]
    exact tree.root
  parent := by
    intro above name hsome
    rw [lookup_setEntry] at hsome ⊢
    by_cases heq : above ++ [name] = location
    · -- the updated location itself: its directory is another location
      rw [if_pos heq] at hsome
      have habove := h.above hsome
      rw [← heq, List.dropLast_concat] at habove
      rw [if_neg]
      · exact habove
      · rintro rfl
        simpa using congrArg List.length heq
    · rw [if_neg heq] at hsome
      by_cases habove : above = location
      · rw [if_pos habove]
        by_contra hnot
        rw [habove] at hsome
        exact hsome (h.below hnot name)
      · rw [if_neg habove]
        exact tree.parent above name hsome

@[simp] theorem lookup_update {found : Option (Node ι κ)} (h : tree.CanUpdate location found)
    (location' : Location) : (tree.update location found h).lookup location' =
      if location' = location then found else tree.lookup location' :=
  lookup_setEntry tree.entries location location' found

/-- Nothing lies below an entry that is not a directory. -/
theorem below_of_not_isDirectory (h : ¬IsDirectory (tree.lookup location)) (name : String) :
    tree.lookup (location ++ [name]) = none := by
  by_contra hsome
  exact h (isDirectory_parent hsome)

/-- A new entry. -/
theorem canUpdate_create {name : String} (hdirectory : IsDirectory (tree.lookup location))
    (habsent : tree.lookup (location ++ [name]) = none) :
    tree.CanUpdate (location ++ [name]) (some node) where
  notRoot := by simp
  above := by
    intro _
    rwa [List.dropLast_concat]
  below := by
    intro _
    refine below_of_not_isDirectory ?_
    rw [habsent]
    rintro ⟨_, ⟨⟩⟩

theorem ne_nil_of_lookup (h : tree.lookup location = some node) (hnot : node.isDir = false) :
    location ≠ [] := by
  rintro rfl
  obtain ⟨_, hroot⟩ := tree.root
  rw [lookup, hroot] at h
  cases h
  cases hnot

theorem not_isDirectory_of_lookup (h : tree.lookup location = some node)
    (hnot : node.isDir = false) : ¬IsDirectory (tree.lookup location) := by
  rw [h]
  rintro ⟨_, ⟨⟩⟩
  cases hnot

/-- Another node in the place of one that is not a directory. -/
theorem canUpdate_replace {found : Option (Node ι κ)} (h : tree.lookup location = some node)
    (hnot : node.isDir = false) : tree.CanUpdate location found where
  notRoot := ne_nil_of_lookup h hnot
  above := by
    intro _
    have hne := ne_nil_of_lookup h hnot
    have hsome : tree.lookup (location.dropLast ++ [location.getLast hne]) ≠ none := by
      rw [List.dropLast_append_getLast hne, h]
      simp
    exact isDirectory_parent hsome
  below := by
    intro _
    exact below_of_not_isDirectory (not_isDirectory_of_lookup h hnot)

/-- The removal of an entry with nothing below it. -/
theorem canUpdate_remove (hne : location ≠ []) (hempty : tree.children location = []) :
    tree.CanUpdate location none where
  notRoot := hne
  above := fun h => absurd rfl h
  below := fun _ => children_eq_nil.1 hempty

/-! ### Entries renamed -/

/-- An entry that is not a directory under another name of its directory. -/
theorem canUpdate_rename {source target : String}
    (h : tree.lookup (location ++ [source]) = some node) (hnot : node.isDir = false)
    (hfree : tree.lookup (location ++ [target]) = none) :
    (tree.update (location ++ [source]) none (canUpdate_replace h hnot)).CanUpdate
      (location ++ [target]) (some node) := by
  refine canUpdate_create ?_ ?_
  · rw [lookup_update, if_neg (by simp)]
    exact isDirectory_parent (by rw [h]; simp)
  · rw [lookup_update]
    split
    · rfl
    · exact hfree

def rename (tree : FileTree ι κ) (location : Location) {source target : String}
    (h : tree.lookup (location ++ [source]) = some node) (hnot : node.isDir = false)
    (hfree : tree.lookup (location ++ [target]) = none) : FileTree ι κ :=
  (tree.update (location ++ [source]) none (canUpdate_replace h hnot)).update
    (location ++ [target]) (some node) (canUpdate_rename h hnot hfree)

theorem lookup_rename {source target : String}
    (h : tree.lookup (location ++ [source]) = some node) (hnot : node.isDir = false)
    (hfree : tree.lookup (location ++ [target]) = none) (location' : Location) :
    (tree.rename location h hnot hfree).lookup location' =
      if location' = location ++ [target] then some node
      else if location' = location ++ [source] then none
      else tree.lookup location' := by
  rw [rename, lookup_update, lookup_update]

theorem canUpdate_exchange {node' : Node ι κ} (h : tree.lookup location = some node)
    (hnot : node.isDir = false) (h' : tree.lookup location' = some node')
    (hnot' : node'.isDir = false) :
    (tree.update location (some node') (canUpdate_replace h hnot)).CanUpdate location'
      (some node) := by
  have hthere : (tree.update location (some node') (canUpdate_replace h hnot)).lookup location' =
      some node' := by
    rw [lookup_update]
    split
    · rfl
    · exact h'
  exact canUpdate_replace hthere hnot'

/-- Two entries that are not directories in each other's place. -/
def exchange (tree : FileTree ι κ) {node' : Node ι κ} (h : tree.lookup location = some node)
    (hnot : node.isDir = false) (h' : tree.lookup location' = some node')
    (hnot' : node'.isDir = false) : FileTree ι κ :=
  (tree.update location (some node') (canUpdate_replace h hnot)).update location' (some node)
    (canUpdate_exchange h hnot h' hnot')

theorem lookup_exchange {node' : Node ι κ} (h : tree.lookup location = some node)
    (hnot : node.isDir = false) (h' : tree.lookup location' = some node')
    (hnot' : node'.isDir = false) (other : Location) :
    (tree.exchange h hnot h' hnot').lookup other =
      if other = location' then some node
      else if other = location then some node'
      else tree.lookup other := by
  rw [exchange, lookup_update, lookup_update]

/-! ### A directory moved -/

/-- Where an entry is after the directory at `source` has become the one at
`target`. -/
def moved (source target location : Location) : Location :=
  if source <+: location then target ++ location.drop source.length else location

/-- What a location holds after the directory at `source` has become the one
at `target`. -/
def lookupMoved (tree : FileTree ι κ) (source target location : Location) :
    Option (Node ι κ) :=
  if target <+: location then tree.lookup (source ++ location.drop target.length)
  else if source <+: location then none
  else tree.lookup location

theorem append_drop_of_isPrefix (h : location' <+: location) :
    location' ++ location.drop location'.length = location := by
  obtain ⟨rest, rfl⟩ := h
  simp

theorem lookup_moved {source target : Location} (entries : List (Location × Node ι κ))
    (hfree : ∀ entry ∈ entries, ¬target <+: entry.1) (location : Location) :
    (entries.map fun entry => (moved source target entry.1, entry.2)).lookup location =
      if target <+: location then entries.lookup (source ++ location.drop target.length)
      else if source <+: location then none
      else entries.lookup location := by
  induction entries with
  | nil =>
      simp only [List.map_nil, List.lookup_nil]
      split_ifs <;> rfl
  | cons entry entries ih =>
      obtain ⟨key, node⟩ := entry
      have hkey := hfree (key, node) (by simp)
      have hrest := ih fun entry hin => hfree entry (by simp [hin])
      rw [List.map_cons, lookup_cons_eq_ite, hrest, lookup_cons_eq_ite, lookup_cons_eq_ite]
      by_cases htarget : target <+: location
      · -- below the new place: only what was below the old one got there
        rw [if_pos htarget, if_pos htarget]
        have hiff : location = moved source target key ↔
            source ++ location.drop target.length = key := by
          unfold moved
          split
          · rename_i hsource
            constructor
            · rintro rfl
              rw [List.drop_left, append_drop_of_isPrefix hsource]
            · rintro rfl
              rw [List.drop_left, append_drop_of_isPrefix htarget]
          · rename_i hsource
            constructor
            · rintro rfl
              exact absurd htarget hkey
            · rintro rfl
              exact absurd (List.prefix_append _ _) hsource
        simp only [hiff]
      · rw [if_neg htarget, if_neg htarget]
        have hne : source <+: key → location ≠ moved source target key := by
          rintro hsource rfl
          rw [moved, if_pos hsource] at htarget
          exact htarget (List.prefix_append _ _)
        by_cases hsource : source <+: location
        · rw [if_pos hsource, if_pos hsource, if_neg]
          rintro rfl
          by_cases hold : source <+: key
          · exact hne hold rfl
          · rw [moved, if_neg hold] at hsource
            exact hold hsource
        · rw [if_neg hsource, if_neg hsource]
          by_cases hold : source <+: key
          · rw [if_neg (hne hold), if_neg]
            rintro rfl
            exact hsource hold
          · rw [moved, if_neg hold]

/-- A directory that can be moved: the new place is free, in a directory and
not below the old one. -/
structure CanMove (tree : FileTree ι κ) (source target : Location) : Prop where
  sourceNotRoot : source ≠ []
  targetNotRoot : target ≠ []
  free : tree.lookup target = none
  above : IsDirectory (tree.lookup target.dropLast)
  apart : ¬source <+: target

theorem CanMove.not_isPrefix {source target : Location} (h : tree.CanMove source target)
    (entry : Location × Node ι κ) (hin : entry ∈ tree.entries) : ¬target <+: entry.1 := by
  intro hpre
  have hsome : tree.lookup entry.1 ≠ none := mem_keys.1 (List.mem_map_of_mem hin)
  by_cases heq : target = entry.1
  · exact hsome (heq ▸ h.free)
  · obtain ⟨_, hdirectory⟩ := isDirectory_of_isPrefix hsome hpre heq
    rw [h.free] at hdirectory
    cases hdirectory

theorem not_isPrefix_nil {location : Location} (h : location ≠ []) : ¬location <+: [] :=
  fun hpre => h (List.prefix_nil.1 hpre)

def move (tree : FileTree ι κ) (source target : Location) (h : tree.CanMove source target) :
    FileTree ι κ where
  entries := tree.entries.map fun entry => (moved source target entry.1, entry.2)
  root := by
    rw [lookup_moved _ h.not_isPrefix, if_neg (not_isPrefix_nil h.targetNotRoot),
      if_neg (not_isPrefix_nil h.sourceNotRoot)]
    exact tree.root
  parent := by
    intro above name hsome
    rw [lookup_moved _ h.not_isPrefix] at hsome ⊢
    by_cases htarget : target <+: above
    · rw [if_pos (htarget.trans (List.prefix_append _ _))] at hsome
      rw [if_pos htarget]
      rw [List.drop_append_of_le_length htarget.length_le, ← List.append_assoc] at hsome
      exact tree.parent _ name hsome
    · rw [if_neg htarget]
      by_cases hself : target = above ++ [name]
      · -- the moved directory itself: what lies above it has not moved
        have habove := h.above
        rw [hself, List.dropLast_concat] at habove
        rw [if_neg]
        · exact habove
        · intro hsource
          exact h.apart (hself ▸ hsource.trans (List.prefix_append _ _))
      · have hnot : ¬target <+: above ++ [name] := by
          intro hpre
          rcases List.prefix_concat_iff.1 hpre with heq | hpre'
          · exact hself heq
          · exact htarget hpre'
        rw [if_neg hnot] at hsome
        split at hsome
        · exact absurd rfl hsome
        · rename_i hsource
          rw [if_neg fun hpre => hsource (hpre.trans (List.prefix_append _ _))]
          exact tree.parent above name hsome

theorem lookup_move {source target : Location} (h : tree.CanMove source target)
    (location : Location) :
    (tree.move source target h).lookup location = tree.lookupMoved source target location :=
  lookup_moved _ h.not_isPrefix location

/-- A directory can take another free name where it is. -/
theorem canMove_sibling {source target : String}
    (h : tree.lookup (location ++ [source]) = some node)
    (hfree : tree.lookup (location ++ [target]) = none) :
    tree.CanMove (location ++ [source]) (location ++ [target]) where
  sourceNotRoot := by simp
  targetNotRoot := by simp
  free := hfree
  above := by
    rw [List.dropLast_concat]
    exact isDirectory_parent (by rw [h]; simp)
  apart := by
    intro hpre
    rw [List.IsPrefix.eq_of_length hpre (by simp), hfree] at h
    cases h

/-! ### Trees that only lose entries -/

/-- Every entry of the second tree is one of the first, and what is missing
was allowed to go. -/
def Shrinks (allowed : Location → Node ι κ → Prop) (tree tree' : FileTree ι κ) : Prop :=
  ∀ location, tree'.lookup location = tree.lookup location ∨
    tree'.lookup location = none ∧ ∃ node, tree.lookup location = some node ∧ allowed location node

variable {allowed allowed' : Location → Node ι κ → Prop}

theorem Shrinks.refl (tree : FileTree ι κ) : tree.Shrinks allowed tree :=
  fun _ => .inl rfl

theorem Shrinks.mono (h : tree.Shrinks allowed tree')
    (himp : ∀ location node, tree.lookup location = some node → allowed location node →
      allowed' location node) : tree.Shrinks allowed' tree' := by
  intro location
  rcases h location with heq | ⟨hnone, node, hnode, hallowed⟩
  · exact .inl heq
  · exact .inr ⟨hnone, node, hnode, himp location node hnode hallowed⟩

theorem Shrinks.lookup (h : tree.Shrinks allowed tree') (hnode : tree'.lookup location = some node) :
    tree.lookup location = some node := by
  rcases h location with heq | ⟨hnone, -⟩
  · rwa [heq] at hnode
  · rw [hnone] at hnode
    cases hnode

theorem Shrinks.lookup_none (h : tree.Shrinks allowed tree') (hnone : tree.lookup location = none) :
    tree'.lookup location = none := by
  rcases h location with heq | ⟨hnone', -⟩
  · rwa [heq]
  · exact hnone'

theorem Shrinks.trans (h : tree.Shrinks allowed tree') (h' : tree'.Shrinks allowed tree'') :
    tree.Shrinks allowed tree'' := by
  intro location
  rcases h' location with heq | ⟨hnone, node, hnode, hallowed⟩
  · rw [heq]
    exact h location
  · exact .inr ⟨hnone, node, h.lookup hnode, hallowed⟩

/-- Every entry of the second tree is one of the first. -/
def Contains (tree tree' : FileTree ι κ) : Prop :=
  tree.Shrinks (fun _ _ => True) tree'

theorem Shrinks.contains (h : tree.Shrinks allowed tree') : tree.Contains tree' :=
  h.mono fun _ _ _ _ => trivial

/-- What was not allowed to go is still there. -/
theorem Shrinks.lookup_of_not (h : tree.Shrinks allowed tree')
    (hnot : ∀ node, tree.lookup location = some node → ¬allowed location node) :
    tree'.lookup location = tree.lookup location := by
  rcases h location with heq | ⟨-, node, hnode, hallowed⟩
  · exact heq
  · exact absurd hallowed (hnot node hnode)

theorem Shrinks.remove (h : tree.CanUpdate location none)
    (hallowed : ∀ node, tree.lookup location = some node → allowed location node) :
    tree.Shrinks allowed (tree.update location none h) := by
  intro location'
  rw [lookup_update]
  split
  · rename_i heq
    subst heq
    cases hfound : tree.lookup location' with
    | none => exact .inl rfl
    | some node => exact .inr ⟨rfl, node, rfl, hallowed node hfound⟩
  · exact .inl rfl

end FileTree

end Lamb.Lib
