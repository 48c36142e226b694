import Mathlib.Algebra.Ring.Nat
import Mathlib.Data.List.Basic

/-!
Paths as `std::path` reads them. A path is compared, split and extended by its
components, so a text and its components are kept apart: two texts that differ
only in repeated separators or interior `.` name the same path.
-/

namespace Lamb.Lib

inductive Component
  | curDir
  | parentDir
  | normal (name : String)
  deriving DecidableEq, Repr

structure Path where
  rooted : Bool
  parts : List Component
  deriving DecidableEq, Repr

namespace Path

/-- What one piece between two separators contributes. -/
def piece (chars : List Char) : Option Component :=
  if chars = [] ∨ chars = ['.'] then none
  else if chars = ['.', '.'] then some .parentDir
  else some (.normal (String.ofList chars))

/-- `Path::new`. A leading `.` is a component of a relative path; any other
`.` and every empty piece is dropped. -/
def ofText (text : String) : Path :=
  match text.toList with
  | '/' :: rest => ⟨true, (rest.splitOn '/').filterMap piece⟩
  | chars =>
      match chars.splitOn '/' with
      | ['.'] :: pieces => ⟨false, .curDir :: pieces.filterMap piece⟩
      | pieces => ⟨false, pieces.filterMap piece⟩

/-- One component as it is printed. -/
def text : Component → String
  | .curDir => "."
  | .parentDir => ".."
  | .normal name => name

def display (path : Path) : String :=
  (if path.rooted then "/" else "") ++ "/".intercalate (path.parts.map text)

def parent (path : Path) : Option Path :=
  if path.parts = [] then none else some { path with parts := path.parts.dropLast }

def fileName (path : Path) : Option String :=
  match path.parts.getLast? with
  | some (.normal name) => some name
  | _ => none

/-- `Path::join` with one file name. -/
def join (path : Path) (name : String) : Path :=
  { path with parts := path.parts ++ [.normal name] }

/-- `Path::with_file_name` with one file name. -/
def withFileName (path : Path) (name : String) : Path :=
  if path.fileName.isSome then { path with parts := path.parts.dropLast ++ [.normal name] }
  else path.join name

/-- `Path::strip_prefix`: the components of `path` below `base`. -/
def stripPrefix (path base : Path) : Option (List Component) :=
  if path.rooted = base.rooted ∧ base.parts <+: path.parts then
    some (path.parts.drop base.parts.length)
  else none

def startsWith (path base : Path) : Bool :=
  (path.stripPrefix base).isSome

/-- The nonempty prefixes of a path, shortest first. -/
def prefixes (path : Path) : List Path :=
  let prefixes := (List.range (path.parts.length + 1)).map fun n =>
    { path with parts := path.parts.take n }
  if path.rooted then prefixes else prefixes.tail

/-! ### Absolute paths of plain names -/

def absolute (names : List String) : Path :=
  ⟨true, names.map .normal⟩

/-- A text that is one component and spelled as one. -/
def IsName (name : String) : Prop :=
  name ≠ "" ∧ name ≠ "." ∧ name ≠ ".." ∧ '/' ∉ name.toList

instance (name : String) : Decidable (IsName name) :=
  inferInstanceAs (Decidable (_ ∧ _ ∧ _ ∧ _))

/-- The one text of an absolute path without repeated separators. -/
def renderChars (names : List String) : List Char :=
  if names = [] then ['/'] else names.flatMap fun name => '/' :: name.toList

def render (names : List String) : String :=
  String.ofList (renderChars names)

theorem absolute_injective {names names' : List String} (h : absolute names = absolute names') :
    names = names' := by
  simp only [absolute, Path.mk.injEq, true_and] at h
  exact List.map_injective_iff.2 (fun _ _ => Component.normal.inj) h

theorem absolute_append (names : List String) (name : String) :
    absolute (names ++ [name]) = (absolute names).join name := by
  simp [absolute, join]

theorem parent_absolute_append (names : List String) (name : String) :
    (absolute (names ++ [name])).parent = some (absolute names) := by
  simp [absolute, parent]

theorem fileName_absolute_append (names : List String) (name : String) :
    (absolute (names ++ [name])).fileName = some name := by
  simp [absolute, fileName]

theorem withFileName_absolute_append (names : List String) (name name' : String) :
    (absolute (names ++ [name])).withFileName name' = absolute (names ++ [name']) := by
  unfold withFileName
  rw [fileName_absolute_append]
  simp [absolute]

theorem stripPrefix_absolute {names base : List String} (h : base <+: names) :
    (absolute names).stripPrefix (absolute base) =
      some ((names.drop base.length).map .normal) := by
  have hpre : base.map Component.normal <+: names.map .normal := h.map _
  simp [absolute, stripPrefix, hpre, List.map_drop]

theorem isPrefix_of_stripPrefix {names base : List String} {relative : List Component}
    (h : (absolute names).stripPrefix (absolute base) = some relative) : base <+: names := by
  simp only [stripPrefix, absolute, true_and] at h
  split at h
  · rename_i hpre
    obtain ⟨rest, hrest⟩ := hpre
    obtain ⟨front, back, rfl, hfront, -⟩ := List.map_eq_append_iff.1 hrest.symm
    have : front = base := List.map_injective_iff.2 (fun _ _ => Component.normal.inj) hfront
    exact ⟨back, by rw [this]⟩
  · cases h

theorem startsWith_absolute {names base : List String} :
    (absolute names).startsWith (absolute base) = true ↔ base <+: names := by
  constructor
  · intro h
    obtain ⟨relative, hrelative⟩ := Option.isSome_iff_exists.1 h
    exact isPrefix_of_stripPrefix hrelative
  · intro h
    rw [startsWith, stripPrefix_absolute h]
    rfl

/-! ### Texts -/

theorem piece_toList {name : String} (h : IsName name) :
    piece name.toList = some (.normal name) := by
  obtain ⟨hempty, hdot, hdots, -⟩ := h
  have hne (text : String) (hname : name ≠ text) : name.toList ≠ text.toList :=
    fun htext => hname (String.toList_inj.1 htext)
  unfold piece
  rw [if_neg, if_neg, String.ofList_toList]
  · exact hne ".." hdots
  · rintro (hnil | hnil)
    · exact hne "" hempty hnil
    · exact hne "." hdot hnil

theorem splitOn_renderChars {name : String} {names : List String} (hname : IsName name)
    (hnames : ∀ name ∈ names, IsName name) :
    (name.toList ++ names.flatMap fun name => '/' :: name.toList).splitOn '/' =
      (name :: names).map String.toList := by
  induction names generalizing name with
  | nil =>
      simp only [List.flatMap_nil, List.append_nil, List.map_cons, List.map_nil]
      refine List.splitOnP_eq_singleton ?_
      intro c hc
      simp only [beq_eq_false_iff_ne]
      rintro rfl
      exact hname.2.2.2 hc
  | cons next names ih =>
      have hsplit := ih (hnames next (by simp)) fun name hin => hnames name (by simp [hin])
      rw [List.flatMap_cons, List.cons_append, List.splitOn,
        List.splitOnP_append_cons_of_forall_mem]
      · rw [← List.splitOn, hsplit]
        rfl
      · intro c hc
        simp only [beq_eq_false_iff_ne]
        rintro rfl
        exact hname.2.2.2 hc
      · simp

/-- A rendered path reads back as the names it was made of. -/
theorem ofText_render {names : List String} (hnames : ∀ name ∈ names, IsName name) :
    ofText (render names) = absolute names := by
  cases names with
  | nil => rfl
  | cons name names =>
      have hname := hnames name (by simp)
      have hrest : ∀ name ∈ names, IsName name := fun name hin => hnames name (by simp [hin])
      simp only [ofText, render, renderChars, String.toList_ofList, reduceCtorEq, if_false,
        List.flatMap_cons, List.cons_append]
      rw [splitOn_renderChars hname hrest]
      simp only [absolute, Path.mk.injEq, true_and, List.filterMap_map]
      refine List.filterMap_eq_map_iff_forall_eq_some.2 ?_
      intro name' hin
      exact piece_toList (hnames name' hin)

theorem splitOn_append_separator (front tail : List Char) :
    (front ++ '/' :: tail).splitOn '/' = front.splitOn '/' ++ tail.splitOn '/' :=
  List.splitOn_append_cons_of_beq front tail (by simp)

/-- The components that the pieces of a relative text stand for. -/
def readPieces : List (List Char) → List Component
  | ['.'] :: pieces => .curDir :: pieces.filterMap piece
  | pieces => pieces.filterMap piece

theorem readPieces_append {front : List (List Char)} (hne : front ≠ []) (back : List (List Char)) :
    readPieces (front ++ back) = readPieces front ++ back.filterMap piece := by
  obtain ⟨head, pieces, rfl⟩ := List.exists_cons_of_ne_nil hne
  by_cases hdot : head = ['.']
  · subst hdot
    simp [readPieces]
  · rw [List.cons_append, readPieces.eq_2, readPieces.eq_2, ← List.cons_append,
      List.filterMap_append]
    · exact fun pieces heq => hdot (List.cons.inj heq).1
    · exact fun pieces heq => hdot (List.cons.inj heq).1

theorem ofText_of_head_ne {c : Char} {chars : List Char} (hc : c ≠ '/') :
    ofText (String.ofList (c :: chars)) = ⟨false, readPieces ((c :: chars).splitOn '/')⟩ := by
  unfold ofText readPieces
  rw [String.toList_ofList]
  split
  · next heq => exact absurd (List.cons.inj heq).1 hc
  · split
    · rfl
    · rfl

/-- What follows a separator is read on its own. -/
theorem ofText_append_separator (front tail : List Char) :
    ofText (String.ofList (front ++ '/' :: tail)) =
      { ofText (String.ofList (front ++ ['/'])) with
        parts := (ofText (String.ofList (front ++ ['/']))).parts ++
          (tail.splitOn '/').filterMap piece } := by
  have hempty : (([] : List Char).splitOn '/').filterMap piece = [] := rfl
  cases front with
  | nil =>
      simp only [ofText, List.nil_append, String.toList_ofList]
      rw [hempty, List.nil_append]
  | cons c front =>
      by_cases hc : c = '/'
      · subst hc
        simp only [ofText, List.cons_append, String.toList_ofList]
        rw [splitOn_append_separator, splitOn_append_separator, List.filterMap_append,
          List.filterMap_append, hempty, List.append_nil]
      · rw [List.cons_append, List.cons_append, ofText_of_head_ne hc, ofText_of_head_ne hc,
          ← List.cons_append, ← List.cons_append, splitOn_append_separator,
          splitOn_append_separator, readPieces_append (List.splitOn_ne_nil _ _),
          readPieces_append (List.splitOn_ne_nil _ _), hempty, List.append_nil]

/-- A separator at the end of a text is not read. -/
theorem ofText_append_singleton {front : List Char} (hne : front ≠ []) :
    ofText (String.ofList (front ++ ['/'])) = ofText (String.ofList front) := by
  have hempty : (([] : List Char).splitOn '/').filterMap piece = [] := rfl
  obtain ⟨c, front, rfl⟩ := List.exists_cons_of_ne_nil hne
  by_cases hc : c = '/'
  · subst hc
    simp only [ofText, List.cons_append, String.toList_ofList]
    rw [splitOn_append_separator, List.filterMap_append, hempty, List.append_nil]
  · rw [List.cons_append, ofText_of_head_ne hc, ofText_of_head_ne hc, ← List.cons_append,
      splitOn_append_separator, readPieces_append (List.splitOn_ne_nil _ _), hempty,
      List.append_nil]

/-- A plain name behind a separator is one more component. -/
theorem ofText_append_name (front : List Char) {name : String} (hname : IsName name) :
    ofText (String.ofList (front ++ '/' :: name.toList)) =
      (ofText (String.ofList (front ++ ['/']))).join name := by
  have hsplit : name.toList.splitOn '/' = [name.toList] := by
    refine List.splitOnP_eq_singleton fun c hc => ?_
    simp only [beq_eq_false_iff_ne]
    rintro rfl
    exact hname.2.2.2 hc
  rw [ofText_append_separator, hsplit, List.filterMap_cons, piece_toList hname]
  rfl

theorem cons_intercalate_eq_flatMap {pieces : List (List Char)} (h : pieces ≠ []) :
    '/' :: ['/'].intercalate pieces = pieces.flatMap ('/' :: ·) := by
  induction pieces with
  | nil => exact absurd rfl h
  | cons piece rest ih =>
      cases rest with
      | nil => simp
      | cons next rest =>
          rw [List.intercalate_cons_cons, List.flatMap_cons, ← ih (by simp)]
          simp

theorem cons_intercalate_eq_renderChars (names : List String) :
    '/' :: ['/'].intercalate (names.map String.toList) = renderChars names := by
  unfold renderChars
  split
  next hnil => rw [hnil]; rfl
  next hne =>
    rw [cons_intercalate_eq_flatMap (by simpa using hne), List.flatMap_map]

theorem display_absolute (names : List String) : display (absolute names) = render names := by
  have htext : (absolute names).parts.map text = names := by
    simp [absolute, List.map_map, Function.comp_def, text]
  rw [← String.toList_inj, display, htext, String.toList_append, String.toList_intercalate, render,
    String.toList_ofList, ← cons_intercalate_eq_renderChars]
  simp [absolute]

/-! ### Byte offsets -/

def byteLength (chars : List Char) : ℕ :=
  (chars.map Char.utf8Size).sum

/-- A text cut after `n` bytes, when `n` lies on a character boundary. -/
def splitBytes : List Char → ℕ → Option (List Char × List Char)
  | chars, 0 => some ([], chars)
  | [], _ + 1 => none
  | c :: chars, n + 1 =>
      if c.utf8Size ≤ n + 1 then
        (splitBytes chars (n + 1 - c.utf8Size)).map fun (front, back) => (c :: front, back)
      else none

/-- `text.get(..n)`. -/
def takeBytes (chars : List Char) (n : ℕ) : Option (List Char) :=
  (splitBytes chars n).map Prod.fst

/-- `text.get(n..)`. -/
def dropBytes (chars : List Char) (n : ℕ) : Option (List Char) :=
  (splitBytes chars n).map Prod.snd

theorem byteLength_append (front back : List Char) :
    byteLength (front ++ back) = byteLength front + byteLength back := by
  simp [byteLength]

theorem byteLength_cons (c : Char) (chars : List Char) :
    byteLength (c :: chars) = c.utf8Size + byteLength chars := by
  simp [byteLength]

theorem utf8Size_of_isDigit {c : Char} (h : c.isDigit = true) : c.utf8Size = 1 := by
  rw [Char.utf8Size_eq_one_iff]
  simp only [Char.isDigit, Bool.and_eq_true, decide_eq_true_eq, UInt32.le_iff_toNat_le] at h ⊢
  exact Nat.le_trans h.2 (by decide)

theorem byteLength_of_ascii {chars : List Char} (h : ∀ c ∈ chars, c.utf8Size = 1) :
    byteLength chars = chars.length := by
  induction chars with
  | nil => rfl
  | cons c chars ih =>
      rw [byteLength_cons, ih fun c hc => h c (List.mem_cons_of_mem _ hc),
        h c List.mem_cons_self, List.length_cons, Nat.add_comm]

theorem utf8ByteSize_ofList (chars : List Char) :
    (String.ofList chars).utf8ByteSize = byteLength chars := by
  induction chars with
  | nil => rfl
  | cons c chars ih =>
      have hsplit : String.ofList (c :: chars) = String.ofList [c] ++ String.ofList chars := by
        rw [← String.ofList_append]
        rfl
      have hone : (String.ofList [c]).utf8ByteSize = c.utf8Size := by
        rw [← String.singleton_eq_ofList, String.utf8ByteSize_singleton]
      rw [hsplit, String.utf8ByteSize_append, ih, hone, byteLength_cons]

theorem byteLength_toList (text : String) : byteLength text.toList = text.utf8ByteSize := by
  rw [← utf8ByteSize_ofList, String.ofList_toList]

theorem splitBytes_append (front back : List Char) :
    splitBytes (front ++ back) (byteLength front) = some (front, back) := by
  induction front with
  | nil => simp [byteLength, splitBytes]
  | cons c front ih =>
      have hpos := c.utf8Size_pos
      obtain ⟨n, hn⟩ : ∃ n, c.utf8Size + byteLength front = n + 1 :=
        ⟨c.utf8Size + byteLength front - 1, by omega⟩
      have hrest : n + 1 - c.utf8Size = byteLength front := by omega
      rw [byteLength_cons, hn, List.cons_append, splitBytes, if_pos (by omega), hrest, ih]
      rfl

theorem takeBytes_append (front back : List Char) :
    takeBytes (front ++ back) (byteLength front) = some front := by
  rw [takeBytes, splitBytes_append]
  rfl

theorem dropBytes_append (front back : List Char) :
    dropBytes (front ++ back) (byteLength front) = some back := by
  rw [dropBytes, splitBytes_append]
  rfl

theorem renderChars_append {names : List String} (hnames : names ≠ []) (more : List String) :
    renderChars (names ++ more) =
      renderChars names ++ more.flatMap fun name => '/' :: name.toList := by
  simp [renderChars, hnames]

end Path

end Lamb.Lib
