import Mathlib.Data.List.Basic
import Lamb.Lib.Path

/-!
JSON documents as a tokenizer hands them over. A string is kept as it is
written between its quotes, so that a reader which borrows the text of a
string from the document can be told apart from one which decodes it. A number
is a natural number.

The text of a document is the compact one: no blanks, and a character is
escaped only if it has to be.
-/

namespace Lamb.Lib

inductive Json
  | null
  | num (value : ℕ)
  | str (token : List Char)
  | arr (items : List Json)
  | obj (fields : List (String × Json))

namespace Json

/-! ### Strings -/

/-- A character that stands for itself between quotes. -/
def Plain (c : Char) : Prop :=
  c ≠ '"' ∧ c ≠ '\\' ∧ 0x20 ≤ c.toNat

instance (c : Char) : Decidable (Plain c) :=
  inferInstanceAs (Decidable (_ ∧ _ ∧ _))

def escapeChar (c : Char) : List Char :=
  if c = '"' then ['\\', '"']
  else if c = '\\' then ['\\', '\\']
  else if c = '\x08' then ['\\', 'b']
  else if c = '\t' then ['\\', 't']
  else if c = '\n' then ['\\', 'n']
  else if c = '\x0c' then ['\\', 'f']
  else if c = '\r' then ['\\', 'r']
  else if c.toNat < 0x20 then
    ['\\', 'u', '0', '0', Nat.digitChar (c.toNat / 16), Nat.digitChar (c.toNat % 16)]
  else [c]

def escape (text : List Char) : List Char :=
  text.flatMap escapeChar

def hexValue (c : Char) : Option ℕ :=
  if '0' ≤ c ∧ c ≤ '9' then some (c.toNat - 48)
  else if 'a' ≤ c ∧ c ≤ 'f' then some (c.toNat - 87)
  else if 'A' ≤ c ∧ c ≤ 'F' then some (c.toNat - 55)
  else none

/-- The character of four hexadecimal digits. A surrogate stands for no
character by itself; that two of them stand for one is left out. -/
def hexChar (a b c d : Char) : Option Char := do
  let value := (← hexValue a) * 4096 + (← hexValue b) * 256 + (← hexValue c) * 16 + (← hexValue d)
  if 0xd800 ≤ value ∧ value < 0xe000 then none else some (Char.ofNat value)

/-- The character of an escape by one letter. -/
def shortEscape (c : Char) : Option Char :=
  if c = '"' ∨ c = '\\' ∨ c = '/' then some c
  else if c = 'b' then some '\x08'
  else if c = 't' then some '\t'
  else if c = 'n' then some '\n'
  else if c = 'f' then some '\x0c'
  else if c = 'r' then some '\r'
  else none

/-- The text a token stands for. -/
def unescape : List Char → Option (List Char)
  | [] => some []
  | '\\' :: 'u' :: a :: b :: c :: d :: token =>
      match hexChar a b c d with
      | some char => (unescape token).map (char :: ·)
      | none => none
  | '\\' :: c :: token =>
      match shortEscape c with
      | some char => (unescape token).map (char :: ·)
      | none => none
  | c :: token => if Plain c then (unescape token).map (c :: ·) else none

/-- The text of a token as a slice of the document, which needs that nothing in
it is escaped. -/
def borrow (token : List Char) : Option (List Char) :=
  if '\\' ∈ token then none else unescape token

theorem escapeChar_of_plain {c : Char} (h : Plain c) : escapeChar c = [c] := by
  obtain ⟨hquote, hslash, hbound⟩ := h
  have hne : ∀ c' : Char, c'.toNat < 0x20 → c ≠ c' := by
    rintro _ hlt rfl
    omega
  rw [escapeChar, if_neg hquote, if_neg hslash, if_neg (hne _ (by decide)),
    if_neg (hne _ (by decide)), if_neg (hne _ (by decide)), if_neg (hne _ (by decide)),
    if_neg (hne _ (by decide)), if_neg (by omega)]

theorem mem_escapeChar_of_not_plain {c : Char} (h : ¬Plain c) : '\\' ∈ escapeChar c := by
  unfold escapeChar
  by_cases hquote : c = '"'
  · simp [hquote]
  · by_cases hslash : c = '\\'
    · simp [hslash]
    · have hlt : c.toNat < 0x20 := by
        by_contra hge
        exact h ⟨hquote, hslash, by omega⟩
      rw [if_neg hquote, if_neg hslash]
      split_ifs
      all_goals exact List.mem_cons_self

theorem mem_escape_iff (text : List Char) : '\\' ∈ escape text ↔ ∃ c ∈ text, ¬Plain c := by
  rw [escape, List.mem_flatMap]
  constructor
  · rintro ⟨c, hmem, hslash⟩
    refine ⟨c, hmem, fun hplain => ?_⟩
    rw [escapeChar_of_plain hplain, List.mem_singleton] at hslash
    exact hplain.2.1 hslash.symm
  · rintro ⟨c, hmem, hnot⟩
    exact ⟨c, hmem, mem_escapeChar_of_not_plain hnot⟩

/-! ### Escaping and back -/

theorem hexChar_control : ∀ value < 0x20,
    hexChar '0' '0' (Nat.digitChar (value / 16)) (Nat.digitChar (value % 16)) =
      some (Char.ofNat value) := by
  decide

theorem unescape_plain {c : Char} (h : Plain c) (token : List Char) :
    unescape (c :: token) = (unescape token).map (c :: ·) := by
  rw [unescape, if_pos h]
  · rintro a b c d token rfl
    exact absurd rfl h.2.1
  · rintro c token rfl
    exact absurd rfl h.2.1

theorem unescape_short {c char : Char} (h : shortEscape c = some char) (token : List Char) :
    unescape ('\\' :: c :: token) = (unescape token).map (char :: ·) := by
  rw [unescape]
  · rw [h]
  · rintro a b c d token rfl
    cases h

theorem unescape_escapeChar (c : Char) (token : List Char) :
    unescape (escapeChar c ++ token) = (unescape token).map (c :: ·) := by
  by_cases hplain : Plain c
  · rw [escapeChar_of_plain hplain]
    exact unescape_plain hplain token
  · by_cases hquote : c = '"'
    · subst hquote
      exact unescape_short rfl token
    · by_cases hslash : c = '\\'
      · subst hslash
        exact unescape_short rfl token
      · have hlt : c.toNat < 0x20 := by
          by_contra hge
          exact hplain ⟨hquote, hslash, by omega⟩
        -- five of the control characters have an escape by one letter
        rw [escapeChar, if_neg hquote, if_neg hslash]
        split_ifs with hb ht hn hf hr
        · subst hb
          exact unescape_short rfl token
        · subst ht
          exact unescape_short rfl token
        · subst hn
          exact unescape_short rfl token
        · subst hf
          exact unescape_short rfl token
        · subst hr
          exact unescape_short rfl token
        · simp only [List.cons_append, List.nil_append, unescape, hexChar_control c.toNat hlt,
            Char.ofNat_toNat]

theorem unescape_escape (text : List Char) : unescape (escape text) = some text := by
  induction text with
  | nil => rfl
  | cons c text ih =>
      have hcons : escape (c :: text) = escapeChar c ++ escape text := List.flatMap_cons
      rw [hcons, unescape_escapeChar, ih, Option.map_some]

theorem borrow_escape (text : List Char) [Decidable (∃ c ∈ text, ¬Plain c)] :
    borrow (escape text) = if ∃ c ∈ text, ¬Plain c then none else some text := by
  rw [borrow, unescape_escape]
  exact if_congr (mem_escape_iff text) rfl rfl

/-! ### The text of a document -/

/-- The document of a string. -/
def ofString (text : String) : Json :=
  .str (escape text.toList)

def quoted (token : List Char) : List Char :=
  '"' :: token ++ ['"']

mutual

def text : Json → List Char
  | .null => ['n', 'u', 'l', 'l']
  | .num value => Nat.toDigits 10 value
  | .str token => quoted token
  | .arr items => '[' :: itemsText items ++ [']']
  | .obj fields => '{' :: fieldsText fields ++ ['}']

def itemsText : List Json → List Char
  | [] => []
  | [item] => item.text
  | item :: items => item.text ++ ',' :: itemsText items

def fieldsText : List (String × Json) → List Char
  | [] => []
  | [(key, value)] => quoted (escape key.toList) ++ ':' :: value.text
  | (key, value) :: fields =>
      quoted (escape key.toList) ++ ':' :: value.text ++ ',' :: fieldsText fields

end

/-- The length of the text in UTF-8. -/
@[irreducible] def byteLength (json : Json) : ℕ :=
  (json.text.map Char.utf8Size).sum

/-! ### Reading -/

/-- A number of a type with `bits` bits. -/
def asUnsigned (bits : ℕ) : Json → Option ℕ
  | .num value => if value < 2 ^ bits then some value else none
  | _ => none

/-- A string that the reader decodes. -/
def asString : Json → Option String
  | .str token => (unescape token).map String.ofList
  | _ => none

/-- A string that the reader borrows from the document. -/
def asBorrowed : Json → Option String
  | .str token => (borrow token).map String.ofList
  | _ => none

/-- What may be `null`. -/
def asOption {α : Type} (read : Json → Option α) : Json → Option (Option α)
  | .null => some none
  | json => (read json).map some

/-- The field of that name, which may not come twice. -/
def field (fields : List (String × Json)) (key : String) : Option Json :=
  match fields.filter fun entry => entry.1 = key with
  | [(_, value)] => some value
  | _ => none

theorem asUnsigned_num {bits value : ℕ} (h : value < 2 ^ bits) :
    asUnsigned bits (.num value) = some value :=
  if_pos h

@[simp] theorem asString_ofString (text : String) : (ofString text).asString = some text := by
  simp [ofString, asString, unescape_escape]

theorem asBorrowed_ofString (text : String) [Decidable (∃ c ∈ text.toList, ¬Plain c)] :
    (ofString text).asBorrowed =
      if ∃ c ∈ text.toList, ¬Plain c then none else some text := by
  rw [ofString, asBorrowed, borrow_escape]
  split
  · rfl
  · simp

theorem text_ne_nil (json : Json) : json.text ≠ [] := by
  cases json with
  | null => simp [text]
  | num value =>
      rw [text]
      exact Nat.toDigits_ne_nil
  | str token => simp [text, quoted]
  | arr items => simp [text]
  | obj fields => simp [text]

theorem byteLength_pos (json : Json) : 0 < json.byteLength := by
  obtain ⟨c, rest, hcons⟩ := List.exists_cons_of_ne_nil json.text_ne_nil
  rw [byteLength, hcons, List.map_cons, List.sum_cons]
  exact Nat.add_pos_left c.utf8Size_pos _

/-! ### How long the text gets -/

theorem utf8Size_digitChar : ∀ value < 16, (Nat.digitChar value).utf8Size = 1 := by
  decide

/-- Escaping makes at most six bytes of one. -/
theorem byteLength_escapeChar_le (c : Char) :
    Path.byteLength (escapeChar c) ≤ 6 * c.utf8Size := by
  have hpos := c.utf8Size_pos
  have hpair : ∀ c' : Char, c'.utf8Size = 1 → Path.byteLength ['\\', c'] ≤ 6 * c.utf8Size := by
    intro c' hc'
    have hslash : ('\\' : Char).utf8Size = 1 := rfl
    simp only [Path.byteLength, List.map_cons, List.map_nil, List.sum_cons, List.sum_nil, hc',
      hslash]
    omega
  unfold escapeChar
  split_ifs with _ _ _ _ _ _ _ hcontrol
  · exact hpair _ rfl
  · exact hpair _ rfl
  · exact hpair _ rfl
  · exact hpair _ rfl
  · exact hpair _ rfl
  · exact hpair _ rfl
  · exact hpair _ rfl
  · have hhigh := utf8Size_digitChar (c.toNat / 16) (by omega)
    have hlow := utf8Size_digitChar (c.toNat % 16) (by omega)
    have hrest : Path.byteLength ['\\', 'u', '0', '0'] = 4 := rfl
    have hsplit : ['\\', 'u', '0', '0', Nat.digitChar (c.toNat / 16),
        Nat.digitChar (c.toNat % 16)] = ['\\', 'u', '0', '0'] ++
          [Nat.digitChar (c.toNat / 16), Nat.digitChar (c.toNat % 16)] := rfl
    rw [hsplit, Path.byteLength_append, hrest]
    simp only [Path.byteLength, List.map_cons, List.map_nil, List.sum_cons, List.sum_nil, hhigh,
      hlow]
    omega
  · simp only [Path.byteLength, List.map_cons, List.map_nil, List.sum_cons, List.sum_nil]
    omega

theorem byteLength_escape_le (text : List Char) :
    Path.byteLength (escape text) ≤ 6 * Path.byteLength text := by
  induction text with
  | nil => exact Nat.le_refl 0
  | cons c text ih =>
      have hcons : escape (c :: text) = escapeChar c ++ escape text := List.flatMap_cons
      have hhead := byteLength_escapeChar_le c
      rw [hcons, Path.byteLength_append, Path.byteLength_cons]
      omega

theorem byteLength_quoted (token : List Char) :
    Path.byteLength (quoted token) = Path.byteLength token + 2 := by
  have hquote : Path.byteLength ['"'] = 1 := rfl
  have hsplit : quoted token = ['"'] ++ token ++ ['"'] := rfl
  rw [hsplit, Path.byteLength_append, Path.byteLength_append, hquote]
  omega

theorem byteLength_eq (json : Json) : json.byteLength = Path.byteLength json.text := by
  rw [byteLength, Path.byteLength]

theorem byteLength_ofString_le (text : String) :
    (ofString text).byteLength ≤ 6 * text.utf8ByteSize + 2 := by
  have hescape := byteLength_escape_le text.toList
  rw [Path.byteLength_toList] at hescape
  rw [byteLength_eq, ofString, Json.text, byteLength_quoted]
  omega

/-- A number below a power of ten has as many digits at most. -/
theorem byteLength_num_le {value digits : ℕ} (hdigits : 0 < digits) (h : value < 10 ^ digits) :
    (num value).byteLength ≤ digits := by
  rw [byteLength_eq, Json.text, Path.byteLength_of_ascii fun c hc => ?_]
  · exact (Nat.length_toDigits_le_iff (by decide) hdigits).mpr h
  · exact Path.utf8Size_of_isDigit (Nat.isDigit_of_mem_toDigits (by decide) (by decide) hc)

theorem byteLength_itemsText_le (items : List Json) :
    Path.byteLength (itemsText items) ≤ (items.map fun item => item.byteLength + 1).sum := by
  induction items with
  | nil => exact Nat.le_refl 0
  | cons item items ih =>
      cases items with
      | nil =>
          rw [itemsText, ← byteLength_eq]
          simp
      | cons next items =>
          have hcomma : Char.utf8Size ',' = 1 := rfl
          rw [itemsText, Path.byteLength_append, Path.byteLength_cons, ← byteLength_eq, hcomma,
            List.map_cons, List.sum_cons]
          · omega
          · simp

/-- The length of a key between its quotes. -/
def keyLength (key : String) : ℕ :=
  Path.byteLength (quoted (escape key.toList))

theorem byteLength_field (key : String) (value : Json) :
    Path.byteLength (quoted (escape key.toList) ++ ':' :: value.text) =
      keyLength key + value.byteLength + 1 := by
  have hcolon : Char.utf8Size ':' = 1 := rfl
  rw [Path.byteLength_append, Path.byteLength_cons, ← byteLength_eq, hcolon, keyLength]
  omega

theorem byteLength_fieldsText_le (fields : List (String × Json)) :
    Path.byteLength (fieldsText fields) ≤
      (fields.map fun entry => keyLength entry.1 + entry.2.byteLength + 2).sum := by
  induction fields with
  | nil => exact Nat.le_refl 0
  | cons entry fields ih =>
      obtain ⟨key, value⟩ := entry
      cases fields with
      | nil =>
          rw [fieldsText, byteLength_field]
          simp
      | cons next fields =>
          have hcomma : Char.utf8Size ',' = 1 := rfl
          rw [fieldsText, Path.byteLength_append, byteLength_field, Path.byteLength_cons, hcomma,
            List.map_cons, List.sum_cons]
          · dsimp only
            omega
          · simp

theorem byteLength_arr_le (items : List Json) :
    (arr items).byteLength ≤ 2 + (items.map fun item => item.byteLength + 1).sum := by
  have hitems := byteLength_itemsText_le items
  have hopen : Char.utf8Size '[' = 1 := rfl
  have hclose : Path.byteLength [']'] = 1 := rfl
  rw [byteLength_eq, Json.text, Path.byteLength_append, Path.byteLength_cons, hopen, hclose]
  omega

theorem byteLength_obj_le (fields : List (String × Json)) :
    (obj fields).byteLength ≤
      2 + (fields.map fun entry => keyLength entry.1 + entry.2.byteLength + 2).sum := by
  have hfields := byteLength_fieldsText_le fields
  have hopen : Char.utf8Size '\x7b' = 1 := rfl
  have hclose : Path.byteLength ['\x7d'] = 1 := rfl
  rw [byteLength_eq, Json.text, Path.byteLength_append, Path.byteLength_cons, hopen, hclose]
  omega

end Json

end Lamb.Lib
