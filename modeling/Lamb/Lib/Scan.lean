import Lamb.Lib.Path

/-!
Scanning a text by byte positions. A slice whose bounds do not lie on character
boundaries is a panic, which is `none` here; a search answers the position of the
first byte of the character it finds.
-/

namespace Lamb.Lib.Path

/-- `&text[start..stop]`. -/
def sliceBytes (chars : List Char) (start stop : ℕ) : Option (List Char) :=
  if start ≤ stop then (dropBytes chars start).bind fun rest => takeBytes rest (stop - start)
  else none

/-- `text.as_bytes()[index]`. -/
def byteAt (chars : List Char) (index : ℕ) : Option UInt8 :=
  (chars.flatMap String.utf8EncodeChar)[index]?

/-- `text.find(p)`. -/
def findByte (p : Char → Bool) : List Char → Option ℕ
  | [] => none
  | c :: chars => if p c then some 0 else (findByte p chars).map (c.utf8Size + ·)

/-- The pieces of a text up to its last component. -/
def dropBlank (pieces : List (List Char)) : List (List Char) :=
  (pieces.reverse.dropWhile fun piece => piece = [] ∨ piece = ['.']).reverse

/-- The text of `Path::parent`. It is cut before its last component and the blank
pieces that then end it are dropped; blank pieces further in front stay. -/
def parentChars (chars : List Char) : Option (List Char) :=
  match chars.splitOn '/' with
  | [] => none
  | first :: rest =>
      if dropBlank rest = [] then if first = [] then none else some []
      else
        let front := dropBlank (dropBlank rest).dropLast
        some (if first = [] ∧ front = [] then ['/'] else ['/'].intercalate (first :: front))

variable {p : Char → Bool}

theorem byteLength_pos {chars : List Char} : 0 < byteLength chars ↔ chars ≠ [] := by
  cases chars with
  | nil => simp [byteLength]
  | cons c chars =>
      have hpos := c.utf8Size_pos
      rw [byteLength_cons]
      simp only [ne_eq, reduceCtorEq, not_false_eq_true, iff_true]
      omega

theorem sliceBytes_append (front middle back : List Char) :
    sliceBytes (front ++ middle ++ back) (byteLength front) (byteLength front + byteLength middle) =
      some middle := by
  rw [sliceBytes, if_pos (Nat.le_add_right _ _), List.append_assoc, dropBytes_append,
    Option.bind_some, Nat.add_sub_cancel_left, takeBytes_append]

theorem length_flatMap_utf8EncodeChar (chars : List Char) :
    (chars.flatMap String.utf8EncodeChar).length = byteLength chars := by
  simp [List.length_flatMap, byteLength]

theorem byteAt_append (front back : List Char) (c : Char) :
    byteAt (front ++ c :: back) (byteLength front) = (String.utf8EncodeChar c)[0]? := by
  have hpos := c.utf8Size_pos
  rw [byteAt, List.flatMap_append, ← length_flatMap_utf8EncodeChar,
    List.getElem?_append_right (Nat.le_refl _), Nat.sub_self, List.flatMap_cons,
    List.getElem?_append_left (by rw [String.length_utf8EncodeChar]; exact hpos)]

theorem findByte_eq_none {chars : List Char} (h : findByte p chars = none) :
    ∀ c ∈ chars, p c = false := by
  induction chars with
  | nil => simp
  | cons c chars ih =>
      unfold findByte at h
      split at h
      · cases h
      next hc =>
        rw [List.forall_mem_cons]
        exact ⟨by simpa using hc, ih (by simpa using h)⟩

theorem findByte_eq_some {chars : List Char} {position : ℕ} (h : findByte p chars = some position) :
    ∃ front c back, chars = front ++ c :: back ∧ position = byteLength front ∧ p c = true ∧
      ∀ d ∈ front, p d = false := by
  induction chars generalizing position with
  | nil => cases h
  | cons c chars ih =>
      unfold findByte at h
      split at h
      next hc =>
        cases h
        exact ⟨[], c, chars, rfl, rfl, hc, by simp⟩
      next hc =>
        obtain ⟨rest, hrest, rfl⟩ := Option.map_eq_some_iff.mp h
        obtain ⟨front, d, back, rfl, rfl, hd, hfront⟩ := ih hrest
        refine ⟨c :: front, d, back, rfl, (byteLength_cons c front).symm, hd, ?_⟩
        rw [List.forall_mem_cons]
        exact ⟨by simpa using hc, hfront⟩

end Lamb.Lib.Path
