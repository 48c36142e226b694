import Mathlib.Algebra.Ring.Nat
import Mathlib.Data.List.Basic

/-!
The operations of `str` that look at single characters: Unicode white space, and
letters compared without their ASCII case.
-/

namespace Lamb.Lib.Text

/-- `char::is_whitespace`, the property `White_Space`. -/
def isWhitespace (c : Char) : Bool :=
  (0x09 ≤ c.toNat && c.toNat ≤ 0x0d) || c.toNat == 0x20 || c.toNat == 0x85 || c.toNat == 0xa0 ||
    c.toNat == 0x1680 || (0x2000 ≤ c.toNat && c.toNat ≤ 0x200a) || c.toNat == 0x2028 ||
    c.toNat == 0x2029 || c.toNat == 0x202f || c.toNat == 0x205f || c.toNat == 0x3000

/-- `str::trim`. -/
def trim (text : String) : String :=
  String.ofList (((text.toList.dropWhile isWhitespace).reverse.dropWhile isWhitespace).reverse)

/-- `str::split_whitespace`. -/
def splitWhitespace (text : String) : List String :=
  ((text.toList.splitOnP isWhitespace).filter (· ≠ [])).map String.ofList

/-- `str::eq_ignore_ascii_case`. -/
def eqIgnoreAsciiCase (text other : String) : Bool :=
  text.toList.map Char.toLower == other.toList.map Char.toLower

end Lamb.Lib.Text
