import Mathlib.Algebra.Ring.Nat
import Mathlib.Data.List.Basic

/-!
Documents as a JSON library hands them over: strings are decoded, numbers are either
natural numbers or floating-point ones of a type `F`, and the fields of an object keep
their order. With them come the readers that are derived from the declaration of a
record, where any error is as good as another.
-/

namespace Lamb.Lib

inductive Document (F : Type)
  | null
  | bool (value : Bool)
  | num (value : ℕ)
  | float (value : F)
  | str (text : String)
  | arr (items : List (Document F))
  | obj (fields : List (String × Document F))

namespace Document

variable {F α : Type}

def ofU64 (value : UInt64) : Document F :=
  .num value.toNat

def ofU32 (value : UInt32) : Document F :=
  .num value.toNat

def ofOption (write : α → Document F) : Option α → Document F
  | some a => write a
  | none => .null

/-! ### Readers -/

def asBool : Document F → Option Bool
  | .bool value => some value
  | _ => none

def asU64 : Document F → Option UInt64
  | .num value => if value < 2 ^ 64 then some (UInt64.ofNat value) else none
  | _ => none

def asU32 : Document F → Option UInt32
  | .num value => if value < 2 ^ 32 then some (UInt32.ofNat value) else none
  | _ => none

/-- A floating-point number, which may be written without a fraction. -/
def asF64 (ofNat : ℕ → F) : Document F → Option F
  | .num value => some (ofNat value)
  | .float value => some value
  | _ => none

def asString : Document F → Option String
  | .str text => some text
  | _ => none

def asOption (read : Document F → Option α) : Document F → Option (Option α)
  | .null => some none
  | document => (read document).map some

def asArray (read : Document F → Option α) : Document F → Option (List α)
  | .arr items => items.mapM read
  | _ => none

@[simp] theorem asBool_bool (value : Bool) : asBool (.bool value : Document F) = some value :=
  rfl

@[simp] theorem asU64_ofU64 (value : UInt64) : asU64 (ofU64 value : Document F) = some value := by
  change (if value.toNat < 2 ^ 64 then some (UInt64.ofNat value.toNat) else none) = some value
  rw [if_pos value.toNat_lt, UInt64.ofNat_toNat]

@[simp] theorem asU32_ofU32 (value : UInt32) : asU32 (ofU32 value : Document F) = some value := by
  change (if value.toNat < 2 ^ 32 then some (UInt32.ofNat value.toNat) else none) = some value
  rw [if_pos value.toNat_lt, UInt32.ofNat_toNat]

@[simp] theorem asF64_float (ofNat : ℕ → F) (value : F) :
    asF64 ofNat (.float value) = some value :=
  rfl

@[simp] theorem asString_str (text : String) : asString (.str text : Document F) = some text :=
  rfl

/-- What is never written as `null` is read back from where it may be missing. -/
theorem asOption_ofOption {read : Document F → Option α} {write : α → Document F}
    (hread : ∀ a, read (write a) = some a) (hwrite : ∀ a, write a ≠ .null) (value : Option α) :
    asOption read (ofOption write value) = some value := by
  cases value with
  | none => rfl
  | some a =>
      change asOption read (write a) = some (some a)
      have hsome : asOption read (write a) = (read (write a)).map some := by
        unfold asOption
        split
        · next hnull => exact absurd hnull (hwrite a)
        · rfl
      rw [hsome, hread]
      rfl

theorem asArray_map {β : Type} {read : Document F → Option α} {write : β → Document F}
    {value : β → α} (items : List β) (hread : ∀ b ∈ items, read (write b) = some (value b)) :
    asArray read (.arr (items.map write)) = some (items.map value) := by
  change (items.map write).mapM read = some (items.map value)
  induction items with
  | nil => rfl
  | cons b items ih =>
      rw [List.map_cons, List.mapM_cons, hread b List.mem_cons_self,
        ih fun b hb => hread b (List.mem_cons_of_mem _ hb)]
      rfl

/-! ### Records -/

/-- The value of a field, which may be missing but may not come twice. -/
def single (fields : List (String × Document F)) (key : String) :
    Option (Option (Document F)) :=
  match fields.filter fun entry => entry.1 = key with
  | [] => some none
  | [(_, value)] => some (some value)
  | _ => none

/-- A field that has to be there. -/
def required (fields : List (String × Document F)) (key : String)
    (read : Document F → Option α) : Option α :=
  match single fields key with
  | some (some value) => read value
  | _ => none

/-- A field with a default. -/
def defaulted (fields : List (String × Document F)) (key : String)
    (read : Document F → Option α) (default : α) : Option α :=
  match single fields key with
  | some (some value) => read value
  | some none => some default
  | none => none

section Single

variable {fields : List (String × Document F)} {key : String} {value : Document F}
  {read : Document F → Option α}

theorem required_eq (h : single fields key = some (some value)) :
    required fields key read = read value := by
  unfold required
  rw [h]

theorem defaulted_eq {default : α} (h : single fields key = some (some value)) :
    defaulted fields key read default = read value := by
  unfold defaulted
  rw [h]

end Single

end Document

end Lamb.Lib
