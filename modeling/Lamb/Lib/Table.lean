import Mathlib.Data.List.AList

/-!
Tables that are kept in the order of their keys. `put` is the assignment of a
`BTreeMap`: the entry of a key that is there goes, and the new one is placed
before the first larger key.
-/

namespace Lamb.Lib.Table

variable {ι : Type} {β : ι → Type}

section Place

variable [LT ι] [DecidableRel fun first second : ι => first < second]

def place (entry : Sigma β) : List (Sigma β) → List (Sigma β)
  | [] => [entry]
  | head :: rest => if entry.1 < head.1 then entry :: head :: rest else head :: place entry rest

theorem place_perm (entry : Sigma β) (entries : List (Sigma β)) :
    (place entry entries).Perm (entry :: entries) := by
  induction entries with
  | nil => exact .refl _
  | cons head rest ih =>
      unfold place
      split
      · exact .refl _
      · exact (ih.cons head).trans (.swap _ _ _)

end Place

section Put

variable [DecidableEq ι] [LT ι] [DecidableRel fun first second : ι => first < second]

def put (table : AList β) (key : ι) (value : β key) : AList β where
  entries := place ⟨key, value⟩ (table.erase key).entries
  nodupKeys :=
    (List.perm_nodupKeys (place_perm _ _)).mpr (table.insert key value).nodupKeys

theorem mem_put {table : AList β} {key : ι} {value : β key} {entry : Sigma β} :
    entry ∈ (put table key value).entries ↔
      entry = ⟨key, value⟩ ∨ entry ∈ (table.erase key).entries :=
  (place_perm _ _).mem_iff.trans List.mem_cons

theorem lookup_put (table : AList β) (key : ι) (value : β key) (key' : ι) :
    (put table key value).lookup key' = (table.insert key value).lookup key' :=
  AList.perm_lookup (place_perm _ _)

@[simp] theorem lookup_put_self (table : AList β) (key : ι) (value : β key) :
    (put table key value).lookup key = some value :=
  (lookup_put table key value key).trans (AList.lookup_insert table)

theorem lookup_put_of_ne {key key' : ι} (table : AList β) (value : β key) (h : key' ≠ key) :
    (put table key value).lookup key' = table.lookup key' :=
  (lookup_put table key value key').trans (AList.lookup_insert_ne h)

end Put

end Lamb.Lib.Table
