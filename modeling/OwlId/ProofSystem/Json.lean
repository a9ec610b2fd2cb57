import Mathlib

/-! # JSON values

The value type of the JSON library and the accessors the credential code uses.
An object is a list of fields sorted by name, which is how the library keeps it:
`insertField` puts a field in its place and replaces an earlier one of that name,
so every object built here has one spelling.
-/

namespace OwlId.ProofSystem

/-- A number keeps the form it was read in: `u64`, negative `i64` or a double. -/
inductive Number where
  | posInt (n : Nat)
  | negInt (n : Int)
  | float (bits : UInt64)
deriving DecidableEq

inductive Json where
  | null
  | bool (b : Bool)
  | number (n : Number)
  | string (s : String)
  | array (items : List Json)
  | object (fields : List (String × Json))
deriving Inhabited

namespace Json

def insertField (name : String) (value : Json) : List (String × Json) → List (String × Json)
  | [] => [(name, value)]
  | (other, old) :: rest =>
    if name < other then (name, value) :: (other, old) :: rest
    else if name = other then (name, value) :: rest
    else (other, old) :: insertField name value rest

/-- The object with these fields, a later field of a name replacing an earlier one. -/
def ofFields (fields : List (String × Json)) : Json :=
  .object (fields.foldl (fun acc field => insertField field.1 field.2 acc) [])

/-- A signed 64-bit integer as a number. -/
def ofInt (n : Int) : Json :=
  .number (if 0 ≤ n then .posInt n.toNat else .negInt n)

def get : Json → String → Option Json
  | .object fields, name => fields.lookup name
  | _, _ => none

def getIdx : Json → Nat → Option Json
  | .array items, i => items[i]?
  | _, _ => none

def asStr : Json → Option String
  | .string s => some s
  | _ => none

def asArray : Json → Option (List Json)
  | .array items => some items
  | _ => none

def asU64 : Json → Option Nat
  | .number (.posInt n) => some n
  | _ => none

/-- The string under `name`, if there is one. -/
def getStr (v : Json) (name : String) : Option String := (v.get name).bind asStr

theorem lookup_cons_ite (key other : String) (value : Json) (rest : List (String × Json)) :
    ((other, value) :: rest).lookup key = if key = other then some value else rest.lookup key := by
  by_cases h : key = other
  · simp [h]
  · have : (key == other) = false := by simpa using h
    simp [List.lookup_cons, this, h]

theorem lookup_insertField (name key : String) (value : Json) (fields : List (String × Json)) :
    (insertField name value fields).lookup key =
      if key = name then some value else fields.lookup key := by
  induction fields with
  | nil => simp [insertField, lookup_cons_ite]
  | cons field rest ih =>
    obtain ⟨other, old⟩ := field
    unfold insertField
    split
    · simp only [lookup_cons_ite]
    · split
      · rename_i same
        subst same
        by_cases hk : key = name <;> simp [lookup_cons_ite, hk]
      · rename_i different
        rw [lookup_cons_ite, lookup_cons_ite, ih]
        by_cases hk : key = other
        · subst hk
          simp [Ne.symm different]
        · simp [hk]

theorem mem_insertField {name : String} {value : Json} {fields : List (String × Json)}
    {field : String × Json} (member : field ∈ insertField name value fields) :
    field = (name, value) ∨ field ∈ fields := by
  induction fields with
  | nil => simpa [insertField] using member
  | cons head rest ih =>
    obtain ⟨other, old⟩ := head
    unfold insertField at member
    split at member
    · simpa using member
    · split at member
      · rcases List.mem_cons.mp member with here | later
        · exact .inl here
        · exact .inr (List.mem_cons_of_mem _ later)
      · rcases List.mem_cons.mp member with here | later
        · exact .inr (by simp [here])
        · exact (ih later).imp_right (List.mem_cons_of_mem _)

/-- Reading a field of `ofFields`: the last field of that name wins. -/
theorem get_ofFields (fields : List (String × Json)) (key : String) :
    (ofFields fields).get key = fields.reverse.lookup key := by
  induction fields using List.reverseRecOn with
  | nil => rfl
  | append_singleton fields field ih =>
    obtain ⟨name, value⟩ := field
    rw [List.reverse_concat, lookup_cons_ite, ← ih]
    simp [ofFields, get, lookup_insertField]

theorem lookup_eq_none_of_notMem {key : String} {fields : List (String × Json)}
    (absent : key ∉ fields.map Prod.fst) : fields.lookup key = none := by
  induction fields with
  | nil => rfl
  | cons field rest ih =>
    simp only [List.map_cons, List.mem_cons, not_or] at absent
    obtain ⟨name, value⟩ := field
    rw [lookup_cons_ite, if_neg absent.1, ih absent.2]

/-- Fields of other names do not change what is read. -/
theorem get_ofFields_append {key : String} {fields extra : List (String × Json)}
    (absent : key ∉ extra.map Prod.fst) :
    (ofFields (fields ++ extra)).get key = (ofFields fields).get key := by
  have none : extra.reverse.lookup key = none := by
    apply lookup_eq_none_of_notMem
    simpa using absent
  rw [get_ofFields, get_ofFields, List.reverse_append, List.lookup_append, none, Option.none_or]

/-! ## Sorted fields -/

/-- Fields in the order of their names, each name once. -/
def SortedFields (fields : List (String × Json)) : Prop :=
  fields.Pairwise fun a b => a.1 < b.1

theorem insertField_sorted {name : String} {value : Json} {fields : List (String × Json)}
    (sorted : SortedFields fields) : SortedFields (insertField name value fields) := by
  induction fields with
  | nil => simp [insertField, SortedFields]
  | cons head rest ih =>
    obtain ⟨other, old⟩ := head
    obtain ⟨least, tail⟩ := List.pairwise_cons.mp sorted
    unfold insertField
    split
    case isTrue before =>
      refine List.pairwise_cons.mpr ⟨fun field member => ?_, sorted⟩
      rcases List.mem_cons.mp member with rfl | later
      · exact before
      · exact lt_trans before (least field later)
    case isFalse notBefore =>
      split
      case isTrue same =>
        subst same
        exact List.pairwise_cons.mpr ⟨least, tail⟩
      case isFalse different =>
        refine List.pairwise_cons.mpr ⟨fun field member => ?_, ih tail⟩
        rcases mem_insertField member with rfl | later
        · exact lt_of_le_of_ne (not_lt.mp notBefore) (Ne.symm different)
        · exact least field later

theorem insertField_perm {name : String} {value : Json} {fields : List (String × Json)}
    (fresh : name ∉ fields.map Prod.fst) :
    (insertField name value fields).Perm ((name, value) :: fields) := by
  induction fields with
  | nil => rfl
  | cons head rest ih =>
    obtain ⟨other, old⟩ := head
    simp only [List.map_cons, List.mem_cons, not_or] at fresh
    unfold insertField
    split
    · rfl
    · rw [if_neg fresh.1]
      exact ((ih fresh.2).cons _).trans (List.Perm.swap _ _ _)

theorem mem_of_lookup {name : String} {value : Json} {fields : List (String × Json)}
    (found : fields.lookup name = some value) : (name, value) ∈ fields := by
  induction fields with
  | nil => simp at found
  | cons head rest ih =>
    obtain ⟨other, old⟩ := head
    rw [lookup_cons_ite] at found
    split at found
    case isTrue same => simp_all
    case isFalse => exact List.mem_cons_of_mem _ (ih found)

theorem SortedFields.lookup_of_mem {name : String} {value : Json} {fields : List (String × Json)}
    (sorted : SortedFields fields) (member : (name, value) ∈ fields) :
    fields.lookup name = some value := by
  induction fields with
  | nil => simp at member
  | cons head rest ih =>
    obtain ⟨other, old⟩ := head
    obtain ⟨least, tail⟩ := List.pairwise_cons.mp sorted
    rw [lookup_cons_ite]
    rcases List.mem_cons.mp member with here | later
    · cases here
      simp
    · have after : other < name := least _ later
      rw [if_neg (ne_of_gt after), ih tail later]

/-- Sorted fields with the same elements are the same list. -/
theorem SortedFields.eq_of_perm {fields fields' : List (String × Json)}
    (sorted : SortedFields fields) (sorted' : SortedFields fields')
    (perm : fields.Perm fields') : fields = fields' :=
  perm.eq_of_pairwise (fun _ _ _ _ ab ba => absurd (lt_trans ab ba) (lt_irrefl _)) sorted sorted'

end Json

end OwlId.ProofSystem
