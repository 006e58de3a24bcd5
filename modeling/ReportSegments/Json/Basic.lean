import ReportSegments.Number.Basic

/-!
This module contains JSON values and lists of named values in the order in which the names came
in. Objects and the fields of a row are such lists, each name once.
-/

namespace ReportSegments

inductive Json where
  | null
  | bool (b : Bool)
  | number (n : Number)
  | string (s : String)
  | array (items : List Json)
  | object (members : List (String × Json))
deriving Repr, BEq, Inhabited

namespace Json

/--
Whether a value is `null`.
-/
def isNull : Json → Bool
  | null => true
  | _ => false

def ofNat (n : Nat) : Json :=
  .number (.integer (.ofNat n))

def string? : Json → Option String
  | string s => some s
  | _ => none

end Json

namespace Members

/--
Gives a name a value: in its old place if the name is there, at the end otherwise.
-/
def set (name : String) (value : α) : List (String × α) → List (String × α)
  | [] => [(name, value)]
  | member :: rest =>
    if member.1 = name then (name, value) :: rest else member :: set name value rest

theorem names_set (name : String) (value : α) (members : List (String × α)) :
    (set name value members).map Prod.fst =
      if name ∈ members.map Prod.fst then
        members.map Prod.fst
      else
        members.map Prod.fst ++ [name] := by
  induction members with
  | nil => simp [set]
  | cons member rest ih =>
    by_cases h : member.1 = name
    . simp [set, h]
    . have h' : ¬name = member.1 := fun e => h e.symm
      simp only [set, if_neg h, List.map_cons, ih, List.mem_cons, h', false_or]
      split <;> simp

theorem nodup_set {name : String} {value : α} {members : List (String × α)}
    (h : (members.map Prod.fst).Nodup) : ((set name value members).map Prod.fst).Nodup := by
  rw [names_set]
  split
  . exact h
  . next hname =>
    refine List.nodup_append.2 ⟨h, by simp, ?_⟩
    intro a ha b hb hab
    rw [List.mem_singleton] at hb
    exact hname (hb ▸ hab ▸ ha)

/--
The list that arises when members are set one after the other.
-/
def ofList (members : List (String × α)) : List (String × α) :=
  members.foldl (fun done member => set member.1 member.2 done) []

theorem nodup_foldl_set (members done : List (String × α)) (h : (done.map Prod.fst).Nodup) :
    ((members.foldl (fun done member => set member.1 member.2 done) done).map Prod.fst).Nodup := by
  induction members generalizing done with
  | nil => exact h
  | cons member rest ih => exact ih _ (nodup_set h)

theorem nodup_ofList (members : List (String × α)) : ((ofList members).map Prod.fst).Nodup :=
  nodup_foldl_set members [] (by simp)

end Members

/--
Named values of a row: its columns or its metadata.
-/
structure Fields where
  entries : List (String × Json)
  distinct : (entries.map Prod.fst).Nodup := by simp

namespace Fields

def empty : Fields where
  entries := []

def get? (fields : Fields) (name : String) : Option Json :=
  fields.entries.lookup name

def string? (fields : Fields) (name : String) : Option String :=
  (fields.get? name).bind Json.string?

def set (fields : Fields) (name : String) (value : Json) : Fields where
  entries := Members.set name value fields.entries
  distinct := Members.nodup_set fields.distinct

/--
Whether a field has a value other than `null`.
-/
def has (fields : Fields) (name : String) : Bool :=
  match fields.get? name with
  | some value => !value.isNull
  | none => false

def setIfAbsent? (fields : Fields) (name : String) (value : Json) : Option Fields :=
  if fields.has name then none else some (fields.set name value)

/--
The fields that arise when members are set one after the other.
-/
def ofList (members : List (String × Json)) : Fields where
  entries := Members.ofList members
  distinct := Members.nodup_ofList members

end Fields
end ReportSegments
