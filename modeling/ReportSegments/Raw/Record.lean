import ReportSegments.Raw.Basic

/-!
This module contains the reading of raw values: scalars, lists, maps and records with fixed field
names.
-/

namespace ReportSegments
namespace Raw

def text? : Raw → Option String
  | text s => some s
  | _ => none

def bool? : Raw → Option Bool
  | bool b => some b
  | _ => none

/--
Reads a natural number below `bound`.
-/
def nat? (bound : Nat) : Raw → Option Nat
  | number (.integer n) => if 0 ≤ n.val ∧ n.val < bound then some n.val.toNat else none
  | _ => none

def list? (read : Raw → Option α) : Raw → Option (List α)
  | list items => items.mapM read
  | _ => none

/--
Reads a value that may be `null`.
-/
def nullable? (read : Raw → Option α) : Raw → Option (Option α)
  | null => some none
  | value => (read value).map some

def entries? (read : Raw → Option α) : Raw → Option (List (String × α))
  | table entries => entries.mapM fun (name, value) => do return (← name, ← read value)
  | _ => none

/--
How records may be written other than as a table: as the list of their fields, in which trailing
fields may be missing, and possibly with more items than there are fields.
-/
structure RecordStyle where
  positional : Bool
  surplus : Bool

/--
Reads a record: the given values of its fields. Other names are skipped, a field must not be given
twice.
-/
def record? (style : RecordStyle) (names : List String) : Raw → Option (List (String × Raw))
  | table entries =>
    entries.foldlM (fun fields (name, value) => do
      let name ← name
      if !names.contains name then return fields
      else if (fields.lookup name).isSome then none
      else return fields ++ [(name, value)]) []
  | list items =>
    if style.positional && (style.surplus || items.length ≤ names.length) then
      some (names.zip items)
    else
      none
  | _ => none

def field? (fields : List (String × Raw)) (name : String) (default : α)
    (read : Raw → Option α) : Option α :=
  match fields.lookup name with
  | some value => read value
  | none => some default

def required? (fields : List (String × Raw)) (name : String) (read : Raw → Option α) : Option α :=
  (fields.lookup name).bind read

end Raw
end ReportSegments
