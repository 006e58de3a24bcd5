import ReportSegments.Segment.Dimension

/-!
This module contains the registry of known segments and their display names. Entries keep the
order in which their keys came in; the first entry of a key counts.
-/

namespace ReportSegments

structure Registry where
  entries : List (String × String) := []
deriving DecidableEq, Repr

namespace Registry

def displayName? (registry : Registry) (key : String) : Option String :=
  registry.entries.lookup key

/--
How many segments are registered.
-/
def size (registry : Registry) : Nat :=
  registry.entries.length

/--
The display name of a key, or else the key itself.
-/
def resolve (registry : Registry) (key : String) : String :=
  (registry.displayName? key).getD key

/--
Registers a name; a key that is known already gets the new name in its old place.
-/
def insert (registry : Registry) (key name : String) : Registry where
  entries := go registry.entries
where
  /-- Renames the first entry of the key, or adds one at the end. -/
  go : List (String × String) → List (String × String)
    | [] => [(key, name)]
    | entry :: rest => if entry.1 = key then (key, name) :: rest else entry :: go rest

/--
Adds the entries of `other` whose keys are not known yet, one after the other.
-/
def extendMissing (registry other : Registry) : Registry :=
  other.entries.foldl (fun registry entry =>
    match registry.displayName? entry.1 with
    | some _ => registry
    | none => ⟨registry.entries ++ [entry]⟩) registry

/--
The registry of the given segments, registered one after the other.
-/
def ofSegments (segments : List Segment) : Registry :=
  segments.foldl (fun registry segment => registry.insert segment.key segment.displayName) {}

end Registry
end ReportSegments
