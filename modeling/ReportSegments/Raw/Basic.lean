import ReportSegments.Json.Basic

/-!
This module contains raw values: what a document says before it is known which of its parts are
asked for. A part that nobody asks for may be wrong in ways that matter only to a reader.
-/

namespace ReportSegments

/--
A value of a document as it is written. Tables keep every entry, repeated names too.
-/
inductive Raw where
  | null
  | bool (b : Bool)
  | number (n : Number)
  /-- An infinity or not a number. -/
  | nonFinite
  | text (s : String)
  | list (items : List Raw)
  /-- A name is missing where it cannot be read. -/
  | table (entries : List (Option String × Raw))
  /-- A well formed value that can be skipped but not read. -/
  | unreadable
deriving Repr, Inhabited

namespace Raw

mutual

/--
A raw value read as JSON: in a repeated name of an object the last value counts, at the place of
the first.
-/
def json? : Raw → Option Json
  | null => some .null
  | bool b => some (.bool b)
  | number n => some (.number n)
  | nonFinite => some .null
  | text s => some (.string s)
  | list items => (jsonItems? items).map .array
  | table entries => (jsonMembers? entries).map fun members => .object (Members.ofList members)
  | unreadable => none

def jsonItems? : List Raw → Option (List Json)
  | [] => some []
  | item :: items => do return (← json? item) :: (← jsonItems? items)

def jsonMembers? : List (Option String × Raw) → Option (List (String × Json))
  | [] => some []
  | (name, value) :: entries => do return (← name, ← json? value) :: (← jsonMembers? entries)

end

mutual

/--
How deep a value is nested; a scalar has depth 1.
-/
def depth : Raw → Nat
  | list items => depthItems items + 1
  | table entries => depthEntries entries + 1
  | _ => 1

def depthItems : List Raw → Nat
  | [] => 0
  | item :: items => max (depth item) (depthItems items)

def depthEntries : List (Option String × Raw) → Nat
  | [] => 0
  | (_, value) :: entries => max (depth value) (depthEntries entries)

end

end Raw
end ReportSegments
