/-!
This module contains the cutting of a text: into all pieces between the occurrences of a
separator, and into two parts at its first or its last occurrence.
-/

namespace ReportSegments
namespace Text

/--
The pieces of a text between the occurrences of `sep`, searched from left to right and without
overlap. There is always one piece more than there are occurrences.
-/
def pieces (sep : List Char) (cs : List Char) : List (List Char) :=
  go 0 cs
where
  /-- `skip` characters still belong to the separator that was just found. -/
  go : Nat → List Char → List (List Char)
    | _, [] => [[]]
    | skip + 1, _ :: cs => go skip cs
    | 0, c :: cs =>
      if sep.isPrefixOf (c :: cs) then
        [] :: go (sep.length - 1) cs
      else
        match go 0 cs with
        | [] => [[c]]
        | piece :: rest => (c :: piece) :: rest

/--
The text before and the text after the first occurrence of `sep`.
-/
def cutFirst? (sep : List Char) (cs : List Char) : Option (List Char × List Char) :=
  match sep.isPrefixOf? cs, cs with
  | some rest, _ => some ([], rest)
  | none, [] => none
  | none, c :: cs => (cutFirst? sep cs).map fun (before, after) => (c :: before, after)

/--
The text before and the text after the last occurrence of the character `sep`.
-/
def cutLast? (sep : Char) : List Char → Option (List Char × List Char)
  | [] => none
  | c :: cs =>
    match cutLast? sep cs with
    | some (before, after) => some (c :: before, after)
    | none => if c = sep then some ([], cs) else none

/--
`pieces` on strings.
-/
def splitOn (sep : String) (s : String) : List String :=
  (pieces sep.toList s.toList).map String.ofList

end Text
end ReportSegments
