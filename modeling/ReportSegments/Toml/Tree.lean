import ReportSegments.Raw.Basic

/-!
This module contains the tables that a TOML document builds up, and the rules on which of them may
be added to later.
-/

namespace ReportSegments
namespace Toml

inductive Origin where
  /-- By a header of its own. -/
  | stated
  /-- By the header of a table inside it. -/
  | implied
  /-- By a dotted key. -/
  | dotted
deriving DecidableEq, Repr

/--
A part of a document. A value in braces or brackets is complete and hence a leaf.
-/
inductive Node where
  | leaf (value : Raw)
  | table (origin : Origin) (entries : List (String × Node))
  /-- Tables with double brackets around their headers; the last one is open. -/
  | tables (earlier : List (List (String × Node))) (last : List (String × Node))

abbrev Entries := List (String × Node)

/--
A key with dots: the keys of the tables it goes through, and the key in the last of them.
-/
structure KeyPath where
  tables : List String
  key : String
deriving DecidableEq, Repr

namespace Entries

def put (entries : Entries) (key : String) (node : Node) : Entries :=
  Members.set key node entries

/--
Adds a value under a dotted key. Tables on the way must not have headers of their own, and the last
one must be made by dotted keys, or be the table itself.
-/
def insert? (key : String) (value : Raw) : List String → Entries → Option Entries
  | [], entries =>
    match entries.lookup key with
    | some _ => none
    | none => some (entries.put key (.leaf value))
  | table :: tables, entries =>
    match entries.lookup table with
    | none => (insert? key value tables []).map fun inner => entries.put table (.table .dotted inner)
    | some (.table .dotted inner) =>
      (insert? key value tables inner).map fun inner => entries.put table (.table .dotted inner)
    | some (.table .implied inner) =>
      if tables = [] then
        none
      else
        (insert? key value tables inner).map fun inner => entries.put table (.table .implied inner)
    | some (.tables earlier last) =>
      if tables = [] then
        none
      else
        (insert? key value tables last).map fun last => entries.put table (.tables earlier last)
    | some (.table .stated _) => none
    | some (.leaf _) => none

/--
Changes the table under the keys of a header. Tables on the way are made where they are missing;
of several tables under one key the last one is meant.
-/
def update? (change : Entries → Option Entries) : List String → Entries → Option Entries
  | [], entries => change entries
  | table :: tables, entries =>
    match entries.lookup table with
    | none =>
      (update? change tables []).map fun inner => entries.put table (.table .implied inner)
    | some (.table origin inner) =>
      (update? change tables inner).map fun inner => entries.put table (.table origin inner)
    | some (.tables earlier last) =>
      (update? change tables last).map fun last => entries.put table (.tables earlier last)
    | some (.leaf _) => none

def insertAll? (pairs : List (KeyPath × Raw)) (entries : Entries) : Option Entries :=
  pairs.foldlM (fun entries (path, value) => entries.insert? path.key value path.tables) entries

/--
Adds a table under a header with its values. A table that was implied so far keeps what is in it.
-/
def addTable? (header : KeyPath) (pairs : List (KeyPath × Raw)) (entries : Entries) :
    Option Entries :=
  entries.update? (fun parent =>
    match parent.lookup header.key with
    | none =>
      (insertAll? pairs []).map fun inner => parent.put header.key (.table .stated inner)
    | some (.table .implied inner) =>
      (insertAll? pairs inner).map fun inner => parent.put header.key (.table .stated inner)
    | some _ => none) header.tables

/--
Adds a table to the tables under a header with double brackets.
-/
def addToTables? (header : KeyPath) (pairs : List (KeyPath × Raw)) (entries : Entries) :
    Option Entries :=
  entries.update? (fun parent =>
    match parent.lookup header.key with
    | none => (insertAll? pairs []).map fun inner => parent.put header.key (.tables [] inner)
    | some (.tables earlier last) =>
      (insertAll? pairs []).map fun inner =>
        parent.put header.key (.tables (earlier ++ [last]) inner)
    | some _ => none) header.tables

end Entries

mutual

def Node.raw : Node → Raw
  | .leaf value => value
  | .table _ entries => .table (Entries.raw entries)
  | .tables earlier last => .list (Entries.rawAll earlier ++ [.table (Entries.raw last)])

def Entries.raw : List (String × Node) → List (Option String × Raw)
  | [] => []
  | (key, node) :: entries => (some key, Node.raw node) :: Entries.raw entries

def Entries.rawAll : List (List (String × Node)) → List Raw
  | [] => []
  | entries :: tables => .table (Entries.raw entries) :: Entries.rawAll tables

end

end Toml
end ReportSegments
