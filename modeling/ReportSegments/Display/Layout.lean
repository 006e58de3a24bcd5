import ReportSegments.Config.Basic
import ReportSegments.Display.Tree

/-!
This module contains the layout of a report's table for display: every sub-table of a regular row
is open, an empty one shows a row that says so, and long labels are truncated.
-/

namespace ReportSegments
namespace Display

def Row.ofLabel (rules : LayoutRules) (label : String) (level : Option UInt32) : Row :=
  match rules.maxLabelLength with
  | some limit =>
    if limit < label.length then
      {
        label := String.ofList (label.toList.take limit) ++ rules.truncationMarker
        fullLabel := some label
        level
      }
    else
      { label, level }
  | none => { label, level }

def Row.placeholder (rules : LayoutRules) : Row where
  label := rules.noDataLabel
  noData := true

namespace Tree

mutual

/--
Adds the regular rows of a table to the displayed table `id`.
-/
def addTable (rules : LayoutRules) (tree : Tree) (id : Nat) : ReportSegments.Table → Tree
  | ⟨rows, _⟩ => addRows rules tree id rows

def addRows (rules : LayoutRules) (tree : Tree) (id : Nat) : List ReportSegments.Row → Tree
  | [] => tree
  | row :: rows => addRows rules (addRow rules tree id row) id rows

def addRow (rules : LayoutRules) (tree : Tree) (id : Nat) : ReportSegments.Row → Tree
  | ⟨label, _, _, subtable, level⟩ =>
    match tree.push? id (Row.ofLabel rules label level) with
    | none => tree
    | some (tree, place) => addSubtable rules tree place subtable

/--
Opens a sub-table below the row at a place, if there is one.
-/
def addSubtable (rules : LayoutRules) (tree : Tree) (place : RowRef) :
    Option ReportSegments.Table → Tree
  | none => tree
  | some table =>
    match tree.openBelow? place with
    | none => tree
    | some (tree, id) =>
      match table.rows with
      | [] => tree.push id (Row.placeholder rules)
      | _ => addTable rules tree id table

end

def ofTable (rules : LayoutRules) (table : ReportSegments.Table) : Tree :=
  addTable rules empty 0 table

end Tree
end Display
end ReportSegments
