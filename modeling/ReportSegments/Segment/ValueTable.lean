/-!
This module contains tables from labels to values. Their entries are sorted by label, each label
once.
-/

namespace ReportSegments

/--
A finite map from labels to values.
-/
structure ValueTable where
  entries : List (String × String)
  sorted : entries.Pairwise (fun a b => a.1 < b.1) := by simp

namespace ValueTable

def empty : ValueTable where
  entries := []

def find? (table : ValueTable) (label : String) : Option String :=
  table.entries.lookup label

def isEmpty (table : ValueTable) : Bool :=
  table.entries.isEmpty

/--
Puts an entry at its place in a sorted list, in the place of one with the same label.
-/
def insertEntry (label value : String) : List (String × String) → List (String × String)
  | [] => [(label, value)]
  | entry :: rest =>
    if label < entry.1 then (label, value) :: entry :: rest
    else if entry.1 < label then entry :: insertEntry label value rest
    else (label, value) :: rest

theorem mem_insertEntry {label value : String} {entries : List (String × String)}
    {entry : String × String} (h : entry ∈ insertEntry label value entries) :
    entry = (label, value) ∨ entry ∈ entries := by
  induction entries with
  | nil => simpa [insertEntry] using h
  | cons head rest ih =>
    simp only [insertEntry] at h
    split at h
    . simpa using h
    . split at h
      . rcases List.mem_cons.1 h with rfl | h
        . simp
        . rcases ih h with rfl | h <;> simp_all
      . rcases List.mem_cons.1 h with rfl | h <;> simp_all

theorem sorted_insertEntry {label value : String} {entries : List (String × String)}
    (h : entries.Pairwise (fun a b => a.1 < b.1)) :
    (insertEntry label value entries).Pairwise (fun a b => a.1 < b.1) := by
  induction entries with
  | nil => simp [insertEntry]
  | cons head rest ih =>
    obtain ⟨hhead, hrest⟩ := List.pairwise_cons.1 h
    simp only [insertEntry]
    split
    . next hlt =>
      refine List.pairwise_cons.2 ⟨fun entry hmem => ?_, h⟩
      rcases List.mem_cons.1 hmem with rfl | hmem
      . exact hlt
      . exact String.lt_trans hlt (hhead _ hmem)
    . split
      . next hlt =>
        refine List.pairwise_cons.2 ⟨fun entry hmem => ?_, ih hrest⟩
        rcases mem_insertEntry hmem with rfl | hmem
        . exact hlt
        . exact hhead _ hmem
      . next hle hge =>
        have heq : head.1 = label := String.le_antisymm hle hge
        exact List.pairwise_cons.2 ⟨fun entry hmem => heq ▸ hhead _ hmem, hrest⟩

def insert (table : ValueTable) (label value : String) : ValueTable where
  entries := insertEntry label value table.entries
  sorted := sorted_insertEntry table.sorted

/--
The table of a list of entries, where a later entry of a label wins.
-/
def ofList (entries : List (String × String)) : ValueTable :=
  entries.foldl (fun table entry => table.insert entry.1 entry.2) empty

end ValueTable
end ReportSegments
