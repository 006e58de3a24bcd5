import ReportSegments.Proofs.Json.RoundTrip

/-!
This module contains the raw values of JSON values: what is read of a text in which no container
stands too deep.
-/

namespace ReportSegments
namespace Raw

theorem depth_pos (raw : Raw) : 0 < raw.depth := by
  cases raw <;> simp [depth]

theorem depth_lt_of_mem_list {items : List Raw} {item : Raw} (h : item ∈ items) :
    item.depth < (list items).depth := by
  rw [depth]
  induction items with
  | nil => simp at h
  | cons first items ih =>
    grind [depthItems]

theorem depth_lt_of_mem_table {entries : List (Option String × Raw)} {entry : Option String × Raw}
    (h : entry ∈ entries) : entry.2.depth < (table entries).depth := by
  rw [depth]
  induction entries with
  | nil => simp at h
  | cons first entries ih =>
    grind [depthEntries]

end Raw

namespace Json

open Dialect

mutual

def raw : Json → Raw
  | null => .null
  | bool b => .bool b
  | number n => .number n
  | string s => .text s
  | array items => .list (rawList items)
  | object members => .table (rawTable members)

def rawList : List Json → List Raw
  | [] => []
  | item :: items => raw item :: rawList items

def rawTable : List (String × Json) → List (Option String × Raw)
  | [] => []
  | (name, value) :: members => (some name, raw value) :: rawTable members

end

theorem raw_array (items : List Json) : (array items).raw = .list (items.map raw) := by
  have hlist : rawList items = items.map raw := by
    induction items with
    | nil => simp [rawList]
    | cons item items ih => simp [rawList, ih]
  rw [raw, hlist]

theorem raw_object (members : List (String × Json)) :
    (object members).raw = .table (members.map fun member => (some member.1, member.2.raw)) := by
  have htable : rawTable members = members.map fun member => (some member.1, member.2.raw) := by
    induction members with
    | nil => simp [rawTable]
    | cons member members ih => simp [rawTable, ih]
  rw [raw, htable]

theorem nesting_le_nestingItems {items : List Json} {item : Json} (h : item ∈ items) :
    item.nesting ≤ nestingItems items := by
  induction items with
  | nil => simp at h
  | cons first items ih =>
    grind [nestingItems]

theorem nesting_le_nestingMembers {members : List (String × Json)} {member : String × Json}
    (h : member ∈ members) : member.2.nesting ≤ nestingMembers members := by
  induction members with
  | nil => simp at h
  | cons first members ih =>
    grind [nestingMembers]

theorem readable_of_le {limit depth : Nat} (h : depth ≤ limit) (value : Raw) :
    Progress.readable (strict limit) depth value = value := by
  unfold Progress.readable
  simp [strict, h]

variable {value : Json} {limit : Nat}

theorem Exact.rawAt_eq_raw (h : value.Exact) {depth : Nat} (hdepth : depth + value.nesting ≤ limit) :
    value.rawAt (strict limit) depth = value.raw := by
  induction h generalizing depth with
  | array _ ih =>
    rw [nesting] at hdepth
    rw [rawAt, raw_array, readable_of_le (by omega), rawItems_eq_map]
    congr 1
    apply List.map_congr_left
    intro item hitem
    have := nesting_le_nestingItems hitem
    apply ih item hitem
    omega
  | object _ _ ih =>
    rw [nesting] at hdepth
    rw [rawAt, raw_object, readable_of_le (by omega), rawMembers_eq_map]
    congr 1
    apply List.map_congr_left
    intro member hmember
    have := nesting_le_nestingMembers hmember
    dsimp
    rw [ih member hmember]
    omega
  | _ => simp [rawAt, raw]

theorem Exact.json?_raw (h : value.Exact) : value.raw.json? = some value := by
  have hraw : value.rawAt (strict value.nesting) 0 = value.raw := by
    apply h.rawAt_eq_raw
    omega
  rw [← hraw, h.returns]
  simp

theorem depth_raw_lt_of_mem_array {items : List Json} {item : Json} (h : item ∈ items) :
    item.raw.depth < (array items).raw.depth := by
  rw [raw_array]
  apply Raw.depth_lt_of_mem_list
  exact List.mem_map_of_mem h

theorem depth_raw_lt_of_mem_object (name : String) {members : List (String × Json)} {value : Json}
    (h : (name, value) ∈ members) : value.raw.depth < (object members).raw.depth := by
  rw [raw_object]
  have hmem := List.mem_map_of_mem (f := fun member => (some member.1, member.2.raw)) h
  exact Raw.depth_lt_of_mem_table hmem

theorem Exact.of_mem_object {members : List (String × Json)} (h : (Json.object members).Exact)
    {name : String} (hmember : (name, value) ∈ members) : value.Exact := by
  cases h with
  | object _ hvalues => exact hvalues _ hmember

end Json
end ReportSegments
