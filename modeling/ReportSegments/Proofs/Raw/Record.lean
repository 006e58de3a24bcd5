import ReportSegments.Proofs.Raw.OfJson
import ReportSegments.Raw.Record

/-!
This module contains how records, lists and maps are read out of JSON objects and arrays. A record
takes the members it has names for, in whatever order they stand, and skips the others.
-/

namespace ReportSegments
namespace Raw

open Json (array object)

/--
One entry of a record behind the fields that are known so far.
-/
def takeField? (names : List String) (fields : List (String × Raw)) (name : String) (value : Raw) :
    Option (List (String × Raw)) :=
  if !names.contains name then some fields
  else if (fields.lookup name).isSome then none
  else some (fields ++ [(name, value)])

theorem record?_table (style : RecordStyle) (names : List String)
    (entries : List (Option String × Raw)) :
    record? style names (table entries) =
      entries.foldlM (fun fields entry => entry.1.bind fun name =>
        takeField? names fields name entry.2) [] := by
  rfl

theorem lookup_append_of_ne {name other : String} (hne : name ≠ other) (fields : List (String × Raw))
    (value : Raw) : (fields ++ [(other, value)]).lookup name = fields.lookup name := by
  simp [List.lookup_append, List.lookup_cons, beq_eq_false_iff_ne.2 hne]

theorem exists_foldlM_takeField? (names : List String) {members : List (String × Json)}
    {done : List (String × Raw)} (hnames : (members.map Prod.fst).Nodup)
    (hdone : ∀ member ∈ members, done.lookup member.1 = none) :
    ∃ fields,
      members.foldlM (fun fields member => takeField? names fields member.1 member.2.raw) done =
        some fields ∧
      ∀ name ∈ names,
        fields.lookup name = (done.lookup name).or ((members.lookup name).map Json.raw) := by
  induction members generalizing done with
  | nil => simp
  | cons member members ih =>
    rw [List.map_cons, List.nodup_cons] at hnames
    obtain ⟨hnew, hdone⟩ := List.forall_mem_cons.1 hdone
    by_cases hname : member.1 ∈ names
    . have hstep : takeField? names done member.1 member.2.raw =
          some (done ++ [(member.1, member.2.raw)]) := by
        simp [takeField?, hname, hnew]
      have hother : ∀ other ∈ members,
          (done ++ [(member.1, member.2.raw)]).lookup other.1 = none := by
        intro other hother
        rw [lookup_append_of_ne, hdone other hother]
        intro heq
        apply hnames.1
        rw [← heq]
        exact List.mem_map_of_mem hother
      obtain ⟨fields, hfields, hlookup⟩ := ih hnames.2 hother
      refine ⟨fields, ?_, ?_⟩
      . simp [hstep, hfields]
      . intro name hmem
        rw [hlookup name hmem, List.lookup_append, Option.or_assoc]
        congr 1
        rw [List.lookup_cons, List.lookup_cons]
        split <;> simp
    . have hstep : takeField? names done member.1 member.2.raw = some done := by
        simp [takeField?, hname]
      obtain ⟨fields, hfields, hlookup⟩ := ih hnames.2 hdone
      refine ⟨fields, ?_, ?_⟩
      . simp [hstep, hfields]
      . intro name hmem
        have hne : (name == member.1) = false := by
          rw [beq_eq_false_iff_ne]
          rintro rfl
          exact hname hmem
        rw [hlookup name hmem, List.lookup_cons, hne]

/--
The fields of a record are the members of the object with these names.
-/
theorem exists_record?_object (style : RecordStyle) (names : List String)
    {members : List (String × Json)} (h : (object members).Exact) :
    ∃ fields, record? style names (object members).raw = some fields ∧
      ∀ name ∈ names, fields.lookup name = (members.lookup name).map Json.raw := by
  cases h with
  | object hnames _ =>
    have hempty : ∀ member ∈ members, ([] : List (String × Raw)).lookup member.1 = none := by simp
    obtain ⟨fields, hfields, hlookup⟩ := exists_foldlM_takeField? names hnames hempty
    refine ⟨fields, ?_, ?_⟩
    . rw [Json.raw_object, record?_table, List.foldlM_map, ← hfields]
      simp
    . simpa using hlookup

section Fields

variable {fields : List (String × Raw)} {name : String} {read : Raw → Option α} {written : α → Json}

theorem field?_of_lookup {value : Raw} (h : fields.lookup name = some value) (default : α) :
    field? fields name default read = read value := by
  simp [field?, h]

theorem field?_of_lookup_eq_none (h : fields.lookup name = none) (default : α) :
    field? fields name default read = some default := by
  simp [field?, h]

theorem nullable?_of_read {raw : Raw} {x : α} (hnull : read null = none) (h : read raw = some x) :
    nullable? read raw = some (some x) := by
  cases raw with
  | null => simp [h] at hnull
  | _ => simp [nullable?, h]

theorem field?_nullable {x : Option α} (hnull : read null = none)
    (hread : ∀ a ∈ x, read (written a).raw = some a)
    (h : fields.lookup name = (x.map written).map Json.raw) :
    field? fields name none (nullable? read) = some x := by
  cases x with
  | none =>
    apply field?_of_lookup_eq_none
    simp [h]
  | some a =>
    rw [field?_of_lookup (by simpa using h)]
    apply nullable?_of_read hnull
    apply hread
    simp

end Fields

theorem mapM_eq_some {f : α → Option β} {g : α → β} {xs : List α}
    (h : ∀ x ∈ xs, f x = some (g x)) : xs.mapM f = some (xs.map g) := by
  induction xs with
  | nil => simp
  | cons x xs ih =>
    obtain ⟨hx, hxs⟩ := List.forall_mem_cons.1 h
    simp [hx, ih hxs]

theorem list?_array {read : Raw → Option α} {written : α → Json} {xs : List α}
    (h : ∀ x ∈ xs, read (written x).raw = some x) :
    list? read (array (xs.map written)).raw = some xs := by
  rw [Json.raw_array, list?, List.map_map, List.mapM_map, mapM_eq_some (g := id)]
  . simp
  . exact h

theorem entries?_object {read : Raw → Option α} {written : α → Json} {entries : List (String × α)}
    (h : ∀ entry ∈ entries, read (written entry.2).raw = some entry.2) :
    entries? read (object (entries.map fun entry => (entry.1, written entry.2))).raw =
      some entries := by
  rw [Json.raw_object, entries?, List.map_map, List.mapM_map, mapM_eq_some (g := id)]
  . simp
  . intro entry hentry
    simp [h entry hentry]

end Raw
end ReportSegments
