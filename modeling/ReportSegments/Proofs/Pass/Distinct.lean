import ReportSegments.Proofs.Expression.Unescape
import ReportSegments.Proofs.Pass.Recovered

/-!
This module contains that values that came with rows are not mixed up: where two of them differ, so
do the filters that are written for their rows, unless a value has the code of a reserved character
in it.
-/

namespace ReportSegments

open Clause (IsCodeFree)

namespace Pass

/--
A regular row without a filter, at a place in the list of all rows, and the text of the value that
came with it.
-/
structure Offers (table : Table) (i : Nat) (path : List RowId) (row : Row) (text : String) :
    Prop where
  shown : table.flatten[i]? = some (path, row)
  regular : .summary ∉ path
  clear : row.metadata.get? Row.filterKey = none ∨ row.metadata.get? Row.filterKey = some .null
  value : (row.metadata.get? Row.valueKey).bind valueText? = some text

variable {segment : Segment} {table : Table} {i : Nat} {path : List RowId} {row : Row}
  {text : String}

theorem write?_segmentValue_eq_some (hkey : segment.key ≠ "")
    (hresolver : segment.hasCustomResolver = false) (j : Nat)
    (hvalue : (row.metadata.get? Row.valueKey).bind valueText? = some text) :
    (segmentValue (some segment)).write? (.index j) row =
      some (Clause.buildEscaped segment.key "==" text) := by
  rw [write?_segmentValue, Option.bind_some, hvalue, Option.bind_some,
    if_pos ⟨rfl, hkey, hresolver⟩]
  rfl

theorem Offers.getElem?_filters (h : Offers table i path row text) (hkey : segment.key ≠ "")
    (hresolver : segment.hasCustomResolver = false) :
    (Pipeline.run [segmentValue (some segment)] table).1.filters[i]? =
      some (path, some (.string (Clause.buildEscaped segment.key "==" text))) := by
  have hpath : path ≠ [] := Rows.ne_nil_of_mem_flatten (List.mem_of_getElem? h.shown)
  have hlast := List.getLast?_eq_some_getLast hpath
  rw [Pipeline.getElem?_filters_run _ h.shown hlast, Rows.isWalked_of_not_mem h.regular, if_pos rfl,
    List.findSome?_singleton, Json.keepOr_of_isClear h.clear]
  cases hid : path.getLast hpath with
  | index j =>
    rw [write?_segmentValue_eq_some hkey hresolver j h.value]
    rfl
  | summary =>
    have hmem := List.getLast_mem hpath
    rw [hid] at hmem
    exact absurd hmem h.regular

/--
Values without codes of reserved characters are escaped differently, and so the pass for the values
that came with the rows writes different filters for rows with different values, wherever they are.
-/
theorem filters_distinct :
    (∀ value other : String, IsCodeFree value.toList → IsCodeFree other.toList → value ≠ other →
      Clause.escape value ≠ Clause.escape other) ∧
    ∀ (dimension : Option Dimension) (segment : Segment) (table : Table) (i j : Nat)
      (path path' : List RowId) (row row' : Row) (text text' : String),
      Dimension.first? dimension = some segment → segment.key ≠ "" →
      segment.hasCustomResolver = false → Offers table i path row text →
      Offers table j path' row' text' → IsCodeFree text.toList → IsCodeFree text'.toList →
      text ≠ text' →
        ∃ annotated count filter filter',
          (segmentValue (Dimension.first? dimension)).apply table = (.ok count, annotated) ∧
          annotated.filters[i]? = some (path, some (.string filter)) ∧
          annotated.filters[j]? = some (path', some (.string filter')) ∧ filter ≠ filter' := by
  have hescape : ∀ value other : String, IsCodeFree value.toList → IsCodeFree other.toList →
      value ≠ other → Clause.escape value ≠ Clause.escape other := by
    intro value other hvalue hother hne heq
    exact hne (Clause.eq_of_escape_eq hvalue hother heq)
  refine ⟨hescape, ?_⟩
  intro dimension segment table i j path path' row row' text text' hsegment hkey hresolver hrow
    hrow' hfree hfree' hne
  rw [hsegment]
  refine ⟨(Pipeline.run [segmentValue (some segment)] table).1, _, _, _, rfl,
    hrow.getElem?_filters hkey hresolver, hrow'.getElem?_filters hkey hresolver, ?_⟩
  -- Both filters start with the same key and operator.
  unfold Clause.buildEscaped Clause.build
  rw [ne_eq, String.append_right_inj]
  exact hescape text text' hfree hfree' hne

theorem filters_distinct_percent :
    let segment : Segment := { key := "pageUrl" }
    let report : Option Dimension := some { segments := [segment, { key := "ref" }] }
    let top : Row := { metadata := .ofList [(Row.filterKey, .null), (Row.valueKey, .string "%2,")] }
    let below : Row := { metadata := .ofList [(Row.valueKey, .string "%,2C")] }
    let table : Table := { rows := [top, { subtable := some { rows := [below] } }] }
    Offers table 0 [.index 0] top "%2," ∧ Offers table 2 [.index 1, .index 0] below "%,2C" ∧
      IsCodeFree "%2,".toList ∧ IsCodeFree "%,2C".toList ∧
      Clause.escape "%2," ≠ Clause.escape "%,2C" ∧
      ∃ annotated count filter filter',
        (segmentValue (Dimension.first? report)).apply table = (.ok count, annotated) ∧
        annotated.filters[0]? = some ([.index 0], some (.string filter)) ∧
        annotated.filters[2]? = some ([.index 1, .index 0], some (.string filter')) ∧
        filter ≠ filter' := by
  intro segment report top below table
  have htop : Offers table 0 [.index 0] top "%2," := ⟨rfl, by decide, .inr rfl, rfl⟩
  have hbelow : Offers table 2 [.index 1, .index 0] below "%,2C" := ⟨rfl, by decide, .inl rfl, rfl⟩
  have hfree : IsCodeFree "%2,".toList := by decide
  have hfree' : IsCodeFree "%,2C".toList := by decide
  obtain ⟨hescape, hrows⟩ := filters_distinct
  exact ⟨htop, hbelow, hfree, hfree', hescape _ _ hfree hfree' (by decide),
    hrows report segment table 0 2 _ _ top below _ _ rfl (by decide) rfl htop hbelow hfree hfree'
      (by decide)⟩

end Pass
end ReportSegments
