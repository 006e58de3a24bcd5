import ReportSegments.Proofs.Json.Pretty
import ReportSegments.Proofs.Report.RoundTrip
import ReportSegments.Render.Annotated

/-!
This module contains that the JSON form of an annotated report is a report document with its name
and its table. What the passes did is skipped when the document is read.
-/

namespace ReportSegments

theorem PassReport.exact_json (report : PassReport) : report.json.Exact := by
  apply Json.Exact.object
  . simp
  . simp only [List.forall_mem_cons]
    refine ⟨.string _, .integer _, ?_, by simp⟩
    cases report.error with
    | none => exact .null
    | some error => exact .string error.message

namespace Annotated

theorem exact_json {annotated : Annotated} (h : annotated.table.IsExact) :
    annotated.json.Exact := by
  apply Json.Exact.object
  . simp
  . simp only [List.forall_mem_cons]
    refine ⟨.string _, h.exact_json, ?_, by simp⟩
    apply Json.Exact.array
    rw [List.forall_mem_map]
    intro report _
    exact report.exact_json

/--
An annotated report in its JSON form is read as a document without a dimension, whatever its passes
did, if the numbers in its table are integers and at most 127 containers are inside each other.
-/
theorem parse?_pretty_json (annotated : Annotated) (hexact : annotated.table.IsExact)
    (hnesting : annotated.json.nesting ≤ 127) :
    Document.parse? annotated.json.pretty =
      some { name := annotated.name, dimension := none, table := annotated.table } := by
  have hjson := exact_json hexact
  apply Document.parse?_of_scans hjson (hjson.scans_prettyChars 0) hnesting
  apply Raw.document?_object hjson
  . rfl
  . simp [List.lookup_cons]
  . simp [List.lookup_cons]
  . exact hexact

theorem parse?_pretty_json_misconfigured :
    let annotated : Annotated := {
      name := "Actions.\"getPageUrls\""
      table := {
        rows := [{
          label := "/"
          metadata := ⟨[("segmentFilter", .string "pageUrl==%2C\n"), ("empty", .array [])],
            by decide⟩
          subtable := some {} }] }
      passes := [{ pass := "segment", error := some (.missingDelimiter ["a", "b\""]) },
        { pass := "segment_value", annotated := 1 }] }
    annotated.table.IsExact ∧ annotated.json.nesting ≤ 127 ∧
      Document.parse? annotated.json.pretty =
        some { name := annotated.name, dimension := none, table := annotated.table } := by
  intro annotated
  have hexact : annotated.table.IsExact := by
    simp [Rows.IsExact, annotated, Rows.flatten, Rows.flattenRows, Rows.flattenRow,
      Rows.flattenSubtable, Rows.flattenSummary, Fields.IsExact, Fields.empty]
    rintro name value (⟨-, rfl⟩ | ⟨-, rfl⟩)
    . apply Json.Exact.string
    . apply Json.Exact.array
      simp
  have hnesting : annotated.json.nesting ≤ 127 := by decide
  exact ⟨hexact, hnesting, parse?_pretty_json annotated hexact hnesting⟩

end Annotated
end ReportSegments
