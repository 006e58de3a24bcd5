import ReportSegments.Action.RowAction
import ReportSegments.Proofs.Action.Popover
import ReportSegments.Proofs.Expression.Describe

/-!
This module contains the way of a label through the action of its row: into an expression, through
the parameter of a popover, and into the title of the list of visits.
-/

namespace ReportSegments
namespace RowAction

variable {dimension : Option Dimension} {segment : Segment}

theorem isAvailable_ofDimension_iff :
    (ofDimension dimension).isAvailable = true ↔
      ∃ own, dimension = some own ∧ own.segments ≠ [] := by
  unfold isAvailable ofDimension Dimension.first?
  cases dimension with
  | none => simp
  | some own => cases own.segments <;> simp

/--
One `@` in front of a label is removed, and no more than one.
-/
theorem eq_rawLabel (label : String) :
    label = "@" ++ rawLabel label ∨ label = rawLabel label ∧ label.toList.head? ≠ some '@' := by
  unfold rawLabel
  split
  . next cs hlabel =>
    apply Or.inl
    rw [← String.toList_inj, String.toList_append, hlabel]
    simp
  . next hlabel =>
    refine .inr ⟨rfl, ?_⟩
    intro hhead
    obtain ⟨cs, hcs⟩ := List.head?_eq_some_iff.1 hhead
    exact hlabel cs hcs

theorem expression?_ofDimension (h : Dimension.first? dimension = some segment) (label : String) :
    (ofDimension dimension).expression? label =
      some (Clause.buildEscaped segment.key "=@" (rawLabel label)) := by
  unfold expression? ofDimension
  rw [h]
  rfl

theorem buildEscaped_ne_empty (key value : String) : Clause.buildEscaped key "=@" value ≠ "" := by
  unfold Clause.buildEscaped Clause.build
  simp

theorem title?_buildEscaped {key : String} (h : ¬"=@".toList <:+: key.toList)
    (base value : String) (registry : Registry) :
    title? base (Clause.buildEscaped key "=@" value) registry =
      some (base ++ " showing visits where " ++ registry.resolve key ++ " is \"" ++
        Percent.decode (Clause.escape value) ++ "\"") := by
  have hdelimits : Clause.Delimits "=@" key := Clause.delimits_of_not_infix rfl (by decide) h
  have hdescribe := Clause.describe?_build (by decide) hdelimits (Clause.escape value) registry
  unfold title?
  change (Clause.describe? (Clause.build key "=@" (Clause.escape value)) "=@" registry).map _ = _
  rw [hdescribe, Option.map_some]
  simp only [String.append_assoc]

/--
A label of a report whose segment has no `=@` in its key leads to an expression that goes through
the parameter of a popover unchanged, and to a title with the name of the segment and the label
without one `@` in front. The label is shown as it is if it has no percent codes.
-/
theorem visits_of_label (dimension : Option Dimension) (label base apiMethod : String)
    (registry : Registry) :
    ((ofDimension dimension).isAvailable = true ↔
      ∃ own, dimension = some own ∧ own.segments ≠ []) ∧
    ∀ segment, Dimension.first? dimension = some segment →
      ¬"=@".toList <:+: segment.key.toList → apiMethod ≠ "" → ':' ∉ apiMethod.toList →
        ∃ raw expression,
          (label = "@" ++ raw ∨ label = raw ∧ label.toList.head? ≠ some '@') ∧
          (ofDimension dimension).expression? label = some expression ∧
          Popover.decode (Popover.encode ⟨apiMethod, expression, .object []⟩) =
            .ok ⟨apiMethod, expression, .object []⟩ ∧
          title? base expression registry =
            some (base ++ " showing visits where " ++
              (registry.displayName? segment.key).getD segment.key ++ " is \"" ++
                Percent.decode (Clause.escape raw) ++ "\"") ∧
          (Percent.hasEscape raw.toList = false →
            Percent.decode (Clause.escape raw) = raw) := by
  refine ⟨isAvailable_ofDimension_iff, ?_⟩
  intro segment hsegment hkey hmethod hcolon
  refine ⟨rawLabel label, _, eq_rawLabel label, expression?_ofDimension hsegment label, ?_, ?_, ?_⟩
  . exact Popover.decode_encode_of_no_extra hmethod hcolon (buildEscaped_ne_empty _ _)
  . exact title?_buildEscaped hkey base (rawLabel label) registry
  . exact Clause.decode_escape

theorem visits_of_label_markers :
    let segment : Segment := { key := "k=" }
    let report : Option Dimension := some { segments := [segment, { key := "other=@" }] }
    let label := "@@a=@b:c,d;%4"
    let registry : Registry := ⟨[("k=", "Name")]⟩
    Dimension.first? report = some segment ∧ ¬"=@".toList <:+: segment.key.toList ∧
      "Api.get" ≠ "" ∧ ':' ∉ "Api.get".toList ∧
      ∃ raw expression,
        (label = "@" ++ raw ∨ label = raw ∧ label.toList.head? ≠ some '@') ∧
        (ofDimension report).expression? label = some expression ∧
        Popover.decode (Popover.encode ⟨"Api.get", expression, .object []⟩) =
          .ok ⟨"Api.get", expression, .object []⟩ ∧
        title? "Visits log" expression registry =
          some ("Visits log" ++ " showing visits where " ++ "Name" ++ " is \"" ++
            Percent.decode (Clause.escape raw) ++ "\"") ∧
        (Percent.hasEscape raw.toList = false → Percent.decode (Clause.escape raw) = raw) := by
  intro segment report label registry
  have hkey : ¬"=@".toList <:+: segment.key.toList := by decide
  have hmethod : "Api.get" ≠ "" := by decide
  have hcolon : ':' ∉ "Api.get".toList := by decide
  exact ⟨rfl, hkey, hmethod, hcolon,
    (visits_of_label report label "Visits log" "Api.get" registry).2 segment rfl hkey hmethod
      hcolon⟩

end RowAction
end ReportSegments
