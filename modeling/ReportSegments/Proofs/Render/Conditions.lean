import ReportSegments.Proofs.Expression.Describe
import ReportSegments.Render.Conditions

/-!
This module contains that an expression of a single condition is described by the name and the value
that the list of its conditions shows.
-/

namespace ReportSegments
namespace Expression

open Text (trim)

/--
Where an expression without blanks around it and without `;` is read as a single condition, it is
split at the operator of this condition into its key and its value, and described by the name and
the value that are listed for it.
-/
theorem describe?_of_parse {s : String} {c : Condition} (registry : Registry)
    (htrim : trim s.toList = s.toList) (hsep : ';' ∉ s.toList) (hparse : parse s = .ok [[c]]) :
    ∃ raw fields,
      Clause.split? s c.operator.text = some (c.key, raw) ∧ Percent.decode raw = c.value ∧
      Clause.describe? s c.operator.text registry =
        some (registry.resolve c.key ++ " is \"" ++ c.value ++ "\"") ∧
      json registry [[c]] = .object [("and", .array [.array [.object fields]])] ∧
      fields.lookup "name" = some (.string (registry.resolve c.key)) ∧
      fields.lookup "value" = some (.string c.value) := by
  obtain ⟨raw, hsplit, hraw⟩ := (spells_of_parse htrim hsep hparse).exists_split?
  refine ⟨raw, _, hsplit, hraw, ?_, rfl, ?_, ?_⟩
  . rw [Clause.describe?_of_split? hsplit, hraw]
  . rfl
  . rfl

theorem describe?_of_parse_operators :
    let s := "a.b<=c=@%2C<"
    let c : Condition := ⟨"a.b", .atMost, "c=@,<"⟩
    let registry : Registry := ⟨[("a.b", "Name")]⟩
    trim s.toList = s.toList ∧ ';' ∉ s.toList ∧ parse s = .ok [[c]] ∧
      ∃ raw fields,
        Clause.split? s "<=" = some ("a.b", raw) ∧ Percent.decode raw = "c=@,<" ∧
        Clause.describe? s "<=" registry = some ("Name" ++ " is \"" ++ "c=@,<" ++ "\"") ∧
        json registry [[c]] = .object [("and", .array [.array [.object fields]])] ∧
        fields.lookup "name" = some (.string "Name") ∧
        fields.lookup "value" = some (.string "c=@,<") := by
  intro s c registry
  have htrim : trim s.toList = s.toList := by decide
  have hsep : ';' ∉ s.toList := by decide
  have hparse : parse s = .ok [[c]] := by decide
  exact ⟨htrim, hsep, hparse, describe?_of_parse registry htrim hsep hparse⟩

end Expression
end ReportSegments
