import ReportSegments.Program.Run
import ReportSegments.Proofs.Action.RowAction
import ReportSegments.Proofs.Display.Ascent
import ReportSegments.Proofs.Program.Source

/-!
This module contains what a run has for an answer and what it needs for one. All that can be missing
is told by the files that it reads and by its command: what has been found can always be shown.
-/

namespace ReportSegments

namespace Display.Tree

theorem exists_row_of_resolve? {tree : Tree} {path : List Nat} {place : RowRef}
    (h : tree.resolve? path = some place) : ∃ row, tree.row? place = some row := by
  have hgo (path : List Nat) {table i : Nat} (h : resolve?.go tree table i path = some place) :
      ∃ row, tree.row? place = some row := by
    induction path generalizing table i with
    | nil =>
      obtain ⟨row, hrow, rfl⟩ := Option.map_eq_some_iff.1 h
      exact ⟨row, hrow⟩
    | cons j path ih =>
      obtain ⟨below, -, h⟩ := Option.bind_eq_some_iff.1 h
      exact ih h
  cases path with
  | nil => contradiction
  | cons i path => exact hgo path h

/--
A row that is found has a way up, so its label can be put together.
-/
theorem exists_recompose_of_resolve? {tree : Tree} {path : List Nat} {place : RowRef}
    (separator : String) (h : tree.resolve? path = some place) :
    ∃ label, tree.recompose separator place = .ok label := by
  obtain ⟨_, hrow⟩ := exists_row_of_resolve? h
  obtain ⟨_, _, -, -, -, hlabel⟩ := exists_ascent separator place "" hrow
  exact ⟨_, hlabel⟩

end Display.Tree

theorem Recomposed.ofRow_eq_ok_iff {rules : LayoutRules} {document : Document} {row : String}
    {recomposed : Recomposed} :
    ofRow rules document row = .ok recomposed ↔
      ∃ path, Row.readPath? row = some path ∧
        let tree := Display.Tree.ofTable rules document.table
        ∃ place, tree.resolve? path = some place ∧
          ∃ label, tree.recompose rules.separator place = .ok label ∧
            recomposed = {
              row
              label
              filter := document.segment?.map fun segment =>
                Clause.buildEscaped segment.key "==" label } := by
  unfold ofRow
  simp only [bind_eq_ok_iff, require_eq_ok_iff]
  apply exists_congr
  intro path
  apply and_congr_right'
  apply exists_congr
  intro place
  apply and_congr_right'
  cases Display.Tree.recompose _ _ _ with
  | error error => exact iff_of_false nofun (by simp)
  | ok label => simp [pure, Except.pure, eq_comm]

theorem VisitsLink.ofLabel_eq_ok_iff {config : Config} {document : Document} {label : String}
    {apiMethod : Option String} {link : VisitsLink} :
    ofLabel config document label apiMethod = .ok link ↔
      ∃ segment, document.segment? = some segment ∧
        let filter := Clause.buildEscaped segment.key "=@" (RowAction.rawLabel label)
        link = {
          filter
          popover := Popover.encode ⟨apiMethod.getD document.name, filter, .object []⟩
          title := RowAction.title? "Visits log" filter (config.registryFor document.dimension)
        } := by
  unfold ofLabel Document.segment?
  simp only [bind_eq_ok_iff, require_eq_ok_iff]
  cases hsegment : Dimension.first? document.dimension with
  | none =>
    have hnone : (RowAction.ofDimension document.dimension).expression? label = none := by
      unfold RowAction.expression? RowAction.ofDimension
      rw [hsegment]
      rfl
    simp [hnone]
  | some segment =>
    rw [RowAction.expression?_ofDimension hsegment]
    simp [pure, Except.pure, eq_comm]

namespace Invocation

/--
What a run needs for an answer: the files that it reads are what they are taken for, there is a row
at the path or a segment to filter by, and the expression is one.
-/
def Answerable (read? : String → Option ByteArray) (invocation : Invocation) : Prop :=
  ∃ config, loadConfig read? invocation.config = .ok config ∧
    match invocation.command with
    | .annotate report => ∃ document, loadReport read? report = .ok document
    | .recompose report row =>
      ∃ document, loadReport read? report = .ok document ∧
        ∃ path, Row.readPath? row = some path ∧
          ∃ place, (Display.Tree.ofTable config.layout document.table).resolve? path = some place
    | .describe text report =>
      (∀ path, report = some path → ∃ document, loadReport read? path = .ok document) ∧
        ∃ expression, Expression.parse text = .ok expression
    | .rowAction report _ _ =>
      ∃ document, loadReport read? report = .ok document ∧
        ∃ segment, document.segment? = some segment

/--
What a run has for an answer: the text that is shown of what its command is for.
-/
def Answers (read? : String → Option ByteArray) (terminal : Bool) (invocation : Invocation)
    (answer : String) : Prop :=
  ∃ config, loadConfig read? invocation.config = .ok config ∧
    match invocation.command with
    | .annotate report =>
      ∃ document, loadReport read? report = .ok document ∧
        let annotated := Annotated.ofRun (config.passes document.segment?) document
        let text := annotated.text (invocation.color.coloured terminal)
        answer = invocation.format.shown text annotated.json
    | .recompose report row =>
      ∃ document, loadReport read? report = .ok document ∧
        let tree := Display.Tree.ofTable config.layout document.table
        ∃ path, Row.readPath? row = some path ∧
          ∃ place, tree.resolve? path = some place ∧
            ∃ label, tree.recompose config.layout.separator place = .ok label ∧
              let recomposed : Recomposed := {
                row
                label
                filter := document.segment?.map fun segment =>
                  Clause.buildEscaped segment.key "==" label }
              answer = invocation.format.shown recomposed.text recomposed.json
    | .describe text report =>
      ∃ registry, loadRegistry read? config report = .ok registry ∧
        ∃ expression, Expression.parse text = .ok expression ∧
          answer =
            invocation.format.shown (expression.text registry) (expression.json registry)
    | .rowAction report label apiMethod =>
      ∃ document, loadReport read? report = .ok document ∧
        ∃ segment, document.segment? = some segment ∧
          let filter := Clause.buildEscaped segment.key "=@" (RowAction.rawLabel label)
          let link : VisitsLink := {
            filter
            popover := Popover.encode ⟨apiMethod.getD document.name, filter, .object []⟩
            title := RowAction.title? "Visits log" filter (config.registryFor document.dimension) }
          answer = invocation.format.shown link.text link.json

variable {read? : String → Option ByteArray} {terminal : Bool} {invocation : Invocation}

theorem render_eq_ok_iff {answer : String} :
    invocation.render read? terminal = .ok answer ↔
      invocation.Answers read? terminal answer := by
  unfold render Answers
  rw [bind_eq_ok_iff]
  apply exists_congr
  intro config
  apply and_congr_right'
  cases invocation.command with
  | annotate report => simp only [bind_eq_ok_iff, pure_eq_ok_iff]
  | recompose report row =>
    simp only [bind_eq_ok_iff, pure_eq_ok_iff, Recomposed.ofRow_eq_ok_iff]
    apply exists_congr
    intro document
    apply and_congr_right'
    constructor
    . rintro ⟨_, ⟨path, hpath, place, hplace, label, hlabel, rfl⟩, hanswer⟩
      exact ⟨path, hpath, place, hplace, label, hlabel, hanswer⟩
    . rintro ⟨path, hpath, place, hplace, label, hlabel, hanswer⟩
      exact ⟨_, ⟨path, hpath, place, hplace, label, hlabel, rfl⟩, hanswer⟩
  | describe text report =>
    simp only [bind_eq_ok_iff]
    apply exists_congr
    intro registry
    apply and_congr_right'
    cases Expression.parse text with
    | error error => exact iff_of_false nofun nofun
    | ok expression => simp [pure_eq_ok_iff]
  | rowAction report label apiMethod =>
    simp only [bind_eq_ok_iff, pure_eq_ok_iff, VisitsLink.ofLabel_eq_ok_iff]
    apply exists_congr
    intro document
    apply and_congr_right'
    constructor
    . rintro ⟨_, ⟨segment, hsegment, rfl⟩, hanswer⟩
      exact ⟨segment, hsegment, hanswer⟩
    . rintro ⟨segment, hsegment, hanswer⟩
      exact ⟨_, ⟨segment, hsegment, rfl⟩, hanswer⟩

theorem exists_answers_iff :
    (∃ answer, invocation.Answers read? terminal answer) ↔ invocation.Answerable read? := by
  unfold Answers Answerable
  rw [exists_comm]
  apply exists_congr
  intro config
  rw [exists_and_left]
  apply and_congr_right'
  cases invocation.command with
  | annotate report =>
    constructor
    . rintro ⟨_, document, hdocument, -⟩
      exact ⟨document, hdocument⟩
    . rintro ⟨document, hdocument⟩
      exact ⟨_, document, hdocument, rfl⟩
  | recompose report row =>
    constructor
    . rintro ⟨_, document, hdocument, path, hpath, place, hplace, -⟩
      exact ⟨document, hdocument, path, hpath, place, hplace⟩
    . rintro ⟨document, hdocument, path, hpath, place, hplace⟩
      obtain ⟨label, hlabel⟩ :=
        Display.Tree.exists_recompose_of_resolve? config.layout.separator hplace
      exact ⟨_, document, hdocument, path, hpath, place, hplace, label, hlabel, rfl⟩
  | describe text report =>
    constructor
    . rintro ⟨_, registry, hregistry, expression, hexpression, -⟩
      exact ⟨exists_loadRegistry_eq_ok_iff.1 ⟨registry, hregistry⟩, expression, hexpression⟩
    . rintro ⟨hreport, expression, hexpression⟩
      obtain ⟨registry, hregistry⟩ := exists_loadRegistry_eq_ok_iff.2 hreport
      exact ⟨_, registry, hregistry, expression, hexpression, rfl⟩
  | rowAction report label apiMethod =>
    constructor
    . rintro ⟨_, document, hdocument, segment, hsegment, -⟩
      exact ⟨document, hdocument, segment, hsegment⟩
    . rintro ⟨document, hdocument, segment, hsegment⟩
      exact ⟨_, document, hdocument, segment, hsegment, rfl⟩

theorem not_answerable_of_render {error : RunError}
    (h : invocation.render read? terminal = .error error) : ¬invocation.Answerable read? := by
  rw [← exists_answers_iff]
  rintro ⟨answer, hanswer⟩
  rw [← render_eq_ok_iff, h] at hanswer
  contradiction

end Invocation
end ReportSegments
