import ReportSegments.Proofs.Program.Run

/-!
This module contains what becomes of the popover parameter that a run prints for a row action. It
is read back as what it was made of only if the API method can stand in front of a colon.
-/

namespace ReportSegments

namespace VisitsLink

/--
The popover parameter that is printed for a row action comes back as the API method, the expression
printed beside it and no extra parameters just if the API method has no colon and is not empty. It
is read at all just if the API method is not empty and does not start with a colon.
-/
theorem decode_popover_iff {files : FileSystem σ φ} {before : σ} {terminal : Bool}
    {invocation : Invocation} {report label : String} {apiMethod : Option String}
    (hcommand : invocation.command = .rowAction report label apiMethod)
    (hexit : (invocation.runOn files before terminal).1 = 0) :
    ∃ config document link, loadConfig (files.read? before) invocation.config = .ok config ∧
      loadReport (files.read? before) report = .ok document ∧
      ofLabel config document label apiMethod = .ok link ∧
      (invocation.runOn files before terminal).2.stdout =
        invocation.format.shown link.text link.json ∧
      let used := apiMethod.getD document.name
      (Popover.decode link.popover = .ok ⟨used, link.filter, .object []⟩ ↔
        used ≠ "" ∧ ':' ∉ used.toList) ∧
      ((∃ popover, Popover.decode link.popover = .ok popover) ↔
        used ≠ "" ∧ used.toList.head? ≠ some ':') := by
  have hanswers := Invocation.answers_of_exitCode hexit
  unfold Invocation.Answers at hanswers
  rw [hcommand] at hanswers
  obtain ⟨config, hconfig, document, hdocument, segment, hsegment, hanswer⟩ := hanswers
  refine ⟨config, document, _, hconfig, hdocument, ofLabel_eq_ok_iff.2 ⟨segment, hsegment, rfl⟩,
    hanswer, ?_⟩
  have hfilter := RowAction.buildEscaped_ne_empty segment.key (RowAction.rawLabel label)
  refine ⟨⟨?_, ?_⟩, Popover.exists_decode_encode_iff hfilter⟩
  . intro hdecode
    obtain ⟨hmethod, hcolon, -⟩ := Popover.of_decode hdecode
    exact ⟨hmethod, hcolon⟩
  . rintro ⟨hmethod, hcolon⟩
    exact Popover.decode_encode_of_no_extra hmethod hcolon hfilter

theorem decode_popover_iff_named :
    let report := "\x7b\"dimension\":\x7b\"segments\":[\x7b\"key\":\"k\"\x7d]\x7d\x7d"
    let before (path : String) := if path = "report.json" then some report.toUTF8 else none
    let invocation : Invocation := { command := .rowAction "report.json" "a:b" (some "API.get") }
    let result := invocation.runOn .folder before false
    result.1 = 0 ∧
      ∃ link : VisitsLink, result.2.stdout = link.text ∧
        Popover.decode link.popover = .ok ⟨"API.get", link.filter, .object []⟩ := by
  intro report before invocation result
  have hexit : result.1 = 0 := by decide +kernel
  have hmethod : "API.get" ≠ "" ∧ ':' ∉ "API.get".toList := by decide
  obtain ⟨_, _, link, -, -, -, htext, hdecode, -⟩ := decode_popover_iff rfl hexit
  exact ⟨hexit, link, htext, hdecode.2 hmethod⟩

/--
A report may have no name, and no API method need be given: then the parameter is not read.
-/
theorem decode_popover_unnamed :
    let report := "\x7b\"dimension\":\x7b\"segments\":[\x7b\"key\":\"k\"\x7d]\x7d\x7d"
    let before (path : String) := if path = "report.json" then some report.toUTF8 else none
    let invocation : Invocation := { command := .rowAction "report.json" "x" none }
    let result := invocation.runOn .folder before false
    let popover := ":k=@x:%7B%7D"
    result.1 = 0 ∧
      result.2.stdout =
        "segment: k=@x\npopover: " ++ popover ++
          "\ntitle:   Visits log showing visits where k is \"x\"\n" ∧
      Popover.decode popover = .error ⟨popover⟩ := by
  intro report before invocation result popover
  refine ⟨by decide +kernel, by decide +kernel, ?_⟩
  have hpopover : Popover.encode ⟨"", "k=@x", .object []⟩ = popover := by decide +kernel
  rw [← hpopover]
  exact Popover.decode_encode_eq_error (.inl rfl)

end VisitsLink
end ReportSegments
