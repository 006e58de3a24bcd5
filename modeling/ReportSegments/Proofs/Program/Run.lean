import Mathlib.Data.List.Basic
import ReportSegments.Proofs.Program.Answerable
import ReportSegments.Proofs.Program.FileSystem

/-!
This module contains what a run leaves behind on a machine: its answer, printed and in the file that
is named, or else the files as they were.
-/

namespace ReportSegments
namespace Invocation

/--
A run on a machine with nothing printed yet: the exit code and the machine that is left.
-/
def runOn (files : FileSystem σ φ) (before : σ) (terminal : Bool) (invocation : Invocation) :
    Nat × Machine σ :=
  (invocation.run files.host).run { files := before, isTerminal := terminal }

/--
Only the sources of a run matter for its answer.
-/
theorem render_congr {read? other? : String → Option ByteArray} {invocation : Invocation}
    (terminal : Bool) (h : ∀ path ∈ invocation.sources, read? path = other? path) :
    invocation.render read? terminal = invocation.render other? terminal := by
  have hconfig (path : String) (hpath : invocation.config = some path) :
      read? path = other? path := h path (by simp [sources, hpath])
  have hreport (path : String) (hpath : invocation.command.report? = some path) :
      read? path = other? path := h path (by simp [sources, hpath])
  unfold render
  rw [loadConfig_congr hconfig]
  cases hcommand : invocation.command with
  | annotate report =>
    rw [hcommand] at hreport
    simp only [loadReport_congr (hreport report rfl)]
  | recompose report row =>
    rw [hcommand] at hreport
    simp only [loadReport_congr (hreport report rfl)]
  | describe text report =>
    rw [hcommand] at hreport
    have hregistry (config : Config) :
        loadRegistry read? config report = loadRegistry other? config report :=
      loadRegistry_congr hreport
    simp only [hregistry]
  | rowAction report label apiMethod =>
    rw [hcommand] at hreport
    simp only [loadReport_congr (hreport report rfl)]

variable {files : FileSystem σ φ} {before : σ} {terminal : Bool} {invocation : Invocation}

/--
The ways in which a run can end.
-/
inductive Ends (files : FileSystem σ φ) (before : σ) (terminal : Bool) (invocation : Invocation) :
    Nat × Machine σ → Prop where
  | failed {error : RunError} (hanswer : ¬invocation.Answerable (files.read? before)) :
      Ends files before terminal invocation
        (1, ⟨before, terminal, "", "Error: " ++ error.message ++ "\n"⟩)
  | printed {answer : String} (hanswer : invocation.Answers (files.read? before) terminal answer)
      (houtput : invocation.output = none) :
      Ends files before terminal invocation (0, ⟨before, terminal, answer, ""⟩)
  | written {answer path : String} {after : σ}
      (hanswer : invocation.Answers (files.read? before) terminal answer)
      (houtput : invocation.output = some path)
      (hwrite : files.write before path answer.toUTF8 = (true, after)) :
      Ends files before terminal invocation (0, ⟨after, terminal, answer, ""⟩)
  | refused {answer path : String} {after : σ}
      (hanswer : invocation.Answers (files.read? before) terminal answer)
      (houtput : invocation.output = some path)
      (hwrite : files.write before path answer.toUTF8 = (false, after)) :
      Ends files before terminal invocation
        (1, ⟨after, terminal, answer, "Error: " ++ (RunError.output path).message ++ "\n"⟩)

theorem ends_runOn (files : FileSystem σ φ) (before : σ) (terminal : Bool)
    (invocation : Invocation) :
    invocation.Ends files before terminal (invocation.runOn files before terminal) := by
  have hcontents :
      invocation.render (fun path =>
        ((invocation.sources.map fun path => (path, files.read? before path)).lookup path).join)
          terminal = invocation.render (files.read? before) terminal := by
    apply render_congr
    intro path hpath
    rw [List.lookup_graph _ hpath]
    rfl
  unfold runOn run
  simp only [StateT.run_bind, FileSystem.run_mapM_read?, FileSystem.run_isTerminal, pure_bind,
    hcontents]
  split
  . next error hrender =>
    simp only [StateT.run_bind, FileSystem.run_printError, pure_bind, String.empty_append]
    exact .failed (not_answerable_of_render hrender)
  . next answer hrender =>
    have hanswer := render_eq_ok_iff.1 hrender
    simp only [StateT.run_bind, FileSystem.run_print, pure_bind, String.empty_append]
    split
    . next houtput => exact .printed hanswer houtput
    . next path houtput =>
      simp only [StateT.run_bind, FileSystem.run_write, pure_bind]
      split
      . next hdone => exact .written hanswer houtput (Prod.ext hdone rfl)
      . next hdone =>
        simp only [StateT.run_bind, FileSystem.run_printError, pure_bind, String.empty_append]
        exact .refused hanswer houtput (Prod.ext (Bool.eq_false_iff.2 hdone) rfl)

theorem answers_of_exitCode (h : (invocation.runOn files before terminal).1 = 0) :
    invocation.Answers (files.read? before) terminal
      (invocation.runOn files before terminal).2.stdout := by
  have hends := invocation.ends_runOn files before terminal
  generalize invocation.runOn files before terminal = result at h hends
  cases hends with
  | failed => contradiction
  | printed hanswer => exact hanswer
  | written hanswer => exact hanswer
  | refused => contradiction

end Invocation
end ReportSegments
