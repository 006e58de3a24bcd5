import Mathlib.Logic.Function.Basic
import ReportSegments.Program.Host

/-!
This module contains what a write does to the files of a system. The files themselves are not
defined: all that is known of them are the laws of `FileSystem.Lawful`.
-/

namespace ReportSegments
namespace FileSystem

/--
Every path leads where it led, and every file holds what it held.
-/
structure Unchanged (files : FileSystem σ φ) (before after : σ) : Prop where
  paths : files.locate? after = files.locate? before
  contents : files.content? after = files.content? before

section Lawful

variable {files : FileSystem σ φ} {before after : σ} {path : String} {content : ByteArray}

theorem Unchanged.refl (files : FileSystem σ φ) (state : σ) : files.Unchanged state state :=
  ⟨rfl, rfl⟩

end Lawful

section Host

variable {files : FileSystem σ φ} {machine : Machine σ}

@[simp]
theorem run_read? (path : String) :
    (files.host.read? path).run machine = pure (files.read? machine.files path, machine) := rfl

@[simp]
theorem run_print (text : String) :
    (files.host.print text).run machine =
      pure ((), { machine with stdout := machine.stdout ++ text }) := rfl

@[simp]
theorem run_printError (text : String) :
    (files.host.printError text).run machine =
      pure ((), { machine with stderr := machine.stderr ++ text }) := rfl

@[simp]
theorem run_isTerminal : files.host.isTerminal.run machine = pure (machine.isTerminal, machine) :=
  rfl

@[simp]
theorem run_write (path : String) (content : ByteArray) :
    (files.host.write path content).run machine =
      pure ((files.write machine.files path content).1,
        { machine with files := (files.write machine.files path content).2 }) := rfl

/--
Reading leaves the machine as it is, so it does not matter when a file is read.
-/
@[simp]
theorem run_mapM_read? (paths : List String) :
    (paths.mapM fun path => do return (path, ← files.host.read? path)).run machine =
      pure (paths.map fun path => (path, files.read? machine.files path), machine) := by
  induction paths with
  | nil => rfl
  | cons path paths ih =>
    rw [List.mapM_cons]
    simp only [StateT.run_bind, StateT.run_pure, run_read?, pure_bind, ih, List.map_cons]

end Host

section Folder

variable {before after : String → Option ByteArray} {path : String} {content : ByteArray}

/--
The files of one folder, under their names. A path with a slash leads out of it and to nothing.
-/
def folder : FileSystem (String → Option ByteArray) String where
  locate? entries path := (entries path).map fun _ => path
  content? entries := entries
  isReadable _ _ := true
  write entries path content :=
    if '/' ∈ path.toList then (false, entries)
    else (true, Function.update entries path (some content))

end Folder

end FileSystem
end ReportSegments
