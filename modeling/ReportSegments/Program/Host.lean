/-!
This module contains what a program needs from the system on which it runs: files that can be read
and written, and somewhere to print. A machine does all of this with a state.
-/

namespace ReportSegments

/--
What a system does for a program, with the effects of `m`.
-/
structure Host (m : Type → Type) where
  /-- The content of the file at a path, if it can be read. -/
  read? : String → m (Option ByteArray)
  /-- Gives the file at a path a content, and tells whether that has succeeded. -/
  write : String → ByteArray → m Bool
  print : String → m Unit
  printError : String → m Unit
  /-- Whether what is printed goes to a terminal. -/
  isTerminal : m Bool

/--
A file system with the states `σ` and the files `φ`. Several paths may lead to one file, and a path
need not lead to one.
-/
structure FileSystem (σ φ : Type) where
  locate? : σ → String → Option φ
  /-- What a file holds, if it is there. -/
  content? : σ → φ → Option ByteArray
  /-- Whether a program is allowed to read a file, and succeeds with it. -/
  isReadable : σ → φ → Bool
  /-- Creates the file at a path or replaces its content: whether that has succeeded, and the state
  that is left. -/
  write : σ → String → ByteArray → Bool × σ

/--
A machine with one program: its files, and what has been printed.
-/
structure Machine (σ : Type) where
  files : σ
  isTerminal : Bool := false
  stdout : String := ""
  stderr : String := ""

namespace FileSystem

def read? (files : FileSystem σ φ) (state : σ) (path : String) : Option ByteArray :=
  ((files.locate? state path).filter (files.isReadable state)).bind (files.content? state)

/--
What a machine with such files does for a program.
-/
def host (files : FileSystem σ φ) : Host (StateM (Machine σ)) where
  read? path := do return files.read? (← get).files path
  write path content :=
    modifyGet fun machine =>
      let (done, state) := files.write machine.files path content
      (done, { machine with files := state })
  print text := modify fun machine => { machine with stdout := machine.stdout ++ text }
  printError text := modify fun machine => { machine with stderr := machine.stderr ++ text }
  isTerminal := do return (← get).isTerminal

end FileSystem
end ReportSegments
