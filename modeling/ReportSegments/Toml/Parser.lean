import ReportSegments.Toml.Quoted
import ReportSegments.Toml.Scalar
import ReportSegments.Toml.Tree

/-!
This module contains the reading of TOML documents. Each reader takes the text at its place and
gives what it has read and the text behind it; `fuel` bounds the number of steps and is taken from
the length of the text.
-/

namespace ReportSegments
namespace Toml

/--
Neither keys with more parts nor more deeply nested values are read.
-/
def nestingLimit : Nat := 79

def isKeyChar (c : Char) : Bool :=
  c.isAlphanum || c = '_' || c = '-'

def isScalarChar (c : Char) : Bool :=
  isKeyChar c || c = '+' || c = '.' || c = ':'

def dropBlanks (cs : List Char) : List Char :=
  cs.dropWhile fun c => c = ' ' || c = '\t'

def dropComment : List Char → List Char
  | '#' :: cs => cs.dropWhile isPlain
  | cs => cs

/--
The text behind the end of a line, before which only blanks and a comment may stand.
-/
def endLine? (cs : List Char) : Option (List Char) :=
  match dropComment (dropBlanks cs) with
  | [] => some []
  | '\n' :: rest => some rest
  | '\r' :: '\n' :: rest => some rest
  | _ => none

def dropLines : Nat → List Char → List Char
  | 0, cs => cs
  | fuel + 1, cs =>
    match dropComment (dropBlanks cs) with
    | '\n' :: rest => dropLines fuel rest
    | '\r' :: '\n' :: rest => dropLines fuel rest
    | rest => rest

def keyPart? : List Char → Option (String × List Char)
  | '"' :: rest => (basic? rest).map fun (text, rest) => (String.ofList text, rest)
  | '\x27' :: rest => (literal? rest).map fun (text, rest) => (String.ofList text, rest)
  | cs =>
    match cs.takeWhile isKeyChar with
    | [] => none
    | key => some (String.ofList key, cs.dropWhile isKeyChar)

/--
Reads the parts of a key, with blanks around each of them.
-/
def keyParts? : Nat → List Char → Option (List String × List Char)
  | 0, _ => none
  | fuel + 1, cs =>
    match keyPart? (dropBlanks cs) with
    | none => none
    | some (part, rest) =>
      match dropBlanks rest with
      | '.' :: rest => (keyParts? fuel rest).map fun (parts, rest) => (part :: parts, rest)
      | rest => some ([part], rest)

def key? (fuel : Nat) (cs : List Char) : Option (KeyPath × List Char) :=
  (keyParts? fuel cs).bind fun (parts, rest) =>
    match parts.getLast? with
    | some key =>
      if parts.length ≤ nestingLimit then some (⟨parts.dropLast, key⟩, rest) else none
    | none => none

/--
Reads a scalar without quotes. A date may be followed by a blank and a time.
-/
def bare? (cs : List Char) : Option (Raw × List Char) :=
  let word := cs.takeWhile isScalarChar
  let rest := cs.dropWhile isScalarChar
  match date? word, rest with
  | some (_, []), ' ' :: c :: rest =>
    if c.isDigit then
      let time := (c :: rest).takeWhile isScalarChar
      (scalar? (word ++ ' ' :: time)).map (·, (c :: rest).dropWhile isScalarChar)
    else
      (scalar? word).map (·, ' ' :: c :: rest)
  | _, rest => (scalar? word).map (·, rest)

mutual

/--
Reads a value inside `depth` brackets and braces.
-/
def value? (depth : Nat) : Nat → List Char → Option (Raw × List Char)
  | 0, _ => none
  | fuel + 1, '[' :: cs =>
    if depth < nestingLimit then
      (items? (depth + 1) fuel (dropLines fuel cs)).map fun (items, rest) => (.list items, rest)
    else
      none
  | fuel + 1, '{' :: cs =>
    if depth < nestingLimit then
      match dropBlanks cs with
      | '}' :: rest => some (.table [], rest)
      | cs =>
        (pairs? (depth + 1) fuel cs).bind fun (pairs, rest) =>
          (Entries.insertAll? pairs []).map fun entries => (.table (Entries.raw entries), rest)
    else
      none
  | _ + 1, '"' :: cs =>
    (quoted? ('"' :: cs)).map fun (text, rest) => (.text (String.ofList text), rest)
  | _ + 1, '\x27' :: cs =>
    (quoted? ('\x27' :: cs)).map fun (text, rest) => (.text (String.ofList text), rest)
  | _ + 1, cs => bare? cs

def items? (depth : Nat) : Nat → List Char → Option (List Raw × List Char)
  | 0, _ => none
  | _ + 1, ']' :: rest => some ([], rest)
  | fuel + 1, cs =>
    match value? depth fuel cs with
    | none => none
    | some (item, rest) =>
      match dropLines fuel rest with
      | ',' :: rest =>
        (items? depth fuel (dropLines fuel rest)).map fun (items, rest) => (item :: items, rest)
      | ']' :: rest => some ([item], rest)
      | _ => none

/--
Reads the entries of a table in braces and its closing brace.
-/
def pairs? (depth : Nat) : Nat → List Char → Option (List (KeyPath × Raw) × List Char)
  | 0, _ => none
  | fuel + 1, cs =>
    match key? fuel cs with
    | some (key, '=' :: rest) =>
      match value? depth fuel (dropBlanks rest) with
      | none => none
      | some (value, rest) =>
        match dropBlanks rest with
        | ',' :: rest =>
          (pairs? depth fuel rest).map fun (pairs, rest) => ((key, value) :: pairs, rest)
        | '}' :: rest => some ([(key, value)], rest)
        | _ => none
    | _ => none

end

inductive Line where
  | header (path : KeyPath)
  | doubleHeader (path : KeyPath)
  | pair (path : KeyPath) (value : Raw)

/--
Reads a line that has more than blanks and a comment.
-/
def line? (fuel : Nat) (cs : List Char) : Option (Line × List Char) :=
  match cs with
  | '[' :: '[' :: rest =>
    match key? fuel rest with
    | some (path, ']' :: ']' :: rest) => some (.doubleHeader path, rest)
    | _ => none
  | '[' :: rest =>
    match key? fuel rest with
    | some (path, ']' :: rest) => some (.header path, rest)
    | _ => none
  | cs =>
    match key? fuel cs with
    | some (path, '=' :: rest) =>
      (value? 0 fuel (dropBlanks rest)).map fun (value, rest) => (.pair path value, rest)
    | _ => none

def lines? : Nat → List Char → Option (List Line)
  | 0, _ => none
  | fuel + 1, cs =>
    match dropLines fuel cs with
    | [] => some []
    | cs =>
      (line? fuel cs).bind fun (line, rest) =>
        (endLine? rest).bind fun rest => (lines? fuel rest).map (line :: ·)

/--
The values in front of the first header, and the headers with the values behind them.
-/
def sections : List Line → List (KeyPath × Raw) × List (Bool × KeyPath × List (KeyPath × Raw))
  | [] => ([], [])
  | .pair path value :: lines =>
    let (pairs, rest) := sections lines
    ((path, value) :: pairs, rest)
  | .header path :: lines =>
    let (pairs, rest) := sections lines
    ([], (false, path, pairs) :: rest)
  | .doubleHeader path :: lines =>
    let (pairs, rest) := sections lines
    ([], (true, path, pairs) :: rest)

def build? (lines : List Line) : Option Entries :=
  let (pairs, rest) := sections lines
  (Entries.insertAll? pairs []).bind fun entries =>
    rest.foldlM (fun entries (double, path, pairs) =>
      if double then entries.addToTables? path pairs else entries.addTable? path pairs) entries

/--
Reads a TOML document. A byte order mark at its front is skipped.
-/
def read? (s : String) : Option Raw :=
  let cs :=
    match s.toList with
    | '\uFEFF' :: cs => cs
    | cs => cs
  ((lines? (cs.length + 2) cs).bind build?).map fun entries => .table (Entries.raw entries)

end Toml
end ReportSegments
