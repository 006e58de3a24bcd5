import ReportSegments.Json.Basic
import ReportSegments.Text.Hex

/-!
This module contains the two written forms of JSON values: compact, without any blank, and pretty,
with one item per line.
-/

namespace ReportSegments
namespace Json

/--
A character inside a written string. Quotes, backslashes and control characters are escaped.
-/
def escapeChar (c : Char) : List Char :=
  if c = '"' then ['\\', '"']
  else if c = '\\' then ['\\', '\\']
  else if c = '\n' then ['\\', 'n']
  else if c = '\r' then ['\\', 'r']
  else if c = '\t' then ['\\', 't']
  else if c = '\x08' then ['\\', 'b']
  else if c = '\x0c' then ['\\', 'f']
  else if c.toNat < 0x20 then
    ['\\', 'u', '0', '0', Text.smallHexDigit (c.toNat / 16), Text.smallHexDigit (c.toNat % 16)]
  else [c]

def quote (s : String) : List Char :=
  '"' :: s.toList.flatMap escapeChar ++ ['"']

mutual

def compactChars : Json → List Char
  | null => ['n', 'u', 'l', 'l']
  | bool true => ['t', 'r', 'u', 'e']
  | bool false => ['f', 'a', 'l', 's', 'e']
  | number n => n.text
  | string s => quote s
  | array items => '[' :: [','].intercalate (compactItems items) ++ [']']
  | object members => '{' :: [','].intercalate (compactMembers members) ++ ['}']

def compactItems : List Json → List (List Char)
  | [] => []
  | item :: items => compactChars item :: compactItems items

def compactMembers : List (String × Json) → List (List Char)
  | [] => []
  | (name, value) :: members => (quote name ++ ':' :: compactChars value) :: compactMembers members

end

/--
A new line that is indented by `depth` steps.
-/
def newline (depth : Nat) : List Char :=
  '\n' :: List.replicate (2 * depth) ' '

/--
Brackets around texts that stand on lines of their own; nothing between the brackets if there are
no texts.
-/
def bracketed (opening closing : Char) (depth : Nat) (texts : List (List Char)) : List Char :=
  match texts with
  | [] => [opening, closing]
  | _ =>
    opening :: newline (depth + 1) ++ (',' :: newline (depth + 1)).intercalate texts ++
      newline depth ++ [closing]

mutual

/--
The pretty form of a value whose first line is indented by `depth` steps already.
-/
def prettyChars (depth : Nat) : Json → List Char
  | null => ['n', 'u', 'l', 'l']
  | bool true => ['t', 'r', 'u', 'e']
  | bool false => ['f', 'a', 'l', 's', 'e']
  | number n => n.text
  | string s => quote s
  | array items => bracketed '[' ']' depth (prettyItems (depth + 1) items)
  | object members => bracketed '{' '}' depth (prettyMembers (depth + 1) members)

def prettyItems (depth : Nat) : List Json → List (List Char)
  | [] => []
  | item :: items => prettyChars depth item :: prettyItems depth items

def prettyMembers (depth : Nat) : List (String × Json) → List (List Char)
  | [] => []
  | (name, value) :: members =>
    (quote name ++ ':' :: ' ' :: prettyChars depth value) :: prettyMembers depth members

end

def compact (value : Json) : String :=
  String.ofList value.compactChars

def pretty (value : Json) : String :=
  String.ofList (value.prettyChars 0)

end Json
end ReportSegments
