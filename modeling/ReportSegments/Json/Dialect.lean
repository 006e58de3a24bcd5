import ReportSegments.Raw.Basic

/-!
This module contains what JSON dialects differ in, and the scanning of a text into lexemes. Words
and quoted texts are cut out here and read by the dialect.
-/

namespace ReportSegments
namespace Json

structure Dialect where
  /-- Characters that may stand between lexemes. -/
  isBlank : Char → Bool
  /-- Characters that open and close a quoted text. -/
  isQuote : Char → Bool
  /-- Whether there are comments, `// …` and `/* … */`. -/
  comments : Bool
  /-- Whether a comma may stand behind the last item. -/
  trailingComma : Bool
  /-- How many containers a value may stand in and still be read. -/
  maxNesting : Option Nat
  /-- The value of a word. -/
  readWord? : List Char → Option Raw
  /-- The name that a word stands for in front of a colon. -/
  readName? : List Char → Option String
  /-- The text between quotes; a well formed one may still be unreadable. -/
  readQuoted? : List Char → Option (Option String)

/--
The smallest units of a JSON text.
-/
inductive Lexeme where
  /-- One of `{`, `}`, `[`, `]`, `,` and `:`. -/
  | mark (c : Char)
  | word (cs : List Char)
  /-- The characters between two quotes. -/
  | quoted (cs : List Char)
deriving DecidableEq, Repr

/--
Where the scanner stands. The characters of an open lexeme are kept in reverse.
-/
inductive Scan where
  | between
  | word (reversed : List Char)
  | quoted (quote : Char) (reversed : List Char)
  /-- Behind a backslash. -/
  | escaped (quote : Char) (reversed : List Char)
  /-- Behind a slash that opens a comment. -/
  | slash
  | lineComment
  | blockComment
  /-- Behind a star inside a block comment. -/
  | star
deriving DecidableEq, Repr

namespace Dialect

def isMark (c : Char) : Bool :=
  c = '{' || c = '}' || c = '[' || c = ']' || c = ',' || c = ':'

def endsLine (c : Char) : Bool :=
  c = '\n' || c = '\r' || c = '\u2028' || c = '\u2029'

def isWordChar (d : Dialect) (c : Char) : Bool :=
  !(d.isBlank c || isMark c || d.isQuote c || (d.comments && c = '/'))

def start (d : Dialect) (c : Char) : List Lexeme × Scan :=
  if isMark c then ([.mark c], .between)
  else if d.isQuote c then ([], .quoted c [])
  else if d.isBlank c then ([], .between)
  else if d.comments && c = '/' then ([], .slash)
  else ([], .word [c])

/--
One character: the lexemes that it completes and where the scanner stands behind it.
-/
def scanChar? (d : Dialect) (c : Char) : Scan → Option (List Lexeme × Scan)
  | .between => some (d.start c)
  | .word reversed =>
    if d.isWordChar c then
      some ([], .word (c :: reversed))
    else
      let (lexemes, scan) := d.start c
      some (.word reversed.reverse :: lexemes, scan)
  | .quoted quote reversed =>
    if c = quote then some ([.quoted reversed.reverse], .between)
    else if c = '\\' then some ([], .escaped quote (c :: reversed))
    else some ([], .quoted quote (c :: reversed))
  | .escaped quote reversed => some ([], .quoted quote (c :: reversed))
  | .slash =>
    if c = '/' then some ([], .lineComment)
    else if c = '*' then some ([], .blockComment)
    else none
  | .lineComment => some ([], if endsLine c then .between else .lineComment)
  | .blockComment => some ([], if c = '*' then .star else .blockComment)
  | .star => some ([], if c = '/' then .between else if c = '*' then .star else .blockComment)

/--
The lexemes of a text, from a place where the scanner stands.
-/
def lexemesFrom? (d : Dialect) : Scan → List Char → Option (List Lexeme)
  | .between, [] => some []
  | .lineComment, [] => some []
  | .word reversed, [] => some [.word reversed.reverse]
  | _, [] => none
  | scan, c :: cs => do
    let (lexemes, scan) ← d.scanChar? c scan
    return lexemes ++ (← d.lexemesFrom? scan cs)

def lexemes? (d : Dialect) (cs : List Char) : Option (List Lexeme) :=
  d.lexemesFrom? .between cs

end Dialect
end Json
end ReportSegments
