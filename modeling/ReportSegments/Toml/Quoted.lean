import ReportSegments.Text.Hex

/-!
This module contains the quoted texts of TOML. Each reader starts behind the opening quotes and
gives the text and what stands behind the closing ones.
-/

namespace ReportSegments
namespace Toml

/--
Whether a character may stand in a comment or, quotes and backslashes apart, in a text on one line.
-/
def isPlain (c : Char) : Bool :=
  c = '\t' || (0x20 ≤ c.toNat && c.toNat ≠ 0x7F)

def escape? : Char → Option Char
  | 'b' => some '\x08'
  | 't' => some '\t'
  | 'n' => some '\n'
  | 'f' => some '\x0c'
  | 'r' => some '\r'
  | '"' => some '"'
  | '\\' => some '\\'
  | _ => none

/--
The character with a code point in hexadecimal digits, unless it is a surrogate.
-/
def codePoint? (digits : List Char) : Option Char :=
  (Text.hexNumber? digits).bind fun n => if n.isValidChar then some (Char.ofNat n) else none

/--
Puts a character in front of a text that was read.
-/
def prepend (c : Char) (read : Option (List Char × List Char)) : Option (List Char × List Char) :=
  read.map fun (text, rest) => (c :: text, rest)

def basic? : List Char → Option (List Char × List Char)
  | '"' :: rest => some ([], rest)
  | '\\' :: 'u' :: a :: b :: c :: d :: rest =>
    (codePoint? [a, b, c, d]).bind fun c => prepend c (basic? rest)
  | '\\' :: 'U' :: a :: b :: c :: d :: e :: f :: g :: h :: rest =>
    (codePoint? [a, b, c, d, e, f, g, h]).bind fun c => prepend c (basic? rest)
  | '\\' :: c :: rest => (escape? c).bind fun c => prepend c (basic? rest)
  | c :: rest => if c ≠ '\\' && isPlain c then prepend c (basic? rest) else none
  | [] => none

def literal? : List Char → Option (List Char × List Char)
  | '\x27' :: rest => some ([], rest)
  | c :: rest => if isPlain c then prepend c (literal? rest) else none
  | [] => none

def endsLine (cs : List Char) : Bool :=
  match cs.dropWhile fun c => c = ' ' || c = '\t' with
  | '\n' :: _ => true
  | '\r' :: '\n' :: _ => true
  | _ => false

/--
A text of several lines between three double quotes. While `skip` is set, behind a backslash at the
end of a line, blanks and line ends are left out. The closing quotes are the last three of up to
five.
-/
def basicLines? (skip : Bool) : List Char → Option (List Char × List Char)
  | '"' :: '"' :: '"' :: '"' :: '"' :: rest => some (['"', '"'], rest)
  | '"' :: '"' :: '"' :: '"' :: rest => some (['"'], rest)
  | '"' :: '"' :: '"' :: rest => some ([], rest)
  | '\r' :: '\n' :: rest =>
    if skip then basicLines? true rest else prepend '\n' (basicLines? false rest)
  | '\\' :: 'u' :: a :: b :: c :: d :: rest =>
    (codePoint? [a, b, c, d]).bind fun c => prepend c (basicLines? false rest)
  | '\\' :: 'U' :: a :: b :: c :: d :: e :: f :: g :: h :: rest =>
    (codePoint? [a, b, c, d, e, f, g, h]).bind fun c => prepend c (basicLines? false rest)
  | '\\' :: c :: rest =>
    match escape? c with
    | some c => prepend c (basicLines? false rest)
    | none => if endsLine (c :: rest) then basicLines? true (c :: rest) else none
  | c :: rest =>
    if skip && (c = ' ' || c = '\t' || c = '\n') then
      basicLines? true rest
    else if c ≠ '\\' && (c = '\n' || isPlain c) then
      prepend c (basicLines? false rest)
    else
      none
  | [] => none

def literalLines? : List Char → Option (List Char × List Char)
  | '\x27' :: '\x27' :: '\x27' :: '\x27' :: '\x27' :: rest => some (['\x27', '\x27'], rest)
  | '\x27' :: '\x27' :: '\x27' :: '\x27' :: rest => some (['\x27'], rest)
  | '\x27' :: '\x27' :: '\x27' :: rest => some ([], rest)
  | '\r' :: '\n' :: rest => prepend '\n' (literalLines? rest)
  | c :: rest => if c = '\n' || isPlain c then prepend c (literalLines? rest) else none
  | [] => none

def dropLineEnd : List Char → List Char
  | '\n' :: rest => rest
  | '\r' :: '\n' :: rest => rest
  | cs => cs

/--
A text in any of the four kinds of quotes, from the opening quotes on.
-/
def quoted? : List Char → Option (List Char × List Char)
  | '"' :: '"' :: '"' :: rest => basicLines? false (dropLineEnd rest)
  | '"' :: rest => basic? rest
  | '\x27' :: '\x27' :: '\x27' :: rest => literalLines? (dropLineEnd rest)
  | '\x27' :: rest => literal? rest
  | _ => none

end Toml
end ReportSegments
