import ReportSegments.Text.Hex

/-!
This module contains percent coding of a text's UTF-8 octets. `encode` writes every octet but the
unreserved ones as `%XX`; `decode` reads any `%XX` and leaves every other `%` alone.
-/

namespace ReportSegments
namespace Percent

open Text (hexValue? capitalHexDigit)

/--
Octets that stand for themselves: ASCII letters, digits, `-`, `_`, `.` and `~`.
-/
def isUnreserved (octet : UInt8) : Bool :=
  let c := Char.ofNat octet.toNat
  c.isAlphanum || c = '-' || c = '_' || c = '.' || c = '~'

def encodeOctet (octet : UInt8) : List Char :=
  if isUnreserved octet then
    [Char.ofNat octet.toNat]
  else
    ['%', capitalHexDigit (octet.toNat / 16), capitalHexDigit (octet.toNat % 16)]

def encode (s : String) : String :=
  String.ofList ((s.toList.flatMap String.utf8EncodeChar).flatMap encodeOctet)

/--
The octets that a percent coded text stands for. A `%` without two hexadecimal digits after it
stands for itself.
-/
def octets : List Char → List UInt8
  | [] => []
  | '%' :: a :: b :: rest =>
    match hexValue? a, hexValue? b with
    | some x, some y => UInt8.ofNat (16 * x + y) :: octets rest
    | _, _ => String.utf8EncodeChar '%' ++ octets (a :: b :: rest)
  | c :: rest => String.utf8EncodeChar c ++ octets rest

/--
The text that a percent coded text stands for, if its octets are UTF-8.
-/
def decode? (s : String) : Option String :=
  String.fromUTF8? ⟨(octets s.toList).toArray⟩

/--
Like `decode?`, but a text whose octets are not UTF-8 stays as it is.
-/
def decode (s : String) : String :=
  (decode? s).getD s

end Percent
end ReportSegments
