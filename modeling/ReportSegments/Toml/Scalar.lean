import ReportSegments.Number.Literal
import ReportSegments.Raw.Basic

/-!
This module contains the scalars of TOML that are written without quotes: truth values, numbers,
dates and times.
-/

namespace ReportSegments
namespace Toml

/--
Reads `n` decimal digits.
-/
def digits? (n : Nat) (cs : List Char) : Option (Nat × List Char) :=
  let digits := cs.take n
  if digits.length = n ∧ digits.all Char.isDigit then
    some (Literal.value digits, cs.drop n)
  else
    none

def daysOfMonth (year month : Nat) : Nat :=
  if month = 2 then
    if year % 4 = 0 ∧ (year % 100 ≠ 0 ∨ year % 400 = 0) then 29 else 28
  else if month = 4 ∨ month = 6 ∨ month = 9 ∨ month = 11 then 30
  else 31

def date? (cs : List Char) : Option (List Char × List Char) :=
  match digits? 4 cs with
  | some (year, '-' :: afterYear) =>
    match digits? 2 afterYear with
    | some (month, '-' :: afterMonth) =>
      match digits? 2 afterMonth with
      | some (day, rest) =>
        if 1 ≤ month ∧ month ≤ 12 ∧ 1 ≤ day ∧ day ≤ daysOfMonth year month then
          some (cs.take 10, rest)
        else
          none
      | none => none
    | _ => none
  | _ => none

/--
The written form of a fraction of a second: at most nine places, without zeros at the end.
-/
def fractionText (digits : List Char) : List Char :=
  match ((digits.take 9).reverse.dropWhile (· = '0')).reverse with
  | [] => []
  | digits => '.' :: digits

/--
Reads a time of day: its text and the text behind it.
-/
def time? (cs : List Char) : Option (List Char × List Char) :=
  match digits? 2 cs with
  | some (hour, ':' :: afterHour) =>
    match digits? 2 afterHour with
    | some (minute, ':' :: afterMinute) =>
      match digits? 2 afterMinute with
      | some (second, rest) =>
        if hour ≤ 23 ∧ minute ≤ 59 ∧ second ≤ 60 then
          match rest with
          | '.' :: rest =>
            let fraction := rest.takeWhile Char.isDigit
            if fraction = [] then
              none
            else
              some (cs.take 8 ++ fractionText fraction, rest.dropWhile Char.isDigit)
          | rest => some (cs.take 8, rest)
        else
          none
      | none => none
    | _ => none
  | _ => none

/--
Reads an offset from universal time that fills the whole text. No offset has a minus sign if it is
zero.
-/
def offset? : List Char → Option (List Char)
  | [] => some []
  | ['Z'] => some ['Z']
  | ['z'] => some ['Z']
  | sign :: cs =>
    if sign = '+' ∨ sign = '-' then
      match digits? 2 cs with
      | some (hour, ':' :: afterHour) =>
        match digits? 2 afterHour with
        | some (minute, []) =>
          if hour ≤ 23 ∧ minute ≤ 59 then
            some ((if hour = 0 ∧ minute = 0 then '+' else sign) :: cs)
          else
            none
        | _ => none
      | _ => none
    else
      none

/--
Reads a date, a time, or a date with a time and perhaps an offset, that fills the whole text.
-/
def dateTime? (cs : List Char) : Option (List Char) :=
  match date? cs with
  | some (date, []) => some date
  | some (date, c :: rest) =>
    if c = 'T' ∨ c = 't' ∨ c = ' ' then
      match time? rest with
      | some (time, rest) => (offset? rest).map fun offset => date ++ 'T' :: time ++ offset
      | none => none
    else
      none
  | none =>
    match time? cs with
    | some (time, []) => some time
    | _ => none

/--
The name under which a date is the only entry of a table.
-/
def dateKey : String := "$__toml_private_datetime"

/--
Removes the underscores of a number. Each must stand between two digits.
-/
def withoutUnderscores? (isDigit : Char → Bool) : List Char → Option (List Char)
  | [] => some []
  | [c] => if c = '_' then none else some [c]
  | c :: '_' :: d :: rest =>
    if isDigit c && isDigit d then
      (withoutUnderscores? isDigit (d :: rest)).map (c :: ·)
    else
      none
  | c :: rest => if c = '_' then none else (withoutUnderscores? isDigit rest).map (c :: ·)

/--
The value of a row of digits to the base `base`.
-/
def baseNumber? (base : Nat) (digits : List Char) : Option Nat :=
  if digits = [] then
    none
  else
    digits.foldlM (fun n c =>
      (Text.hexValue? c).bind fun d => if d < base then some (base * n + d) else none) 0

/--
An integer, which must fit a signed word of 64 bits.
-/
def integer? (n : Int) : Option Raw :=
  if -9223372036854775808 ≤ n ∧ n < 9223372036854775808 then
    (Integer.ofInt? n).map fun n => .number (.integer n)
  else
    none

def prefixed? (base : Nat) (cs : List Char) : Option Raw :=
  (withoutUnderscores? (fun c => (Text.hexValue? c).isSome) cs).bind fun digits =>
    (baseNumber? base digits).bind fun n => integer? n

/--
Reads a decimal number. A number that is too large must be negative.
-/
def decimal? (cs : List Char) : Option Raw :=
  let (sign, digits) := Literal.sign cs
  let literal :=
    (withoutUnderscores? Char.isDigit digits).bind (Literal.readUnsigned? (sign.getD false))
  (literal.filter fun l =>
    l.whole ≠ [] && Literal.plainWhole l.whole && l.fraction ≠ some []).bind fun l =>
      match l.integer? with
      | some n => integer? n
      | none =>
        match l.nearest? with
        | some x => some (.number (.double x))
        | none => if l.negative then some .nonFinite else none

def scalar? (cs : List Char) : Option Raw :=
  if cs = ['t', 'r', 'u', 'e'] then
    some (.bool true)
  else if cs = ['f', 'a', 'l', 's', 'e'] then
    some (.bool false)
  else
    match (Literal.sign cs).2 with
    | ['i', 'n', 'f'] => some .nonFinite
    | ['n', 'a', 'n'] => some .nonFinite
    | _ =>
      match dateTime? cs with
      | some text => some (.table [(some dateKey, .text (String.ofList text))])
      | none =>
        match cs with
        | '0' :: 'x' :: digits => prefixed? 16 digits
        | '0' :: 'o' :: digits => prefixed? 8 digits
        | '0' :: 'b' :: digits => prefixed? 2 digits
        | cs => decimal? cs

end Toml
end ReportSegments
