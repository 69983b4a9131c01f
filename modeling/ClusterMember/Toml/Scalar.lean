import ClusterMember.Toml.Node
import ClusterMember.Toml.Text

/-! # Dates, times and numbers

A date, a time of day, or both; a date with a time may have an offset. Only what can be a date or a
time is let through, but nothing is made of it.

* `Toml.looksLikeMoment`: whether a value is meant as one.
* `Toml.moment?`: what follows a date or a time.

Whole numbers have 64 bits and are written in decimal, with a sign if need be, or without a sign in
hexadecimal, octal or binary after `0x`, `0o` and `0b`. Numbers with a point or an exponent are only
checked. An underscore may stand between two digits.

* `Toml.digits`: digits with underscores between them.
* `Toml.overflows`: whether a decimal is too large for a floating-point number.
* `Toml.number?`: a number of any kind.
-/

namespace ClusterMember.Toml
set_option autoImplicit false

def twoDigits? (a b : Char) : Option Nat :=
  if a.isDigit && b.isDigit then some (10 * (a.toNat - 48) + (b.toNat - 48)) else none

/-- Two digits that write a number from `low` to `high`, and what follows them. -/
def inRange? (low high : Nat) : List Char → Option (Nat × List Char)
  | a :: b :: rest =>
    match twoDigits? a b with
    | some n => if low ≤ n ∧ n ≤ high then some (n, rest) else none
    | none => none
  | _ => none

def expect? (c : Char) : List Char → Option (List Char)
  | d :: rest => if d = c then some rest else none
  | [] => none

/-! ## Dates -/

def daysOfMonth (year month : Nat) : Nat :=
  if month = 2 then
    if year % 4 = 0 ∧ (year % 100 ≠ 0 ∨ year % 400 = 0) then 29 else 28
  else if month = 4 ∨ month = 6 ∨ month = 9 ∨ month = 11 then 30
  else 31

/-- The rest of a date, after its year. -/
def date? (year : Nat) (text : List Char) : Option (List Char) := do
  let rest ← expect? '-' text
  let (month, rest) ← inRange? 1 12 rest
  let rest ← expect? '-' rest
  let (_, rest) ← inRange? 1 (daysOfMonth year month) rest
  some rest

/-! ## Times -/

/-- What follows the fraction of a second, if there is one. -/
def skipFraction : List Char → List Char
  | '.' :: c :: rest => if c.isDigit then rest.dropWhile Char.isDigit else '.' :: c :: rest
  | other => other

/-- What follows a time of day. A minute may have a leap second. -/
def time? (text : List Char) : Option (List Char) := do
  let (_, rest) ← inRange? 0 23 text
  let rest ← expect? ':' rest
  let (_, rest) ← inRange? 0 59 rest
  let rest ← expect? ':' rest
  let (_, rest) ← inRange? 0 60 rest
  some (skipFraction rest)

def offset? : List Char → Option (List Char)
  | [] => some []
  | c :: rest =>
    if c = 'Z' || c = 'z' then some rest
    else if c = '+' || c = '-' then do
      let (_, rest) ← inRange? 0 23 rest
      let rest ← expect? ':' rest
      let (_, rest) ← inRange? 0 59 rest
      some rest
    else some (c :: rest)

/-- Whether a time is meant: two digits and a colon. -/
def looksLikeTime : List Char → Bool
  | a :: b :: ':' :: _ => a.isDigit && b.isDigit
  | _ => false

/-- What follows the time and the offset after a date, if there are any. -/
def timeAfterDate? : List Char → Option (List Char)
  | [] => some []
  | c :: rest =>
    if (c = 'T' || c = 't' || c = ' ') && looksLikeTime rest then time? rest >>= offset?
    else some (c :: rest)

/-! ## Dates and times of all kinds -/

/-- Whether a date or a time is meant: four digits and a dash, or two digits and a colon. -/
def looksLikeMoment : List Char → Bool
  | a :: b :: ':' :: _ => a.isDigit && b.isDigit
  | a :: b :: c :: d :: '-' :: _ => a.isDigit && b.isDigit && c.isDigit && d.isDigit
  | _ => false

/-- What follows a date or a time. -/
def moment? (text : List Char) : Option (List Char) :=
  match text with
  | a :: b :: c :: d :: '-' :: rest =>
    match twoDigits? a b, twoDigits? c d with
    | some century, some year => date? (100 * century + year) ('-' :: rest) >>= timeAfterDate?
    | _, _ => time? text
  | _ => time? text

/-! ## Digits -/

/-- The digits after a first digit, and what follows them. An underscore is left out; a digit must
stand on both sides of it. -/
def moreDigits (isDigit : Char → Bool) : List Char → Option (List Char × List Char)
  | [] => some ([], [])
  | '_' :: c :: rest =>
    if isDigit c then prepend [c] (moreDigits isDigit rest) else none
  | c :: rest =>
    if isDigit c then prepend [c] (moreDigits isDigit rest)
    else if c = '_' then none
    else some ([], c :: rest)

def digits (isDigit : Char → Bool) : List Char → Option (List Char × List Char)
  | [] => none
  | c :: rest => if isDigit c then prepend [c] (moreDigits isDigit rest) else none

/-- The digits of a whole number in decimal: a zero stands at the front only by itself. -/
def wholeDigits : List Char → Option (List Char × List Char)
  | '0' :: rest => some (['0'], rest)
  | other => digits Char.isDigit other

def valueOf (base : Nat) (digits : List Char) : Nat :=
  digits.foldl (fun n c => n * base + (hexDigit? c).getD 0) 0

/-! ## Whole numbers -/

/-- A whole number, if 64 bits hold it. -/
def integer? (n : Int) : Option Node :=
  if Int64.minValue.toInt ≤ n ∧ n ≤ Int64.maxValue.toInt then some (.integer (Int64.ofInt n))
  else none

/-- A whole number in a base other than ten, after its mark. -/
def based? (base : Nat) (text : List Char) : Option (Node × List Char) := do
  let isDigit := fun c => match hexDigit? c with
    | some digit => decide (digit < base)
    | none => false
  let (digits, rest) ← digits isDigit text
  let node ← integer? (valueOf base digits)
  some (node, rest)

/-! ## Other numbers -/

/-- Whether `mantissa * 10 ^ exponent` is too large for a floating-point number of 64 bits, that is,
at least half-way between the largest of them and the next power of two. -/
def overflows (mantissa : Nat) (exponent : Int) : Bool :=
  let magnitude := (Nat.toDigits 10 mantissa).length + exponent
  let limit := Nat.pow 2 1024 - Nat.pow 2 970
  if mantissa = 0 then false
  else if 400 < magnitude then true
  else if magnitude < 300 then false
  else if 0 ≤ exponent then limit ≤ mantissa * Nat.pow 10 exponent.toNat
  else limit * Nat.pow 10 (-exponent).toNat ≤ mantissa

/-- The digits after a point, if there is one. -/
def fraction? : List Char → Option (List Char × List Char)
  | '.' :: rest => digits Char.isDigit rest
  | other => some ([], other)

/-- A sign, if there is one: whether it is a minus, and what follows. -/
def sign : List Char → Option Bool × List Char
  | '+' :: rest => (some false, rest)
  | '-' :: rest => (some true, rest)
  | other => (none, other)

/-- The exponent of ten, if there is one, and zero otherwise. -/
def exponent? (text : List Char) : Option (Int × List Char) :=
  match text with
  | [] => some (0, [])
  | c :: rest =>
    if c = 'e' || c = 'E' then do
      let (minus, rest) := sign rest
      let (found, rest) ← digits Char.isDigit rest
      let n := valueOf 10 found
      some (if minus = some true then -(n : Int) else n, rest)
    else some (0, c :: rest)

/-- The rest of a number that is not whole, after the digits `whole` before its point. A positive
number must not be too large. -/
def float? (negative : Bool) (whole : List Char) (text : List Char) :
    Option (Node × List Char) := do
  let (fraction, rest) ← fraction? text
  let (exponent, rest) ← exponent? rest
  if !negative && overflows (valueOf 10 (whole ++ fraction)) (exponent - fraction.length) then none
  else some (.float, rest)

/-! ## Numbers of all kinds -/

def number? (text : List Char) : Option (Node × List Char) :=
  let (minus, unsigned) := sign text
  match minus, unsigned with
  | _, 'i' :: 'n' :: 'f' :: rest => some (.float, rest)
  | _, 'n' :: 'a' :: 'n' :: rest => some (.float, rest)
  | none, '0' :: 'x' :: rest => based? 16 rest
  | none, '0' :: 'o' :: rest => based? 8 rest
  | none, '0' :: 'b' :: rest => based? 2 rest
  | _, _ => do
    let (whole, rest) ← wholeDigits unsigned
    let negative := minus = some true
    match rest with
    | '.' :: _ | 'e' :: _ | 'E' :: _ => float? negative whole rest
    | _ =>
      let n := valueOf 10 whole
      let node ← integer? (if negative then -(n : Int) else n)
      some (node, rest)

end ClusterMember.Toml
