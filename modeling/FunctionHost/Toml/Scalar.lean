import FunctionHost.Toml.Value
/-!
# Strings, numbers and moments

The values of a configuration text that are not made of other values.  A reader here takes the
characters from where the value begins and answers with the value and the characters behind it, or
with nothing if there is no such value.
-/
namespace FunctionHost
namespace Toml

/-- **A reader**: what it read and the characters behind it. -/
abbrev Reader (α : Type) := List Char → Option (α × List Char)

namespace Reader

/-- Whether a character is a blank inside a line. -/
def isBlank (c : Char) : Bool := c = ' ' || c = '\t'

/-- Whether a character may stand in strings and comments: no control but the tab. -/
def isPrintable (c : Char) : Bool := (32 ≤ c.toNat && c.toNat ≠ 127) || c = '\t'

/-- The characters behind blanks. -/
def skipBlanks (chars : List Char) : List Char := chars.dropWhile isBlank

/-- The characters behind the end of a line, if the line ends here. -/
def newline? : List Char → Option (List Char)
  | '\n' :: rest => some rest
  | '\r' :: '\n' :: rest => some rest
  | _ => none

/-- The characters behind blanks and ends of lines; every step skips a character. -/
def skipSpace : Nat → List Char → List Char
  | 0, chars => chars
  | steps + 1, chars =>
    match skipBlanks chars with
    | rest =>
      match newline? rest with
      | some rest => skipSpace steps rest
      | none => rest

/-! ## Strings -/

/-- The value of a hexadecimal digit. -/
def hexValue? (c : Char) : Option Nat :=
  if '0' ≤ c ∧ c ≤ '9' then some (c.toNat - 48)
  else if 'a' ≤ c ∧ c ≤ 'f' then some (c.toNat - 87)
  else if 'A' ≤ c ∧ c ≤ 'F' then some (c.toNat - 55)
  else none

/-- The character whose number a row of hexadecimal digits of some length spells. -/
def numbered (length : Nat) : Reader Char := fun chars =>
  let digits := (chars.take length).filterMap hexValue?
  let code := digits.foldl (fun acc d => 16 * acc + d) 0
  if digits.length = length ∧ code.isValidChar then
    some (Char.ofNat code, chars.drop length)
  else none

/-- What follows a backslash. -/
def escape : Reader Char
  | 'b' :: rest => some ('\x08', rest)
  | 'f' :: rest => some ('\x0c', rest)
  | 'n' :: rest => some ('\n', rest)
  | 'r' :: rest => some ('\r', rest)
  | 't' :: rest => some ('\t', rest)
  | '\\' :: rest => some ('\\', rest)
  | '"' :: rest => some ('"', rest)
  | 'u' :: rest => numbered 4 rest
  | 'U' :: rest => numbered 8 rest
  | _ => none

/-- A string on one line up to its closing quote; escapes count only between double quotes.  The
characters read so far come last first. -/
def lineString (quote : Char) : Nat → List Char → Reader String
  | 0, _, _ => none
  | _ + 1, _, [] => none
  | steps + 1, read, c :: rest =>
    if c = quote then some (String.ofList read.reverse, rest)
    else if c = '\\' ∧ quote = '"' then
      (escape rest).bind fun (c, rest) => lineString quote steps (c :: read) rest
    else if isPrintable c then lineString quote steps (c :: read) rest
    else none

/-- A string on any number of lines up to its three closing quotes, before which two more may
stand.  A backslash at the end of a line skips all blanks up to the next other character. -/
def blockString (quote : Char) : Nat → List Char → Reader String
  | 0, _, _ => none
  | _ + 1, _, [] => none
  | steps + 1, read, c :: rest =>
    if c = quote then
      let more := (rest.takeWhile (· = quote)).length
      if more < 2 then blockString quote steps (c :: read) rest
      else
        let extra := min (more - 2) 2
        some (String.ofList (read.reverse ++ List.replicate extra quote), rest.drop (2 + extra))
    else if c = '\\' ∧ quote = '"' then
      match newline? (skipBlanks rest) with
      | some behind => blockString quote steps read (skipSpace (behind.length + 1) behind)
      | none => (escape rest).bind fun (c, rest) => blockString quote steps (c :: read) rest
    else
      match newline? (c :: rest) with
      | some behind => blockString quote steps ('\n' :: read) behind
      | none => if isPrintable c then blockString quote steps (c :: read) rest else none

/-- A string in quotes of one kind, on one line or on several. -/
def quotedString (quote : Char) (chars : List Char) : Option (String × List Char) :=
  let three := List.replicate 3 quote
  if chars.take 3 = three then
    let body := chars.drop 3
    let body := (newline? body).getD body
    blockString quote (body.length + 1) [] body
  else lineString quote (chars.length + 1) [] (chars.drop 1)

/-! ## Numbers -/

/-- Whether a character is a decimal digit. -/
def isDigit (c : Char) : Bool := '0' ≤ c && c ≤ '9'

/-- The value of a digit in a base. -/
def digitValue? (base : Nat) (c : Char) : Option Nat :=
  match hexValue? c with
  | some value => if value < base then some value else none
  | none => none

/-- Digits of a base, which single underscores may separate. -/
def digitsFrom (base : Nat) : List Nat → Reader (List Nat)
  | read, [] => some (read.reverse, [])
  | read, '_' :: c :: rest =>
    match digitValue? base c with
    | some value => digitsFrom base (value :: read) rest
    | none => none
  | read, c :: rest =>
    match digitValue? base c with
    | some value => digitsFrom base (value :: read) rest
    | none => if c = '_' then none else some (read.reverse, c :: rest)

/-- At least one digit of a base. -/
def digits (base : Nat) : Reader (List Nat)
  | [] => none
  | c :: rest => (digitValue? base c).bind fun value => digitsFrom base [value] rest

/-- The number that digits spell. -/
def valueOf (base : Nat) (digits : List Nat) : Nat :=
  digits.foldl (fun acc d => base * acc + d) 0

/-- A sign, if there is one: whether it is a minus. -/
def sign : List Char → Bool × List Char
  | '-' :: rest => (true, rest)
  | '+' :: rest => (false, rest)
  | rest => (false, rest)

/-- Decimal digits that begin with a zero only if that is all. -/
def plainDigits : Reader (List Nat)
  | '0' :: rest => some ([0], rest)
  | rest => digits 10 rest

/-- The least and the greatest integer. -/
def integerRange : Int × Int := (-9223372036854775808, 9223372036854775807)

/-- An integer, if it is in range. -/
def ranged (value : Int) (rest : List Char) : Option (Toml × List Char) :=
  if integerRange.1 ≤ value ∧ value ≤ integerRange.2 then some (.integer value, rest) else none

/-- An integer in a base. -/
def based (base : Nat) (chars : List Char) : Option (Toml × List Char) :=
  (digits base chars).bind fun (digits, rest) => ranged (valueOf base digits) rest

/-- An integer. -/
def integer : Reader Toml
  | '0' :: 'x' :: rest => based 16 rest
  | '0' :: 'o' :: rest => based 8 rest
  | '0' :: 'b' :: rest => based 2 rest
  | chars =>
    let (negative, unsigned) := sign chars
    (plainDigits unsigned).bind fun (digits, rest) =>
      let value : Int := valueOf 10 digits
      ranged (if negative then -value else value) rest

/-- An exponent, if there is one. -/
def exponent : Reader (Option Int)
  | c :: rest =>
    if c = 'e' ∨ c = 'E' then
      let (negative, rest) := sign rest
      (digits 10 rest).bind fun (digits, rest) =>
        let value : Int := valueOf 10 digits
        some (some (if negative then -value else value), rest)
    else some (none, c :: rest)
  | [] => some (none, [])

/-- A fraction, if there is one. -/
def fraction : Reader (List Nat)
  | '.' :: rest => digits 10 rest
  | rest => some ([], rest)

/-- The exponent beyond which a number is nothing or too large in any case. -/
def largestExponent : Nat := 400

/-- The float that digits times a power of ten round to. -/
def floatOf (digits : List Nat) (power : Int) : Float :=
  let significand := valueOf 10 digits
  let magnitude := (digits.dropWhile (· = 0)).length + power
  if significand = 0 ∨ magnitude < -(largestExponent : Int) then 0.0
  else if largestExponent < magnitude then 1.0 / 0.0
  else if 0 ≤ power then Float.ofScientific (significand * Nat.pow 10 power.toNat) false 0
  else Float.ofScientific significand true power.natAbs

/-- A number with a fraction or an exponent; one that is too large is refused if it is positive. -/
def decimal : Reader Toml := fun chars => do
  let (negative, unsigned) := sign chars
  let (whole, rest) ← plainDigits unsigned
  let (part, rest) ← fraction rest
  let (power, rest) ← exponent rest
  if part.isEmpty && power.isNone then none
  else
    let value := floatOf (whole ++ part) (power.getD 0 - part.length)
    if value.isInf && !negative then none
    else some (.float (if negative then -value else value), rest)

/-- The floats that are no numbers in digits. -/
def special : Reader Toml := fun chars =>
  let (negative, unsigned) := sign chars
  let finish (value : Float) (rest : List Char) : Option (Toml × List Char) :=
    some (.float (if negative then -value else value), rest)
  match unsigned with
  | 'i' :: 'n' :: 'f' :: rest => finish (1.0 / 0.0) rest
  | 'n' :: 'a' :: 'n' :: rest => finish (0.0 / 0.0) rest
  | _ => none

/-! ## Moments -/

/-- A number of exactly so many digits, between two bounds. -/
def fixed (length low high : Nat) : Reader Nat := fun chars =>
  let digits := (chars.take length).filterMap (digitValue? 10)
  let value := valueOf 10 digits
  if digits.length = length ∧ low ≤ value ∧ value ≤ high then some (value, chars.drop length)
  else none

/-- A character. -/
def exactly (c : Char) : Reader Unit
  | found :: rest => if found = c then some ((), rest) else none
  | [] => none

/-- The days of a month. -/
def daysIn (year month : Nat) : Nat :=
  if month = 2 then
    if year % 4 = 0 ∧ (year % 100 ≠ 0 ∨ year % 400 = 0) then 29 else 28
  else if month = 4 ∨ month = 6 ∨ month = 9 ∨ month = 11 then 30
  else 31

/-- A date. -/
def date : Reader Unit := fun chars => do
  let (year, rest) ← fixed 4 0 9999 chars
  let (_, rest) ← exactly '-' rest
  let (month, rest) ← fixed 2 1 12 rest
  let (_, rest) ← exactly '-' rest
  let (_, rest) ← fixed 2 1 (daysIn year month) rest
  return ((), rest)

/-- A time of day; a minute may have a leap second. -/
def time : Reader Unit := fun chars => do
  let (_, rest) ← fixed 2 0 23 chars
  let (_, rest) ← exactly ':' rest
  let (_, rest) ← fixed 2 0 59 rest
  let (_, rest) ← exactly ':' rest
  let (_, rest) ← fixed 2 0 60 rest
  match rest with
  | '.' :: c :: more => return ((), if isDigit c then more.dropWhile isDigit else rest)
  | _ => return ((), rest)

/-- The distance from universal time, if there is one. -/
def offset (chars : List Char) : List Char :=
  match chars with
  | 'Z' :: rest => rest
  | 'z' :: rest => rest
  | c :: rest =>
    if c = '+' ∨ c = '-' then
      let distance := do
        let (_, rest) ← fixed 2 0 23 rest
        let (_, rest) ← exactly ':' rest
        fixed 2 0 59 rest
      match distance with
      | some (_, rest) => rest
      | none => chars
    else chars
  | [] => []

/-- A date, perhaps with a time, or a time. -/
def moment : Reader Toml := fun chars =>
  match date chars with
  | none => (time chars).map fun (_, rest) => (.moment, rest)
  | some (_, rest) =>
    let timed := match rest with
      | c :: later => if c = 'T' ∨ c = 't' ∨ c = ' ' then time later else none
      | [] => none
    match timed with
    | none => some (.moment, rest)
    | some (_, rest) => some (.moment, offset rest)

/-! ## Any of them -/

/-- A value that begins with a digit or a sign. -/
def numeric : Reader Toml := fun chars =>
  moment chars <|> decimal chars <|> special chars <|> integer chars

/-- A word in place of a value. -/
def word (chars : List Char) (expected : String) (value : Toml) : Option (Toml × List Char) :=
  if chars.take expected.length = expected.toList then
    some (value, chars.drop expected.length)
  else none

/-- **A value that is not made of other values.** -/
def scalar : Reader Toml
  | [] => none
  | c :: rest =>
    let chars := c :: rest
    if c = '"' ∨ c = '\'' then (quotedString c chars).map fun (s, rest) => (.text s, rest)
    else if isDigit c ∨ c = '+' ∨ c = '-' then numeric chars
    else if c = 't' then word chars "true" (.flag true)
    else if c = 'f' then word chars "false" (.flag false)
    else special chars

end Reader
end Toml
end FunctionHost
