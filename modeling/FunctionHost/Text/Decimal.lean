/-!
# The shortest decimal text of a float

A double stands for an interval of real numbers, those that round to it.  Its text has the fewest
digits that lie in the interval, and of those the ones nearest to the double itself; a tie goes to
the even digit.  Everything is computed on natural numbers: `m` times a power of two.
-/
namespace FunctionHost
namespace Decimal

/-- A positive double as `significand · 2 ^ (exponent - 1075)`, and whether the significand is the
least one of its exponent, so that the neighbour below is nearer than the one above. -/
structure Binary where
  /-- The significand. -/
  significand : Nat
  /-- The exponent, as stored. -/
  exponent : Nat
  /-- Whether the gap below is half the gap above. -/
  narrow : Bool
  deriving Repr

/-- The parts of a positive finite double. -/
def Binary.ofBits (bits : UInt64) : Binary :=
  let stored := ((bits >>> 52) &&& (0x7FF : UInt64)).toNat
  let fraction := (bits &&& (0xFFFFFFFFFFFFF : UInt64)).toNat
  if stored = 0 then ⟨fraction, 1, false⟩
  else ⟨fraction + Nat.pow 2 52, stored, fraction == 0 && 1 < stored⟩

/-- Four times the double, the bounds of its interval, and a common denominator of all three. -/
def scaled (b : Binary) : Nat × Nat × Nat × Nat :=
  let value := 4 * b.significand
  let low := value - (if b.narrow then 1 else 2)
  let high := value + 2
  if 1075 ≤ b.exponent then
    let factor := Nat.pow 2 (b.exponent - 1075)
    (value * factor, low * factor, high * factor, 4)
  else (value, low, high, 4 * Nat.pow 2 (1075 - b.exponent))

/-- A candidate `digits · 10 ^ power`. -/
abbrev Candidate := Nat × Int

/-- Tries multiples of `10 ^ power`: the two neighbours of the double, of which those count that lie
in the interval.  `closed` says whether the bounds count. -/
def onGrid (value low high den : Nat) (closed : Bool) (power : Int) : Option Candidate :=
  let (num, den) :=
    if 0 ≤ power then (value, den * Nat.pow 10 power.toNat)
    else (value * Nat.pow 10 (-power).toNat, den)
  let scale (x : Nat) : Nat := if 0 ≤ power then x else x * Nat.pow 10 (-power).toNat
  let inside (digits : Nat) : Bool :=
    let x := digits * den
    if closed then scale low ≤ x && x ≤ scale high else scale low < x && x < scale high
  let down := num / den
  let up := down + 1
  let gapDown := num - down * den
  let gapUp := up * den - num
  match inside down && 0 < down, inside up with
  | true, true =>
    if gapDown < gapUp then some (down, power)
    else if gapUp < gapDown then some (up, power)
    else some (if down % 2 = 0 then down else up, power)
  | true, false => some (down, power)
  | false, true => some (up, power)
  | false, false => none

/-- The first grid with a candidate, from coarse to fine. -/
def search (value low high den : Nat) (closed : Bool) : Nat → Int → Candidate
  | 0, power => (0, power)
  | steps + 1, power =>
    match onGrid value low high den closed power with
    | some found => found
    | none => search value low high den closed steps (power - 1)

/-- The shortest digits of a positive finite double and the power of ten they are multiplied by. -/
def shortest (bits : UInt64) : Candidate :=
  let b := Binary.ofBits bits
  let (value, low, high, den) := scaled b
  search value low high den (b.significand % 2 = 0) 700 310

/-- Removes zeros at the end of the digits. -/
def trim : Nat → Candidate → Candidate
  | 0, c => c
  | steps + 1, (digits, power) =>
    if digits ≠ 0 ∧ digits % 10 = 0 then trim steps (digits / 10, power + 1) else (digits, power)

/-- A row of zeros. -/
def zeros (count : Int) : String := String.ofList (List.replicate count.toNat '0')

/-- **Digits times a power of ten, positionally**: always with a point. -/
def positional (digits : String) (power : Int) : String :=
  let point := (digits.length : Int) + power
  if 0 ≤ power then digits ++ zeros power ++ ".0"
  else if 0 < point then
    String.ofList (digits.toList.take point.toNat) ++ "."
      ++ String.ofList (digits.toList.drop point.toNat)
  else "0." ++ zeros (-point) ++ digits

/-- Digits times a power of ten with an exponent: one digit before the point. -/
def scientific (digits : String) (power : Int) : String :=
  let exponent := (digits.length : Int) + power - 1
  let shown := (if exponent < 0 then "-" else "+") ++ toString exponent.natAbs
  let head := String.ofList (digits.toList.take 1)
  let tail := String.ofList (digits.toList.drop 1)
  (if tail.isEmpty then head else head ++ "." ++ tail) ++ "e" ++ shown

/-- **The text of digits times a power of ten**: positional from a ten-thousandth below one up to
sixteen places before the point, and with an exponent beyond. -/
def layout (digits : String) (power : Int) : String :=
  let point := (digits.length : Int) + power
  if -5 < point ∧ point ≤ 16 then positional digits power else scientific digits power

/-- The text of a float, given how its digits and a power of ten are written. -/
def textWith (write : String → Int → String) (x : Float) : String :=
  if x.isNaN then "NaN"
  else
    let bits := x.toBits
    let negative := (bits >>> 63) == (1 : UInt64)
    let magnitude := bits &&& (0x7FFFFFFFFFFFFFFF : UInt64)
    let body :=
      if magnitude == 0 then "0.0"
      else if x.isInf then "inf"
      else
        let (digits, power) := trim 400 (shortest magnitude)
        write (toString digits) power
    if negative then "-" ++ body else body

/-- The text of a float. -/
def text (x : Float) : String := textWith layout x

/-- The text of a float without an exponent, however large or small it is. -/
def positionalText (x : Float) : String := textWith positional x

end Decimal
end FunctionHost
