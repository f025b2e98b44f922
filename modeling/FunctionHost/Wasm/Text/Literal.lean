import FunctionHost.Wasm.Text.Tree
import FunctionHost.Wasm.Types
/-!
# Numbers in the text format

Integers and floating-point numbers, decimal or hexadecimal, with underscores between digits.  An
integer may be written as a signed or as an unsigned number of its width.
-/
namespace FunctionHost
namespace Wasm
namespace Text
namespace Literal

/-- The sign of a number: whether it is negative, and the rest. -/
def sign : List Char → Bool × List Char
  | '-' :: rest => (true, rest)
  | '+' :: rest => (false, rest)
  | rest => (false, rest)

/-- The value of a digit in a base. -/
def digit? (base : Nat) (c : Char) : Option Nat :=
  match hexValue? c with
  | some value => if value < base then some value else none
  | none => none

/-- Reads digits with single underscores between them: their value, how many there were, and the
rest.  `after` says whether a digit came just before. -/
def digitsFrom (base value count : Nat) (after : Bool) : List Char → Option (Nat × Nat × List Char)
  | [] => if after then some (value, count, []) else none
  | c :: rest =>
    if c = '_' then (if after then digitsFrom base value count false rest else none)
    else
      match digit? base c with
      | some d => digitsFrom base (base * value + d) (count + 1) true rest
      | none => if after then some (value, count, c :: rest) else none

/-- Reads at least one digit. -/
def digits (base : Nat) (chars : List Char) : Option (Nat × Nat × List Char) :=
  digitsFrom base 0 0 false chars

/-- The base of a number, and its digits. -/
def base : List Char → Nat × List Char
  | '0' :: 'x' :: rest => (16, rest)
  | rest => (10, rest)

/-- A natural number and nothing else. -/
def nat? (chars : String) : Option Nat :=
  let (b, rest) := base chars.toList
  match digits b rest with
  | some (value, _, []) => some value
  | _ => none

/-- **An integer of some bits**, as the word that holds it. -/
def int? (bits : Nat) (chars : String) : Option Word :=
  let (negative, rest) := sign chars.toList
  let (b, rest) := base rest
  match digits b rest with
  | some (value, _, []) =>
    if negative then
      if value ≤ Nat.pow 2 (bits - 1) then
        some (UInt64.ofNat ((Nat.pow 2 bits - value) % Nat.pow 2 bits))
      else none
    else if value < Nat.pow 2 bits then some (UInt64.ofNat value)
    else none
  | _ => none

/-- An exponent behind its letter, if the rest begins with the letter; zero if there is no rest. -/
def exponent? (letter : Char) : List Char → Option Int
  | [] => some 0
  | c :: rest =>
    if c.toLower = letter then
      let (negative, rest) := sign rest
      match digits 10 rest with
      | some (value, _, []) => some (if negative then -value else value)
      | _ => none
    else none

/-- A floating-point number without its sign, in exact form: mantissa, base of the exponent and
exponent. -/
structure Exact where
  /-- The mantissa. -/
  mantissa : Nat
  /-- Whether the exponent is one of ten; otherwise it is one of two. -/
  decimal : Bool
  /-- The exponent. -/
  exponent : Int
  deriving Repr

/-- The exact value of a number that is neither infinite nor undefined. -/
def exactValue? (chars : List Char) : Option Exact := do
  let (b, rest) := base chars
  let (whole, _, rest) ← digits b rest
  let (mantissa, places, rest) ← match rest with
    | '.' :: rest =>
      match rest with
      | c :: _ =>
        if (digit? b c).isSome then
          let (fraction, count, rest) ← digits b rest
          pure (whole * Nat.pow b count + fraction, count, rest)
        else pure (whole, 0, rest)
      | [] => pure (whole, 0, rest)
    | rest => pure (whole, 0, rest)
  if b = 16 then
    let e ← exponent? 'p' rest
    return ⟨mantissa, false, e - 4 * places⟩
  else
    let e ← exponent? 'e' rest
    return ⟨mantissa, true, e - places⟩

/-- The 64 topmost bits of a number and how many are missing; the last bit of the 64 tells whether
any missing bit was set. -/
def topBits (n : Nat) : UInt64 × Nat :=
  let missing := Nat.log2 n - 63
  let top := n >>> missing
  (UInt64.ofNat (if n = top <<< missing then top else top ||| 1), missing)

/-- The double-precision number nearest to an exact one. -/
def Exact.toFloat (x : Exact) : Float :=
  if x.decimal then
    Float.ofScientific x.mantissa (x.exponent < 0) x.exponent.natAbs
  else
    let (top, missing) := topBits x.mantissa
    top.toFloat.scaleB (x.exponent + missing)

/-- The single-precision number nearest to an exact one. -/
def Exact.toFloat32 (x : Exact) : Float32 :=
  if x.decimal then
    Float32.ofScientific x.mantissa (x.exponent < 0) x.exponent.natAbs
  else
    let (top, missing) := topBits x.mantissa
    top.toFloat32.scaleB (x.exponent + missing)

/-- The exponents beyond which every number is zero or too large. -/
def saneExponent (x : Exact) : Bool := x.exponent.natAbs < 100000

/-- The bits of a not-a-number: `quiet` is its usual payload, `limit` the first one too large. -/
def nan? (quiet limit : Nat) : List Char → Option Nat
  | [] => some quiet
  | ':' :: '0' :: 'x' :: rest =>
    match digits 16 rest with
    | some (payload, _, []) => if 0 < payload ∧ payload < limit then some payload else none
    | _ => none
  | _ => none

/-- **A double-precision number**, as the word that holds it. -/
def f64? (chars : String) : Option Word := do
  let (negative, rest) := sign chars.toList
  let signBit : UInt64 := if negative then 0x8000000000000000 else 0
  match rest with
  | 'i' :: 'n' :: 'f' :: [] => return signBit ||| 0x7FF0000000000000
  | 'n' :: 'a' :: 'n' :: rest =>
    return signBit ||| 0x7FF0000000000000
      ||| UInt64.ofNat (← nan? (Nat.pow 2 51) (Nat.pow 2 52) rest)
  | rest =>
    let x ← exactValue? rest
    if !saneExponent x then none
    else
      let value := x.toFloat
      if value.isInf then none else return signBit ||| value.toBits

/-- **A single-precision number**, as the word that holds it. -/
def f32? (chars : String) : Option Word := do
  let (negative, rest) := sign chars.toList
  let signBit : UInt64 := if negative then 0x80000000 else 0
  match rest with
  | 'i' :: 'n' :: 'f' :: [] => return signBit ||| 0x7F800000
  | 'n' :: 'a' :: 'n' :: rest =>
    return signBit ||| 0x7F800000 ||| UInt64.ofNat (← nan? (Nat.pow 2 22) (Nat.pow 2 23) rest)
  | rest =>
    let x ← exactValue? rest
    if !saneExponent x then none
    else
      let value := x.toFloat32
      if value.isInf then none else return signBit ||| value.toBits.toUInt64

end Literal
end Text
end Wasm
end FunctionHost
