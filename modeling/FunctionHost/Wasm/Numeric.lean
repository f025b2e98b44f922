import FunctionHost.Wasm.Types
/-!
# Arithmetic of guest code

Every numeric operation of the instruction set, by shape: what it takes, what it leaves and what
it computes.  Integers of both widths share one definition, on words cut to the width; floats are
carried as their bit patterns.  The only ways to fail are the three faults of `Fault`.
-/
namespace FunctionHost
namespace Wasm

/-- 32 or 64 bits. -/
inductive Width where
  /-- 32 bits. -/
  | w32
  /-- 64 bits. -/
  | w64
  deriving DecidableEq, Repr, Inhabited

namespace Width

/-- The number of bits. -/
def bits : Width → UInt64
  | .w32 => 32
  | .w64 => 64

/-- The integer type of the width. -/
def intType : Width → ValueType
  | .w32 => .i32
  | .w64 => .i64

/-- The float type of the width. -/
def floatType : Width → ValueType
  | .w32 => .f32
  | .w64 => .f64

/-- The word cut to the width. -/
def cut (width : Width) (x : Word) : Word :=
  match width with
  | .w32 => x &&& 0xFFFFFFFF
  | .w64 => x

/-- The word read as a signed number of the width. -/
def signed (width : Width) (x : Word) : Int64 :=
  match width with
  | .w32 => x.toUInt32.toInt32.toInt64
  | .w64 => x.toInt64

/-- The least signed number of the width. -/
def least : Width → Int64
  | .w32 => -2147483648
  | .w64 => Int64.minValue

end Width

/-- **Arithmetic faults.** -/
inductive Fault where
  /-- Division or remainder by zero. -/
  | divideByZero
  /-- A quotient or a conversion outside the result's range. -/
  | overflow
  /-- A conversion of something that is not a number. -/
  | invalidConversion
  deriving DecidableEq, Repr

/-- Integer operations on one operand. -/
inductive IntUnary where
  /-- Leading zero bits. -/
  | clz
  /-- Trailing zero bits. -/
  | ctz
  /-- Bits that are set. -/
  | popcnt
  /-- Sign extension of the low byte. -/
  | extend8
  /-- Sign extension of the low half word. -/
  | extend16
  /-- Sign extension of the low word. -/
  | extend32
  deriving DecidableEq, Repr

/-- Integer operations on two operands. -/
inductive IntBinary where
  /-- Sum. -/
  | add
  /-- Difference. -/
  | sub
  /-- Product. -/
  | mul
  /-- Signed quotient. -/
  | divS
  /-- Unsigned quotient. -/
  | divU
  /-- Signed remainder. -/
  | remS
  /-- Unsigned remainder. -/
  | remU
  /-- Bitwise and. -/
  | and
  /-- Bitwise or. -/
  | or
  /-- Bitwise exclusive or. -/
  | xor
  /-- Shift left. -/
  | shl
  /-- Shift right, copying the sign. -/
  | shrS
  /-- Shift right, filling with zeros. -/
  | shrU
  /-- Rotation to the left. -/
  | rotl
  /-- Rotation to the right. -/
  | rotr
  deriving DecidableEq, Repr

/-- Integer comparisons. -/
inductive IntCompare where
  /-- Equal. -/
  | eq
  /-- Different. -/
  | ne
  /-- Less, signed. -/
  | ltS
  /-- Less, unsigned. -/
  | ltU
  /-- Greater, signed. -/
  | gtS
  /-- Greater, unsigned. -/
  | gtU
  /-- At most, signed. -/
  | leS
  /-- At most, unsigned. -/
  | leU
  /-- At least, signed. -/
  | geS
  /-- At least, unsigned. -/
  | geU
  deriving DecidableEq, Repr

/-- Float operations on one operand. -/
inductive FloatUnary where
  /-- Absolute value. -/
  | abs
  /-- Negation. -/
  | neg
  /-- Rounding up. -/
  | ceil
  /-- Rounding down. -/
  | floor
  /-- Rounding toward zero. -/
  | trunc
  /-- Rounding to the nearest, ties to even. -/
  | nearest
  /-- Square root. -/
  | sqrt
  deriving DecidableEq, Repr

/-- Float operations on two operands. -/
inductive FloatBinary where
  /-- Sum. -/
  | add
  /-- Difference. -/
  | sub
  /-- Product. -/
  | mul
  /-- Quotient. -/
  | div
  /-- The lesser. -/
  | min
  /-- The greater. -/
  | max
  /-- The first with the sign of the second. -/
  | copysign
  deriving DecidableEq, Repr

/-- Float comparisons. -/
inductive FloatCompare where
  /-- Equal. -/
  | eq
  /-- Different. -/
  | ne
  /-- Less. -/
  | lt
  /-- Greater. -/
  | gt
  /-- At most. -/
  | le
  /-- At least. -/
  | ge
  deriving DecidableEq, Repr

/-- **A numeric operation.** -/
inductive Numeric where
  /-- Whether an integer is zero. -/
  | eqz (width : Width)
  /-- A comparison of integers. -/
  | intCompare (width : Width) (op : IntCompare)
  /-- An integer operation on one operand. -/
  | intUnary (width : Width) (op : IntUnary)
  /-- An integer operation on two operands. -/
  | intBinary (width : Width) (op : IntBinary)
  /-- A comparison of floats. -/
  | floatCompare (width : Width) (op : FloatCompare)
  /-- A float operation on one operand. -/
  | floatUnary (width : Width) (op : FloatUnary)
  /-- A float operation on two operands. -/
  | floatBinary (width : Width) (op : FloatBinary)
  /-- The low half of a 64-bit integer. -/
  | wrap
  /-- A 32-bit integer as a 64-bit one. -/
  | extend (signed : Bool)
  /-- A float to an integer, toward zero; outside the range a fault, or the nearest bound. -/
  | truncate (into source : Width) (signed saturating : Bool)
  /-- An integer to a float. -/
  | convert (into source : Width) (signed : Bool)
  /-- A double to a single. -/
  | demote
  /-- A single to a double. -/
  | promote
  /-- The bits of a float as an integer. -/
  | floatBits (width : Width)
  /-- The bits of an integer as a float. -/
  | bitsFloat (width : Width)
  deriving DecidableEq, Repr

namespace Numeric

/-- The types of the operands, in order. -/
def operands : Numeric → List ValueType
  | .eqz w | .intUnary w _ | .bitsFloat w => [w.intType]
  | .intCompare w _ | .intBinary w _ => [w.intType, w.intType]
  | .floatCompare w _ | .floatBinary w _ => [w.floatType, w.floatType]
  | .floatUnary w _ | .floatBits w => [w.floatType]
  | .wrap => [.i64]
  | .extend _ => [.i32]
  | .truncate _ source _ _ => [source.floatType]
  | .convert _ source _ => [source.intType]
  | .demote => [.f64]
  | .promote => [.f32]

/-- The type of the result. -/
def result : Numeric → ValueType
  | .eqz _ | .intCompare _ _ | .floatCompare _ _ => .i32
  | .intUnary w _ | .intBinary w _ | .floatBits w => w.intType
  | .floatUnary w _ | .floatBinary w _ | .bitsFloat w => w.floatType
  | .wrap => .i32
  | .extend _ => .i64
  | .truncate into _ _ _ => into.intType
  | .convert into _ _ => into.floatType
  | .demote => .f32
  | .promote => .f64

/-- Truth as an `i32`. -/
def flag (b : Bool) : Word := if b then 1 else 0

/-- The number of bits set among the low `count`. -/
def bitCount : Nat → Word → Word
  | 0, _ => 0
  | count + 1, x => (x &&& (1 : Word)) + bitCount count (x >>> (1 : Word))

/-- The lowest `count` bits, as a signed number. -/
def signExtend (count : UInt64) (x : Word) : Word :=
  let shift := 64 - count
  ((x <<< shift).toInt64 >>> shift.toInt64).toUInt64

/-- An integer operation on one operand. -/
def evalIntUnary (width : Width) (op : IntUnary) (x : Word) : Word :=
  match op with
  | .clz => if x == 0 then width.bits else width.bits - 1 - x.log2
  | .ctz => if x == 0 then width.bits else (x &&& (0 - x)).log2
  | .popcnt => bitCount 64 x
  | .extend8 => width.cut (signExtend 8 x)
  | .extend16 => width.cut (signExtend 16 x)
  | .extend32 => width.cut (signExtend 32 x)

/-- An integer operation on two operands. -/
def evalIntBinary (width : Width) (op : IntBinary) (x y : Word) : Except Fault Word :=
  match op with
  | .add => .ok (width.cut (x + y))
  | .sub => .ok (width.cut (x - y))
  | .mul => .ok (width.cut (x * y))
  | .divS =>
    if y == 0 then .error .divideByZero
    else if width.signed x == width.least && width.signed y == -1 then .error .overflow
    else .ok (width.cut (width.signed x / width.signed y).toUInt64)
  | .divU => if y == 0 then .error .divideByZero else .ok (x / y)
  | .remS =>
    if y == 0 then .error .divideByZero
    else .ok (width.cut (width.signed x % width.signed y).toUInt64)
  | .remU => if y == 0 then .error .divideByZero else .ok (x % y)
  | .and => .ok (x &&& y)
  | .or => .ok (x ||| y)
  | .xor => .ok (x ^^^ y)
  | .shl => .ok (width.cut (x <<< (y % width.bits)))
  | .shrS => .ok (width.cut (width.signed x >>> (y % width.bits).toInt64).toUInt64)
  | .shrU => .ok (x >>> (y % width.bits))
  | .rotl =>
    let k := y % width.bits
    .ok (if k == 0 then x else width.cut ((x <<< k) ||| (x >>> (width.bits - k))))
  | .rotr =>
    let k := y % width.bits
    .ok (if k == 0 then x else width.cut ((x >>> k) ||| (x <<< (width.bits - k))))

/-- A comparison of integers. -/
def evalIntCompare (width : Width) (op : IntCompare) (x y : Word) : Bool :=
  match op with
  | .eq => x == y
  | .ne => x != y
  | .ltS => width.signed x < width.signed y
  | .ltU => x < y
  | .gtS => width.signed x > width.signed y
  | .gtU => x > y
  | .leS => width.signed x ≤ width.signed y
  | .leU => x ≤ y
  | .geS => width.signed x ≥ width.signed y
  | .geU => x ≥ y

/-- The sign bit of a float of the width. -/
def signBit : Width → Word
  | .w32 => 0x80000000
  | .w64 => 0x8000000000000000

/-- The double with the same value as the float of the width with these bits. -/
def toDouble (width : Width) (x : Word) : Float :=
  match width with
  | .w32 => (Float32.ofBits x.toUInt32).toFloat
  | .w64 => Float.ofBits x

/-- Rounding toward zero. -/
def roundToZero (x : Float) : Float := if x < 0 then x.ceil else x.floor

/-- Rounding to the nearest integer, ties to even; the sign of a zero is the operand's. -/
def roundToNearest (x : Float) : Float :=
  if x.isNaN || x.isInf then x
  else
    let down := x.floor
    let rest := x - down
    let rounded :=
      if rest < 0.5 then down
      else if 0.5 < rest then down + 1
      else if (down / 2).floor * 2 == down then down
      else down + 1
    if rounded == 0 then (if x < 0 then -0.0 else x * 0.0) else rounded

/-- A float operation on one operand.  Rounding a single is rounding its double: the result is
an integer or the operand itself, so nothing is lost on the way back. -/
def evalFloatUnary (width : Width) (op : FloatUnary) (x : Word) : Word :=
  match op with
  | .abs => x &&& ~~~signBit width
  | .neg => x ^^^ signBit width
  | op =>
    match width with
    | .w32 =>
      let a := Float32.ofBits x.toUInt32
      (match op with
        | .ceil => a.toFloat.ceil.toFloat32
        | .floor => a.toFloat.floor.toFloat32
        | .trunc => (roundToZero a.toFloat).toFloat32
        | .nearest => (roundToNearest a.toFloat).toFloat32
        | _ => a.sqrt).toBits.toUInt64
    | .w64 =>
      let a := Float.ofBits x
      (match op with
        | .ceil => a.ceil
        | .floor => a.floor
        | .trunc => roundToZero a
        | .nearest => roundToNearest a
        | _ => a.sqrt).toBits

/-- The not-a-number that operations answer of themselves. -/
def canonicalNaN : Width → Word
  | .w32 => 0x7FC00000
  | .w64 => 0x7FF8000000000000

/-- The lesser, or the greater, of two floats; not a number if one is not, and the negative zero
is less than the positive one. -/
def pick (width : Width) (greater : Bool) (x y : Word) : Word :=
  let a := toDouble width x
  let b := toDouble width y
  if a.isNaN || b.isNaN then canonicalNaN width
  else if a == b then (if greater then x &&& y else x ||| y)
  else if (a < b) != greater then x else y

/-- A float operation on two operands. -/
def evalFloatBinary (width : Width) (op : FloatBinary) (x y : Word) : Word :=
  match op with
  | .min => pick width false x y
  | .max => pick width true x y
  | .copysign => (x &&& ~~~signBit width) ||| (y &&& signBit width)
  | op =>
    match width with
    | .w32 =>
      let a := Float32.ofBits x.toUInt32
      let b := Float32.ofBits y.toUInt32
      (match op with
        | .add => a + b
        | .sub => a - b
        | .mul => a * b
        | _ => a / b).toBits.toUInt64
    | .w64 =>
      let a := Float.ofBits x
      let b := Float.ofBits y
      (match op with
        | .add => a + b
        | .sub => a - b
        | .mul => a * b
        | _ => a / b).toBits

/-- A comparison of floats; nothing compares with what is not a number, except that it differs. -/
def evalFloatCompare (width : Width) (op : FloatCompare) (x y : Word) : Bool :=
  let a := toDouble width x
  let b := toDouble width y
  match op with
  | .eq => a == b
  | .ne => a != b
  | .lt => a < b
  | .gt => a > b
  | .le => a ≤ b
  | .ge => a ≥ b

/-- **The integer part of a float**, exactly: none for what is not a number, and for an infinity
a number beyond every range.  The bits are sign, eleven bits of exponent and 52 of fraction. -/
def integerPart (x : Float) : Option Int :=
  if x.isNaN then none
  else
    let bits := x.toBits
    let exponent := ((bits >>> 52) &&& 0x7FF).toNat
    let fraction := (bits &&& 0xFFFFFFFFFFFFF).toNat
    let significand := if exponent = 0 then fraction else fraction + Nat.pow 2 52
    let magnitude :=
      if exponent ≥ 1075 then significand * Nat.pow 2 (exponent - 1075)
      else significand / Nat.pow 2 (1075 - exponent)
    some (if bits &&& signBit .w64 == 0 then (magnitude : Int) else -(magnitude : Int))

/-- The least and the greatest integer of a width and a signedness. -/
def intRange (width : Width) (signed : Bool) : Int × Int :=
  match width, signed with
  | .w32, true => (-2147483648, 2147483647)
  | .w32, false => (0, 4294967295)
  | .w64, true => (-9223372036854775808, 9223372036854775807)
  | .w64, false => (0, 18446744073709551615)

/-- The word of an integer, modulo the width. -/
def wordOfInt (width : Width) (value : Int) : Word :=
  width.cut (UInt64.ofNat (value % 18446744073709551616).toNat)

/-- A float to an integer, toward zero. -/
def evalTruncate (into source : Width) (signed saturating : Bool) (x : Word) :
    Except Fault Word :=
  let (low, high) := intRange into signed
  match integerPart (toDouble source x) with
  | none => if saturating then .ok 0 else .error .invalidConversion
  | some value =>
    if low ≤ value ∧ value ≤ high then .ok (wordOfInt into value)
    else if saturating then .ok (wordOfInt into (if value < low then low else high))
    else .error .overflow

/-- An integer to the nearest float. -/
def evalConvert (into source : Width) (signed : Bool) (x : Word) : Word :=
  match into with
  | .w32 =>
    (if signed then (source.signed x).toFloat32 else x.toFloat32).toBits.toUInt64
  | .w64 => (if signed then (source.signed x).toFloat else x.toFloat).toBits

/-- **What a numeric operation computes.**  Operations on one operand ignore `y`. -/
def eval (op : Numeric) (x y : Word) : Except Fault Word :=
  match op with
  | .eqz _ => .ok (flag (x == 0))
  | .intCompare w op => .ok (flag (evalIntCompare w op x y))
  | .intUnary w op => .ok (evalIntUnary w op x)
  | .intBinary w op => evalIntBinary w op x y
  | .floatCompare w op => .ok (flag (evalFloatCompare w op x y))
  | .floatUnary w op => .ok (evalFloatUnary w op x)
  | .floatBinary w op => .ok (evalFloatBinary w op x y)
  | .wrap => .ok (Width.cut .w32 x)
  | .extend signed => .ok (if signed then signExtend 32 x else x)
  | .truncate into source signed saturating => evalTruncate into source signed saturating x
  | .convert into source signed => .ok (evalConvert into source signed x)
  | .demote => .ok (Float.ofBits x).toFloat32.toBits.toUInt64
  | .promote => .ok (Float32.ofBits x.toUInt32).toFloat.toBits
  | .floatBits _ => .ok x
  | .bitsFloat _ => .ok x

/-- Whether the operation takes two operands. -/
def isBinary : Numeric → Bool
  | .intCompare _ _ | .intBinary _ _ | .floatCompare _ _ | .floatBinary _ _ => true
  | _ => false

end Numeric
end Wasm
end FunctionHost
