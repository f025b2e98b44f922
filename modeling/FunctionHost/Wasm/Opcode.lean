import FunctionHost.Wasm.Operator
/-!
# Operators by name and number

The text format spells an operator by its mnemonic, the binary format by its number.  The tables
list the mnemonics of arithmetic and of memory accesses in the order of their numbers, so one
table serves both formats.
-/
namespace FunctionHost
namespace Wasm
namespace Opcode

/-- A mnemonic and the operation it names. -/
abbrev Row := String × Numeric

/-- Tests and comparisons, from opcode `0x45` on. -/
def comparisons : Array Row :=
  #[
    ("i32.eqz", .eqz .w32),
    ("i32.eq", .intCompare .w32 .eq),
    ("i32.ne", .intCompare .w32 .ne),
    ("i32.lt_s", .intCompare .w32 .ltS),
    ("i32.lt_u", .intCompare .w32 .ltU),
    ("i32.gt_s", .intCompare .w32 .gtS),
    ("i32.gt_u", .intCompare .w32 .gtU),
    ("i32.le_s", .intCompare .w32 .leS),
    ("i32.le_u", .intCompare .w32 .leU),
    ("i32.ge_s", .intCompare .w32 .geS),
    ("i32.ge_u", .intCompare .w32 .geU),
    ("i64.eqz", .eqz .w64),
    ("i64.eq", .intCompare .w64 .eq),
    ("i64.ne", .intCompare .w64 .ne),
    ("i64.lt_s", .intCompare .w64 .ltS),
    ("i64.lt_u", .intCompare .w64 .ltU),
    ("i64.gt_s", .intCompare .w64 .gtS),
    ("i64.gt_u", .intCompare .w64 .gtU),
    ("i64.le_s", .intCompare .w64 .leS),
    ("i64.le_u", .intCompare .w64 .leU),
    ("i64.ge_s", .intCompare .w64 .geS),
    ("i64.ge_u", .intCompare .w64 .geU),
    ("f32.eq", .floatCompare .w32 .eq),
    ("f32.ne", .floatCompare .w32 .ne),
    ("f32.lt", .floatCompare .w32 .lt),
    ("f32.gt", .floatCompare .w32 .gt),
    ("f32.le", .floatCompare .w32 .le),
    ("f32.ge", .floatCompare .w32 .ge),
    ("f64.eq", .floatCompare .w64 .eq),
    ("f64.ne", .floatCompare .w64 .ne),
    ("f64.lt", .floatCompare .w64 .lt),
    ("f64.gt", .floatCompare .w64 .gt),
    ("f64.le", .floatCompare .w64 .le),
    ("f64.ge", .floatCompare .w64 .ge)]

/-- Integer arithmetic, from opcode `0x67` on. -/
def integers : Array Row :=
  #[
    ("i32.clz", .intUnary .w32 .clz),
    ("i32.ctz", .intUnary .w32 .ctz),
    ("i32.popcnt", .intUnary .w32 .popcnt),
    ("i32.add", .intBinary .w32 .add),
    ("i32.sub", .intBinary .w32 .sub),
    ("i32.mul", .intBinary .w32 .mul),
    ("i32.div_s", .intBinary .w32 .divS),
    ("i32.div_u", .intBinary .w32 .divU),
    ("i32.rem_s", .intBinary .w32 .remS),
    ("i32.rem_u", .intBinary .w32 .remU),
    ("i32.and", .intBinary .w32 .and),
    ("i32.or", .intBinary .w32 .or),
    ("i32.xor", .intBinary .w32 .xor),
    ("i32.shl", .intBinary .w32 .shl),
    ("i32.shr_s", .intBinary .w32 .shrS),
    ("i32.shr_u", .intBinary .w32 .shrU),
    ("i32.rotl", .intBinary .w32 .rotl),
    ("i32.rotr", .intBinary .w32 .rotr),
    ("i64.clz", .intUnary .w64 .clz),
    ("i64.ctz", .intUnary .w64 .ctz),
    ("i64.popcnt", .intUnary .w64 .popcnt),
    ("i64.add", .intBinary .w64 .add),
    ("i64.sub", .intBinary .w64 .sub),
    ("i64.mul", .intBinary .w64 .mul),
    ("i64.div_s", .intBinary .w64 .divS),
    ("i64.div_u", .intBinary .w64 .divU),
    ("i64.rem_s", .intBinary .w64 .remS),
    ("i64.rem_u", .intBinary .w64 .remU),
    ("i64.and", .intBinary .w64 .and),
    ("i64.or", .intBinary .w64 .or),
    ("i64.xor", .intBinary .w64 .xor),
    ("i64.shl", .intBinary .w64 .shl),
    ("i64.shr_s", .intBinary .w64 .shrS),
    ("i64.shr_u", .intBinary .w64 .shrU),
    ("i64.rotl", .intBinary .w64 .rotl),
    ("i64.rotr", .intBinary .w64 .rotr)]

/-- Float arithmetic, from opcode `0x8B` on. -/
def floats : Array Row :=
  #[
    ("f32.abs", .floatUnary .w32 .abs),
    ("f32.neg", .floatUnary .w32 .neg),
    ("f32.ceil", .floatUnary .w32 .ceil),
    ("f32.floor", .floatUnary .w32 .floor),
    ("f32.trunc", .floatUnary .w32 .trunc),
    ("f32.nearest", .floatUnary .w32 .nearest),
    ("f32.sqrt", .floatUnary .w32 .sqrt),
    ("f32.add", .floatBinary .w32 .add),
    ("f32.sub", .floatBinary .w32 .sub),
    ("f32.mul", .floatBinary .w32 .mul),
    ("f32.div", .floatBinary .w32 .div),
    ("f32.min", .floatBinary .w32 .min),
    ("f32.max", .floatBinary .w32 .max),
    ("f32.copysign", .floatBinary .w32 .copysign),
    ("f64.abs", .floatUnary .w64 .abs),
    ("f64.neg", .floatUnary .w64 .neg),
    ("f64.ceil", .floatUnary .w64 .ceil),
    ("f64.floor", .floatUnary .w64 .floor),
    ("f64.trunc", .floatUnary .w64 .trunc),
    ("f64.nearest", .floatUnary .w64 .nearest),
    ("f64.sqrt", .floatUnary .w64 .sqrt),
    ("f64.add", .floatBinary .w64 .add),
    ("f64.sub", .floatBinary .w64 .sub),
    ("f64.mul", .floatBinary .w64 .mul),
    ("f64.div", .floatBinary .w64 .div),
    ("f64.min", .floatBinary .w64 .min),
    ("f64.max", .floatBinary .w64 .max),
    ("f64.copysign", .floatBinary .w64 .copysign)]

/-- Conversions and sign extensions, from opcode `0xA7` on. -/
def conversions : Array Row :=
  #[
    ("i32.wrap_i64", .wrap),
    ("i32.trunc_f32_s", .truncate .w32 .w32 true false),
    ("i32.trunc_f32_u", .truncate .w32 .w32 false false),
    ("i32.trunc_f64_s", .truncate .w32 .w64 true false),
    ("i32.trunc_f64_u", .truncate .w32 .w64 false false),
    ("i64.extend_i32_s", .extend true),
    ("i64.extend_i32_u", .extend false),
    ("i64.trunc_f32_s", .truncate .w64 .w32 true false),
    ("i64.trunc_f32_u", .truncate .w64 .w32 false false),
    ("i64.trunc_f64_s", .truncate .w64 .w64 true false),
    ("i64.trunc_f64_u", .truncate .w64 .w64 false false),
    ("f32.convert_i32_s", .convert .w32 .w32 true),
    ("f32.convert_i32_u", .convert .w32 .w32 false),
    ("f32.convert_i64_s", .convert .w32 .w64 true),
    ("f32.convert_i64_u", .convert .w32 .w64 false),
    ("f32.demote_f64", .demote),
    ("f64.convert_i32_s", .convert .w64 .w32 true),
    ("f64.convert_i32_u", .convert .w64 .w32 false),
    ("f64.convert_i64_s", .convert .w64 .w64 true),
    ("f64.convert_i64_u", .convert .w64 .w64 false),
    ("f64.promote_f32", .promote),
    ("i32.reinterpret_f32", .floatBits .w32),
    ("i64.reinterpret_f64", .floatBits .w64),
    ("f32.reinterpret_i32", .bitsFloat .w32),
    ("f64.reinterpret_i64", .bitsFloat .w64),
    ("i32.extend8_s", .intUnary .w32 .extend8),
    ("i32.extend16_s", .intUnary .w32 .extend16),
    ("i64.extend8_s", .intUnary .w64 .extend8),
    ("i64.extend16_s", .intUnary .w64 .extend16),
    ("i64.extend32_s", .intUnary .w64 .extend32)]

/-- Arithmetic in the order of opcodes; the first has opcode `0x45`. -/
def arithmetic : Array Row := comparisons ++ integers ++ floats ++ conversions

/-- The opcode of the first arithmetic operator. -/
def firstArithmetic : Nat := 0x45

/-- Saturating conversions, from number 0 on after the prefix `0xFC`. -/
def saturating : Array Row :=
  #[
    ("i32.trunc_sat_f32_s", .truncate .w32 .w32 true true),
    ("i32.trunc_sat_f32_u", .truncate .w32 .w32 false true),
    ("i32.trunc_sat_f64_s", .truncate .w32 .w64 true true),
    ("i32.trunc_sat_f64_u", .truncate .w32 .w64 false true),
    ("i64.trunc_sat_f32_s", .truncate .w64 .w32 true true),
    ("i64.trunc_sat_f32_u", .truncate .w64 .w32 false true),
    ("i64.trunc_sat_f64_s", .truncate .w64 .w64 true true),
    ("i64.trunc_sat_f64_u", .truncate .w64 .w64 false true)]

/-- Reads from memory, from opcode `0x28` on. -/
def loads : Array (String × LoadShape) :=
  #[
    ("i32.load", ⟨.i32, 4, false⟩),
    ("i64.load", ⟨.i64, 8, false⟩),
    ("f32.load", ⟨.f32, 4, false⟩),
    ("f64.load", ⟨.f64, 8, false⟩),
    ("i32.load8_s", ⟨.i32, 1, true⟩),
    ("i32.load8_u", ⟨.i32, 1, false⟩),
    ("i32.load16_s", ⟨.i32, 2, true⟩),
    ("i32.load16_u", ⟨.i32, 2, false⟩),
    ("i64.load8_s", ⟨.i64, 1, true⟩),
    ("i64.load8_u", ⟨.i64, 1, false⟩),
    ("i64.load16_s", ⟨.i64, 2, true⟩),
    ("i64.load16_u", ⟨.i64, 2, false⟩),
    ("i64.load32_s", ⟨.i64, 4, true⟩),
    ("i64.load32_u", ⟨.i64, 4, false⟩)]

/-- Writes to memory, from opcode `0x36` on. -/
def stores : Array (String × StoreShape) :=
  #[
    ("i32.store", ⟨.i32, 4⟩),
    ("i64.store", ⟨.i64, 8⟩),
    ("f32.store", ⟨.f32, 4⟩),
    ("f64.store", ⟨.f64, 8⟩),
    ("i32.store8", ⟨.i32, 1⟩),
    ("i32.store16", ⟨.i32, 2⟩),
    ("i64.store8", ⟨.i64, 1⟩),
    ("i64.store16", ⟨.i64, 2⟩),
    ("i64.store32", ⟨.i64, 4⟩)]

end Opcode
end Wasm
end FunctionHost
