import FunctionHost.Bytes
/-!
# Percent signs

Characters that an address cannot have where they stand are written byte by byte as percent signs
with two hexadecimal digits.  Which ASCII characters those are depends on the place; characters
beyond ASCII are always written so.
-/
namespace FunctionHost
namespace Percent

/-- A byte written as a percent sign and two digits. -/
def byte (b : UInt8) : List Char := '%' :: ((hexByte b).toUpper).toList

/-- A set of ASCII characters to be written as bytes. -/
abbrev Escaped := Char → Bool

/-- A character where the members of a set are written as bytes. -/
def char (set : Escaped) (c : Char) : List Char :=
  if c.toNat < 128 ∧ !set c then [c] else (Bytes.ofText c.toString).toList.flatMap byte

/-- **Writes characters** where the members of a set are written as bytes. -/
def encode (set : Escaped) (chars : List Char) : String := String.ofList (chars.flatMap (char set))

/-- The controls. -/
def controls : Escaped := fun c => c.toNat < 32 || c.toNat = 127

/-- What a fragment cannot have. -/
def fragment : Escaped := fun c => controls c || " \"<>`".contains c

/-- What a query cannot have. -/
def query : Escaped := fun c => controls c || " \"#<>".contains c

/-- What the query of an address with a known scheme cannot have. -/
def knownQuery : Escaped := fun c => query c || c = '\''

/-- What a path cannot have. -/
def path : Escaped := fun c => fragment c || "#?\x7b\x7d".contains c

/-- What a name or a password cannot have. -/
def user : Escaped := fun c => path c || "/:;=@[\\]^|".contains c

/-- The value of a hexadecimal digit. -/
def digit? (b : UInt8) : Option UInt8 :=
  if 48 ≤ b ∧ b ≤ 57 then some (b - 48)
  else if 65 ≤ b ∧ b ≤ 70 then some (b - 55)
  else if 97 ≤ b ∧ b ≤ 102 then some (b - 87)
  else none

/-- Reads bytes: a percent sign and two digits stand for one, everything else for itself. -/
def decodeBytes : List UInt8 → List UInt8
  | [] => []
  | [a] => [a]
  | [a, b] => [a, b]
  | a :: b :: c :: rest =>
    match digit? b, digit? c with
    | some high, some low =>
      if a = 37 then (high * 16 + low) :: decodeBytes rest else a :: decodeBytes (b :: c :: rest)
    | _, _ => a :: decodeBytes (b :: c :: rest)

/-- **The bytes that a text stands for.** -/
def decode (text : String) : Bytes := Bytes.ofList (decodeBytes (Bytes.ofText text).toList)

end Percent
end FunctionHost
