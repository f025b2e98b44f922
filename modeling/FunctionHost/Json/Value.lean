import FunctionHost.Text.Utf8
/-!
# JSON documents

The values that documents are made of, and the one way in which they are written: without blanks,
members in the order given, strings with the fewest escapes.  Writing works on bytes: a string's
UTF-8 bytes are taken over except the quote, the backslash and the controls, all of which are
single bytes.
-/
namespace FunctionHost

/-- **A JSON document** without fractional numbers. -/
inductive Json where
  /-- Nothing. -/
  | null
  /-- A truth value. -/
  | bool (value : Bool)
  /-- An integer. -/
  | number (value : Int)
  /-- A string. -/
  | text (value : String)
  /-- An array. -/
  | list (items : List Json)
  /-- An object: members in order. -/
  | record (members : List (String × Json))
  deriving Inhabited

namespace Json

/-- A natural number as a document. -/
def nat (n : Nat) : Json := .number n

/-- The value of a member. -/
def member? (name : String) : Json → Option Json
  | .record members => (members.find? (·.1 == name)).map (·.2)
  | _ => none

/-- The value of a member; nothing if there is none. -/
def child (name : String) (document : Json) : Json := (document.member? name).getD .null

/-- The truth value that a document is; false for any other document. -/
def asFlag : Json → Bool
  | .bool value => value
  | _ => false

/-- The natural number that a document is; zero for any other document. -/
def asNat : Json → Nat
  | .number value => value.toNat
  | _ => 0

/-- The text that a document is; empty for any other document. -/
def asText : Json → String
  | .text value => value
  | _ => ""

/-- The items of an array; none for any other document. -/
def asList : Json → List Json
  | .list items => items
  | _ => []

/-- The members of an object; none for any other document. -/
def asMembers : Json → List (String × Json)
  | .record members => members
  | _ => []

/-- The ASCII bytes of a text. -/
def ascii (text : String) : List UInt8 := text.toUTF8.toList

/-- The lowercase hexadecimal digit of a number below sixteen. -/
def hexDigitByte (n : UInt8) : UInt8 := if n < 10 then 48 + n else 87 + n

/-- **A byte inside a string**: the quote, the backslash and controls are escaped. -/
def escapeByte (b : UInt8) : List UInt8 :=
  if b = 34 then [92, 34]
  else if b = 92 then [92, 92]
  else if b = 8 then [92, 98]
  else if b = 12 then [92, 102]
  else if b = 10 then [92, 110]
  else if b = 13 then [92, 114]
  else if b = 9 then [92, 116]
  else if b < 32 then [92, 117, 48, 48, hexDigitByte (b / 16), hexDigitByte (b % 16)]
  else [b]

/-- A string in quotes. -/
def quoteBytes (bytes : List UInt8) : List UInt8 := 34 :: (bytes.flatMap escapeByte ++ [34])

/-- A text in quotes. -/
def quote (text : String) : List UInt8 := quoteBytes text.toUTF8.toList

mutual

/-- The bytes of a document. -/
def writeBytes : Json → List UInt8
  | .null => ascii "null"
  | .bool true => ascii "true"
  | .bool false => ascii "false"
  | .number n => ascii (toString n)
  | .text s => quote s
  | .list items => 91 :: (writeItems true items ++ [93])
  | .record members => 123 :: (writeMembers true members ++ [125])

/-- The items of an array; all but the first begin with a comma. -/
def writeItems (first : Bool) : List Json → List UInt8
  | [] => []
  | item :: rest => (if first then [] else [44]) ++ writeBytes item ++ writeItems false rest

/-- The members of an object; all but the first begin with a comma. -/
def writeMembers (first : Bool) : List (String × Json) → List UInt8
  | [] => []
  | (name, value) :: rest =>
    (if first then [] else [44]) ++ quote name ++ [58] ++ writeBytes value
      ++ writeMembers false rest

end

/-- The bytes of a document. -/
def toBytes (document : Json) : Bytes := Bytes.ofList document.writeBytes

/-- The text of a document. -/
def render (document : Json) : String := Utf8.decodeLossy document.toBytes

end Json
end FunctionHost
