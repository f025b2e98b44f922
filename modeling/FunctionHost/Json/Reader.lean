import FunctionHost.Document.Shape
import FunctionHost.Text.Decimal
import FunctionHost.Text.Quoted
/-!
# Reading JSON by shape

A document is read from left to right while following a shape.  Members that the shape does not
know are skipped, members that it knows are read at once, so what is refused first is what stands
first.  A refusal carries the line and the column, counted in bytes, at which it was noticed; one
that concerns a whole object or array is placed behind it.
-/
namespace FunctionHost
namespace Json
namespace Reader

/-- Where reading stands: the bytes left and the number of bytes read. -/
structure Cursor where
  /-- The bytes left. -/
  rest : List UInt8
  /-- How many bytes have been read. -/
  used : Nat

/-- A refusal, and after how many bytes it was noticed, once that is settled. -/
structure Refusal where
  /-- What is wrong. -/
  reason : String
  /-- The number of bytes read before it was noticed. -/
  place : Option Nat

/-- A reader: it answers or refuses, and moves the cursor in both cases. -/
abbrev Reading (α : Type) := ExceptT Refusal (StateM Cursor) α

/-- The next byte, which stays. -/
def peek : Reading (Option UInt8) := do return (← get).rest.head?

/-- Skips a byte. -/
def advance : Reading Unit := modify fun c => ⟨c.rest.tail, c.used + 1⟩

/-- The next byte. -/
def next : Reading (Option UInt8) := do
  match (← get).rest with
  | [] => return none
  | b :: rest =>
    modify fun c => ⟨rest, c.used + 1⟩
    return some b

/-- Refuses at the bytes read so far. -/
def fail {α : Type} (reason : String) : Reading α := do throw ⟨reason, some (← get).used⟩

/-- Refuses at the byte to be read next. -/
def failNext {α : Type} (reason : String) : Reading α := do
  let c ← get
  throw ⟨reason, some (if c.rest.isEmpty then c.used else c.used + 1)⟩

/-- Refuses at a place that is settled later. -/
def failLater {α : Type} (reason : String) : Reading α := throw ⟨reason, none⟩

/-- Settles the place of a refusal that has none. -/
def placed {α : Type} (r : Reading α) : Reading α :=
  tryCatch r fun refusal =>
    match refusal.place with
    | some _ => throw refusal
    | none => do throw ⟨refusal.reason, some (← get).used⟩

/-- What a reader says, its refusal included. -/
def attempt {α : Type} (r : Reading α) : Reading (Except Refusal α) :=
  tryCatch (Except.ok <$> r) fun refusal => return .error refusal

/-- A first reader and then a second in any case; the first refusal counts. -/
def closedBy {α : Type} (inner : Reading α) (close : Reading Unit) : Reading α := do
  let result ← attempt inner
  let closed ← attempt close
  match result, closed with
  | .ok value, .ok () => return value
  | .error refusal, _ => throw refusal
  | _, .error refusal => throw refusal

/-- Blank, tab, line feed, carriage return. -/
def isBlank (b : UInt8) : Bool := b == 32 || b == 9 || b == 10 || b == 13

/-- Skips blanks; the byte after them, which stays. -/
def skipBlanks : Reading (Option UInt8) := do
  modify fun c =>
    let blanks := (c.rest.takeWhile isBlank).length
    ⟨c.rest.drop blanks, c.used + blanks⟩
  peek

/-- Skips decimal digits; how many there were. -/
def skipDigits : Reading Nat := do
  let digits := ((← get).rest.takeWhile fun b => 48 ≤ b && b ≤ 57).length
  modify fun c => ⟨c.rest.drop digits, c.used + digits⟩
  return digits

/-- Whether a byte is a decimal digit. -/
def isDigit (b : UInt8) : Bool := 48 ≤ b && b ≤ 57

/-- The rest of a word, byte by byte. -/
def word : List UInt8 → Reading Unit
  | [] => return ()
  | b :: rest => do
    match ← next with
    | none => fail "EOF while parsing a value"
    | some found => if found = b then word rest else fail "expected ident"

/-- A byte of a string that stands for itself. -/
def isPlain (b : UInt8) : Bool := b != 34 && b != 92 && 32 ≤ b

/-- The value of a hexadecimal digit. -/
def hexValue? (b : UInt8) : Option Nat :=
  if 48 ≤ b && b ≤ 57 then some (b.toNat - 48)
  else if 97 ≤ b && b ≤ 102 then some (b.toNat - 87)
  else if 65 ≤ b && b ≤ 70 then some (b.toNat - 55)
  else none

/-- Four hexadecimal digits. -/
def hexEscape : Reading Nat := do
  match (← get).rest with
  | a :: b :: c :: d :: rest =>
    modify fun cursor => ⟨rest, cursor.used + 4⟩
    match hexValue? a, hexValue? b, hexValue? c, hexValue? d with
    | some a, some b, some c, some d => return ((a * 16 + b) * 16 + c) * 16 + d
    | _, _, _, _ => fail "invalid escape"
  | rest =>
    modify fun cursor => ⟨[], cursor.used + rest.length⟩
    fail "EOF while parsing a string"

/-- The UTF-8 bytes of a character. -/
def charBytes (code : Nat) : List UInt8 := ascii (String.singleton (Char.ofNat code))

/-- The second half of a pair, of which the first is a leading surrogate. -/
def trailingEscape (lead : Nat) : Reading (List UInt8) := do
  for expected in [(92 : UInt8), 117] do
    match ← next with
    | none => fail "EOF while parsing a string"
    | some b => if b ≠ expected then fail "unexpected end of hex escape"
  let trail ← hexEscape
  if 0xDC00 ≤ trail ∧ trail ≤ 0xDFFF then
    return charBytes ((lead - 0xD800) * 1024 + (trail - 0xDC00) + 0x10000)
  else fail "lone leading surrogate in hex escape"

/-- The bytes that a byte after the backslash stands for by itself. -/
def shortEscape? (b : UInt8) : Option UInt8 :=
  if b = 34 || b = 92 || b = 47 then some b
  else if b = 98 then some 8
  else if b = 102 then some 12
  else if b = 110 then some 10
  else if b = 114 then some 13
  else if b = 116 then some 9
  else none

/-- What follows a backslash. -/
def escape : Reading (List UInt8) := do
  match ← next with
  | none => fail "EOF while parsing a string"
  | some b =>
    match shortEscape? b with
    | some plain => return [plain]
    | none =>
      if b = 117 then
        let code ← hexEscape
        if 0xDC00 ≤ code ∧ code ≤ 0xDFFF then fail "lone leading surrogate in hex escape"
        else if 0xD800 ≤ code ∧ code ≤ 0xDBFF then trailingEscape code
        else return charBytes code
      else fail "invalid escape"

/-- What follows a backslash in a string that is skipped. -/
def skipEscape : Reading (List UInt8) := do
  match ← next with
  | none => fail "EOF while parsing a string"
  | some b =>
    if (shortEscape? b).isSome then return []
    else if b = 117 then
      let _ ← hexEscape
      return []
    else fail "invalid escape"

/-- The bytes of a string behind its opening quote, up to and with the closing one.  Every round
reads a byte, so as many rounds as there are bytes are enough. -/
def stringFrom (escaped : Reading (List UInt8)) : Nat → List (List UInt8) → Reading (List UInt8)
  | 0, _ => fail "EOF while parsing a string"
  | rounds + 1, parts => do
    let plain := (← get).rest.takeWhile isPlain
    modify fun c => ⟨c.rest.drop plain.length, c.used + plain.length⟩
    match ← peek with
    | none => fail "EOF while parsing a string"
    | some b =>
      if b = 34 then
        advance
        return (plain :: parts).reverse.flatten
      else if b = 92 then
        advance
        let more ← escaped
        stringFrom escaped rounds (more :: plain :: parts)
      else fail "control character (\\u0000-\\u001F) found while parsing a string"

/-- The bytes of a string behind its opening quote. -/
def stringBytes (escaped : Reading (List UInt8)) : Reading (List UInt8) := do
  stringFrom escaped ((← get).rest.length + 1) []

/-- A string behind its opening quote. -/
def string : Reading String := do
  let bytes ← stringBytes escape
  match Utf8.decode? (Bytes.ofList bytes) with
  | some decoded => return decoded
  | none => fail "invalid unicode code point"

/-- A number: an integer, or a float of which only the text is needed. -/
inductive Number where
  /-- An integer. -/
  | integer (value : Int)
  /-- A float. -/
  | float (value : Float)

/-- The number that decimal digits spell. -/
def decimalValue (digits : List UInt8) : Nat :=
  digits.foldl (fun acc b => acc * 10 + (b.toNat - 48)) 0

/-- The greatest number that integers are kept exactly up to. -/
def maxExact : Nat := UInt64.size - 1

/-- As many leading digits as fit, read onto a significand, and how many were left out. -/
def significand (start : Nat) : List UInt8 → Nat × Nat
  | [] => (start, 0)
  | b :: rest =>
    let longer := start * 10 + (b.toNat - 48)
    if maxExact < longer then (start, rest.length + 1) else significand longer rest

/-- A significand times a power of ten, rounded at each step. -/
def scaleBy : Nat → Float → Int → Option Float
  | 0, f, _ => some f
  | steps + 1, f, exponent =>
    if exponent.natAbs ≤ 308 then
      let power := Float.ofScientific 1 false exponent.natAbs
      if 0 ≤ exponent then
        let scaled := f * power
        if scaled.isInf then none else some scaled
      else some (f / power)
    else if f == 0.0 then some f
    else if 0 ≤ exponent then none
    else scaleBy steps (f / 1e308) (exponent + 308)

/-- A float from its parts. -/
def floatOf (positive : Bool) (digits : Nat) (exponent : Int) : Reading Number := do
  match scaleBy (exponent.natAbs / 308 + 2) digits.toUInt64.toFloat exponent with
  | none => fail "number out of range"
  | some f => return .float (if positive then f else -f)

/-- The exponent of a number, behind its `e`, and the number. -/
def exponentPart (positive : Bool) (digits : Nat) (exponent : Int) : Reading Number := do
  let sign ← peek
  let positiveExponent := sign != some 45
  if sign == some 43 || sign == some 45 then advance
  match ← next with
  | none => fail "EOF while parsing a value"
  | some b =>
    if !isDigit b then fail "invalid number"
    else
      let more := (← get).rest.takeWhile isDigit
      let (size, left) := (decimalValue (b :: more), more.length)
      if UInt32.size / 2 - 1 < size then
        if digits ≠ 0 && positiveExponent then fail "number out of range"
        else
          modify fun c => ⟨c.rest.drop left, c.used + left⟩
          return .float (if positive then 0.0 else -0.0)
      else
        modify fun c => ⟨c.rest.drop left, c.used + left⟩
        floatOf positive digits (if positiveExponent then exponent + size else exponent - size)

/-- What follows the digits of a fraction. -/
def afterFraction (positive : Bool) (digits : Nat) (exponent : Int) : Reading Number := do
  match ← peek with
  | some 101 | some 69 =>
    advance
    exponentPart positive digits exponent
  | _ => floatOf positive digits exponent

/-- The fraction of a number, behind its point. -/
def fractionPart (positive : Bool) (digits : Nat) (exponent : Int) : Reading Number := do
  let fraction := (← get).rest.takeWhile isDigit
  modify fun c => ⟨c.rest.drop fraction.length, c.used + fraction.length⟩
  if fraction.isEmpty then
    match ← peek with
    | some _ => failNext "invalid number"
    | none => failNext "EOF while parsing a value"
  else
    let (digits, dropped) := significand digits fraction
    afterFraction positive digits (exponent - (fraction.length - dropped : Nat))

/-- What follows the digits before the point. -/
def afterInteger (positive : Bool) (digits : Nat) (dropped : Nat) : Reading Number := do
  match ← peek with
  | some 46 =>
    advance
    fractionPart positive digits dropped
  | some 101 | some 69 =>
    advance
    exponentPart positive digits dropped
  | _ =>
    if 0 < dropped then floatOf positive digits dropped
    else if positive then return .integer digits
    else if digits = 0 ∨ UInt64.size / 2 < digits then return .float (-digits.toUInt64.toFloat)
    else return .integer (-(digits : Int))

/-- A number behind its sign. -/
def number (positive : Bool) : Reading Number := do
  match ← next with
  | none => fail "EOF while parsing a value"
  | some b =>
    if b = 48 then
      match ← peek with
      | some d => if isDigit d then failNext "invalid number" else afterInteger positive 0 0
      | none => afterInteger positive 0 0
    else if isDigit b then
      let more := (← get).rest.takeWhile isDigit
      modify fun c => ⟨c.rest.drop more.length, c.used + more.length⟩
      let (digits, dropped) := significand 0 (b :: more)
      afterInteger positive digits dropped
    else fail "invalid number"

/-- A number, as refusals show it. -/
def Number.shown : Number → String
  | .integer n => Shape.shownInteger n
  | .float f => "floating point `" ++ Decimal.text f ++ "`"

/-- The exponent of a number that is skipped, behind its `e`. -/
def skipExponent : Reading Unit := do
  let sign ← peek
  if sign == some 43 || sign == some 45 then advance
  match ← next with
  | none => fail "invalid number"
  | some b => if isDigit b then let _ ← skipDigits else fail "invalid number"

/-- A number that is skipped, behind its sign. -/
def skipNumber : Reading Unit := do
  match ← next with
  | none => fail "invalid number"
  | some b =>
    if b = 48 then
      match ← peek with
      | some d => if isDigit d then failNext "invalid number"
      | none => return ()
    else if isDigit b then let _ ← skipDigits
    else fail "invalid number"
  match ← peek with
  | some 46 =>
    advance
    if (← skipDigits) = 0 then failNext "invalid number"
    else
      match ← peek with
      | some 101 | some 69 =>
        advance
        skipExponent
      | _ => return ()
  | some 101 | some 69 =>
    advance
    skipExponent
  | _ => return ()

/-- A value that is neither array nor object, skipped; whether it was one that opens. -/
def skipScalar (b : UInt8) : Reading Unit := do
  if b = 110 then
    advance
    word (ascii "ull")
  else if b = 116 then
    advance
    word (ascii "rue")
  else if b = 102 then
    advance
    word (ascii "alse")
  else if b = 45 then
    advance
    skipNumber
  else if isDigit b then skipNumber
  else if b = 34 then
    advance
    let _ ← stringBytes skipEscape
  else failNext "expected value"

/-- What a reader of a skipped value looks for next. -/
inductive SkipState where
  /-- A value. -/
  | value
  /-- What follows a value, or the end of what has just been opened. -/
  | follow (afterValue : Bool)
  /-- The name of a member. -/
  | key

/-- Skips a value; `open_` lists the brackets that are open, innermost first.  Every step but those
between two bytes reads a byte, so three steps a byte are enough. -/
def skipFrom : Nat → SkipState → List UInt8 → Reading Unit
  | 0, _, _ => fail "EOF while parsing a value"
  | steps + 1, .value, open_ => do
    match ← skipBlanks with
    | none => failNext "EOF while parsing a value"
    | some b =>
      if b = 91 || b = 123 then
        advance
        skipFrom steps (.follow false) (b :: open_)
      else
        skipScalar b
        if open_.isEmpty then return () else skipFrom steps (.follow true) open_
  | steps + 1, .follow afterValue, open_ => do
    let isList := open_.head? == some 91
    match ← skipBlanks with
    | none =>
      failNext (if isList then "EOF while parsing a list" else "EOF while parsing an object")
    | some b =>
      if b = 44 && afterValue then
        advance
        skipFrom steps (if isList then .value else .key) open_
      else if b = (if isList then 93 else 125) then
        advance
        if open_.tail.isEmpty then return () else skipFrom steps (.follow true) open_.tail
      else if afterValue then
        failNext (if isList then "expected `,` or `]`" else "expected `,` or `\x7d`")
      else skipFrom steps (if isList then .value else .key) open_
  | steps + 1, .key, open_ => do
    match ← skipBlanks with
    | none => failNext "EOF while parsing an object"
    | some b =>
      if b ≠ 34 then failNext "key must be a string"
      else
        advance
        let _ ← stringBytes skipEscape
        match ← skipBlanks with
        | none => failNext "EOF while parsing an object"
        | some b =>
          if b ≠ 58 then failNext "expected `:`"
          else
            advance
            skipFrom steps .value open_

/-- Skips a value. -/
def skipValue : Reading Unit := do
  skipFrom (3 * (← get).rest.length + 3) .value []

/-- Refuses the value that stands next because another kind was expected. -/
def wrongKind {α : Type} (expected : String) : Reading α := placed do
  match ← peek with
  | none => failNext "expected value"
  | some b =>
    if b = 110 then
      advance
      word (ascii "ull")
      failLater (Shape.invalidType "null" expected)
    else if b = 116 then
      advance
      word (ascii "rue")
      failLater (Shape.invalidType (Shape.shownFlag true) expected)
    else if b = 102 then
      advance
      word (ascii "alse")
      failLater (Shape.invalidType (Shape.shownFlag false) expected)
    else if b = 45 then
      advance
      let n ← number false
      failLater (Shape.invalidType n.shown expected)
    else if isDigit b then
      let n ← number true
      failLater (Shape.invalidType n.shown expected)
    else if b = 34 then
      advance
      let found ← string
      failLater (Shape.invalidType ("string " ++ Text.quoted found) expected)
    else if b = 91 then failLater (Shape.invalidType "sequence" expected)
    else if b = 123 then failLater (Shape.invalidType "map" expected)
    else failNext "expected value"

/-- The byte that a value begins with. -/
def firstByte : Reading UInt8 := do
  match ← skipBlanks with
  | none => failNext "EOF while parsing a value"
  | some b => return b

/-- A truth value. -/
def flag : Reading Json := do
  let b ← firstByte
  if b = 116 then
    advance
    word (ascii "rue")
    return .bool true
  else if b = 102 then
    advance
    word (ascii "alse")
    return .bool false
  else wrongKind (Shape.expected .flag)

/-- A number up to a maximum. -/
def count (name : String) (max : Nat) : Reading Json := do
  let b ← firstByte
  if b = 45 || isDigit b then
    placed do
      if b = 45 then advance
      match ← number (b != 45) with
      | .integer n =>
        if 0 ≤ n ∧ n ≤ max then return .number n
        else failLater (Shape.invalidValue (Shape.shownInteger n) name)
      | n => failLater (Shape.invalidType n.shown name)
  else wrongKind name

/-- A text. -/
def text : Reading String := do
  let b ← firstByte
  if b = 34 then
    advance
    string
  else wrongKind (Shape.expected .text)

/-- The end of an array behind its last item that was asked for. -/
def endOfList : Reading Unit := do
  match ← skipBlanks with
  | none => failNext "EOF while parsing a list"
  | some b =>
    if b = 93 then advance
    else if b = 44 then
      advance
      match ← skipBlanks with
      | some 93 => failNext "trailing comma"
      | _ => failNext "trailing characters"
    else failNext "trailing characters"

/-- The end of an object behind its last member. -/
def endOfRecord : Reading Unit := do
  match ← skipBlanks with
  | none => failNext "EOF while parsing an object"
  | some b =>
    if b = 125 then advance
    else if b = 44 then failNext "trailing comma"
    else failNext "trailing characters"

/-- Whether another item follows in an array; its first byte stays. -/
def moreItems (first : Bool) : Reading Bool := do
  match ← skipBlanks with
  | none => failNext "EOF while parsing a list"
  | some b =>
    if b = 93 then return false
    else if first then return true
    else if b = 44 then
      advance
      match ← skipBlanks with
      | none => failNext "EOF while parsing a value"
      | some b => if b = 93 then failNext "trailing comma" else return true
    else failNext "expected `,` or `]`"

/-- The name of the next member of an object and the colon behind it, if there is one more. -/
def nextKey (first : Bool) : Reading (Option String) := do
  let key : Reading (Option String) := do
    advance
    return some (← string)
  match ← skipBlanks with
  | none => failNext "EOF while parsing an object"
  | some b =>
    if b = 125 then return none
    else if first then if b = 34 then key else failNext "key must be a string"
    else if b = 44 then
      advance
      match ← skipBlanks with
      | none => failNext "EOF while parsing a value"
      | some b =>
        if b = 34 then key
        else if b = 125 then failNext "trailing comma"
        else failNext "key must be a string"
    else failNext "expected `,` or `\x7d`"

/-- The colon between a name and its value. -/
def colon : Reading Unit := do
  match ← skipBlanks with
  | none => failNext "EOF while parsing an object"
  | some b => if b = 58 then advance else failNext "expected `:`"

/-- The items of an array. -/
def itemsFrom (item : Reading Json) : Nat → Bool → List Json → Reading (List Json)
  | 0, _, _ => fail "EOF while parsing a list"
  | rounds + 1, first, read => do
    if ← moreItems first then itemsFrom item rounds false ((← item) :: read)
    else return read.reverse

/-- The entries of a map from names to texts; a name that comes again replaces its text. -/
def entriesFrom : Nat → Bool → List (String × Json) → Reading (List (String × Json))
  | 0, _, _ => fail "EOF while parsing an object"
  | rounds + 1, first, read => do
    match ← nextKey first with
    | none => return read
    | some name =>
      colon
      let value ← text
      entriesFrom rounds false (read.filter (·.1 != name) ++ [(name, .text value)])

/-- A member of a record: its name, how its value is read, and its default. -/
structure Member where
  /-- The name. -/
  name : String
  /-- How the value is read. -/
  read : Reading Json
  /-- What it is if it is not there. -/
  fallback : Option Json

/-- The members of an object that the record knows, in the order found. -/
def membersFrom (members : List Member) :
    Nat → Bool → List (String × Json) → Reading (List (String × Json))
  | 0, _, _ => fail "EOF while parsing an object"
  | rounds + 1, first, read => do
    match ← nextKey first with
    | none => return read
    | some name =>
      match members.find? (·.name == name) with
      | none =>
        colon
        skipValue
        membersFrom members rounds false read
      | some member =>
        if read.any (·.1 == name) then failLater (Shape.duplicateField name)
        else
          colon
          let value ← member.read
          membersFrom members rounds false ((name, value) :: read)

/-- The members of a record that is written as an array, by position. -/
def positional (name : String) (total : Nat) :
    Nat → Bool → List Member → Reading (List (String × Json))
  | _, _, [] => return []
  | index, first, member :: rest => do
    if ← moreItems first then
      let value ← member.read
      return (member.name, value) :: (← positional name total (index + 1) false rest)
    else
      match member.fallback with
      | none => failLater (Shape.invalidLength index name total)
      | some _ => positional name total (index + 1) first rest

/-- A record, as an object or as an array. -/
def record (name : String) (shapes : List (String × Shape × Option Json)) (members : List Member) :
    Reading Json := do
  let b ← firstByte
  let complete (found : List (String × Json)) : Reading Json :=
    match Shape.complete found shapes with
    | .ok filled => return .record filled
    | .error reason => failLater reason
  placed do
    if b = 123 then
      advance
      let rounds := (← get).rest.length + 1
      closedBy (do complete (← membersFrom members rounds true [])) endOfRecord
    else if b = 91 then
      advance
      closedBy (do complete (← positional name members.length 0 true members)) endOfList
    else wrongKind ("struct " ++ name)

mutual

/-- **Reading a value of a shape.** -/
def value : Shape → Reading Json
  | .flag => flag
  | .count name max => count name max
  | .text => do return .text (← text)
  | .checkedText problem => do
    let b ← firstByte
    if b = 110 then
      advance
      word (ascii "ull")
      return .null
    else
      let found ← text
      match problem found with
      | none => return .text found
      | some reason => failLater reason
  | .optional inner => do
    let b ← firstByte
    if b = 110 then
      advance
      word (ascii "ull")
      return .null
    else value inner
  | .listOf item => do
    let b ← firstByte
    if b = 91 then
      placed do
        advance
        let rounds := (← get).rest.length + 1
        closedBy (do return .list (← itemsFrom (value item) rounds true [])) endOfList
    else wrongKind "a sequence"
  | .textMap => do
    let b ← firstByte
    if b = 123 then
      placed do
        advance
        let rounds := (← get).rest.length + 1
        closedBy (do return .record (← entriesFrom rounds true [])) endOfRecord
    else wrongKind "a map"
  | .record name shapes => record name shapes (memberReaders shapes)

/-- How the members of a record are read. -/
def memberReaders : List (String × Shape × Option Json) → List Member
  | [] => []
  | (name, shape, fallback) :: rest => ⟨name, value shape, fallback⟩ :: memberReaders rest

end

/-- A whole document: a value and nothing but blanks behind it. -/
def document (shape : Shape) : Reading Json := do
  let found ← value shape
  match ← skipBlanks with
  | none => return found
  | some _ => failNext "trailing characters"

/-- The line and the column after a number of bytes, both as people count: lines from one, and the
bytes of the line so far. -/
def position (bytes : List UInt8) (used : Nat) : Nat × Nat :=
  let before := bytes.take used
  ((before.filter (· == 10)).length + 1, (before.reverse.takeWhile (· != 10)).length)

end Reader

/-- **The document that bytes spell**, by shape, or what is wrong with them and where. -/
def read (shape : Shape) (bytes : List UInt8) : Except String Json :=
  match (Reader.document shape).run ⟨bytes, 0⟩ with
  | (.ok document, _) => .ok document
  | (.error refusal, c) =>
    let (line, column) := Reader.position bytes (refusal.place.getD c.used)
    .error (refusal.reason ++ " at line " ++ toString line ++ " column " ++ toString column)

end Json
end FunctionHost
