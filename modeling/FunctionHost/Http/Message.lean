import FunctionHost.Bytes
/-!
# Messages on the wire

What a client of HTTP/1 sends, and how it reads what comes back: a head of lines, and then a body
whose end the head decides.  Answers that only announce another one are passed over.
-/
namespace FunctionHost
namespace Http

/-- **What is sent.** -/
structure Sent where
  /-- The first line. -/
  line : String
  /-- The headers, with names in small letters. -/
  headers : List (String × String)
  /-- The body. -/
  body : Bytes
  deriving Inhabited

/-- Whether a byte can be in a method or in the name of a header. -/
def isToken (b : UInt8) : Bool :=
  (48 ≤ b && b ≤ 57) || (65 ≤ b && b ≤ 90) || (97 ≤ b && b ≤ 122)
    || (Bytes.ofText "!#$%&'*+-.^_`|~").toList.contains b

/-- Whether some bytes are a method, or the name of a header but for its length. -/
def isName (bytes : List UInt8) : Bool := !bytes.isEmpty && bytes.all isToken

/-- Bytes that the name of a header may have. -/
def maxNameBytes : Nat := 65535

/-- Whether some bytes are the name of a header. -/
def isHeaderName (bytes : List UInt8) : Bool := isName bytes && bytes.length ≤ maxNameBytes

/-- Whether a byte can be in the value of a header. -/
def isValueByte (b : UInt8) : Bool := b = 9 || (32 ≤ b && b ≠ 127)

/-- Whether a byte shows in ASCII. -/
def isShown (b : UInt8) : Bool := b = 9 || (32 ≤ b && b < 127)

/-- ASCII bytes as a text. -/
def asciiText (bytes : List UInt8) : String := String.ofList (bytes.map fun b => Char.ofNat b.toNat)

/-! ## Heads -/

/-- **The head of an answer.** -/
structure Head where
  /-- The number behind the point of the version. -/
  minor : Nat
  /-- The status. -/
  status : Nat
  /-- The headers, with names in small letters. -/
  headers : List (String × List UInt8)
  deriving Inhabited

/-- A line up to its end, which is a line feed with or without a carriage return, and what follows
it. -/
def line? (bytes : List UInt8) : Option (List UInt8 × List UInt8) :=
  match bytes.span (· ≠ 10) with
  | (_, []) => none
  | (line, _ :: rest) =>
    some (if line.getLast? = some 13 then line.dropLast else line, rest)

/-- Bytes without blanks around them. -/
def trimBlanks (bytes : List UInt8) : List UInt8 :=
  let isBlank (b : UInt8) : Bool := b = 32 || b = 9
  ((bytes.dropWhile isBlank).reverse.dropWhile isBlank).reverse

/-- The header that a line holds. -/
def header? (line : List UInt8) : Option (String × List UInt8) :=
  match line.span isToken with
  | (name, 58 :: value) =>
    let value := trimBlanks value
    if isHeaderName name && value.all isValueByte then some ((asciiText name).toLower, value) else none
  | _ => none

/-- Headers there may be. -/
def maxHeaders : Nat := 100

/-- The headers up to a blank line, at most so many, and what follows it. -/
def headers? : Nat → List UInt8 → Option (List (String × List UInt8) × List UInt8)
  | 0, bytes =>
    match line? bytes with
    | some ([], rest) => some ([], rest)
    | _ => none
  | count + 1, bytes =>
    match line? bytes with
    | none => none
    | some ([], rest) => some ([], rest)
    | some (line, rest) =>
      match header? line, headers? count rest with
      | some header, some (headers, rest) => some (header :: headers, rest)
      | _, _ => none

/-- The digits of a status. -/
def status? (a b c : UInt8) : Option Nat :=
  let isDigit (x : UInt8) : Bool := 48 ≤ x && x ≤ 57
  if isDigit a && isDigit b && isDigit c && a ≠ 48 then
    some ((a.toNat - 48) * 100 + (b.toNat - 48) * 10 + (c.toNat - 48))
  else none

/-- The number behind the point of the version, and the status, that a first line holds. -/
def statusLine? (line : List UInt8) : Option (Nat × Nat) :=
  match (Bytes.ofText "HTTP/1.").toList.isPrefixOf line, line.drop 7 with
  | true, minor :: 32 :: a :: b :: c :: reason =>
    let wording := match reason with
      | [] => true
      | first :: words => first = 32 && words.all isValueByte
    match status? a b c with
    | some status => if (minor = 48 || minor = 49) && wording then some (minor.toNat - 48, status)
      else none
    | none => none
  | _, _ => none

/-- Bytes without blank lines before them. -/
def skipBlankLines : List UInt8 → List UInt8
  | 10 :: rest => skipBlankLines rest
  | 13 :: 10 :: rest => skipBlankLines rest
  | bytes => bytes

/-- **The head that bytes begin with**, and what follows it. -/
def head? (bytes : List UInt8) : Option (Head × List UInt8) :=
  match line? (skipBlankLines bytes) with
  | none => none
  | some (line, rest) =>
    match statusLine? line, headers? maxHeaders rest with
    | some (minor, status), some (headers, rest) => some (⟨minor, status, headers⟩, rest)
    | _, _ => none

namespace Head

/-- The values of a header, in order. -/
def values (h : Head) (name : String) : List (List UInt8) :=
  (h.headers.filter (·.1 = name)).map (·.2)

end Head

/-! ## Bodies -/

/-- **What decides where a body ends.** -/
inductive Framing where
  /-- Its length. -/
  | sized (length : Nat)
  /-- It comes in chunks, the last of which is empty. -/
  | chunked
  /-- The end of all bytes. -/
  | untilEnd
  deriving DecidableEq, Repr, Inhabited

/-- Blanks around the parts of a value. -/
def trimSpaces (bytes : List UInt8) : List UInt8 :=
  let isSpace (b : UInt8) : Bool := b = 32 || (9 ≤ b && b ≤ 13)
  ((bytes.dropWhile isSpace).reverse.dropWhile isSpace).reverse

/-- The length that a part of a value states. -/
def length? (part : List UInt8) : Option Nat :=
  let digits := trimSpaces part
  if digits.isEmpty || !digits.all (fun b => 48 ≤ b && b ≤ 57) then none
  else
    let n := digits.foldl (fun n b => n * 10 + (b.toNat - 48)) 0
    if n < UInt64.size then some n else none

/-- **The length that all values agree on.** -/
def contentLength? (values : List (List UInt8)) : Option Nat :=
  let parts := values.flatMap (·.splitOn 44)
  if !values.all (·.all isShown) then none
  else
    match parts.map length? with
    | some n :: rest => if rest.all (· = some n) then some n else none
    | _ => none

/-- Whether chunks are the last coding that values name. -/
def isChunked (values : List (List UInt8)) : Bool :=
  match values.getLast? with
  | none => false
  | some value =>
    value.all isShown &&
      (asciiText (trimSpaces ((value.splitOn 44).getLastD []))).toLower = "chunked"

/-- **What decides where the body of an answer ends**, given the method of the request; nothing if
the head contradicts itself. -/
def framing? (method : String) (h : Head) : Option Framing :=
  if h.status = 101 ∨ h.status = 204 ∨ h.status = 304 ∨ method = "HEAD" then some (.sized 0)
  else if method = "CONNECT" ∧ 200 ≤ h.status ∧ h.status < 300 then some (.sized 0)
  else
    match h.values "transfer-encoding", h.values "content-length" with
    | [], [] => some .untilEnd
    | [], lengths => (contentLength? lengths).filter (· < UInt64.size - 2) |>.map .sized
    | codings, _ =>
      if h.minor = 0 then none else some (if isChunked codings then .chunked else .untilEnd)

/-- The value of a hexadecimal digit. -/
def hexDigit? (b : UInt8) : Option Nat :=
  if 48 ≤ b ∧ b ≤ 57 then some (b.toNat - 48)
  else if 65 ≤ b ∧ b ≤ 70 then some (b.toNat - 55)
  else if 97 ≤ b ∧ b ≤ 102 then some (b.toNat - 87)
  else none

/-- The size that the first line of a chunk states; remarks may follow it behind a semicolon. -/
def chunkSize? (line : List UInt8) : Option Nat :=
  let (digits, rest) := line.span fun b => (hexDigit? b).isSome
  let size := digits.foldl (fun n b => n * 16 + (hexDigit? b).getD 0) 0
  let after := rest.dropWhile fun b => b = 32 || b = 9
  if digits.isEmpty || UInt64.size ≤ size || !(after.isEmpty || after.head? = some 59) then none
  else some size

/-- A line that ends with a carriage return and a line feed, and what follows it. -/
def strictLine? : List UInt8 → Option (List UInt8 × List UInt8)
  | [] => none
  | 13 :: 10 :: rest => some ([], rest)
  | b :: rest =>
    if b = 10 ∨ b = 13 then none else (strictLine? rest).map fun (line, rest) => (b :: line, rest)

/-- Whether only headers follow up to a blank line; at most so many. -/
def trailers : Nat → List UInt8 → Bool
  | 0, _ => false
  | count + 1, bytes =>
    match strictLine? bytes with
    | none => false
    | some ([], _) => true
    | some (line, rest) => (header? line).isSome && trailers count rest

/-- **The body that chunks hold**, at most so many of them. -/
def chunks? : Nat → List UInt8 → Option (List UInt8)
  | 0, _ => none
  | count + 1, bytes =>
    match strictLine? bytes with
    | none => none
    | some (line, rest) =>
      match chunkSize? line with
      | none => none
      | some 0 => if trailers rest.length rest then some [] else none
      | some size =>
        match rest.drop size with
        | 13 :: 10 :: more => (chunks? count more).map (rest.take size ++ ·)
        | _ => none

/-- **The body that bytes hold**, if they hold all of it. -/
def body? (bytes : List UInt8) : Framing → Option (List UInt8)
  | .sized length => if length ≤ bytes.length then some (bytes.take length) else none
  | .chunked => chunks? (bytes.length + 1) bytes
  | .untilEnd => some bytes

/-- **The first answer that bytes hold**, how its body ends, and what follows its head.  Answers
that announce another one, at most so many, are passed over. -/
def answer? (method : String) : Nat → List UInt8 → Option (Head × Framing × List UInt8)
  | 0, _ => none
  | count + 1, bytes =>
    match head? bytes with
    | none => none
    | some (h, rest) =>
      if 100 ≤ h.status ∧ h.status < 200 ∧ h.status ≠ 101 then answer? method count rest
      else (framing? method h).map fun framing => (h, framing, rest)

end Http
end FunctionHost
