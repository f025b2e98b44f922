import FunctionHost.Http.Percent
import FunctionHost.Http.Punycode
import FunctionHost.Text.Utf8
/-!
# Hosts

The host of an address is a domain name or the number of a machine, in one of two notations.  A
name is brought into the form in which names are compared: small letters, and labels beyond ASCII
written in ASCII.
-/
namespace FunctionHost

/-- Why a text is no address. -/
inductive UrlFault where
  /-- It does not begin with a scheme. -/
  | relative
  /-- There is no host where there must be one. -/
  | emptyHost
  /-- The host is no domain name. -/
  | domainName
  /-- The host has a character that hosts do not have. -/
  | domainCharacter
  /-- The host looks like four numbers and is not. -/
  | ipv4
  /-- The host looks like eight numbers and is not. -/
  | ipv6
  /-- The port is not a number, or too large. -/
  | port
  deriving DecidableEq, Repr

/-- The wording of the fault. -/
def UrlFault.message : UrlFault → String
  | .relative => "relative URL without a base"
  | .emptyHost => "empty host"
  | .domainName => "invalid international domain name"
  | .domainCharacter => "invalid domain character"
  | .ipv4 => "invalid IPv4 address"
  | .ipv6 => "invalid IPv6 address"
  | .port => "invalid port number"

/-- **A host.** -/
inductive Host where
  /-- A name. -/
  | domain (name : String)
  /-- The number of a machine. -/
  | ipv4 (address : Nat)
  /-- The longer number of a machine, in eight pieces. -/
  | ipv6 (pieces : List Nat)
  deriving DecidableEq, Repr, Inhabited

namespace Host

/-! ## Numbers in four parts -/

/-- A number as a part of a host may be written: decimal, or octal after a zero, or hexadecimal
after a zero and an x.  The inner value is missing if the number has more than 32 bits. -/
def number? (part : List Char) : Option (Option Nat) :=
  let read (base : Nat) (digits : List Char) : Option (Option Nat) :=
    let values := digits.map fun c => (Percent.digit? (UInt8.ofNat c.toNat)).map (·.toNat)
    if digits.all (·.toNat < 128) ∧ values.all (fun v => v.any (· < base)) then
      let n := values.foldl (fun n v => n * base + v.getD 0) 0
      some (if n < UInt32.size then some n else none)
    else none
  match part with
  | [] => none
  | '0' :: 'x' :: digits | '0' :: 'X' :: digits =>
    if digits.isEmpty then some (some 0) else read 16 digits
  | ['0'] => some (some 0)
  | '0' :: digits => read 8 digits
  | digits => read 10 digits

/-- The parts between dots. -/
def parts (name : List Char) : List (List Char) := name.splitOn '.'

/-- The parts without an empty last one. -/
def significantParts (name : List Char) : List (List Char) :=
  let all := parts name
  if all.getLast? = some [] then all.dropLast else all

/-- Whether a name has to be read as a number. -/
def endsInNumber (name : List Char) : Bool :=
  match (significantParts name).getLast? with
  | none => false
  | some last => (!last.isEmpty && last.all Char.isDigit) || (number? last).isSome

/-- **The number that parts stand for**: all but the last one are bytes. -/
def ipv4? (name : List Char) : Option Nat :=
  let all := significantParts name
  if 4 < all.length then none
  else
    match (all.map fun part => (number? part).join).reverse with
    | [] => none
    | last :: rest =>
      let first := rest.reverse
      if last.isNone || first.any (fun v => !v.any (· ≤ 255)) then none
      else
        let last := last.getD 0
        if Nat.pow 2 (8 * (4 - first.length)) ≤ last then none
        else
          let high := first.foldl (fun n v => n * 256 + v.getD 0) 0
          some (high * Nat.pow 2 (8 * (4 - first.length)) + last)

/-- A number as four decimal parts. -/
def ipv4Text (address : Nat) : String :=
  ".".intercalate ([16777216, 65536, 256, 1].map fun unit => toString (address / unit % 256))

/-! ## Numbers in eight pieces -/

/-- A piece: one to four hexadecimal digits. -/
def piece? (group : List Char) : Option Nat :=
  let values := group.map fun c => (Percent.digit? (UInt8.ofNat c.toNat)).map (·.toNat)
  if group.isEmpty ∨ 4 < group.length ∨ !group.all (·.toNat < 128) ∨ values.any Option.isNone then
    none
  else some (values.foldl (fun n v => n * 16 + v.getD 0) 0)

/-- Two pieces written as four decimal numbers without needless zeros. -/
def dotted? (group : List Char) : Option (List Nat) :=
  let value? (part : List Char) : Option Nat :=
    if part.isEmpty ∨ 3 < part.length ∨ !part.all Char.isDigit ∨
        (part.head? = some '0' ∧ part.length ≠ 1) then none
    else
      let n := part.foldl (fun n c => n * 10 + (c.toNat - 48)) 0
      if n ≤ 255 then some n else none
  match (parts group).map value? with
  | [some a, some b, some c, some d] => some [a * 256 + b, c * 256 + d]
  | _ => none

/-- The pieces of groups between colons; the last group of an address may be dotted. -/
def pieces? (last : Bool) : List (List Char) → Option (List Nat)
  | [] => some []
  | [group] =>
    if last ∧ group.contains '.' then dotted? group else (piece? group).map ([·])
  | group :: rest =>
    match piece? group, pieces? last rest with
    | some n, some more => some (n :: more)
    | _, _ => none

/-- The groups between colons; none of no text. -/
def groups (text : List Char) : List (List Char) :=
  if text.isEmpty then [] else text.splitOn ':'

/-- The texts before and behind the first pair of colons. -/
def splitPair : List Char → Option (List Char × List Char)
  | [] => none
  | ':' :: ':' :: rest => some ([], rest)
  | c :: rest => (splitPair rest).map fun (before, after) => (c :: before, after)

/-- **The pieces that a text stands for**: eight, or fewer around a pair of colons. -/
def ipv6? (text : List Char) : Option (List Nat) :=
  match splitPair text with
  | none =>
    match pieces? true (groups text) with
    | some pieces => if pieces.length = 8 then some pieces else none
    | none => none
  | some (before, after) =>
    match pieces? false (groups before), pieces? true (groups after) with
    | some left, some right =>
      let missing := 8 - left.length - right.length
      if missing = 0 then none else some (left ++ List.replicate missing 0 ++ right)
    | _, _ => none

/-- How many zeros a list begins with. -/
def zeros (pieces : List Nat) : Nat := (pieces.takeWhile (· = 0)).length

/-- Where the first longest run of zeros is, and how long, if it has more than one. -/
def longestRun (pieces : List Nat) : Option (Nat × Nat) :=
  (List.range pieces.length).foldl (fun best start =>
    let size := zeros (pieces.drop start)
    if 2 ≤ size ∧ (best.all fun b => b.2 < size) then some (start, size) else best) none

/-- Pieces as a text: a pair of colons stands for the first longest run of zeros. -/
def ipv6Text (pieces : List Nat) : String :=
  let group (l : List Nat) : String := ":".intercalate (l.map hexDigits)
  match longestRun pieces with
  | none => group pieces
  | some (start, size) => group (pieces.take start) ++ "::" ++ group (pieces.drop (start + size))

/-! ## Names -/

/-- Characters that mean nothing in a name. -/
def isIgnored (c : Char) : Bool :=
  c = '\u00ad' || c = '\u034f' || c = '\u200b' || c = '\u2060' || c = '\u2064' || c = '\ufeff'
    || ('\u180b' ≤ c && c ≤ '\u180d') || ('\ufe00' ≤ c && c ≤ '\ufe0f')

/-- Characters that no name has, besides those of ASCII. -/
def isRefused (c : Char) : Bool :=
  ('\u0080' ≤ c && c ≤ '\u009f') || c = '\ufffd' || ('\ue000' ≤ c && c ≤ '\uf8ff')
    || ('\u2028' ≤ c && c ≤ '\u202e') || c = '\u200e' || c = '\u200f'

/-- The small letter for a letter of the Latin, Greek or Cyrillic script. -/
def small (c : Char) : Char :=
  let n := c.toNat
  if 65 ≤ n ∧ n ≤ 90 then Char.ofNat (n + 32)
  else if 0xC0 ≤ n ∧ n ≤ 0xDE ∧ n ≠ 0xD7 then Char.ofNat (n + 32)
  else if 0x391 ≤ n ∧ n ≤ 0x3A9 ∧ n ≠ 0x3A2 then Char.ofNat (n + 32)
  else if 0x410 ≤ n ∧ n ≤ 0x42F then Char.ofNat (n + 32)
  else if 0x400 ≤ n ∧ n ≤ 0x40F then Char.ofNat (n + 80)
  else if 0x100 ≤ n ∧ n ≤ 0x137 ∧ n % 2 = 0 ∧ n ≠ 0x130 then Char.ofNat (n + 1)
  else if 0x139 ≤ n ∧ n ≤ 0x148 ∧ n % 2 = 1 then Char.ofNat (n + 1)
  else if 0x14A ≤ n ∧ n ≤ 0x177 ∧ n % 2 = 0 then Char.ofNat (n + 1)
  else c

/-- A character in the form in which names are compared; nothing for one that no name has.  The
tables of Unicode are followed for common letters only: other scripts keep their letters, what is
composed stays so, and neither a label that begins with a combining mark nor a code point that is
not assigned is refused. -/
def normal? (c : Char) : Option (List Char) :=
  if isIgnored c then some []
  else if isRefused c then none
  else if c = '\u3002' ∨ c = '\uff0e' ∨ c = '\uff61' then some ['.']
  else if c = '\u00a0' ∨ c = '\u3000' then some [' ']
  else if '\uff01' ≤ c ∧ c ≤ '\uff5e' then some [small (Char.ofNat (c.toNat - 0xFEE0))]
  else some [small c]

/-- ASCII characters that names do not have. -/
def isDenied (c : Char) : Bool := c.toNat ≤ 32 || c.toNat = 127 || "#%/:<>?@[\\]^|".contains c

/-- How a label begins that stands for one beyond ASCII. -/
def mark : List Char := ['x', 'n', '-', '-']

/-- A label in ASCII, if it is one. -/
def label? (label : List Char) : Option (List Char) :=
  if mark.isPrefixOf label then
    match Punycode.decode? (label.drop 4) with
    | none => none
    | some chars =>
      if chars.all (·.toNat < 128) ∨ (chars.any fun c => normal? c ≠ some [c]) then none
      else if Punycode.encode chars = label.drop 4 then some label else none
  else if label.all (·.toNat < 128) then some label
  else some (mark ++ Punycode.encode label)

/-- The labels, if all of them are labels. -/
def labels? : List (List Char) → Option (List (List Char))
  | [] => some []
  | first :: rest =>
    match label? first, labels? rest with
    | some first, some rest => some (first :: rest)
    | _, _ => none

/-- Characters in the form in which names are compared. -/
def normalize? : List Char → Option (List Char)
  | [] => some []
  | c :: rest =>
    match normal? c, normalize? rest with
    | some here, some rest => some (here ++ rest)
    | _, _ => none

/-- **A name in ASCII**, if it is one. -/
def ascii? (name : String) : Option (List Char) :=
  match (normalize? name.toList).map (labels? ∘ parts) with
  | some (some labels) =>
    let chars := ['.'].intercalate labels
    if chars.any isDenied then none else some chars
  | _ => none

/-! ## Reading and writing -/

/-- The host in brackets. -/
def bracketed (inner : List Char) : Except UrlFault Host :=
  match inner.getLast?, ipv6? inner.dropLast with
  | some ']', some pieces => .ok (.ipv6 pieces)
  | _, _ => .error .ipv6

/-- **Reads a host** of an address with a known scheme. -/
def read : List Char → Except UrlFault Host
  | '[' :: inner => bracketed inner
  | text =>
    match (Utf8.decode? (Percent.decode (String.ofList text))).bind ascii? with
    | none => .error .domainName
    | some name =>
      if name.isEmpty then .error .emptyHost
      else if endsInNumber name then
        match ipv4? name with
        | some address => .ok (.ipv4 address)
        | none => .error .ipv4
      else .ok (.domain (String.ofList name))

/-- Reads a host of an address with another scheme: it is taken as it is. -/
def readOpaque : List Char → Except UrlFault Host
  | '[' :: inner => bracketed inner
  | text =>
    if text.any fun c => c.toNat = 0 || " \t\n\r#/:<>?@[\\]^|".contains c then
      .error .domainCharacter
    else .ok (.domain (Percent.encode Percent.controls text))

/-- The host as a text. -/
def render : Host → String
  | .domain name => name
  | .ipv4 address => ipv4Text address
  | .ipv6 pieces => "[" ++ ipv6Text pieces ++ "]"

end Host
end FunctionHost
