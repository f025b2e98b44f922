import FunctionHost.Bytes
/-!
# Token trees

The text format of modules is a sequence of words, strings and parenthesized groups, with comments
and blanks in between.  `Tree.parse` reads a text into that form without looking at what the words
mean.
-/
namespace FunctionHost
namespace Wasm
namespace Text

/-- **A token tree.** -/
inductive Tree where
  /-- A word. -/
  | word (chars : String)
  /-- A string, which stands for bytes. -/
  | bytes (content : List UInt8)
  /-- A group in parentheses. -/
  | group (items : List Tree)
  deriving Inhabited

/-- A token. -/
inductive Token where
  /-- A word. -/
  | word (chars : String)
  /-- A string. -/
  | bytes (content : List UInt8)
  /-- An opening parenthesis. -/
  | opening
  /-- A closing parenthesis. -/
  | closing
  deriving Inhabited

/-- A character that words are made of. -/
def isWordChar (c : Char) : Bool :=
  c.isAlphanum || "!#$%&'*+-./:<=>?@\\^_`|~".contains c

/-- A character that changes the direction of the text around it, which readers cannot see. -/
def isMisleading (c : Char) : Bool :=
  let n := c.toNat
  n = 0x202A || n = 0x202B || n = 0x202D || n = 0x202E || (0x2066 ≤ n && n ≤ 0x2069) || n = 0x206C

/-- The value of a hexadecimal digit. -/
def hexValue? (c : Char) : Option Nat :=
  if '0' ≤ c ∧ c ≤ '9' then some (c.toNat - 48)
  else if 'a' ≤ c ∧ c ≤ 'f' then some (c.toNat - 87)
  else if 'A' ≤ c ∧ c ≤ 'F' then some (c.toNat - 55)
  else none

/-- The rest behind a block comment, `depth` of which are open; none if one stays open. -/
def skipBlock : Nat → List Char → Option (List Char)
  | 0, rest => some rest
  | _ + 1, [] => none
  | depth + 1, '(' :: ';' :: rest => skipBlock (depth + 2) rest
  | depth + 1, ';' :: ')' :: rest => skipBlock depth rest
  | depth + 1, c :: rest => if isMisleading c then none else skipBlock (depth + 1) rest

/-- The number in braces after an escape, and the rest behind them. -/
def bracedNumber : Nat → Bool → List Char → Option (Nat × List Char)
  | _, _, [] => none
  | value, some?, c :: rest =>
    if c = '\x7d' then (if some? then some (value, rest) else none)
    else if c = '_' then (if some? then bracedNumber value true rest else none)
    else
      match hexValue? c with
      | some digit =>
        if 0x110000 ≤ value then none else bracedNumber (16 * value + digit) true rest
      | none => none

/-- The bytes of an escape, and the rest behind it. -/
def escape : List Char → Option (List UInt8 × List Char)
  | 't' :: rest => some ([9], rest)
  | 'n' :: rest => some ([10], rest)
  | 'r' :: rest => some ([13], rest)
  | '"' :: rest => some ([34], rest)
  | '\'' :: rest => some ([39], rest)
  | '\\' :: rest => some ([92], rest)
  | 'u' :: '\x7b' :: rest =>
    match bracedNumber 0 false rest with
    | some (code, rest) =>
      if code.isValidChar then some ((Bytes.ofText (Char.ofNat code).toString).toList, rest)
      else none
    | none => none
  | a :: b :: rest =>
    match hexValue? a, hexValue? b with
    | some high, some low => some ([UInt8.ofNat (16 * high + low)], rest)
    | _, _ => none
  | _ => none

/-- The bytes of a string up to its closing quote, in pieces, and the rest behind it. -/
def stringFrom : Nat → List (List UInt8) → List Char → Option (List UInt8 × List Char)
  | 0, _, _ => none
  | _ + 1, _, [] => none
  | steps + 1, pieces, c :: rest =>
    if c = '"' then some (pieces.reverse.flatten, rest)
    else if c = '\\' then
      match escape rest with
      | some (piece, rest) => stringFrom steps (piece :: pieces) rest
      | none => none
    else if c.toNat < 32 ∨ c.toNat = 127 ∨ isMisleading c then none
    else stringFrom steps ((Bytes.ofText c.toString).toList :: pieces) rest

/-- Whether a token may end where the rest begins. -/
def mayEnd : List Char → Bool
  | [] => true
  | c :: _ =>
    !(isWordChar c || c = '"' || c = ',' || c = '[' || c = ']' || c = '\x7b' || c = '\x7d')

/-- The tokens of a text, the last one first. -/
def tokensFrom : Nat → List Token → List Char → Option (List Token)
  | 0, _, _ => none
  | _ + 1, tokens, [] => some tokens
  | steps + 1, tokens, '(' :: ';' :: rest =>
    match skipBlock 1 rest with
    | some rest => tokensFrom steps tokens rest
    | none => none
  | steps + 1, tokens, ';' :: ';' :: rest =>
    let (comment, rest) := rest.span (· ≠ '\n')
    if comment.any isMisleading then none else tokensFrom steps tokens rest
  | steps + 1, tokens, c :: rest =>
    if c = ' ' ∨ c = '\t' ∨ c = '\n' ∨ c = '\r' then tokensFrom steps tokens rest
    else if c = '(' then tokensFrom steps (.opening :: tokens) rest
    else if c = ')' then tokensFrom steps (.closing :: tokens) rest
    else if c = '"' then
      match stringFrom (rest.length + 1) [] rest with
      | some (content, rest) =>
        if mayEnd rest then tokensFrom steps (.bytes content :: tokens) rest else none
      | none => none
    else if isWordChar c then
      let (chars, rest) := rest.span isWordChar
      if mayEnd rest then tokensFrom steps (.word (String.ofList (c :: chars)) :: tokens) rest
      else none
    else none

/-- The tree of a group; one that begins with an annotation stands for nothing. -/
def closeGroup (items : List Tree) (outer : List Tree) : List Tree :=
  match items with
  | .word chars :: _ => if chars.startsWith "@" then outer else .group items :: outer
  | _ => .group items :: outer

/-- The trees of a row of tokens: `open` holds the trees read so far, of the innermost group
first, each group with its last tree first. -/
def treesFrom : List (List Tree) → List Token → Option (List Tree)
  | [trees], [] => some trees.reverse
  | _, [] => none
  | [], _ => none
  | trees :: outer, .word chars :: rest => treesFrom ((.word chars :: trees) :: outer) rest
  | trees :: outer, .bytes content :: rest => treesFrom ((.bytes content :: trees) :: outer) rest
  | open_, .opening :: rest => treesFrom ([] :: open_) rest
  | trees :: parent :: outer, .closing :: rest =>
    treesFrom (closeGroup trees.reverse parent :: outer) rest
  | _, .closing :: _ => none

/-- **The token trees of a text**, if it is well formed. -/
def Tree.parse (text : String) : Option (List Tree) :=
  let chars := text.toList
  match tokensFrom (chars.length + 1) [] chars with
  | some tokens => treesFrom [[]] tokens.reverse
  | none => none

end Text
end Wasm
end FunctionHost
