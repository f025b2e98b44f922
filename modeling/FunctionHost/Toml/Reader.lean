import FunctionHost.Toml.Scalar
/-!
# Reading configuration texts

A configuration text is a row of lines: headings, keys with values, comments.  The reader takes the
lines apart; `Toml.parse?` then enters them one after another into the tree of tables.  What is
nested too deeply is refused.
-/
namespace FunctionHost
namespace Toml
namespace Reader

/-- How deeply arrays and tables in braces may be nested, and how many names a key may have, plus
one. -/
def depthLimit : Nat := 80

/-- The characters behind a comment, if one begins here. -/
def skipComment : List Char → List Char
  | '#' :: rest => rest.dropWhile isPrintable
  | rest => rest

/-- The characters behind the end of a line or of the text, before which a comment may stand. -/
def lineEnd (chars : List Char) : Option (List Char) :=
  match skipComment (skipBlanks chars) with
  | [] => some []
  | rest => newline? rest

/-- The characters behind blanks, comments and ends of lines; every step skips a line. -/
def skipLines : Nat → List Char → List Char
  | 0, chars => chars
  | steps + 1, chars =>
    let rest := skipBlanks chars
    match newline? (skipComment rest) with
    | some rest => skipLines steps rest
    | none => rest

/-! ## Keys -/

/-- A character of a name without quotes. -/
def isNameChar (c : Char) : Bool := c.isAlphanum || c = '_' || c = '-'

/-- A name, perhaps in quotes, and blanks around it. -/
def name : Reader String := fun chars =>
  let finish (found : String × List Char) := some (found.1, skipBlanks found.2)
  match skipBlanks chars with
  | [] => none
  | c :: rest =>
    if c = '"' ∨ c = '\'' then (lineString c (rest.length + 1) [] rest).bind finish
    else
      let (found, behind) := (c :: rest).span isNameChar
      if found.isEmpty then none else finish (String.ofList found, behind)

/-- Names with dots between them. -/
def namesFrom : Nat → List String → Reader (List String)
  | 0, _, _ => none
  | steps + 1, read, chars =>
    (name chars).bind fun (found, rest) =>
      match rest with
      | '.' :: rest => namesFrom steps (found :: read) rest
      | rest => some ((found :: read).reverse, rest)

/-- A key: a few names with dots between them. -/
def key : Reader (List String) := namesFrom (depthLimit - 1) []

/-! ## Values -/

/-- A key, the equals sign and a value. -/
def entry (value : Reader Toml) : Reader (List String × Toml) := fun chars => do
  let (path, rest) ← key chars
  let (_, rest) ← exactly '=' rest
  let (found, rest) ← value (skipBlanks rest)
  return ((path, found), rest)

/-- The items of an array up to its end; a comma may stand behind the last one. -/
def itemsFrom (value : Reader Toml) : Nat → List Toml → Reader (List Toml)
  | 0, _, _ => none
  | steps + 1, read, chars =>
    match skipLines (chars.length + 1) chars with
    | ']' :: rest => some (read.reverse, rest)
    | chars =>
      (value chars).bind fun (item, rest) =>
        match skipLines (rest.length + 1) rest with
        | ',' :: rest => itemsFrom value steps (item :: read) rest
        | ']' :: rest => some ((item :: read).reverse, rest)
        | _ => none

/-- The members of a table in braces up to its end, behind the first of them. -/
def membersFrom (value : Reader Toml) :
    Nat → List (List String × Toml) → Reader (List (List String × Toml))
  | 0, _, _ => none
  | steps + 1, read, chars =>
    (entry value chars).bind fun (found, rest) =>
      match skipBlanks rest with
      | ',' :: rest => membersFrom value steps (found :: read) rest
      | '\x7d' :: rest => some ((found :: read).reverse, rest)
      | _ => none

/-- A table in braces behind the opening one. -/
def braced (value : Reader Toml) : Reader Toml := fun chars =>
  let finish (entries : List (List String × Toml)) (rest : List Char) :=
    (assignAll entries []).map fun members => (Toml.table .braced members, rest)
  match skipBlanks chars with
  | '\x7d' :: rest => finish [] rest
  | chars =>
    (membersFrom value (chars.length + 1) [] chars).bind fun (entries, rest) => finish entries rest

/-- **A value**, in which arrays and tables are nested only so deeply. -/
def value : Nat → Reader Toml
  | 0, chars =>
    match chars with
    | '[' :: _ => none
    | '\x7b' :: _ => none
    | chars => scalar chars
  | depth + 1, chars =>
    match chars with
    | '[' :: rest =>
      (itemsFrom (value depth) (rest.length + 1) [] rest).map fun (items, rest) =>
        (.array items, rest)
    | '\x7b' :: rest => braced (value depth) rest
    | chars => scalar chars

/-! ## Lines -/

/-- A line with contents. -/
inductive Line where
  /-- A heading. -/
  | heading (heading : Heading)
  /-- A key with a value. -/
  | entry (path : List String) (value : Toml)
  deriving Inhabited

/-- A heading behind its first bracket. -/
def heading : Reader Line
  | '[' :: rest => do
    let (path, rest) ← key rest
    let (_, rest) ← exactly ']' rest
    let (_, rest) ← exactly ']' rest
    return (.heading (.element path), ← lineEnd rest)
  | rest => do
    let (path, rest) ← key rest
    let (_, rest) ← exactly ']' rest
    return (.heading (.table path), ← lineEnd rest)

/-- The lines with contents. -/
def linesFrom : Nat → List Line → List Char → Option (List Line)
  | 0, _, _ => none
  | steps + 1, read, chars =>
    match skipBlanks chars with
    | [] => some read.reverse
    | '#' :: rest => (lineEnd ('#' :: rest)).bind (linesFrom steps read)
    | '[' :: rest => (heading rest).bind fun (line, rest) => linesFrom steps (line :: read) rest
    | c :: rest =>
      match newline? (c :: rest) with
      | some rest => linesFrom steps read rest
      | none =>
        (entry (value (depthLimit - 1)) (c :: rest)).bind fun ((path, found), rest) =>
          (lineEnd rest).bind (linesFrom steps (.entry path found :: read))

/-- The entries before the first heading, and each heading with the entries below it. -/
def sections : List Line →
    List (List String × Toml) × List (Heading × List (List String × Toml))
  | [] => ([], [])
  | .entry path value :: rest =>
    let (entries, headings) := sections rest
    ((path, value) :: entries, headings)
  | .heading h :: rest =>
    let (entries, headings) := sections rest
    ([], (h, entries) :: headings)

end Reader

/-- The mark that a text may begin with. -/
def byteOrderMark : Char := '\ufeff'

/-- **The tree that a configuration text describes**, if it is well formed. -/
def parse? (text : String) : Option Members :=
  let chars := match text.toList with
    | c :: rest => if c = byteOrderMark then rest else c :: rest
    | [] => []
  (Reader.linesFrom (chars.length + 1) [] chars).bind fun lines =>
    let (entries, headings) := Reader.sections lines
    (assignAll entries []).bind (openAll headings)

end Toml
end FunctionHost
