import FunctionHost.Journal
import FunctionHost.Text.Blank
/-!
# What of the journal is shown

A filter says for each place of origin how much is shown of what comes from there.  Of the rules
that speak about a place the one that names the most of it counts, and among equals the last one;
what no rule speaks about is not shown.
-/
namespace FunctionHost

/-- A rule of a filter. -/
structure FilterRule where
  /-- How the places begin that the rule speaks about. -/
  target : String := ""
  /-- The verbosity of the least important events that are shown. -/
  verbosity : Nat
  deriving DecidableEq, Repr, Inhabited

/-- **A filter.** -/
structure Filter where
  /-- Its rules. -/
  rules : List FilterRule := []
  deriving DecidableEq, Repr, Inhabited

namespace Filter

/-- The rule that counts for a place. -/
def rule? (f : Filter) (target : String) : Option FilterRule :=
  f.rules.foldl (fun best rule =>
    if target.startsWith rule.target
        && best.all (·.target.utf8ByteSize ≤ rule.target.utf8ByteSize)
      then some rule else best) none

/-- **Whether an event is shown.** -/
def shows (f : Filter) (e : Event) : Bool :=
  (f.rule? e.target).any (e.level.verbosity ≤ ·.verbosity)

/-! ## Filters as texts -/

/-- The filter that counts if none is given, or one that cannot be read. -/
def standard : Filter :=
  { rules := [{ verbosity := Level.info.verbosity },
      { target := "capsule", verbosity := Level.debug.verbosity }] }

/-- The verbosity that a number stands for. -/
def readNumber? (text : List Char) : Option Nat :=
  let digits := match text with | '+' :: rest => rest | rest => rest
  if digits.isEmpty || !digits.all Char.isDigit then none
  else
    let number := Nat.ofDigitChars 10 digits 0
    if number ≤ Level.trace.verbosity then some number else none

/-- The names of verbosities. -/
def names : List (String × Nat) := [
  ("off", 0), ("error", 1), ("warn", 2), ("info", 3), ("debug", 4), ("trace", 5)]

/-- The verbosity that a number or a name stands for. -/
def readLevel? (text : List Char) : Option Nat :=
  match readNumber? text with
  | some number => some number
  | none => names.lookup (String.ofList (text.map Char.toLower))

/-- Whether a rule can begin so. -/
def isOpening (c : Char) : Bool :=
  c.isAlphanum || c = '-' || c = ':' || c = '_' || 128 ≤ c.val.toNat

/-- What a part of a filter's text says. -/
inductive Part where
  /-- A rule. -/
  | rule (rule : FilterRule)
  /-- Something about what is going on while an event happens, which events do not tell. -/
  | other
  deriving Repr, Inhabited

/-- The rule that a part says. -/
def Part.toRule? : Part → Option FilterRule
  | .rule found => some found
  | .other => none

/-- Whether the end of a part is a closing bracket, or one with a level behind it. -/
def isEndOfScope (text : List Char) : Bool :=
  match text.dropWhile (· ≠ ']') with
  | [_] | [_, '='] => true
  | _ :: '=' :: level => (readLevel? level).isSome
  | _ => false

/-- Reads a part of a filter's text: a level, a place, or a place with its level. -/
def readPart? (text : List Char) : Option Part :=
  let trimmed := ((text.dropWhile Text.isBlank).reverse.dropWhile Text.isBlank).reverse
  match trimmed with
  | [] => none
  | first :: _ =>
    let (_, behind) := trimmed.span fun c => c ≠ '=' && c ≠ '['
    if first ≠ '[' && !isOpening first then none
    else
      match behind with
      | '[' :: rest => if isEndOfScope rest then some .other else none
      | '=' :: _ =>
        let place := text.take (trimmed.length - behind.length)
        match text.drop (place.length + 1) with
        | [] => some (.rule ⟨String.ofList place, Level.trace.verbosity⟩)
        | level => (readLevel? level).map fun verbosity =>
          .rule ⟨String.ofList place, verbosity⟩
      | _ =>
        match readLevel? text with
        | some verbosity => some (.rule ⟨"", verbosity⟩)
        | none => some (.rule ⟨String.ofList text, Level.trace.verbosity⟩)

/-- The filter of parts; one without parts shows errors. -/
def ofParts : List Part → Filter
  | [] => { rules := [{ verbosity := Level.error.verbosity }] }
  | parts => { rules := parts.filterMap Part.toRule? }

/-- **The filter that a text describes**: rules with commas between them. -/
def ofText (text : String) : Filter :=
  let parts := (text.splitOn ",").filter (· ≠ "")
  match parts.mapM fun part => readPart? part.toList with
  | none => standard
  | some parts => ofParts parts

end Filter
end FunctionHost
