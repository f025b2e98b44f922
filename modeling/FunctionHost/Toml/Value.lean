/-!
# Configuration texts as values

A configuration text in TOML is a tree of tables.  Its lines build the tree step by step, and how a
table came into being decides what later lines may add to it: `TableOrigin` keeps that.  `assign`
enters a key with a value, `open?` begins a table, and neither ever replaces what is there.
-/
namespace FunctionHost

/-- How a table came into being. -/
inductive TableOrigin where
  /-- By a heading of its own. -/
  | headed
  /-- By a heading of a table inside it. -/
  | passed
  /-- By a key with dots. -/
  | dotted
  /-- In braces. -/
  | braced
  deriving DecidableEq, Repr, Inhabited

/-- **A configuration value.** -/
inductive Toml where
  /-- A string. -/
  | text (value : String)
  /-- An integer. -/
  | integer (value : Int)
  /-- A number with a fraction or an exponent. -/
  | float (value : Float)
  /-- A truth value. -/
  | flag (value : Bool)
  /-- A date, a time or both. -/
  | moment
  /-- An array. -/
  | array (items : List Toml)
  /-- A table: its members in order. -/
  | table (origin : TableOrigin) (members : List (String × Toml))
  /-- An array of tables that all have headings of their own: the members of each, and those of
  the last one. -/
  | tables (earlier : List (List (String × Toml))) (last : List (String × Toml))
  deriving Inhabited

namespace Toml

/-- The members of a table, in order. -/
abbrev Members := List (String × Toml)

/-- The value of a key. -/
def Members.get? (members : Members) (key : String) : Option Toml :=
  (members.find? (·.1 == key)).map (·.2)

/-- The members with another value for a key that is there. -/
def Members.replace (members : Members) (key : String) (value : Toml) : Members :=
  members.map fun m => if m.1 == key then (key, value) else m

/-- The members without a key. -/
def Members.without (members : Members) (key : String) : Members :=
  members.filter (·.1 != key)

/-- **Enters a key** with dots: a table is made for every name but the last.  Tables that have a
heading of their own, or stand in braces, take no such keys; `direct` says whether the last name may
stand here. -/
def assign (direct : Bool) (value : Toml) : List String → Members → Option Members
  | [], _ => none
  | [key], members =>
    if direct && (members.get? key).isNone then some (members ++ [(key, value)]) else none
  | key :: rest, members =>
    match members.get? key with
    | none => (assign true value rest []).map fun inner => members ++ [(key, .table .dotted inner)]
    | some (.table .dotted inner) =>
      (assign true value rest inner).map fun inner => members.replace key (.table .dotted inner)
    | some (.table .passed inner) =>
      (assign false value rest inner).map fun inner => members.replace key (.table .passed inner)
    | some (.tables earlier last) =>
      (assign false value rest last).map fun last => members.replace key (.tables earlier last)
    | some _ => none

/-- Enters a row of keys, in order. -/
def assignAll : List (List String × Toml) → Members → Option Members
  | [], members => some members
  | (path, value) :: rest, members => (assign true value path members).bind (assignAll rest)

/-- A heading, with or without a table of its own name already there. -/
inductive Heading where
  /-- Of a table. -/
  | table (path : List String)
  /-- Of an element of an array of tables. -/
  | element (path : List String)
  deriving DecidableEq, Repr, Inhabited

/-- Changes the members that a path leads to; tables that are not there are made on the way, and
of an array of tables the last one counts. -/
def within (change : String → Members → Option Members) : List String → Members → Option Members
  | [], _ => none
  | [key], members => change key members
  | key :: rest, members =>
    match members.get? key with
    | none =>
      (within change rest []).map fun inner => members ++ [(key, .table .passed inner)]
    | some (.table .braced _) => none
    | some (.table origin inner) =>
      (within change rest inner).map fun inner => members.replace key (.table origin inner)
    | some (.tables earlier last) =>
      (within change rest last).map fun last => members.replace key (.tables earlier last)
    | some _ => none

/-- A table under its heading: it may be there already if only headings inside it made it, and goes
to the end in any case. -/
def openTable (entries : List (List String × Toml)) (key : String) (members : Members) :
    Option Members :=
  let finish (start : Members) : Option Members :=
    (assignAll entries start).map fun inner =>
      members.without key ++ [(key, .table .headed inner)]
  match members.get? key with
  | none => finish []
  | some (.table .passed inner) => finish inner
  | some _ => none

/-- An element of an array of tables under its heading. -/
def openElement (entries : List (List String × Toml)) (key : String) (members : Members) :
    Option Members :=
  match members.get? key with
  | none => (assignAll entries []).map fun inner => members ++ [(key, .tables [] inner)]
  | some (.tables earlier last) =>
    (assignAll entries []).map fun inner =>
      members.replace key (.tables (earlier ++ [last]) inner)
  | some _ => none

/-- Enters a heading with the keys below it. -/
def open? (members : Members) (heading : Heading) (entries : List (List String × Toml)) :
    Option Members :=
  match heading with
  | .table path => within (openTable entries) path members
  | .element path => within (openElement entries) path members

/-- Enters headings with the keys below them, in order. -/
def openAll : List (Heading × List (List String × Toml)) → Members → Option Members
  | [], members => some members
  | (heading, entries) :: rest, members => (open? members heading entries).bind (openAll rest)

end Toml
end FunctionHost
