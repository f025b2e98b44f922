/-!
# Labels beyond ASCII

A label of a domain name that has other characters than ASCII is written in ASCII: first its ASCII
characters, then for each other character, in the order of their code points, how far the next place
to put one is from the last.  Distances are numbers with digits of varying weight, for which a bias
is kept that follows the distances seen so far.
-/
namespace FunctionHost
namespace Punycode

/-- Digits there are. -/
def base : Nat := 36

/-- The bias before any distance was seen. -/
def firstBias : Nat := 72

/-- The first code point that is not ASCII. -/
def firstPoint : Nat := 128

/-- A digit as a character: letters, then decimal digits. -/
def digitChar (d : Nat) : Char := if d < 26 then Char.ofNat (97 + d) else Char.ofNat (22 + d)

/-- The digit that a character stands for. -/
def digit? (c : Char) : Option Nat :=
  if 'a' ≤ c ∧ c ≤ 'z' then some (c.toNat - 97)
  else if 'A' ≤ c ∧ c ≤ 'Z' then some (c.toNat - 65)
  else if '0' ≤ c ∧ c ≤ '9' then some (c.toNat - 22)
  else none

/-- The digit from which on a number goes on, at a position under a bias. -/
def threshold (position bias : Nat) : Nat := min 26 (max 1 (position - bias))

theorem threshold_pos (position bias : Nat) : 1 ≤ threshold position bias := by
  unfold threshold
  omega

/-- Scales a distance down until it is small; the bias from what is left. -/
def scale (distance bias : Nat) : Nat :=
  if 455 < distance then scale (distance / 35) (bias + base)
  else bias + base * distance / (distance + 38)
termination_by distance
decreasing_by omega

/-- **The bias** after a distance, with so many characters placed by then. -/
def adapt (distance placed : Nat) (first : Bool) : Nat :=
  let distance := if first then distance / 700 else distance / 2
  scale (distance + distance / placed) 0

/-- The digits of a distance. -/
def digits (bias position distance : Nat) : List Char :=
  let t := threshold position bias
  if distance < t then [digitChar distance]
  else
    digitChar (t + (distance - t) % (base - t))
      :: digits bias (position + base) ((distance - t) / (base - t))
termination_by distance
decreasing_by
  have h := threshold_pos position bias
  have hd := Nat.div_le_self (distance - threshold position bias) (base - threshold position bias)
  omega

/-- How far writing has come. -/
structure Writer where
  /-- The distance since the last character placed. -/
  distance : Nat := 0
  /-- The bias. -/
  bias : Nat := firstBias
  /-- How many characters are placed. -/
  placed : Nat
  /-- The digits so far. -/
  out : List Char := []

/-- Passes a character while those of a code point are placed. -/
def Writer.pass (basic point : Nat) (w : Writer) (c : Char) : Writer :=
  if c.toNat < point then { w with distance := w.distance + 1 }
  else if c.toNat = point then
    { distance := 0
      bias := adapt w.distance (w.placed + 1) (w.placed = basic)
      placed := w.placed + 1
      out := w.out ++ digits w.bias base w.distance }
  else w

/-- Places the characters of some code points, the least one first. -/
def place (label : List Char) (basic : Nat) : List Nat → Nat → Writer → Writer
  | [], _, w => w
  | point :: rest, next, w =>
    let w := { w with distance := w.distance + (point - next) * (w.placed + 1) }
    let w := label.foldl (Writer.pass basic point) w
    place label basic rest (point + 1) { w with distance := w.distance + 1 }

/-- Puts a number where it belongs in a list without repetitions. -/
def insertPoint (point : Nat) : List Nat → List Nat
  | [] => [point]
  | head :: rest =>
    if point < head then point :: head :: rest
    else if point = head then head :: rest
    else head :: insertPoint point rest

/-- **Writes a label.** -/
def encode (label : List Char) : List Char :=
  let basic := label.filter (·.toNat < firstPoint)
  let points := (label.filter (firstPoint ≤ ·.toNat)).foldl (fun l c => insertPoint c.toNat l) []
  let w := place label basic.length points firstPoint { placed := basic.length }
  basic ++ (if basic.isEmpty then [] else ['-']) ++ w.out

/-- Reads a distance: the distance added to another one, and what follows it. -/
def readDistance (bias : Nat) : List Char → Nat → Nat → Nat → Option (Nat × List Char)
  | [], _, _, _ => none
  | c :: rest, position, weight, sum =>
    match digit? c with
    | none => none
    | some d =>
      let sum := sum + d * weight
      let t := threshold position bias
      if d < t then some (sum, rest)
      else readDistance bias rest (position + base) (weight * (base - t)) sum

/-- Reads distances and puts a character where each leads; at most so many. -/
def readPlaces : Nat → List Char → Nat → Nat → Nat → List Char → Option (List Char)
  | _, [], _, _, _, label => some label
  | 0, _ :: _, _, _, _, _ => none
  | count + 1, source, point, place, bias, label =>
    match readDistance bias source base 1 place with
    | none => none
    | some (sum, rest) =>
      let size := label.length + 1
      let point := point + sum / size
      let here := sum % size
      if point.isValidChar then
        readPlaces count rest point (here + 1) (adapt (sum - place) size (place = 0))
          (label.take here ++ Char.ofNat point :: label.drop here)
      else none

/-- **Reads a label**, if it is one. -/
def decode? (source : List Char) : Option (List Char) :=
  let tail := (source.reverse.takeWhile (· ≠ '-')).reverse
  let basic := source.take (source.length - tail.length - 1)
  if basic.all (·.toNat < firstPoint) then
    readPlaces tail.length tail firstPoint 0 firstBias basic
  else none

end Punycode
end FunctionHost
