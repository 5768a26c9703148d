import Switchboard.Number.Decimal
import Switchboard.Text.Split

/-!
# Addresses of sockets

An address is four numbers with points between them, or eight groups of hexadecimal digits in square
brackets, with a port behind a colon. Of the groups some may be left out in one place, and the last
two may be written as four numbers.
-/

namespace Switchboard.Address

/-- Reads something at the start of a text and gives what follows it. -/
abbrev Reader (α : Type) := List Char → Option (α × List Char)

/-- Skips one character. -/
def skip? (c : Char) : List Char → Option (List Char)
  | d :: rest => if d = c then some rest else none
  | [] => none

/-- The value of a digit of some base up to sixteen. -/
def digit? (base : Nat) (c : Char) : Option Nat := (Number.hexValue? c).filter (· < base)

/-- Reads a number of one digit or more, at most `largest`. -/
def readNumber? (base largest : Nat) : Reader Nat := fun cs =>
  let ds := cs.takeWhile fun c => (digit? base c).isSome
  let n := ds.foldl (fun n c => n * base + (digit? base c).getD 0) 0
  if ds.isEmpty || largest < n then none
  else some (n, cs.dropWhile fun c => (digit? base c).isSome)

/-- Reads a number up to 255 without zeros in front. -/
def readByte? : Reader Nat := fun cs => do
  let (n, rest) ← readNumber? 10 255 cs
  guard (cs.length - rest.length = (Number.digitChars n).length)
  return (n, rest)

/-- Reads four numbers with points between them, as two groups. -/
def readQuad? : Reader (List Nat) := fun cs => do
  let (a, cs) ← readByte? cs
  let (b, cs) ← readByte? (← skip? '.' cs)
  let (c, cs) ← readByte? (← skip? '.' cs)
  let (d, cs) ← readByte? (← skip? '.' cs)
  return ([a * 256 + b, c * 256 + d], cs)

/-- Reads a group: one to four hexadecimal digits. -/
def readGroup? : Reader Nat := fun cs => do
  let (n, rest) ← readNumber? 16 0xFFFF cs
  guard (cs.length - rest.length ≤ 4)
  return (n, rest)

/-- Reads up to `room` groups with colons between them; `first` tells that none came before. The
truth value tells whether they end in four numbers. -/
def readGroups : (room : Nat) → (first : Bool) → List Char → (List Nat × Bool) × List Char
  | 0, _, cs => (([], false), cs)
  | room + 1, first, cs =>
    let start := if first then some cs else skip? ':' cs
    match if room = 0 then none else start.bind readQuad? with
    | some (quad, rest) => ((quad, true), rest)
    | none =>
      match start.bind readGroup? with
      | none => (([], false), cs)
      | some (n, rest) =>
        let ((more, quad), rest) := readGroups room false rest
        ((n :: more, quad), rest)

/-- Reads eight groups, some of which may be left out between two colons. -/
def readLong? : Reader (List Nat) := fun cs => do
  let ((head, quad), rest) := readGroups 8 true cs
  if head.length = 8 then return (head, rest)
  guard (!quad)
  let rest ← skip? ':' (← skip? ':' rest)
  let ((tail, _), rest) := readGroups (7 - head.length) true rest
  return (head ++ List.replicate (8 - head.length - tail.length) 0 ++ tail, rest)

/-- Reads what may follow an address in brackets: the number of a network behind `%`. -/
def skipScope (cs : List Char) : List Char :=
  (((skip? '%' cs).bind (readNumber? 10 4294967295)).map (·.2)).getD cs

/-- Reads the port behind an address. -/
def readPort? : Reader Nat := fun cs => do readNumber? 10 65535 (← skip? ':' cs)

/-- Reads an address in brackets. -/
def readBracketed? : Reader (List Nat) := fun cs => do
  let (groups, rest) ← readLong? (← skip? '[' cs)
  let rest ← skip? ']' (skipScope rest)
  return (groups, rest)

/-- The groups and the port that a text writes. -/
def parse? (s : String) : Option (List Nat × Nat) := do
  let (groups, rest) ← (readQuad? s.toList).or (readBracketed? s.toList)
  let (port, rest) ← readPort? rest
  guard rest.isEmpty
  return (groups, port)

end Switchboard.Address
