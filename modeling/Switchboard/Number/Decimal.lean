import Switchboard.Number.Binary
import Switchboard.Text.Split

/-!
# Decimal text of binary floating point

Writing: of all decimals that round to a number, those of the fewest digits, and of these the one
nearest to it. A `Layout` says how the digits are laid out. Reading: a decimal literal stands for
the number nearest to it.
-/

namespace Switchboard.Number

/-- A decimal magnitude `digits * 10 ^ exponent`. -/
structure Decimal where
  digits : Nat
  exponent : Int
  deriving DecidableEq, Repr

/-- The decimal exponent of the first digit of a positive fraction. -/
def decimalExponent (num den : Nat) : Int :=
  let e := (Binary.digitCount num : Int) - Binary.digitCount den
  if den * Nat.pow 10 e.toNat ≤ num * Nat.pow 10 (-e).toNat then e else e - 1

/-- Takes zeros off the end of a number, at most `bound` of them, each one raising the exponent. -/
def dropZeros : (bound : Nat) → Nat → Int → Decimal
  | 0, digits, e => ⟨digits, e⟩
  | bound + 1, digits, e =>
    if digits ≠ 0 && digits % 10 = 0 then dropZeros bound (digits / 10) (e + 1) else ⟨digits, e⟩

/-- What lies within half a last place of a number, all in units of a quarter of the format's
smallest magnitude: the number, the two ends, and whether the ends round to it as well. -/
structure Interval where
  low : Nat
  mid : Nat
  high : Nat
  closed : Bool
  deriving DecidableEq, Repr

/-- The magnitudes that round to a code. The last place below a power of two is half as wide. -/
def Interval.ofCode (f : Format) (code : Nat) : Interval :=
  let width := if code < f.binade then 1 else Nat.pow 2 (code / f.binade - 1)
  let mid := 4 * f.units code
  let below := if code % f.binade = 0 && code / f.binade > 1 then width else 2 * width
  ⟨mid - below, mid, mid + 2 * width, code % 2 = 0⟩

/-- Does `x`, given in the interval's unit over `scale`, lie in the interval? -/
def Interval.holds (i : Interval) (scale x : Nat) : Bool :=
  if i.closed then i.low * scale ≤ x && x ≤ i.high * scale
  else i.low * scale < x && x < i.high * scale

/-- The multiple of `10 ^ k` in the interval that is nearest to its number, if there is one. Of two
at one distance it is the even one where `tieToEven` and else the upper one. -/
def Interval.nearestMultiple? (i : Interval) (f : Format) (tieToEven : Bool) (k : Int) :
    Option Nat :=
  let scale := Nat.pow 10 (-k).toNat
  let step := 4 * Nat.pow 2 f.depth * Nat.pow 10 k.toNat
  let mid := i.mid * scale
  let d := mid / step
  let r := mid % step
  match i.holds scale (d * step), i.holds scale ((d + 1) * step) with
  | true, true =>
    if 2 * r < step then some d
    else if step < 2 * r then some (d + 1)
    else if tieToEven && d % 2 = 0 then some d
    else some (d + 1)
  | true, false => some d
  | false, true => some (d + 1)
  | false, false => none

/-- The decimal of fewest digits that reads back as a finite code that is not zero; among those the
nearest. Seventeen digits always suffice. -/
def shortest (f : Format) (tieToEven : Bool) (code : Nat) : Decimal :=
  let i := Interval.ofCode f code
  let top := decimalExponent (f.units code) (Nat.pow 2 f.depth)
  let grids := (List.range 17).map fun (n : Nat) => top - (n : Int)
  match grids.findSome? fun k => (i.nearestMultiple? f tieToEven k).map fun d => (d, k) with
  | some (d, k) => dropZeros 20 d k
  | none => ⟨0, 0⟩

/-- How the digits of a number are laid out. -/
structure Layout where
  /-- The least exponent of the first digit that is written positionally. -/
  least : Int
  /-- The largest exponent of the first digit that is written positionally. -/
  most : Int
  /-- Does an exponent that is not negative have a plus sign? -/
  plus : Bool
  /-- Of two nearest decimals, is the even one written? Otherwise the upper one is. -/
  tieToEven : Bool
  deriving DecidableEq, Repr

/-- The digits of a number, most significant first. -/
def digitChars (n : Nat) : List Char := Nat.toDigits 10 n

namespace Layout

/-- The text of a positive decimal: an integral one ends in `.0` where it is written positionally,
and an exponent has no leading zeros. -/
def write (l : Layout) (d : Decimal) : List Char :=
  let ds := digitChars d.digits
  let first := (ds.length : Int) - 1 + d.exponent
  if l.least ≤ first && first ≤ l.most then
    if 0 ≤ d.exponent then ds ++ List.replicate d.exponent.toNat '0' ++ ['.', '0']
    else if 0 ≤ first then
      ds.take (first.toNat + 1) ++ '.' :: ds.drop (first.toNat + 1)
    else '0' :: '.' :: List.replicate ((-first).toNat - 1) '0' ++ ds
  else
    let sign := if first < 0 then ['-'] else if l.plus then ['+'] else []
    let power := 'e' :: sign ++ digitChars first.natAbs
    match ds with
    | d :: e :: rest => d :: '.' :: e :: rest ++ power
    | _ => ds ++ power

/-- The text of a number, `nan` and `infinity` given. -/
def text (l : Layout) (nan infinity : String) {f : Format} : Binary f → String
  | .nan => nan
  | .value negative code =>
    let body :=
      if code ≥ f.infinity then infinity.toList
      else if code = 0 then ['0', '.', '0']
      else l.write (shortest f l.tieToEven code)
    String.ofList (if negative then '-' :: body else body)

end Layout

/-- The value of a digit. -/
def digitValue (c : Char) : Nat := c.toNat - '0'.toNat

/-- The value of a hexadecimal digit. -/
def hexValue? (c : Char) : Option Nat :=
  let n := c.toNat
  if 48 ≤ n && n ≤ 57 then some (n - 48)
  else if 65 ≤ n && n ≤ 70 then some (n - 55)
  else if 97 ≤ n && n ≤ 102 then some (n - 87)
  else none

/-- The number that some digits write. -/
def ofDigits (cs : List Char) : Nat := cs.foldl (fun n c => n * 10 + digitValue c) 0

/-- Splits off a sign; true is minus. -/
def takeSign : List Char → Bool × List Char
  | '+' :: rest => (false, rest)
  | '-' :: rest => (true, rest)
  | rest => (false, rest)

/-- An integer in decimal with an optional sign: at least one digit and nothing else. -/
def readInt? (cs : List Char) : Option Int :=
  let (negative, ds) := takeSign cs
  if ds ≠ [] && ds.all Char.isDigit then
    some (if negative then -(ofDigits ds : Int) else ofDigits ds)
  else none

/-- A number without a minus sign, at most `max`. -/
def readNat? (max : Nat) (s : String) : Option Nat :=
  let ds := match s.toList with
    | '+' :: rest => rest
    | all => all
  if ds ≠ [] && ds.all Char.isDigit && ofDigits ds ≤ max then some (ofDigits ds) else none

/-- The exponent part of a literal: nothing, or `e` with an integer. -/
def readExponent? : List Char → Option Int
  | [] => some 0
  | c :: rest => if c == 'e' || c == 'E' then readInt? rest else none

/-- An unsigned decimal literal: digits, a point with digits, or both, and an optional exponent;
at least one digit stands before the exponent. -/
def readDecimal? (cs : List Char) : Option Decimal :=
  let (whole, rest) := cs.span Char.isDigit
  let (fraction, rest) := match rest with
    | '.' :: more => more.span Char.isDigit
    | other => ([], other)
  if whole.isEmpty && fraction.isEmpty then none
  else (readExponent? rest).map fun e => ⟨ofDigits (whole ++ fraction), e - fraction.length⟩

/-- Reads a number: a signed decimal literal, or `inf`, `infinity` or `nan` in letters of either
case. -/
def read? {f : Format} (s : String) : Option (Binary f) :=
  let (negative, rest) := takeSign s.toList
  let word := Text.lower (String.ofList rest)
  if word == "inf" || word == "infinity" then some (.infinite negative)
  else if word == "nan" then some .nan
  else (readDecimal? rest).map fun d => .ofDecimal negative d.digits d.exponent

end Switchboard.Number
