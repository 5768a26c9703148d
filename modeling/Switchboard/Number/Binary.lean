import Switchboard.Number.Range

/-!
# Binary floating point

Numbers of the interchange formats `single` and `double`, as a sign and a magnitude code. Codes
count the magnitudes of a format upwards from zero, so a larger code is a larger magnitude and the
code after the largest finite magnitude is infinity. All arithmetic is exact arithmetic on
fractions followed by one rounding to the nearest code, ties to the even one.
-/

namespace Switchboard.Number

/-- A format: how many bits its significands have, the leading one included, and how many its
exponents have. -/
structure Format where
  precision : Nat
  exponentBits : Nat
  deriving DecidableEq, Repr

namespace Format

/-- The 32 bit format. -/
def single : Format := ⟨24, 8⟩

/-- The 64 bit format. -/
def double : Format := ⟨53, 11⟩

variable (f : Format)

/-- The number of codes that share one binary exponent. -/
def binade : Nat := Nat.pow 2 (f.precision - 1)

/-- The code of infinity. -/
def infinity : Nat := (Nat.pow 2 f.exponentBits - 1) * f.binade

/-- The weight of the last place of the smallest magnitudes is two to minus this. -/
def depth : Nat := Nat.pow 2 (f.exponentBits - 1) + f.precision - 3

/-- The magnitude of a finite code in units of two to minus `depth`. -/
def units (code : Nat) : Nat :=
  if code < f.binade then code
  else (code % f.binade + f.binade) * Nat.pow 2 (code / f.binade - 1)

/-- The quotient of two numbers, to the nearest integer, a half to the even one. -/
def roundDiv (num den : Nat) : Nat :=
  let q := num / den
  let r := num % den
  if 2 * r < den then q else if den < 2 * r then q + 1 else q + q % 2

/-- The code nearest to `num / den` units: with `e` the least shift that brings the quotient under
two binades, the shifted quotient is rounded to an integer and the binades below it are added. -/
def nearest (num den : Nat) : Nat :=
  let e := (num / den).log2 + 1 - f.precision
  min f.infinity (e * f.binade + roundDiv num (den * Nat.pow 2 e))

end Format

/-- A number of a format: a magnitude code with a sign, or no number. -/
inductive Binary (f : Format) where
  | nan
  | value (negative : Bool) (code : Nat)
  deriving DecidableEq, Repr

/-- Numbers of the 64 bit format. -/
abbrev Double := Binary .double

/-- Numbers of the 32 bit format. -/
abbrev Single := Binary .single

namespace Binary
variable {f g : Format}

/-- Positive zero. -/
def zero : Binary f := .value false 0

/-- Infinity with a sign. -/
def infinite (negative : Bool) : Binary f := .value negative f.infinity

/-- Is it a finite number? -/
def isFinite : Binary f → Bool
  | nan => false
  | value _ code => code < f.infinity

/-- Is it one of the two infinities? -/
def isInfinite : Binary f → Bool
  | nan => false
  | value _ code => f.infinity ≤ code

/-- Is it one of the two zeros? -/
def isZero : Binary f → Bool
  | nan => false
  | value _ code => code == 0

/-- The number of the other sign. -/
def neg : Binary f → Binary f
  | nan => nan
  | value negative code => value (!negative) code

/-- The number nearest to plus or minus `num / den`. -/
def ofRatio (negative : Bool) (num den : Nat) : Binary f :=
  value negative (f.nearest (num * Nat.pow 2 f.depth) den)

/-- The number nearest to an integer. -/
def ofInt (n : Int) : Binary f := ofRatio (n < 0) n.natAbs 1

/-- How many decimal digits `n` has; zero has none. -/
def digitCount (n : Nat) : Nat := if n = 0 then 0 else (Nat.toDigits 10 n).length

/-- The number nearest to plus or minus `digits * 10 ^ exponent`. Magnitudes of 10 ^ 400 and more
are infinite and those under 10 ^ -400 are zero in both formats, without working out the power. -/
def ofDecimal (negative : Bool) (digits : Nat) (exponent : Int) : Binary f :=
  if digits = 0 then value negative 0
  else if (digitCount digits : Int) + exponent > 401 then value negative f.infinity
  else if (digitCount digits : Int) + exponent < -400 then value negative 0
  else if 0 ≤ exponent then ofRatio negative (digits * Nat.pow 10 exponent.toNat) 1
  else ofRatio negative digits (Nat.pow 10 (-exponent).toNat)

/-- The product. -/
def mul : Binary f → Binary f → Binary f
  | value s a, value t b =>
    if a ≥ f.infinity || b ≥ f.infinity then
      if a == 0 || b == 0 then nan else infinite (s != t)
    else ofRatio (s != t) (f.units a * f.units b) (Nat.pow 2 (2 * f.depth))
  | _, _ => nan

/-- The quotient of a finite number by a finite number that is not zero. -/
def div : Binary f → Binary f → Binary f
  | value s a, value t b =>
    if a ≥ f.infinity || b ≥ f.infinity || b == 0 then nan
    else ofRatio (s != t) (f.units a) (f.units b)
  | _, _ => nan

/-- The same number in another format, rounded to it. -/
def convert : Binary f → Binary g
  | nan => nan
  | value s code =>
    if code ≥ f.infinity then infinite s else ofRatio s (f.units code) (Nat.pow 2 f.depth)

/-- A number's place in the order of all numbers of its format, both zeros at 0. -/
def rank? : Binary f → Option Int
  | nan => none
  | value s code => some (if s then -(code : Int) else code)

/-- Is the one at most the other? Never so where one of them is no number. -/
def le (x y : Binary f) : Bool :=
  match x.rank?, y.rank? with
  | some a, some b => a ≤ b
  | _, _ => false

/-- Is the one less than the other? Never so where one of them is no number. -/
def lt (x y : Binary f) : Bool :=
  match x.rank?, y.rank? with
  | some a, some b => a < b
  | _, _ => false

/-- Reads the bits of the interchange form. -/
def ofBits (bits : Nat) : Binary f :=
  let span := Nat.pow 2 (f.precision + f.exponentBits - 1)
  let code := bits % span
  if code > f.infinity then nan else value (bits / span % 2 == 1) code

/-- The bits of the interchange form; what is no number has the bits of the quiet one. -/
def toBits : Binary f → Nat
  | nan => f.infinity + f.binade / 2
  | value s code => (if s then Nat.pow 2 (f.precision + f.exponentBits - 1) else 0) + code

end Binary

end Switchboard.Number
