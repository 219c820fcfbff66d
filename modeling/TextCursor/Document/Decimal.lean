import TextCursor.Text

/-! # Decimal numbers and their shortest text

    A number written with a fraction or an exponent is kept as it stands: a
    sign, digits and a power of ten.  It is shown by the fewest digits that
    round to the same binary number of 53 bits, without an exponent and with a
    digit on both sides of the point.

    All arithmetic is on ratios of natural numbers. -/

namespace TextCursor

/-- The number `± digits * 10 ^ exponent`. -/
structure Decimal where
  negative : Bool
  digits : Nat
  exponent : Int
deriving DecidableEq, Repr

/-- The number `mantissa * 2 ^ exponent`. -/
structure Binary where
  mantissa : Nat
  exponent : Int
deriving DecidableEq, Repr

/-- A ratio of natural numbers. -/
structure Ratio where
  num : Nat
  den : Nat
deriving DecidableEq, Repr

namespace Ratio

/-- The ratio `n * b ^ e`. -/
def scale (b : Nat) (n : Nat) (e : Int) : Ratio :=
  if 0 ≤ e then ⟨n * Nat.pow b e.toNat, 1⟩ else ⟨n, Nat.pow b (-e).toNat⟩

/-- The quotient of two ratios. -/
def div (a b : Ratio) : Ratio :=
  ⟨a.num * b.den, a.den * b.num⟩

/-- Whether a ratio is at most another one. -/
def le (a b : Ratio) : Bool :=
  a.num * b.den ≤ b.num * a.den

/-- The greatest natural number at most a ratio. -/
def floor (a : Ratio) : Nat :=
  a.num / a.den

/-- The natural number nearest to a ratio; of two, the even one. -/
def round (a : Ratio) : Nat :=
  let whole := a.num / a.den
  let left := a.num % a.den
  if 2 * left < a.den then whole
  else if a.den < 2 * left then whole + 1
  else whole + whole % 2

end Ratio

namespace Binary

/-- The least exponent of a binary number of 53 bits. -/
def leastExponent : Int := -1074

/-- The binary number of 53 bits nearest to a ratio. -/
def nearest (a : Ratio) : Binary :=
  let guess : Int := (Nat.log2 a.num : Int) - (Nat.log2 a.den : Int) - 53
  let exponent :=
    if (Ratio.div a (Ratio.scale 2 1 guess)).floor < Nat.pow 2 53 then guess else guess + 1
  let exponent := max exponent leastExponent
  ⟨(Ratio.div a (Ratio.scale 2 1 exponent)).round, exponent⟩

/-- The number as a ratio. -/
def ratio (b : Binary) : Ratio :=
  Ratio.scale 2 b.mantissa b.exponent

/-- The ratios halfway to the neighbours below and above. -/
def bounds (b : Binary) : Ratio × Ratio :=
  let step := if b.mantissa = Nat.pow 2 52 ∧ leastExponent < b.exponent then 1 else 2
  (Ratio.scale 2 (4 * b.mantissa - step) (b.exponent - 2),
    Ratio.scale 2 (4 * b.mantissa + 2) (b.exponent - 2))

/-- Whether a ratio rounds to the number; an even mantissa wins ties. -/
def holds (b : Binary) (a : Ratio) : Bool :=
  let (low, high) := b.bounds
  if b.mantissa % 2 = 0 then low.le a && a.le high
  else !a.le low && !high.le a

/-- The digits on the grid of powers of ten that round to the number, the nearer ones first. -/
def onGrid (b : Binary) (power : Int) : Option Nat :=
  let place := Ratio.div b.ratio (Ratio.scale 10 1 power)
  let low := place.floor
  let candidates := if place.round = low then [low, low + 1] else [low + 1, low]
  candidates.find? fun n => b.holds (Ratio.scale 10 n power)

/-- Seeks the coarsest grid, from a power of ten downwards, that holds the number. -/
def shortestFrom (b : Binary) : Nat → Int → Decimal
  | 0, power => ⟨false, (Ratio.div b.ratio (Ratio.scale 10 1 power)).round, power⟩
  | tries + 1, power =>
    match b.onGrid power with
    | some (n + 1) => ⟨false, n + 1, power⟩
    | _ => shortestFrom b tries (power - 1)

/-- The decimal number with the fewest digits that rounds to the number. -/
def shortest (b : Binary) : Decimal :=
  let a := b.ratio
  let power : Int :=
    (((Nat.toDigits 10 a.num).length : Int) - ((Nat.toDigits 10 a.den).length : Int)) + 1
  b.shortestFrom 20 power

end Binary

namespace Decimal

/-- Whether the number is too small to be told from zero. -/
def isNegligible (d : Decimal) : Bool :=
  d.digits = 0 || ((Nat.toDigits 10 d.digits).length : Int) + d.exponent < -400

/-- The digits of a positive decimal number around its point. -/
def positional (d : Decimal) : Text :=
  let ds := Nat.toDigits 10 d.digits
  let point : Int := (ds.length : Int) + d.exponent
  if 0 ≤ d.exponent then ds ++ List.replicate d.exponent.toNat '0' ++ ['.', '0']
  else if 0 < point then ds.take point.toNat ++ ['.'] ++ ds.drop point.toNat
  else ['0', '.'] ++ List.replicate (-point).toNat '0' ++ ds

/-- The shortest text of the number. -/
def text (d : Decimal) : Text :=
  let sign := if d.negative then ['-'] else []
  if d.isNegligible then sign ++ ['0', '.', '0']
  else
    let b := Binary.nearest (Ratio.scale 10 d.digits d.exponent)
    if b.mantissa = 0 then sign ++ ['0', '.', '0'] else sign ++ b.shortest.positional

end Decimal

end TextCursor
