/-
BlockConfig.Decimal.Shortest — the shortest decimal text of a binary
floating-point number.

A binary number stands for every real that rounds to it: an interval
around its value that reaches half-way to each neighbour, ends included
exactly when the significand is even. The text is the decimal in that
interval with the fewest digits; among those the nearest to the value; of
two equally near the greater one.

The search is in exact natural-number arithmetic and knows no tables. On
the grid of the multiples of `10 ^ j` only the two neighbours of the value
can be nearest, so the search asks these two, from the coarsest grid to
finer ones, and stops at the first grid with a hit (`shortest`). A grid
finer than the interval always has one; the number of steps allowed is
counted from that.

Digits are always written out in place: no exponent, no point unless a
digit stands behind it, zeros for the places that the digits do not reach.
-/

namespace BlockConfig.Decimal

/-! ## 1. Binary formats -/

/-- The widths of the two fields below the sign bit. -/
structure BinaryFormat where
  fractionBits : Nat
  exponentBits : Nat

/-- Sixty-four bits: eleven for the exponent, fifty-two for the fraction. -/
def BinaryFormat.double : BinaryFormat := ⟨52, 11⟩

/-- Thirty-two bits: eight for the exponent, twenty-three for the
fraction. -/
def BinaryFormat.single : BinaryFormat := ⟨23, 8⟩

/-- What a bit pattern stands for. -/
inductive Reading
  | notANumber
  | infinite
  | zero
  /-- `significand · 2 ^ exponent`. The neighbour below is only half as far
  away as the one above when `narrow` is set: at the bottom of a range of
  equal exponents. -/
  | finite (significand : Nat) (exponent : Int) (narrow : Bool)

namespace BinaryFormat

def isNegative (f : BinaryFormat) (bits : Nat) : Bool :=
  bits / Nat.pow 2 (f.fractionBits + f.exponentBits) % 2 = 1

def read (f : BinaryFormat) (bits : Nat) : Reading :=
  let hidden := Nat.pow 2 f.fractionBits
  let fraction := bits % hidden
  let field := bits / hidden % Nat.pow 2 f.exponentBits
  let shift : Int := Nat.pow 2 (f.exponentBits - 1) + f.fractionBits - 1
  if field + 1 = Nat.pow 2 f.exponentBits then
    if fraction = 0 then .infinite else .notANumber
  else if field = 0 then
    if fraction = 0 then .zero else .finite fraction (1 - shift) false
  else .finite (hidden + fraction) (field - shift) (fraction = 0 && field ≠ 1)

end BinaryFormat

/-! ## 2. The interval of a number -/

/-- The reals that round to a number, as quotients over one denominator. -/
structure Span where
  low : Nat
  value : Nat
  high : Nat
  denominator : Nat
  closed : Bool

/-- Half-way to the neighbours, in quarters of the last place. -/
def Span.ofFinite (significand : Nat) (exponent : Int) (narrow : Bool) : Span :=
  let quarters := exponent - 2
  let unit := Nat.pow 2 quarters.toNat
  { low := (4 * significand - if narrow then 1 else 2) * unit
    value := 4 * significand * unit
    high := (4 * significand + 2) * unit
    denominator := Nat.pow 2 (-quarters).toNat
    closed := significand % 2 = 0 }

namespace Span

/-- How far apart the points of a grid are, over the denominator. Below the
decimal point they are one unit apart, and the value is scaled instead. -/
def step (s : Span) (place : Int) : Nat := Nat.pow 10 place.toNat * s.denominator

/-- By how much the value is scaled for a grid below the decimal point. -/
def scale (place : Int) : Nat := Nat.pow 10 (-place).toNat

/-- Whether `digits · 10 ^ place` lies in the interval. -/
def holds (s : Span) (digits : Nat) (place : Int) : Bool :=
  let point := digits * s.step place
  let scale := Span.scale place
  if s.closed then s.low * scale ≤ point && point ≤ s.high * scale
  else s.low * scale < point && point < s.high * scale

/-- The multiple of `10 ^ place` at or below the value, as a count. -/
def below (s : Span) (place : Int) : Nat :=
  s.value * Span.scale place / s.step place

/-- Whether the value is nearer to `digits · 10 ^ place` than to the next
multiple. -/
def isNearer (s : Span) (digits : Nat) (place : Int) : Bool :=
  2 * (s.value * Span.scale place) < (2 * digits + 1) * s.step place

/-- The best point of one grid, if it has one in the interval. -/
def pick? (s : Span) (place : Int) : Option Nat :=
  let d := s.below place
  match s.holds d place, s.holds (d + 1) place with
  | true, true => some (if s.isNearer d place then d else d + 1)
  | true, false => some d
  | false, true => some (d + 1)
  | false, false => none

/-- The best point of the first grid with a hit, from one place downwards,
in a bounded number of steps. -/
def search (s : Span) : Nat → Int → Nat × Int
  | 0, place => (s.below place, place)
  | steps + 1, place =>
    match s.pick? place with
    | some digits => (digits, place)
    | none => s.search steps (place - 1)

end Span

/-- The digits and the place of the shortest decimal that reads back as
`significand · 2 ^ exponent`. The first grid is coarser than the number;
the last one is finer than a quarter of its last place. -/
def shortest (significand : Nat) (exponent : Int) (narrow : Bool) : Nat × Int :=
  let s := Span.ofFinite significand exponent narrow
  let top := (Nat.toDigits 10 (s.value / s.denominator)).length
  s.search (top + (2 - exponent).toNat + 1) top

/-! ## 3. Writing digits in place -/

/-- `digits · 10 ^ place`, every place written out. -/
def positional (digits : Nat) (place : Int) : List Char :=
  let shown := Nat.toDigits 10 digits
  if 0 ≤ place then shown ++ List.replicate place.toNat '0'
  else
    let behind := (-place).toNat
    let padded := List.replicate (behind + 1 - shown.length) '0' ++ shown
    padded.take (padded.length - behind) ++ '.' :: padded.drop (padded.length - behind)

/-- The text of a bit pattern. A minus sign stands before every negative
number, negative zero included. -/
def BinaryFormat.text (f : BinaryFormat) (bits : Nat) : String :=
  let sign := if f.isNegative bits then "-" else ""
  match f.read bits with
  | .notANumber => "NaN"
  | .infinite => sign ++ "inf"
  | .zero => sign ++ "0"
  | .finite significand exponent narrow =>
    let (digits, place) := shortest significand exponent narrow
    sign ++ String.ofList (positional digits place)

/-! ## 4. Numbers at the edges

A tenth; a power of ten that no number hits; a value half-way between two
shortest texts, which goes up; the smallest number; and the zeros. -/

example : BinaryFormat.double.text 0x3fb999999999999a = "0.1" := by decide +kernel

example : BinaryFormat.double.text 0x44b52d02c7e14af6 = "100000000000000000000000" := by
  decide +kernel

example : BinaryFormat.single.text 0x39800000 = "0.00024414063" := by decide +kernel

example : BinaryFormat.single.text 1 = "0.000000000000000000000000000000000000000000001" := by
  decide +kernel

example : BinaryFormat.double.text 0 = "0" ∧ BinaryFormat.double.text 0x8000000000000000 = "-0" := by
  decide +kernel

end BlockConfig.Decimal
