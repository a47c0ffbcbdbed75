import Stencil.Decimal.Numeral

set_option autoImplicit false

namespace Stencil.Decimal

-- A positive double and the interval of reals that are read as it, each counted in the same fraction `1
-- / unit`. The ends belong to the interval when it is `closed`.
structure Neighbourhood where
  low : Nat
  value : Nat
  high : Nat
  unit : Nat
  closed : Bool

namespace Neighbourhood

-- The neighbourhood of `mantissa · 2 ^ exponent`. Halfway to the next double above is half a step;
-- below it is a quarter step when the value is the least with its exponent (`narrow`).
def ofBinary (mantissa : Nat) (exponent : Int) (narrow : Bool) : Neighbourhood :=
  let scale := Nat.pow 2 (exponent - 2).toNat
  { low := (4 * mantissa - if narrow then 1 else 2) * scale
    value := 4 * mantissa * scale
    high := (4 * mantissa + 2) * scale
    unit := Nat.pow 2 (2 - exponent).toNat
    closed := mantissa % 2 == 0 }

def leadingExponent (range : Neighbourhood) : Int :=
  if range.unit ≤ range.value then ((digits (range.value / range.unit)).length : Int) - 1
  else
    let places := (digits (range.unit / range.value)).length
    if range.unit ≤ range.value * Nat.pow 10 (places - 1) then 1 - (places : Int) else -(places : Int)

def onGrid? (range : Neighbourhood) (exponent : Int) : Option Nat :=
  let up := Nat.pow 10 (-exponent).toNat
  let step := range.unit * Nat.pow 10 exponent.toNat
  let below := range.value * up / step
  let holds (count : Nat) : Bool :=
    if range.closed then range.low * up ≤ count * step && count * step ≤ range.high * up
    else range.low * up < count * step && count * step < range.high * up
  if holds below && (!holds (below + 1) || 2 * (range.value * up - below * step) < step) then
    some below
  else if holds (below + 1) then some (below + 1)
  else none

-- The shortest decimal in the interval, as a significand and a power of ten. Seventeen digits always
-- suffice.
def shortest (range : Neighbourhood) : Nat × Int :=
  let leading := range.leadingExponent
  ((List.range 17).findSome? fun more : Nat =>
    (range.onGrid? (leading - more)).map fun count => (count, leading - more)).getD (0, 0)

end Neighbourhood

def positional (significand : Nat) (exponent : Int) : List Char :=
  if 0 ≤ exponent then digits significand ++ List.replicate exponent.toNat '0'
  else
    let places := (-exponent).toNat
    let part := Nat.toDigits 10 (significand % Nat.pow 10 places)
    let padded := List.replicate (places - part.length) '0' ++ part
    let kept := (padded.reverse.dropWhile (· == '0')).reverse
    digits (significand / Nat.pow 10 places) ++ if kept.isEmpty then [] else '.' :: kept

def ofBits (bits : UInt64) : List Char :=
  let sign : List Char := if bits >>> 63 == 0 then [] else ['-']
  let exponent := ((bits >>> 52) &&& 0x7FF).toNat
  let trailing := (bits &&& 0xFFFFFFFFFFFFF).toNat
  if exponent = 0x7FF then
    if trailing = 0 then sign ++ ['i', 'n', 'f'] else ['N', 'a', 'N']
  else if exponent = 0 ∧ trailing = 0 then sign ++ ['0']
  else
    let range :=
      if exponent = 0 then Neighbourhood.ofBinary trailing (-1074) false
      else Neighbourhood.ofBinary (Nat.pow 2 52 + trailing) (exponent - 1075) (trailing = 0 && 1 < exponent)
    let (significand, power) := range.shortest
    sign ++ positional significand power

def ofFloat (value : Float) : List Char :=
  ofBits value.toBits

end Stencil.Decimal
