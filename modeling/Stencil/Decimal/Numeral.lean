set_option autoImplicit false

namespace Stencil.Decimal

def isDigit (c : Char) : Bool :=
  '0' ≤ c && c ≤ '9'

def ofDigits (digits : List Char) : Nat :=
  digits.foldl (fun value digit => 10 * value + (digit.toNat - 48)) 0

def digits (value : Nat) : List Char :=
  Nat.toDigits 10 value

def written (value : Int) : List Char :=
  if value < 0 then '-' :: digits value.natAbs else digits value.natAbs

def readNat? (text : List Char) : Option Nat :=
  if text.isEmpty || !text.all isDigit then none else some (ofDigits text)

def signed : List Char → Bool × List Char
  | '-' :: rest => (true, rest)
  | '+' :: rest => (false, rest)
  | text => (false, text)

def readInt? (text : List Char) : Option Int :=
  let unsigned := signed text
  (readNat? unsigned.2).map fun value => if unsigned.1 then -(value : Int) else value

def readPosition? : List Char → Option Nat
  | '+' :: rest => readNat? rest
  | text => readNat? text

def int64? (value : Int) : Option Int64 :=
  if -9223372036854775808 ≤ value ∧ value ≤ 9223372036854775807 then some (Int64.ofInt value) else none

theorem digits_all_digits (value : Nat) : (digits value).all isDigit = true := by
  rw [List.all_eq_true]
  intro c member
  have digit := Nat.isDigit_of_mem_toDigits (by decide) (by decide) member
  simpa [isDigit, Char.isDigit, Char.le_def] using digit

theorem ofDigits_digits (value : Nat) : ofDigits (digits value) = value :=
  Nat.ofDigitChars_toDigits (by decide) (by decide)

theorem readNat?_digits (value : Nat) : readNat? (digits value) = some value := by
  have nonempty : (digits value).isEmpty = false :=
    List.isEmpty_eq_false_iff.mpr Nat.toDigits_ne_nil
  rw [readNat?, nonempty, digits_all_digits, ofDigits_digits]
  rfl

theorem signed_unsigned {text : List Char} (digits : ∀ c ∈ text, isDigit c = true) :
    signed text = (false, text) := by
  unfold signed
  split
  · exact absurd (digits '-' List.mem_cons_self) (by decide)
  · exact absurd (digits '+' List.mem_cons_self) (by decide)
  · rfl

theorem signed_digits (value : Nat) : signed (digits value) = (false, digits value) :=
  signed_unsigned (List.all_eq_true.mp (digits_all_digits value))

theorem readInt?_written (value : Int) : readInt? (written value) = some value := by
  by_cases negative : value < 0
  · have read : readInt? ('-' :: digits value.natAbs) = some (-(value.natAbs : Int)) := by
      rw [readInt?, signed, readNat?_digits]
      rfl
    rw [written, if_pos negative, read]
    congr 1
    omega
  · have read : readInt? (digits value.natAbs) = some (value.natAbs : Int) := by
      rw [readInt?, signed_digits, readNat?_digits]
      rfl
    rw [written, if_neg negative, read]
    congr 1
    omega

theorem int64?_toInt (i : Int64) : int64? i.toInt = some i := by
  have low := Int64.le_toInt i
  have high := Int64.toInt_lt i
  rw [int64?, if_pos (by omega), Int64.ofInt_toInt]

structure Numeral where
  negative : Bool
  significand : Nat
  exponent : Int

def infinity : Float :=
  Float.ofBits 0x7FF0000000000000

def notANumber : Float :=
  Float.ofBits 0x7FF8000000000000

namespace Numeral

-- The double nearest to `significand · 10 ^ exponent`. Powers far outside the range of a double are
-- settled from the sizes alone: above `10 ^ 310` all is infinite, below `10 ^ -330` all is zero.
def magnitude (numeral : Numeral) : Float :=
  if numeral.significand = 0 then 0.0
  else if 310 < numeral.exponent then infinity
  else if numeral.exponent + numeral.significand.log2 + 1 < -330 then 0.0
  else Float.ofScientific numeral.significand (numeral.exponent < 0) numeral.exponent.natAbs

def toFloat (numeral : Numeral) : Float :=
  if numeral.negative then -numeral.magnitude else numeral.magnitude

def readExponent? : List Char → Option Int
  | [] => some 0
  | 'e' :: rest => readInt? rest
  | 'E' :: rest => readInt? rest
  | _ => none

def read? (text : List Char) : Option Numeral :=
  let unsigned := signed text
  let whole := unsigned.2.takeWhile isDigit
  let afterPoint := match unsigned.2.dropWhile isDigit with
    | '.' :: rest => (rest.takeWhile isDigit, rest.dropWhile isDigit)
    | rest => ([], rest)
  if whole.isEmpty && afterPoint.1.isEmpty then none
  else (readExponent? afterPoint.2).map fun exponent =>
    ⟨unsigned.1, ofDigits (whole ++ afterPoint.1), exponent - afterPoint.1.length⟩

end Numeral

end Stencil.Decimal
