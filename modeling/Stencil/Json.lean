import Stencil.Decimal.Numeral
import Stencil.Value

set_option autoImplicit false

namespace Stencil.Json

def maxNesting : Nat := 127

def isBlank (c : Char) : Bool :=
  c == ' ' || c == '\t' || c == '\n' || c == '\r'

def skipBlank (text : List Char) : List Char :=
  text.dropWhile isBlank

def eat (wanted : Char) (text : List Char) : Option (List Char) :=
  match skipBlank text with
  | c :: rest => if c = wanted then some rest else none
  | [] => none

def hexDigit? (c : Char) : Option Nat :=
  if '0' ≤ c ∧ c ≤ '9' then some (c.toNat - 48)
  else if 'a' ≤ c ∧ c ≤ 'f' then some (c.toNat - 87)
  else if 'A' ≤ c ∧ c ≤ 'F' then some (c.toNat - 55)
  else none

def hexUnit? (a b c d : Char) : Option Nat :=
  match hexDigit? a, hexDigit? b, hexDigit? c, hexDigit? d with
  | some a, some b, some c, some d => some (4096 * a + 256 * b + 16 * c + d)
  | _, _, _, _ => none

def shortEscape? (c : Char) : Option Char :=
  match c with
  | '"' => some '"'
  | '\\' => some '\\'
  | '/' => some '/'
  | 'b' => some '\x08'
  | 'f' => some '\x0c'
  | 'n' => some '\n'
  | 'r' => some '\r'
  | 't' => some '\t'
  | _ => none

def isHighSurrogate (unit : Nat) : Bool :=
  0xD800 ≤ unit && unit < 0xDC00

def isLowSurrogate (unit : Nat) : Bool :=
  0xDC00 ≤ unit && unit < 0xE000

-- Halves of surrogate pairs are read only in pairs.
def quotedText : List Char → Option (List Char × List Char)
  | '"' :: rest => some ([], rest)
  | '\\' :: 'u' :: a :: b :: c :: d :: rest =>
    match hexUnit? a b c d with
    | none => none
    | some unit =>
      if isLowSurrogate unit then none
      else if isHighSurrogate unit then
        match rest with
        | '\\' :: 'u' :: e :: f :: g :: h :: after =>
          match hexUnit? e f g h with
          | none => none
          | some low =>
            if isLowSurrogate low then
              (quotedText after).map fun (inside, left) =>
                (Char.ofNat (0x10000 + 0x400 * (unit - 0xD800) + (low - 0xDC00)) :: inside, left)
            else none
        | _ => none
      else (quotedText rest).map fun (inside, left) => (Char.ofNat unit :: inside, left)
  | '\\' :: letter :: rest =>
    match shortEscape? letter with
    | none => none
    | some c => (quotedText rest).map fun (inside, left) => (c :: inside, left)
  | c :: rest =>
    if c = '\\' ∨ c.toNat < 0x20 then none
    else (quotedText rest).map fun (inside, left) => (c :: inside, left)
  | [] => none

def maxSignificand : Nat := 18446744073709551615

def takeDigits (significand taken : Nat) : List Char → Nat × Nat × List Char
  | [] => (significand, taken, [])
  | c :: rest =>
    if Decimal.isDigit c then
      let longer := 10 * significand + (c.toNat - 48)
      if longer ≤ maxSignificand then takeDigits longer (taken + 1) rest
      else (significand, taken, c :: rest)
    else (significand, taken, c :: rest)

-- Exact up to `10 ^ 22`, then the nearest double: the last bit of a number scaled by it may differ
-- from that of the double nearest to the number.
def powerOfTen (exponent : Nat) : Float :=
  Float.ofScientific 1 false exponent

def divideDown (value : Float) (exponent : Nat) : Float :=
  if exponent ≤ 308 then value / powerOfTen exponent
  else if value == 0.0 then value
  else divideDown (value / powerOfTen 308) (exponent - 308)
termination_by exponent

def scale? (significand : Nat) (exponent : Int) : Option Float :=
  let value := significand.toUInt64.toFloat
  if exponent < 0 then some (divideDown value exponent.natAbs)
  else if exponent ≤ 308 then
    let scaled := value * powerOfTen exponent.toNat
    if scaled.isInf then none else some scaled
  else if significand = 0 then some value
  else none

def exponent? (text : List Char) : Option (Int × List Char) :=
  match text with
  | c :: rest =>
    if c = 'e' ∨ c = 'E' then
      let (negative, unsigned) := Decimal.signed rest
      let digits := unsigned.takeWhile Decimal.isDigit
      if digits.isEmpty then none
      else
        let size : Int := Decimal.ofDigits digits
        some (if negative then -size else size, unsigned.dropWhile Decimal.isDigit)
    else some (0, text)
  | [] => some (0, [])

def fraction? (significand : Nat) (text : List Char) : Option (Float × List Char) :=
  let further := text.takeWhile Decimal.isDigit
  let rest := text.dropWhile Decimal.isDigit
  let decimals : Option (Nat × Int × List Char) :=
    match rest with
    | '.' :: after =>
      if after.takeWhile Decimal.isDigit |>.isEmpty then none
      else
        let (longer, taken, left) := takeDigits significand 0 after
        some (longer, further.length - taken, left.dropWhile Decimal.isDigit)
    | _ => some (significand, further.length, rest)
  match decimals with
  | none => none
  | some (significand, shift, rest) =>
    match exponent? rest with
    | none => none
    | some (exponent, left) => (scale? significand (shift + exponent)).map fun value => (value, left)

def number? (text : List Char) : Option (Value × List Char) :=
  let (negative, unsigned) : Bool × List Char := match text with
    | '-' :: rest => (true, rest)
    | _ => (false, text)
  match unsigned with
  | [] => none
  | first :: second =>
    if !Decimal.isDigit first then none
    else if first = '0' && second.head?.any Decimal.isDigit then none
    else
      let (significand, _, rest) := takeDigits 0 0 unsigned
      let whole := match rest with
        | c :: _ => !(Decimal.isDigit c || c == '.' || c == 'e' || c == 'E')
        | [] => true
      if whole then
        let value : Int := if negative then -(significand : Int) else significand
        match Decimal.int64? value with
        | some i =>
          if negative && significand == 0 then some (.float (-0.0), rest) else some (.int i, rest)
        | none =>
          let size := significand.toUInt64.toFloat
          some (.float (if negative then -size else size), rest)
      else
        (fraction? significand rest).map fun (size, left) =>
          (.float (if negative then -size else size), left)

def items (item : List Char → Option (Value × List Char)) :
    Nat → List Char → Option (List Value × List Char)
  | 0, _ => none
  | budget + 1, text =>
    match item text with
    | none => none
    | some (value, left) =>
      match eat ',' left with
      | some next => (items item budget next).map fun (values, rest) => (value :: values, rest)
      | none => (eat ']' left).map fun rest => ([value], rest)

def entries (item : List Char → Option (Value × List Char)) :
    Nat → List (String × Value) → List Char → Option (List (String × Value) × List Char)
  | 0, _, _ => none
  | budget + 1, bound, text =>
    match (eat '"' text).bind quotedText with
    | none => none
    | some (key, afterKey) =>
      match (eat ':' afterKey).bind item with
      | none => none
      | some (value, left) =>
        let bound := Entries.insert (String.ofList key) value bound
        match eat ',' left with
        | some next => entries item budget bound next
        | none => (eat '}' left).map fun rest => (bound, rest)

def word? (word : List Char) (value : Value) (text : List Char) : Option (Value × List Char) :=
  if word.isPrefixOf text then some (value, text.drop word.length) else none

def value? (budget levels : Nat) (text : List Char) : Option (Value × List Char) :=
  match skipBlank text with
  | [] => none
  | '"' :: rest =>
    (quotedText rest).map fun (inside, left) => (.string (String.ofList inside), left)
  | '[' :: rest =>
    match levels with
    | 0 => none
    | inner + 1 =>
      match eat ']' rest with
      | some left => some (.array [], left)
      | none => (items (value? budget inner) budget rest).map fun (values, left) => (.array values, left)
  | '{' :: rest =>
    match levels with
    | 0 => none
    | inner + 1 =>
      match eat '}' rest with
      | some left => some (.map [], left)
      | none => (entries (value? budget inner) budget [] rest).map fun (bound, left) => (.map bound, left)
  | 'n' :: rest => word? ['u', 'l', 'l'] .null rest
  | 't' :: rest => word? ['r', 'u', 'e'] (.bool true) rest
  | 'f' :: rest => word? ['a', 'l', 's', 'e'] (.bool false) rest
  | token => number? token

def readWithin? (levels : Nat) (text : String) : Option Value :=
  let characters := text.toList
  match value? characters.length levels characters with
  | some (value, left) => if (skipBlank left).isEmpty then some value else none
  | none => none

def read? (text : String) : Option Value :=
  readWithin? maxNesting text

abbrev Reader : Type :=
  String → Except String Value

def read : Reader := fun text =>
  match read? text with
  | some value => .ok value
  | none => .error "not a JSON text"

end Stencil.Json
