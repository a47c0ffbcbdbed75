import Stencil.Decimal.Numeral
import Stencil.Text.Alphanumeric
import Stencil.Text.Blank
import Stencil.Value.Text

set_option autoImplicit false

namespace Stencil.Literal

-- How deeply values may stand inside each other, a scalar and a key counting as one level.
def maxNesting : Nat := 64

def eat (wanted : Char) (text : List Char) : Option (List Char) :=
  match Text.skipBlank text with
  | c :: rest => if c = wanted then some rest else none
  | [] => none

def escaped (c : Char) : List Char :=
  match c with
  | 'n' => ['\n']
  | 't' => ['\t']
  | 'r' => ['\r']
  | '0' => ['\x00']
  | '\\' => ['\\']
  | '\'' => ['\'']
  | '"' => ['"']
  | _ => ['\\', c]

def quotedText (quote : Char) : List Char → Option (List Char × List Char)
  | [] => none
  | c :: rest =>
    if c = quote then some ([], rest)
    else if c = '\\' then
      match rest with
      | [] => none
      | d :: after => (quotedText quote after).map fun (inside, left) => (escaped d ++ inside, left)
    else (quotedText quote rest).map fun (inside, left) => (c :: inside, left)

def continuesNumber (last : Option Char) (c : Char) : Bool :=
  Decimal.isDigit c || c == '.' || c == '_' || c == 'e' || c == 'E' ||
    ((c == '-' || c == '+') && (last.isNone || last == some 'e' || last == some 'E'))

def numberToken (last : Option Char) : List Char → List Char × List Char
  | [] => ([], [])
  | c :: rest =>
    if continuesNumber last c then
      let token := numberToken (some c) rest
      (c :: token.1, token.2)
    else ([], c :: rest)

def numberValue? (token : List Char) : Option Value :=
  if token.getLast? == some '_' then none
  else
    let plain := token.filter (· != '_')
    match (Decimal.readInt? plain).bind Decimal.int64? with
    | some i => some (.int i)
    | none =>
      if plain.any Decimal.isDigit then
        (Decimal.Numeral.read? plain).map fun numeral => .float numeral.toFloat
      else none

def isWordChar (c : Char) : Bool :=
  Text.alphanumeric.contains c || c == '_'

def wordValue? (word : String) : Option Value :=
  match word with
  | "True" => some (.bool true)
  | "true" => some (.bool true)
  | "False" => some (.bool false)
  | "false" => some (.bool false)
  | "None" => some .null
  | "null" => some .null
  | _ => none

def key? : Value → Option String
  | .string s => some s
  | .int i => some (Value.int i).text
  | .float x => some (Value.float x).text
  | .bool b => some (Value.bool b).text
  | _ => none

-- Items up to `close`, with commas between them and one allowed after the last. The flag says whether
-- there was one; `comma` says whether one has just been passed. Every item takes at least one character,
-- so a budget as long as the text is never used up.
def items (item : List Char → Option (Value × List Char)) (close : Char) (comma : Bool) :
    Nat → List Char → Option (List Value × Bool × List Char)
  | 0, _ => none
  | budget + 1, text =>
    match eat close text with
    | some rest => some ([], comma, rest)
    | none =>
      match item text with
      | none => none
      | some (value, left) =>
        match eat ',' left with
        | some next =>
          (items item close true budget next).map fun (values, trailing, rest) =>
            (value :: values, trailing, rest)
        | none => (eat close left).map fun rest => ([value], false, rest)

def entries (item : List Char → Option (Value × List Char)) :
    Nat → List (String × Value) → List Char → Option (List (String × Value) × List Char)
  | 0, _, _ => none
  | budget + 1, bound, text =>
    match eat '}' text with
    | some rest => some (bound, rest)
    | none =>
      match item text with
      | none => none
      | some (key, afterKey) =>
        match key? key, (eat ':' afterKey).bind item with
        | some key, some (value, left) =>
          let bound := Entries.insert key value bound
          match eat ',' left with
          | some next => entries item budget bound next
          | none => (eat '}' left).map fun rest => (bound, rest)
        | _, _ => none

-- Parentheses around one item without a comma are only grouping; all else is a list.
def tuple (values : List Value) (trailing : Bool) : Value :=
  match values, trailing with
  | [value], false => value
  | values, _ => .array values

def value? (budget : Nat) : Nat → List Char → Option (Value × List Char)
  | 0, _ => none
  | levels + 1, text =>
    match Text.skipBlank text with
    | [] => none
    | c :: rest =>
      if c = '\'' ∨ c = '"' then
        (quotedText c rest).map fun (inside, left) => (.string (String.ofList inside), left)
      else if c = '[' then
        (items (value? budget levels) ']' false budget rest).map fun (values, _, left) =>
          (.array values, left)
      else if c = '(' then
        (items (value? budget levels) ')' false budget rest).map fun (values, trailing, left) =>
          (tuple values trailing, left)
      else if c = '{' then
        (entries (value? budget levels) budget [] rest).map fun (bound, left) => (.map bound, left)
      else if Decimal.isDigit c || c == '-' || c == '+' || c == '.' then
        let token := numberToken none (c :: rest)
        (numberValue? token.1).map fun value => (value, token.2)
      else
        let word := (c :: rest).takeWhile isWordChar
        (wordValue? (String.ofList word)).map fun value =>
          (value, (c :: rest).dropWhile isWordChar)

def read? (text : String) : Option Value :=
  let characters := text.toList
  match value? characters.length maxNesting characters with
  | some (value, left) => if (Text.skipBlank left).isEmpty then some value else none
  | none => none

end Stencil.Literal
