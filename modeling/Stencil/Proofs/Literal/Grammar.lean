import Stencil.Node

set_option autoImplicit false

namespace Stencil.Literal

def Blanks (text : List Char) : Prop :=
  ∀ c ∈ text, Text.isBlank c = true

def escapeTable : List (Char × Char) :=
  [('n', '\n'), ('t', '\t'), ('r', '\r'), ('0', '\x00'), ('\\', '\\'), ('\'', '\''), ('"', '"')]

inductive Quoted (quote : Char) : List Char → List Char → Prop where
  | nil : Quoted quote [] []
  | plain {c : Char} {inside text : List Char} (notQuote : c ≠ quote) (notEscape : c ≠ '\\')
      (rest : Quoted quote inside text) : Quoted quote (c :: inside) (c :: text)
  | escape {c d : Char} {inside text : List Char} (listed : (c, d) ∈ escapeTable)
      (rest : Quoted quote inside text) : Quoted quote ('\\' :: c :: inside) (d :: text)
  | unknown {c : Char} {inside text : List Char} (notListed : ∀ d, (c, d) ∉ escapeTable)
      (rest : Quoted quote inside text) : Quoted quote ('\\' :: c :: inside) ('\\' :: c :: text)

inductive NumberToken : Option Char → List Char → Prop where
  | nil (last : Option Char) : NumberToken last []
  | cons {last : Option Char} {c : Char} {rest : List Char} (continues : continuesNumber last c = true)
      (more : NumberToken (some c) rest) : NumberToken last (c :: rest)

def BeginsNumber (c : Char) : Prop :=
  Decimal.isDigit c = true ∨ c = '-' ∨ c = '+' ∨ c = '.'

def wordTable : List (String × Value) :=
  [("True", .bool true), ("true", .bool true), ("False", .bool false), ("false", .bool false),
    ("None", .null), ("null", .null)]

inductive KeyText : Value → String → Prop where
  | string (s : String) : KeyText (.string s) s
  | int (i : Int64) : KeyText (.int i) (Value.int i).text
  | float (x : Float) : KeyText (.float x) (Value.float x).text
  | bool (b : Bool) : KeyText (.bool b) (Value.bool b).text

structure Binds (pairs bound : List (String × Value)) : Prop where
  ordered : Entries.Ordered bound
  get? : ∀ key, Entries.get? key bound = Entries.last? key pairs

section Elements

variable {α : Type}

-- Elements with commas between them and perhaps one after the last; the flag says whether there is.
-- Blanks may stand around every element.
inductive Separated (element : List Char → α → Prop) : List Char → List α → Bool → Prop where
  | empty {blanks : List Char} (isBlank : Blanks blanks) : Separated element blanks [] false
  | last {before token after : List Char} {a : α} (blankBefore : Blanks before)
      (denotes : element token a) (blankAfter : Blanks after) :
      Separated element (before ++ token ++ after) [a] false
  | trailing {before token after final : List Char} {a : α} (blankBefore : Blanks before)
      (denotes : element token a) (blankAfter : Blanks after) (blankFinal : Blanks final) :
      Separated element (before ++ token ++ after ++ ',' :: final) [a] true
  | cons {before token after rest : List Char} {a : α} {others : List α} {comma : Bool}
      (blankBefore : Blanks before) (denotes : element token a) (blankAfter : Blanks after)
      (more : Separated element rest others comma) (nonempty : others ≠ []) :
      Separated element (before ++ token ++ after ++ ',' :: rest) (a :: others) comma

end Elements

section Level

variable (item : List Char → Value → Prop)

inductive Entry : List Char → String × Value → Prop where
  | intro {keyToken before after token : List Char} {key value : Value} {name : String}
      (denotesKey : item keyToken key) (named : KeyText key name) (blankBefore : Blanks before)
      (blankAfter : Blanks after) (denotes : item token value) :
      Entry (keyToken ++ before ++ ':' :: (after ++ token)) (name, value)

inductive Form : List Char → Value → Prop where
  | string {quote : Char} {inside text : List Char} (isQuote : quote = '\'' ∨ quote = '"')
      (quoted : Quoted quote inside text) :
      Form (quote :: inside ++ [quote]) (.string (String.ofList text))
  | list {inside : List Char} {values : List Value} {comma : Bool}
      (items : Separated item inside values comma) : Form ('[' :: inside ++ [']']) (.array values)
  | grouping {inside : List Char} {value : Value} (items : Separated item inside [value] false) :
      Form ('(' :: inside ++ [')']) value
  | tuple {inside : List Char} {values : List Value} {comma : Bool}
      (items : Separated item inside values comma)
      (notGrouping : values.length = 1 → comma = true) : Form ('(' :: inside ++ [')']) (.array values)
  | map {inside : List Char} {pairs bound : List (String × Value)} {comma : Bool}
      (entries : Separated (Entry item) inside pairs comma) (binds : Binds pairs bound) :
      Form ('{' :: inside ++ ['}']) (.map bound)
  | number {c : Char} {rest : List Char} {value : Value} (begins : BeginsNumber c)
      (token : NumberToken none (c :: rest)) (denotes : numberValue? (c :: rest) = some value) :
      Form (c :: rest) value
  | word {word : String} {value : Value} (listed : (word, value) ∈ wordTable) :
      Form word.toList value

end Level

def Denotes : Nat → List Char → Value → Prop
  | 0 => fun _ _ => False
  | levels + 1 => Form (Denotes levels)

-- A text is the literal of a value: blanks may stand around it, and there are at most 64 levels.
def Spells (text : String) (value : Value) : Prop :=
  ∃ before token after, text.toList = before ++ token ++ after ∧ Blanks before ∧ Blanks after ∧
    Denotes 64 token value

end Stencil.Literal
