import Stencil.Decimal.Numeral
import Stencil.Entries

set_option autoImplicit false

namespace Stencil

-- A handle for a function of the embedding program; two functions are the same when their names are.
structure Function where
  name : String
deriving DecidableEq

inductive Value where
  | null
  | bool (b : Bool)
  | int (i : Int64)
  | float (x : Float)
  | string (s : String)
  | array (items : List Value)
  | map (entries : List (String × Value))
  | function (f : Function)

inductive Kind where
  | null
  | bool
  | int
  | float
  | string
  | array
  | map
  | function
deriving DecidableEq

def Kind.name : Kind → String
  | .null => "null"
  | .bool => "bool"
  | .int => "int"
  | .float => "float"
  | .string => "string"
  | .array => "array"
  | .map => "map"
  | .function => "function"

namespace Value

def kind : Value → Kind
  | .null => .null
  | .bool _ => .bool
  | .int _ => .int
  | .float _ => .float
  | .string _ => .string
  | .array _ => .array
  | .map _ => .map
  | .function _ => .function

def isTruthy : Value → Bool
  | .null => false
  | .bool b => b
  | .int i => i != 0
  | .float x => x != 0.0
  | .string s => !s.isEmpty
  | .array items => !items.isEmpty
  | .map entries => !entries.isEmpty
  | .function _ => true

def int? : Value → Option Int64
  | .int i => some i
  | _ => none

def attribute? (segment : String) : Value → Option Value
  | .map entries => Entries.get? segment entries
  | .array items => (Decimal.readPosition? segment.toList).bind fun position => items[position]?
  | _ => none

def loopItems? : Value → Option (List Value)
  | .array items => some items
  | .map entries => some (entries.map fun entry => .string entry.1)
  | .string s => some (s.toList.map fun c => .string (String.singleton c))
  | _ => none

end Value

end Stencil
