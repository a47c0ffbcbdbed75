import Stencil.Decimal.Shortest
import Stencil.Text.Quoted
import Stencil.Value

set_option autoImplicit false

namespace Stencil.Value

mutual

def nested : Value → List Char
  | .null => ['n', 'u', 'l', 'l']
  | .bool true => ['t', 'r', 'u', 'e']
  | .bool false => ['f', 'a', 'l', 's', 'e']
  | .int i => Decimal.written i.toInt
  | .float x => Decimal.ofFloat x
  | .string s => Text.quoted s.toList
  | .array items => '[' :: [',', ' '].intercalate (nestedItems items) ++ [']']
  | .map entries => '{' :: [',', ' '].intercalate (nestedEntries entries) ++ ['}']
  | .function _ => ['<', 'f', 'u', 'n', 'c', 't', 'i', 'o', 'n', '>']

def nestedItems : List Value → List (List Char)
  | [] => []
  | item :: rest => nested item :: nestedItems rest

def nestedEntries : List (String × Value) → List (List Char)
  | [] => []
  | (key, value) :: rest =>
    (Text.quoted key.toList ++ [':', ' '] ++ nested value) :: nestedEntries rest

end

def text : Value → String
  | .null => ""
  | .string s => s
  | value => String.ofList (nested value)

end Stencil.Value
