import Stencil.Value

set_option autoImplicit false

namespace Stencil.Value

mutual

def data? : Value → Option Value
  | .float x => some (if x.isFinite then .float x else .null)
  | .array items => (dataItems? items).map .array
  | .map entries => (dataEntries? entries).map .map
  | .function _ => none
  | value => some value

def dataItems? : List Value → Option (List Value)
  | [] => some []
  | item :: rest =>
    match data? item, dataItems? rest with
    | some item, some rest => some (item :: rest)
    | _, _ => none

def dataEntries? : List (String × Value) → Option (List (String × Value))
  | [] => some []
  | (key, value) :: rest =>
    match data? value, dataEntries? rest with
    | some value, some rest => some ((key, value) :: rest)
    | _, _ => none

end

end Stencil.Value
