import Stencil.Text.CaseMap
import Stencil.Text.Cased

set_option autoImplicit false

namespace Stencil.Text

def Shift.moves (shift : Shift) (point : Nat) : Bool :=
  shift.first ≤ point && point ≤ shift.last && (point - shift.first) % shift.step == 0

def mapCase (shifts : List Shift) (expansions : List (Nat × List Nat)) (c : Char) : List Char :=
  match expansions.lookup c.toNat with
  | some points => points.map Char.ofNat
  | none =>
    match shifts.find? (·.moves c.toNat) with
    | some shift => [Char.ofNat (c.toNat + shift.distance).toNat]
    | none => [c]

def upper (text : List Char) : List Char :=
  text.flatMap (mapCase upperShifts upperExpansions)

def meetsCased (text : List Char) : Bool :=
  match text.dropWhile caseIgnorable.contains with
  | c :: _ => cased.contains c
  | [] => false

-- `before` is what stands in front of the text, reversed.
def lowerAfter (before : List Char) : List Char → List Char
  | [] => []
  | c :: rest =>
    let mapped :=
      if c = 'Σ' then
        -- A sigma is final after a cased character and not before one.
        if meetsCased before && !meetsCased rest then ['ς'] else ['σ']
      else mapCase lowerShifts lowerExpansions c
    mapped ++ lowerAfter (c :: before) rest

def lower (text : List Char) : List Char :=
  lowerAfter [] text

end Stencil.Text
