import Stencil.Value

set_option autoImplicit false

namespace Stencil

def nearestFloat (i : Int64) : Float :=
  Float.ofInt i.toInt

def orderFloats (a b : Float) : Option Ordering :=
  if a < b then some .lt
  else if b < a then some .gt
  else if a == b then some .eq
  else none

namespace Value

mutual

def equal : Value → Value → Bool
  | .null, .null => true
  | .bool a, .bool b => a == b
  | .int a, .int b => a == b
  | .int a, .float b => nearestFloat a == b
  | .float a, .int b => nearestFloat b == a
  | .float a, .float b => a == b
  | .string a, .string b => a == b
  | .array xs, .array ys => equalItems xs ys
  | .map xs, .map ys => equalEntries xs ys
  | .function f, .function g => f == g
  | _, _ => false

def equalItems : List Value → List Value → Bool
  | [], [] => true
  | x :: xs, y :: ys => equal x y && equalItems xs ys
  | _, _ => false

def equalEntries : List (String × Value) → List (String × Value) → Bool
  | [], [] => true
  | (key, x) :: xs, (other, y) :: ys => key == other && equal x y && equalEntries xs ys
  | _, _ => false

end

mutual

def order : Value → Value → Option Ordering
  | .int a, .int b => some (compare a.toInt b.toInt)
  | .int a, .float b => orderFloats (nearestFloat a) b
  | .float a, .int b => orderFloats a (nearestFloat b)
  | .float a, .float b => orderFloats a b
  | .string a, .string b => some (compare a b)
  | .bool a, .bool b => some (compare a b)
  | .array xs, .array ys => orderItems xs ys
  | _, _ => none

def orderItems : List Value → List Value → Option Ordering
  | [], [] => some .eq
  | [], _ :: _ => some .lt
  | _ :: _, [] => some .gt
  | x :: xs, y :: ys =>
    match order x y with
    | some .eq => orderItems xs ys
    | decided => decided

end

end Value

end Stencil
