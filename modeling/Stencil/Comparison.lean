import Stencil.Error
import Stencil.Value.Order

set_option autoImplicit false

namespace Stencil

inductive Comparison where
  | gt
  | lt
  | eq
  | ge
  | le
  | ne
deriving DecidableEq

namespace Comparison

def ofSymbol? (symbol : String) : Option Comparison :=
  match symbol with
  | ">" => some .gt
  | "<" => some .lt
  | "==" => some .eq
  | ">=" => some .ge
  | "<=" => some .le
  | "!=" => some .ne
  | _ => none

def ordered (lhs rhs : Value) : Except Error Ordering :=
  match lhs.order rhs with
  | some ordering => .ok ordering
  | none => .error (.incomparable lhs.kind rhs.kind)

def holds (comparison : Comparison) (lhs rhs : Value) : Except Error Bool :=
  match comparison with
  | .eq => .ok (lhs.equal rhs)
  | .ne => .ok (!lhs.equal rhs)
  | .gt => (ordered lhs rhs).map (· == .gt)
  | .lt => (ordered lhs rhs).map (· == .lt)
  | .ge => (ordered lhs rhs).map (· != .lt)
  | .le => (ordered lhs rhs).map (· != .gt)

end Comparison

end Stencil
