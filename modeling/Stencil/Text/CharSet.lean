set_option autoImplicit false

namespace Stencil

-- The increasing code points at which membership changes; code point 0 starts outside.
structure CharSet where
  changes : List Nat

namespace CharSet

def memberFrom (inside : Bool) (point : Nat) : List Nat → Bool
  | [] => inside
  | change :: rest => if point < change then inside else memberFrom (!inside) point rest

def contains (set : CharSet) (c : Char) : Bool :=
  memberFrom false c.toNat set.changes

end CharSet

end Stencil
