import Stencil.Node

set_option autoImplicit false

namespace Stencil.Node

def childLists : Node → List (List Node)
  | .root children => [children]
  | .each _ body => [body]
  | .choice _ thenBranch elseBranch => [thenBranch, elseBranch]
  | _ => []

inductive Occurs (tree : Node) : Node → Prop where
  | itself : Occurs tree tree
  | inside {parent node : Node} {siblings : List Node} (occurs : Occurs tree parent)
      (list : siblings ∈ parent.childLists) (member : node ∈ siblings) : Occurs tree node

end Stencil.Node
