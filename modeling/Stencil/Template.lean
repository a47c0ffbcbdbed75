import Stencil.Node.Tag

set_option autoImplicit false

namespace Stencil

-- How many blocks may be open at once, the root not counted.
def maxOpenBlocks : Nat := 128

structure OpenBlock where
  node : Node
  opener : String

namespace OpenBlock

def start : List OpenBlock :=
  [⟨.root [], ""⟩]

def addChild (node : Node) : List OpenBlock → Except Error (List OpenBlock)
  | [] => .error .brokenNesting
  | block :: outer =>
    match Node.push? node block.node with
    | some grown => .ok ({ block with node := grown } :: outer)
    | none => .error .brokenNesting

def close (raw : String) : List OpenBlock → Except Error (List OpenBlock)
  | block :: around :: outer => addChild block.node.closed (around :: outer)
  | _ => .error (.malformed raw .strayEnd)

def admitElse (raw : String) : List OpenBlock → Except Error Unit
  | ⟨.choice _ children _, _⟩ :: _ =>
    if children.any Node.isElseMark then .error (.malformed raw .secondElse) else .ok ()
  | _ => .error (.malformed raw .strayElse)

def place (raw : String) (stack : List OpenBlock) (node : Node) : Except Error (List OpenBlock) :=
  if node.isElseMark then (admitElse raw stack).bind fun _ => addChild node stack
  else if node.opensScope then
    if maxOpenBlocks < stack.length then .error (.malformed raw .tooDeep)
    else .ok (⟨node, raw⟩ :: stack)
  else addChild node stack

def step (stack : List OpenBlock) (fragment : Fragment) : Except Error (List OpenBlock) :=
  if fragment.kind = .closing then close fragment.raw stack
  else (Node.ofFragment fragment).bind (place fragment.raw stack)

def finish : List OpenBlock → Except Error Node
  | [root] => .ok root.node
  | innermost :: _ => .error (.malformed innermost.opener .neverClosed)
  | [] => .error .brokenNesting

end OpenBlock

def Node.ofFragments (fragments : List Fragment) : Except Error Node :=
  (fragments.foldlM OpenBlock.step OpenBlock.start).bind OpenBlock.finish

structure Template where
  source : String
  root : Node

def Template.compile (source : String) : Except Error Template :=
  (Node.ofFragments (fragments source)).map fun root => ⟨source, root⟩

end Stencil
