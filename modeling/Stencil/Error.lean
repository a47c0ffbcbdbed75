import Stencil.Value

set_option autoImplicit false

namespace Stencil

inductive Reason where
  | unterminatedTag
  | unknownCommand
  | eachWithoutIterable
  | operandCount
  | callWithoutName
  | keywordWithoutName
  | strayEnd
  | unexpectedEnd
  | neverClosed
  | tooDeep
  | strayElse
  | secondElse
  | other (text : String)
deriving DecidableEq

def Reason.text : Reason → String
  | .unterminatedTag => "unterminated tag"
  | .unknownCommand => "unknown block command"
  | .eachWithoutIterable => "each expects an iterable"
  | .operandCount => "if expects one operand or \x60lhs op rhs\x60"
  | .callWithoutName => "call expects a callable name"
  | .keywordWithoutName => "keyword argument without a name"
  | .strayEnd => "end without an open block"
  | .unexpectedEnd => "unexpected end"
  | .neverClosed => "block is never closed"
  | .tooDeep => "blocks nested too deeply"
  | .strayElse => "else outside of an if block"
  | .secondElse => "if has more than one else"
  | .other text => text

inductive Conversion where
  | value
  | context
deriving DecidableEq

def Conversion.name : Conversion → String
  | .value => "value"
  | .context => "context"

inductive Error where
  | malformed (fragment : String) (reason : Reason)
  | unresolved (name : String)
  | unknownOperator (symbol : String)
  | notCallable (callee : String)
  | notIterable (source : String) (kind : Kind)
  | incomparable (lhs rhs : Kind)
  | notAnObject (kind : Kind)
  | notData (conversion : Conversion)
  | writeRefused
  | brokenNesting
  | raised (message : String)
deriving DecidableEq

inductive ErrorKind where
  | malformed
  | context
  | operator
  | template
deriving DecidableEq

def ErrorKind.name : ErrorKind → String
  | .malformed => "Syntax"
  | .context => "Context"
  | .operator => "Operator"
  | .template => "Template"

namespace Error

def kind : Error → ErrorKind
  | .malformed .. => .malformed
  | .unresolved .. => .context
  | .unknownOperator .. => .operator
  | _ => .template

def message : Error → String
  | .malformed fragment reason => s!"'{fragment}' seems like invalid syntax ({reason.text})"
  | .unresolved name => s!"Cannot resolve '{name}'."
  | .unknownOperator symbol => s!"'{symbol}' is an invalid operator."
  | .notCallable callee => s!"'{callee}' is not callable"
  | .notIterable source kind => s!"'{source}' ({kind.name}) is not iterable"
  | .incomparable lhs rhs => s!"cannot compare {lhs.name} with {rhs.name}"
  | .notAnObject kind => s!"context must be an object, got {kind.name}"
  | .notData conversion => s!"cannot convert {conversion.name}: a function has no JSON form"
  | .writeRefused => "failed to write rendered output"
  | .brokenNesting => "nesting issues"
  | .raised message => message

end Error

end Stencil
