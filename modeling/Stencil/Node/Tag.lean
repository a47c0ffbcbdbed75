import Stencil.Error
import Stencil.Fragment
import Stencil.Node

set_option autoImplicit false

namespace Stencil

def Node.ofEach (clean : String) : Except Error Node :=
  match Text.afterFirstBlank clean.toList with
  | [] => .error (.malformed clean .eachWithoutIterable)
  | iterable => .ok (.each (Expr.ofText (String.ofList iterable)) [])

def Node.ofIf (clean : String) : Except Error Node :=
  match (Text.words clean.toList).drop 1 |>.map String.ofList with
  | [lhs] => .ok (.choice ⟨Expr.ofText lhs, none⟩ [] [])
  | [lhs, symbol, rhs] => .ok (.choice ⟨Expr.ofText lhs, some (symbol, Expr.ofText rhs)⟩ [] [])
  | _ => .error (.malformed clean .operandCount)

def Call.withArguments? (call : Call) : List (List Char) → Option Call
  | [] => some call
  | word :: rest =>
    match Text.cutAt '=' word with
    | some ([], _) => none
    | some (key, value) =>
      let argument := (String.ofList key, Expr.ofText (String.ofList value))
      Call.withArguments? { call with kwargs := call.kwargs ++ [argument] } rest
    | none =>
      let argument := Expr.ofText (String.ofList word)
      Call.withArguments? { call with args := call.args ++ [argument] } rest

def Node.ofCall (clean : String) : Except Error Node :=
  match (Text.words clean.toList).drop 1 with
  | [] => .error (.malformed clean .callWithoutName)
  | callee :: arguments =>
    match Call.withArguments? ⟨String.ofList callee, [], []⟩ arguments with
    | some complete => .ok (.call complete)
    | none => .error (.malformed clean .keywordWithoutName)

def hasOpening : List Char → Bool
  | '{' :: '{' :: _ => true
  | '{' :: '%' :: _ => true
  | _ :: rest => hasOpening rest
  | [] => false

def Node.ofFragment (fragment : Fragment) : Except Error Node :=
  match fragment.kind with
  | .text =>
    -- A tag whose delimiter was never closed is plain text.
    if hasOpening fragment.raw.toList then .error (.malformed fragment.raw .unterminatedTag)
    else .ok (.text fragment.clean)
  | .interpolation => .ok (.interpolation (Expr.ofText fragment.clean))
  | .opening =>
    match ((Text.words fragment.clean.toList).head?.map String.ofList).getD "" with
    | "each" => Node.ofEach fragment.clean
    | "if" => Node.ofIf fragment.clean
    | "else" => .ok .elseMark
    | "call" => Node.ofCall fragment.clean
    | _ => .error (.malformed fragment.raw .unknownCommand)
  | .closing => .error (.malformed fragment.raw .unexpectedEnd)

end Stencil
