import Stencil.Render
import Stencil.Text.Case

set_option autoImplicit false

namespace Stencil.Builtin

def maxRange : Int64 := 10000

def len : List Value → Except Error Value
  | [.string s] => .ok (.int (Int64.ofNat s.length))
  | [.array items] => .ok (.int (Int64.ofNat items.length))
  | [.map entries] => .ok (.int (Int64.ofNat entries.length))
  | [value] => .error (.raised s!"len() of a {value.kind.name} value")
  | _ => .error (.raised "len() takes exactly one argument")

def onString (name : String) (mapping : List Char → List Char) : List Value → Except Error Value
  | [.string s] => .ok (.string (String.ofList (mapping s.toList)))
  | _ => .error (.raised s!"{name}() takes one string")

theorem toInt_next {next last : Int64} (below : next < last) : (next + 1).toInt = next.toInt + 1 := by
  have less := Int64.lt_iff_toInt_lt.mp below
  have low := Int64.le_toInt next
  have high := Int64.toInt_lt last
  rw [Int64.toInt_add, Int64.toInt_one]
  exact Int.bmod_eq_of_le (by omega) (by omega)

def countUp (last next : Int64) : List Value :=
  if next < last then .int next :: countUp last (next + 1) else []
termination_by (last.toInt - next.toInt).toNat
decreasing_by
  rename_i below
  have less := Int64.lt_iff_toInt_lt.mp below
  rw [toInt_next below]
  omega

-- The length is taken in 64 bits: a difference beyond them counts as the bound that it passes.
def rangeBetween (first last : Int64) : Except Error Value :=
  if maxRange < Int64.ofIntClamp (last.toInt - first.toInt) then
    .error (.raised s!"range() is limited to {maxRange} values")
  else .ok (.array (countUp last first))

def rangeOf : List Int64 → Except Error Value
  | [last] => rangeBetween 0 last
  | [first, last] => rangeBetween first last
  | _ => .error (.raised "range() takes one or two integers")

def range (args : List Value) : Except Error Value :=
  if args.all fun arg => arg.int?.isSome then rangeOf (args.filterMap Value.int?)
  else .error (.raised "range() takes integers")

def functions : List (String × (List Value → Except Error Value)) :=
  [("len", len), ("upper", onString "upper" Text.upper), ("lower", onString "lower" Text.lower),
    ("range", range)]

def host : Host where
  call function args _ :=
    match functions.lookup function.name with
    | some definition => definition args
    | none => .error (.raised s!"{function.name}() is not defined")

def addTo (context : Context) : Context :=
  functions.foldl (fun context entry =>
    if (context.get? entry.1).isSome then context
    else context.insert entry.1 (.function ⟨entry.1⟩)) context

theorem host_call {name : String} {definition : List Value → Except Error Value}
    (listed : (name, definition) ∈ functions) (args : List Value) (kwargs : List (String × Value)) :
    host.call ⟨name⟩ args kwargs = definition args := by
  simp only [functions, List.mem_cons, Prod.mk.injEq, List.not_mem_nil, or_false] at listed
  rcases listed with ⟨rfl, rfl⟩ | ⟨rfl, rfl⟩ | ⟨rfl, rfl⟩ | ⟨rfl, rfl⟩ <;> rfl

theorem get?_addTo (context : Context) (key : String) :
    (addTo context).get? key = (context.get? key).or
      (if key ∈ functions.map Prod.fst then some (.function ⟨key⟩) else none) := by
  rw [addTo]
  generalize functions = table
  induction table generalizing context with
  | nil => exact (Option.or_none).symm
  | cons entry rest ih =>
    rw [List.foldl_cons, ih]
    simp only [List.map_cons, List.mem_cons]
    by_cases bound : (context.get? entry.1).isSome = true
    · rw [if_pos bound]
      obtain ⟨value, held⟩ := Option.isSome_iff_exists.mp bound
      by_cases same : key = entry.1
      · rw [same, held, Option.some_or, Option.some_or]
      · simp only [same, false_or]
    · rw [if_neg bound, Context.get?_insert]
      by_cases same : key = entry.1
      · have unbound := Option.not_isSome_iff_eq_none.mp bound
        simp only [same, unbound, true_or, if_true, Option.some_or, Option.none_or]
      · simp only [same, false_or, if_false]

end Stencil.Builtin
