import Mathlib.Data.List.Induction
import Mathlib.Data.Nat.Digits.Defs
import Stencil.Proofs.Scope.Path

set_option autoImplicit false

namespace Stencil

namespace Decimal

structure InDigits (text : List Char) (value : Nat) : Prop where
  nonempty : text ≠ []
  digits : ∀ c ∈ text, '0' ≤ c ∧ c ≤ '9'
  value : value = Nat.ofDigits 10 (text.reverse.map fun c => c.toNat - '0'.toNat)

theorem of_digits_eq (text : List Char) :
    ofDigits text = Nat.ofDigits 10 (text.reverse.map fun c => c.toNat - '0'.toNat) := by
  induction text using List.reverseRecOn with
  | nil => rfl
  | append_singleton text c ih =>
    rw [ofDigits, List.foldl_append, ← ofDigits, ih, List.reverse_append, List.reverse_singleton,
      List.singleton_append, List.map_cons, Nat.ofDigits_cons]
    exact Nat.add_comm _ _

theorem read_nat_iff (text : List Char) (value : Nat) :
    readNat? text = some value ↔ InDigits text value := by
  rw [readNat?]
  constructor
  · intro read
    split at read
    · cases read
    · rename_i numeral
      cases read
      simp [isDigit] at numeral
      exact ⟨numeral.1, numeral.2, of_digits_eq text⟩
  · intro numeral
    have digits : text.all isDigit = true := by
      rw [List.all_eq_true]
      intro c member
      simpa [isDigit] using numeral.digits c member
    rw [List.isEmpty_eq_false_iff.mpr numeral.nonempty, digits, numeral.value, ← of_digits_eq]
    rfl

inductive Position : List Char → Nat → Prop where
  | unsigned {text : List Char} {value : Nat} (numeral : InDigits text value) : Position text value
  | signed {text : List Char} {value : Nat} (numeral : InDigits text value) :
      Position ('+' :: text) value

theorem position_unsigned {text : List Char} (noSign : text.head? ≠ some '+') (value : Nat) :
    Position text value ↔ InDigits text value := by
  constructor
  · intro position
    cases position with
    | unsigned numeral => exact numeral
    | signed numeral => exact absurd rfl noSign
  · exact .unsigned

theorem position_signed (text : List Char) (value : Nat) :
    Position ('+' :: text) value ↔ InDigits text value := by
  constructor
  · intro position
    cases position with
    | unsigned numeral => exact absurd (numeral.digits '+' List.mem_cons_self) (by decide)
    | signed numeral => exact numeral
  · exact .signed

theorem read_position_iff (text : List Char) (value : Nat) :
    readPosition? text = some value ↔ Position text value := by
  unfold readPosition?
  split
  · rw [position_signed, read_nat_iff]
  · rename_i noSign
    rw [position_unsigned, read_nat_iff]
    intro first
    obtain ⟨rest, rfl⟩ := List.head?_eq_some_iff.mp first
    exact noSign rest rfl

end Decimal

open Decimal (InDigits Position)

structure Indexes (items : List Value) (segment name : String) (found : Except Error Value) : Prop where
  item : ∀ value, found = .ok value ↔
    ∃ position, Position segment.toList position ∧ items[position]? = some value
  absent : ∀ error, found = .error error ↔
    error = .unresolved name ∧ ¬ ∃ position < items.length, Position segment.toList position

theorem attribute_array (items : List Value) (segment : String) (value : Value) :
    (Value.array items).attribute? segment = some value ↔
      ∃ position, Position segment.toList position ∧ items[position]? = some value := by
  simp only [Value.attribute?, Option.bind_eq_some_iff, Decimal.read_position_iff]

theorem no_item_iff (items : List Value) (segment : String) :
    (¬ ∃ value, (Value.array items).attribute? segment = some value) ↔
      ¬ ∃ position < items.length, Position segment.toList position := by
  refine not_congr ⟨?_, ?_⟩
  · rintro ⟨value, reached⟩
    obtain ⟨position, names, item⟩ := (attribute_array items segment value).mp reached
    exact ⟨position, (List.getElem?_eq_some_iff.mp item).1, names⟩
  · rintro ⟨position, inside, names⟩
    refine ⟨items[position], (attribute_array items segment _).mpr ⟨position, names, ?_⟩⟩
    exact List.getElem?_eq_getElem inside

section Paths

variable {scope : Scope} {name segment : String} {items : List Value}

theorem indexes_of_find
    (last : scope.find? (Path.ofName name) = (Value.array items).attribute? segment) :
    Indexes items segment name (scope.resolve name) where
  item value := by
    rw [Scope.resolve_ok_iff, last, attribute_array]
  absent error := by
    rw [Scope.resolve_error_iff, last, ← no_item_iff, and_comm, Option.eq_none_iff_forall_ne_some]
    simp only [not_exists, ne_eq]

theorem indexes_last (notDot : name ≠ ".") (undotted : '.' ∉ segment.toList)
    (array : scope.resolve name = .ok (.array items)) :
    Indexes items segment (name ++ "." ++ segment) (scope.resolve (name ++ "." ++ segment)) := by
  apply indexes_of_find
  rw [Scope.find_segment scope notDot undotted, (Scope.resolve_ok_iff scope name _).mp array,
    Option.bind_some]

theorem indexes_escaped {context : Context} (undotted : '.' ∉ segment.toList)
    (array : context.get? ".." = some (.array items)) :
    Indexes items segment (".." ++ segment) ((Scope.root context).resolve (".." ++ segment)) := by
  apply indexes_of_find
  have shape : (".." ++ segment).toList = '.' :: '.' :: segment.toList := by simp
  rw [Path.of_name_escaped shape, Path.of_segments_single true undotted, Scope.find?]
  simp only [List.foldl_nil, if_true, Scope.lookupOutside?, array, Option.bind_some]

end Paths

/-- The items of an array are found at the segments that are numerals of digits, whatever their length,
and at those with a plus sign before one; at every other segment a path ends without a value. -/
theorem array_positions (items : List Value) (segment : String) :
    (∀ value, (Value.array items).attribute? segment = some value ↔
      ∃ position, Position segment.toList position ∧ items[position]? = some value) ∧
    (∀ (scope : Scope) (name : String), name ≠ "." → '.' ∉ segment.toList →
      scope.resolve name = .ok (.array items) →
      Indexes items segment (name ++ "." ++ segment) (scope.resolve (name ++ "." ++ segment))) ∧
    (∀ context : Context, '.' ∉ segment.toList → context.get? ".." = some (.array items) →
      Indexes items segment (".." ++ segment) ((Scope.root context).resolve (".." ++ segment))) ∧
    (segment.toList.head? ≠ some '+' → ∀ position,
      Position segment.toList position ↔ InDigits segment.toList position) :=
  ⟨attribute_array items segment, fun _ _ => indexes_last, fun _ => indexes_escaped,
    Decimal.position_unsigned⟩

-- The second numeral is `2 ^ 64`, which 64 bits would take for zero.
theorem array_positions_long :
    let items := [Value.int 10, Value.int 20]
    let scope := Scope.root ⟨[("..", .array items), ("xs", .array items)]⟩
    scope.resolve ("xs" ++ "." ++ "0001") = .ok (.int 20) ∧
      scope.resolve ("xs" ++ "." ++ "18446744073709551616") =
        .error (.unresolved "xs.18446744073709551616") ∧
      scope.resolve (".." ++ "0001") = .ok (.int 20) := by
  intro items scope
  have array : scope.resolve "xs" = .ok (.array items) := by with_unfolding_all rfl
  have one : InDigits "0001".toList 1 := ⟨by decide, by simp, by with_unfolding_all rfl⟩
  have second : ∃ position, Position "0001".toList position ∧ items[position]? = some (.int 20) :=
    ⟨1, .unsigned one, rfl⟩
  obtain ⟨_, paths, escaped, _⟩ := array_positions items "0001"
  refine ⟨?_, ?_, ?_⟩
  · exact ((paths scope "xs" (by decide) (by decide) array).item _).mpr second
  · obtain ⟨_, paths, _, unsigned⟩ := array_positions items "18446744073709551616"
    refine ((paths scope "xs" (by decide) (by decide) array).absent _).mpr ⟨rfl, ?_⟩
    rintro ⟨position, inside, names⟩
    have numeral := (unsigned (by decide) position).mp names
    have large : position = 18446744073709551616 := numeral.value.trans (by with_unfolding_all rfl)
    rw [large] at inside
    exact absurd inside (by decide)
  · exact ((escaped ⟨[("..", .array items), ("xs", .array items)]⟩ (by decide) rfl).item _).mpr second

theorem plus_sign_positions :
    (Value.array [.int 10, .int 20]).attribute? "+1" = some (.int 20) ∧
      ¬ ∀ items segment value, '.' ∉ segment.toList →
        ((Value.array items).attribute? segment = some value ↔
          ∃ position, InDigits segment.toList position ∧ items[position]? = some value) := by
  have reached : (Value.array [.int 10, .int 20]).attribute? "+1" = some (.int 20) := by
    with_unfolding_all rfl
  refine ⟨reached, fun all => ?_⟩
  obtain ⟨position, numeral, _⟩ := (all _ "+1" _ (by decide)).mp reached
  exact absurd (numeral.digits '+' (by decide)) (by decide)

end Stencil
