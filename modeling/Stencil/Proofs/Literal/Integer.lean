import Mathlib.Data.List.TakeWhile
import Stencil.Proofs.Literal.Place
import Stencil.Proofs.Literal.TextForm
import Stencil.Proofs.Value.Position

set_option autoImplicit false

namespace Stencil

namespace Decimal

section Signed

variable {text digits : List Char} {negative : Bool} {number : Nat}

theorem is_digit_iff (c : Char) : isDigit c = true ↔ '0' ≤ c ∧ c ≤ '9' := by
  rw [isDigit, Bool.and_eq_true, decide_eq_true_eq, decide_eq_true_eq]

theorem read_int_signed (parts : signed text = (negative, digits)) (numeral : InDigits digits number) :
    readInt? text = some (if negative then -(number : Int) else number) := by
  rw [readInt?, parts, (read_nat_iff digits number).mpr numeral]
  rfl

theorem read_fraction_signed (parts : signed text = (negative, digits))
    (numeral : InDigits digits number) : Numeral.read? text = some ⟨negative, number, 0⟩ := by
  have all : ∀ c ∈ digits, isDigit c = true := fun c member =>
    (is_digit_iff c).mpr (numeral.digits c member)
  have whole : digits.takeWhile isDigit = digits := List.takeWhile_eq_self_iff.mpr all
  have rest : digits.dropWhile isDigit = [] := List.dropWhile_eq_nil_iff.mpr all
  have nonempty : digits.isEmpty = false := List.isEmpty_eq_false_iff.mpr numeral.nonempty
  have value : ofDigits digits = number := (of_digits_eq digits).trans numeral.value.symm
  simp [Numeral.read?, Numeral.readExponent?, parts, whole, rest, nonempty, value]

theorem digit_of_signed (parts : signed text = (negative, digits)) (numeral : InDigits digits number) :
    text.any isDigit = true := by
  obtain ⟨c, rest, rfl⟩ := List.exists_cons_of_ne_nil numeral.nonempty
  have digit := (is_digit_iff c).mpr (numeral.digits c List.mem_cons_self)
  refine List.any_eq_true.mpr ⟨c, ?_, digit⟩
  unfold signed at parts
  split at parts <;> cases parts
  · exact List.mem_cons_of_mem _ List.mem_cons_self
  · exact List.mem_cons_of_mem _ List.mem_cons_self
  · exact List.mem_cons_self

end Signed

end Decimal

namespace Literal

open Decimal (InDigits)

-- Digits with underscores among them, but not before or after them, and the number that the digits
-- stand for.
structure Grouped (text : List Char) (number : Nat) : Prop where
  first : ∃ c ∈ text.head?, '0' ≤ c ∧ c ≤ '9'
  characters : ∀ c ∈ text, ('0' ≤ c ∧ c ≤ '9') ∨ c = '_'
  last : text.getLast? ≠ some '_'
  digits : InDigits (text.filter (· != '_')) number

inductive Integer : List Char → Int → Prop where
  | unsigned {text : List Char} {number : Nat} (grouped : Grouped text number) : Integer text number
  | positive {text : List Char} {number : Nat} (grouped : Grouped text number) :
      Integer ('+' :: text) number
  | negative {text : List Char} {number : Nat} (grouped : Grouped text number) :
      Integer ('-' :: text) (-number)

inductive HeldAs (n : Int) : Value → Prop where
  | int {i : Int64} (same : i.toInt = n) : HeldAs n (.int i)
  | float (beyond : n < -2 ^ 63 ∨ 2 ^ 63 ≤ n) :
      HeldAs n (.float (Decimal.Numeral.toFloat ⟨decide (n < 0), n.natAbs, 0⟩))

theorem number_value_signed {token digits : List Char} {negative : Bool} {number : Nat} {n : Int}
    (ends : token.getLast? ≠ some '_')
    (parts : Decimal.signed (token.filter (· != '_')) = (negative, digits))
    (numeral : InDigits digits number) (same : n = if negative then -(number : Int) else number) :
    ∃ value, numberValue? token = some value ∧ HeldAs n value := by
  have readInt := Decimal.read_int_signed parts numeral
  rw [← same] at readInt
  rw [numberValue?, if_neg (by simpa using ends)]
  dsimp only
  rw [readInt, Option.bind_some, Decimal.int64?]
  by_cases held : -9223372036854775808 ≤ n ∧ n ≤ 9223372036854775807
  · rw [if_pos held]
    exact ⟨_, rfl, .int (Int64.toInt_ofInt_of_le (by omega) (by omega))⟩
  · rw [if_neg held]
    dsimp only
    rw [if_pos (Decimal.digit_of_signed parts numeral), Decimal.read_fraction_signed parts numeral]
    have sign : negative = decide (n < 0) := by
      cases negative <;> simp at same <;> simp <;> omega
    have size : number = n.natAbs := by
      cases negative <;> simp at same <;> omega
    rw [sign, size]
    exact ⟨_, rfl, .float (by omega)⟩

section Grouped

variable {text : List Char} {number : Nat}

theorem grouped_token (characters : ∀ c ∈ text, ('0' ≤ c ∧ c ≤ '9') ∨ c = '_') (last : Option Char) :
    NumberToken last text := by
  induction text generalizing last with
  | nil => exact .nil last
  | cons c rest ih =>
    obtain ⟨here, later⟩ := List.forall_mem_cons.mp characters
    refine .cons ?_ (ih later (some c))
    rcases here with digit | rfl
    · exact continues_of_digit ((Decimal.is_digit_iff c).mpr digit) last
    · rfl

theorem grouped_digits (grouped : Grouped text number) :
    ∀ c ∈ text.filter (· != '_'), Decimal.isDigit c = true :=
  fun c member => (Decimal.is_digit_iff c).mpr (grouped.digits.digits c member)

theorem signed_ends (grouped : Grouped text number) (sign : Char) :
    (sign :: text).getLast? ≠ some '_' := by
  obtain ⟨c, first, _⟩ := grouped.first
  obtain ⟨rest, rfl⟩ := List.head?_eq_some_iff.mp first
  rw [List.getLast?_cons_cons]
  exact grouped.last

end Grouped

-- What the aggregates around it may hold does not matter to a number.
theorem signed_form {text : List Char} {number : Nat} {sign : Char} {negative : Bool}
    (grouped : Grouped text number) (begins : BeginsNumber sign)
    (parts : Decimal.signed ((sign :: text).filter (· != '_')) =
      (negative, text.filter (· != '_'))) :
    ∃ value, HeldAs (if negative then -(number : Int) else number) value ∧
      ∀ item : List Char → Value → Prop, Form item (sign :: text) value := by
  obtain ⟨value, reads, held⟩ := number_value_signed (signed_ends grouped sign) parts grouped.digits rfl
  have token : NumberToken none (sign :: text) :=
    .cons (continues_of_begins begins) (grouped_token grouped.characters (some sign))
  exact ⟨value, held, fun _ => .number begins token reads⟩

theorem unsigned_form {text : List Char} {number : Nat} (grouped : Grouped text number) :
    ∃ value, HeldAs number value ∧ ∀ item : List Char → Value → Prop, Form item text value := by
  obtain ⟨value, reads, held⟩ := number_value_signed grouped.last
    (Decimal.signed_unsigned (grouped_digits grouped)) grouped.digits rfl
  have token := grouped_token grouped.characters none
  obtain ⟨c, first, digit⟩ := grouped.first
  obtain ⟨rest, rfl⟩ := List.head?_eq_some_iff.mp first
  have begins : BeginsNumber c := .inl ((Decimal.is_digit_iff c).mpr digit)
  exact ⟨value, held, fun _ => .number begins token reads⟩

theorem integer_form {text : List Char} {n : Int} (integer : Integer text n) :
    ∃ value, HeldAs n value ∧ ∀ item : List Char → Value → Prop, Form item text value := by
  cases integer with
  | unsigned grouped => exact unsigned_form grouped
  | positive grouped => exact signed_form grouped (.inr (.inr (.inl rfl))) rfl
  | negative grouped => exact signed_form grouped (.inr (.inl rfl)) rfl

theorem integer_literals {text : String} {n : Int} (integer : Integer text.toList n) :
    ∃ value, HeldAs n value ∧ read? text = some value ∧
      ∀ inner front back whole, Place 64 (inner + 1) front back whole →
        ∀ before after, Blanks before → Blanks after →
          read? (String.ofList (before ++ (front ++ text.toList ++ back) ++ after)) =
            some (whole value) := by
  obtain ⟨value, held, form⟩ := integer_form integer
  refine ⟨value, held, ?_, fun inner front back whole place before after blankBefore blankAfter => ?_⟩
  · have alone : Denotes 64 text.toList value := form (Denotes 63)
    exact (read_iff text value).mpr ⟨[], _, [], by simp, blanks_nil, blanks_nil, alone⟩
  · have inside : Denotes (inner + 1) text.toList value := form (Denotes inner)
    exact (read_iff _ _).mpr ⟨before, _, after, String.toList_ofList, blankBefore, blankAfter,
      denotes_place place inside⟩

theorem grouped_least : Grouped "9_223_372_036_854_775_808".toList 9223372036854775808 where
  first := ⟨'9', by decide, by decide⟩
  characters := by simp
  last := by decide
  digits := ⟨by decide, by simp, by with_unfolding_all rfl⟩

theorem integer_literals_least :
    read? "-9_223_372_036_854_775_808" = some (.int Int64.minValue) ∧
      (∃ x, read? "+9_223_372_036_854_775_808" = some (.float x)) ∧
      read? "[7, {2 : (-9_223_372_036_854_775_808,)} ]" =
        some (.array [.int 7, .map [("2", .array [.int Int64.minValue])]]) := by
  have least : Integer "-9_223_372_036_854_775_808".toList (-9223372036854775808) :=
    .negative grouped_least
  have above : Integer "+9_223_372_036_854_775_808".toList 9223372036854775808 :=
    .positive grouped_least
  have seven : Denotes 63 ['7'] (.int 7) :=
    .number (.inl rfl) (.cons rfl (.nil _)) (by with_unfolding_all rfl)
  have key : Denotes 62 ['2'] (.int 2) :=
    .number (.inl rfl) (.cons rfl (.nil _)) (by with_unfolding_all rfl)
  have named : KeyText (.int 2) "2" := .int 2
  have tuple : Place 62 61 ['('] [',', ')'] fun value => .array [value] :=
    .tuple (.trailing blanks_nil blanks_nil blanks_nil) (fun _ _ => rfl) .here
  have map : Place 63 61 ('{' :: "2 : (".toList) (",)".toList ++ ['}']) fun value =>
      .map [("2", .array [value])] :=
    .map (.last blanks_nil blanks_nil) key named blanks_space blanks_space tuple
      fun value => (binds_iff _ _).mpr rfl
  have list : Place 64 61 ("[7, ".toList ++ '{' :: "2 : (".toList) (",)".toList ++ '}' :: " ]".toList)
      fun value => .array [.int 7, .map [("2", .array [value])]] :=
    .list (.later blanks_nil seven blanks_nil (.last blanks_space blanks_space)) map
  obtain ⟨value, held, reads, places⟩ := integer_literals least
  obtain ⟨other, heldOther, readsOther, _⟩ := integer_literals above
  have smallest : value = .int Int64.minValue := by
    cases held with
    | int same => rw [Int64.toInt_inj.mp (same.trans Int64.toInt_minValue.symm)]
    | float beyond => omega
  subst smallest
  refine ⟨reads, ?_, ?_⟩
  · cases heldOther with
    | @int i same =>
      have below := i.toInt_lt
      omega
    | float _ => exact ⟨_, readsOther⟩
  · exact places 60 _ _ _ list [] [] blanks_nil blanks_nil

end Literal

end Stencil
