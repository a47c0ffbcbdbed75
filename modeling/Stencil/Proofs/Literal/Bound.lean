import Stencil.Proofs.Literal.TextForm

set_option autoImplicit false

namespace Stencil

namespace Value

inductive Functionless : Value → Prop where
  | null : Functionless .null
  | bool (b : Bool) : Functionless (.bool b)
  | int (i : Int64) : Functionless (.int i)
  | float (x : Float) : Functionless (.float x)
  | string (s : String) : Functionless (.string s)
  | array {items : List Value} (all : ∀ item ∈ items, Functionless item) : Functionless (.array items)
  | map {entries : List (String × Value)} (values : ∀ entry ∈ entries, Functionless entry.2) :
      Functionless (.map entries)

structure Within (levels : Nat) (value : Value) : Prop where
  functionless : value.Functionless
  shallow : value.nesting ≤ levels

theorem nesting_items_le {levels : Nat} {items : List Value}
    (bound : ∀ item ∈ items, item.nesting ≤ levels) : nestingItems items ≤ levels := by
  induction items with
  | nil => exact Nat.zero_le levels
  | cons item rest ih =>
    obtain ⟨first, later⟩ := List.forall_mem_cons.mp bound
    exact Nat.max_le.mpr ⟨first, ih later⟩

theorem nesting_entries_le {levels : Nat} {entries : List (String × Value)}
    (bound : ∀ entry ∈ entries, entry.2.nesting ≤ levels) : nestingEntries entries ≤ levels := by
  induction entries with
  | nil => exact Nat.zero_le levels
  | cons entry rest ih =>
    obtain ⟨first, later⟩ := List.forall_mem_cons.mp bound
    exact Nat.max_le.mpr ⟨first, ih later⟩

section Within

variable {levels : Nat}

theorem within_succ {value : Value} (within : value.Within levels) : value.Within (levels + 1) :=
  ⟨within.functionless, Nat.le_succ_of_le within.shallow⟩

theorem within_array {items : List Value} (all : ∀ item ∈ items, item.Within levels) :
    (Value.array items).Within (levels + 1) := by
  refine ⟨.array fun item member => (all item member).functionless, ?_⟩
  exact Nat.succ_le_succ (nesting_items_le fun item member => (all item member).shallow)

theorem within_map {entries : List (String × Value)}
    (values : ∀ entry ∈ entries, entry.2.Within levels) : (Value.map entries).Within (levels + 1) := by
  refine ⟨.map fun entry member => (values entry member).functionless, ?_⟩
  exact Nat.succ_le_succ (nesting_entries_le fun entry member => (values entry member).shallow)

end Within

end Value

namespace Literal

variable {levels : Nat}

theorem separated_members {α : Type} {element : List Char → α → Prop} {text : List Char}
    {elements : List α} {comma : Bool} (separated : Separated element text elements comma) :
    ∀ a ∈ elements, ∃ token, element token a := by
  induction separated with
  | empty isBlank => exact List.forall_mem_nil _
  | last blankBefore denotes blankAfter => exact List.forall_mem_singleton.mpr ⟨_, denotes⟩
  | trailing blankBefore denotes blankAfter blankFinal =>
    exact List.forall_mem_singleton.mpr ⟨_, denotes⟩
  | cons blankBefore denotes blankAfter more nonempty ih =>
    exact List.forall_mem_cons.mpr ⟨⟨_, denotes⟩, ih⟩

theorem number_within {token : List Char} {value : Value} (denotes : numberValue? token = some value) :
    value.Within (levels + 1) := by
  rw [numberValue?] at denotes
  split at denotes
  · cases denotes
  · dsimp only at denotes
    split at denotes
    · cases denotes
      exact ⟨.int _, Nat.succ_pos levels⟩
    · split at denotes
      · obtain ⟨numeral, _, rfl⟩ := Option.map_eq_some_iff.mp denotes
        exact ⟨.float _, Nat.succ_pos levels⟩
      · cases denotes

theorem word_within {word : String} {value : Value} (listed : (word, value) ∈ wordTable) :
    value.Within (levels + 1) := by
  have scalar : ∀ entry ∈ wordTable, entry.2 = .null ∨ ∃ b, entry.2 = .bool b := by
    simp [wordTable]
  rcases scalar _ listed with rfl | ⟨b, rfl⟩
  · exact ⟨.null, Nat.succ_pos levels⟩
  · exact ⟨.bool b, Nat.succ_pos levels⟩

theorem form_within {item : List Char → Value → Prop}
    (within : ∀ token value, item token value → value.Within levels) {token : List Char} {value : Value}
    (form : Form item token value) : value.Within (levels + 1) := by
  have elements : ∀ {inside values comma}, Separated item inside values comma →
      ∀ value ∈ values, value.Within levels := by
    intro inside values comma items value member
    obtain ⟨token, denotes⟩ := separated_members items value member
    exact within token value denotes
  cases form with
  | string isQuote quoted => exact ⟨.string _, Nat.succ_pos levels⟩
  | list items => exact Value.within_array (elements items)
  | grouping items => exact Value.within_succ (elements items value List.mem_cons_self)
  | tuple items notGrouping => exact Value.within_array (elements items)
  | @map inside pairs bound comma entries binds =>
    rw [(binds_iff pairs bound).mp binds]
    refine Value.within_map fun entry member => ?_
    have pair : entry ∈ pairs := (Entries.mem_insertAll member).resolve_right List.not_mem_nil
    obtain ⟨token, denotes⟩ := separated_members entries entry pair
    cases denotes with
    | intro denotesKey named blankBefore blankAfter denotes => exact within _ _ denotes
  | number begins token denotes => exact number_within denotes
  | word listed => exact word_within listed

theorem denotes_within {token : List Char} {value : Value} (denotes : Denotes levels token value) :
    value.Within levels := by
  induction levels generalizing token value with
  | zero => cases denotes
  | succ levels ih => exact form_within (fun token value => ih) denotes

theorem read_within {text : String} {value : Value} (read : read? text = some value) :
    value.Within maxNesting := by
  obtain ⟨before, token, after, _, _, _, denotes⟩ := (read_iff text value).mp read
  exact denotes_within denotes

end Literal

end Stencil
