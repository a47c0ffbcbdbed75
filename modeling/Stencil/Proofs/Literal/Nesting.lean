import Stencil.Proofs.Literal.Reading

set_option autoImplicit false

namespace Stencil.Literal

def Nothing : List Char → Value → Prop :=
  fun _ _ => False

def Scalar (token : List Char) (value : Value) : Prop :=
  Form Nothing token value ∧ ∀ c ∈ token.head?, c ∉ ['[', '(', '{']

-- The literals in which `core` says what may stand inside `depth` aggregates. What stands inside fewer
-- is free.
def Around (core : List Char → Value → Prop) : Nat → List Char → Value → Prop
  | 0 => core
  | depth + 1 => Form (Around core depth)

def SpellsAs (denotes : List Char → Value → Prop) (text : String) (value : Value) : Prop :=
  ∃ before token after, text.toList = before ++ token ++ after ∧ Blanks before ∧ Blanks after ∧
    denotes token value

def WellFormed (text : String) (value : Value) : Prop :=
  ∃ levels, SpellsAs (Denotes levels) text value

def NothingInside (depth : Nat) : String → Value → Prop :=
  SpellsAs (Around Nothing depth)

def AggregatesWithin (depth : Nat) : String → Value → Prop :=
  SpellsAs (Around Scalar depth)

section Mono

variable {item other : List Char → Value → Prop}

theorem separated_mono {α : Type} {element wider : List Char → α → Prop}
    (sub : ∀ token a, element token a → wider token a) {text : List Char} {elements : List α}
    {comma : Bool} (separated : Separated element text elements comma) :
    Separated wider text elements comma := by
  induction separated with
  | empty isBlank => exact .empty isBlank
  | last blankBefore denotes blankAfter => exact .last blankBefore (sub _ _ denotes) blankAfter
  | trailing blankBefore denotes blankAfter blankFinal =>
    exact .trailing blankBefore (sub _ _ denotes) blankAfter blankFinal
  | cons blankBefore denotes blankAfter _ nonempty more =>
    exact .cons blankBefore (sub _ _ denotes) blankAfter more nonempty

theorem entry_mono (sub : ∀ token value, item token value → other token value) (token : List Char)
    (pair : String × Value) (entry : Entry item token pair) : Entry other token pair := by
  cases entry with
  | intro denotesKey named blankBefore blankAfter denotes =>
    exact .intro (sub _ _ denotesKey) named blankBefore blankAfter (sub _ _ denotes)

theorem form_mono (sub : ∀ token value, item token value → other token value) (token : List Char)
    (value : Value) (form : Form item token value) : Form other token value := by
  cases form with
  | string isQuote quoted => exact .string isQuote quoted
  | list items => exact .list (separated_mono sub items)
  | grouping items => exact .grouping (separated_mono sub items)
  | tuple items notGrouping => exact .tuple (separated_mono sub items) notGrouping
  | map entries binds => exact .map (separated_mono (entry_mono sub) entries) binds
  | number begins isToken denotes => exact .number begins isToken denotes
  | word listed => exact .word listed

theorem around_mono (sub : ∀ token value, item token value → other token value) (depth : Nat) :
    ∀ token value, Around item depth token value → Around other depth token value := by
  induction depth with
  | zero => exact sub
  | succ depth ih => exact form_mono ih

theorem around_form (core : List Char → Value → Prop) (depth : Nat) :
    Around core (depth + 1) = Around (Form core) depth := by
  induction depth with
  | zero => rfl
  | succ depth ih => exact congrArg Form ih

theorem denotes_eq_around (levels : Nat) : Denotes levels = Around Nothing levels := by
  induction levels with
  | zero => rfl
  | succ levels ih => exact congrArg Form ih

end Mono

theorem spells_as_mono {denotes wider : List Char → Value → Prop}
    (sub : ∀ token value, denotes token value → wider token value) {text : String} {value : Value}
    (spells : SpellsAs denotes text value) : SpellsAs wider text value := by
  obtain ⟨before, token, after, parts, blankBefore, blankAfter, denotes⟩ := spells
  exact ⟨before, token, after, parts, blankBefore, blankAfter, sub token value denotes⟩

-- A scalar needs a level of its own, an empty aggregate is one.
theorem scalars_below (depth : Nat) : ∀ token value,
    Around Scalar depth token value → Around Nothing (depth + 1) token value := by
  rw [around_form]
  exact around_mono (fun token value scalar => scalar.1) depth

theorem nothing_below (depth : Nat) : ∀ token value,
    Around Nothing depth token value → Around Scalar depth token value :=
  around_mono (fun _ _ none => none.elim) depth

theorem well_formed_of_aggregates {depth : Nat} {text : String} {value : Value}
    (within : AggregatesWithin depth text value) : WellFormed text value := by
  refine ⟨depth + 1, ?_⟩
  rw [denotes_eq_around]
  exact spells_as_mono (scalars_below depth) within

theorem denotes_more {levels : Nat} (further : Nat) {token : List Char} {value : Value}
    (denotes : Denotes levels token value) : Denotes (levels + further) token value := by
  induction further with
  | zero => exact denotes
  | succ further ih =>
    rw [← Nat.add_assoc, denotes_eq_around, around_form]
    rw [denotes_eq_around] at ih
    exact around_mono (fun _ _ none => none.elim) _ token value ih

theorem read_levels {levels : Nat} {token : List Char} {value : Value}
    (denotes : Denotes levels token value) : value? token.length levels token = some (value, []) := by
  have read := value_complete token.length levels [] token value [] (List.forall_mem_nil _) denotes
    (ends_blanks (List.forall_mem_nil _)) (by simp)
  simpa using read

theorem denotes_unique {levels otherLevels : Nat} {token : List Char} {value other : Value}
    (denotes : Denotes levels token value) (denotesOther : Denotes otherLevels token other) :
    value = other := by
  have one := read_levels (denotes_more otherLevels denotes)
  have two := read_levels (denotes_more levels denotesOther)
  rw [Nat.add_comm] at two
  cases one.symm.trans two
  rfl

theorem trim_spelled {levels : Nat} {before token after : List Char} {value : Value}
    (blankBefore : Blanks before) (blankAfter : Blanks after) (denotes : Denotes levels token value) :
    Text.trim (before ++ token ++ after) = token :=
  Text.trim_between blankBefore (denotes_unblank denotes) blankAfter

theorem same_value {levels : Nat} {text : String} {value other : Value}
    (spells : SpellsAs (Denotes levels) text value) (spellsOther : Spells text other) :
    value = other := by
  obtain ⟨before, token, after, parts, blankBefore, blankAfter, denotes⟩ := spells
  obtain ⟨front, piece, back, otherParts, blankFront, blankBack, denotesOther⟩ := spellsOther
  have trimmed := trim_spelled blankBefore blankAfter denotes
  rw [← parts, otherParts, trim_spelled blankFront blankBack denotesOther] at trimmed
  subst trimmed
  exact denotes_unique denotes denotesOther

theorem nesting_limit {text : String} {value : Value} (wellFormed : WellFormed text value) :
    (read? text = some value ↔ NothingInside 64 text value) ∧
      (read? text = none ↔ ¬ NothingInside 64 text value) ∧
      (AggregatesWithin 63 text value → NothingInside 64 text value) ∧
      (NothingInside 64 text value → AggregatesWithin 64 text value) := by
  obtain ⟨levels, spells⟩ := wellFormed
  have reads : read? text = some value ↔ NothingInside 64 text value := by
    rw [read_iff, NothingInside, ← denotes_eq_around]
    rfl
  refine ⟨reads, ?_, spells_as_mono (scalars_below 63), spells_as_mono (nothing_below 64)⟩
  rw [← reads]
  cases found : read? text with
  | none => simp
  | some other =>
    have same := same_value spells ((read_iff text other).mp found)
    simp [same]

def inLists (depth : Nat) (token : List Char) : List Char :=
  List.replicate depth '[' ++ token ++ List.replicate depth ']'

def listsOf : Nat → Value → Value
  | 0, value => value
  | depth + 1, value => .array [listsOf depth value]

theorem around_lists {core : List Char → Value → Prop} {token : List Char} {value : Value}
    (inside : core token value) (depth : Nat) :
    Around core depth (inLists depth token) (listsOf depth value) := by
  induction depth with
  | zero => simpa [inLists, Around, listsOf] using inside
  | succ depth ih =>
    have one := Separated.last (List.forall_mem_nil _) ih (List.forall_mem_nil _)
    have shape : inLists (depth + 1) token = '[' :: ([] ++ inLists depth token ++ []) ++ [']'] := by
      rw [inLists, List.replicate_succ, List.replicate_succ']
      simp [inLists]
    rw [shape]
    exact .list one

theorem spells_of_token {denotes : List Char → Value → Prop} {token : List Char} {value : Value}
    (isToken : denotes token value) : SpellsAs denotes (String.ofList token) value :=
  ⟨[], token, [], by simp, List.forall_mem_nil _, List.forall_mem_nil _, isToken⟩

theorem scalar_one : Scalar ['1'] (.int 1) := by
  have token : NumberToken none ['1'] := .cons rfl (.nil _)
  exact ⟨.number (.inl rfl) token (by with_unfolding_all rfl), by simp⟩

theorem nesting_limit_lists :
    WellFormed (String.ofList (inLists 63 ['1'])) (listsOf 63 (.int 1)) ∧
      read? (String.ofList (inLists 63 ['1'])) = some (listsOf 63 (.int 1)) := by
  have scalars : AggregatesWithin 63 (String.ofList (inLists 63 ['1'])) (listsOf 63 (.int 1)) :=
    spells_of_token (around_lists scalar_one 63)
  have limit := nesting_limit (well_formed_of_aggregates scalars)
  exact ⟨well_formed_of_aggregates scalars, limit.1.mpr (limit.2.2.1 scalars)⟩

-- 64 lists are not too deep, but the number that stands in them takes one level more.
theorem scalar_inside_limit_unread :
    WellFormed (String.ofList (inLists 64 ['1'])) (listsOf 64 (.int 1)) ∧
      AggregatesWithin 64 (String.ofList (inLists 64 ['1'])) (listsOf 64 (.int 1)) ∧
      read? (String.ofList (inLists 64 ['1'])) = none ∧
      ¬ ∀ text value, WellFormed text value →
        ((∃ found, read? text = some found) ↔ AggregatesWithin 64 text value) := by
  have scalars : AggregatesWithin 64 (String.ofList (inLists 64 ['1'])) (listsOf 64 (.int 1)) :=
    spells_of_token (around_lists scalar_one 64)
  have unread : read? (String.ofList (inLists 64 ['1'])) = none :=
    Option.isNone_iff_eq_none.mp (by decide +kernel)
  refine ⟨well_formed_of_aggregates scalars, scalars, unread, fun limit => ?_⟩
  obtain ⟨found, reads⟩ := (limit _ _ (well_formed_of_aggregates scalars)).mpr scalars
  rw [unread] at reads
  cases reads

end Stencil.Literal
