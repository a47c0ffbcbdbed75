import Stencil.Proofs.Literal.Grammar

set_option autoImplicit false

namespace Stencil.Literal

def separators : List Char :=
  [',', ':', ']', ')', '}']

def openings : List Char :=
  ['\'', '"', '[', '(', '{']

def IsEnd (c : Char) : Prop :=
  Text.isBlank c = true ∨ c ∈ separators

def inNumber (c : Char) : Bool :=
  Decimal.isDigit c || c == '.' || c == '_' || c == 'e' || c == 'E' || c == '-' || c == '+'

theorem continues_in_number {last : Option Char} {c : Char} (continues : continuesNumber last c = true) :
    inNumber c = true := by
  simp only [continuesNumber, inNumber, Bool.or_eq_true, Bool.and_eq_true] at continues ⊢
  rcases continues with inside | ⟨minus | plus, _⟩
  · exact .inl (.inl inside)
  · exact .inl (.inr minus)
  · exact .inr plus

def blankPoints : List Nat :=
  [0x09, 0x0A, 0x0B, 0x0C, 0x0D, 0x20, 0x85, 0xA0, 0x1680, 0x2000, 0x2001, 0x2002, 0x2003, 0x2004, 0x2005,
    0x2006, 0x2007, 0x2008, 0x2009, 0x200A, 0x2028, 0x2029, 0x202F, 0x205F, 0x3000]

theorem blank_point {c : Char} (blank : Text.isBlank c = true) : c.toNat ∈ blankPoints := by
  simp only [Text.isBlank, Bool.or_eq_true, Bool.and_eq_true, decide_eq_true_eq, beq_iff_eq] at blank
  simp only [blankPoints, List.mem_cons, List.not_mem_nil, or_false]
  omega

-- Blanks and separators are few, so the tables of word characters are asked about each of them.
theorem end_points : ∀ point ∈ blankPoints ++ separators.map Char.toNat,
    isWordChar (Char.ofNat point) = false ∧ inNumber (Char.ofNat point) = false := by
  decide +kernel

theorem end_in_no_token {c : Char} (isEnd : IsEnd c) : isWordChar c = false ∧ inNumber c = false := by
  have member : c.toNat ∈ blankPoints ++ separators.map Char.toNat := by
    rcases isEnd with blank | separator
    · exact List.mem_append_left _ (blank_point blank)
    · exact List.mem_append_right _ (List.mem_map_of_mem separator)
  have both := end_points c.toNat member
  rwa [Char.ofNat_toNat] at both

def Ends (left : List Char) : Prop :=
  ∀ c ∈ left.head?, IsEnd c

theorem ends_after {after rest : List Char} {c : Char} (blankAfter : Blanks after)
    (separator : c ∈ separators) : Ends (after ++ c :: rest) := by
  intro d first
  cases after with
  | nil =>
    cases first
    exact .inr separator
  | cons blank more =>
    cases first
    exact .inl (blankAfter _ List.mem_cons_self)

theorem ends_blanks {after : List Char} (blankAfter : Blanks after) : Ends after := by
  intro c first
  exact .inl (blankAfter c (List.mem_of_head? first))

def Begins {α : Type} (element : List Char → α → Prop) : Prop :=
  ∀ token a, element token a → ∃ c rest, token = c :: rest ∧ ¬ IsEnd c

theorem words_shape {word : String} {value : Value} (listed : (word, value) ∈ wordTable) :
    ∃ c rest, word.toList = c :: rest ∧ c ∉ openings ∧ ¬ BeginsNumber c ∧
      word.toList.all isWordChar = true := by
  simp only [wordTable, List.mem_cons, Prod.mk.injEq, List.not_mem_nil, or_false] at listed
  rcases listed with ⟨rfl, _⟩ | ⟨rfl, _⟩ | ⟨rfl, _⟩ | ⟨rfl, _⟩ | ⟨rfl, _⟩ | ⟨rfl, _⟩ <;>
    exact ⟨_, _, rfl, by decide, by rw [BeginsNumber]; decide, by decide +kernel⟩

theorem begins_in_number {c : Char} (begins : BeginsNumber c) : inNumber c = true := by
  rcases begins with digit | rfl | rfl | rfl
  · simp [inNumber, digit]
  · rfl
  · rfl
  · rfl

theorem not_end_of_in_number {c : Char} (inside : inNumber c = true) : ¬ IsEnd c := by
  intro isEnd
  rw [(end_in_no_token isEnd).2] at inside
  cases inside

theorem not_blank_of_not_end {c : Char} (notEnd : ¬ IsEnd c) : Text.isBlank c = false := by
  cases isBlank : Text.isBlank c with
  | true => exact absurd (.inl isBlank) notEnd
  | false => rfl

theorem form_begins (item : List Char → Value → Prop) : Begins (Form item) := by
  have opening : ∀ c ∈ openings, ¬ IsEnd c := by
    intro c opens
    rw [IsEnd]
    simp only [openings, List.mem_cons, List.not_mem_nil, or_false] at opens
    rcases opens with rfl | rfl | rfl | rfl | rfl <;> decide
  intro token value form
  cases form with
  | string isQuote quoted =>
    rcases isQuote with rfl | rfl
    · exact ⟨_, _, rfl, opening _ (by decide)⟩
    · exact ⟨_, _, rfl, opening _ (by decide)⟩
  | list items => exact ⟨_, _, rfl, opening _ (by decide)⟩
  | grouping items => exact ⟨_, _, rfl, opening _ (by decide)⟩
  | tuple items notGrouping => exact ⟨_, _, rfl, opening _ (by decide)⟩
  | map entries => exact ⟨_, _, rfl, opening _ (by decide)⟩
  | number begins token denotes => exact ⟨_, _, rfl, not_end_of_in_number (begins_in_number begins)⟩
  | word listed =>
    obtain ⟨c, rest, shape, _, _, inWord⟩ := words_shape listed
    refine ⟨c, rest, shape, fun isEnd => ?_⟩
    rw [shape, List.all_cons, (end_in_no_token isEnd).1] at inWord
    cases inWord

theorem token_in_number {last : Option Char} {token : List Char} (number : NumberToken last token) :
    ∀ c ∈ token, inNumber c = true := by
  induction number with
  | nil last => exact List.forall_mem_nil _
  | cons continues more ih => exact List.forall_mem_cons.mpr ⟨continues_in_number continues, ih⟩

theorem word_unblank {word : String} {value : Value} (listed : (word, value) ∈ wordTable) :
    ∀ c ∈ word.toList, Text.isBlank c = false := by
  obtain ⟨_, _, _, _, _, inWord⟩ := words_shape listed
  intro c member
  apply not_blank_of_not_end
  intro isEnd
  have isWord := List.all_eq_true.mp inWord c member
  rw [(end_in_no_token isEnd).1] at isWord
  cases isWord

theorem form_last {item : List Char → Value → Prop} {token : List Char} {value : Value}
    (form : Form item token value) : ∀ c ∈ token.getLast?, Text.isBlank c = false := by
  have enclosed : ∀ (opening closing : Char) (inside : List Char), Text.isBlank closing = false →
      ∀ c ∈ (opening :: inside ++ [closing]).getLast?, Text.isBlank c = false := by
    intro opening closing inside visible c ends
    rw [List.getLast?_concat] at ends
    cases ends
    exact visible
  cases form with
  | string isQuote quoted =>
    rcases isQuote with rfl | rfl
    · exact enclosed _ _ _ rfl
    · exact enclosed _ _ _ rfl
  | list items => exact enclosed _ _ _ rfl
  | grouping items => exact enclosed _ _ _ rfl
  | tuple items notGrouping => exact enclosed _ _ _ rfl
  | map entries => exact enclosed _ _ _ rfl
  | number begins token denotes =>
    intro c ends
    have inside := token_in_number token c (List.mem_of_getLast? ends)
    exact not_blank_of_not_end (not_end_of_in_number inside)
  | word listed => exact fun c ends => word_unblank listed c (List.mem_of_getLast? ends)

theorem denotes_begins (levels : Nat) : Begins (Denotes levels) := by
  cases levels with
  | zero =>
    intro token value none
    cases none
  | succ levels => exact form_begins (Denotes levels)

theorem denotes_unblank {levels : Nat} {token : List Char} {value : Value}
    (denotes : Denotes levels token value) : Text.NoOuterBlank token := by
  obtain ⟨c, rest, rfl, notEnd⟩ := denotes_begins levels token value denotes
  cases levels with
  | zero => cases denotes
  | succ levels =>
    refine ⟨fun first begins => ?_, form_last denotes⟩
    cases begins
    exact not_blank_of_not_end notEnd

theorem entry_begins {item : List Char → Value → Prop} (begins : Begins item) :
    Begins (Entry item) := by
  intro token pair entry
  cases entry with
  | intro denotesKey named blankBefore blankAfter denotes =>
    obtain ⟨c, rest, rfl, notEnd⟩ := begins _ _ denotesKey
    exact ⟨c, _, rfl, notEnd⟩

end Stencil.Literal
