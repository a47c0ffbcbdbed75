import Stencil.Proofs.Literal.Reading

set_option autoImplicit false

namespace Stencil

def Text.QuotedShort (c : Char) : Prop :=
  Text.quotedChar c = [c] ∨
    ∃ letter ∈ ['n', 'r', 't', '0', '\\', '"'], Text.quotedChar c = ['\\', letter]

instance (c : Char) : Decidable (Text.QuotedShort c) :=
  @instDecidableOr _ _ _ (List.decidableBEx _ _)

instance (text : List Char) : Decidable (∀ c ∈ text, Text.QuotedShort c) :=
  List.decidableBAll _ _

namespace Value

inductive Readable : Value → Prop where
  | null : Readable .null
  | bool (b : Bool) : Readable (.bool b)
  | int (i : Int64) : Readable (.int i)
  | string {s : String} (short : ∀ c ∈ s.toList, Text.QuotedShort c) : Readable (.string s)
  | array {items : List Value} (all : ∀ item ∈ items, Readable item) : Readable (.array items)
  | map {entries : List (String × Value)} (ordered : Entries.Ordered entries)
      (keys : ∀ entry ∈ entries, ∀ c ∈ entry.1.toList, Text.QuotedShort c)
      (values : ∀ entry ∈ entries, Readable entry.2) : Readable (.map entries)

mutual

def nesting : Value → Nat
  | .array items => nestingItems items + 1
  | .map entries => nestingEntries entries + 1
  | _ => 1

def nestingItems : List Value → Nat
  | [] => 0
  | item :: rest => max (nesting item) (nestingItems rest)

def nestingEntries : List (String × Value) → Nat
  | [] => 0
  | (_, value) :: rest => max (nesting value) (nestingEntries rest)

end

theorem nesting_pos (value : Value) : 0 < value.nesting := by
  cases value <;> exact Nat.succ_pos _

theorem nesting_item {item : Value} {items : List Value} (member : item ∈ items) :
    item.nesting ≤ nestingItems items := by
  induction items with
  | nil => cases member
  | cons first rest ih =>
    rw [nestingItems]
    rcases List.mem_cons.mp member with rfl | later
    · exact Nat.le_max_left _ _
    · exact Nat.le_trans (ih later) (Nat.le_max_right _ _)

theorem nesting_entry {entry : String × Value} {entries : List (String × Value)}
    (member : entry ∈ entries) : entry.2.nesting ≤ nestingEntries entries := by
  induction entries with
  | nil => cases member
  | cons first rest ih =>
    obtain ⟨key, value⟩ := first
    rw [nestingEntries]
    rcases List.mem_cons.mp member with rfl | later
    · exact Nat.le_max_left _ _
    · exact Nat.le_trans (ih later) (Nat.le_max_right _ _)

end Value

namespace Literal

theorem listed_of_quoted {c letter : Char} (escape : Text.quotedChar c = ['\\', letter]) :
    (letter, c) ∈ escapeTable := by
  unfold Text.quotedChar at escape
  split at escape
  case h_7 =>
    split at escape
    · have sizes := congrArg List.length escape
      simp [Text.codePointEscape] at sizes
    · cases escape
  all_goals
    cases escape
    decide

theorem quoted_inside {text : List Char} (short : ∀ c ∈ text, Text.QuotedShort c) :
    Quoted '"' (text.flatMap Text.quotedChar) text := by
  induction text with
  | nil => exact .nil
  | cons c rest ih =>
    have more := ih fun d member => short d (List.mem_cons_of_mem c member)
    rw [List.flatMap_cons]
    rcases short c List.mem_cons_self with itself | ⟨letter, _, escape⟩
    · have notQuote : c ≠ '"' := by
        rintro rfl
        cases itself
      have notEscape : c ≠ '\\' := by
        rintro rfl
        cases itself
      rw [itself]
      exact .plain notQuote notEscape more
    · rw [escape]
      exact .escape (listed_of_quoted escape) more

section Tokens

variable (item : List Char → Value → Prop)

theorem form_quoted {s : String} (short : ∀ c ∈ s.toList, Text.QuotedShort c) :
    Form item (Text.quoted s.toList) (.string s) := by
  have form : Form item (Text.quoted s.toList) (.string (String.ofList _)) :=
    .string (.inr rfl) (quoted_inside short)
  rwa [String.ofList_toList] at form

theorem continues_of_digit {c : Char} (digit : Decimal.isDigit c = true) (last : Option Char) :
    continuesNumber last c = true := by
  simp [continuesNumber, digit]

theorem digits_token {text : List Char} (digits : ∀ c ∈ text, Decimal.isDigit c = true)
    (last : Option Char) : NumberToken last text := by
  induction text generalizing last with
  | nil => exact .nil last
  | cons c rest ih =>
    have digit := digits c List.mem_cons_self
    exact .cons (continues_of_digit digit last)
      (ih (fun d member => digits d (List.mem_cons_of_mem c member)) (some c))

theorem written_chars {value : Int} {c : Char} (member : c ∈ Decimal.written value) :
    Decimal.isDigit c = true ∨ c = '-' := by
  have digits := List.all_eq_true.mp (Decimal.digits_all_digits value.natAbs)
  by_cases negative : value < 0
  · rw [Decimal.written, if_pos negative] at member
    rcases List.mem_cons.mp member with sign | later
    · exact .inr sign
    · exact .inl (digits c later)
  · rw [Decimal.written, if_neg negative] at member
    exact .inl (digits c member)

theorem written_token (value : Int) :
    ∃ c rest, Decimal.written value = c :: rest ∧ BeginsNumber c ∧ NumberToken none (c :: rest) := by
  have digits := List.all_eq_true.mp (Decimal.digits_all_digits value.natAbs)
  by_cases negative : value < 0
  · rw [Decimal.written, if_pos negative]
    exact ⟨'-', _, rfl, .inr (.inl rfl), .cons rfl (digits_token digits (some '-'))⟩
  · rw [Decimal.written, if_neg negative]
    have nonempty : Decimal.digits value.natAbs ≠ [] := Nat.toDigits_ne_nil
    obtain ⟨c, rest, shape⟩ := List.exists_cons_of_ne_nil nonempty
    rw [shape] at digits ⊢
    exact ⟨c, rest, rfl, .inl (digits c List.mem_cons_self), digits_token digits none⟩

theorem number_value_written (i : Int64) :
    numberValue? (Decimal.written i.toInt) = some (.int i) := by
  have noSeparator : ∀ c ∈ Decimal.written i.toInt, c ≠ '_' := by
    rintro c member rfl
    rcases written_chars member with digit | minus
    · cases digit
    · cases minus
  have notLast : ((Decimal.written i.toInt).getLast? == some '_') = false := by
    apply beq_false_of_ne
    intro last
    exact noSeparator '_' (List.mem_of_getLast? last) rfl
  have plain : (Decimal.written i.toInt).filter (· != '_') = Decimal.written i.toInt := by
    apply List.filter_eq_self.mpr
    intro c member
    exact bne_iff_ne.mpr (noSeparator c member)
  rw [numberValue?, notLast, if_neg Bool.false_ne_true, plain]
  dsimp only
  rw [Decimal.readInt?_written, Option.bind_some, Decimal.int64?_toInt]

theorem form_written (i : Int64) : Form item (Decimal.written i.toInt) (.int i) := by
  obtain ⟨c, rest, shape, begins, token⟩ := written_token i.toInt
  have denotes := number_value_written i
  rw [shape] at denotes ⊢
  exact .number begins token denotes

theorem blanks_nil : Blanks [] :=
  List.forall_mem_nil _

theorem blanks_space : Blanks [' '] :=
  List.forall_mem_singleton.mpr rfl

theorem separated_intercalate {α : Type} {element : List Char → α → Prop} (token : α → List Char)
    (elements : List α) (denotes : ∀ a ∈ elements, element (token a) a) :
    Separated element ([',', ' '].intercalate (elements.map token)) elements false := by
  -- The grammar counts the blank between two elements to the second one.
  suffices ∀ before, Blanks before → elements ≠ [] →
      Separated element (before ++ [',', ' '].intercalate (elements.map token)) elements false by
    by_cases empty : elements = []
    · rw [empty]
      exact .empty blanks_nil
    · exact this [] blanks_nil empty
  induction elements with
  | nil => exact fun before isBlank nonempty => absurd rfl nonempty
  | cons a others ih =>
    intro before isBlank _
    have first := denotes a List.mem_cons_self
    have more := ih fun other member => denotes other (List.mem_cons_of_mem a member)
    cases others with
    | nil =>
      have last := Separated.last isBlank first blanks_nil
      rw [List.map_singleton, List.intercalate_singleton]
      rwa [List.append_nil] at last
    | cons other others =>
      have nonempty := List.cons_ne_nil other others
      have whole := Separated.cons isBlank first blanks_nil (more [' '] blanks_space nonempty) nonempty
      rw [List.map_cons, List.map_cons, List.intercalate_cons_cons, ← List.map_cons]
      simpa using whole

end Tokens

theorem nested_items (items : List Value) : Value.nestedItems items = items.map Value.nested := by
  induction items with
  | nil => rfl
  | cons item rest ih => rw [Value.nestedItems, ih, List.map_cons]

def entryText (entry : String × Value) : List Char :=
  Text.quoted entry.1.toList ++ [':', ' '] ++ entry.2.nested

theorem nested_entries (entries : List (String × Value)) :
    Value.nestedEntries entries = entries.map entryText := by
  induction entries with
  | nil => rfl
  | cons entry rest ih => rw [Value.nestedEntries, ih, List.map_cons, entryText]

theorem entry_written {levels : Nat} {entry : String × Value}
    (short : ∀ c ∈ entry.1.toList, Text.QuotedShort c)
    (denotes : Denotes (levels + 1) entry.2.nested entry.2) :
    Entry (Denotes (levels + 1)) (entryText entry) entry := by
  have key : Denotes (levels + 1) (Text.quoted entry.1.toList) (.string entry.1) :=
    form_quoted (Denotes levels) short
  have whole : Entry (Denotes (levels + 1))
      (Text.quoted entry.1.toList ++ [] ++ ':' :: ([' '] ++ entry.2.nested)) entry :=
    .intro key (.string entry.1) blanks_nil blanks_space denotes
  simpa [entryText] using whole

theorem level_left {value : Value} {levels : Nat} (fits : value.nesting ≤ levels) :
    ∃ less, levels = less + 1 :=
  Nat.exists_eq_add_of_le' (Nat.le_trans value.nesting_pos fits)

theorem denotes_nested {value : Value} (readable : value.Readable) {levels : Nat}
    (fits : value.nesting ≤ levels) : Denotes levels value.nested value := by
  obtain ⟨levels, rfl⟩ := level_left fits
  induction readable generalizing levels with
  | null =>
    have listed : ("null", Value.null) ∈ wordTable := by simp [wordTable]
    exact .word listed
  | bool b =>
    cases b with
    | false =>
      have listed : ("false", Value.bool false) ∈ wordTable := by simp [wordTable]
      exact .word listed
    | true =>
      have listed : ("true", Value.bool true) ∈ wordTable := by simp [wordTable]
      exact .word listed
  | int i => exact form_written (Denotes levels) i
  | string short => exact form_quoted (Denotes levels) short
  | @array items all ih =>
    have inside : ∀ item ∈ items, Denotes levels item.nested item := by
      intro item member
      have room : item.nesting ≤ levels :=
        Nat.le_trans (Value.nesting_item member) (Nat.le_of_succ_le_succ fits)
      obtain ⟨less, rfl⟩ := level_left room
      exact ih item member less room
    rw [Value.nested, nested_items]
    exact .list (separated_intercalate Value.nested items inside)
  | @map entries ordered keys values ih =>
    have inside : ∀ entry ∈ entries, Entry (Denotes levels) (entryText entry) entry := by
      intro entry member
      have room : entry.2.nesting ≤ levels :=
        Nat.le_trans (Value.nesting_entry member) (Nat.le_of_succ_le_succ fits)
      obtain ⟨less, rfl⟩ := level_left room
      exact entry_written (keys entry member) (ih entry member less room)
    have binds : Binds entries entries :=
      ⟨ordered, fun key => (Entries.last?_of_ordered ordered key).symm⟩
    rw [Value.nested, nested_entries]
    exact .map (separated_intercalate entryText entries inside) binds

theorem read_text (value : Value) (aggregate : value.kind = .array ∨ value.kind = .map)
    (readable : value.Readable) (fits : value.nesting ≤ 64) : read? value.text = some value := by
  have text : value.text.toList = value.nested := by
    cases value with
    | array items => exact String.toList_ofList
    | map entries => exact String.toList_ofList
    | _ => simp [Value.kind] at aggregate
  apply (read_iff value.text value).mpr
  exact ⟨[], value.nested, [], by rw [text]; simp, blanks_nil, blanks_nil, denotes_nested readable fits⟩

theorem read_text_escapes :
    read? (Value.map [("", .array [.null, .bool true, .int (-9223372036854775808)]),
        ("a\n\"\\", .map [("k", .string "\x00'é"), ("é", .array [])])]).text =
      some (Value.map [("", .array [.null, .bool true, .int (-9223372036854775808)]),
        ("a\n\"\\", .map [("k", .string "\x00'é"), ("é", .array [])])]) := by
  have scalars : ∀ item ∈ [Value.null, .bool true, .int (-9223372036854775808)], item.Readable := by
    simp [Value.Readable.null, Value.Readable.bool, Value.Readable.int]
  have inner : (Value.map [("k", .string "\x00'é"), ("é", .array [])]).Readable := by
    apply Value.Readable.map (by rw [Entries.Ordered]; decide) (by decide +kernel)
    exact List.forall_mem_cons.mpr
      ⟨.string (by decide +kernel), List.forall_mem_singleton.mpr (.array (by simp))⟩
  apply read_text
  · exact .inr rfl
  · apply Value.Readable.map (by rw [Entries.Ordered]; decide) (by decide +kernel)
    exact List.forall_mem_cons.mpr ⟨.array scalars, List.forall_mem_singleton.mpr inner⟩
  · decide

end Literal

end Stencil
