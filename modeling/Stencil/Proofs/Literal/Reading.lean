import Stencil.Proofs.Literal.Soundness

set_option autoImplicit false

namespace Stencil.Literal

theorem skip_blank_before {before : List Char} (blank : Blanks before) {c : Char}
    (notBlank : Text.isBlank c = false) (rest : List Char) :
    Text.skipBlank (before ++ c :: rest) = c :: rest := by
  rw [Text.skipBlank, List.dropWhile_append_of_pos blank]
  exact List.dropWhile_cons_of_neg (by simp [notBlank])

theorem separator_not_blank : ∀ c ∈ separators, Text.isBlank c = false := by
  intro c separator
  simp only [separators, List.mem_cons, List.not_mem_nil, or_false] at separator
  rcases separator with rfl | rfl | rfl | rfl | rfl <;> rfl

theorem eat_separator {before : List Char} (blank : Blanks before) {wanted : Char}
    (separator : wanted ∈ separators) (rest : List Char) :
    eat wanted (before ++ wanted :: rest) = some rest := by
  rw [eat, skip_blank_before blank (separator_not_blank wanted separator)]
  exact if_pos rfl

theorem eat_other {before : List Char} (blank : Blanks before) {wanted c : Char}
    (notBlank : Text.isBlank c = false) (other : c ≠ wanted) (rest : List Char) :
    eat wanted (before ++ c :: rest) = none := by
  rw [eat, skip_blank_before blank notBlank]
  exact if_neg other

theorem eat_token {before token : List Char} (blank : Blanks before) {wanted c : Char} {tail : List Char}
    (shape : token = c :: tail) (notEnd : ¬ IsEnd c) (separator : wanted ∈ separators)
    (rest : List Char) : eat wanted (before ++ token ++ rest) = none := by
  have other : c ≠ wanted := by
    rintro rfl
    exact notEnd (.inr separator)
  rw [shape, List.append_assoc]
  exact eat_other blank (not_blank_of_not_end notEnd) other (tail ++ rest)

section Complete

variable {item : List Char → Option (Value × List Char)} {denotes : List Char → Value → Prop}
  {bound : Nat}

def Complete (item : List Char → Option (Value × List Char)) (denotes : List Char → Value → Prop)
    (bound : Nat) : Prop :=
  ∀ before token value left, Blanks before → denotes token value → Ends left →
    (before ++ token ++ left).length ≤ bound → item (before ++ token ++ left) = some (value, left)

theorem items_step (complete : Complete item denotes bound) (begins : Begins denotes) {close : Char}
    (separator : close ∈ separators) {before token tail : List Char} {value : Value}
    (blank : Blanks before) (isValue : denotes token value) (ends : Ends tail)
    (fits : (before ++ token ++ tail).length ≤ bound) (comma : Bool) (budget : Nat) :
    items item close comma (budget + 1) (before ++ token ++ tail) =
      match eat ',' tail with
      | some next =>
        (items item close true budget next).map fun (values, trailing, rest) =>
          (value :: values, trailing, rest)
      | none => (eat close tail).map fun rest => ([value], false, rest) := by
  obtain ⟨c, more, shape, notEnd⟩ := begins token value isValue
  have notClosed := eat_token blank shape notEnd separator tail
  have first := complete before token value tail blank isValue ends fits
  cases separated : eat ',' tail with
  | none => simp only [items, notClosed, first, separated]
  | some next => simp only [items, notClosed, first, separated]

theorem budget_left {length budget : Nat} (room : length < budget) : ∃ less, budget = less + 1 :=
  ⟨budget - 1, by omega⟩

theorem element_parts (before token after later rest : List Char) (c : Char) :
    before ++ token ++ after ++ ',' :: later ++ c :: rest =
      before ++ token ++ (after ++ ',' :: (later ++ c :: rest)) := by
  simp

-- Every element takes at least one character, so a budget above the length of the inside lasts to its
-- end.
theorem items_complete (complete : Complete item denotes bound) (begins : Begins denotes) {close : Char}
    (separator : close ∈ separators) (notComma : close ≠ ',') {inside : List Char}
    {values : List Value} {flag : Bool} (separated : Separated denotes inside values flag)
    (comma : Bool) (budget : Nat) (rest : List Char) (room : inside.length < budget)
    (fits : (inside ++ close :: rest).length ≤ bound) :
    items item close comma budget (inside ++ close :: rest) =
      some (values, if values.isEmpty then comma else flag, rest) := by
  have isComma : ',' ∈ separators := by decide
  obtain ⟨budget, rfl⟩ := budget_left room
  induction separated generalizing comma budget with
  | empty blank =>
    rw [items, eat_separator blank separator]
    rfl
  | @last before token after value blankBefore isValue blankAfter =>
    rw [List.append_assoc _ after] at fits ⊢
    rw [items_step complete begins separator blankBefore isValue (ends_after blankAfter separator) fits,
      eat_other blankAfter (separator_not_blank close separator) notComma,
      eat_separator blankAfter separator]
    rfl
  | @trailing before token after final value blankBefore isValue blankAfter blankFinal =>
    simp only [List.length_append, List.length_cons] at room
    obtain ⟨less, rfl⟩ := budget_left (Nat.lt_of_succ_lt_succ room)
    rw [element_parts] at fits ⊢
    rw [items_step complete begins separator blankBefore isValue (ends_after blankAfter isComma) fits,
      eat_separator blankAfter isComma]
    dsimp only
    rw [items, eat_separator blankFinal separator]
    rfl
  | @cons before token after more value others flag blankBefore isValue blankAfter _ nonempty ih =>
    simp only [List.length_append, List.length_cons] at room
    obtain ⟨less, rfl⟩ := budget_left (Nat.lt_of_succ_lt_succ room)
    rw [element_parts] at fits ⊢
    have moreFits : (more ++ close :: rest).length ≤ bound := by
      simp only [List.length_append, List.length_cons] at fits ⊢
      omega
    rw [items_step complete begins separator blankBefore isValue (ends_after blankAfter isComma) fits,
      eat_separator blankAfter isComma]
    dsimp only
    rw [ih true moreFits less (by omega)]
    simp [nonempty]

theorem entries_step (complete : Complete item denotes bound) (begins : Begins denotes)
    {before token tail : List Char} {name : String} {value : Value} (blank : Blanks before)
    (isEntry : Entry denotes token (name, value)) (ends : Ends tail)
    (fits : (before ++ token ++ tail).length ≤ bound) (done : List (String × Value)) (budget : Nat) :
    entries item (budget + 1) done (before ++ token ++ tail) =
      match eat ',' tail with
      | some next => entries item budget (Entries.insert name value done) next
      | none => (eat '}' tail).map fun rest => (Entries.insert name value done, rest) := by
  have isBrace : '}' ∈ separators := by decide
  have isColon : ':' ∈ separators := by decide
  obtain ⟨c, more, shape, notEnd⟩ := entry_begins begins token _ isEntry
  rw [entries, eat_token blank shape notEnd isBrace]
  cases isEntry with
  | @intro keyToken beforeColon afterColon valueToken key _ _ isKey keyText blankColon blankValue isValue =>
    have named := (key_text_iff key name).mpr keyText
    have parts : before ++ (keyToken ++ beforeColon ++ ':' :: (afterColon ++ valueToken)) ++ tail =
        before ++ keyToken ++ (beforeColon ++ ':' :: (afterColon ++ valueToken ++ tail)) := by
      simp
    rw [parts] at fits ⊢
    have valueFits : (afterColon ++ valueToken ++ tail).length ≤ bound := by
      simp only [List.length_append, List.length_cons] at fits ⊢
      omega
    rw [complete before keyToken key _ blank isKey (ends_after blankColon isColon) fits]
    have second := complete afterColon valueToken value tail blankValue isValue ends valueFits
    cases separated : eat ',' tail with
    | none => simp only [named, eat_separator blankColon isColon, Option.bind_some, second, separated]
    | some next => simp only [named, eat_separator blankColon isColon, Option.bind_some, second, separated]

theorem entries_complete (complete : Complete item denotes bound) (begins : Begins denotes)
    {inside : List Char} {pairs : List (String × Value)} {flag : Bool}
    (separated : Separated (Entry denotes) inside pairs flag) (done : List (String × Value))
    (budget : Nat) (rest : List Char) (room : inside.length < budget)
    (fits : (inside ++ '}' :: rest).length ≤ bound) :
    entries item budget done (inside ++ '}' :: rest) = some (Entries.insertAll pairs done, rest) := by
  have isBrace : '}' ∈ separators := by decide
  have isComma : ',' ∈ separators := by decide
  obtain ⟨budget, rfl⟩ := budget_left room
  induction separated generalizing done budget with
  | empty blank =>
    rw [entries, eat_separator blank isBrace]
    rfl
  | @last before token after pair blankBefore isEntry blankAfter =>
    rw [List.append_assoc _ after] at fits ⊢
    rw [entries_step complete begins blankBefore isEntry (ends_after blankAfter isBrace) fits,
      eat_other blankAfter (separator_not_blank '}' isBrace) (by decide), eat_separator blankAfter isBrace]
    rfl
  | @trailing before token after final pair blankBefore isEntry blankAfter blankFinal =>
    simp only [List.length_append, List.length_cons] at room
    obtain ⟨less, rfl⟩ := budget_left (Nat.lt_of_succ_lt_succ room)
    rw [element_parts] at fits ⊢
    rw [entries_step complete begins blankBefore isEntry (ends_after blankAfter isComma) fits,
      eat_separator blankAfter isComma]
    dsimp only
    rw [entries, eat_separator blankFinal isBrace]
    rfl
  | @cons before token after more pair others flag blankBefore isEntry blankAfter _ nonempty ih =>
    simp only [List.length_append, List.length_cons] at room
    obtain ⟨less, rfl⟩ := budget_left (Nat.lt_of_succ_lt_succ room)
    rw [element_parts] at fits ⊢
    have moreFits : (more ++ '}' :: rest).length ≤ bound := by
      simp only [List.length_append, List.length_cons] at fits ⊢
      omega
    rw [entries_step complete begins blankBefore isEntry (ends_after blankAfter isComma) fits,
      eat_separator blankAfter isComma]
    dsimp only
    rw [ih _ moreFits less (by omega)]
    rfl

end Complete

theorem take_word {word left : List Char} (inWord : word.all isWordChar = true) (ends : Ends left) :
    (word ++ left).takeWhile isWordChar = word ∧ (word ++ left).dropWhile isWordChar = left := by
  have members := List.all_eq_true.mp inWord
  rw [List.takeWhile_append_of_pos members, List.dropWhile_append_of_pos members]
  cases left with
  | nil => simp
  | cons c rest =>
    have stops := (end_in_no_token (ends c rfl)).1
    simp [stops]

theorem number_stops {left : List Char} (ends : Ends left) :
    ∀ c ∈ left.head?, ∀ last, continuesNumber last c = false := by
  intro c first last
  cases continues : continuesNumber last c with
  | false => rfl
  | true => exact absurd (ends c first) (not_end_of_in_number (continues_in_number continues))

theorem enclosed_parts (opening closing : Char) (inside left : List Char) :
    opening :: inside ++ [closing] ++ left = opening :: (inside ++ closing :: left) := by
  simp

theorem tuple_of_not_grouping {values : List Value} {comma : Bool}
    (notGrouping : values.length = 1 → comma = true) : tuple values comma = .array values := by
  unfold tuple
  split
  · cases notGrouping rfl
  · rfl

theorem begins_number_opens {c : Char} (begins : BeginsNumber c) :
    c ∉ openings := by
  intro opens
  have inside := begins_in_number begins
  simp only [openings, List.mem_cons, List.not_mem_nil, or_false] at opens
  rcases opens with rfl | rfl | rfl | rfl | rfl <;> cases inside

theorem value_unopened {text rest : List Char} {c : Char} (skipped : Text.skipBlank text = c :: rest)
    (scalar : c ∉ openings) (budget levels : Nat) :
    value? budget (levels + 1) text =
      if (Decimal.isDigit c || c == '-' || c == '+' || c == '.') = true then
        (numberValue? (numberToken none (c :: rest)).1).map fun value =>
          (value, (numberToken none (c :: rest)).2)
      else
        (wordValue? (String.ofList ((c :: rest).takeWhile isWordChar))).map fun value =>
          (value, (c :: rest).dropWhile isWordChar) := by
  simp only [openings, List.mem_cons, List.not_mem_nil, or_false, not_or] at scalar
  obtain ⟨notSingle, notDouble, notList, notTuple, notMap⟩ := scalar
  rw [value?, skipped]
  dsimp only
  rw [if_neg (not_or.mpr ⟨notSingle, notDouble⟩), if_neg notList, if_neg notTuple, if_neg notMap]

theorem value_of_number {text rest left : List Char} {c : Char} {value : Value}
    (skipped : Text.skipBlank text = c :: (rest ++ left)) (begins : BeginsNumber c)
    (token : NumberToken none (c :: rest)) (denotes : numberValue? (c :: rest) = some value)
    (ends : Ends left) (budget levels : Nat) :
    value? budget (levels + 1) text = some (value, left) := by
  have whole : numberToken none (c :: (rest ++ left)) = (c :: rest, left) :=
    number_token_complete token (number_stops ends)
  rw [value_unopened skipped (begins_number_opens begins), if_pos ((begins_number_iff c).mpr begins),
    whole, denotes]
  rfl

theorem value_of_word {text left : List Char} {word : String} {value : Value}
    (skipped : Text.skipBlank text = word.toList ++ left) (listed : (word, value) ∈ wordTable)
    (ends : Ends left) (budget levels : Nat) :
    value? budget (levels + 1) text = some (value, left) := by
  obtain ⟨c, rest, letters, scalar, notNumber, inWord⟩ := words_shape listed
  obtain ⟨taken, dropped⟩ := take_word inWord ends
  rw [letters, List.cons_append] at skipped taken dropped
  rw [value_unopened skipped scalar, if_neg fun begins => notNumber ((begins_number_iff c).mp begins),
    taken, dropped, ← letters, String.ofList_toList, (word_value_iff word value).mpr listed]
  rfl

-- What an aggregate holds is read with one level less, and is shorter than the whole text, so the same
-- budget serves every level.
theorem value_complete (budget levels : Nat) : Complete (value? budget levels) (Denotes levels) budget := by
  induction levels with
  | zero =>
    intro before token value left blank none
    cases none
  | succ levels ih =>
    have begins := denotes_begins levels
    intro before token value left blank form ends fits
    obtain ⟨c, tail, shape, notEnd⟩ := form_begins _ token value form
    have skipped : Text.skipBlank (before ++ token ++ left) = token ++ left := by
      rw [shape, List.append_assoc]
      exact skip_blank_before blank (not_blank_of_not_end notEnd) (tail ++ left)
    have shorter : (token ++ left).length ≤ budget := by
      simp only [List.length_append] at fits ⊢
      omega
    have aggregate : ∀ {inside : List Char} {opening close : Char}, token = opening :: inside ++ [close] →
        inside.length < budget ∧ (inside ++ close :: left).length ≤ budget := by
      intro inside opening close isToken
      rw [isToken, enclosed_parts] at shorter
      simp only [List.length_append, List.length_cons] at shorter ⊢
      omega
    cases form with
    | @string quote inside text isQuote quoted =>
      have notEscape : quote ≠ '\\' := by
        rcases isQuote with rfl | rfl <;> decide
      rw [value?, skipped, enclosed_parts]
      dsimp only
      rw [if_pos isQuote, quoted_text_complete quoted notEscape]
      rfl
    | @list inside values comma separated =>
      obtain ⟨room, fits⟩ := aggregate rfl
      rw [value?, skipped, enclosed_parts]
      dsimp only
      rw [if_neg (by decide), if_pos rfl,
        items_complete ih begins (by decide) (by decide) separated false budget left room fits]
      rfl
    | @grouping inside value separated =>
      obtain ⟨room, fits⟩ := aggregate rfl
      rw [value?, skipped, enclosed_parts]
      dsimp only
      rw [if_neg (by decide), if_neg (by decide), if_pos rfl,
        items_complete ih begins (by decide) (by decide) separated false budget left room fits]
      rfl
    | @tuple inside values comma separated notGrouping =>
      obtain ⟨room, fits⟩ := aggregate rfl
      rw [value?, skipped, enclosed_parts]
      dsimp only
      rw [if_neg (by decide), if_neg (by decide), if_pos rfl,
        items_complete ih begins (by decide) (by decide) separated false budget left room fits]
      dsimp only [Option.map_some]
      rw [tuple_of_not_grouping]
      intro one
      obtain ⟨only, rfl⟩ := List.length_eq_one_iff.mp one
      exact notGrouping rfl
    | @map inside pairs bound comma separated binds =>
      obtain ⟨room, fits⟩ := aggregate rfl
      rw [value?, skipped, enclosed_parts]
      dsimp only
      rw [if_neg (by decide), if_neg (by decide), if_neg (by decide), if_pos rfl,
        entries_complete ih begins separated [] budget left room fits, (binds_iff pairs bound).mp binds]
      rfl
    | number beginsNumber token denotes =>
      exact value_of_number skipped beginsNumber token denotes ends budget levels
    | word listed => exact value_of_word skipped listed ends budget levels

theorem value_reads_iff (text : List Char) (value : Value) :
    (∃ left, value? text.length maxNesting text = some (value, left) ∧ Blanks left) ↔
      ∃ before token after, text = before ++ token ++ after ∧ Blanks before ∧ Blanks after ∧
        Denotes 64 token value := by
  constructor
  · rintro ⟨left, read, blankAfter⟩
    obtain ⟨before, token, blankBefore, isValue, parts⟩ := value_sound _ _ text value left read
    exact ⟨before, token, left, parts, blankBefore, blankAfter, isValue⟩
  · rintro ⟨before, token, after, rfl, blankBefore, blankAfter, isValue⟩
    have read := value_complete (before ++ token ++ after).length 64 before token value after
      blankBefore isValue (ends_blanks blankAfter) (Nat.le_refl _)
    exact ⟨after, read, blankAfter⟩

theorem skip_blank_empty_iff (text : List Char) :
    (Text.skipBlank text).isEmpty = true ↔ Blanks text := by
  constructor
  · intro nothingLeft
    obtain ⟨before, blank, parts⟩ := skip_blank_parts text
    rw [List.isEmpty_iff.mp nothingLeft, List.append_nil] at parts
    rwa [parts]
  · intro blank
    rw [Text.skipBlank, ← List.append_nil text, List.dropWhile_append_of_pos blank]
    rfl

theorem read_iff (text : String) (value : Value) :
    read? text = some value ↔ Spells text value := by
  rw [Spells, ← value_reads_iff, read?]
  cases found : value? text.toList.length maxNesting text.toList with
  | none => simp
  | some pair =>
    obtain ⟨other, left⟩ := pair
    dsimp only
    constructor
    · intro read
      split at read
      · rename_i blank
        cases read
        exact ⟨left, rfl, (skip_blank_empty_iff left).mp blank⟩
      · cases read
    · rintro ⟨left, same, blank⟩
      cases same
      exact if_pos ((skip_blank_empty_iff left).mpr blank)

theorem read_trimmed {text : String} {value : Value} (reads : read? text = some value)
    {before after : List Char} (blankBefore : Blanks before) (blankAfter : Blanks after) :
    read? (String.ofList (Text.trim (before ++ text.toList ++ after))) = some value := by
  obtain ⟨front, token, back, parts, blankFront, blankBack, denotes⟩ := (read_iff text value).mp reads
  have trimmed : Text.trim ((before ++ front) ++ token ++ (back ++ after)) = token :=
    Text.trim_between (List.forall_mem_append.mpr ⟨blankBefore, blankFront⟩) (denotes_unblank denotes)
      (List.forall_mem_append.mpr ⟨blankBack, blankAfter⟩)
  have whole : before ++ text.toList ++ after = (before ++ front) ++ token ++ (back ++ after) := by
    simp [parts]
  rw [whole, trimmed, read_iff]
  exact ⟨[], token, [], by simp, List.forall_mem_nil _, List.forall_mem_nil _, denotes⟩

theorem literal_iff_spells (text : String) :
    (∀ value, read? text = some value ↔ Spells text value) ∧
      (∀ value other, Spells text value → Spells text other → value = other) ∧
      (∀ value, Expr.ofText text = .literal value ↔ Spells text value) ∧
      (Expr.ofText text = .name text ↔ ∀ value, ¬ Spells text value) := by
  refine ⟨read_iff text, ?_, ?_, ?_⟩
  · intro value other spells spellsOther
    have read := (read_iff text value).mpr spells
    rw [(read_iff text other).mpr spellsOther] at read
    exact (Option.some.inj read).symm
  · intro value
    rw [← read_iff, Expr.ofText]
    cases read? text with
    | none => simp
    | some found => simp
  · simp only [← read_iff, Expr.ofText]
    cases read? text with
    | none => simp
    | some found => simp

end Stencil.Literal
