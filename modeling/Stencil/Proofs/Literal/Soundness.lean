import Stencil.Proofs.Literal.Ending

set_option autoImplicit false

namespace Stencil.Literal

theorem skip_blank_parts (text : List Char) :
    ∃ before, Blanks before ∧ text = before ++ Text.skipBlank text := by
  refine ⟨text.takeWhile Text.isBlank, ?_, (List.takeWhile_append_dropWhile).symm⟩
  exact List.all_eq_true.mp List.all_takeWhile

theorem eat_parts {wanted : Char} {text rest : List Char} (eaten : eat wanted text = some rest) :
    ∃ before, Blanks before ∧ text = before ++ wanted :: rest := by
  obtain ⟨before, blank, parts⟩ := skip_blank_parts text
  rw [eat] at eaten
  split at eaten
  · rename_i c tail next
    split at eaten
    · rename_i same
      cases eaten
      rw [next, same] at parts
      exact ⟨before, blank, parts⟩
    · cases eaten
  · cases eaten

theorem escaped_listed {c d : Char} (listed : (c, d) ∈ escapeTable) : escaped c = [d] := by
  simp only [escapeTable, List.mem_cons, Prod.mk.injEq, List.not_mem_nil, or_false] at listed
  rcases listed with ⟨rfl, rfl⟩ | ⟨rfl, rfl⟩ | ⟨rfl, rfl⟩ | ⟨rfl, rfl⟩ | ⟨rfl, rfl⟩ | ⟨rfl, rfl⟩ | ⟨rfl, rfl⟩ <;>
    rfl

theorem escaped_cases (c : Char) :
    (∃ d, (c, d) ∈ escapeTable) ∨ ((∀ d, (c, d) ∉ escapeTable) ∧ escaped c = ['\\', c]) := by
  unfold escaped
  split
  case h_8 isN isT isR isZero isBackslash isSingle isDouble =>
    refine .inr ⟨fun d listed => ?_, rfl⟩
    simp only [escapeTable, List.mem_cons, Prod.mk.injEq, List.not_mem_nil, or_false] at listed
    rcases listed with ⟨rfl, _⟩ | ⟨rfl, _⟩ | ⟨rfl, _⟩ | ⟨rfl, _⟩ | ⟨rfl, _⟩ | ⟨rfl, _⟩ | ⟨rfl, _⟩ <;>
      contradiction
  case h_1 => exact .inl ⟨'\n', by decide⟩
  case h_2 => exact .inl ⟨'\t', by decide⟩
  case h_3 => exact .inl ⟨'\r', by decide⟩
  case h_4 => exact .inl ⟨'\x00', by decide⟩
  case h_5 => exact .inl ⟨'\\', by decide⟩
  case h_6 => exact .inl ⟨'\'', by decide⟩
  case h_7 => exact .inl ⟨'"', by decide⟩

theorem quoted_text_sound {quote : Char} {text inside left : List Char}
    (read : quotedText quote text = some (inside, left)) :
    ∃ raw, text = raw ++ quote :: left ∧ Quoted quote raw inside := by
  fun_induction quotedText quote text generalizing inside left with
  | case1 => cases read
  | case2 rest =>
    cases read
    exact ⟨[], rfl, .nil⟩
  | case3 => cases read
  | case4 d after notQuote ih =>
    obtain ⟨⟨text, tail⟩, found, same⟩ := Option.map_eq_some_iff.mp read
    cases same
    obtain ⟨raw, parts, quoted⟩ := ih found
    refine ⟨'\\' :: d :: raw, by rw [parts]; rfl, ?_⟩
    rcases escaped_cases d with ⟨e, listed⟩ | ⟨notListed, stays⟩
    · rw [escaped_listed listed]
      exact .escape listed quoted
    · rw [stays]
      exact .unknown notListed quoted
  | case5 c rest notQuote notEscape ih =>
    obtain ⟨⟨text, tail⟩, found, same⟩ := Option.map_eq_some_iff.mp read
    cases same
    obtain ⟨raw, parts, quoted⟩ := ih found
    exact ⟨c :: raw, by rw [parts]; rfl, .plain notQuote notEscape quoted⟩

theorem quoted_text_complete {quote : Char} {raw inside : List Char} (quoted : Quoted quote raw inside)
    (notEscape : quote ≠ '\\') (left : List Char) :
    quotedText quote (raw ++ quote :: left) = some (inside, left) := by
  induction quoted with
  | nil =>
    rw [List.nil_append, quotedText.eq_def]
    exact if_pos rfl
  | plain notQuote notBackslash rest ih =>
    rw [List.cons_append, quotedText.eq_def]
    simp only [if_neg notQuote, if_neg notBackslash, ih, Option.map_some]
  | escape listed rest ih =>
    rw [List.cons_append, List.cons_append, quotedText.eq_def]
    simp only [if_neg notEscape.symm, if_true, ih, Option.map_some, escaped_listed listed]
    rfl
  | @unknown c _ _ notListed rest ih =>
    rw [List.cons_append, List.cons_append, quotedText.eq_def]
    rcases escaped_cases c with ⟨d, listed⟩ | ⟨_, stays⟩
    · exact absurd listed (notListed d)
    · simp only [if_neg notEscape.symm, if_true, ih, Option.map_some, stays]
      rfl

theorem number_token_parts (last : Option Char) (text : List Char) :
    NumberToken last (numberToken last text).1 ∧
      text = (numberToken last text).1 ++ (numberToken last text).2 := by
  induction text generalizing last with
  | nil => exact ⟨.nil last, rfl⟩
  | cons c rest ih =>
    obtain ⟨token, parts⟩ := ih (some c)
    cases continues : continuesNumber last c with
    | true =>
      simp only [numberToken, continues, if_true]
      exact ⟨.cons continues token, congrArg (c :: ·) parts⟩
    | false =>
      simp only [numberToken, continues]
      exact ⟨.nil last, rfl⟩

theorem number_token_complete {last : Option Char} {token left : List Char}
    (isToken : NumberToken last token)
    (stops : ∀ c ∈ left.head?, ∀ last, continuesNumber last c = false) :
    numberToken last (token ++ left) = (token, left) := by
  induction isToken with
  | nil last =>
    cases left with
    | nil => rfl
    | cons c rest => simp [numberToken, stops c rfl last]
  | cons continues more ih => simp [numberToken, continues, ih]

theorem key_text_iff (key : Value) (name : String) : key? key = some name ↔ KeyText key name := by
  constructor
  · intro named
    unfold key? at named
    split at named <;> cases named <;> constructor
  · intro named
    cases named <;> rfl

theorem binds_iff (pairs bound : List (String × Value)) :
    Binds pairs bound ↔ bound = Entries.ofPairs pairs := by
  constructor
  · intro binds
    refine Entries.ordered_ext binds.ordered (Entries.ordered_of_pairs pairs) fun key => ?_
    rw [binds.get?, Entries.get?_of_pairs]
  · rintro rfl
    exact ⟨Entries.ordered_of_pairs pairs, fun key => Entries.get?_of_pairs key pairs⟩

section Elements

variable {item : List Char → Option (Value × List Char)} {denotes : List Char → Value → Prop}

def Sound (item : List Char → Option (Value × List Char)) (denotes : List Char → Value → Prop) : Prop :=
  ∀ text value left, item text = some (value, left) →
    ∃ before token, Blanks before ∧ denotes token value ∧ text = before ++ token ++ left

-- The list that is read may be empty, and then the comma before it was the last one of the whole.
theorem items_sound (sound : Sound item denotes) {close : Char} {comma trailing : Bool} {budget : Nat}
    {text rest : List Char} {values : List Value}
    (read : items item close comma budget text = some (values, trailing, rest)) :
    ∃ inside, text = inside ++ close :: rest ∧
      ((values = [] ∧ trailing = comma ∧ Blanks inside) ∨
        (values ≠ [] ∧ Separated denotes inside values trailing)) := by
  induction budget generalizing text comma values trailing with
  | zero => cases read
  | succ budget ih =>
    rw [items] at read
    cases closed : eat close text with
    | some after =>
      rw [closed] at read
      cases read
      obtain ⟨before, blank, parts⟩ := eat_parts closed
      exact ⟨before, parts, .inl ⟨rfl, rfl, blank⟩⟩
    | none =>
      rw [closed] at read
      cases first : item text with
      | none =>
        rw [first] at read
        cases read
      | some found =>
        obtain ⟨value, left⟩ := found
        obtain ⟨before, token, blankBefore, isValue, parts⟩ := sound text value left first
        simp only [first] at read
        cases separated : eat ',' left with
        | none =>
          rw [separated] at read
          obtain ⟨after, ended, same⟩ := Option.map_eq_some_iff.mp read
          cases same
          obtain ⟨blanks, blankAfter, afterParts⟩ := eat_parts ended
          refine ⟨before ++ token ++ blanks, ?_, .inr ⟨by simp, .last blankBefore isValue blankAfter⟩⟩
          rw [parts, afterParts, List.append_assoc (before ++ token)]
        | some next =>
          rw [separated] at read
          obtain ⟨⟨others, flag, after⟩, more, same⟩ := Option.map_eq_some_iff.mp read
          cases same
          obtain ⟨blanks, blankAfter, afterParts⟩ := eat_parts separated
          obtain ⟨inside, nextParts, shape⟩ := ih more
          refine ⟨before ++ token ++ blanks ++ ',' :: inside, ?_, .inr ⟨by simp, ?_⟩⟩
          · rw [parts, afterParts, nextParts]
            simp
          · rcases shape with ⟨rfl, rfl, blankFinal⟩ | ⟨nonempty, separated⟩
            · exact .trailing blankBefore isValue blankAfter blankFinal
            · exact .cons blankBefore isValue blankAfter separated nonempty

theorem list_sound (sound : Sound item denotes) {close : Char} {comma : Bool} {budget : Nat}
    {text rest : List Char} {values : List Value}
    (read : items item close false budget text = some (values, comma, rest)) :
    ∃ inside, text = inside ++ close :: rest ∧ Separated denotes inside values comma := by
  obtain ⟨inside, parts, ⟨rfl, rfl, blank⟩ | ⟨_, separated⟩⟩ := items_sound sound read
  · exact ⟨inside, parts, .empty blank⟩
  · exact ⟨inside, parts, separated⟩

theorem tuple_form {inside : List Char} {values : List Value} {comma : Bool}
    (separated : Separated denotes inside values comma) :
    Form denotes ('(' :: inside ++ [')']) (tuple values comma) := by
  unfold tuple
  split
  · exact .grouping separated
  · rename_i notGrouping
    refine .tuple separated fun one => ?_
    obtain ⟨value, rfl⟩ := List.length_eq_one_iff.mp one
    cases comma with
    | true => rfl
    | false => exact absurd rfl (notGrouping value rfl)

theorem separated_cons {α : Type} {element : List Char → α → Prop}
    {before token after rest : List Char} {a : α} {others : List α} {comma : Bool}
    (blankBefore : Blanks before) (isElement : element token a) (blankAfter : Blanks after)
    (more : Separated element rest others comma) :
    ∃ flag, Separated element (before ++ token ++ after ++ ',' :: rest) (a :: others) flag := by
  cases others with
  | nil =>
    cases more with
    | empty blankFinal => exact ⟨true, .trailing blankBefore isElement blankAfter blankFinal⟩
  | cons other others =>
    exact ⟨comma, .cons blankBefore isElement blankAfter more (List.cons_ne_nil other others)⟩

theorem entries_sound (sound : Sound item denotes) {budget : Nat} {text rest : List Char}
    {bound read : List (String × Value)} (done : entries item budget bound text = some (read, rest)) :
    ∃ inside pairs comma, text = inside ++ '}' :: rest ∧ read = Entries.insertAll pairs bound ∧
      Separated (Entry denotes) inside pairs comma := by
  induction budget generalizing text bound with
  | zero => cases done
  | succ budget ih =>
    rw [entries] at done
    cases closed : eat '}' text with
    | some after =>
      rw [closed] at done
      cases done
      obtain ⟨before, blank, parts⟩ := eat_parts closed
      exact ⟨before, [], false, parts, rfl, .empty blank⟩
    | none =>
      rw [closed] at done
      cases first : item text with
      | none =>
        rw [first] at done
        cases done
      | some found =>
        obtain ⟨key, afterKey⟩ := found
        simp only [first] at done
        split at done
        · rename_i name value left named pair
          obtain ⟨afterColon, colon, second⟩ := Option.bind_eq_some_iff.mp pair
          obtain ⟨before, keyToken, blankBefore, isKey, parts⟩ := sound text key afterKey first
          obtain ⟨beforeColon, blankColon, keyParts⟩ := eat_parts colon
          obtain ⟨beforeValue, token, blankValue, isValue, valueParts⟩ := sound _ value left second
          have entry := Entry.intro isKey ((key_text_iff key name).mp named) blankColon blankValue isValue
          cases separated : eat ',' left with
          | none =>
            rw [separated] at done
            obtain ⟨after, ended, same⟩ := Option.map_eq_some_iff.mp done
            cases same
            obtain ⟨blanks, blankAfter, afterParts⟩ := eat_parts ended
            refine ⟨_, [(name, value)], false, ?_, rfl, .last blankBefore entry blankAfter⟩
            rw [parts, keyParts, valueParts, afterParts]
            simp
          | some next =>
            rw [separated] at done
            obtain ⟨blanks, blankAfter, afterParts⟩ := eat_parts separated
            obtain ⟨inside, pairs, comma, nextParts, rfl, more⟩ := ih done
            obtain ⟨flag, whole⟩ := separated_cons blankBefore entry blankAfter more
            refine ⟨_, (name, value) :: pairs, flag, ?_, rfl, whole⟩
            rw [parts, keyParts, valueParts, afterParts, nextParts]
            simp
        · cases done

end Elements

theorem word_value_iff (word : String) (value : Value) :
    wordValue? word = some value ↔ (word, value) ∈ wordTable := by
  unfold wordValue? wordTable
  constructor
  · intro found
    split at found <;> cases found <;> simp
  · intro listed
    simp only [List.mem_cons, Prod.mk.injEq, List.not_mem_nil, or_false] at listed
    rcases listed with ⟨rfl, rfl⟩ | ⟨rfl, rfl⟩ | ⟨rfl, rfl⟩ | ⟨rfl, rfl⟩ | ⟨rfl, rfl⟩ | ⟨rfl, rfl⟩ <;> rfl

theorem begins_number_iff (c : Char) :
    (Decimal.isDigit c || c == '-' || c == '+' || c == '.') = true ↔ BeginsNumber c := by
  simp only [BeginsNumber, Bool.or_eq_true, beq_iff_eq, or_assoc]

theorem continues_of_begins {c : Char} (begins : BeginsNumber c) : continuesNumber none c = true := by
  rcases begins with digit | rfl | rfl | rfl
  · simp [continuesNumber, digit]
  · rfl
  · rfl
  · rfl

theorem value_sound (budget levels : Nat) : Sound (value? budget levels) (Denotes levels) := by
  induction levels with
  | zero =>
    intro text value left read
    cases read
  | succ levels ih =>
    intro text value left read
    obtain ⟨before, blank, parts⟩ := skip_blank_parts text
    rw [value?] at read
    cases next : Text.skipBlank text with
    | nil =>
      rw [next] at read
      cases read
    | cons c rest =>
      rw [next] at parts read
      suffices ∃ token, Denotes (levels + 1) token value ∧ c :: rest = token ++ left by
        obtain ⟨token, isValue, same⟩ := this
        exact ⟨before, token, blank, isValue, by rw [parts, same, List.append_assoc]⟩
      dsimp only at read
      split at read
      · rename_i isQuote
        obtain ⟨⟨inside, after⟩, quoted, same⟩ := Option.map_eq_some_iff.mp read
        cases same
        obtain ⟨raw, shape, isQuoted⟩ := quoted_text_sound quoted
        exact ⟨c :: raw ++ [c], .string isQuote isQuoted, by rw [shape]; simp⟩
      split at read
      · rename_i opens
        obtain ⟨⟨values, comma, after⟩, found, same⟩ := Option.map_eq_some_iff.mp read
        cases same
        obtain ⟨inside, shape, separated⟩ := list_sound ih found
        exact ⟨'[' :: inside ++ [']'], .list separated, by rw [opens, shape]; simp⟩
      split at read
      · rename_i opens
        obtain ⟨⟨values, comma, after⟩, found, same⟩ := Option.map_eq_some_iff.mp read
        cases same
        obtain ⟨inside, shape, separated⟩ := list_sound ih found
        exact ⟨'(' :: inside ++ [')'], tuple_form separated, by rw [opens, shape]; simp⟩
      split at read
      · rename_i opens
        obtain ⟨⟨bound, after⟩, found, same⟩ := Option.map_eq_some_iff.mp read
        cases same
        obtain ⟨inside, pairs, comma, shape, rfl, separated⟩ := entries_sound ih found
        have binds := (binds_iff pairs _).mpr rfl
        exact ⟨'{' :: inside ++ ['}'], .map separated binds, by rw [opens, shape]; simp⟩
      split at read
      · rename_i begins
        obtain ⟨number, found, same⟩ := Option.map_eq_some_iff.mp read
        cases same
        obtain ⟨isToken, shape⟩ := number_token_parts none (c :: rest)
        have first := continues_of_begins ((begins_number_iff c).mp begins)
        rw [numberToken, if_pos first] at found isToken shape ⊢
        exact ⟨_, .number ((begins_number_iff c).mp begins) isToken found, shape⟩
      · obtain ⟨named, found, same⟩ := Option.map_eq_some_iff.mp read
        cases same
        have listed := (word_value_iff _ _).mp found
        refine ⟨_, .word listed, ?_⟩
        rw [String.toList_ofList]
        exact List.takeWhile_append_dropWhile.symm

end Stencil.Literal
