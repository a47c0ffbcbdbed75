import Stencil.Proofs.Literal.Reading

set_option autoImplicit false

namespace Stencil.Literal

section Gap

variable {α : Type}

inductive Gap (element : List Char → α → Prop) :
    List Char → List Char → List α → List α → Bool → Prop where
  | last {before after : List Char} (blankBefore : Blanks before) (blankAfter : Blanks after) :
      Gap element before after [] [] false
  | trailing {before after final : List Char} (blankBefore : Blanks before)
      (blankAfter : Blanks after) (blankFinal : Blanks final) :
      Gap element before (after ++ ',' :: final) [] [] true
  | first {before after rest : List Char} {others : List α} {comma : Bool}
      (blankBefore : Blanks before) (blankAfter : Blanks after)
      (more : Separated element rest others comma) (nonempty : others ≠ []) :
      Gap element before (after ++ ',' :: rest) [] others comma
  | later {before token after front back : List Char} {a : α} {left right : List α} {comma : Bool}
      (blankBefore : Blanks before) (denotes : element token a) (blankAfter : Blanks after)
      (more : Gap element front back left right comma) :
      Gap element (before ++ token ++ after ++ ',' :: front) back (a :: left) right comma

variable {element : List Char → α → Prop}

theorem separated_of_gap {front token back : List Char} {left right : List α} {a : α} {comma : Bool}
    (gap : Gap element front back left right comma) (denotes : element token a) :
    Separated element (front ++ token ++ back) (left ++ a :: right) comma := by
  induction gap with
  | last blankBefore blankAfter => exact .last blankBefore denotes blankAfter
  | trailing blankBefore blankAfter blankFinal =>
    rw [← List.append_assoc]
    exact .trailing blankBefore denotes blankAfter blankFinal
  | first blankBefore blankAfter more nonempty =>
    rw [← List.append_assoc]
    exact .cons blankBefore denotes blankAfter more nonempty
  | later blankBefore isElement blankAfter _ ih =>
    have whole := Separated.cons blankBefore isElement blankAfter ih (by simp)
    simpa using whole

theorem gap_of_separated {text : List Char} {left right : List α} {a : α} {comma : Bool}
    (separated : Separated element text (left ++ a :: right) comma) :
    ∃ front token back, text = front ++ token ++ back ∧ element token a ∧
      Gap element front back left right comma := by
  induction left generalizing text with
  | nil =>
    cases separated with
    | last blankBefore denotes blankAfter => exact ⟨_, _, _, rfl, denotes, .last blankBefore blankAfter⟩
    | trailing blankBefore denotes blankAfter blankFinal =>
      exact ⟨_, _, _, List.append_assoc .., denotes, .trailing blankBefore blankAfter blankFinal⟩
    | cons blankBefore denotes blankAfter more nonempty =>
      exact ⟨_, _, _, List.append_assoc .., denotes, .first blankBefore blankAfter more nonempty⟩
  | cons b left ih =>
    generalize all : b :: left ++ a :: right = elements at separated
    cases separated with
    | empty => cases all
    | last => simp at all
    | trailing => simp at all
    | cons blankBefore denotes blankAfter more nonempty =>
      obtain ⟨rfl, rfl⟩ := List.cons.inj all
      obtain ⟨front, token, back, rfl, isElement, gap⟩ := ih more
      refine ⟨_, token, back, ?_, isElement, .later blankBefore denotes blankAfter gap⟩
      simp

theorem separated_iff_gap (text : List Char) (left right : List α) (a : α) (comma : Bool) :
    Separated element text (left ++ a :: right) comma ↔
      ∃ front token back, text = front ++ token ++ back ∧ element token a ∧
        Gap element front back left right comma := by
  refine ⟨gap_of_separated, ?_⟩
  rintro ⟨front, token, back, rfl, denotes, gap⟩
  exact separated_of_gap gap denotes

end Gap

-- A place for a value in a literal: an item of a list or a tuple, or the value of an entry of a map, at
-- any depth. Its whole literal has `levels` levels, `inner` of them are left for the value, and `whole`
-- is what it denotes.
inductive Place : Nat → Nat → List Char → List Char → (Value → Value) → Prop where
  | here {levels : Nat} : Place levels levels [] [] id
  | list {levels inner : Nat} {front back before after : List Char} {left right : List Value}
      {comma : Bool} {whole : Value → Value} (gap : Gap (Denotes levels) front back left right comma)
      (inside : Place levels inner before after whole) :
      Place (levels + 1) inner ('[' :: front ++ before) (after ++ back ++ [']'])
        fun value => .array (left ++ whole value :: right)
  | grouping {levels inner : Nat} {front back before after : List Char} {whole : Value → Value}
      (gap : Gap (Denotes levels) front back [] [] false)
      (inside : Place levels inner before after whole) :
      Place (levels + 1) inner ('(' :: front ++ before) (after ++ back ++ [')']) whole
  | tuple {levels inner : Nat} {front back before after : List Char} {left right : List Value}
      {comma : Bool} {whole : Value → Value} (gap : Gap (Denotes levels) front back left right comma)
      (notGrouping : left = [] → right = [] → comma = true)
      (inside : Place levels inner before after whole) :
      Place (levels + 1) inner ('(' :: front ++ before) (after ++ back ++ [')'])
        fun value => .array (left ++ whole value :: right)
  | map {levels inner : Nat} {front back beforeColon afterColon before after keyToken : List Char}
      {left right : List (String × Value)} {comma : Bool} {key : Value} {name : String}
      {whole : Value → Value} {bound : Value → List (String × Value)}
      (gap : Gap (Entry (Denotes levels)) front back left right comma)
      (denotesKey : Denotes levels keyToken key) (named : KeyText key name)
      (blankBefore : Blanks beforeColon) (blankAfter : Blanks afterColon)
      (inside : Place levels inner before after whole)
      (binds : ∀ value, Binds (left ++ (name, whole value) :: right) (bound value)) :
      Place (levels + 1) inner
        ('{' :: front ++ (keyToken ++ beforeColon ++ ':' :: (afterColon ++ before)))
        (after ++ back ++ ['}']) fun value => .map (bound value)

theorem enclosed_place (opening closing : Char) (front before token after back : List Char) :
    (opening :: front ++ before) ++ token ++ (after ++ back ++ [closing]) =
      opening :: (front ++ (before ++ token ++ after) ++ back) ++ [closing] := by
  simp

theorem denotes_place {levels inner : Nat} {front back token : List Char} {whole : Value → Value}
    {value : Value} (place : Place levels inner front back whole)
    (denotes : Denotes inner token value) :
    Denotes levels (front ++ token ++ back) (whole value) := by
  induction place with
  | here => simpa using denotes
  | list gap inside ih =>
    rw [enclosed_place]
    exact .list (separated_of_gap gap (ih denotes))
  | grouping gap inside ih =>
    rw [enclosed_place]
    exact .grouping (separated_of_gap gap (ih denotes))
  | tuple gap notGrouping inside ih =>
    rw [enclosed_place]
    refine .tuple (separated_of_gap gap (ih denotes)) fun one => ?_
    rw [List.length_append, List.length_cons] at one
    exact notGrouping (List.eq_nil_of_length_eq_zero (by omega)) (List.eq_nil_of_length_eq_zero (by omega))
  | map gap denotesKey named blankBefore blankAfter inside binds ih =>
    have entry := Entry.intro denotesKey named blankBefore blankAfter (ih denotes)
    have form := Form.map (separated_of_gap gap entry) (binds value)
    rw [Denotes]
    simpa using form

end Stencil.Literal
