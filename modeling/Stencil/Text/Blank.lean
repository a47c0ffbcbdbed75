import Stencil.Text.Cut

set_option autoImplicit false

namespace Stencil.Text

-- The characters with the Unicode property White_Space.
def isBlank (c : Char) : Bool :=
  let point := c.toNat
  (0x09 ≤ point && point ≤ 0x0D) || point == 0x20 || point == 0x85 || point == 0xA0 ||
    point == 0x1680 || (0x2000 ≤ point && point ≤ 0x200A) || point == 0x2028 || point == 0x2029 ||
    point == 0x202F || point == 0x205F || point == 0x3000

def skipBlank (text : List Char) : List Char :=
  text.dropWhile isBlank

def trim (text : List Char) : List Char :=
  ((skipBlank text).reverse.dropWhile isBlank).reverse

def words (text : List Char) : List (List Char) :=
  let runs := pieces isBlank text
  (runs.1 :: runs.2).filter fun run => !run.isEmpty

def afterFirstBlank (text : List Char) : List Char :=
  trim ((text.dropWhile fun c => !isBlank c).drop 1)

structure IsWord (word : List Char) : Prop where
  nonempty : word ≠ []
  unbroken : ∀ c ∈ word, isBlank c = false

instance (word : List Char) : Decidable (IsWord word) :=
  @decidable_of_iff _ (word ≠ [] ∧ ∀ c ∈ word, isBlank c = false)
    ⟨fun parts => ⟨parts.1, parts.2⟩, fun isWord => ⟨isWord.nonempty, isWord.unbroken⟩⟩
    (@instDecidableAnd _ _ _ (List.decidableBAll _ _))

theorem word_of_mem_words {text word : List Char} (member : word ∈ words text) : IsWord word := by
  obtain ⟨run, nonempty⟩ := List.mem_filter.mp member
  exact ⟨by simpa using nonempty, pieces_free isBlank text word run⟩

section Words

variable {word : List Char} {c : Char}

theorem words_blank (blank : isBlank c = true) (rest : List Char) : words (c :: rest) = words rest := by
  simp [words, pieces, blank]

theorem words_word_blank (isWord : IsWord word) (blank : isBlank c = true) (rest : List Char) :
    words (word ++ c :: rest) = word :: words rest := by
  have runs := pieces_unseparated isWord.unbroken (c :: rest)
  simp [words, runs, pieces, blank, isWord.nonempty]

theorem words_word (isWord : IsWord word) : words word = [word] := by
  have runs := pieces_unseparated isWord.unbroken []
  rw [List.append_nil] at runs
  simp [words, runs, pieces, isWord.nonempty]

theorem afterFirstBlank_word (isWord : IsWord word) (blank : isBlank c = true) (rest : List Char) :
    afterFirstBlank (word ++ c :: rest) = trim rest := by
  have within : ∀ d ∈ word, (!isBlank d) = true := by
    intro d member
    rw [isWord.unbroken d member]
    rfl
  rw [afterFirstBlank, List.dropWhile_append_of_pos within, List.dropWhile_cons_of_neg (by simp [blank]),
    List.drop_one, List.tail_cons]

theorem words_blanks {gap : List Char} (blank : ∀ d ∈ gap, isBlank d = true) (rest : List Char) :
    words (gap ++ rest) = words rest := by
  induction gap with
  | nil => rfl
  | cons d more ih =>
    rw [List.cons_append, words_blank (blank d List.mem_cons_self)]
    exact ih fun e member => blank e (List.mem_cons_of_mem d member)

end Words

section Trim

def NoOuterBlank (text : List Char) : Prop :=
  (∀ c ∈ text.head?, isBlank c = false) ∧ ∀ c ∈ text.getLast?, isBlank c = false

theorem no_outer_blank_append {first middle last : List Char} (firstNonempty : first ≠ [])
    (lastNonempty : last ≠ []) (noFirst : NoOuterBlank first) (noLast : NoOuterBlank last) :
    NoOuterBlank (first ++ middle ++ last) := by
  refine ⟨fun c begins => noFirst.1 c ?_, fun c ends => noLast.2 c ?_⟩
  · rwa [List.append_assoc, List.head?_append, List.head?_eq_some_head firstNonempty, Option.some_or,
      ← List.head?_eq_some_head firstNonempty] at begins
  · rwa [List.getLast?_append, List.getLast?_eq_some_getLast lastNonempty, Option.some_or,
      ← List.getLast?_eq_some_getLast lastNonempty] at ends

theorem dropWhile_first (text : List Char) : ∀ c ∈ (text.dropWhile isBlank).head?, isBlank c = false := by
  intro c first
  have stopped := List.head?_dropWhile_not isBlank text
  rw [Option.mem_def.mp first] at stopped
  exact stopped

theorem dropWhile_unblank {text : List Char} (first : ∀ c ∈ text.head?, isBlank c = false) :
    text.dropWhile isBlank = text := by
  cases text with
  | nil => rfl
  | cons c rest =>
    have notBlank := first c rfl
    exact List.dropWhile_cons_of_neg (by rw [notBlank]; exact Bool.false_ne_true)

theorem dropWhile_all_blank {text : List Char} (blank : ∀ c ∈ text, isBlank c = true) :
    text.dropWhile isBlank = [] := by
  have dropped : (text ++ []).dropWhile isBlank = ([] : List Char).dropWhile isBlank :=
    List.dropWhile_append_of_pos blank
  rw [List.append_nil] at dropped
  exact dropped

theorem trim_between {before core after : List Char} (blankBefore : ∀ c ∈ before, isBlank c = true)
    (noOuter : NoOuterBlank core) (blankAfter : ∀ c ∈ after, isBlank c = true) :
    trim (before ++ core ++ after) = core := by
  rw [trim, skipBlank]
  by_cases empty : core = []
  · have all : ∀ c ∈ before ++ after, isBlank c = true := by
      intro c member
      exact (List.mem_append.mp member).elim (blankBefore c) (blankAfter c)
    rw [empty, List.append_nil, dropWhile_all_blank all]
    rfl
  · have started : (core ++ after).dropWhile isBlank = core ++ after := by
      apply dropWhile_unblank
      obtain ⟨first, rest, shape⟩ := List.exists_cons_of_ne_nil empty
      rw [shape] at noOuter ⊢
      exact noOuter.1
    have ended : core.reverse.dropWhile isBlank = core.reverse := by
      apply dropWhile_unblank
      rw [List.head?_reverse]
      exact noOuter.2
    have reversed : ∀ c ∈ after.reverse, isBlank c = true :=
      fun c member => blankAfter c (List.mem_reverse.mp member)
    rw [List.append_assoc, List.dropWhile_append_of_pos blankBefore, started, List.reverse_append,
      List.dropWhile_append_of_pos reversed, ended, List.reverse_reverse]

theorem trim_front {before core : List Char} (blankBefore : ∀ c ∈ before, isBlank c = true)
    (noOuter : NoOuterBlank core) : trim (before ++ core) = core := by
  have trimmed := trim_between blankBefore noOuter (List.forall_mem_nil _)
  rwa [List.append_nil] at trimmed

theorem trim_parts (text : List Char) :
    ∃ before after, text = before ++ trim text ++ after ∧ (∀ c ∈ before, isBlank c = true) ∧
      NoOuterBlank (trim text) ∧ ∀ c ∈ after, isBlank c = true := by
  have whole : skipBlank text = trim text ++ ((skipBlank text).reverse.takeWhile isBlank).reverse := by
    rw [trim, ← List.reverse_append, List.takeWhile_append_dropWhile, List.reverse_reverse]
  refine ⟨text.takeWhile isBlank, ((skipBlank text).reverse.takeWhile isBlank).reverse, ?_,
    List.all_eq_true.mp List.all_takeWhile, ⟨?_, ?_⟩, ?_⟩
  · rw [List.append_assoc, ← whole, skipBlank, List.takeWhile_append_dropWhile]
  · intro c first
    apply dropWhile_first text c
    rw [← skipBlank, whole, List.head?_append, Option.mem_def.mp first]
    rfl
  · rw [trim, List.getLast?_reverse]
    exact dropWhile_first _
  · intro c member
    exact List.all_eq_true.mp List.all_takeWhile c (List.mem_reverse.mp member)

theorem trim_ne_nil {text : List Char} (visible : ∃ c ∈ text, isBlank c = false) : trim text ≠ [] := by
  obtain ⟨c, member, notBlank⟩ := visible
  obtain ⟨before, after, parts, blankBefore, _, blankAfter⟩ := trim_parts text
  intro empty
  rw [parts, empty, List.append_nil] at member
  have blank := (List.mem_append.mp member).elim (blankBefore c) (blankAfter c)
  rw [blank] at notBlank
  cases notBlank

end Trim

-- The text is these words, with one blank or more between two of them and none outside.
inductive Spaced : List (List Char) → List Char → Prop where
  | one {word : List Char} (isWord : IsWord word) : Spaced [word] word
  | more {word gap text : List Char} {list : List (List Char)} (isWord : IsWord word) (apart : gap ≠ [])
      (blank : ∀ c ∈ gap, isBlank c = true) (rest : Spaced list text) :
      Spaced (word :: list) (word ++ gap ++ text)

theorem words_spaced {list : List (List Char)} {text : List Char} (spaced : Spaced list text) :
    words text = list := by
  induction spaced with
  | one isWord => exact words_word isWord
  | more isWord apart blank rest ih =>
    obtain ⟨c, gap, rfl⟩ := List.exists_cons_of_ne_nil apart
    rw [List.append_assoc, List.cons_append, words_word_blank isWord (blank c List.mem_cons_self),
      words_blanks (fun d member => blank d (List.mem_cons_of_mem c member)), ih]

theorem word_no_outer_blank {word : List Char} (isWord : IsWord word) : NoOuterBlank word :=
  ⟨fun c begins => isWord.unbroken c (List.mem_of_mem_head? begins),
    fun c ends => isWord.unbroken c (List.mem_of_getLast? ends)⟩

theorem spaced_no_outer_blank {list : List (List Char)} {text : List Char} (spaced : Spaced list text) :
    text ≠ [] ∧ NoOuterBlank text := by
  induction spaced with
  | one isWord => exact ⟨isWord.nonempty, word_no_outer_blank isWord⟩
  | more isWord apart blank rest ih =>
    refine ⟨List.append_ne_nil_of_right_ne_nil _ ih.1, ?_⟩
    exact no_outer_blank_append isWord.nonempty ih.1 (word_no_outer_blank isWord) ih.2

end Stencil.Text
