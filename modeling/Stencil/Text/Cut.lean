set_option autoImplicit false

namespace Stencil.Text

def cutAt (separator : Char) : List Char → Option (List Char × List Char)
  | [] => none
  | c :: rest =>
    if c = separator then some ([], rest)
    else (cutAt separator rest).map fun (before, after) => (c :: before, after)

def pieces (separates : Char → Bool) : List Char → List Char × List (List Char)
  | [] => ([], [])
  | c :: rest =>
    let others := pieces separates rest
    if separates c then ([], others.1 :: others.2) else (c :: others.1, others.2)

def cutAfter (first second : Char) : List Char → Option (List Char × List Char)
  | [] => none
  | c :: rest =>
    match rest with
    | d :: after =>
      if c = first ∧ d = second then some ([c, d], after)
      else (cutAfter first second rest).map fun (before, after) => (c :: before, after)
    | [] => none

def between (start finish text : List Char) : Option (List Char) :=
  if start.isPrefixOf text then
    let rest := text.drop start.length
    if finish.isSuffixOf rest then some (rest.take (rest.length - finish.length)) else none
  else none

theorem cutAfter_append {first second : Char} {text before after : List Char}
    (cut : cutAfter first second text = some (before, after)) : before ++ after = text := by
  induction text generalizing before after with
  | nil => simp [cutAfter] at cut
  | cons c rest ih =>
    cases rest with
    | nil => simp [cutAfter] at cut
    | cons d tail =>
      rw [cutAfter] at cut
      split at cut
      · cases cut
        rfl
      · obtain ⟨⟨b, a⟩, found, same⟩ := Option.map_eq_some_iff.mp cut
        cases same
        simpa using ih found

theorem between_eq_some_iff (start finish text inside : List Char) :
    between start finish text = some inside ↔ text = start ++ inside ++ finish := by
  rw [between]
  constructor
  · intro found
    split at found
    · rename_i starts
      obtain ⟨rest, rfl⟩ := List.isPrefixOf_iff_prefix.mp starts
      dsimp only at found
      rw [List.drop_left] at found
      split at found
      · rename_i finishes
        obtain ⟨middle, rfl⟩ := List.isSuffixOf_iff_suffix.mp finishes
        simp at found
        rw [found, List.append_assoc]
      · cases found
    · cases found
  · rintro rfl
    simp [List.append_assoc]

theorem cutAfter_eq_some {first second : Char} {text before after : List Char}
    (cut : cutAfter first second text = some (before, after)) :
    ∃ inside, before = inside ++ [first, second] ∧
      ∀ position < inside.length, ¬ [first, second] <+: text.drop position := by
  induction text generalizing before after with
  | nil => simp [cutAfter] at cut
  | cons c rest ih =>
    cases rest with
    | nil => simp [cutAfter] at cut
    | cons d tail =>
      rw [cutAfter] at cut
      split at cut
      · rename_i here
        cases cut
        exact ⟨[], by rw [here.1, here.2]; rfl, by simp⟩
      · rename_i notHere
        obtain ⟨⟨b, a⟩, found, same⟩ := Option.map_eq_some_iff.mp cut
        cases same
        obtain ⟨inside, shape, none⟩ := ih found
        refine ⟨c :: inside, by rw [shape]; rfl, fun position bound stands => ?_⟩
        cases position with
        | zero =>
          obtain ⟨_, same⟩ := stands
          cases same
          exact notHere ⟨rfl, rfl⟩
        | succ position => exact none position (Nat.lt_of_succ_lt_succ bound) stands

theorem cutAfter_eq_none {first second : Char} {text : List Char}
    (uncut : cutAfter first second text = none) (position : Nat) :
    ¬ [first, second] <+: text.drop position := by
  induction text generalizing position with
  | nil => simp
  | cons c rest ih =>
    intro stands
    cases rest with
    | nil =>
      have short := stands.length_le
      simp at short
      omega
    | cons d tail =>
      rw [cutAfter] at uncut
      split at uncut
      · cases uncut
      · rename_i notHere
        rw [Option.map_eq_none_iff] at uncut
        cases position with
        | zero =>
          obtain ⟨_, same⟩ := stands
          cases same
          exact notHere ⟨rfl, rfl⟩
        | succ position => exact ih uncut position stands

theorem pieces_free (separates : Char → Bool) (text : List Char) :
    ∀ piece ∈ (pieces separates text).1 :: (pieces separates text).2, ∀ c ∈ piece, separates c = false := by
  induction text with
  | nil => simp [pieces]
  | cons d rest ih =>
    obtain ⟨first, others⟩ := List.forall_mem_cons.mp ih
    cases split : separates d with
    | true =>
      simp only [pieces, split, if_true]
      exact List.forall_mem_cons.mpr ⟨List.forall_mem_nil _, ih⟩
    | false =>
      simp only [pieces, split, Bool.false_eq_true, if_false]
      exact List.forall_mem_cons.mpr ⟨List.forall_mem_cons.mpr ⟨split, first⟩, others⟩

theorem pieces_first_free (separates : Char → Bool) (text : List Char) (c : Char)
    (member : c ∈ (pieces separates text).1) : separates c = false :=
  pieces_free separates text _ List.mem_cons_self c member

theorem cutAt_eq_some {separator : Char} {text before after : List Char}
    (cut : cutAt separator text = some (before, after)) :
    text = before ++ separator :: after ∧ separator ∉ before := by
  induction text generalizing before with
  | nil => cases cut
  | cons c rest ih =>
    rw [cutAt] at cut
    split at cut
    · rename_i here
      cases cut
      exact ⟨by rw [here]; rfl, List.not_mem_nil⟩
    · rename_i different
      obtain ⟨⟨inside, left⟩, found, same⟩ := Option.map_eq_some_iff.mp cut
      cases same
      obtain ⟨parts, free⟩ := ih found
      refine ⟨by rw [parts]; rfl, fun member => ?_⟩
      rcases List.mem_cons.mp member with here | later
      · exact different here.symm
      · exact free later

theorem cutAt_of_free {separator : Char} {before : List Char} (free : separator ∉ before)
    (after : List Char) : cutAt separator (before ++ separator :: after) = some (before, after) := by
  induction before with
  | nil => exact if_pos rfl
  | cons c rest ih =>
    obtain ⟨different, restFree⟩ := not_or.mp (mt List.mem_cons.mpr free)
    rw [List.cons_append, cutAt, if_neg (Ne.symm different), ih restFree]
    rfl

theorem pair_infix_append (first second : Char) (one other : List Char) :
    [first, second] <:+: one ++ other ↔ [first, second] <:+: one ∨ [first, second] <:+: other ∨
      (one.getLast? = some first ∧ other.head? = some second) := by
  induction one with
  | nil => simp
  | cons c rest ih =>
    rw [List.cons_append, List.infix_cons_iff, List.infix_cons_iff, ih]
    cases rest with
    | nil =>
      cases other with
      | nil => simp
      | cons d more => grind
    | cons d more => grind

theorem cutAfter_longer {first second : Char} {text before after : List Char}
    (cut : cutAfter first second text = some (before, after)) (more : List Char) :
    cutAfter first second (text ++ more) = some (before, after ++ more) := by
  induction text generalizing before after with
  | nil => simp [cutAfter] at cut
  | cons c rest ih =>
    cases rest with
    | nil => simp [cutAfter] at cut
    | cons d tail =>
      rw [cutAfter] at cut
      rw [List.cons_append, List.cons_append, cutAfter]
      by_cases here : c = first ∧ d = second
      · rw [if_pos here] at cut ⊢
        cases cut
        rfl
      · rw [if_neg here] at cut ⊢
        obtain ⟨⟨b, a⟩, found, same⟩ := Option.map_eq_some_iff.mp cut
        cases same
        rw [← List.cons_append, ih found]
        rfl

-- The pair may not begin with the last character before it either, as `}}` does in `}}}`.
theorem cutAfter_free {first second : Char} {inside : List Char}
    (free : ¬ [first, second] <:+: inside ++ [first]) (rest : List Char) :
    cutAfter first second (inside ++ first :: second :: rest) =
      some (inside ++ [first, second], rest) := by
  induction inside with
  | nil => simp [cutAfter]
  | cons c tail ih =>
    rw [List.cons_append, List.infix_cons_iff, not_or] at free
    obtain ⟨notHere, tailFree⟩ := free
    cases tail with
    | nil =>
      have different : ¬ (c = first ∧ first = second) := by
        rintro ⟨rfl, rfl⟩
        exact notHere ⟨[], rfl⟩
      rw [List.cons_append, List.nil_append, cutAfter, if_neg different, ← List.nil_append (first :: _),
        ih tailFree]
      rfl
    | cons d more =>
      have different : ¬ (c = first ∧ d = second) := by
        rintro ⟨rfl, rfl⟩
        exact notHere ⟨more ++ [c], rfl⟩
      rw [List.cons_append, List.cons_append, cutAfter, if_neg different, ← List.cons_append,
        ih tailFree]
      rfl

theorem pieces_unseparated {separates : Char → Bool} {text : List Char}
    (free : ∀ c ∈ text, separates c = false) (rest : List Char) :
    pieces separates (text ++ rest) =
      (text ++ (pieces separates rest).1, (pieces separates rest).2) := by
  induction text with
  | nil => rfl
  | cons c tail ih =>
    have more := ih fun d member => free d (List.mem_cons_of_mem c member)
    rw [List.cons_append, pieces, more, free c List.mem_cons_self]
    rfl

theorem pieces_last {separates : Char → Bool} {separator : Char} {last : List Char}
    (separated : separates separator = true) (free : ∀ c ∈ last, separates c = false)
    (text : List Char) :
    pieces separates (text ++ separator :: last) =
      ((pieces separates text).1, (pieces separates text).2 ++ [last]) := by
  induction text with
  | nil =>
    have whole := pieces_unseparated free []
    rw [List.append_nil] at whole
    simp [pieces, separated, whole]
  | cons c rest ih =>
    rw [List.cons_append, pieces, pieces, ih]
    cases separates c <;> rfl

end Stencil.Text
