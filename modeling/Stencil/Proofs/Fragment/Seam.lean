import Stencil.Proofs.Fragment.Segmentation

set_option autoImplicit false

namespace Stencil

-- A text in which no tag begins, not even one that goes on in what follows the text.
structure Unopened (text : List Char) : Prop where
  noOutput : ¬ ['{', '{'] <:+: text
  noBlock : ¬ ['{', '%'] <:+: text
  noBrace : text.getLast? ≠ some '{'

theorem unopened_tail {c : Char} {text : List Char} (unopened : Unopened (c :: text)) :
    Unopened text where
  noOutput inside := unopened.noOutput (List.infix_cons_iff.mpr (.inr inside))
  noBlock inside := unopened.noBlock (List.infix_cons_iff.mpr (.inr inside))
  noBrace last := by
    apply unopened.noBrace
    rw [List.getLast?_cons, last]
    rfl

namespace Fragment

theorem tag?_unstarted {text : List Char} (noOutput : ¬ ['{', '{'] <+: text)
    (noBlock : ¬ ['{', '%'] <+: text) : tag? text = none := by
  unfold tag?
  split
  · rename_i rest
    exact absurd ⟨rest, rfl⟩ noOutput
  · rename_i rest
    exact absurd ⟨rest, rfl⟩ noBlock
  · rfl

theorem unopened_start {c : Char} {text : List Char} (unopened : Unopened (c :: text)) (d : Char)
    (delimiter : ¬ ['{', d] <:+: c :: text) (rest : List Char) : ¬ ['{', d] <+: c :: text ++ rest := by
  intro starts
  cases text with
  | nil =>
    obtain ⟨_, shape⟩ := starts
    cases shape
    exact unopened.noBrace rfl
  | cons second text =>
    obtain ⟨_, shape⟩ := starts
    cases shape
    exact delimiter ⟨[], text, rfl⟩

theorem tag?_unopened {text : List Char} (nonempty : text ≠ []) (unopened : Unopened text)
    (rest : List Char) : tag? (text ++ rest) = none := by
  obtain ⟨c, tail, rfl⟩ := List.exists_cons_of_ne_nil nonempty
  apply tag?_unstarted
  · exact unopened_start unopened '{' unopened.noOutput rest
  · exact unopened_start unopened '%' unopened.noBlock rest

theorem tag?_longer {text piece after : List Char} (found : tag? text = some (piece, after))
    (more : List Char) : tag? (text ++ more) = some (piece, after ++ more) := by
  unfold tag? at found
  split at found
  · obtain ⟨⟨inside, left⟩, cut, same⟩ := Option.map_eq_some_iff.mp found
    cases same
    rw [List.cons_append, List.cons_append, tag?, Text.cutAfter_longer cut]
    rfl
  · obtain ⟨⟨inside, left⟩, cut, same⟩ := Option.map_eq_some_iff.mp found
    cases same
    rw [List.cons_append, List.cons_append, tag?, Text.cutAfter_longer cut]
    rfl
  · cases found

theorem untilTag_at_tag {text : List Char} (here : text = [] ∨ tag? text ≠ none) :
    untilTag text = ([], text) := by
  cases text with
  | nil => rfl
  | cons c rest =>
    rcases here with empty | tag
    · cases empty
    · rw [untilTag, if_pos (Option.isSome_iff_ne_none.mpr tag)]

theorem untilTag_unopened {text : List Char} (unopened : Unopened text) (rest : List Char) :
    untilTag (text ++ rest) = (text ++ (untilTag rest).1, (untilTag rest).2) := by
  induction text with
  | nil => rfl
  | cons c tail ih =>
    have noTag : ¬ (tag? (c :: (tail ++ rest))).isSome = true := by
      rw [← List.cons_append, tag?_unopened (List.cons_ne_nil c tail) unopened rest]
      exact Bool.false_ne_true
    rw [List.cons_append, untilTag, if_neg noTag, ih (unopened_tail unopened)]
    rfl

theorem untilTag_stops (text : List Char) :
    (untilTag text).2 = [] ∨ tag? (untilTag text).2 ≠ none := by
  induction text with
  | nil => exact .inl rfl
  | cons c rest ih =>
    rw [untilTag]
    by_cases tag : (tag? (c :: rest)).isSome = true
    · rw [if_pos tag]
      exact .inr (Option.isSome_iff_ne_none.mp tag)
    · rw [if_neg tag]
      exact ih

theorem first?_tag {text piece after : List Char} (found : tag? text = some (piece, after)) :
    first? text = some (piece, after) := by
  have nonempty : text ≠ [] := by
    rintro rfl
    cases found
  rw [first?, if_neg (by simpa using nonempty), found]

theorem first?_gap {text : List Char} (nonempty : text ≠ []) (noTag : tag? text = none) :
    first? text = some (untilTag text) := by
  rw [first?, if_neg (by simpa using nonempty), noTag]

theorem kind_of_gap {text : List Char} (nonempty : text ≠ []) (noTag : tag? text = none) :
    (ofRaw (String.ofList (untilTag text).1)).kind = .text := by
  cases first?_cut (first?_gap nonempty noTag) with
  | rest none raw kind => exact kind
  | gap first tag before raw kind => exact kind
  | tag tag close spans nearest raw kind => exact absurd ⟨tag, close, spans⟩ (tag?_none noTag)

theorem untilTag_plain {text : List Char} (noOutput : ¬ ['{', '{'] <:+: text)
    (noBlock : ¬ ['{', '%'] <:+: text) : untilTag text = (text, []) := by
  obtain ⟨count, split, _, stop⟩ := untilTag_cut text
  rcases stop with ⟨tag, close, starts, _⟩ | whole
  · have inside := starts.isInfix.trans (List.drop_suffix count text).isInfix
    cases tag with
    | interpolation => exact absurd inside noOutput
    | block => exact absurd inside noBlock
  · rw [split, whole, List.take_length, List.drop_length]

theorem tag?_plain {text : List Char} (noOutput : ¬ ['{', '{'] <:+: text)
    (noBlock : ¬ ['{', '%'] <:+: text) : tag? text = none :=
  tag?_unstarted (fun starts => noOutput starts.isInfix) fun starts => noBlock starts.isInfix

theorem toList_plain {text : List Char} (nonempty : text ≠ []) (noOutput : ¬ ['{', '{'] <:+: text)
    (noBlock : ¬ ['{', '%'] <:+: text) :
    (Cursor.mk text).toList = [ofRaw (String.ofList text)] ∧
      (ofRaw (String.ofList text)).kind = .text := by
  have noTag := tag?_plain noOutput noBlock
  have first := first?_gap nonempty noTag
  have kind := kind_of_gap nonempty noTag
  rw [untilTag_plain noOutput noBlock] at first kind
  refine ⟨?_, kind⟩
  rw [toList_of_first? first, toList_nil]

theorem kind_of_tag {text piece after : List Char} (found : tag? text = some (piece, after)) :
    (ofRaw (String.ofList piece)).kind ≠ .text := by
  obtain ⟨tag, inside, rfl, _, _⟩ := tag?_cut found
  rw [ofRaw_tag]
  exact tag_kind_ne_text tag inside

inductive Joins (one other whole : List Fragment) : Prop where
  | apart (same : whole = one ++ other) : Joins one other whole
  | merged (before after : List Fragment) (last first : Fragment) (ends : one = before ++ [last])
      (begins : other = first :: after) (lastText : last.kind = .text) (firstText : first.kind = .text)
      (mergedText : (ofRaw (last.raw ++ first.raw)).kind = .text)
      (same : whole = before ++ ofRaw (last.raw ++ first.raw) :: after) : Joins one other whole

theorem joins_cons {one other whole : List Fragment} (joins : Joins one other whole)
    (fragment : Fragment) : Joins (fragment :: one) other (fragment :: whole) := by
  cases joins with
  | apart same => exact .apart (by rw [same, List.cons_append])
  | merged before after last first ends begins lastText firstText mergedText same =>
    exact .merged (fragment :: before) after last first (by rw [ends, List.cons_append]) begins lastText
      firstText mergedText (by rw [same, List.cons_append])

theorem first?_unopened {text : List Char} (nonempty : text ≠ []) (unopened : Unopened text)
    (rest : List Char) :
    first? (text ++ rest) = some (text ++ (untilTag rest).1, (untilTag rest).2) := by
  rw [first?_gap (List.append_ne_nil_of_left_ne_nil nonempty rest)
    (tag?_unopened nonempty unopened rest), untilTag_unopened unopened]

theorem kind_of_unopened {text : List Char} (nonempty : text ≠ []) (unopened : Unopened text) :
    (ofRaw (String.ofList text)).kind = .text :=
  (toList_plain nonempty unopened.noOutput unopened.noBlock).2

theorem unopened_fragments {text : List Char} (unopened : Unopened text) :
    ∀ fragment ∈ (Cursor.mk text).toList, fragment.kind = .text → Unopened fragment.raw.toList := by
  intro fragment member _
  by_cases empty : text = []
  · rw [empty, toList_nil] at member
    cases member
  · rw [(toList_plain empty unopened.noOutput unopened.noBlock).1, List.mem_singleton] at member
    rwa [member, ofRaw_raw, String.toList_ofList]

theorem joins_last {text : List Char} (nonempty : text ≠ []) (unopened : Unopened text)
    (other : List Char) : Joins [ofRaw (String.ofList text)] (Cursor.mk other).toList
      (Cursor.mk (text ++ other)).toList := by
  have whole := toList_of_first? (first?_unopened nonempty unopened other)
  by_cases here : other = [] ∨ tag? other ≠ none
  · rw [untilTag_at_tag here, List.append_nil] at whole
    exact .apart whole
  · obtain ⟨otherNonempty, noTag⟩ := not_or.mp here
    have noTag := Decidable.not_not.mp noTag
    have begins := toList_of_first? (first?_gap otherNonempty noTag)
    have raws : (ofRaw (String.ofList text)).raw ++ (ofRaw (String.ofList (untilTag other).1)).raw =
        String.ofList (text ++ (untilTag other).1) := by
      rw [ofRaw_raw, ofRaw_raw, String.ofList_append]
    have mergedText := kind_of_gap (List.append_ne_nil_of_left_ne_nil nonempty other)
      (tag?_unopened nonempty unopened other)
    refine .merged [] _ _ _ rfl begins (kind_of_unopened nonempty unopened)
      (kind_of_gap otherNonempty noTag) ?_ ?_
    · rw [raws]
      rwa [untilTag_unopened unopened] at mergedText
    · rw [raws]
      exact whole

theorem toList_before_longer_tag {text after : List Char} (nonempty : text ≠ [])
    (unopened : Unopened text) (tag : tag? after ≠ none) (other : List Char) :
    (Cursor.mk (text ++ after ++ other)).toList =
      ofRaw (String.ofList text) :: (Cursor.mk (after ++ other)).toList := by
  have more : tag? (after ++ other) ≠ none := by
    obtain ⟨⟨inside, left⟩, begins⟩ := Option.ne_none_iff_exists'.mp tag
    rw [tag?_longer begins other]
    exact Option.some_ne_none _
  have first := first?_unopened nonempty unopened (after ++ other)
  rw [untilTag_at_tag (.inr more), List.append_nil, ← List.append_assoc] at first
  exact toList_of_first? first

theorem joins_append (one other : List Char)
    (unopened : ∀ fragment ∈ (Cursor.mk one).toList, fragment.kind = .text →
      Unopened fragment.raw.toList) :
    Joins (Cursor.mk one).toList (Cursor.mk other).toList (Cursor.mk (one ++ other)).toList := by
  revert unopened
  refine cursor_induction (motive := fun text fragments =>
    (∀ fragment ∈ fragments, fragment.kind = .text → Unopened fragment.raw.toList) →
      Joins fragments (Cursor.mk other).toList (Cursor.mk (text ++ other)).toList)
    (fun _ => .apart rfl) ?_ one
  intro text piece after found ih unopened
  have later := ih fun fragment member => unopened fragment (List.mem_cons_of_mem _ member)
  have nonempty := ne_nil_of_first? found
  cases cut : tag? text with
  | some parts =>
    have same := (first?_tag cut).symm.trans found
    cases same
    rw [toList_of_first? (first?_tag (tag?_longer cut other))]
    exact joins_cons later _
  | none =>
    have textNonempty : text ≠ [] := by
      rintro rfl
      cases found
    have same := (first?_gap textNonempty cut).symm.trans found
    have split := Option.some.inj same
    have kind := kind_of_gap textNonempty cut
    rw [split] at kind
    have plain := unopened _ List.mem_cons_self kind
    rw [ofRaw_raw, String.toList_ofList] at plain
    have parts := append_of_first? found
    by_cases ended : after = []
    · rw [ended, List.append_nil] at parts
      rw [ended, toList_nil, ← parts]
      exact joins_last nonempty plain other
    · have tag : tag? after ≠ none := by
        have stops := untilTag_stops text
        rw [split] at stops
        exact stops.resolve_left ended
      rw [← parts, toList_before_longer_tag nonempty plain tag other]
      exact joins_cons later _

theorem toList_before_tag {one text piece after : List Char}
    (unopened : ∀ fragment ∈ (Cursor.mk one).toList, fragment.kind = .text →
      Unopened fragment.raw.toList)
    (found : tag? text = some (piece, after)) :
    (Cursor.mk (one ++ text)).toList =
      (Cursor.mk one).toList ++ ofRaw (String.ofList piece) :: (Cursor.mk after).toList := by
  have tagged := toList_of_first? (first?_tag found)
  cases joins_append one text unopened with
  | apart same => rw [same, tagged]
  | merged before rest last first ends begins lastText firstText mergedText same =>
    have head := (List.cons.inj (tagged.symm.trans begins)).1
    exact absurd (head ▸ firstText) (kind_of_tag found)

theorem tag?_enclosed (tag : Tag) {inside : List Char}
    (free : ¬ tag.finish <:+: inside ++ tag.finish.take 1) (rest : List Char) :
    tag? (tag.start ++ inside ++ tag.finish ++ rest) = some (tag.start ++ inside ++ tag.finish, rest) := by
  cases tag with
  | interpolation => simp [Tag.start, Tag.finish, tag?, Text.cutAfter_free free rest]
  | block => simp [Tag.start, Tag.finish, tag?, Text.cutAfter_free free rest]

end Fragment

end Stencil
