import Stencil.Proofs.Template.Concatenation

set_option autoImplicit false

namespace Stencil

def Tag.mark : Tag → Char
  | .interpolation => '{'
  | .block => '%'

theorem starts_iff (tag : Tag) (text : List Char) (position : Nat) :
    tag.start <+: text.drop position ↔
      text[position]? = some '{' ∧ text[position + 1]? = some tag.mark := by
  have start : tag.start = ['{', tag.mark] := by
    cases tag <;> rfl
  rw [start, List.prefix_iff_getElem?]
  constructor
  · intro starts
    have first := starts 0 (by simp)
    have second := starts 1 (by simp)
    simpa using And.intro first second
  · rintro ⟨first, second⟩ index bound
    match index, bound with
    | 0, _ => simpa using first
    | 1, _ => simpa using second

theorem slice_getElem? (text : List Char) {start stop index : Nat} (inside : start + index < stop) :
    (slice text start stop)[index]? = text[start + index]? := by
  rw [slice, List.getElem?_take_of_lt (by omega), List.getElem?_drop]

theorem infix_of_marks {raw : List Char} {tag : Tag} (index : Nat) (first : raw[index]? = some '{')
    (second : raw[index + 1]? = some tag.mark) : tag.start <:+: raw :=
  ((starts_iff tag raw index).mpr ⟨first, second⟩).isInfix.trans (List.drop_suffix index raw).isInfix

theorem plain_of_compile {source : String} {template : Template}
    (compiled : Template.compile source = .ok template) {fragment : Fragment}
    (member : fragment ∈ fragments source) (isText : fragment.kind = .text) (tag : Tag) :
    ¬ tag.start <:+: fragment.raw.toList := by
  obtain ⟨items, ⟨formed, parts, _⟩, _⟩ := derivation_of_compile compiled
  rw [← parts] at member
  cases Item.text_plays formed member isText with
  | text kind noOutput noBlock =>
    cases tag with
    | interpolation => exact noOutput
    | block => exact noBlock

section Gap

variable {text : List Char} {start first position : Nat}

theorem brace_of_spans {tag : Tag} {close : Nat} (spans : tag.Spans text first close) :
    text[first]? = some '{' ∧ text[first + 1]? = some tag.mark :=
  (starts_iff tag text first).mp spans.1

theorem last_of_gap {raw : List Char} {tag : Tag} (isSlice : raw = slice text start first)
    (plain : ∀ tag : Tag, ¬ tag.start <:+: raw) (inside : start ≤ position)
    (before : position < first) (opens : tag.start <+: text.drop position) : position + 1 = first := by
  obtain ⟨brace, mark⟩ := (starts_iff tag text position).mp opens
  obtain ⟨index, rfl⟩ := Nat.exists_eq_add_of_le inside
  by_cases last : start + index + 1 = first
  · exact last
  · have firstMark : raw[index]? = some '{' := by
      rw [isSlice, slice_getElem? text before, brace]
    have secondMark : raw[index + 1]? = some tag.mark := by
      rw [isSlice, slice_getElem? text (by omega), ← Nat.add_assoc, mark]
    exact absurd (infix_of_marks index firstMark secondMark) (plain tag)

theorem tag_after_brace {tag : Tag} (least : FirstTag text start first) (inside : start ≤ position)
    (last : position + 1 = first) (opens : tag.start <+: text.drop position) :
    tag = .interpolation ∧ (∃ close, Tag.block.Spans text first close) ∧
      ∀ later, position + 2 ≤ later → ¬ Tag.interpolation.finish <+: text.drop later := by
  obtain ⟨_, ⟨other, close, spans⟩, none⟩ := least
  obtain ⟨brace, mark⟩ := (starts_iff tag text position).mp opens
  have pair : tag = .interpolation := by
    rw [last, (brace_of_spans spans).1] at mark
    cases tag with
    | interpolation => rfl
    | block => cases mark
  subst pair
  -- Were the pair of braces closed, a tag would begin at the first brace already.
  have unclosed : ∀ later, position + 2 ≤ later → ¬ Tag.interpolation.finish <+: text.drop later :=
    fun later room closes => none position inside (by omega) ⟨_, later, opens, room, closes⟩
  refine ⟨rfl, ⟨close, ?_⟩, unclosed⟩
  cases other with
  | interpolation =>
    have room := spans.2.1
    exact absurd spans.2.2 (unclosed close (by omega))
  | block => exact spans

end Gap

def Fragment.IsBlockTag (fragment : Fragment) : Prop :=
  fragment.kind = .opening ∨ fragment.kind = .closing

theorem block_kind (inside : List Char) :
    Tag.block.kind inside = .opening ∨ Tag.block.kind inside = .closing := by
  rw [Tag.kind]
  split
  · exact .inr rfl
  · exact .inl rfl

theorem block_tag_iff {text : List Char} {position : Nat} {fragment : Fragment}
    (cut : fragment.CutAt text position) :
    fragment.IsBlockTag ↔ ∃ close, Tag.block.Spans text position close := by
  constructor
  · intro isBlock
    cases cut with
    | rest none raw kind => simp [Fragment.IsBlockTag, kind] at isBlock
    | gap first least before raw kind => simp [Fragment.IsBlockTag, kind] at isBlock
    | tag tag close spans nearest raw kind =>
      cases tag with
      | interpolation => simp [Fragment.IsBlockTag, kind, Tag.kind] at isBlock
      | block => exact ⟨close, spans⟩
  · rintro ⟨close, spans⟩
    cases cut with
    | rest none raw kind => exact absurd ⟨_, _, spans⟩ (none position (Nat.le_refl position))
    | gap first least before raw kind =>
      exact absurd ⟨_, _, spans⟩ (least.2.2 position (Nat.le_refl position) before)
    | tag tag other spansHere nearest raw kind =>
      have marks := (brace_of_spans spans).2.symm.trans (brace_of_spans spansHere).2
      cases tag with
      | interpolation => cases marks
      | block =>
        rw [Fragment.IsBlockTag, kind]
        exact block_kind _

def BraceBeforeBlock (fragment : Fragment) (after : List Fragment) : Prop :=
  fragment.raw.toList.getLast? = some '{' ∧ ∃ next rest, after = next :: rest ∧ next.IsBlockTag

section Parts

variable {text : List Char} {before after : List Fragment} {fragment : Fragment}

theorem cut_of_next {next : Fragment} {rest : List Fragment}
    (parts : (Cursor.mk text).toList = before ++ fragment :: next :: rest) :
    next.CutAt text ((rawText before).length + fragment.raw.toList.length) := by
  have cut := cut_at_toList text (before ++ [fragment]) rest next (by simp [parts])
  simpa [rawText] using cut

theorem text_of_parts (parts : (Cursor.mk text).toList = before ++ fragment :: after) :
    text = rawText before ++ (fragment.raw.toList ++ rawText after) := by
  have whole := raw_text_toList text
  rw [parts, rawText, List.flatMap_append] at whole
  exact whole.symm.trans (by rw [← rawText_cons]; rfl)

theorem exists_next (parts : (Cursor.mk text).toList = before ++ fragment :: after)
    (more : (rawText before).length + fragment.raw.toList.length < text.length) :
    ∃ next rest, after = next :: rest := by
  cases after with
  | cons next rest => exact ⟨next, rest, rfl⟩
  | nil =>
    have whole := congrArg List.length (text_of_parts parts)
    simp [rawText] at whole more
    omega

theorem straddles_of_opening (parts : (Cursor.mk text).toList = before ++ fragment :: after)
    (isText : fragment.kind = .text) (plain : ∀ tag : Tag, ¬ tag.start <:+: fragment.raw.toList)
    {position : Nat} (inside : (rawText before).length ≤ position)
    (within : position < (rawText before).length + fragment.raw.toList.length) {tag : Tag}
    (opens : tag.start <+: text.drop position) :
    position + 1 = (rawText before).length + fragment.raw.toList.length ∧
      BraceBeforeBlock fragment after ∧ tag = .interpolation ∧
      ∀ later, position + 2 ≤ later → ¬ tag.finish <+: text.drop later := by
  have cut := cut_at_toList text before after fragment parts
  cases cut with
  | tag other close spans nearest raw kind =>
    exact absurd (kind.symm.trans isText) (tag_kind_ne_text other _)
  | rest none raw kind =>
    obtain ⟨index, rfl⟩ := Nat.exists_eq_add_of_le inside
    obtain ⟨brace, mark⟩ := (starts_iff tag text _).mp opens
    refine absurd (infix_of_marks index ?_ ?_) (plain tag)
    · rw [raw, List.getElem?_drop, brace]
    · rw [raw, List.getElem?_drop, ← Nat.add_assoc, mark]
  | gap first least before_first raw kind =>
    have bound := Fragment.begins_lt least.2.1
    have stop : (rawText before).length + fragment.raw.toList.length = first := by
      rw [raw, slice, List.length_take, List.length_drop]
      omega
    rw [stop] at within ⊢
    have last := last_of_gap raw plain inside within opens
    obtain ⟨rfl, block, unclosed⟩ := tag_after_brace least inside last opens
    obtain ⟨next, rest, rfl⟩ := exists_next parts (by omega)
    have nextCut := cut_of_next parts
    rw [stop] at nextCut
    refine ⟨last, ⟨?_, next, rest, rfl, (block_tag_iff nextCut).mpr block⟩, rfl, unclosed⟩
    have brace := ((starts_iff .interpolation text position).mp opens).1
    obtain ⟨index, rfl⟩ := Nat.exists_eq_add_of_le inside
    have size : fragment.raw.toList.length - 1 = index := by omega
    rw [List.getLast?_eq_getElem?, size, raw, slice_getElem? text within, brace]

theorem opening_of_straddles (parts : (Cursor.mk text).toList = before ++ fragment :: after)
    {position : Nat} (last : position + 1 = (rawText before).length + fragment.raw.toList.length)
    (inside : (rawText before).length ≤ position) (straddles : BraceBeforeBlock fragment after) :
    Tag.interpolation.start <+: text.drop position := by
  obtain ⟨ends, next, rest, rfl, isBlock⟩ := straddles
  obtain ⟨close, spans⟩ := (block_tag_iff (cut_of_next parts)).mp isBlock
  obtain ⟨index, rfl⟩ := Nat.exists_eq_add_of_le inside
  have size : fragment.raw.toList.length - 1 = index := by omega
  rw [List.getLast?_eq_getElem?, size] at ends
  rw [starts_iff]
  refine ⟨?_, ?_⟩
  · rw [text_of_parts parts, List.getElem?_append_right inside, Nat.add_sub_cancel_left,
      List.getElem?_append_left (by omega), ends]
  · rw [last, (brace_of_spans spans).1]
    rfl

end Parts

theorem opening_in_text_iff {source : String} {template : Template}
    (compiled : Template.compile source = .ok template) {before after : List Fragment}
    {fragment : Fragment} (parts : fragments source = before ++ fragment :: after)
    (isText : fragment.kind = .text) {position : Nat} (inside : (rawText before).length ≤ position)
    (within : position < (rawText before).length + fragment.raw.toList.length) :
    ((∃ tag : Tag, tag.start <+: source.toList.drop position) ↔
      position + 1 = (rawText before).length + fragment.raw.toList.length ∧
        BraceBeforeBlock fragment after) ∧
      ∀ tag : Tag, tag.start <+: source.toList.drop position →
        tag = .interpolation ∧
          ∀ later, position + 2 ≤ later → ¬ tag.finish <+: source.toList.drop later := by
  have plain := plain_of_compile compiled (by simp [parts] : fragment ∈ fragments source) isText
  refine ⟨⟨?_, ?_⟩, ?_⟩
  · rintro ⟨tag, opens⟩
    obtain ⟨last, straddles, _⟩ := straddles_of_opening parts isText plain inside within opens
    exact ⟨last, straddles⟩
  · rintro ⟨last, straddles⟩
    exact ⟨.interpolation, opening_of_straddles parts last inside straddles⟩
  · intro tag opens
    exact (straddles_of_opening parts isText plain inside within opens).2.2

theorem opening_in_text_iff_call :
    let source := "a".push '{' ++ "{% call f %}"
    ∃ template text tag,
      Template.compile source = .ok template ∧
      fragments source = [] ++ text :: [tag] ∧ text.kind = .text ∧
      (∃ opening : Tag, opening.start <+: source.toList.drop 1) ∧
      BraceBeforeBlock text [tag] := by
  intro source
  have parts : fragments source =
      [] ++ Fragment.ofRaw ("a".push '{') :: [Fragment.ofRaw "{% call f %}"] := by decide +kernel
  have compiled : Template.compile source =
      .ok ⟨source, .root [.text ("a".push '{'), .call ⟨"f", [], []⟩]⟩ := by
    rw [Template.compile, parts]
    with_unfolding_all rfl
  have isText : (Fragment.ofRaw ("a".push '{')).kind = .text := by decide +kernel
  have inside : (rawText []).length ≤ 1 := by decide
  have within : 1 < (rawText []).length + (Fragment.ofRaw ("a".push '{')).raw.toList.length := by
    decide +kernel
  have opens : ∃ opening : Tag, opening.start <+: source.toList.drop 1 :=
    ⟨.interpolation, by decide +kernel⟩
  have place := (opening_in_text_iff compiled parts isText inside within).1.mp opens
  exact ⟨_, _, _, compiled, parts, isText, opens, place.2⟩

theorem opening_in_text_compiles :
    let source := String.singleton '{' ++ "{% call f %}"
    Template.compile source =
        .ok ⟨source, .root [.text (String.singleton '{'), .call ⟨"f", [], []⟩]⟩ ∧
      ¬ ∀ source template before fragment after position (tag : Tag),
        Template.compile source = .ok template → fragments source = before ++ fragment :: after →
          fragment.kind = .text → (rawText before).length ≤ position →
            position < (rawText before).length + fragment.raw.toList.length →
              ¬ tag.start <+: source.toList.drop position := by
  intro source
  have parts : fragments source =
      [] ++ Fragment.ofRaw (String.singleton '{') :: [Fragment.ofRaw "{% call f %}"] := by
    decide +kernel
  have compiled : Template.compile source =
      .ok ⟨source, .root [.text (String.singleton '{'), .call ⟨"f", [], []⟩]⟩ := by
    rw [Template.compile, parts]
    with_unfolding_all rfl
  refine ⟨compiled, fun strict => ?_⟩
  exact strict _ _ _ _ _ 0 .interpolation compiled parts (by decide +kernel) (by decide +kernel)
    (by decide +kernel) (by decide +kernel)

end Stencil
