import Stencil.Fragment

set_option autoImplicit false

namespace Stencil

inductive Tag where
  | interpolation
  | block

namespace Tag

def start : Tag → List Char
  | .interpolation => ['{', '{']
  | .block => ['{', '%']

def finish : Tag → List Char
  | .interpolation => ['}', '}']
  | .block => ['%', '}']

def around (tag : Tag) (inside : String) : String :=
  String.ofList (tag.start ++ inside.toList ++ tag.finish)

@[simp] theorem toList_around (tag : Tag) (inside : String) :
    (tag.around inside).toList = tag.start ++ inside.toList ++ tag.finish :=
  String.toList_ofList

def kind (inside : List Char) : Tag → Fragment.Kind
  | .interpolation => .interpolation
  | .block => if ['e', 'n', 'd'] <+: Text.trim inside then .closing else .opening

def Spans (tag : Tag) (text : List Char) (position close : Nat) : Prop :=
  tag.start <+: text.drop position ∧ position + 2 ≤ close ∧ tag.finish <+: text.drop close

end Tag

def TagBegins (text : List Char) (position : Nat) : Prop :=
  ∃ (tag : Tag) (close : Nat), tag.Spans text position close

def FirstTag (text : List Char) (position first : Nat) : Prop :=
  position ≤ first ∧ TagBegins text first ∧
    ∀ earlier, position ≤ earlier → earlier < first → ¬ TagBegins text earlier

def slice (text : List Char) (start stop : Nat) : List Char :=
  (text.drop start).take (stop - start)

inductive Fragment.CutAt (text : List Char) (position : Nat) (fragment : Fragment) : Prop where
  | rest (none : ∀ later, position ≤ later → ¬ TagBegins text later)
      (raw : fragment.raw.toList = text.drop position) (kind : fragment.kind = .text) :
      CutAt text position fragment
  | gap (first : Nat) (tag : FirstTag text position first) (before : position < first)
      (raw : fragment.raw.toList = slice text position first) (kind : fragment.kind = .text) :
      CutAt text position fragment
  | tag (tag : Tag) (close : Nat) (spans : tag.Spans text position close)
      (nearest : ∀ earlier < close, ¬ tag.Spans text position earlier)
      (raw : fragment.raw.toList = slice text position (close + 2))
      (kind : fragment.kind = tag.kind (slice text (position + 2) close)) :
      CutAt text position fragment

section Shift

variable (text : List Char) (gone : Nat)

theorem spans_drop (tag : Tag) (position close : Nat) :
    tag.Spans (text.drop gone) position close ↔ tag.Spans text (gone + position) (gone + close) := by
  unfold Tag.Spans
  rw [List.drop_drop, List.drop_drop, Nat.add_assoc, Nat.add_le_add_iff_left]

theorem tag_begins_drop (position : Nat) :
    TagBegins (text.drop gone) position ↔ TagBegins text (gone + position) := by
  constructor
  · rintro ⟨tag, close, spans⟩
    exact ⟨tag, gone + close, (spans_drop text gone tag position close).mp spans⟩
  · rintro ⟨tag, close, spans⟩
    obtain ⟨further, rfl⟩ : ∃ further, close = gone + further :=
      Nat.exists_eq_add_of_le (by have := spans.2.1; omega)
    exact ⟨tag, further, (spans_drop text gone tag position further).mpr spans⟩

theorem slice_drop (start stop : Nat) :
    slice (text.drop gone) start stop = slice text (gone + start) (gone + stop) := by
  unfold slice
  rw [List.drop_drop, Nat.add_sub_add_left]

theorem cut_at_drop {fragment : Fragment} {position : Nat}
    (cut : fragment.CutAt (text.drop gone) position) : fragment.CutAt text (gone + position) := by
  cases cut with
  | rest none raw kind =>
    rw [List.drop_drop] at raw
    refine .rest (fun later reached begins => ?_) raw kind
    obtain ⟨further, rfl⟩ := Nat.exists_eq_add_of_le (Nat.le_of_add_right_le reached)
    exact none further (by omega) ((tag_begins_drop text gone further).mpr begins)
  | gap first tag before raw kind =>
    obtain ⟨_, begins, least⟩ := tag
    refine .gap (gone + first) ⟨by omega, (tag_begins_drop text gone first).mp begins, ?_⟩ (by omega)
      (by rw [raw, slice_drop]) kind
    intro earlier reached below earlierBegins
    obtain ⟨further, rfl⟩ := Nat.exists_eq_add_of_le (Nat.le_of_add_right_le reached)
    exact least further (by omega) (by omega) ((tag_begins_drop text gone further).mpr earlierBegins)
  | tag tag close spans nearest raw kind =>
    refine .tag tag (gone + close) ((spans_drop text gone tag position close).mp spans) ?_
      (by rw [raw, slice_drop, Nat.add_assoc]) (by rw [kind, slice_drop, Nat.add_assoc])
    intro earlier below spansEarlier
    obtain ⟨further, rfl⟩ : ∃ further, earlier = gone + further :=
      Nat.exists_eq_add_of_le (by have := spansEarlier.2.1; omega)
    exact nearest further (by omega) ((spans_drop text gone tag position further).mpr spansEarlier)

end Shift

namespace Fragment

theorem tag?_cut {text piece after : List Char} (found : tag? text = some (piece, after)) :
    ∃ (tag : Tag) (inside : List Char), piece = tag.start ++ inside ++ tag.finish ∧
      text = tag.start ++ inside ++ tag.finish ++ after ∧
      ∀ position < inside.length, ¬ tag.finish <+: (inside ++ tag.finish ++ after).drop position := by
  unfold tag? at found
  split at found
  · obtain ⟨⟨before, left⟩, cut, same⟩ := Option.map_eq_some_iff.mp found
    cases same
    obtain ⟨inside, rfl, none⟩ := Text.cutAfter_eq_some cut
    rw [← Text.cutAfter_append cut] at none ⊢
    exact ⟨.interpolation, inside, rfl, by simp [Tag.start, Tag.finish], none⟩
  · obtain ⟨⟨before, left⟩, cut, same⟩ := Option.map_eq_some_iff.mp found
    cases same
    obtain ⟨inside, rfl, none⟩ := Text.cutAfter_eq_some cut
    rw [← Text.cutAfter_append cut] at none ⊢
    exact ⟨.block, inside, rfl, by simp [Tag.start, Tag.finish], none⟩
  · cases found

theorem tag?_none {text : List Char} (notFound : tag? text = none) : ¬ TagBegins text 0 := by
  rintro ⟨tag, close, ⟨rest, shape⟩, room, closes⟩
  rw [List.drop_zero] at shape
  subst shape
  obtain ⟨further, rfl⟩ := Nat.exists_eq_add_of_le room
  cases tag with
  | interpolation =>
    have uncut := Option.map_eq_none_iff.mp notFound
    apply Text.cutAfter_eq_none uncut further
    simpa [Tag.start, Tag.finish, Nat.add_comm] using closes
  | block =>
    have uncut := Option.map_eq_none_iff.mp notFound
    apply Text.cutAfter_eq_none uncut further
    simpa [Tag.start, Tag.finish, Nat.add_comm] using closes

theorem start_length (tag : Tag) : tag.start.length = 2 := by
  cases tag <;> rfl

theorem finish_length (tag : Tag) : tag.finish.length = 2 := by
  cases tag <;> rfl

theorem begins_of_shape {text after : List Char} {tag : Tag} {inside : List Char}
    (shape : text = tag.start ++ inside ++ tag.finish ++ after) :
    tag.Spans text 0 (2 + inside.length) := by
  refine ⟨⟨inside ++ tag.finish ++ after, by simp [shape]⟩, by omega, ⟨after, ?_⟩⟩
  rw [shape, List.append_assoc _ tag.finish, List.drop_left' (by simp [start_length])]

theorem begins_lt {text : List Char} {position : Nat} (begins : TagBegins text position) :
    position < text.length := by
  obtain ⟨tag, close, starts, _⟩ := begins
  have room := starts.length_le
  rw [List.length_drop, start_length] at room
  omega

theorem untilTag_cut (text : List Char) :
    ∃ count, untilTag text = (text.take count, text.drop count) ∧
      (∀ position < count, ¬ TagBegins text position) ∧
      (TagBegins text count ∨ count = text.length) := by
  induction text with
  | nil => exact ⟨0, rfl, by simp, .inr rfl⟩
  | cons c rest ih =>
    cases found : tag? (c :: rest) with
    | some cut =>
      obtain ⟨piece, after⟩ := cut
      obtain ⟨tag, inside, _, shape, _⟩ := tag?_cut found
      refine ⟨0, by simp [untilTag, found], by simp, .inl ⟨tag, _, begins_of_shape shape⟩⟩
    | none =>
      obtain ⟨count, split, none, stop⟩ := ih
      have shift : ∀ position, TagBegins rest position ↔ TagBegins (c :: rest) (position + 1) := by
        intro position
        rw [Nat.add_comm]
        exact tag_begins_drop (c :: rest) 1 position
      refine ⟨count + 1, by simp [untilTag, found, split], fun position below begins => ?_, ?_⟩
      · cases position with
        | zero => exact tag?_none found begins
        | succ position =>
          exact none position (Nat.lt_of_succ_lt_succ below) ((shift position).mpr begins)
      · rcases stop with begins | whole
        · exact .inl ((shift count).mp begins)
        · exact .inr (by rw [whole]; rfl)

theorem ofRaw_enclosed (tag : Tag) (inside : List Char) :
    ofRaw (String.ofList (tag.start ++ inside ++ tag.finish)) =
      ⟨tag.kind inside, String.ofList (tag.start ++ inside ++ tag.finish),
        String.ofList (Text.trim inside)⟩ := by
  cases tag with
  | interpolation =>
    have found : Text.between ['{', '{'] ['}', '}'] (['{', '{'] ++ inside ++ ['}', '}']) =
        some inside := (Text.between_eq_some_iff _ _ _ _).mpr rfl
    simp only [ofRaw, String.toList_ofList, Tag.start, Tag.finish, found, Tag.kind]
  | block =>
    have other : Text.between ['{', '{'] ['}', '}'] (['{', '%'] ++ inside ++ ['%', '}']) = none := by
      cases found : Text.between ['{', '{'] ['}', '}'] (['{', '%'] ++ inside ++ ['%', '}']) with
      | none => rfl
      | some inside => cases (Text.between_eq_some_iff _ _ _ _).mp found
    have found : Text.between ['{', '%'] ['%', '}'] (['{', '%'] ++ inside ++ ['%', '}']) =
        some inside := (Text.between_eq_some_iff _ _ _ _).mpr rfl
    simp only [ofRaw, String.toList_ofList, Tag.start, Tag.finish, other, found, Tag.kind,
      List.isPrefixOf_iff_prefix]

theorem ofRaw_tag (tag : Tag) (inside : List Char) :
    (ofRaw (String.ofList (tag.start ++ inside ++ tag.finish))).kind = tag.kind inside :=
  congrArg Fragment.kind (ofRaw_enclosed tag inside)

theorem ofRaw_text {raw : List Char}
    (shapeless : ∀ (tag : Tag) (inside : List Char), raw ≠ tag.start ++ inside ++ tag.finish) :
    (ofRaw (String.ofList raw)).kind = .text := by
  have noOutput : Text.between ['{', '{'] ['}', '}'] raw = none := by
    cases found : Text.between ['{', '{'] ['}', '}'] raw with
    | none => rfl
    | some inside =>
      exact absurd ((Text.between_eq_some_iff _ _ _ _).mp found) (shapeless .interpolation inside)
  have noBlock : Text.between ['{', '%'] ['%', '}'] raw = none := by
    cases found : Text.between ['{', '%'] ['%', '}'] raw with
    | none => rfl
    | some inside =>
      exact absurd ((Text.between_eq_some_iff _ _ _ _).mp found) (shapeless .block inside)
  simp only [ofRaw, String.toList_ofList, noOutput, noBlock]

theorem ofRaw_raw (raw : String) : (ofRaw raw).raw = raw := by
  rw [ofRaw]
  split
  · rfl
  · split <;> rfl

theorem first?_cut {text piece after : List Char} (found : first? text = some (piece, after)) :
    (ofRaw (String.ofList piece)).CutAt text 0 := by
  have raw : (ofRaw (String.ofList piece)).raw.toList = piece := by
    rw [ofRaw_raw, String.toList_ofList]
  rw [first?] at found
  split at found
  · cases found
  · cases cut : tag? text with
    | some whole =>
      rw [cut] at found
      cases found
      obtain ⟨tag, inside, rfl, shape, none⟩ := tag?_cut cut
      refine .tag tag (2 + inside.length) (begins_of_shape shape) ?_ ?_ ?_
      · intro earlier below spans
        obtain ⟨position, rfl⟩ := Nat.exists_eq_add_of_le spans.2.1
        apply none position (by omega)
        have closes := spans.2.2
        rwa [shape, List.append_assoc, List.append_assoc, ← List.append_assoc inside, Nat.zero_add,
          ← List.drop_drop, List.drop_left' (start_length tag)] at closes
      · rw [raw, slice, shape, List.drop_zero, List.take_left']
        simp [start_length, finish_length]
        omega
      · rw [ofRaw_tag, slice, shape, List.append_assoc, List.append_assoc, Nat.zero_add,
          List.drop_left' (start_length tag), List.take_left' (by omega)]
    | none =>
      rw [cut] at found
      obtain ⟨count, split, none, stop⟩ := untilTag_cut text
      have parts := split.symm.trans (Option.some.inj found)
      obtain ⟨rfl, rfl⟩ := Prod.mk.inj parts
      have shapeless : ∀ (tag : Tag) (inside : List Char),
          text.take count ≠ tag.start ++ inside ++ tag.finish := by
        intro tag inside shape
        have whole : text = tag.start ++ inside ++ tag.finish ++ text.drop count := by
          rw [← shape, List.take_append_drop]
        exact tag?_none cut ⟨tag, _, begins_of_shape whole⟩
      rcases stop with begins | whole
      · have later : 0 < count := by
          apply Nat.pos_of_ne_zero
          rintro rfl
          exact tag?_none cut begins
        exact .gap count ⟨Nat.zero_le count, begins, fun earlier _ below => none earlier below⟩ later
          raw (ofRaw_text shapeless)
      · refine .rest (fun position _ begins => ?_) ?_ (ofRaw_text shapeless)
        · exact none position (whole ▸ begins_lt begins) begins
        · rw [raw, whole, List.take_length, List.drop_zero]

end Fragment

theorem toList_of_first? {text piece after : List Char}
    (found : Fragment.first? text = some (piece, after)) :
    (Cursor.mk text).toList = Fragment.ofRaw (String.ofList piece) :: (Cursor.mk after).toList := by
  have next : (Cursor.mk text).next? = some (Fragment.ofRaw (String.ofList piece), ⟨after⟩) := by
    rw [Cursor.next?, found]
    rfl
  rw [Cursor.toList]
  split
  · rename_i nothing
    rw [next] at nothing
    cases nothing
  · rename_i fragment cursor some
    rw [next] at some
    cases some
    rfl

theorem toList_nil : (Cursor.mk []).toList = [] := by
  rw [Cursor.toList]
  rfl

theorem first?_of_ne_nil {text : List Char} (nonempty : text ≠ []) :
    ∃ piece after, Fragment.first? text = some (piece, after) := by
  rw [Fragment.first?]
  rw [if_neg (by simpa using nonempty)]
  split
  · rename_i cut _
    exact ⟨cut.1, cut.2, rfl⟩
  · exact ⟨_, _, rfl⟩

-- A text is cut from the front, so what holds of all fragments is shown by induction on what is left.
theorem cursor_induction {motive : List Char → List Fragment → Prop} (nil : motive [] [])
    (cons : ∀ text piece after, Fragment.first? text = some (piece, after) →
      motive after (Cursor.mk after).toList →
      motive text (Fragment.ofRaw (String.ofList piece) :: (Cursor.mk after).toList))
    (text : List Char) : motive text (Cursor.mk text).toList := by
  by_cases empty : text = []
  · rw [empty, toList_nil]
    exact nil
  · obtain ⟨piece, after, found⟩ := first?_of_ne_nil empty
    rw [toList_of_first? found]
    exact cons text piece after found (cursor_induction nil cons after)
termination_by text.length
decreasing_by exact Fragment.length_of_first? found

def rawText (fragments : List Fragment) : List Char :=
  fragments.flatMap fun fragment => fragment.raw.toList

theorem rawText_cons (fragment : Fragment) (rest : List Fragment) :
    rawText (fragment :: rest) = fragment.raw.toList ++ rawText rest := by
  rw [rawText, List.flatMap_cons]
  rfl

theorem raw_text_toList (text : List Char) : rawText (Cursor.mk text).toList = text := by
  refine cursor_induction (motive := fun text fragments => rawText fragments = text) rfl ?_ text
  intro text piece after found ih
  rw [rawText_cons, Fragment.ofRaw_raw, String.toList_ofList, ih]
  exact Fragment.append_of_first? found

theorem cut_at_toList (text : List Char) (before after : List Fragment) (fragment : Fragment)
    (parts : (Cursor.mk text).toList = before ++ fragment :: after) :
    fragment.CutAt text (rawText before).length := by
  have nonempty : text ≠ [] := by
    rintro rfl
    rw [toList_nil] at parts
    cases before <;> cases parts
  obtain ⟨piece, left, found⟩ := first?_of_ne_nil nonempty
  rw [toList_of_first? found] at parts
  cases before with
  | nil =>
    cases parts
    exact Fragment.first?_cut found
  | cons first before =>
    obtain ⟨same, rest⟩ := List.cons.inj parts
    subst same
    have gone : text.drop piece.length = left := by
      rw [← Fragment.append_of_first? found, List.drop_left]
    have cut := cut_at_toList left before after fragment rest
    rw [← gone] at cut
    have moved := cut_at_drop text piece.length cut
    rwa [rawText_cons, Fragment.ofRaw_raw, String.toList_ofList, List.length_append]
termination_by before.length

theorem tag_kind_ne_text (tag : Tag) (inside : List Char) : tag.kind inside ≠ .text := by
  cases tag with
  | interpolation => exact Fragment.Kind.noConfusion
  | block =>
    rw [Tag.kind]
    split <;> exact Fragment.Kind.noConfusion

theorem text_then_tag {text : List Char} {position : Nat} {one other : Fragment}
    (first : one.CutAt text position) (second : other.CutAt text (position + one.raw.toList.length))
    (nonempty : other.raw.toList ≠ []) (isText : one.kind = .text) : other.kind ≠ .text := by
  have stop : TagBegins text (position + one.raw.toList.length) ∨
      text.length ≤ position + one.raw.toList.length := by
    cases first with
    | rest none raw kind =>
      rw [raw, List.length_drop]
      exact .inr (by omega)
    | gap first tag before raw kind =>
      have bound := Fragment.begins_lt tag.2.1
      have size : position + one.raw.toList.length = first := by
        rw [raw, slice, List.length_take, List.length_drop]
        omega
      rw [size]
      exact .inl tag.2.1
    | tag tag close spans nearest raw kind =>
      exact absurd (kind.symm.trans isText) (tag_kind_ne_text tag _)
  intro otherText
  cases second with
  | rest none raw kind =>
    rcases stop with begins | whole
    · exact none _ (Nat.le_refl _) begins
    · exact nonempty (by rw [raw, List.drop_of_length_le whole])
  | gap first tag before raw kind =>
    rcases stop with begins | whole
    · exact tag.2.2 _ (Nat.le_refl _) before begins
    · have bound := Fragment.begins_lt tag.2.1
      omega
  | tag tag close spans nearest raw kind =>
    exact absurd (kind.symm.trans otherText) (tag_kind_ne_text tag _)

theorem join_raw (fragments : List Fragment) :
    String.join (fragments.map Fragment.raw) = String.ofList (rawText fragments) := by
  induction fragments with
  | nil => rfl
  | cons fragment rest ih =>
    rw [List.map_cons, String.join_cons, ih, rawText_cons, String.ofList_append, String.ofList_toList]

theorem raw_of_toList (text : List Char) :
    ∀ fragment ∈ (Cursor.mk text).toList,
      fragment.raw ≠ "" ∧ fragment = Fragment.ofRaw fragment.raw := by
  refine cursor_induction (motive := fun _ fragments => ∀ fragment ∈ fragments,
    fragment.raw ≠ "" ∧ fragment = Fragment.ofRaw fragment.raw) (by simp) ?_ text
  intro text piece after found ih fragment member
  rcases List.mem_cons.mp member with rfl | later
  · rw [Fragment.ofRaw_raw]
    refine ⟨fun empty => Fragment.ne_nil_of_first? found ?_, rfl⟩
    rw [← String.toList_ofList (l := piece), empty, String.toList_empty]
  · exact ih fragment later

theorem texts_apart {text : List Char} {before after : List Fragment} {one other : Fragment}
    (parts : (Cursor.mk text).toList = before ++ one :: other :: after) (isText : one.kind = .text) :
    other.kind ≠ .text := by
  have first := cut_at_toList text before (other :: after) one parts
  have shifted : (Cursor.mk text).toList = (before ++ [one]) ++ other :: after := by
    rw [parts, List.append_assoc, List.singleton_append]
  have second := cut_at_toList text (before ++ [one]) after other shifted
  have size : (rawText (before ++ [one])).length = (rawText before).length + one.raw.toList.length := by
    simp [rawText]
  rw [size] at second
  have nonempty : other.raw ≠ "" := (raw_of_toList text other (by rw [parts]; simp)).1
  exact text_then_tag first second (mt String.toList_eq_nil_iff.mp nonempty) isText

theorem fragments_segment (source : String) :
    String.join ((fragments source).map Fragment.raw) = source ∧
      (∀ fragment ∈ fragments source, fragment.raw ≠ "" ∧ fragment = Fragment.ofRaw fragment.raw) ∧
      (∀ before fragment after, fragments source = before ++ fragment :: after →
        fragment.CutAt source.toList (rawText before).length) ∧
      ∀ before one other after, fragments source = before ++ one :: other :: after →
        one.kind = .text → other.kind ≠ .text := by
  refine ⟨?_, raw_of_toList source.toList, fun before fragment after => ?_, ?_⟩
  · rw [join_raw, fragments, Cursor.ofSource, raw_text_toList, String.ofList_toList]
  · exact cut_at_toList source.toList before after fragment
  · intro before one other after parts isText
    exact texts_apart parts isText

end Stencil
