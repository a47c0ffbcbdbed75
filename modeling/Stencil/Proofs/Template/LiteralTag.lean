import Stencil.Proofs.Literal.TextForm
import Stencil.Proofs.Template.Interpolation

set_option autoImplicit false

namespace Stencil

def Interpolates (text : String) (value : Value) : Prop :=
  ∃ template, Template.compile (Tag.interpolation.around (" " ++ text ++ " ")) = .ok template ∧
    template.root = .root [.interpolation (.literal value)] ∧
    ∀ host context, template.render host context = .ok value.text

namespace Slot

def between (text : String) : Slot :=
  ⟨" " ++ text ++ " ", ""⟩

theorem source_between (text : String) :
    source "" [between text] = Tag.interpolation.around (" " ++ text ++ " ") := by
  apply String.toList_inj.mp
  simp [source, between]

theorem inside_between (text : String) :
    (between text).inside.toList = [' '] ++ text.toList ++ [' '] := by
  simp [between]

theorem closing_between (text : List Char) :
    ['}', '}'] <:+: [' '] ++ text ++ [' '] ↔ ['}', '}'] <:+: text := by
  rw [Text.pair_infix_append, Text.pair_infix_append]
  constructor
  · rintro ((before | inside | ⟨ends, _⟩) | after | ⟨_, begins⟩)
    · exact absurd before.length_le (by decide)
    · exact inside
    · cases ends
    · exact absurd after.length_le (by decide)
    · cases begins
  · exact fun inside => .inl (.inr (.inl inside))

theorem apart_between {text : String} (free : ¬ ['}', '}'] <:+: text.toList) :
    Apart "" [between text] := by
  refine ⟨?_, ?_, ?_⟩
  · simp [between]
  · simp
  · intro slot member
    rw [List.mem_singleton.mp member, inside_between]
    refine ⟨mt (closing_between text.toList).mp free, ?_⟩
    rw [List.getLast?_concat]
    decide

theorem name_between {text : String} {value : Value}
    (reads : Literal.read? text = some value) :
    Expr.ofText (between text).name = .literal value := by
  have trimmed := Literal.read_trimmed reads Literal.blanks_space Literal.blanks_space
  rw [name, inside_between, Expr.ofText, trimmed]

end Slot

theorem interpolated_literal {text : String} {value : Value}
    (reads : Literal.read? text = some value) (free : ¬ ['}', '}'] <:+: text.toList) :
    Interpolates text value := by
  have compiled := Slot.compile_source (Slot.apart_between free)
  rw [Slot.source_between] at compiled
  have root : Slot.nodes "" [Slot.between text] = [.interpolation (.literal value)] := by
    rw [Slot.nodes, Slot.name_between reads]
    rfl
  refine ⟨_, compiled, by rw [root], fun host context => ?_⟩
  rw [Template.render, Template.output, root, Node.render, Node.renderAll, Node.renderAll,
    Output.andThen_nothing]
  exact congrArg Except.ok (Writing.write_text value.text)

theorem one_interpolation {source : String} {template : Template} {expr : Expr}
    (compiled : Template.compile source = .ok template)
    (root : template.root = .root [.interpolation expr]) :
    ∃ fragment, fragments source = [fragment] := by
  obtain ⟨items, derives, derivedRoot⟩ := derivation_of_compile compiled
  have same := Node.root.inj (derivedRoot.symm.trans root)
  rw [Item.nodes_eq_map, List.map_eq_singleton_iff] at same
  obtain ⟨item, rfl, node⟩ := same
  rw [← derives.2.1, Item.allFragments, Item.allFragments, List.append_nil]
  cases item with
  | leaf role fragment => exact ⟨fragment, rfl⟩
  | each opener body closer => cases node
  | choice opener body closer => cases node
  | choiceElse opener thenBranch mark elseBranch closer => cases node

theorem one_tag_unclosed {inside : List Char} {fragment : Fragment}
    (one : (Cursor.mk (['{', '{'] ++ inside ++ ['}', '}'])).toList = [fragment]) :
    ¬ ['}', '}'] <:+: inside := by
  rintro ⟨front, back, rfl⟩
  have whole := raw_text_toList (['{', '{'] ++ (front ++ ['}', '}'] ++ back) ++ ['}', '}'])
  have cut := cut_at_toList _ [] [] fragment one
  rw [one, rawText_cons, rawText, List.flatMap_nil, List.append_nil] at whole
  have shape : ['{', '{'] ++ (front ++ ['}', '}'] ++ back) ++ ['}', '}'] =
      Tag.interpolation.start ++ front ++ Tag.interpolation.finish ++ (back ++ ['}', '}']) := by
    simp [Tag.start, Tag.finish]
  have early := Fragment.begins_of_shape shape
  cases cut with
  | rest none raw kind => exact none 0 (Nat.le_refl 0) ⟨_, _, early⟩
  | gap first least before raw kind => exact least.2.2 0 (Nat.le_refl 0) before ⟨_, _, early⟩
  | tag tag close spans nearest raw kind =>
    cases tag with
    | interpolation =>
      have size := congrArg List.length raw
      rw [whole, slice, List.length_take] at size
      -- A tag that is all of the text does not end at its first closing delimiter.
      refine nearest (2 + front.length) ?_ early
      simp at size
      omega
    | block =>
      obtain ⟨_, starts⟩ := spans.1
      cases starts

theorem not_interpolated {text : String} (closing : ['}', '}'] <:+: text.toList) (value : Value) :
    ¬ Interpolates text value := by
  rintro ⟨template, compiled, root, _⟩
  obtain ⟨fragment, one⟩ := one_interpolation compiled root
  have parts : (Tag.interpolation.around (" " ++ text ++ " ")).toList =
      ['{', '{'] ++ ([' '] ++ text.toList ++ [' ']) ++ ['}', '}'] := by
    simp [Tag.start, Tag.finish]
  rw [fragments, Cursor.ofSource, parts] at one
  exact one_tag_unclosed one ((Slot.closing_between text.toList).mpr closing)

theorem interpolates_iff {text : String} {value : Value} (reads : Literal.read? text = some value) :
    Interpolates text value ↔ ¬ ['}', '}'] <:+: text.toList :=
  ⟨fun interpolates closing => not_interpolated closing value interpolates, interpolated_literal reads⟩

theorem interpolates_iff_list :
    Literal.read? "[1, {}]" = some (.array [.int 1, .map []]) ∧
      Interpolates "[1, {}]" (.array [.int 1, .map []]) := by
  have reads : Literal.read? "[1, {}]" = some (.array [.int 1, .map []]) := by with_unfolding_all rfl
  exact ⟨reads, (interpolates_iff reads).mpr (by decide +kernel)⟩

def closingText : String :=
  String.ofList ['}', '}']

-- The tag ends inside the string, so it names the variable of one quote, and a text is left over.
theorem literal_closes_tag :
    Literal.read? ("'" ++ closingText ++ "'") = some (.string closingText) ∧
      (∃ template, Template.compile (Tag.interpolation.around (" '" ++ closingText ++ "' ")) = .ok template ∧
        template.root = .root [.interpolation (.name "'"), .text ("' " ++ closingText)]) ∧
      ¬ ∀ text value, Literal.read? text = some value → Interpolates text value := by
  have reads : Literal.read? ("'" ++ closingText ++ "'") = some (.string closingText) := by
    with_unfolding_all rfl
  have cut : fragments (Tag.interpolation.around (" '" ++ closingText ++ "' ")) =
      [⟨.interpolation, Tag.interpolation.around " '", "'"⟩,
        ⟨.text, "' " ++ closingText, "' " ++ closingText⟩] := by decide +kernel
  have compiled : Template.compile (Tag.interpolation.around (" '" ++ closingText ++ "' ")) =
      .ok ⟨Tag.interpolation.around (" '" ++ closingText ++ "' "),
        .root [.interpolation (.name "'"), .text ("' " ++ closingText)]⟩ := by
    rw [Template.compile, cut]
    with_unfolding_all rfl
  refine ⟨reads, ⟨_, compiled, rfl⟩, fun all => ?_⟩
  exact not_interpolated (by decide +kernel) _ (all _ _ reads)

end Stencil
