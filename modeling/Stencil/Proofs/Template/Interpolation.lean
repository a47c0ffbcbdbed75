import Mathlib.Data.List.Forall2
import Stencil.Proofs.Render.Writing
import Stencil.Proofs.Template.Concatenation

set_option autoImplicit false

namespace Stencil

structure Slot where
  inside : String
  after : String

namespace Slot

def source (first : String) : List Slot → String
  | [] => first
  | slot :: rest => first ++ Tag.interpolation.around slot.inside ++ source slot.after rest

def written (first : String) : List Slot → List String → String
  | slot :: rest, shown :: more => first ++ shown ++ written slot.after rest more
  | _, _ => first

-- No text opens a tag, not even together with the tag after it, and no tag ends too early.
structure Apart (first : String) (slots : List Slot) : Prop where
  plain : ∀ text ∈ first :: slots.map after,
    ¬ ['{', '{'] <:+: text.toList ∧ ¬ ['{', '%'] <:+: text.toList
  noBrace : ∀ text ∈ (first :: slots.map after).dropLast, text.toList.getLast? ≠ some '{'
  unclosed : ∀ slot ∈ slots,
    ¬ ['}', '}'] <:+: slot.inside.toList ∧ slot.inside.toList.getLast? ≠ some '}'

def name (slot : Slot) : String :=
  String.ofList (Text.trim slot.inside.toList)

inductive Shows (scope : Scope) (slot : Slot) : String → Prop where
  | literal {value : Value} (reads : Literal.read? slot.name = some value) :
      Shows scope slot value.text
  | bound {value : Value} (unread : Literal.read? slot.name = none)
      (resolves : scope.resolve slot.name = .ok value) : Shows scope slot value.text

def textNodes (text : String) : List Node :=
  if text = "" then [] else [.text text]

def nodes (first : String) : List Slot → List Node
  | [] => textNodes first
  | slot :: rest =>
    textNodes first ++ .interpolation (Expr.ofText slot.name) :: nodes slot.after rest

theorem apart_first {first : String} {slots : List Slot} (apart : Apart first slots) :
    ¬ ['{', '{'] <:+: first.toList ∧ ¬ ['{', '%'] <:+: first.toList :=
  apart.plain first List.mem_cons_self

section Cons

variable {first : String} {slot : Slot} {rest : List Slot}

theorem apart_unopened (apart : Apart first (slot :: rest)) : Unopened first.toList where
  noOutput := (apart_first apart).1
  noBlock := (apart_first apart).2
  noBrace := apart.noBrace first List.mem_cons_self

theorem apart_inside (apart : Apart first (slot :: rest)) :
    ¬ ['}', '}'] <:+: slot.inside.toList ++ ['}'] := by
  obtain ⟨free, noBrace⟩ := apart.unclosed slot List.mem_cons_self
  rw [Text.pair_infix_append]
  rintro (inside | inside | ⟨ends, _⟩)
  · exact free inside
  · exact absurd inside.length_le (by decide)
  · exact noBrace ends

theorem apart_tail (apart : Apart first (slot :: rest)) : Apart slot.after rest where
  plain text member := apart.plain text (List.mem_cons_of_mem first member)
  noBrace text member := apart.noBrace text (List.mem_cons_of_mem first member)
  unclosed other member := apart.unclosed other (List.mem_cons_of_mem slot member)

end Cons

theorem derive_text {text : String} (noOutput : ¬ ['{', '{'] <:+: text.toList)
    (noBlock : ¬ ['{', '%'] <:+: text.toList) :
    ∃ items, Item.Derive items (fragments text) ∧ Item.nodes items = textNodes text := by
  rw [textNodes]
  by_cases empty : text = ""
  · refine ⟨[], ⟨trivial, ?_, Nat.zero_le 128⟩, by rw [if_pos empty]; rfl⟩
    rw [empty]
    exact toList_nil.symm
  · obtain ⟨cut, kind⟩ := Fragment.toList_plain (mt String.toList_eq_nil_iff.mp empty) noOutput noBlock
    rw [String.ofList_toList] at cut kind
    have plays : (Fragment.ofRaw text).Plays .text := by
      refine .text kind ?_ ?_
      · rwa [Fragment.ofRaw_raw]
      · rwa [Fragment.ofRaw_raw]
    refine ⟨[.leaf .text (Fragment.ofRaw text)], ⟨⟨⟨rfl, plays⟩, trivial⟩, cut.symm, Nat.zero_le 128⟩, ?_⟩
    rw [if_neg empty, Item.nodes, Item.nodes, Item.node, Fragment.nodeAs, Fragment.clean_of_text kind]

def tag (slot : Slot) : Fragment :=
  Fragment.ofRaw (String.ofList
    (Tag.interpolation.start ++ slot.inside.toList ++ Tag.interpolation.finish))

theorem derive_tag (slot : Slot) : Item.Derive [.leaf .interpolation slot.tag] [slot.tag] :=
  ⟨⟨⟨rfl, .interpolation (Fragment.ofRaw_tag .interpolation slot.inside.toList)⟩, trivial⟩, rfl,
    Nat.zero_le 128⟩

theorem tag_node (slot : Slot) :
    Item.nodes [.leaf .interpolation slot.tag] = [.interpolation (Expr.ofText slot.name)] := by
  rw [Item.nodes, Item.nodes, Item.node, Fragment.nodeAs, tag, Fragment.ofRaw_enclosed]
  rfl

theorem fragments_source {first : String} {slot : Slot} {rest : List Slot}
    (apart : Apart first (slot :: rest)) :
    fragments (source first (slot :: rest)) =
      fragments first ++ [slot.tag] ++ fragments (source slot.after rest) := by
  have found := Fragment.tag?_enclosed .interpolation (apart_inside apart)
    (source slot.after rest).toList
  have cut := Fragment.toList_before_tag (Fragment.unopened_fragments (apart_unopened apart)) found
  have parts : (source first (slot :: rest)).toList = first.toList ++
      (Tag.interpolation.start ++ slot.inside.toList ++ Tag.interpolation.finish ++
        (source slot.after rest).toList) := by
    simp [source, Tag.start, Tag.finish]
  rw [fragments, Cursor.ofSource, parts, cut, List.append_cons]
  rfl

theorem derive_source {first : String} {slots : List Slot} (apart : Apart first slots) :
    ∃ items, Item.Derive items (fragments (source first slots)) ∧
      Item.nodes items = nodes first slots := by
  obtain ⟨before, firstDerives, firstNodes⟩ := derive_text (apart_first apart).1 (apart_first apart).2
  cases slots with
  | nil => exact ⟨before, firstDerives, firstNodes⟩
  | cons slot rest =>
    obtain ⟨after, restDerives, restNodes⟩ := derive_source (apart_tail apart)
    have derives := derive_append (derive_append firstDerives (derive_tag slot)) restDerives
    refine ⟨before ++ [.leaf .interpolation slot.tag] ++ after, ?_, ?_⟩
    · rw [fragments_source apart]
      exact derives
    · rw [Item.nodes_append, Item.nodes_append, firstNodes, restNodes, tag_node, nodes,
        ← List.append_cons]

theorem compile_source {first : String} {slots : List Slot} (apart : Apart first slots) :
    Template.compile (source first slots) =
      .ok ⟨source first slots, .root (nodes first slots)⟩ := by
  obtain ⟨items, derives, same⟩ := derive_source apart
  rw [compile_of_derivation derives, same]

theorem shows_iff (slot : Slot) (scope : Scope) (shown : String) :
    slot.Shows scope shown ↔
      ∃ value, (Expr.ofText slot.name).resolve scope = .ok value ∧ shown = value.text := by
  rw [Expr.ofText]
  cases read : Literal.read? slot.name with
  | some value =>
    constructor
    · intro shows
      cases shows with
      | literal reads => exact ⟨_, rfl, congrArg Value.text (Option.some.inj (reads.symm.trans read))⟩
      | bound unread => cases unread.symm.trans read
    · rintro ⟨_, same, rfl⟩
      cases same
      exact .literal read
  | none =>
    constructor
    · intro shows
      cases shows with
      | literal reads => cases reads.symm.trans read
      | bound unread resolves => exact ⟨_, resolves, rfl⟩
    · rintro ⟨value, resolves, rfl⟩
      exact .bound read resolves

end Slot

namespace Output

structure Leaves (output : Output) (text : String) (result : Except Error Unit) : Prop where
  text : output.text = text
  result : output.result = result

theorem leaves_write (text : String) : (write text).Leaves text (.ok ()) :=
  ⟨Writing.write_text text, rfl⟩

theorem leaves_and_then {first : Output} {second : Unit → Output} {text other : String}
    {result : Except Error Unit} (ended : first.Leaves text (.ok ()))
    (more : (second ()).Leaves other result) : (first.andThen second).Leaves (text ++ other) result where
  text := by rw [text_andThen ended.result, ended.text, more.text]
  result := by rw [result_andThen ended.result, more.result]

theorem leaves_stopped {first : Output} {text : String} {error : Error}
    (stopped : first.Leaves text (.error error)) (second : Unit → Output) :
    (first.andThen second).Leaves text (.error error) := by
  rwa [andThen_of_error stopped.result]

end Output

namespace Slot

section Scoped

variable (host : Host) {scope : Scope}

theorem text_leaves (scope : Scope) (text : String) :
    (Node.renderAll host scope (textNodes text)).Leaves text (.ok ()) := by
  rw [textNodes]
  by_cases empty : text = ""
  · rw [if_pos empty, empty]
    exact ⟨rfl, rfl⟩
  · rw [if_neg empty, Node.renderAll, Node.renderAll, Output.andThen_nothing]
    exact Output.leaves_write text

theorem shown_leaves {slot : Slot} {shown : String} (shows : slot.Shows scope shown) :
    ((Node.interpolation (Expr.ofText slot.name)).render host scope).Leaves shown (.ok ()) := by
  obtain ⟨value, resolved, rfl⟩ := (shows_iff slot scope shown).mp shows
  rw [Node.render, resolved]
  exact Output.leaves_write value.text

theorem unshown_leaves {slot : Slot} (unshown : ¬ ∃ shown, slot.Shows scope shown) :
    ((Node.interpolation (Expr.ofText slot.name)).render host scope).Leaves ""
      (.error (.unresolved slot.name)) := by
  have unread : Literal.read? slot.name = none := by
    cases read : Literal.read? slot.name with
    | none => rfl
    | some value => exact absurd ⟨_, .literal read⟩ unshown
  have missing : scope.resolve slot.name = .error (.unresolved slot.name) := by
    cases found : scope.find? (Path.ofName slot.name) with
    | none => rw [Scope.resolve, found]
    | some value =>
      have resolves : scope.resolve slot.name = .ok value := by rw [Scope.resolve, found]
      exact absurd ⟨_, .bound unread resolves⟩ unshown
  rw [Node.render, Expr.ofText, unread]
  dsimp only
  rw [Expr.resolve, missing]
  exact ⟨rfl, rfl⟩

theorem slot_leaves {slot : Slot} {shown : String} (shows : slot.Shows scope shown) {rest : List Slot}
    {text : String} {result : Except Error Unit}
    (later : (Node.renderAll host scope (nodes slot.after rest)).Leaves text result) (first : String) :
    (Node.renderAll host scope (nodes first (slot :: rest))).Leaves (first ++ shown ++ text) result := by
  rw [nodes, render_all_append, Node.renderAll, String.append_assoc]
  exact Output.leaves_and_then (text_leaves host scope first)
    (Output.leaves_and_then (shown_leaves host shows) later)

theorem unshown_stops {slot : Slot} (unshown : ¬ ∃ shown, slot.Shows scope shown) (rest : List Slot)
    (first : String) :
    (Node.renderAll host scope (nodes first (slot :: rest))).Leaves first
      (.error (.unresolved slot.name)) := by
  have whole : (Node.renderAll host scope (nodes first (slot :: rest))).Leaves (first ++ "")
      (.error (.unresolved slot.name)) := by
    rw [nodes, render_all_append, Node.renderAll]
    exact Output.leaves_and_then (text_leaves host scope first)
      (Output.leaves_stopped (unshown_leaves host unshown) _)
  rwa [String.append_empty] at whole

theorem slots_leave {before after : List Slot} {shown : List String} {result : Except Error Unit}
    (shows : List.Forall₂ (Shows scope) before shown)
    (stop : ∀ text, (Node.renderAll host scope (nodes text after)).Leaves text result)
    (first : String) :
    (Node.renderAll host scope (nodes first (before ++ after))).Leaves (written first before shown)
      result := by
  induction shows generalizing first with
  | nil => exact stop first
  | @cons slot text before shown here _ ih => exact slot_leaves host here (ih slot.after) first

end Scoped

/-- Every text stays and every slot gives way to what it shows. The first slot that shows nothing is the
error, with all the text before its tag written. -/
theorem slots_render {first : String} {slots : List Slot} (apart : Apart first slots) :
    ∃ template, Template.compile (source first slots) = .ok template ∧ ∀ host context,
      (∀ shown, List.Forall₂ (Shows (.root context)) slots shown →
        template.render host context = .ok (written first slots shown)) ∧
      (∀ before slot after shown, slots = before ++ slot :: after →
        List.Forall₂ (Shows (.root context)) before shown →
        (¬ ∃ text, slot.Shows (.root context) text) →
          template.render host context = .error (.unresolved slot.name) ∧
          ∀ start, template.renderInto host context ⟨start, none⟩ =
            (⟨start ++ written first before shown, none⟩, .error (.unresolved slot.name))) ∧
      (slots = [] → template.render host context = .ok first) := by
  refine ⟨_, compile_source apart, fun host context => ⟨?_, ?_, ?_⟩⟩
  · intro shown shows
    have stop : ∀ text, (Node.renderAll host (.root context) (nodes text [])).Leaves text (.ok ()) :=
      text_leaves host (.root context)
    have leaves := slots_leave host shows stop first
    rw [List.append_nil] at leaves
    rw [Template.render, Template.output, Node.render, Output.complete, leaves.text, leaves.result]
    rfl
  · rintro before slot after shown rfl shows unshown
    have leaves := slots_leave host shows (unshown_stops host unshown after) first
    refine ⟨?_, fun start => ?_⟩
    · rw [Template.render, Template.output, Node.render, Output.complete, leaves.result]
      rfl
    · have whole := (Writing.accept_follows
        (Node.renderAll host (.root context) (nodes first (before ++ slot :: after)))).taken
        ⟨start, none⟩ (.inr fun limit limited => by cases limited)
      rw [leaves.text, leaves.result] at whole
      exact whole
  · rintro rfl
    have leaves := text_leaves host (.root context) first
    rw [Template.render, Template.output, Node.render, Output.complete, nodes, leaves.text,
      leaves.result]
    rfl

theorem slots_render_name :
    ∃ template, Template.compile "Hi {{ name }} ={{1}}{}" = .ok template ∧ ∀ host,
      template.render host ⟨[("name", .string "Bo")]⟩ = .ok "Hi Bo =1{}" ∧
      template.renderInto host .empty ⟨"> ", none⟩ =
        (⟨"> Hi ", none⟩, .error (.unresolved "name")) := by
  have apart : Apart "Hi " [⟨" name ", " ="⟩, ⟨"1", "{}"⟩] :=
    ⟨by decide +kernel, by decide +kernel, by decide +kernel⟩
  obtain ⟨template, compiled, renders⟩ := slots_render apart
  refine ⟨template, compiled, fun host => ⟨?_, ?_⟩⟩
  · have name : Shows (.root ⟨[("name", .string "Bo")]⟩) ⟨" name ", " ="⟩ "Bo" :=
      (shows_iff _ _ _).mpr ⟨.string "Bo", rfl, rfl⟩
    have one : Shows (.root ⟨[("name", .string "Bo")]⟩) ⟨"1", "{}"⟩ "1" :=
      (shows_iff _ _ _).mpr ⟨.int 1, rfl, rfl⟩
    exact (renders host _).1 ["Bo", "1"] (.cons name (.cons one .nil))
  · have unshown : ¬ ∃ text, Shows (.root .empty) ⟨" name ", " ="⟩ text := by
      rintro ⟨text, shows⟩
      cases shows with
      | literal reads => cases reads
      | bound unread resolves => cases resolves
    exact ((renders host _).2.1 [] ⟨" name ", " ="⟩ _ [] rfl .nil unshown).2 "> "

end Slot

end Stencil
