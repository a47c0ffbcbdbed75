import Stencil.Node.Tag

set_option autoImplicit false

namespace Stencil

inductive Role where
  | text
  | interpolation
  | call
  | each
  | choice
  | separator
deriving DecidableEq

def Role.isLeaf : Role → Bool
  | .text => true
  | .interpolation => true
  | .call => true
  | _ => false

def Call.positional (arguments : List String) : List Expr :=
  (arguments.filter fun argument => !argument.toList.contains '=').map Expr.ofText

def Call.keywords (arguments : List String) : List (String × Expr) :=
  arguments.filterMap fun argument => (Text.cutAt '=' argument.toList).map fun (key, value) =>
    (String.ofList key, Expr.ofText (String.ofList value))

namespace Fragment

def words (fragment : Fragment) : List String :=
  (Text.words fragment.clean.toList).map String.ofList

def remainder (fragment : Fragment) : String :=
  String.ofList (Text.afterFirstBlank fragment.clean.toList)

def Commands (fragment : Fragment) (command : String) : Prop :=
  fragment.kind = .opening ∧ fragment.words.head? = some command

inductive Plays (fragment : Fragment) : Role → Prop where
  | text (kind : fragment.kind = .text) (noOutput : ¬ ['{', '{'] <:+: fragment.raw.toList)
      (noBlock : ¬ ['{', '%'] <:+: fragment.raw.toList) : Plays fragment .text
  | interpolation (kind : fragment.kind = .interpolation) : Plays fragment .interpolation
  | call (command : fragment.Commands "call") (named : 2 ≤ fragment.words.length)
      (keywords : ∀ argument ∈ fragment.words.drop 2, argument.toList.head? ≠ some '=') :
      Plays fragment .call
  | each (command : fragment.Commands "each") (iterable : fragment.remainder ≠ "") :
      Plays fragment .each
  | choice (command : fragment.Commands "if")
      (operands : fragment.words.length = 2 ∨ fragment.words.length = 4) : Plays fragment .choice
  | separator (command : fragment.Commands "else") : Plays fragment .separator

def invocation (fragment : Fragment) : Call :=
  let arguments := fragment.words.drop 2
  ⟨fragment.words.getD 1 "", Call.positional arguments, Call.keywords arguments⟩

def condition (fragment : Fragment) : Condition :=
  let lhs := Expr.ofText (fragment.words.getD 1 "")
  if fragment.words.length = 4 then
    ⟨lhs, some (fragment.words.getD 2 "", Expr.ofText (fragment.words.getD 3 ""))⟩
  else ⟨lhs, none⟩

def nodeAs (fragment : Fragment) : Role → Node
  | .text => .text fragment.clean
  | .interpolation => .interpolation (Expr.ofText fragment.clean)
  | .call => .call fragment.invocation
  | .each => .each (Expr.ofText fragment.remainder) []
  | .choice => .choice fragment.condition [] []
  | .separator => .elseMark

theorem plays_kind {fragment : Fragment} {role : Role} (plays : fragment.Plays role) :
    fragment.kind ≠ .closing := by
  cases plays with
  | text kind => simp [kind]
  | interpolation kind => simp [kind]
  | call command => simp [command.1]
  | each command => simp [command.1]
  | choice command => simp [command.1]
  | separator command => simp [command.1]

end Fragment

theorem has_opening_iff (text : List Char) :
    hasOpening text = true ↔ ['{', '{'] <:+: text ∨ ['{', '%'] <:+: text := by
  fun_induction hasOpening text with
  | case1 rest => exact iff_of_true rfl (.inl ⟨[], rest, rfl⟩)
  | case2 rest => exact iff_of_true rfl (.inr ⟨[], rest, rfl⟩)
  | case3 c rest notOutput notBlock ih =>
    have noOutput : ¬ ['{', '{'] <+: c :: rest := by
      rintro ⟨after, same⟩
      cases same
      exact notOutput after rfl rfl
    have noBlock : ¬ ['{', '%'] <+: c :: rest := by
      rintro ⟨after, same⟩
      cases same
      exact notBlock after rfl rfl
    rw [ih, List.infix_cons_iff, List.infix_cons_iff]
    simp only [noOutput, noBlock, false_or]
  | case4 => simp

theorem cut_at_empty_iff (word : List Char) :
    (∃ after, Text.cutAt '=' word = some ([], after)) ↔ word.head? = some '=' := by
  cases word with
  | nil => simp [Text.cutAt]
  | cons c rest =>
    by_cases here : c = '='
    · simp [Text.cutAt, here]
    · simp [Text.cutAt, here]

theorem cut_at_none_iff (separator : Char) (word : List Char) :
    Text.cutAt separator word = none ↔ separator ∉ word := by
  induction word with
  | nil => simp [Text.cutAt]
  | cons c rest ih =>
    by_cases here : c = separator
    · simp [Text.cutAt, here]
    · rw [Text.cutAt, if_neg here, Option.map_eq_none_iff, ih, List.mem_cons, not_or]
      exact (and_iff_right fun same => here same.symm).symm

theorem with_arguments_named (arguments : List (List Char))
    (named : ∀ argument ∈ arguments, argument.head? ≠ some '=') (call : Call) :
    call.withArguments? arguments =
      some ⟨call.callee, call.args ++ Call.positional (arguments.map String.ofList),
        call.kwargs ++ Call.keywords (arguments.map String.ofList)⟩ := by
  induction arguments generalizing call with
  | nil => simp [Call.withArguments?, Call.positional, Call.keywords]
  | cons word rest ih =>
    have restNamed : ∀ argument ∈ rest, argument.head? ≠ some '=' :=
      fun argument member => named argument (List.mem_cons_of_mem word member)
    cases cut : Text.cutAt '=' word with
    | none =>
      have whole : '=' ∉ word := (cut_at_none_iff '=' word).mp cut
      rw [Call.withArguments?, cut]
      simp only [ih restNamed]
      simp [Call.positional, Call.keywords, whole, cut]
    | some parts =>
      obtain ⟨key, value⟩ := parts
      have split : '=' ∈ word := by
        apply Decidable.byContradiction
        intro whole
        rw [(cut_at_none_iff '=' word).mpr whole] at cut
        cases cut
      cases key with
      | nil => exact absurd ((cut_at_empty_iff word).mp ⟨value, cut⟩) (named word (by simp))
      | cons c tail =>
        rw [Call.withArguments?, cut]
        simp only [ih restNamed]
        simp [Call.positional, Call.keywords, split, cut]

theorem with_arguments_nameless (arguments : List (List Char)) (word : List Char)
    (member : word ∈ arguments) (nameless : word.head? = some '=') (call : Call) :
    call.withArguments? arguments = none := by
  induction arguments generalizing call with
  | nil => cases member
  | cons first rest ih =>
    rcases List.mem_cons.mp member with here | later
    · obtain ⟨after, cut⟩ := (cut_at_empty_iff word).mpr nameless
      rw [← here, Call.withArguments?, cut]
    · rw [Call.withArguments?]
      split
      · rfl
      · exact ih later _
      · exact ih later _

namespace Fragment

theorem head_word_iff (fragment : Fragment) (command : String) (nonempty : command ≠ "") :
    ((Text.words fragment.clean.toList).head?.map String.ofList).getD "" = command ↔
      fragment.words.head? = some command := by
  rw [words, List.head?_map]
  cases (Text.words fragment.clean.toList).head?.map String.ofList with
  | none => simp [nonempty.symm]
  | some word => simp

theorem of_each_ok_iff (fragment : Fragment) (node : Node) :
    Node.ofEach fragment.clean = .ok node ↔
      fragment.remainder ≠ "" ∧ node = .each (Expr.ofText fragment.remainder) [] := by
  rw [Node.ofEach, remainder]
  cases Text.afterFirstBlank fragment.clean.toList with
  | nil => simp
  | cons c rest => simp [eq_comm (a := node)]

theorem of_if_ok_iff (fragment : Fragment) (node : Node) (command : fragment.words.head? = some "if") :
    Node.ofIf fragment.clean = .ok node ↔
      (fragment.words.length = 2 ∨ fragment.words.length = 4) ∧ node = .choice fragment.condition [] [] := by
  obtain ⟨operands, words⟩ : ∃ operands, fragment.words = "if" :: operands := by
    cases list : fragment.words with
    | nil => simp [list] at command
    | cons word operands =>
      simp [list] at command
      exact ⟨operands, by rw [command]⟩
  have bits : ((Text.words fragment.clean.toList).drop 1).map String.ofList = operands := by
    rw [List.map_drop]
    exact congrArg (List.drop 1) words
  rw [Node.ofIf, bits, condition, words]
  match operands with
  | [] => simp
  | [lhs] => simp [eq_comm (a := node)]
  | [_, _] => simp
  | [lhs, symbol, rhs] => simp [eq_comm (a := node)]
  | _ :: _ :: _ :: _ :: _ => simp

theorem of_call_ok_iff (fragment : Fragment) (node : Node) :
    Node.ofCall fragment.clean = .ok node ↔
      2 ≤ fragment.words.length ∧
        (∀ argument ∈ fragment.words.drop 2, argument.toList.head? ≠ some '=') ∧
        node = .call fragment.invocation := by
  rw [Node.ofCall, invocation, words]
  match Text.words fragment.clean.toList with
  | [] => simp
  | [_] => simp
  | command :: callee :: arguments =>
    have texts : ∀ argument ∈ arguments.map String.ofList, argument.toList ∈ arguments := by
      intro argument member
      obtain ⟨word, inside, rfl⟩ := List.mem_map.mp member
      rwa [String.toList_ofList]
    by_cases named : ∀ argument ∈ arguments, argument.head? ≠ some '='
    · simp only [List.drop_succ_cons, List.drop_zero, with_arguments_named arguments named]
      constructor
      · intro made
        cases made
        exact ⟨by simp, fun argument member => named _ (texts argument member), by simp⟩
      · rintro ⟨_, _, rfl⟩
        simp
    · obtain ⟨word, member, nameless⟩ : ∃ word ∈ arguments, word.head? = some '=' := by
        simpa using named
      simp only [List.drop_succ_cons, List.drop_zero,
        with_arguments_nameless arguments word member nameless]
      constructor
      · intro made
        cases made
      · rintro ⟨_, keywords, _⟩
        have headed := keywords (String.ofList word) (List.mem_map_of_mem member)
        rw [String.toList_ofList] at headed
        exact absurd nameless headed

theorem plays_of_node {fragment : Fragment} {node : Node}
    (made : Node.ofFragment fragment = .ok node) :
    ∃ role, fragment.Plays role ∧ node = fragment.nodeAs role := by
  rw [Node.ofFragment] at made
  split at made
  · rename_i kind
    split at made
    · cases made
    · rename_i closed
      rw [has_opening_iff, not_or] at closed
      cases made
      exact ⟨.text, .text kind closed.1 closed.2, rfl⟩
  · rename_i kind
    cases made
    exact ⟨.interpolation, .interpolation kind, rfl⟩
  · rename_i kind
    split at made
    · rename_i word
      have command := (head_word_iff fragment "each" (by decide)).mp word
      obtain ⟨iterable, same⟩ := (of_each_ok_iff fragment node).mp made
      exact ⟨.each, .each ⟨kind, command⟩ iterable, same⟩
    · rename_i word
      have command := (head_word_iff fragment "if" (by decide)).mp word
      obtain ⟨operands, same⟩ := (of_if_ok_iff fragment node command).mp made
      exact ⟨.choice, .choice ⟨kind, command⟩ operands, same⟩
    · rename_i word
      have command := (head_word_iff fragment "else" (by decide)).mp word
      cases made
      exact ⟨.separator, .separator ⟨kind, command⟩, rfl⟩
    · rename_i word
      have command := (head_word_iff fragment "call" (by decide)).mp word
      obtain ⟨named, keywords, same⟩ := (of_call_ok_iff fragment node).mp made
      exact ⟨.call, .call ⟨kind, command⟩ named keywords, same⟩
    · cases made
  · cases made

theorem node_of_plays {fragment : Fragment} {role : Role} (plays : fragment.Plays role) :
    Node.ofFragment fragment = .ok (fragment.nodeAs role) := by
  have first : ∀ command : String, command ≠ "" → fragment.Commands command →
      ((Text.words fragment.clean.toList).head?.map String.ofList).getD "" = command :=
    fun command nonempty commands => (head_word_iff fragment command nonempty).mpr commands.2
  rw [Node.ofFragment]
  cases plays with
  | text kind noOutput noBlock =>
    have closed : ¬ hasOpening fragment.raw.toList = true := by
      rw [has_opening_iff, not_or]
      exact ⟨noOutput, noBlock⟩
    simp only [kind, if_neg closed, nodeAs]
  | interpolation kind => simp only [kind, nodeAs]
  | call command named keywords =>
    simp only [command.1, first "call" (by decide) command]
    exact (of_call_ok_iff fragment _).mpr ⟨named, keywords, rfl⟩
  | each command iterable =>
    simp only [command.1, first "each" (by decide) command]
    exact (of_each_ok_iff fragment _).mpr ⟨iterable, rfl⟩
  | choice command operands =>
    simp only [command.1, first "if" (by decide) command]
    exact (of_if_ok_iff fragment _ command.2).mpr ⟨operands, rfl⟩
  | separator command => simp only [command.1, first "else" (by decide) command, nodeAs]

-- The node tells the role, so a fragment that played two would stand for two nodes.
theorem plays_unique {fragment : Fragment} {one other : Role} (first : fragment.Plays one)
    (second : fragment.Plays other) : one = other := by
  have same : fragment.nodeAs one = fragment.nodeAs other :=
    Except.ok.inj ((node_of_plays first).symm.trans (node_of_plays second))
  cases one <;> cases other <;> first | rfl | cases same

end Fragment

end Stencil
