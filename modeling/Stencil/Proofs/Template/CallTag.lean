import Stencil.Proofs.Template.Wrapping

set_option autoImplicit false

namespace Stencil

namespace Argument

def isKeyword (argument : String) : Bool :=
  argument.toList.contains '='

def key (argument : String) : String :=
  String.ofList (argument.toList.takeWhile (· != '='))

def operand (argument : String) : String :=
  String.ofList ((argument.toList.dropWhile (· != '=')).drop 1)

def positionals (arguments : List String) : List String :=
  arguments.filter fun argument => !isKeyword argument

def keys (arguments : List String) : List String :=
  (arguments.filter isKeyword).map key

def operands (arguments : List String) : List String :=
  (arguments.filter isKeyword).map operand

end Argument

-- What may stand between the delimiters of a call: the words with blanks between them and maybe around
-- them, where no argument begins with `=` and no closing delimiter comes early.
structure CallText (callee : String) (arguments : List String) (inside : String) : Prop where
  words : ∃ before text after, inside.toList = before ++ text ++ after ∧
    (∀ c ∈ before, Text.isBlank c = true) ∧
    Text.Spaced (("call" :: callee :: arguments).map String.toList) text ∧
    ∀ c ∈ after, Text.isBlank c = true
  named : ∀ argument ∈ arguments, argument.toList.head? ≠ some '='
  unclosed : ¬ ['%', '}'] <:+: inside.toList

theorem cut_at_eq (separator : Char) (word : List Char) :
    Text.cutAt separator word =
      if separator ∈ word then
        some (word.takeWhile (· != separator), (word.dropWhile (· != separator)).drop 1)
      else none := by
  induction word with
  | nil => rfl
  | cons c rest ih =>
    rw [Text.cutAt, ih]
    by_cases here : c = separator
    · simp [here]
    · by_cases later : separator ∈ rest
      · simp [here, later, Ne.symm here]
      · simp [here, later, Ne.symm here]

namespace Call

def ofArguments (callee : String) (arguments : List String) : Call :=
  ⟨callee, (Argument.positionals arguments).map Expr.ofText,
    (Argument.keys arguments).zip ((Argument.operands arguments).map Expr.ofText)⟩

theorem keywords_eq (arguments : List String) :
    keywords arguments =
      (Argument.keys arguments).zip ((Argument.operands arguments).map Expr.ofText) := by
  induction arguments with
  | nil => rfl
  | cons argument rest ih =>
    rw [keywords, List.filterMap_cons, cut_at_eq, Argument.keys, Argument.operands]
    by_cases keyed : '=' ∈ argument.toList
    · rw [if_pos keyed, List.filter_cons_of_pos (by simpa [Argument.isKeyword] using keyed)]
      exact congrArg (List.cons _) ih
    · rw [if_neg keyed, List.filter_cons_of_neg (by simpa [Argument.isKeyword] using keyed)]
      exact ih

end Call

namespace CallText

variable {callee inside : String} {arguments : List String}

def fragment (inside : String) : Fragment :=
  Fragment.ofRaw (String.ofList (Tag.block.start ++ inside.toList ++ Tag.block.finish))

theorem fragment_eq (text : CallText callee arguments inside) :
    (fragment inside).kind = .opening ∧ (fragment inside).words = "call" :: callee :: arguments := by
  obtain ⟨before, core, after, parts, blankBefore, spaced, blankAfter⟩ := text.words
  have trimmed : Text.trim inside.toList = core := by
    rw [parts]
    exact Text.trim_between blankBefore (Text.spaced_no_outer_blank spaced).2 blankAfter
  -- The command begins with a letter that no closing tag begins with.
  have notEnd : ¬ ['e', 'n', 'd'] <+: core := by
    cases spaced
    rintro ⟨_, same⟩
    cases same
  rw [fragment, Fragment.ofRaw_enclosed, Tag.kind, Fragment.words, trimmed]
  refine ⟨if_neg notEnd, ?_⟩
  rw [String.toList_ofList, Text.words_spaced spaced]
  simp

theorem plays_call (text : CallText callee arguments inside) : (fragment inside).Plays .call := by
  obtain ⟨opening, words⟩ := fragment_eq text
  refine .call ⟨opening, by rw [words]; rfl⟩ ?_ ?_
  · rw [words, List.length_cons, List.length_cons]
    omega
  · rw [words]
    exact text.named

theorem invocation_eq (text : CallText callee arguments inside) :
    (fragment inside).invocation = Call.ofArguments callee arguments := by
  rw [Fragment.invocation, (fragment_eq text).2, Call.ofArguments, ← Call.keywords_eq]
  rfl

theorem fragments_eq (text : CallText callee arguments inside) :
    fragments (Tag.block.around inside) = [fragment inside] := by
  have free : ¬ ['%', '}'] <:+: inside.toList ++ ['%'] := by
    rw [Text.pair_infix_append]
    rintro (within | single | ⟨_, begins⟩)
    · exact text.unclosed within
    · exact absurd single.length_le (by decide)
    · cases begins
  have found := Fragment.tag?_enclosed .block free []
  have parts : (Tag.block.around inside).toList =
      Tag.block.start ++ inside.toList ++ Tag.block.finish ++ [] := by
    simp [Tag.start, Tag.finish]
  rw [fragments, Cursor.ofSource, parts, toList_of_first? (Fragment.first?_tag found), toList_nil]
  rfl

theorem compile_call (text : CallText callee arguments inside) :
    Template.compile (Tag.block.around inside) =
      .ok ⟨Tag.block.around inside, .root [.call (Call.ofArguments callee arguments)]⟩ := by
  have derive : Item.Derive [.leaf .call (fragment inside)]
      (fragments (Tag.block.around inside)) := by
    rw [fragments_eq text]
    exact ⟨⟨⟨rfl, plays_call text⟩, trivial⟩, rfl, Nat.zero_le 128⟩
  rw [compile_of_derivation derive, Item.nodes, Item.nodes, Item.node, Fragment.nodeAs,
    invocation_eq text]

end CallText

end Stencil
