import Stencil.Proofs.Template.Brackets
import Stencil.Proofs.Template.Failure

set_option autoImplicit false

namespace Stencil

def Accepted (fragments : List Fragment) : Prop :=
  ∃ root, Node.ofFragments fragments = .ok root

-- So many ends after the fragments, whatever they say, make a template of them.
def CompletedBy (missing : Nat) (fragments : List Fragment) : Prop :=
  ∀ closers : List Fragment, closers.length = missing → (∀ closer ∈ closers, closer.kind = .closing) →
    Accepted (fragments ++ closers)

namespace Unfinished

theorem closing_move {state : Unfinished} {closer : Fragment} (kind : closer.kind = .closing)
    (inBlock : state.depth ≠ 0) : ∃ next, state.Move closer next ∧ next.depth + 1 = state.depth := by
  cases state with
  | top items => exact absurd rfl inBlock
  | each outer opener items => exact ⟨_, .closeEach kind, by rw [add_depth, depth]⟩
  | thenPart outer opener items => exact ⟨_, .closeThen kind, by rw [add_depth, depth]⟩
  | elsePart outer opener thenBranch mark items =>
    exact ⟨_, .closeElse kind, by rw [add_depth, depth]⟩

theorem run_closers {state : Unfinished} (wellFormed : state.WellFormed) {closers : List Fragment}
    (count : closers.length = state.depth) (closing : ∀ closer ∈ closers, closer.kind = .closing) :
    ∃ items, closers.foldlM OpenBlock.step state.stack = .ok (top items).stack := by
  -- Every end closes one block; the derivation grows, so the induction is on the ends.
  induction closers generalizing state with
  | nil =>
    cases state with
    | top items => exact ⟨items, rfl⟩
    | each outer opener items => cases count
    | thenPart outer opener items => cases count
    | elsePart outer opener thenBranch mark items => cases count
  | cons closer rest ih =>
    obtain ⟨kind, others⟩ := List.forall_mem_cons.mp closing
    rw [List.length_cons] at count
    have inBlock : state.depth ≠ 0 := by omega
    obtain ⟨next, move, less⟩ := closing_move kind inBlock
    rw [run_cons wellFormed move]
    exact ih (move_well_formed wellFormed move) (by omega) others

theorem completed_of_run {state : Unfinished} (wellFormed : state.WellFormed) {fragments : List Fragment}
    (ran : fragments.foldlM OpenBlock.step OpenBlock.start = .ok state.stack) :
    CompletedBy (state.stack.length - 1) fragments := by
  intro closers count closing
  rw [stack_length, Nat.add_sub_cancel] at count
  obtain ⟨items, closed⟩ := run_closers wellFormed count closing
  have opened : fragments.foldlM OpenBlock.step (top []).stack = .ok state.stack := ran
  have whole : (fragments ++ closers).foldlM OpenBlock.step (top []).stack = .ok (top items).stack := by
    rw [run_append opened, closed]
  exact ⟨.root (Item.nodes items), congrArg (Except.bind · OpenBlock.finish) whole⟩

theorem finish_in_block (block : OpenBlock) (outer : Unfinished) :
    OpenBlock.finish (block :: outer.stack) = .error (.malformed block.opener .neverClosed) := by
  cases outer <;> rfl

theorem last_unclosed {before inside : List Fragment} {opener : Fragment} (opens : opener.Opens)
    (balanced : Balanced inside) : LastUnclosed (before ++ opener :: inside) opener :=
  ⟨before, inside, rfl, opens, no_end_left balanced, opener_has_end balanced⟩

theorem finish_blames {state : Unfinished} (wellFormed : state.WellFormed) {error : Error}
    (failed : OpenBlock.finish state.stack = .error error) :
    ∃ opener : Fragment, error = .malformed opener.raw .neverClosed ∧
      LastUnclosed state.fragments opener := by
  cases state with
  | top items => cases failed
  | each outer opener items =>
    obtain ⟨_, plays, formed, _⟩ := wellFormed
    rw [stack, finish_in_block] at failed
    exact ⟨opener, (Except.error.inj failed).symm,
      last_unclosed (Fragment.each_opens plays) (Item.balanced_all items formed)⟩
  | thenPart outer opener items =>
    obtain ⟨_, plays, formed, _⟩ := wellFormed
    rw [stack, finish_in_block] at failed
    exact ⟨opener, (Except.error.inj failed).symm,
      last_unclosed (Fragment.choice_opens plays) (Item.balanced_all items formed)⟩
  | elsePart outer opener thenBranch mark items =>
    obtain ⟨_, plays, thenFormed, separator, formed, _⟩ := wellFormed
    rw [stack, finish_in_block] at failed
    have branches := balanced_branches (Item.balanced_all thenBranch thenFormed) separator
      (Item.balanced_all items formed)
    exact ⟨opener, (Except.error.inj failed).symm,
      last_unclosed (Fragment.choice_opens plays) branches⟩

end Unfinished

theorem refused_from_here {before : List Fragment} {fragment : Fragment} {stack : List OpenBlock}
    {error : Error} (ran : before.foldlM OpenBlock.step OpenBlock.start = .ok stack)
    (failed : OpenBlock.step stack fragment = .error error) (later : List Fragment) :
    ¬ Accepted (before ++ fragment :: later) := by
  intro accepted
  obtain ⟨root, made⟩ := accepted
  have stopped : (before ++ fragment :: later).foldlM OpenBlock.step OpenBlock.start = .error error := by
    rw [List.foldlM_append, ran]
    change (fragment :: later).foldlM OpenBlock.step stack = .error error
    rw [List.foldlM_cons, failed]
    rfl
  rw [Node.ofFragments, stopped] at made
  cases made

theorem of_fragments_of_compile {source : String} {error : Error}
    (failed : Template.compile source = .error error) :
    Node.ofFragments (fragments source) = .error error := by
  rw [Template.compile] at failed
  cases made : Node.ofFragments (fragments source) with
  | ok root =>
    rw [made] at failed
    cases failed
  | error reason =>
    rw [made] at failed
    cases failed
    rfl

/-- A template that does not compile is refused at the earliest fragment: ends alone complete what
stands before it, and nothing after it makes up for it. Where only ends are missing, the last block
without one is blamed. -/
theorem compile_error_earliest {source : String} {error : Error}
    (failed : Template.compile source = .error error) :
    ∃ text reason, error = .malformed text reason ∧
      (reason.text ≠ "block is never closed" →
        ∃ before fragment after stack, fragments source = before ++ fragment :: after ∧
          before.foldlM OpenBlock.step OpenBlock.start = .ok stack ∧
          OpenBlock.step stack fragment = .error error ∧
          CompletedBy (stack.length - 1) before ∧
          (∀ later, ¬ Accepted (before ++ fragment :: later)) ∧
          (text = fragment.raw ∨ text = fragment.clean)) ∧
      (reason.text = "block is never closed" →
        ∃ stack opener, (fragments source).foldlM OpenBlock.step OpenBlock.start = .ok stack ∧
          CompletedBy (stack.length - 1) (fragments source) ∧
          LastUnclosed (fragments source) opener ∧ text = opener.raw) := by
  have refused := of_fragments_of_compile failed
  rw [Node.ofFragments] at refused
  cases ran : (fragments source).foldlM OpenBlock.step OpenBlock.start with
  | error cause =>
    rw [ran] at refused
    cases refused
    obtain ⟨before, fragment, after, reached, parts, formed, read, stopped⟩ :=
      Unfinished.run_error top_well_formed ran
    obtain ⟨text, reason, rfl, blamed, _, otherReason⟩ := Unfinished.step_error formed stopped
    refine ⟨text, reason, rfl, fun _ => ?_, fun unclosed => absurd unclosed otherReason⟩
    exact ⟨before, fragment, after, reached.stack, parts, read, stopped,
      Unfinished.completed_of_run formed read, refused_from_here read stopped, blamed⟩
  | ok stack =>
    obtain ⟨state, formed, rfl, derived⟩ := Unfinished.run_moves top_well_formed ran
    rw [ran] at refused
    obtain ⟨opener, rfl, last⟩ := Unfinished.finish_blames formed refused
    rw [derived] at last
    refine ⟨opener.raw, .neverClosed, rfl, fun other => absurd rfl other, fun _ => ?_⟩
    exact ⟨state.stack, opener, rfl, Unfinished.completed_of_run formed ran, last, rfl⟩

theorem compile_error_earliest_blocks :
    (Template.compile "{% if a %}x{% each b %}{% else %}{% end %}" =
        .error (.malformed "{% else %}" .strayElse) ∧
      ∃ before fragment after stack,
        fragments "{% if a %}x{% each b %}{% else %}{% end %}" = before ++ fragment :: after ∧
          before.foldlM OpenBlock.step OpenBlock.start = .ok stack ∧
          CompletedBy (stack.length - 1) before ∧
          (∀ later, ¬ Accepted (before ++ fragment :: later)) ∧
          ("{% else %}" = fragment.raw ∨ "{% else %}" = fragment.clean)) ∧
      Template.compile "{% if a %}{% else %}{% each b %}y{% end %}" =
          .error (.malformed "{% if a %}" .neverClosed) ∧
        CompletedBy 1 (fragments "{% if a %}{% else %}{% each b %}y{% end %}") ∧
        ∃ opener, LastUnclosed (fragments "{% if a %}{% else %}{% each b %}y{% end %}") opener ∧
          "{% if a %}" = opener.raw := by
  have misplaced : fragments "{% if a %}x{% each b %}{% else %}{% end %}" =
      ["{% if a %}", "x", "{% each b %}", "{% else %}", "{% end %}"].map Fragment.ofRaw := by
    decide +kernel
  have unclosed : fragments "{% if a %}{% else %}{% each b %}y{% end %}" =
      ["{% if a %}", "{% else %}", "{% each b %}", "y", "{% end %}"].map Fragment.ofRaw := by
    decide +kernel
  have first : Template.compile "{% if a %}x{% each b %}{% else %}{% end %}" =
      .error (.malformed "{% else %}" .strayElse) := by
    rw [Template.compile, misplaced]
    with_unfolding_all rfl
  have second : Template.compile "{% if a %}{% else %}{% each b %}y{% end %}" =
      .error (.malformed "{% if a %}" .neverClosed) := by
    rw [Template.compile, unclosed]
    with_unfolding_all rfl
  refine ⟨⟨first, ?_⟩, second, ?_⟩
  · obtain ⟨text, reason, same, stopped, _⟩ := compile_error_earliest first
    cases same
    obtain ⟨before, fragment, after, stack, parts, ran, _, rest⟩ := stopped (by decide)
    exact ⟨before, fragment, after, stack, parts, ran, rest⟩
  · obtain ⟨text, reason, same, _, missing⟩ := compile_error_earliest second
    cases same
    obtain ⟨stack, opener, ran, completed, last, raw⟩ := missing rfl
    have opened : ((fragments "{% if a %}{% else %}{% each b %}y{% end %}").foldlM OpenBlock.step
        OpenBlock.start).map List.length = .ok 2 := by
      rw [unclosed]
      with_unfolding_all rfl
    rw [ran] at opened
    have count : stack.length = 2 := Except.ok.inj opened
    rw [count] at completed
    exact ⟨completed, opener, last, raw⟩

end Stencil
