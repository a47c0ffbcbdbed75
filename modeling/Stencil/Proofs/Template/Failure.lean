import Stencil.Proofs.Template.Grammar

set_option autoImplicit false

namespace Stencil

def Fragment.Blamed (fragment : Fragment) (error : Error) : Prop :=
  ∃ text reason, error = .malformed text reason ∧ (text = fragment.raw ∨ text = fragment.clean) ∧
    reason.text ≠ "unexpected end" ∧ reason.text ≠ "block is never closed"

structure OpenBlock.Sound (stack : List OpenBlock) : Prop where
  bottom : ∃ inner children opener, stack = inner ++ [⟨.root children, opener⟩]
  accepts : ∀ block ∈ stack, ∀ child, (Node.push? child block.node).isSome = true
  bounded : stack.length ≤ 129

namespace Fragment

variable {fragment : Fragment} {error : Error}

theorem blamed_raw {reason : Reason}
    (named : reason.text ≠ "unexpected end" ∧ reason.text ≠ "block is never closed") :
    fragment.Blamed (.malformed fragment.raw reason) :=
  ⟨fragment.raw, reason, rfl, .inl rfl, named⟩

theorem blamed_clean {reason : Reason}
    (named : reason.text ≠ "unexpected end" ∧ reason.text ≠ "block is never closed") :
    fragment.Blamed (.malformed fragment.clean reason) :=
  ⟨fragment.clean, reason, rfl, .inr rfl, named⟩

theorem of_each_error (failed : Node.ofEach fragment.clean = .error error) :
    fragment.Blamed error := by
  rw [Node.ofEach] at failed
  split at failed
  · cases failed
    exact blamed_clean (by decide)
  · cases failed

theorem of_if_error (failed : Node.ofIf fragment.clean = .error error) : fragment.Blamed error := by
  rw [Node.ofIf] at failed
  split at failed
  · cases failed
  · cases failed
  · cases failed
    exact blamed_clean (by decide)

theorem of_call_error (failed : Node.ofCall fragment.clean = .error error) :
    fragment.Blamed error := by
  rw [Node.ofCall] at failed
  split at failed
  · cases failed
    exact blamed_clean (by decide)
  · split at failed
    · cases failed
    · cases failed
      exact blamed_clean (by decide)

theorem of_fragment_error (notClosing : fragment.kind ≠ .closing)
    (failed : Node.ofFragment fragment = .error error) : fragment.Blamed error := by
  rw [Node.ofFragment] at failed
  split at failed
  · split at failed
    · cases failed
      exact blamed_raw (by decide)
    · cases failed
  · cases failed
  · split at failed
    · exact of_each_error failed
    · exact of_if_error failed
    · cases failed
    · exact of_call_error failed
    · cases failed
      exact blamed_raw (by decide)
  · rename_i kind
    exact absurd kind notClosing

end Fragment

namespace Unfinished

section Steps

variable {state next : Unfinished} {fragment : Fragment} {error : Error}

theorem move_cannot_fail (wellFormed : state.WellFormed) (move : state.Move fragment next) :
    OpenBlock.step state.stack fragment ≠ .error error := by
  rw [step_of_move wellFormed move]
  intro failed
  cases failed

theorem closing_error (wellFormed : state.WellFormed) (kind : fragment.kind = .closing)
    (failed : OpenBlock.step state.stack fragment = .error error) : fragment.Blamed error := by
  cases state with
  | top items =>
    rw [step_closing kind] at failed
    cases failed
    exact Fragment.blamed_raw (by decide)
  | each outer opener items => exact absurd failed (move_cannot_fail wellFormed (.closeEach kind))
  | thenPart outer opener items => exact absurd failed (move_cannot_fail wellFormed (.closeThen kind))
  | elsePart outer opener thenBranch mark items =>
    exact absurd failed (move_cannot_fail wellFormed (.closeElse kind))

theorem separator_error (wellFormed : state.WellFormed) (plays : fragment.Plays .separator)
    (failed : OpenBlock.step state.stack fragment = .error error) : fragment.Blamed error := by
  cases state with
  | top items =>
    rw [step_plays plays] at failed
    cases failed
    exact Fragment.blamed_raw (by decide)
  | each outer opener items =>
    rw [step_plays plays] at failed
    cases failed
    exact Fragment.blamed_raw (by decide)
  | thenPart outer opener items => exact absurd failed (move_cannot_fail wellFormed (.separate plays))
  | elsePart outer opener thenBranch mark items =>
    have second : OpenBlock.step (elsePart outer opener thenBranch mark items).stack fragment =
        .error (.malformed fragment.raw .secondElse) := by
      rw [step_plays plays]
      simp [OpenBlock.place, Fragment.nodeAs, Node.isElseMark, OpenBlock.admitElse, stack, Except.bind]
    rw [second] at failed
    cases failed
    exact Fragment.blamed_raw (by decide)

theorem block_error {role : Role} (plays : fragment.Plays role)
    (opens : (fragment.nodeAs role).opensScope = true)
    (notMark : (fragment.nodeAs role).isElseMark = false)
    (failed : OpenBlock.step state.stack fragment = .error error) : fragment.Blamed error := by
  rw [step_plays plays, place_block state opens notMark] at failed
  split at failed
  · cases failed
  · cases failed
    exact Fragment.blamed_raw (by decide)

theorem step_error (wellFormed : state.WellFormed)
    (failed : OpenBlock.step state.stack fragment = .error error) : fragment.Blamed error := by
  by_cases kind : fragment.kind = .closing
  · exact closing_error wellFormed kind failed
  · cases made : Node.ofFragment fragment with
    | error reason =>
      rw [OpenBlock.step, if_neg kind, made] at failed
      cases failed
      exact Fragment.of_fragment_error kind made
    | ok node =>
      obtain ⟨role, plays, _⟩ := Fragment.plays_of_node made
      cases role with
      | text => exact absurd failed (move_cannot_fail wellFormed (.leaf rfl plays))
      | interpolation => exact absurd failed (move_cannot_fail wellFormed (.leaf rfl plays))
      | call => exact absurd failed (move_cannot_fail wellFormed (.leaf rfl plays))
      | each => exact block_error plays rfl rfl failed
      | choice => exact block_error plays rfl rfl failed
      | separator => exact separator_error wellFormed plays failed

theorem run_error (wellFormed : state.WellFormed) {fragments : List Fragment}
    (failed : fragments.foldlM OpenBlock.step state.stack = .error error) :
    ∃ before fragment after reached, fragments = before ++ fragment :: after ∧
      Unfinished.WellFormed reached ∧
      before.foldlM OpenBlock.step state.stack = .ok reached.stack ∧
      OpenBlock.step reached.stack fragment = .error error := by
  induction fragments generalizing state with
  | nil => cases failed
  | cons fragment rest ih =>
    cases stepped : OpenBlock.step state.stack fragment with
    | error reason =>
      rw [List.foldlM_cons, stepped] at failed
      cases failed
      exact ⟨[], fragment, rest, state, rfl, wellFormed, rfl, stepped⟩
    | ok stack =>
      obtain ⟨middle, move⟩ := move_of_step stepped
      rw [run_cons wellFormed move] at failed
      obtain ⟨before, last, after, reached, parts, formed, ran, stopped⟩ :=
        ih (move_well_formed wellFormed move) failed
      refine ⟨fragment :: before, last, after, reached, by rw [parts]; rfl, formed, ?_, stopped⟩
      rw [run_cons wellFormed move, ran]

end Steps

theorem stack_bottom (state : Unfinished) :
    ∃ inner children opener, state.stack = inner ++ [⟨.root children, opener⟩] := by
  induction state with
  | top items => exact ⟨[], Item.nodes items, "", rfl⟩
  | each outer opener items ih =>
    obtain ⟨inner, children, text, shape⟩ := ih
    exact ⟨_ :: inner, children, text, by rw [stack, shape]; rfl⟩
  | thenPart outer opener items ih =>
    obtain ⟨inner, children, text, shape⟩ := ih
    exact ⟨_ :: inner, children, text, by rw [stack, shape]; rfl⟩
  | elsePart outer opener thenBranch mark items ih =>
    obtain ⟨inner, children, text, shape⟩ := ih
    exact ⟨_ :: inner, children, text, by rw [stack, shape]; rfl⟩

theorem stack_accepts (state : Unfinished) :
    ∀ block ∈ state.stack, ∀ child, (Node.push? child block.node).isSome = true := by
  induction state with
  | top items => exact List.forall_mem_singleton.mpr fun _ => rfl
  | each outer opener items ih => exact List.forall_mem_cons.mpr ⟨fun _ => rfl, ih⟩
  | thenPart outer opener items ih => exact List.forall_mem_cons.mpr ⟨fun _ => rfl, ih⟩
  | elsePart outer opener thenBranch mark items ih =>
    exact List.forall_mem_cons.mpr ⟨fun _ => rfl, ih⟩

theorem stack_sound {state : Unfinished} (wellFormed : state.WellFormed) :
    OpenBlock.Sound state.stack where
  bottom := stack_bottom state
  accepts := stack_accepts state
  bounded := by
    rw [stack_length]
    exact Nat.succ_le_succ (depth_bound wellFormed)

end Unfinished

theorem top_well_formed : (Unfinished.top []).WellFormed :=
  ⟨trivial, Nat.zero_le maxOpenBlocks⟩

theorem finish_error {state : Unfinished} {error : Error}
    (failed : OpenBlock.finish state.stack = .error error) :
    ∃ opener, error = .malformed opener .neverClosed := by
  cases state with
  | top items => cases failed
  | each outer opener items =>
    cases outer <;> cases failed <;> exact ⟨_, rfl⟩
  | thenPart outer opener items =>
    cases outer <;> cases failed <;> exact ⟨_, rfl⟩
  | elsePart outer opener thenBranch mark items =>
    cases outer <;> cases failed <;> exact ⟨_, rfl⟩

theorem of_fragments_error {fragments : List Fragment} {error : Error}
    (failed : Node.ofFragments fragments = .error error) :
    ∃ text reason, error = .malformed text reason ∧ reason.text ≠ "unexpected end" := by
  rw [Node.ofFragments] at failed
  cases ran : fragments.foldlM OpenBlock.step OpenBlock.start with
  | error reason =>
    rw [ran] at failed
    cases failed
    obtain ⟨_, fragment, _, reached, _, formed, _, stopped⟩ := Unfinished.run_error top_well_formed ran
    obtain ⟨text, reason, same, _, named⟩ := Unfinished.step_error formed stopped
    exact ⟨text, reason, same, named.1⟩
  | ok stack =>
    obtain ⟨state, _, rfl, _⟩ := Unfinished.run_moves top_well_formed ran
    rw [ran] at failed
    obtain ⟨opener, same⟩ := finish_error failed
    exact ⟨opener, .neverClosed, same, by decide⟩

theorem compile_ok_or_malformed (source : String) :
    ((∃ template, Template.compile source = .ok template) ∨
      ∃ text reason, Template.compile source = .error (.malformed text reason) ∧
        reason.text ≠ "unexpected end") ∧
    ∀ before stack, before <+: fragments source →
      before.foldlM OpenBlock.step OpenBlock.start = .ok stack → OpenBlock.Sound stack := by
  refine ⟨?_, fun before stack _ ran => ?_⟩
  · rw [Template.compile]
    cases made : Node.ofFragments (fragments source) with
    | ok root => exact .inl ⟨⟨source, root⟩, rfl⟩
    | error error =>
      obtain ⟨text, reason, rfl, named⟩ := of_fragments_error made
      exact .inr ⟨text, reason, rfl, named⟩
  · obtain ⟨state, formed, rfl, _⟩ := Unfinished.run_moves top_well_formed ran
    exact Unfinished.stack_sound formed

end Stencil
