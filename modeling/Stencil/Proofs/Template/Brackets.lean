import Stencil.Proofs.Template.Derivation

set_option autoImplicit false

namespace Stencil

def Fragment.Opens (fragment : Fragment) : Prop :=
  fragment.Commands "each" ∨ fragment.Commands "if"

inductive Balanced : List Fragment → Prop where
  | nil : Balanced []
  | other {fragment : Fragment} {rest : List Fragment} (notOpener : ¬ fragment.Opens)
      (notEnd : fragment.kind ≠ .closing) (more : Balanced rest) : Balanced (fragment :: rest)
  | block {opener closer : Fragment} {inside rest : List Fragment} (opens : opener.Opens)
      (within : Balanced inside) (ends : closer.kind = .closing) (more : Balanced rest) :
      Balanced (opener :: (inside ++ closer :: rest))

def HasEnd (after : List Fragment) : Prop :=
  ∃ inside closer rest, after = inside ++ closer :: rest ∧ Balanced inside ∧ closer.kind = .closing

def LastUnclosed (fragments : List Fragment) (opener : Fragment) : Prop :=
  ∃ before after, fragments = before ++ opener :: after ∧ opener.Opens ∧ ¬ HasEnd after ∧
    ∀ between other rest, after = between ++ other :: rest → other.Opens → HasEnd rest

instance (fragment : Fragment) : Decidable fragment.Opens :=
  inferInstanceAs (Decidable ((fragment.kind = .opening ∧ fragment.words.head? = some "each") ∨
    (fragment.kind = .opening ∧ fragment.words.head? = some "if")))

def pass (waiting : Nat) (fragment : Fragment) : Option Nat :=
  if fragment.kind = .closing then if waiting = 0 then none else some (waiting - 1)
  else some (if fragment.Opens then waiting + 1 else waiting)

namespace Fragment

variable {fragment : Fragment}

theorem opens_kind (opens : fragment.Opens) : fragment.kind ≠ .closing := by
  rcases opens with each | choice
  · rw [each.1]
    exact Kind.noConfusion
  · rw [choice.1]
    exact Kind.noConfusion

theorem opens_command {command : String} (commands : fragment.Commands command)
    (other : command ≠ "each" ∧ command ≠ "if") : ¬ fragment.Opens := by
  intro opens
  rcases opens with each | choice
  · exact other.1 (Option.some.inj (commands.2.symm.trans each.2))
  · exact other.2 (Option.some.inj (commands.2.symm.trans choice.2))

theorem opens_not_kind {kind : Kind} (isKind : fragment.kind = kind) (other : kind ≠ .opening) :
    ¬ fragment.Opens := by
  intro opens
  rcases opens with each | choice
  · exact other (isKind.symm.trans each.1)
  · exact other (isKind.symm.trans choice.1)

theorem leaf_not_opener {role : Role} (leaf : role.isLeaf = true) (plays : fragment.Plays role) :
    ¬ fragment.Opens := by
  cases plays with
  | text kind => exact opens_not_kind kind Kind.noConfusion
  | interpolation kind => exact opens_not_kind kind Kind.noConfusion
  | call command => exact opens_command command (by decide)
  | each command => cases leaf
  | choice command => cases leaf
  | separator command => cases leaf

theorem each_opens (plays : fragment.Plays .each) : fragment.Opens := by
  cases plays with
  | each command => exact .inl command

theorem choice_opens (plays : fragment.Plays .choice) : fragment.Opens := by
  cases plays with
  | choice command => exact .inr command

theorem separator_not_opener (plays : fragment.Plays .separator) : ¬ fragment.Opens := by
  cases plays with
  | separator command => exact opens_command command (by decide)

end Fragment

section Pairing

theorem balanced_append {one other : List Fragment} (first : Balanced one) (second : Balanced other) :
    Balanced (one ++ other) := by
  induction first with
  | nil => exact second
  | other notOpener notEnd more ih => exact .other notOpener notEnd ih
  | block opens within ends more _ ih =>
    rw [List.cons_append, List.append_assoc, List.cons_append]
    exact .block opens within ends ih

theorem balanced_branches {one other : List Fragment} {mark : Fragment} (first : Balanced one)
    (separator : mark.Plays .separator) (second : Balanced other) : Balanced (one ++ mark :: other) :=
  balanced_append first
    (.other (Fragment.separator_not_opener separator) (Fragment.plays_kind separator) second)

theorem balanced_passes {fragments : List Fragment} (balanced : Balanced fragments) (waiting : Nat) :
    fragments.foldlM pass waiting = some waiting := by
  induction balanced generalizing waiting with
  | nil => rfl
  | other notOpener notEnd more ih =>
    rw [List.foldlM_cons, pass, if_neg notEnd, if_neg notOpener]
    exact ih waiting
  | @block opener closer inside rest opens within ends more withinIh moreIh =>
    have opened : pass waiting opener = some (waiting + 1) := by
      rw [pass, if_neg (Fragment.opens_kind opens), if_pos opens]
    have ended : pass (waiting + 1) closer = some waiting := by
      rw [pass, if_pos ends, if_neg (Nat.succ_ne_zero waiting), Nat.add_sub_cancel]
    rw [List.foldlM_cons, opened, Option.bind_eq_bind, Option.bind_some, List.foldlM_append, withinIh,
      Option.bind_eq_bind, Option.bind_some, List.foldlM_cons, ended]
    exact moreIh waiting

theorem no_end_left {after : List Fragment} (balanced : Balanced after) : ¬ HasEnd after := by
  intro hasEnd
  obtain ⟨inside, closer, rest, parts, within, ends⟩ := hasEnd
  have stopped : pass 0 closer = none := by
    rw [pass, if_pos ends, if_pos rfl]
  have whole := balanced_passes balanced 0
  rw [parts, List.foldlM_append, balanced_passes within, Option.bind_eq_bind, Option.bind_some,
    List.foldlM_cons, stopped] at whole
  cases whole

theorem has_end_append {after : List Fragment} (hasEnd : HasEnd after) (more : List Fragment) :
    HasEnd (after ++ more) := by
  obtain ⟨inside, closer, rest, parts, within, ends⟩ := hasEnd
  exact ⟨inside, closer, rest ++ more, by rw [parts, List.append_assoc, List.cons_append], within, ends⟩

theorem opener_has_end {fragments : List Fragment} (balanced : Balanced fragments) :
    ∀ before opener after, fragments = before ++ opener :: after → opener.Opens → HasEnd after := by
  induction balanced with
  | nil =>
    intro before opener after parts
    simp at parts
  | @other fragment rest notOpener notEnd more ih =>
    intro before opener after parts opens
    cases before with
    | nil =>
      cases parts
      exact absurd opens notOpener
    | cons first before => exact ih before opener after (List.cons.inj parts).2 opens
  | @block _ closer inside rest _ within ends more withinIh moreIh =>
    intro before opener after parts opens
    cases before with
    | nil =>
      cases parts
      exact ⟨inside, closer, rest, rfl, within, ends⟩
    | cons first before =>
      rcases List.append_eq_append_iff.mp (List.cons.inj parts).2 with
        ⟨middle, shape, tail⟩ | ⟨middle, shape, tail⟩
      · cases middle with
        | nil =>
          cases tail
          exact absurd ends (Fragment.opens_kind opens)
        | cons last middle =>
          exact moreIh middle opener after (List.cons.inj tail).2 opens
      · cases middle with
        | nil =>
          cases tail
          exact absurd ends (Fragment.opens_kind opens)
        | cons last middle =>
          obtain ⟨same, others⟩ := List.cons.inj tail
          rw [← same] at shape
          rw [others]
          exact has_end_append (withinIh before opener middle shape opens) _

end Pairing

namespace Item

mutual

theorem balanced_fragments (item : Item) (formed : item.WellFormed) : Balanced item.fragments := by
  cases item with
  | leaf role fragment =>
    exact .other (Fragment.leaf_not_opener formed.1 formed.2) (Fragment.plays_kind formed.2) .nil
  | each opener body closer =>
    obtain ⟨plays, bodyFormed, closing⟩ := formed
    exact .block (Fragment.each_opens plays) (balanced_all body bodyFormed) closing .nil
  | choice opener body closer =>
    obtain ⟨plays, bodyFormed, closing⟩ := formed
    exact .block (Fragment.choice_opens plays) (balanced_all body bodyFormed) closing .nil
  | choiceElse opener thenBranch mark elseBranch closer =>
    obtain ⟨plays, thenFormed, separator, elseFormed, closing⟩ := formed
    have branches := balanced_branches (balanced_all thenBranch thenFormed) separator
      (balanced_all elseBranch elseFormed)
    have block := Balanced.block (Fragment.choice_opens plays) branches closing .nil
    rw [List.append_assoc, List.cons_append] at block
    exact block

theorem balanced_all (items : List Item) (formed : AllWellFormed items) :
    Balanced (allFragments items) := by
  cases items with
  | nil => exact .nil
  | cons item rest =>
    exact balanced_append (balanced_fragments item formed.1) (balanced_all rest formed.2)

end

end Item

end Stencil
