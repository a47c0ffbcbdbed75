import Stencil.Render

set_option autoImplicit false

namespace Stencil

namespace Output

def Same (one other : Output) : Prop :=
  one.text = other.text ∧ one.result = other.result

theorem andThen_nothing (output : Output) : (output.andThen fun _ => nothing) = output := by
  obtain ⟨writes, result⟩ := output
  cases result with
  | error error => rfl
  | ok _ => simp [andThen, nothing]

theorem andThen_assoc (first : Output) (second third : Unit → Output) :
    (first.andThen second).andThen third = first.andThen fun _ => (second ()).andThen third := by
  obtain ⟨writes, result⟩ := first
  cases result with
  | error error => rfl
  | ok _ =>
    simp only [andThen]
    generalize second () = middle
    obtain ⟨more, ended⟩ := middle
    cases ended with
    | error error => rfl
    | ok _ => simp only [List.append_assoc]

theorem andThen_of_error {first : Output} {error : Error} (failed : first.result = .error error)
    (second : Unit → Output) : first.andThen second = first := by
  rw [andThen, failed]

theorem text_andThen {first : Output} (succeeded : first.result = .ok ()) (second : Unit → Output) :
    (first.andThen second).text = first.text ++ (second ()).text := by
  rw [andThen, succeeded]
  exact String.join_append

theorem result_andThen {first : Output} (succeeded : first.result = .ok ()) (second : Unit → Output) :
    (first.andThen second).result = (second ()).result := by
  rw [andThen, succeeded]

theorem same_andThen (first : Output) {second other : Unit → Output}
    (same : (second ()).Same (other ())) : (first.andThen second).Same (first.andThen other) := by
  cases ended : first.result with
  | error error =>
    rw [andThen_of_error ended, andThen_of_error ended]
    exact ⟨rfl, rfl⟩
  | ok _ =>
    refine ⟨?_, ?_⟩
    · rw [text_andThen ended, text_andThen ended, same.1]
    · rw [result_andThen ended, result_andThen ended, same.2]

theorem same_write_write (one other : String) (rest : Unit → Output) :
    ((write (one ++ other)).andThen rest).Same
      ((write one).andThen fun _ => (write other).andThen rest) := by
  refine ⟨?_, rfl⟩
  simp [text, write, andThen, String.append_assoc]

end Output

-- Two lists of nodes side by side; two texts that meet are one text.
def Node.concat (one other : List Node) : List Node :=
  match one.getLast?, other with
  | some (.text before), .text after :: rest => one.dropLast ++ .text (before ++ after) :: rest
  | _, _ => one ++ other

theorem concat_texts (front rest : List Node) (before after : String) :
    Node.concat (front ++ [.text before]) (.text after :: rest) =
      front ++ .text (before ++ after) :: rest := by
  simp [Node.concat]

theorem concat_cases (one other : List Node) :
    Node.concat one other = one ++ other ∨ ∃ front before after rest,
      one = front ++ [.text before] ∧ other = .text after :: rest ∧
        Node.concat one other = front ++ .text (before ++ after) :: rest := by
  unfold Node.concat
  split
  · rename_i before after rest last
    obtain ⟨front, rfl⟩ := List.getLast?_eq_some_iff.mp last
    exact .inr ⟨front, before, after, rest, rfl, rfl, by rw [List.dropLast_concat]⟩
  · exact .inl rfl

section Scoped

variable (host : Host) (scope : Scope)

theorem render_all_append (one other : List Node) :
    Node.renderAll host scope (one ++ other) =
      (Node.renderAll host scope one).andThen fun _ => Node.renderAll host scope other := by
  induction one with
  | nil => rfl
  | cons node rest ih => rw [List.cons_append, Node.renderAll, Node.renderAll, ih, Output.andThen_assoc]

theorem render_all_concat (one other : List Node) :
    (Node.renderAll host scope (Node.concat one other)).Same
      ((Node.renderAll host scope one).andThen fun _ => Node.renderAll host scope other) := by
  rcases concat_cases one other with apart | ⟨front, before, after, rest, rfl, rfl, merged⟩
  · rw [apart, render_all_append]
    exact ⟨rfl, rfl⟩
  · rw [merged, render_all_append, render_all_append, Output.andThen_assoc]
    apply Output.same_andThen
    exact Output.same_write_write before after fun _ => Node.renderAll host scope rest

end Scoped

end Stencil
