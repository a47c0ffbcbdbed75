import Stencil.Render

set_option autoImplicit false

namespace Stencil

structure Pieces where
  of : Value → List String
  join : ∀ value, String.join (of value) = value.text

abbrev Writing :=
  Buffer → Buffer × Except Error Unit

namespace Writing

def nothing : Writing :=
  fun buffer => (buffer, .ok ())

def fail (error : Error) : Writing :=
  fun buffer => (buffer, .error error)

def write (pieces : List String) : Writing := fun buffer =>
  match buffer.writeAll pieces with
  | (after, true) => (after, .ok ())
  | (after, false) => (after, .error .writeRefused)

def andThen (first second : Writing) : Writing := fun buffer =>
  match first buffer with
  | (after, .ok ()) => second after
  | (after, .error error) => (after, .error error)

def forEach {α : Type} (body : α → Writing) : List α → Writing
  | [] => nothing
  | item :: rest => (body item).andThen (forEach body rest)

def ofResult {α : Type} (use : α → Writing) : Except Error α → Writing
  | .ok value => use value
  | .error error => fail error

end Writing

mutual

def Node.write (host : Host) (pieces : Pieces) (scope : Scope) : Node → Writing
  | .root children => Node.writeAll host pieces scope children
  | .text content => .write [content]
  | .interpolation expr => .ofResult (fun value => .write (pieces.of value)) (expr.resolve scope)
  | .each iterable body =>
    .ofResult (.forEach fun item => Node.writeAll host pieces (.loop scope item) body)
      (iterable.loopItems scope)
  | .choice condition thenBranch elseBranch =>
    .ofResult (fun holds =>
        if holds then Node.writeAll host pieces scope thenBranch
        else Node.writeAll host pieces scope elseBranch)
      (condition.holds scope)
  | .elseMark => .nothing
  | .call invocation =>
    .ofResult (fun value => .write (pieces.of value)) (invocation.result host scope)

def Node.writeAll (host : Host) (pieces : Pieces) (scope : Scope) : List Node → Writing
  | [] => .nothing
  | node :: rest => (Node.write host pieces scope node).andThen (Node.writeAll host pieces scope rest)

end

-- A run appends one text, whatever stands before it and whatever room is left, as long as the room is
-- enough for all of the text; with less room it fails to write.
structure Writing.Appends (run : Writing) (text : String) (result : Except Error Unit) : Prop where
  unlimited : ∀ before, run ⟨before, none⟩ = (⟨before ++ text, none⟩, result)
  within : ∀ before limit, text = "" ∨ before.utf8ByteSize + text.utf8ByteSize ≤ limit →
    run ⟨before, some limit⟩ = (⟨before ++ text, some limit⟩, result)
  beyond : ∀ before limit, text ≠ "" → limit < before.utf8ByteSize + text.utf8ByteSize →
    ∃ error, (run ⟨before, some limit⟩).2 = .error error ∧ error.kind = .template ∧
      error.message = "failed to write rendered output"

namespace Buffer

def Takes (buffer : Buffer) (text : String) : Prop :=
  text = "" ∨ ∀ limit, buffer.limit = some limit → buffer.text.utf8ByteSize + text.utf8ByteSize ≤ limit

def append (buffer : Buffer) (text : String) : Buffer :=
  { buffer with text := buffer.text ++ text }

theorem append_empty (buffer : Buffer) : buffer.append "" = buffer := by
  rw [append, String.append_empty]

theorem append_append (buffer : Buffer) (one other : String) :
    (buffer.append one).append other = buffer.append (one ++ other) := by
  simp only [append, String.append_assoc]

theorem takes_append (buffer : Buffer) (one other : String) :
    buffer.Takes (one ++ other) ↔ buffer.Takes one ∧ (buffer.append one).Takes other := by
  simp only [Takes, append, String.utf8ByteSize_append, String.append_eq_empty_iff]
  constructor
  · rintro (⟨oneEmpty, otherEmpty⟩ | room)
    · exact ⟨.inl oneEmpty, .inl otherEmpty⟩
    · refine ⟨.inr fun limit limited => ?_, .inr fun limit limited => ?_⟩
      · have enough := room limit limited
        omega
      · have enough := room limit limited
        omega
  · rintro ⟨oneTaken, otherTaken⟩
    by_cases otherEmpty : other = ""
    · rcases oneTaken with oneEmpty | room
      · exact .inl ⟨oneEmpty, otherEmpty⟩
      · rw [otherEmpty]
        exact .inr room
    · rcases otherTaken with absent | room
      · exact absurd absent otherEmpty
      · refine .inr fun limit limited => ?_
        have enough := room limit limited
        omega

theorem write?_takes {buffer : Buffer} {text : String} (takes : buffer.Takes text) :
    buffer.write? text = some (buffer.append text) := by
  apply if_pos
  rw [Bool.or_eq_true, String.isEmpty_iff]
  rcases takes with empty | room
  · exact .inl empty
  · refine .inr ?_
    cases limited : buffer.limit with
    | none => rfl
    | some limit =>
      rw [Option.all_some, decide_eq_true_eq, String.utf8ByteSize_append]
      exact room limit limited

theorem write?_refuses {buffer : Buffer} {text : String} (full : ¬ buffer.Takes text) :
    buffer.write? text = none := by
  apply if_neg
  rw [Bool.or_eq_true, String.isEmpty_iff]
  intro written
  apply full
  rcases written with empty | room
  · exact .inl empty
  · refine .inr fun limit limited => ?_
    rw [limited, Option.all_some, decide_eq_true_eq, String.utf8ByteSize_append] at room
    exact room

theorem writeAll_takes {buffer : Buffer} {pieces : List String}
    (takes : buffer.Takes (String.join pieces)) :
    buffer.writeAll pieces = (buffer.append (String.join pieces), true) := by
  induction pieces generalizing buffer with
  | nil => rw [String.join_nil, append_empty, writeAll]
  | cons piece rest ih =>
    rw [String.join_cons] at takes ⊢
    obtain ⟨first, later⟩ := (takes_append buffer piece (String.join rest)).mp takes
    rw [writeAll, write?_takes first]
    dsimp only
    rw [ih later, append_append]

theorem writeAll_refuses {buffer : Buffer} {pieces : List String}
    (full : ¬ buffer.Takes (String.join pieces)) :
    ∃ after, buffer.writeAll pieces = (after, false) := by
  induction pieces generalizing buffer with
  | nil => exact absurd (.inl String.join_nil) full
  | cons piece rest ih =>
    rw [String.join_cons, takes_append, not_and] at full
    rw [writeAll]
    by_cases first : buffer.Takes piece
    · rw [write?_takes first]
      exact ih (full first)
    · rw [write?_refuses first]
      exact ⟨buffer, rfl⟩

end Buffer

namespace Writing

structure Follows (run : Writing) (output : Output) : Prop where
  taken : ∀ buffer, buffer.Takes output.text → run buffer = (buffer.append output.text, output.result)
  refused : ∀ buffer, ¬ buffer.Takes output.text → (run buffer).2 = .error .writeRefused

theorem accept_follows (output : Output) : Follows (fun buffer => buffer.accept output) output where
  taken buffer takes := by
    rw [Buffer.accept, Buffer.writeAll_takes takes]
    rfl
  refused buffer full := by
    obtain ⟨after, stopped⟩ := Buffer.writeAll_refuses full
    rw [Buffer.accept, stopped]

theorem nothing_follows : Follows .nothing .nothing where
  taken buffer _ := by
    rw [Output.text, Output.nothing, String.join_nil, Buffer.append_empty]
    rfl
  refused buffer full := absurd (.inl rfl) full

theorem fail_follows (error : Error) : Follows (.fail error) (.fail error) where
  taken buffer _ := by
    rw [Output.text, Output.fail, String.join_nil, Buffer.append_empty]
    rfl
  refused buffer full := absurd (.inl rfl) full

theorem write_text (text : String) : (Output.write text).text = text := by
  rw [Output.text, Output.write, String.join_cons, String.join_nil, String.append_empty]

theorem write_follows {pieces : List String} {text : String} (join : String.join pieces = text) :
    Follows (.write pieces) (.write text) where
  taken buffer takes := by
    rw [write_text] at takes ⊢
    subst join
    rw [write, Buffer.writeAll_takes takes]
    rfl
  refused buffer full := by
    rw [write_text] at full
    subst join
    obtain ⟨after, stopped⟩ := Buffer.writeAll_refuses full
    rw [write, stopped]

theorem and_then_stopped {first : Writing} {buffer : Buffer} {error : Error}
    (stopped : (first buffer).2 = .error error) (second : Writing) :
    (first.andThen second buffer).2 = .error error := by
  cases ended : first buffer with
  | mk after result =>
    rw [ended] at stopped
    dsimp only at stopped
    rw [andThen, ended, stopped]

-- A failure comes first if it is met first: the text after it counts for nothing, and neither does the
-- failure if the text before it finds no room.
theorem and_then_follows {first second : Writing} {output : Output} {next : Unit → Output}
    (firstFollows : Follows first output) (secondFollows : Follows second (next ())) :
    Follows (first.andThen second) (output.andThen next) := by
  obtain ⟨writes, result⟩ := output
  cases result with
  | error error =>
    refine ⟨fun buffer takes => ?_, fun buffer full => ?_⟩
    · have ended := firstFollows.taken buffer takes
      rw [andThen, ended]
      rfl
    · exact and_then_stopped (firstFollows.refused buffer full) second
  | ok _ =>
    have text : (Output.andThen ⟨writes, .ok ()⟩ next).text =
        (Output.mk writes (.ok ())).text ++ (next ()).text := String.join_append
    refine ⟨fun buffer takes => ?_, fun buffer full => ?_⟩
    · rw [text] at takes ⊢
      obtain ⟨firstTaken, secondTaken⟩ := (Buffer.takes_append buffer _ _).mp takes
      rw [andThen, firstFollows.taken buffer firstTaken]
      dsimp only
      rw [secondFollows.taken _ secondTaken, Buffer.append_append]
      rfl
    · rw [text, Buffer.takes_append, not_and] at full
      by_cases firstTaken : buffer.Takes (Output.mk writes (.ok ())).text
      · rw [andThen, firstFollows.taken buffer firstTaken]
        exact secondFollows.refused _ (full firstTaken)
      · exact and_then_stopped (firstFollows.refused buffer firstTaken) second

theorem for_each_follows {α : Type} {body : α → Writing} {output : α → Output}
    (bodyFollows : ∀ item, Follows (body item) (output item)) (items : List α) :
    Follows (.forEach body items) (.forEach output items) := by
  induction items with
  | nil => exact nothing_follows
  | cons item rest ih => exact and_then_follows (bodyFollows item) ih

theorem of_result_follows {α : Type} {use : α → Writing} {output : α → Output}
    (useFollows : ∀ value, Follows (use value) (output value)) (result : Except Error α) :
    Follows (.ofResult use result) (.ofResult output result) := by
  cases result with
  | ok value => exact useFollows value
  | error error => exact fail_follows error

mutual

theorem node_follows (host : Host) (pieces : Pieces) (scope : Scope) (node : Node) :
    Follows (node.write host pieces scope) (node.render host scope) := by
  cases node with
  | root children => exact nodes_follow host pieces scope children
  | text content =>
    apply write_follows
    rw [String.join_cons, String.join_nil, String.append_empty]
  | interpolation expr =>
    exact of_result_follows (fun value => write_follows (pieces.join value)) _
  | each iterable body =>
    apply of_result_follows
    exact for_each_follows fun item => nodes_follow host pieces (.loop scope item) body
  | choice condition thenBranch elseBranch =>
    apply of_result_follows
    intro holds
    cases holds with
    | true => exact nodes_follow host pieces scope thenBranch
    | false => exact nodes_follow host pieces scope elseBranch
  | elseMark => exact nothing_follows
  | call invocation => exact of_result_follows (fun value => write_follows (pieces.join value)) _

theorem nodes_follow (host : Host) (pieces : Pieces) (scope : Scope) (nodes : List Node) :
    Follows (Node.writeAll host pieces scope nodes) (Node.renderAll host scope nodes) := by
  cases nodes with
  | nil => exact nothing_follows
  | cons node rest =>
    exact and_then_follows (node_follows host pieces scope node) (nodes_follow host pieces scope rest)

end

theorem appends_of_follows {run : Writing} {output : Output} (follows : Follows run output) :
    run.Appends output.text output.result where
  unlimited before := by
    apply follows.taken
    exact .inr fun limit limited => by cases limited
  within before limit room := by
    apply follows.taken
    refine room.imp_right fun enough other limited => ?_
    cases limited
    exact enough
  beyond before limit nonempty full := by
    refine ⟨.writeRefused, ?_, rfl, rfl⟩
    apply follows.refused
    rintro (empty | room)
    · exact nonempty empty
    · have enough := room limit rfl
      exact Nat.not_le_of_lt full enough

end Writing

theorem render_appends (template : Template) (host : Host) (context : Context) :
    ∃ text result, template.renderInto host context ⟨"", none⟩ = (⟨text, none⟩, result) ∧
      template.render host context = result.map (fun _ => text) ∧
      Writing.Appends (template.renderInto host context) text result ∧
      ∀ pieces : Pieces,
        Writing.Appends (template.root.write host pieces (.root context)) text result := by
  have follows := Writing.accept_follows (template.output host context)
  have appends := Writing.appends_of_follows follows
  refine ⟨_, _, ?_, rfl, appends, fun pieces => ?_⟩
  · have whole := appends.unlimited ""
    rw [String.empty_append] at whole
    exact whole
  · exact Writing.appends_of_follows (Writing.node_follows host pieces (.root context) template.root)

end Stencil
