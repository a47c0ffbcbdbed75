import Stencil.Text.Blank
import Stencil.Text.Cut

set_option autoImplicit false

namespace Stencil

inductive Fragment.Kind where
  | text
  | interpolation
  | opening
  | closing
deriving DecidableEq

-- The clean text of a tag is what stands between its delimiters, trimmed; that of plain text is all of it.
structure Fragment where
  kind : Fragment.Kind
  raw : String
  clean : String
deriving DecidableEq

namespace Fragment

def ofRaw (raw : String) : Fragment :=
  match Text.between ['{', '{'] ['}', '}'] raw.toList with
  | some inside => ⟨.interpolation, raw, String.ofList (Text.trim inside)⟩
  | none =>
    match Text.between ['{', '%'] ['%', '}'] raw.toList with
    | some inside =>
      let clean := Text.trim inside
      let kind := if ['e', 'n', 'd'].isPrefixOf clean then .closing else .opening
      ⟨kind, raw, String.ofList clean⟩
    | none => ⟨.text, raw, raw⟩

def tag? : List Char → Option (List Char × List Char)
  | '{' :: '{' :: rest =>
    (Text.cutAfter '}' '}' rest).map fun (inside, after) => ('{' :: '{' :: inside, after)
  | '{' :: '%' :: rest =>
    (Text.cutAfter '%' '}' rest).map fun (inside, after) => ('{' :: '%' :: inside, after)
  | _ => none

def untilTag : List Char → List Char × List Char
  | [] => ([], [])
  | c :: rest =>
    if (tag? (c :: rest)).isSome then ([], c :: rest)
    else
      let found := untilTag rest
      (c :: found.1, found.2)

def first? (text : List Char) : Option (List Char × List Char) :=
  if text.isEmpty then none
  else
    match tag? text with
    | some piece => some piece
    | none => some (untilTag text)

theorem append_of_tag? {text tag after : List Char} (found : tag? text = some (tag, after)) :
    tag ++ after = text := by
  unfold tag? at found
  split at found
  · obtain ⟨⟨inside, left⟩, cut, same⟩ := Option.map_eq_some_iff.mp found
    cases same
    simp [Text.cutAfter_append cut]
  · obtain ⟨⟨inside, left⟩, cut, same⟩ := Option.map_eq_some_iff.mp found
    cases same
    simp [Text.cutAfter_append cut]
  · cases found

theorem ne_nil_of_tag? {text tag after : List Char} (found : tag? text = some (tag, after)) :
    tag ≠ [] := by
  unfold tag? at found
  split at found
  · obtain ⟨⟨inside, left⟩, cut, same⟩ := Option.map_eq_some_iff.mp found
    cases same
    simp
  · obtain ⟨⟨inside, left⟩, cut, same⟩ := Option.map_eq_some_iff.mp found
    cases same
    simp
  · cases found

theorem untilTag_append (text : List Char) : (untilTag text).1 ++ (untilTag text).2 = text := by
  induction text with
  | nil => rfl
  | cons c rest ih =>
    rw [untilTag]
    split
    · rfl
    · simp [ih]

theorem untilTag_ne_nil {text : List Char} (nonempty : text ≠ []) (noTag : tag? text = none) :
    (untilTag text).1 ≠ [] := by
  cases text with
  | nil => exact absurd rfl nonempty
  | cons c rest => simp [untilTag, noTag]

theorem append_of_first? {text piece after : List Char} (found : first? text = some (piece, after)) :
    piece ++ after = text := by
  rw [first?] at found
  split at found
  · cases found
  · split at found
    · next whole tag =>
      cases found
      exact append_of_tag? tag
    · have whole := untilTag_append text
      rw [Option.some.inj found] at whole
      exact whole

theorem ne_nil_of_first? {text piece after : List Char} (found : first? text = some (piece, after)) :
    piece ≠ [] := by
  rw [first?] at found
  split at found
  · cases found
  · next nonempty =>
    split at found
    · next whole tag =>
      cases found
      exact ne_nil_of_tag? tag
    · next noTag =>
      have gap := untilTag_ne_nil (by simpa using nonempty) noTag
      rw [Option.some.inj found] at gap
      exact gap

theorem length_of_first? {text piece after : List Char} (found : first? text = some (piece, after)) :
    after.length < text.length := by
  have joined := congrArg List.length (append_of_first? found)
  have positive := List.length_pos_iff.mpr (ne_nil_of_first? found)
  rw [List.length_append] at joined
  omega

end Fragment

structure Cursor where
  remaining : List Char

namespace Cursor

def ofSource (source : String) : Cursor :=
  ⟨source.toList⟩

def next? (cursor : Cursor) : Option (Fragment × Cursor) :=
  (Fragment.first? cursor.remaining).map fun (piece, after) =>
    (Fragment.ofRaw (String.ofList piece), ⟨after⟩)

theorem length_of_next? {cursor after : Cursor} {fragment : Fragment}
    (found : cursor.next? = some (fragment, after)) :
    after.remaining.length < cursor.remaining.length := by
  obtain ⟨⟨piece, rest⟩, cut, same⟩ := Option.map_eq_some_iff.mp found
  cases same
  exact Fragment.length_of_first? cut

def toList (cursor : Cursor) : List Fragment :=
  match _found : cursor.next? with
  | none => []
  | some (fragment, after) => fragment :: after.toList
termination_by cursor.remaining.length
decreasing_by exact length_of_next? _found

end Cursor

def fragments (source : String) : List Fragment :=
  (Cursor.ofSource source).toList

end Stencil
