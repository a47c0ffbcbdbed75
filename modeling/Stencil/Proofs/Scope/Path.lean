import Stencil.Scope

set_option autoImplicit false

namespace Stencil

namespace Path

def extend (path : Path) (segment : String) : Path :=
  { path with rest := path.rest ++ [segment] }

theorem undotted_free {segment : String} (undotted : '.' ∉ segment.toList) :
    ∀ c ∈ segment.toList, (c == '.') = false := by
  intro c member
  rw [beq_eq_false_iff_ne]
  rintro rfl
  exact undotted member

theorem of_segments_single (escaped : Bool) {segment : String} (undotted : '.' ∉ segment.toList) :
    ofSegments escaped segment.toList = ⟨escaped, segment, []⟩ := by
  have whole := @Text.pieces_unseparated (· == '.') _ (undotted_free undotted) []
  rw [List.append_nil] at whole
  simp [ofSegments, whole, Text.pieces]

theorem of_segments_extend (escaped : Bool) (text : List Char) {segment : String}
    (undotted : '.' ∉ segment.toList) :
    ofSegments escaped (text ++ '.' :: segment.toList) = (ofSegments escaped text).extend segment := by
  have cut := @Text.pieces_last (· == '.') '.' _ (beq_self_eq_true '.') (undotted_free undotted) text
  simp [ofSegments, extend, cut]

theorem of_name_escaped {name : String} {text : List Char} (escaped : name.toList = '.' :: '.' :: text) :
    ofName name = ofSegments true text := by
  simp only [ofName, escaped]

theorem of_name_plain {name : String} (plain : ¬ ['.', '.'] <+: name.toList) :
    ofName name = ofSegments false name.toList := by
  rw [ofName]
  split
  · rename_i text shape
    exact absurd ⟨text, shape.symm⟩ plain
  · rfl

theorem plain_extend {text segment : List Char} (plain : ¬ ['.', '.'] <+: text) (notDot : text ≠ ['.'])
    (undotted : '.' ∉ segment) : ¬ ['.', '.'] <+: text ++ '.' :: segment := by
  match text with
  | [] =>
    rintro ⟨rest, same⟩
    cases same
    exact undotted List.mem_cons_self
  | [c] =>
    -- With a segment after it, the name of one dot would begin like an escape.
    rintro ⟨rest, same⟩
    cases same
    exact notDot rfl
  | c :: d :: text =>
    rintro ⟨rest, same⟩
    cases same
    exact plain ⟨text, rfl⟩

theorem of_name_extend {name segment : String} (notDot : name ≠ ".") (undotted : '.' ∉ segment.toList) :
    ofName (name ++ "." ++ segment) = (ofName name).extend segment := by
  have whole : (name ++ "." ++ segment).toList = name.toList ++ '.' :: segment.toList := by simp
  by_cases escaped : ['.', '.'] <+: name.toList
  · obtain ⟨text, shape⟩ := escaped
    rw [← shape] at whole
    rw [of_name_escaped whole, of_name_escaped shape.symm]
    exact of_segments_extend true text undotted
  · have plain : ¬ ['.', '.'] <+: (name ++ "." ++ segment).toList := by
      rw [whole]
      exact plain_extend escaped (fun same => notDot (String.toList_inj.mp same)) undotted
    rw [of_name_plain plain, of_name_plain escaped, whole]
    exact of_segments_extend false name.toList undotted

end Path

namespace Scope

theorem find_extend (scope : Scope) (path : Path) (segment : String) :
    scope.find? (path.extend segment) = (scope.find? path).bind (Value.attribute? segment) := by
  rw [find?, Path.extend, List.foldl_append]
  rfl

theorem find_segment (scope : Scope) {name segment : String} (notDot : name ≠ ".")
    (undotted : '.' ∉ segment.toList) :
    scope.find? (Path.ofName (name ++ "." ++ segment)) =
      (scope.find? (Path.ofName name)).bind (Value.attribute? segment) := by
  rw [Path.of_name_extend notDot undotted, find_extend]

theorem resolve_ok_iff (scope : Scope) (name : String) (value : Value) :
    scope.resolve name = .ok value ↔ scope.find? (Path.ofName name) = some value := by
  rw [resolve]
  cases scope.find? (Path.ofName name) <;> simp

theorem resolve_error_iff (scope : Scope) (name : String) (error : Error) :
    scope.resolve name = .error error ↔
      scope.find? (Path.ofName name) = none ∧ error = .unresolved name := by
  rw [resolve]
  cases scope.find? (Path.ofName name) <;> simp [eq_comm]

theorem resolve_missing {scope : Scope} {name : String}
    (missing : ¬ ∃ value, scope.resolve name = .ok value) :
    scope.resolve name = .error (.unresolved name) := by
  cases resolved : scope.resolve name with
  | ok value => exact absurd ⟨value, resolved⟩ missing
  | error error => rw [((resolve_error_iff scope name error).mp resolved).2]

theorem resolve_segment (scope : Scope) {name segment : String} (notDot : name ≠ ".")
    (undotted : '.' ∉ segment.toList) :
    (∀ value, scope.resolve (name ++ "." ++ segment) = .ok value ↔
      ∃ part, scope.resolve name = .ok part ∧ part.attribute? segment = some value) ∧
    ∀ error, scope.resolve (name ++ "." ++ segment) = .error error ↔
      error = .unresolved (name ++ "." ++ segment) ∧
        ¬ ∃ part value, scope.resolve name = .ok part ∧ part.attribute? segment = some value := by
  have found := find_segment scope notDot undotted
  constructor
  · intro value
    rw [resolve_ok_iff, found, Option.bind_eq_some_iff]
    simp only [resolve_ok_iff]
  · intro error
    rw [resolve_error_iff, found, Option.bind_eq_none_iff, and_comm]
    refine and_congr Iff.rfl ⟨?_, ?_⟩
    · rintro missing ⟨part, value, resolved, reached⟩
      cases reached.symm.trans (missing part ((resolve_ok_iff scope name part).mp resolved))
    · intro missing part resolved
      refine Option.eq_none_iff_forall_ne_some.mpr fun value reached => ?_
      exact missing ⟨part, value, (resolve_ok_iff scope name part).mpr resolved, reached⟩

theorem resolve_segment_escaped :
    let user := Value.map [("tags", .array [.string "a", .string "b"])]
    let scope := Scope.loop (.root ⟨[("user", user)]⟩) (.int 1)
    "..user.tags" ≠ "." ∧ '.' ∉ "1".toList ∧ '.' ∉ "".toList ∧
      scope.resolve ("..user.tags" ++ "." ++ "1") = .ok (.string "b") ∧
      scope.resolve ("..user.tags" ++ "." ++ "") = .error (.unresolved "..user.tags.") := by
  intro user scope
  have notDot : "..user.tags" ≠ "." := by decide
  have second : '.' ∉ "1".toList := by decide
  have empty : '.' ∉ "".toList := by decide
  have tags : scope.resolve "..user.tags" = .ok (.array [.string "a", .string "b"]) := by
    with_unfolding_all rfl
  refine ⟨notDot, second, empty, ?_, ?_⟩
  · exact ((resolve_segment scope notDot second).1 _).mpr ⟨_, tags, by with_unfolding_all rfl⟩
  · refine ((resolve_segment scope notDot empty).2 _).mpr ⟨rfl, ?_⟩
    rintro ⟨part, value, resolved, reached⟩
    cases tags.symm.trans resolved
    cases reached

end Scope

end Stencil
