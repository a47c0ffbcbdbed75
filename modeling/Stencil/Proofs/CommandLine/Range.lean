import Mathlib.Data.Int.Range
import Stencil.CommandLine.Builtin

set_option autoImplicit false

namespace Stencil.Builtin

structure Ranges (first last : Int64) (result : Except Error Value) : Prop where
  refused : result = .error (.raised "range() is limited to 10000 values") ↔
    10000 < last.toInt - first.toInt
  counted : last.toInt - first.toInt ≤ 10000 →
    ∃ members : List Int64, result = .ok (.array (members.map .int)) ∧
      members.map Int64.toInt = Int.range first.toInt last.toInt

section Counting

theorem range_cons {first last : Int} (below : first < last) :
    Int.range first last = first :: Int.range (first + 1) last := by
  have size : (last - first).toNat = (last - (first + 1)).toNat + 1 := by omega
  rw [Int.range, Int.range, size, List.range_succ_eq_map, List.map_cons, List.map_map]
  congr 1
  · simp
  · apply List.map_congr_left
    intro steps _
    simp only [Function.comp_apply]
    omega

theorem range_empty {first last : Int} (notBelow : ¬ first < last) : Int.range first last = [] := by
  have size : (last - first).toNat = 0 := by omega
  rw [Int.range, size]
  rfl

theorem count_up_members (last next : Int64) :
    ∃ members : List Int64, countUp last next = members.map .int ∧
      members.map Int64.toInt = Int.range next.toInt last.toInt := by
  fun_induction countUp last next with
  | case1 next below ih =>
    obtain ⟨members, counted, inOrder⟩ := ih
    refine ⟨next :: members, by rw [counted, List.map_cons], ?_⟩
    rw [List.map_cons, inOrder, toInt_next below, range_cons (Int64.lt_iff_toInt_lt.mp below)]
  | case2 next notBelow =>
    refine ⟨[], rfl, ?_⟩
    rw [range_empty fun below => notBelow (Int64.lt_iff_toInt_lt.mpr below)]
    rfl

-- A difference beyond 64 bits stays on its side of every bound that is not the greatest one.
theorem lt_clamp_iff {bound : Int64} (notGreatest : bound < Int64.maxValue) (difference : Int) :
    bound < Int64.ofIntClamp difference ↔ bound.toInt < difference := by
  have low := Int64.le_toInt bound
  have high := Int64.lt_iff_toInt_lt.mp notGreatest
  have least := Int64.toInt_minValue
  have greatest := Int64.toInt_maxValue
  rw [Int64.lt_iff_toInt_lt, Int64.ofIntClamp]
  split
  · split
    · rw [Int64.toInt_ofIntLE]
    · omega
  · omega

theorem over_limit_iff (first last : Int64) :
    maxRange < Int64.ofIntClamp (last.toInt - first.toInt) ↔ 10000 < last.toInt - first.toInt :=
  lt_clamp_iff (by decide) (last.toInt - first.toInt)

theorem ranges_between (first last : Int64) : Ranges first last (rangeBetween first last) where
  refused := by
    rw [rangeBetween, ← over_limit_iff]
    split
    · rename_i beyond
      exact iff_of_true rfl beyond
    · rename_i within
      exact iff_of_false (by simp) within
  counted within := by
    obtain ⟨members, counted, inOrder⟩ := count_up_members last first
    have notOver := mt (over_limit_iff first last).mp (Int.not_lt.mpr within)
    exact ⟨members, by rw [rangeBetween, if_neg notOver, counted], inOrder⟩

end Counting

theorem range_other {args : List Value} (other : ∃ arg ∈ args, arg.kind ≠ .int) :
    range args = .error (.raised "range() takes integers") := by
  obtain ⟨arg, member, notInt⟩ := other
  have unread : ¬ (args.all fun arg => arg.int?.isSome) = true := by
    intro all
    have isInt := List.all_eq_true.mp all arg member
    cases arg with
    | int i => exact notInt rfl
    | _ => cases isInt
  rw [range, if_neg unread]

theorem ints_of_kind {args : List Value} (ints : ∀ arg ∈ args, arg.kind = .int) :
    ∃ bounds : List Int64, args = bounds.map .int := by
  induction args with
  | nil => exact ⟨[], rfl⟩
  | cons arg rest ih =>
    obtain ⟨isInt, restInt⟩ := List.forall_mem_cons.mp ints
    obtain ⟨bounds, rfl⟩ := ih restInt
    cases arg with
    | int i => exact ⟨i :: bounds, rfl⟩
    | _ => cases isInt

theorem range_ints (bounds : List Int64) : range (bounds.map .int) = rangeOf bounds := by
  have all : ((bounds.map Value.int).all fun arg => arg.int?.isSome) = true := by
    simp [Value.int?]
  have read : (bounds.map Value.int).filterMap Value.int? = bounds := by
    simp [List.filterMap_map, Function.comp_def, Value.int?]
  rw [range, if_pos all, read]

/-- A call of `range`. The kinds of all arguments are judged before their number. -/
theorem range_exact (kwargs : List (String × Value)) :
    (∀ first last, Ranges first last (host.call ⟨"range"⟩ [.int first, .int last] kwargs)) ∧
      (∀ last, host.call ⟨"range"⟩ [.int last] kwargs = host.call ⟨"range"⟩ [.int 0, .int last] kwargs) ∧
      (∀ args, (∃ arg ∈ args, arg.kind ≠ .int) →
        host.call ⟨"range"⟩ args kwargs = .error (.raised "range() takes integers")) ∧
      ∀ args, (∀ arg ∈ args, arg.kind = .int) → args.length ≠ 1 → args.length ≠ 2 →
        host.call ⟨"range"⟩ args kwargs = .error (.raised "range() takes one or two integers") := by
  have called (args : List Value) : host.call ⟨"range"⟩ args kwargs = range args :=
    host_call (by simp [functions]) args kwargs
  simp only [called]
  refine ⟨fun first last => ?_, fun last => ?_, fun args => range_other, fun args ints notOne notTwo => ?_⟩
  · have two : range [.int first, .int last] = rangeBetween first last := range_ints [first, last]
    rw [two]
    exact ranges_between first last
  · exact (range_ints [last]).trans (range_ints [0, last]).symm
  · obtain ⟨bounds, rfl⟩ := ints_of_kind ints
    rw [range_ints]
    rcases bounds with _ | ⟨_, _ | ⟨_, _ | ⟨_, _⟩⟩⟩
    · rfl
    · exact absurd rfl notOne
    · exact absurd rfl notTwo
    · rfl

-- The difference of the two ends of 64 bits is beyond them in both orders, and the last two integers are
-- counted without going past the end.
theorem range_exact_ends :
    host.call ⟨"range"⟩ [.int Int64.minValue, .int Int64.maxValue] [] =
        .error (.raised "range() is limited to 10000 values") ∧
      host.call ⟨"range"⟩ [.int Int64.maxValue, .int Int64.minValue] [] = .ok (.array []) ∧
      host.call ⟨"range"⟩ [.int 9223372036854775805, .int Int64.maxValue] [] =
        .ok (.array [.int 9223372036854775805, .int 9223372036854775806]) ∧
      host.call ⟨"range"⟩ [.int 1, .string "2", .int 3] [] =
        .error (.raised "range() takes integers") ∧
      host.call ⟨"range"⟩ [.int 1, .int 2, .int 3] [] =
        .error (.raised "range() takes one or two integers") := by
  obtain ⟨ranges, _, otherKind, otherCount⟩ := range_exact []
  refine ⟨(ranges _ _).refused.mpr (by decide), ?_, ?_, ?_, ?_⟩
  · obtain ⟨members, gives, inOrder⟩ := (ranges Int64.maxValue Int64.minValue).counted (by decide)
    have none : members.map Int64.toInt = [] := inOrder.trans (by decide)
    rw [gives, List.map_eq_nil_iff.mp none]
    rfl
  · obtain ⟨members, gives, inOrder⟩ := (ranges 9223372036854775805 Int64.maxValue).counted (by decide)
    have two : members.map Int64.toInt =
        [9223372036854775805, 9223372036854775806].map Int64.toInt := inOrder.trans (by decide)
    rw [gives, (List.map_inj_right fun _ _ => Int64.toInt_inj.mp).mp two]
    rfl
  · exact otherKind _ ⟨.string "2", by simp, by decide⟩
  · exact otherCount _ (by simp [Value.kind]) (by decide) (by decide)

end Stencil.Builtin
