import Stencil.Comparison

set_option autoImplicit false

namespace Stencil

theorem compare_unpacked_swap (a b : Float.Model.UnpackedFloat) :
    b.compare a = (a.compare b).map Ordering.swap := by
  cases a with
  | notANumber => cases b <;> rfl
  | infinity sign =>
    cases b with
    | infinity other => cases sign <;> cases other <;> rfl
    | notANumber => cases sign <;> rfl
    | zero other => cases sign <;> rfl
    | finite other => cases sign <;> rfl
  | zero sign =>
    cases b with
    | infinity other => cases other <;> rfl
    | notANumber => rfl
    | zero other => rfl
    | finite other => cases other <;> rfl
  | finite sign mantissa exponent =>
    cases b with
    | infinity other => cases other <;> rfl
    | notANumber => cases sign <;> rfl
    | zero other => cases sign <;> rfl
    | finite other digits power =>
      have swapped : (compare power exponent).then (compare digits mantissa) =
          ((compare exponent power).then (compare mantissa digits)).swap := by
        rw [Ordering.swap_then, ← Std.OrientedCmp.eq_swap, ← Std.OrientedCmp.eq_swap]
      cases sign with
      | positive =>
        cases other with
        | positive => exact congrArg some swapped
        | negative => rfl
      | negative =>
        cases other with
        | positive => rfl
        | negative => exact congrArg some (congrArg Ordering.swap swapped)

theorem float_beq_iff (a b : Float) : (a == b) = true ↔ a.toModel.compare b.toModel = some .eq := by
  show (a.toModel.compare b.toModel == some Ordering.eq) = true ↔ _
  exact beq_iff_eq

theorem float_lt_iff (a b : Float) : a < b ↔ a.toModel.compare b.toModel = some .lt := by
  show decide (a.toModel < b.toModel) = true ↔ _
  rw [decide_eq_true_iff]
  show (a.toModel.compare b.toModel == some Ordering.lt) = true ↔ _
  exact beq_iff_eq

theorem order_floats_eq (a b : Float) : orderFloats a b = a.toModel.compare b.toModel := by
  have swapped : b.toModel.compare a.toModel = (a.toModel.compare b.toModel).map Ordering.swap :=
    compare_unpacked_swap a.toModel.unpack b.toModel.unpack
  simp only [orderFloats, float_lt_iff, float_beq_iff, swapped]
  cases a.toModel.compare b.toModel with
  | none => simp
  | some ordering => cases ordering <;> simp

theorem order_floats_swap (a b : Float) : orderFloats b a = (orderFloats a b).map Ordering.swap := by
  rw [order_floats_eq, order_floats_eq]
  exact compare_unpacked_swap a.toModel.unpack b.toModel.unpack

theorem order_floats_beq (a b : Float) : (a == b) = true ↔ orderFloats a b = some .eq := by
  rw [order_floats_eq, float_beq_iff]

theorem float_beq_comm (a b : Float) : (a == b) = (b == a) := by
  rw [Bool.eq_iff_iff, order_floats_beq, order_floats_beq, order_floats_swap a b]
  cases orderFloats a b with
  | none => simp
  | some ordering => cases ordering <;> simp

namespace Value

mutual

theorem equal_comm (a b : Value) : equal a b = equal b a := by
  cases a with
  | null => cases b <;> rfl
  | bool x => cases b with
    | bool y => exact Bool.beq_comm
    | _ => rfl
  | int i => cases b with
    | int j => exact Bool.beq_comm
    | _ => rfl
  | float x => cases b with
    | float y => exact float_beq_comm x y
    | _ => rfl
  | string s => cases b with
    | string t => exact Bool.beq_comm
    | _ => rfl
  | array xs => cases b with
    | array ys => exact equal_items_comm xs ys
    | _ => rfl
  | map xs => cases b with
    | map ys => exact equal_entries_comm xs ys
    | _ => rfl
  | function f => cases b with
    | function g => exact Bool.beq_comm
    | _ => rfl

theorem equal_items_comm (xs ys : List Value) : equalItems xs ys = equalItems ys xs := by
  cases xs with
  | nil => cases ys <;> rfl
  | cons x xs => cases ys with
    | nil => rfl
    | cons y ys => rw [equalItems, equalItems, equal_comm x y, equal_items_comm xs ys]

theorem equal_entries_comm (xs ys : List (String × Value)) :
    equalEntries xs ys = equalEntries ys xs := by
  cases xs with
  | nil => cases ys <;> rfl
  | cons first xs => cases ys with
    | nil => rfl
    | cons second ys =>
      obtain ⟨key, x⟩ := first
      obtain ⟨other, y⟩ := second
      rw [equalEntries, equalEntries, equal_comm x y, equal_entries_comm xs ys,
        Bool.beq_comm (a := key)]

end

mutual

theorem order_swap (a b : Value) : order b a = (order a b).map Ordering.swap := by
  cases a with
  | bool x => cases b with
    | bool y => exact congrArg some Std.OrientedCmp.eq_swap
    | _ => rfl
  | int i => cases b with
    | int j => exact congrArg some Std.OrientedCmp.eq_swap
    | float y => exact order_floats_swap (nearestFloat i) y
    | _ => rfl
  | float x => cases b with
    | int j => exact order_floats_swap x (nearestFloat j)
    | float y => exact order_floats_swap x y
    | _ => rfl
  | string s => cases b with
    | string t => exact congrArg some Std.OrientedCmp.eq_swap
    | _ => rfl
  | array xs => cases b with
    | array ys => exact order_items_swap xs ys
    | _ => rfl
  | _ => cases b <;> rfl

theorem order_items_swap (xs ys : List Value) :
    orderItems ys xs = (orderItems xs ys).map Ordering.swap := by
  cases xs with
  | nil => cases ys <;> rfl
  | cons x xs => cases ys with
    | nil => rfl
    | cons y ys =>
      rw [orderItems, orderItems, order_swap x y]
      cases order x y with
      | none => rfl
      | some ordering => cases ordering with
        | eq => exact order_items_swap xs ys
        | _ => rfl

end

mutual

theorem equal_of_order {a b : Value} {ordering : Ordering} (ordered : order a b = some ordering) :
    equal a b = true ↔ ordering = .eq := by
  cases a with
  | bool x => cases b with
    | bool y =>
      cases ordered
      exact beq_iff_eq.trans Std.LawfulEqCmp.compare_eq_iff_eq.symm
    | _ => cases ordered
  | int i => cases b with
    | int j =>
      cases ordered
      rw [equal, beq_iff_eq, Std.LawfulEqCmp.compare_eq_iff_eq]
      exact Int64.toInt_inj.symm
    | float y =>
      rw [equal, order_floats_beq]
      rw [order] at ordered
      simp [ordered]
    | _ => cases ordered
  | float x => cases b with
    | int j =>
      rw [equal, float_beq_comm, order_floats_beq]
      rw [order] at ordered
      simp [ordered]
    | float y =>
      rw [equal, order_floats_beq]
      rw [order] at ordered
      simp [ordered]
    | _ => cases ordered
  | string s => cases b with
    | string t =>
      cases ordered
      exact beq_iff_eq.trans Std.LawfulEqCmp.compare_eq_iff_eq.symm
    | _ => cases ordered
  | array xs => cases b with
    | array ys => exact equal_of_order_items ordered
    | _ => cases ordered
  | _ => cases b <;> cases ordered

theorem equal_of_order_items {xs ys : List Value} {ordering : Ordering}
    (ordered : orderItems xs ys = some ordering) : equalItems xs ys = true ↔ ordering = .eq := by
  cases xs with
  | nil => cases ys <;> cases ordered <;> simp [equalItems]
  | cons x xs => cases ys with
    | nil => cases ordered; simp [equalItems]
    | cons y ys =>
      rw [orderItems] at ordered
      rw [equalItems, Bool.and_eq_true]
      cases first : order x y with
      | none =>
        rw [first] at ordered
        cases ordered
      | some decided =>
        have firstEqual := equal_of_order first
        rw [first] at ordered
        cases decided with
        | eq => rw [firstEqual, equal_of_order_items ordered, eq_self, true_and]
        | _ =>
          cases ordered
          simp [firstEqual]

end

inductive Floatless : Value → Prop where
  | null : Floatless .null
  | bool (b : Bool) : Floatless (.bool b)
  | int (i : Int64) : Floatless (.int i)
  | string (s : String) : Floatless (.string s)
  | array {items : List Value} (all : ∀ item ∈ items, Floatless item) : Floatless (.array items)
  | map {entries : List (String × Value)} (values : ∀ entry ∈ entries, Floatless entry.2) :
      Floatless (.map entries)
  | function (f : Function) : Floatless (.function f)

-- The order goes on from `a` over any two steps that do not go down; arrays take this for their items.
def Chains (a : Value) : Prop :=
  ∀ {b c : Value} {first second : Ordering}, Floatless b → Floatless c →
    order a b = some first → order b c = some second → first.isLE → second.isLE →
      order a c = some (first.then second)

theorem compare_chain {α : Type} [Ord α] [Std.TransOrd α] {a b c : α} {first second : Ordering}
    (ordered : some (compare a b) = some first) (orderedNext : some (compare b c) = some second)
    (up : first.isLE) (upNext : second.isLE) : some (compare a c) = some (first.then second) := by
  cases ordered
  cases orderedNext
  cases step : compare a b with
  | lt => rw [Std.TransCmp.lt_of_lt_of_isLE step upNext, Ordering.lt_then]
  | eq => rw [Std.TransCmp.congr_left step, Ordering.eq_then]
  | gt => rw [step] at up; cases up

theorem items_decided {x y : Value} {ordering : Ordering} (xs ys : List Value)
    (ordered : order x y = some ordering) (decides : ordering ≠ .eq) :
    orderItems (x :: xs) (y :: ys) = some ordering := by
  rw [orderItems, ordered]
  cases ordering with
  | eq => exact absurd rfl decides
  | _ => rfl

theorem items_undecided {x y : Value} (xs ys : List Value) (same : order x y = some .eq) :
    orderItems (x :: xs) (y :: ys) = orderItems xs ys := by
  rw [orderItems, same]

theorem items_cases {x y : Value} {xs ys : List Value} {ordering : Ordering}
    (ordered : orderItems (x :: xs) (y :: ys) = some ordering) :
    (order x y = some ordering ∧ ordering ≠ .eq) ∨
      (order x y = some .eq ∧ orderItems xs ys = some ordering) := by
  cases first : order x y with
  | none =>
    rw [orderItems, first] at ordered
    cases ordered
  | some decided =>
    by_cases same : decided = .eq
    · subst same
      exact .inr ⟨rfl, (items_undecided xs ys first).symm.trans ordered⟩
    · rw [items_decided xs ys first same] at ordered
      cases ordered
      exact .inl ⟨rfl, same⟩

theorem lt_of_up {ordering : Ordering} (up : ordering.isLE) (decided : ordering ≠ .eq) :
    ordering = .lt := by
  cases ordering with
  | lt => rfl
  | eq => exact absurd rfl decided
  | gt => cases up

theorem then_lt {ordering : Ordering} (up : ordering.isLE) : ordering.then .lt = .lt := by
  cases ordering with
  | gt => cases up
  | _ => rfl

theorem order_items_chain {xs ys zs : List Value} {first second : Ordering}
    (chains : ∀ x ∈ xs, Chains x) (floatless : ∀ y ∈ ys, Floatless y)
    (floatlessNext : ∀ z ∈ zs, Floatless z) (ordered : orderItems xs ys = some first)
    (orderedNext : orderItems ys zs = some second) (up : first.isLE) (upNext : second.isLE) :
    orderItems xs zs = some (first.then second) := by
  induction xs generalizing ys zs first second with
  | nil =>
    cases ys with
    | nil =>
      cases ordered
      exact orderedNext
    | cons y ys =>
      cases ordered
      cases zs with
      | nil =>
        cases orderedNext
        cases upNext
      | cons z zs => rfl
  | cons x xs ih =>
    cases ys with
    | nil =>
      cases ordered
      cases up
    | cons y ys =>
      cases zs with
      | nil =>
        cases orderedNext
        cases upNext
      | cons z zs =>
        obtain ⟨chain, chains⟩ := List.forall_mem_cons.mp chains
        obtain ⟨free, floatless⟩ := List.forall_mem_cons.mp floatless
        obtain ⟨freeNext, floatlessNext⟩ := List.forall_mem_cons.mp floatlessNext
        rcases items_cases ordered with ⟨head, decided⟩ | ⟨head, tail⟩
        · obtain rfl := lt_of_up up decided
          have less : order x z = some .lt := by
            rcases items_cases orderedNext with ⟨headNext, _⟩ | ⟨headNext, _⟩
            · exact chain free freeNext head headNext rfl upNext
            · exact chain free freeNext head headNext rfl rfl
          exact items_decided xs zs less Ordering.noConfusion
        · rcases items_cases orderedNext with ⟨headNext, decided⟩ | ⟨headNext, tailNext⟩
          · obtain rfl := lt_of_up upNext decided
            rw [then_lt up]
            exact items_decided xs zs (chain free freeNext head headNext rfl rfl) Ordering.noConfusion
          · rw [items_undecided xs zs (chain free freeNext head headNext rfl rfl)]
            exact ih chains floatless floatlessNext tail tailNext up upNext

theorem order_chain {a : Value} (floatless : Floatless a) : Chains a := by
  induction floatless with
  | null =>
    intro b c first second _ _ ordered
    cases b <;> cases ordered
  | bool x =>
    intro b c first second _ _ ordered orderedNext up upNext
    cases b with
    | bool y => cases c with
      | bool z => exact compare_chain ordered orderedNext up upNext
      | _ => cases orderedNext
    | _ => cases ordered
  | int i =>
    intro b c first second floatless floatlessNext ordered orderedNext up upNext
    cases floatless with
    | int j => cases floatlessNext with
      | int k => exact compare_chain ordered orderedNext up upNext
      | _ => cases orderedNext
    | _ => cases ordered
  | string s =>
    intro b c first second _ _ ordered orderedNext up upNext
    cases b with
    | string t => cases c with
      | string u => exact compare_chain ordered orderedNext up upNext
      | _ => cases orderedNext
    | _ => cases ordered
  | array all chains =>
    intro b c first second floatless floatlessNext ordered orderedNext up upNext
    cases floatless with
    | array all => cases floatlessNext with
      | array allNext => exact order_items_chain chains all allNext ordered orderedNext up upNext
      | _ => cases orderedNext
    | _ => cases ordered
  | map values _ =>
    intro b c first second _ _ ordered
    cases b <;> cases ordered
  | function f =>
    intro b c first second _ _ ordered
    cases b <;> cases ordered

end Value

namespace Comparison

structure Ordered (lhs rhs : Value) (less same greater : Bool) : Prop where
  one : [less, same, greater].count true = 1
  lt : Comparison.lt.holds lhs rhs = .ok less
  eq : Comparison.eq.holds lhs rhs = .ok same
  gt : Comparison.gt.holds lhs rhs = .ok greater
  ge : Comparison.ge.holds lhs rhs = .ok !less
  le : Comparison.le.holds lhs rhs = .ok !greater

structure Unordered (lhs rhs : Value) : Prop where
  lt : Comparison.lt.holds lhs rhs = .error (.incomparable lhs.kind rhs.kind)
  gt : Comparison.gt.holds lhs rhs = .error (.incomparable lhs.kind rhs.kind)
  ge : Comparison.ge.holds lhs rhs = .error (.incomparable lhs.kind rhs.kind)
  le : Comparison.le.holds lhs rhs = .error (.incomparable lhs.kind rhs.kind)

theorem ordered_of_order {lhs rhs : Value} {ordering : Ordering}
    (order : lhs.order rhs = some ordering) :
    Ordered lhs rhs (ordering == .lt) (ordering == .eq) (ordering == .gt) := by
  have same : lhs.equal rhs = (ordering == .eq) := by
    rw [Bool.eq_iff_iff, Value.equal_of_order order, beq_iff_eq]
  have found : ordered lhs rhs = .ok ordering := by
    rw [ordered, order]
  constructor
  · cases ordering <;> rfl
  · rw [holds, found]
    rfl
  · rw [holds, same]
  · rw [holds, found]
    rfl
  · rw [holds, found]
    rfl
  · rw [holds, found]
    rfl

theorem unordered_of_order {lhs rhs : Value} (order : lhs.order rhs = none) : Unordered lhs rhs := by
  have missing : ordered lhs rhs = .error (.incomparable lhs.kind rhs.kind) := by
    rw [ordered, order]
  constructor <;> rw [holds, missing] <;> rfl

theorem up_of_le {lhs rhs : Value} (holds : Comparison.le.holds lhs rhs = .ok true) :
    ∃ ordering, lhs.order rhs = some ordering ∧ ordering.isLE = true := by
  cases order : lhs.order rhs with
  | none =>
    have fails := (unordered_of_order order).le
    rw [holds] at fails
    cases fails
  | some ordering =>
    have answer := (ordered_of_order order).le
    rw [holds] at answer
    refine ⟨ordering, rfl, ?_⟩
    cases ordering with
    | gt => cases answer
    | _ => rfl

theorem le_of_up {lhs rhs : Value} {ordering : Ordering} (order : lhs.order rhs = some ordering)
    (up : ordering.isLE = true) : Comparison.le.holds lhs rhs = .ok true := by
  rw [(ordered_of_order order).le]
  cases ordering with
  | gt => cases up
  | _ => rfl

theorem le_trans_floatless {a b c : Value} (floatless : a.Floatless) (floatlessNext : b.Floatless)
    (floatlessLast : c.Floatless) (first : Comparison.le.holds a b = .ok true)
    (second : Comparison.le.holds b c = .ok true) : Comparison.le.holds a c = .ok true := by
  obtain ⟨ordering, order, up⟩ := up_of_le first
  obtain ⟨next, orderNext, upNext⟩ := up_of_le second
  have both := Value.order_chain floatless floatlessNext floatlessLast order orderNext up upNext
  refine le_of_up both ?_
  cases ordering with
  | lt => rfl
  | eq => exact upNext
  | gt => cases up

theorem comparisons_coherent (a b : Value) :
    (∃ same, eq.holds a b = .ok same ∧ ne.holds a b = .ok !same ∧
      eq.holds b a = .ok same ∧ ne.holds b a = .ok !same) ∧
    ((Unordered a b ∧ Unordered b a) ∨
      ∃ less same greater, Ordered a b less same greater ∧ Ordered b a greater same less) ∧
    ∀ c, a.Floatless → b.Floatless → c.Floatless →
      le.holds a b = .ok true → le.holds b c = .ok true → le.holds a c = .ok true := by
  refine ⟨⟨a.equal b, rfl, rfl, ?_, ?_⟩, ?_, fun c => le_trans_floatless⟩
  · rw [holds, Value.equal_comm]
  · rw [holds, Value.equal_comm]
  · have swapped := Value.order_swap a b
    cases order : a.order b with
    | none =>
      rw [order] at swapped
      exact .inl ⟨unordered_of_order order, unordered_of_order swapped⟩
    | some ordering =>
      rw [order] at swapped
      refine .inr ⟨_, _, _, ordered_of_order order, ?_⟩
      have turned := ordered_of_order swapped
      cases ordering <;> exact turned

theorem comparisons_coherent_arrays :
    let short : Value := .array [.int 1]
    let longer : Value := .array [.int 1, .string "b"]
    let greater : Value := .array [.int 2]
    short.Floatless ∧ longer.Floatless ∧ greater.Floatless ∧
      le.holds short longer = .ok true ∧ le.holds longer greater = .ok true ∧
      le.holds short greater = .ok true := by
  have free : (Value.array [.int 1]).Floatless :=
    .array (List.forall_mem_singleton.mpr (.int 1))
  have freeLonger : (Value.array [.int 1, .string "b"]).Floatless :=
    .array (List.forall_mem_cons.mpr ⟨.int 1, List.forall_mem_singleton.mpr (.string "b")⟩)
  have freeGreater : (Value.array [.int 2]).Floatless :=
    .array (List.forall_mem_singleton.mpr (.int 2))
  have first : le.holds (.array [.int 1]) (.array [.int 1, .string "b"]) = .ok true := by
    with_unfolding_all rfl
  have second : le.holds (.array [.int 1, .string "b"]) (.array [.int 2]) = .ok true := by
    with_unfolding_all rfl
  have third := (comparisons_coherent _ _).2.2 _ free freeLonger freeGreater first second
  exact ⟨free, freeLonger, freeGreater, first, second, third⟩

end Comparison

end Stencil
