set_option autoImplicit false

namespace Stencil.Entries

variable {α : Type}

def get? (key : String) : List (String × α) → Option α
  | [] => none
  | (other, held) :: rest => if key = other then some held else get? key rest

def insert (key : String) (value : α) : List (String × α) → List (String × α)
  | [] => [(key, value)]
  | (other, held) :: rest =>
    if key < other then (key, value) :: (other, held) :: rest
    else if key = other then (key, value) :: rest
    else (other, held) :: insert key value rest

def insertAll (pairs : List (String × α)) (entries : List (String × α)) : List (String × α) :=
  pairs.foldl (fun bound pair => insert pair.1 pair.2 bound) entries

def ofPairs (pairs : List (String × α)) : List (String × α) :=
  insertAll pairs []

def last? (key : String) (pairs : List (String × α)) : Option α :=
  (pairs.reverse.find? fun pair => pair.1 == key).map Prod.snd

def Ordered (entries : List (String × α)) : Prop :=
  entries.Pairwise fun first second => first.1 < second.1

theorem get?_insert (key wanted : String) (value : α) (entries : List (String × α)) :
    get? wanted (insert key value entries) =
      if wanted = key then some value else get? wanted entries := by
  induction entries with
  | nil => simp [insert, get?]
  | cons entry rest ih =>
    obtain ⟨other, held⟩ := entry
    by_cases before : key < other
    · simp [insert, before, get?]
    · by_cases equal : key = other
      · subst equal
        by_cases same : wanted = key <;> simp [insert, get?, same]
      · by_cases found : wanted = other
        · have different : other ≠ key := fun same => equal same.symm
          simp [insert, before, equal, get?, found, different]
        · simp [insert, before, equal, get?, found, ih]

theorem mem_keys_insert {key wanted : String} {value : α} {entries : List (String × α)}
    (member : wanted ∈ (insert key value entries).map Prod.fst) :
    wanted = key ∨ wanted ∈ entries.map Prod.fst := by
  induction entries with
  | nil => simpa [insert] using member
  | cons entry rest ih =>
    obtain ⟨other, held⟩ := entry
    by_cases before : key < other
    · simpa [insert, before] using member
    · by_cases equal : key = other
      · subst equal
        simp only [insert, before, if_false, if_true, List.map_cons, List.mem_cons] at member
        rcases member with here | later
        · exact .inl here
        · exact .inr (by simp [later])
      · simp only [insert, before, equal, if_false, List.map_cons, List.mem_cons] at member
        rcases member with here | later
        · exact .inr (by simp [here])
        · rcases ih later with isKey | inRest
          · exact .inl isKey
          · exact .inr (by simp [inRest])

theorem mem_insert {key : String} {value : α} {entry : String × α} {entries : List (String × α)}
    (member : entry ∈ insert key value entries) : entry = (key, value) ∨ entry ∈ entries := by
  induction entries with
  | nil => exact .inl (List.mem_singleton.mp member)
  | cons first rest ih =>
    rw [insert] at member
    split at member
    · exact List.mem_cons.mp member
    · split at member
      · exact (List.mem_cons.mp member).imp_right (List.mem_cons_of_mem first)
      · rcases List.mem_cons.mp member with here | later
        · exact .inr (by rw [here]; exact List.mem_cons_self)
        · exact (ih later).imp_right (List.mem_cons_of_mem first)

theorem mem_insertAll {entry : String × α} {pairs entries : List (String × α)}
    (member : entry ∈ insertAll pairs entries) : entry ∈ pairs ∨ entry ∈ entries := by
  induction pairs generalizing entries with
  | nil => exact .inr member
  | cons pair pairs ih =>
    rcases ih member with later | bound
    · exact .inl (List.mem_cons_of_mem pair later)
    · rcases mem_insert bound with here | before
      · exact .inl (by rw [here]; exact List.mem_cons_self)
      · exact .inr before

theorem ordered_insert {key : String} {value : α} {entries : List (String × α)}
    (ordered : Ordered entries) : Ordered (insert key value entries) := by
  induction entries with
  | nil => simp [insert, Ordered]
  | cons entry rest ih =>
    obtain ⟨other, held⟩ := entry
    have restAbove := (List.pairwise_cons.mp ordered).1
    have restOrdered := (List.pairwise_cons.mp ordered).2
    by_cases before : key < other
    · simp only [insert, before, if_true]
      refine List.pairwise_cons.mpr ⟨fun entry member => ?_, ordered⟩
      rcases List.mem_cons.mp member with here | later
      · subst here
        exact before
      · exact String.lt_trans before (restAbove entry later)
    · by_cases equal : key = other
      · subst equal
        simp only [insert, before, if_false, if_true]
        exact List.pairwise_cons.mpr ⟨restAbove, restOrdered⟩
      · simp only [insert, before, equal, if_false]
        refine List.pairwise_cons.mpr ⟨fun entry member => ?_, ih restOrdered⟩
        have above : other < key :=
          String.not_le.mp fun keyLe => equal (String.le_antisymm keyLe (String.not_lt.mp before))
        rcases mem_keys_insert (List.mem_map_of_mem member) with isKey | inRest
        · simpa [isKey] using above
        · obtain ⟨held, inside, same⟩ := List.mem_map.mp inRest
          simpa [same] using restAbove held inside

theorem last?_cons (key : String) (pair : String × α) (pairs : List (String × α)) :
    last? key (pair :: pairs) = (last? key pairs).or (if key = pair.1 then some pair.2 else none) := by
  simp only [last?, List.reverse_cons, List.find?_append, List.find?_singleton, Option.map_or, beq_iff_eq]
  by_cases same : key = pair.1
  · rw [if_pos same, if_pos same.symm, Option.map_some]
  · rw [if_neg same, if_neg (Ne.symm same), Option.map_none]

theorem get?_insertAll (key : String) (pairs entries : List (String × α)) :
    get? key (insertAll pairs entries) = (last? key pairs).or (get? key entries) := by
  induction pairs generalizing entries with
  | nil => rfl
  | cons pair pairs ih =>
    rw [last?_cons, Option.or_assoc]
    refine (ih (insert pair.1 pair.2 entries)).trans ?_
    rw [get?_insert]
    by_cases same : key = pair.1
    · simp only [if_pos same, Option.some_or]
    · simp only [if_neg same, Option.none_or]

theorem ordered_insertAll (pairs : List (String × α)) {entries : List (String × α)}
    (ordered : Ordered entries) : Ordered (insertAll pairs entries) := by
  induction pairs generalizing entries with
  | nil => exact ordered
  | cons pair pairs ih => exact ih (ordered_insert ordered)

theorem get?_of_pairs (key : String) (pairs : List (String × α)) :
    get? key (ofPairs pairs) = last? key pairs := by
  rw [ofPairs, get?_insertAll, get?, Option.or_none]

theorem ordered_of_pairs (pairs : List (String × α)) : Ordered (ofPairs pairs) :=
  ordered_insertAll pairs List.Pairwise.nil

theorem get?_below {key : String} {entries : List (String × α)}
    (below : ∀ entry ∈ entries, key < entry.1) : get? key entries = none := by
  induction entries with
  | nil => rfl
  | cons entry rest ih =>
    have different : key ≠ entry.1 := by
      rintro same
      have less := below entry List.mem_cons_self
      rw [same] at less
      exact String.lt_irrefl _ less
    rw [get?, if_neg different]
    exact ih fun other member => below other (List.mem_cons_of_mem entry member)

theorem last?_of_ordered {entries : List (String × α)} (ordered : Ordered entries) (key : String) :
    last? key entries = get? key entries := by
  induction entries with
  | nil => rfl
  | cons entry rest ih =>
    obtain ⟨above, restOrdered⟩ := List.pairwise_cons.mp ordered
    rw [last?_cons, ih restOrdered, get?]
    by_cases same : key = entry.1
    · have absent : get? key rest = none := by
        apply get?_below
        rw [same]
        exact above
      rw [absent, if_pos same, Option.none_or]
    · rw [if_neg same, if_neg same, Option.or_none]

theorem first_not_above {key : String} {value : α} {entry : String × α} {rest : List (String × α)}
    (ordered : Ordered (entry :: rest)) (held : get? key (entry :: rest) = some value) :
    ¬ key < entry.1 := by
  intro less
  have below : ∀ other ∈ entry :: rest, key < other.1 := by
    intro other member
    rcases List.mem_cons.mp member with rfl | later
    · exact less
    · exact String.lt_trans less ((List.pairwise_cons.mp ordered).1 other later)
  rw [get?_below below] at held
  cases held

theorem ordered_ext {first second : List (String × α)} (firstOrdered : Ordered first)
    (secondOrdered : Ordered second) (same : ∀ key, get? key first = get? key second) :
    first = second := by
  induction first generalizing second with
  | nil =>
    cases second with
    | nil => rfl
    | cons other more =>
      have held := same other.1
      rw [get?, get?, if_pos rfl] at held
      cases held
  | cons entry rest ih =>
    cases second with
    | nil =>
      have held := same entry.1
      rw [get?, get?, if_pos rfl] at held
      cases held
    | cons other more =>
      obtain ⟨key, value⟩ := entry
      obtain ⟨otherKey, otherValue⟩ := other
      have keyHeld : get? key ((key, value) :: rest) = some value := if_pos rfl
      have otherHeld : get? otherKey ((otherKey, otherValue) :: more) = some otherValue := if_pos rfl
      have notBefore := first_not_above secondOrdered ((same key).symm.trans keyHeld)
      have notAfter := first_not_above firstOrdered ((same otherKey).trans otherHeld)
      have sameKey : key = otherKey :=
        String.le_antisymm (String.not_lt.mp notAfter) (String.not_lt.mp notBefore)
      subst sameKey
      have sameValue : value = otherValue :=
        Option.some.inj (keyHeld.symm.trans ((same key).trans otherHeld))
      have firstParts := List.pairwise_cons.mp firstOrdered
      have secondParts := List.pairwise_cons.mp secondOrdered
      have sameRest : rest = more := by
        refine ih firstParts.2 secondParts.2 fun wanted => ?_
        by_cases isKey : wanted = key
        · rw [isKey, get?_below firstParts.1, get?_below secondParts.1]
        · have held := same wanted
          rwa [get?, get?, if_neg isKey, if_neg isKey] at held
      rw [sameValue, sameRest]

end Stencil.Entries
