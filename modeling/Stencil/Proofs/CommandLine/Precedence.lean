import Mathlib.Data.List.Forall2
import Stencil.Proofs.CommandLine.Inputs

set_option autoImplicit false

namespace Stencil.Command

-- What an item says: the text before its first `=` is the key, and the text after it is the value, as
-- JSON if it is that.
inductive Binding (json : Json.Reader) : String → String × Value → Prop where
  | json {key text : String} {value : Value} (undivided : '=' ∉ key.toList)
      (reads : json text = .ok value) : Binding json (key ++ "=" ++ text) (key, value)
  | text {key text complaint : String} (undivided : '=' ∉ key.toList)
      (noJson : json text = .error complaint) : Binding json (key ++ "=" ++ text) (key, .string text)

section Sources

variable (json : Json.Reader)

def Names (item key : String) : Prop :=
  ∃ value, Binding json item (key, value)

inductive LastBinding (key : String) : List String → Value → Prop where
  | here {item : String} {rest : List String} {value : Value} (binds : Binding json item (key, value))
      (unnamed : ∀ later ∈ rest, ¬ Names json later key) : LastBinding key (item :: rest) value
  | later {item : String} {rest : List String} {value : Value} (last : LastBinding key rest value) :
      LastBinding key (item :: rest) value

inductive Provides (file : Context) (items : List String) (key : String) : Option Value → Prop where
  | item {value : Value} (last : LastBinding json key items value) : Provides file items key (some value)
  | file {value : Value} (unnamed : ∀ item ∈ items, ¬ Names json item key)
      (held : file.get? key = some value) : Provides file items key (some value)
  | builtin (unnamed : ∀ item ∈ items, ¬ Names json item key) (unheld : file.get? key = none)
      (listed : key ∈ ["len", "upper", "lower", "range"]) :
      Provides file items key (some (.function ⟨key⟩))
  | absent (unnamed : ∀ item ∈ items, ¬ Names json item key) (unheld : file.get? key = none)
      (unlisted : key ∉ ["len", "upper", "lower", "range"]) : Provides file items key none

end Sources

variable {json : Json.Reader}

section Item

theorem cut_of_parts {key : String} (undivided : '=' ∉ key.toList) (text : String) :
    Text.cutAt '=' (key ++ "=" ++ text).toList = some (key.toList, text.toList) := by
  have parts : (key ++ "=" ++ text).toList = key.toList ++ '=' :: text.toList := by simp
  rw [parts]
  exact Text.cutAt_of_free undivided text.toList

theorem binding_iff (item key : String) (value : Value) :
    Binding json item (key, value) ↔ ∃ rest, Text.cutAt '=' item.toList = some (key.toList, rest) ∧
      value = (json (String.ofList rest)).toOption.getD (.string (String.ofList rest)) := by
  constructor
  · intro binds
    cases binds with
    | @json _ text _ undivided reads =>
      exact ⟨text.toList, cut_of_parts undivided text, by rw [String.ofList_toList, reads]; rfl⟩
    | @text _ text _ undivided noJson =>
      exact ⟨text.toList, cut_of_parts undivided text, by rw [String.ofList_toList, noJson]; rfl⟩
  · rintro ⟨rest, cut, rfl⟩
    obtain ⟨parts, undivided⟩ := Text.cutAt_eq_some cut
    have shape : item = key ++ "=" ++ String.ofList rest := by
      apply String.toList_injective
      simp [parts]
    rw [shape]
    cases read : json (String.ofList rest) with
    | ok value => exact .json undivided read
    | error complaint => exact .text undivided read

theorem binding_unique {item : String} {pair other : String × Value} (binds : Binding json item pair)
    (bindsOther : Binding json item other) : pair = other := by
  obtain ⟨rest, cut, value⟩ := (binding_iff item pair.1 pair.2).mp binds
  obtain ⟨otherRest, otherCut, otherValue⟩ := (binding_iff item other.1 other.2).mp bindsOther
  have same := Option.some.inj (cut.symm.trans otherCut)
  obtain ⟨sameKey, sameRest⟩ := Prod.mk.inj same
  rw [sameRest, ← otherValue] at value
  exact Prod.ext (String.toList_injective sameKey) value

theorem binding_of_bound (json : Json.Reader) {item : String} (bound : '=' ∈ item.toList) :
    ∃ pair, Binding json item pair := by
  cases cut : Text.cutAt '=' item.toList with
  | none => exact absurd bound ((cut_at_none_iff '=' _).mp cut)
  | some parts =>
    refine ⟨(String.ofList parts.1, _), (binding_iff item _ _).mpr ⟨parts.2, ?_, rfl⟩⟩
    rw [cut, String.toList_ofList]

theorem bind_item {item : String} {pair : String × Value} (binds : Binding json item pair)
    (context : Context) : context.bindItem json item = .ok (context.insert pair.1 pair.2) := by
  obtain ⟨rest, cut, value⟩ := (binding_iff item pair.1 pair.2).mp binds
  rw [Context.bindItem, cut, value]
  dsimp only
  rw [String.ofList_toList]

end Item

section Items

variable {items : List String} {pairs : List (String × Value)}

theorem bindings_of_bound (json : Json.Reader) (bound : ∀ item ∈ items, '=' ∈ item.toList) :
    ∃ pairs, List.Forall₂ (Binding json) items pairs := by
  induction items with
  | nil => exact ⟨[], .nil⟩
  | cons item rest ih =>
    obtain ⟨here, later⟩ := List.forall_mem_cons.mp bound
    obtain ⟨pair, binds⟩ := binding_of_bound json here
    obtain ⟨pairs, all⟩ := ih later
    exact ⟨pair :: pairs, .cons binds all⟩

theorem bind_items (all : List.Forall₂ (Binding json) items pairs) (file : Context) :
    items.foldlM (Context.bindItem json) file = .ok (file.insertAll pairs) := by
  induction all generalizing file with
  | nil => rfl
  | cons binds _ ih =>
    rw [List.foldlM_cons, bind_item binds]
    exact ih _

theorem names_iff {item : String} {pair : String × Value} (binds : Binding json item pair) (key : String) :
    Names json item key ↔ key = pair.1 := by
  constructor
  · rintro ⟨value, other⟩
    rw [binding_unique binds other]
  · rintro rfl
    exact ⟨pair.2, binds⟩

theorem last_none_iff (all : List.Forall₂ (Binding json) items pairs) (key : String) :
    Entries.last? key pairs = none ↔ ∀ item ∈ items, ¬ Names json item key := by
  induction all with
  | nil => exact iff_of_true rfl (List.forall_mem_nil _)
  | cons binds _ ih =>
    rw [Entries.last?_cons, Option.or_eq_none_iff, ih, List.forall_mem_cons, names_iff binds, and_comm]
    simp

theorem last_some_iff (all : List.Forall₂ (Binding json) items pairs) (key : String) (value : Value) :
    Entries.last? key pairs = some value ↔ LastBinding json key items value := by
  induction all with
  | nil => exact iff_of_false (Option.some_ne_none value ∘ Eq.symm) nofun
  | @cons item pair rest _ binds all ih =>
    rw [Entries.last?_cons, Option.or_eq_some_iff, ih, last_none_iff all]
    constructor
    · rintro (last | ⟨unnamed, here⟩)
      · exact .later last
      · obtain ⟨rfl, rfl⟩ : key = pair.1 ∧ pair.2 = value := by simpa using here
        exact .here binds unnamed
    · intro last
      cases last with
      | later last => exact .inl last
      | here bindsKey unnamed =>
        rw [binding_unique binds bindsKey]
        exact .inr ⟨unnamed, if_pos rfl⟩

theorem for_run_get (all : List.Forall₂ (Binding json) items pairs) (file : Context) :
    ∃ context, file.forRun json items = .ok context ∧ ∀ key, context.get? key =
      ((Entries.last? key pairs).or (file.get? key)).or
        (if key ∈ ["len", "upper", "lower", "range"] then some (.function ⟨key⟩) else none) := by
  refine ⟨Builtin.addTo (file.insertAll pairs), by rw [Context.forRun, bind_items all]; rfl, fun key => ?_⟩
  have inserted : (file.insertAll pairs).get? key = (Entries.last? key pairs).or (file.get? key) :=
    Entries.get?_insertAll key pairs file.vars
  rw [Builtin.get?_addTo, inserted]
  rfl

theorem provides_iff (all : List.Forall₂ (Binding json) items pairs) (file : Context) (key : String)
    (found : Option Value) :
    ((Entries.last? key pairs).or (file.get? key)).or
        (if key ∈ ["len", "upper", "lower", "range"] then some (.function ⟨key⟩) else none) = found ↔
      Provides json file items key found := by
  constructor
  · rintro rfl
    cases named : Entries.last? key pairs with
    | some value => exact .item ((last_some_iff all key value).mp named)
    | none =>
      have unnamed := (last_none_iff all key).mp named
      cases held : file.get? key with
      | some value => exact .file unnamed held
      | none =>
        by_cases listed : key ∈ ["len", "upper", "lower", "range"]
        · rw [if_pos listed]
          exact .builtin unnamed held listed
        · rw [if_neg listed]
          exact .absent unnamed held listed
  · intro provides
    cases provides with
    | item last => rw [(last_some_iff all key _).mpr last, Option.some_or, Option.some_or]
    | file unnamed held => rw [(last_none_iff all key).mpr unnamed, held, Option.none_or, Option.some_or]
    | builtin unnamed unheld listed =>
      rw [(last_none_iff all key).mpr unnamed, unheld, if_pos listed]
      rfl
    | absent unnamed unheld unlisted =>
      rw [(last_none_iff all key).mpr unnamed, unheld, if_neg unlisted]
      rfl

end Items

theorem context_precedence (json : Json.Reader) (file : Context) (items : List String) :
    ((∀ item ∈ items, '=' ∈ item.toList) → ∃ context, file.forRun json items = .ok context ∧
      ∀ key found, context.get? key = found ↔ Provides json file items key found) ∧
    (∀ before item after, items = before ++ item :: after →
      (∀ earlier ∈ before, '=' ∈ earlier.toList) → '=' ∉ item.toList →
      file.forRun json items = .error (.notBinding item)) ∧
    ∀ name ∈ ["len", "upper", "lower", "range"], ∃ definition, (name, definition) ∈ Builtin.functions ∧
      ∀ args kwargs, Builtin.host.call ⟨name⟩ args kwargs = definition args := by
  refine ⟨fun bound => ?_, fun before item after parts bound unbound => ?_, fun name listed => ?_⟩
  · obtain ⟨pairs, all⟩ := bindings_of_bound json bound
    obtain ⟨context, built, get⟩ := for_run_get all file
    exact ⟨context, built, fun key found => by rw [get, provides_iff all]⟩
  · rw [parts]
    exact for_run_unbound bound unbound file
  · obtain ⟨entry, member, rfl⟩ := List.mem_map.mp (show name ∈ Builtin.functions.map Prod.fst from listed)
    exact ⟨entry.2, member, fun args kwargs => Builtin.host_call member args kwargs⟩

-- The value of an item may have another `=` in it, and a key bound to null is not free for a function.
theorem context_precedence_sources :
    let file := Context.mk [("n", .int 0), ("title", .string "Home"), ("upper", .null)]
    (∃ context, file.forRun Json.read ["n=1", "len=null", "n=a=b"] = .ok context ∧
        context.get? "n" = some (.string "a=b") ∧ context.get? "len" = some .null ∧
        context.get? "title" = some (.string "Home") ∧ context.get? "upper" = some .null ∧
        context.get? "range" = some (.function ⟨"range"⟩) ∧ context.get? "N" = none) ∧
      file.forRun Json.read ["n=1", "oops", "n"] = .error (.notBinding "oops") := by
  intro file
  have number : Binding Json.read "n=1" ("n", .int 1) :=
    (binding_iff _ _ _).mpr ⟨['1'], by decide, by with_unfolding_all rfl⟩
  have null : Binding Json.read "len=null" ("len", .null) :=
    (binding_iff _ _ _).mpr ⟨['n', 'u', 'l', 'l'], by decide, by with_unfolding_all rfl⟩
  have text : Binding Json.read "n=a=b" ("n", .string "a=b") :=
    (binding_iff _ _ _).mpr ⟨['a', '=', 'b'], by decide, by with_unfolding_all rfl⟩
  have unnamed {key : String} (notN : key ≠ "n") (notLen : key ≠ "len") :
      ∀ item ∈ ["n=1", "len=null", "n=a=b"], ¬ Names Json.read item key := by
    simp [names_iff number, names_iff null, names_iff text, notN, notLen]
  obtain ⟨bound, _, _⟩ := context_precedence Json.read file ["n=1", "len=null", "n=a=b"]
  obtain ⟨context, built, get⟩ := bound (by decide)
  refine ⟨⟨context, built, ?_, ?_, ?_, ?_, ?_, ?_⟩, ?_⟩
  · exact (get _ _).mpr (.item (.later (.later (.here text (List.forall_mem_nil _)))))
  · have last : ∀ later ∈ ["n=a=b"], ¬ Names Json.read later "len" := by simp [names_iff text]
    exact (get _ _).mpr (.item (.later (.here null last)))
  · exact (get _ _).mpr (.file (unnamed (by decide) (by decide)) rfl)
  · exact (get _ _).mpr (.file (unnamed (by decide) (by decide)) rfl)
  · exact (get _ _).mpr (.builtin (unnamed (by decide) (by decide)) rfl (by decide))
  · exact (get _ _).mpr (.absent (unnamed (by decide) (by decide)) rfl (by decide))
  · exact (context_precedence Json.read file ["n=1", "oops", "n"]).2.1 ["n=1"] "oops" ["n"] rfl (by decide)
      (by decide)

end Stencil.Command
