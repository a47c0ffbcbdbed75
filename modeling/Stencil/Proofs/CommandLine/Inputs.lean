import Stencil.Proofs.CommandLine.FileSystem
import Stencil.Proofs.Node.Role

set_option autoImplicit false

namespace Stencil.Command

section Decided

variable {α : Type}

end Decided

section Results

variable {σ : Type} (json : Json.Reader) (files : FileSystem (StateM σ)) (disk : σ)

inductive ReadsText (path : String) : Except Failure String → Prop where
  | text {text : String} (holds : ((files.read path).run disk).1 = .ok text.toUTF8) :
      ReadsText path (.ok text)
  | unreadable {cause : FileError} (fails : ((files.read path).run disk).1 = .error cause) :
      ReadsText path (.error (.unreadable path cause))
  | notText {bytes : ByteArray} (holds : ((files.read path).run disk).1 = .ok bytes)
      (noText : ∀ text : String, bytes ≠ text.toUTF8) :
      ReadsText path (.error (.unreadable path .notText))

inductive ReadsContext : Option String → Except Failure Context → Prop where
  | absent : ReadsContext none (.ok .empty)
  | unreadable {path : String} {failure : Failure}
      (fails : ReadsText files disk path (.error failure)) : ReadsContext (some path) (.error failure)
  | notJson {path text complaint : String} (reads : ReadsText files disk path (.ok text))
      (fails : json text = .error complaint) :
      ReadsContext (some path) (.error (.notJson path complaint))
  | notObject {path text : String} {value : Value} (reads : ReadsText files disk path (.ok text))
      (isJson : json text = .ok value) (notMap : value.kind ≠ .map) :
      ReadsContext (some path) (.error (.notContext path (.notAnObject value.kind)))
  | object {path text : String} {entries : List (String × Value)}
      (reads : ReadsText files disk path (.ok text)) (isJson : json text = .ok (.map entries)) :
      ReadsContext (some path) (.ok ⟨entries⟩)

inductive BindsItems (file : Context) (items : List String) : Except Failure Context → Prop where
  | first {before after : List String} {item : String} (parts : items = before ++ item :: after)
      (bound : ∀ earlier ∈ before, '=' ∈ earlier.toList) (unbound : '=' ∉ item.toList) :
      BindsItems file items (.error (.notBinding item))
  | all {context : Context} (bound : ∀ item ∈ items, '=' ∈ item.toList)
      (binds : file.forRun json items = .ok context) : BindsItems file items (.ok context)

end Results

variable {σ : Type} {json : Json.Reader} {files : FileSystem (StateM σ)} {noted : List Event} {disk : σ}

theorem bind_item_bound {item : String} (bound : '=' ∈ item.toList) (context : Context) :
    ∃ next, context.bindItem json item = .ok next := by
  rw [Context.bindItem]
  cases cut : Text.cutAt '=' item.toList with
  | none => exact absurd bound ((cut_at_none_iff '=' _).mp cut)
  | some parts => exact ⟨_, rfl⟩

theorem bind_item_unbound {item : String} (unbound : '=' ∉ item.toList) (context : Context) :
    context.bindItem json item = .error (.notBinding item) := by
  rw [Context.bindItem, (cut_at_none_iff '=' _).mpr unbound]

theorem bind_items_bound {items : List String} (bound : ∀ item ∈ items, '=' ∈ item.toList)
    (file : Context) : ∃ context, items.foldlM (Context.bindItem json) file = .ok context := by
  induction items generalizing file with
  | nil => exact ⟨file, rfl⟩
  | cons item rest ih =>
    obtain ⟨here, later⟩ := List.forall_mem_cons.mp bound
    obtain ⟨next, binds⟩ := bind_item_bound here file
    rw [List.foldlM_cons, binds]
    exact ih later next

theorem for_run_unbound {before after : List String} {item : String}
    (bound : ∀ earlier ∈ before, '=' ∈ earlier.toList) (unbound : '=' ∉ item.toList) (file : Context) :
    file.forRun json (before ++ item :: after) = .error (.notBinding item) := by
  obtain ⟨context, binds⟩ := bind_items_bound bound file
  have stops : (item :: after).foldlM (Context.bindItem json) context = .error (.notBinding item) := by
    rw [List.foldlM_cons, bind_item_unbound unbound]
    rfl
  rw [Context.forRun, List.foldlM_append, binds]
  exact congrArg (Except.bind · fun bound => pure (Builtin.addTo bound)) stops

end Stencil.Command
