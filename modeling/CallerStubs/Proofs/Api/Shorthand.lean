/-
  Caller stubs — the short forms of messages.

  A request or a response may be written in short form, or as a function whose
  message type says what it is.  Nothing that is made of a document depends on
  which of the two forms its messages have.

  * `Item.WrittenOut`, `InterfaceElement.WrittenOut`, `Document.WrittenOut`:
    the same document with some of its short forms written out;
  * `Item.WrittenOut.extend_cons`: a message adds the same to an interface in
    both forms, or ends its reading with the same fault;
  * `Document.WrittenOut.registry_eq`: both documents declare the same types;
  * `build_writtenOut`: they describe the same service, or have the same
    fault, and have the same generations.
-/
import CallerStubs.Proofs.Generation.Methods

namespace CallerStubs

/-! ## Documents with short forms written out -/

/-- **A message in long form**: a function that says by its message type what
    the short form says by its name.  An item may also stay as it is. -/
inductive Item.WrittenOut : Item → Item → Prop where
  | kept (item : Item) : WrittenOut item item
  | request (e : FunctionElement) :
      WrittenOut (.request e) (.function { e with messageType := some "request" })
  | response (e : FunctionElement) :
      WrittenOut (.response e) (.function { e with messageType := some "response" })

/-- The interface with any of its short forms written out. -/
structure InterfaceElement.WrittenOut (e e' : InterfaceElement) : Prop where
  name : e'.name = e.name
  items : List.Forall₂ Item.WrittenOut e.items e'.items

/-- The document with any of its short forms written out. -/
structure Document.WrittenOut (d d' : Document) : Prop where
  name : d'.name = d.name
  interfaces : List.Forall₂ InterfaceElement.WrittenOut d.interfaces d'.interfaces

variable {registry : Registry} {item item' : Item} {items items' : List Item}
  {e e' : InterfaceElement} {d d' : Document}

/-! ## Types -/

/-- An item declares the same types, as messages declare none. -/
theorem Item.WrittenOut.declared_eq (h : item.WrittenOut item') :
    item'.enum? = item.enum? ∧ item'.struct? = item.struct? := by
  cases h with
  | kept => exact ⟨rfl, rfl⟩
  | request => exact ⟨rfl, rfl⟩
  | response => exact ⟨rfl, rfl⟩

theorem filterMap_writtenOut {β : Type} {f : Item → Option β}
    (hf : ∀ item item' : Item, item.WrittenOut item' → f item' = f item)
    (h : List.Forall₂ Item.WrittenOut items items') : items'.filterMap f = items.filterMap f := by
  induction h with
  | nil => rfl
  | cons hitem _ ih => rw [List.filterMap_cons, List.filterMap_cons, hf _ _ hitem, ih]

theorem InterfaceElement.WrittenOut.declare_eq (h : e.WrittenOut e') :
    registry.declare e' = registry.declare e := by
  have henums : e'.enums = e.enums :=
    filterMap_writtenOut (fun _ _ hitem => hitem.declared_eq.1) h.items
  have hstructs : e'.structs = e.structs :=
    filterMap_writtenOut (fun _ _ hitem => hitem.declared_eq.2) h.items
  rw [Registry.declare, Registry.declare, h.name, henums, hstructs]

theorem foldl_declare_writtenOut {es es' : List InterfaceElement}
    (h : List.Forall₂ InterfaceElement.WrittenOut es es') (registry : Registry) :
    es'.foldl Registry.declare registry = es.foldl Registry.declare registry := by
  induction h generalizing registry with
  | nil => rfl
  | cons he _ ih => rw [List.foldl_cons, List.foldl_cons, he.declare_eq, ih]

/-- **The documents declare the same types.** -/
theorem Document.WrittenOut.registry_eq (h : d.WrittenOut d') : d'.registry = d.registry :=
  foldl_declare_writtenOut h.interfaces {}

/-! ## Interfaces -/

/-- **A message adds the same in both forms**, or has the same fault. -/
theorem Item.WrittenOut.extend_cons (h : item.WrittenOut item')
    (hitems : ∀ i, Interface.extend registry i items' = Interface.extend registry i items)
    (i : Interface) :
    Interface.extend registry i (item' :: items') =
      Interface.extend registry i (item :: items) := by
  -- the builders of messages do not look at the message type
  cases h with
  | kept => simp only [Interface.extend, hitems]
  | request e => exact congrArg (Request.build registry i.name e >>= ·) (funext fun r => hitems _)
  | response e => exact congrArg (Response.build i.name e >>= ·) (funext fun r => hitems _)

theorem extend_writtenOut (h : List.Forall₂ Item.WrittenOut items items') :
    ∀ i, Interface.extend registry i items' = Interface.extend registry i items := by
  induction h with
  | nil => exact fun _ => rfl
  | cons hitem _ ih => exact hitem.extend_cons ih

theorem InterfaceElement.WrittenOut.build_eq (h : e.WrittenOut e') :
    Interface.build registry e' = Interface.build registry e := by
  rw [Interface.build, Interface.build, h.name]
  simp only [extend_writtenOut h.items]

theorem buildAll_writtenOut {es es' : List InterfaceElement}
    (h : List.Forall₂ InterfaceElement.WrittenOut es es') (seen : List String) :
    Interface.buildAll registry seen es' = Interface.buildAll registry seen es := by
  induction h generalizing seen with
  | nil => rfl
  | cons he _ ih => simp only [Interface.buildAll, he.build_eq, ih]

/-- **The documents describe the same service**, or have the same fault. -/
theorem Document.WrittenOut.build_eq (h : d.WrittenOut d') : Api.build d' = Api.build d := by
  rw [Api.build, Api.build, h.registry_eq, buildAll_writtenOut h.interfaces]

/-! ## The log -/

/-- The record of an item: there is one for a function that is neither a
    request nor a response. -/
def Item.notice? (owner : String) (item : Item) : Option Notice :=
  match item.message? with
  | some (.neither f) => some (f.ignored owner)
  | _ => none

theorem Item.WrittenOut.notice?_eq (h : item.WrittenOut item') (owner : String) :
    item'.notice? owner = item.notice? owner := by
  cases h with
  | kept => rfl
  | request => rfl
  | response => rfl

theorem Item.WrittenOut.readable_eq (h : item.WrittenOut item') (owner : String) :
    item'.readable registry owner = item.readable registry owner := by
  cases h with
  | kept => rfl
  | request => rfl
  | response => rfl

theorem takeWhile_readable_writtenOut (owner : String)
    (h : List.Forall₂ Item.WrittenOut items items') :
    List.Forall₂ Item.WrittenOut (items.takeWhile (·.readable registry owner))
      (items'.takeWhile (·.readable registry owner)) := by
  induction h with
  | nil => exact .nil
  | cons hitem _ ih =>
    rw [List.takeWhile_cons, List.takeWhile_cons, hitem.readable_eq]
    split_ifs
    · exact .cons hitem ih
    · exact .nil

theorem InterfaceElement.WrittenOut.notices_eq (h : e.WrittenOut e') :
    e'.notices registry = e.notices registry := by
  rw [InterfaceElement.notices, InterfaceElement.notices, h.name]
  cases present? e.name with
  | none => rfl
  | some owner =>
    exact filterMap_writtenOut (f := Item.notice? owner) (fun _ _ hitem => hitem.notice?_eq owner)
      (takeWhile_readable_writtenOut owner h.items)

theorem noticesOf_writtenOut {es es' : List InterfaceElement}
    (h : List.Forall₂ InterfaceElement.WrittenOut es es') (seen : List String) :
    Interface.noticesOf registry seen es' = Interface.noticesOf registry seen es := by
  induction h generalizing seen with
  | nil => rfl
  | cons he _ ih => simp only [Interface.noticesOf, he.notices_eq, he.build_eq, ih]

/-- **The readings of the documents have the same log.** -/
theorem Document.WrittenOut.buildNotices_eq (h : d.WrittenOut d') :
    Api.buildNotices d' = Api.buildNotices d := by
  rw [Api.buildNotices, Api.buildNotices, h.registry_eq, noticesOf_writtenOut h.interfaces]

/-! ## Generations -/

/-- **The form of a message makes no difference.**  A document with any of its
    short forms written out describes the same service, or has the same fault,
    and with all settings it has the same generation and the same log. -/
theorem build_writtenOut (h : d.WrittenOut d') :
    Api.build d' = Api.build d ∧
      ∀ s, Generation.ofDocument d' s = Generation.ofDocument d s ∧
        Generation.notices d' s = Generation.notices d s := by
  have hbuild := h.build_eq
  refine ⟨hbuild, fun s => ⟨?_, ?_⟩⟩
  · rw [Generation.ofDocument, Generation.ofDocument, hbuild]
  · rw [Generation.notices, Generation.notices, hbuild, h.buildNotices_eq]

/-- `mixedProviders` with a request and the response written out.  The other
    requests in short form stay as they are. -/
def mixedProvidersInFull : Document where
  interfaces := [
    { name := some "UI"
      items := [
        .function {
          name := some "Show", messageType := some "request", provider := some "sdl"
          params := [
            { name := some "length", type := some "Integer" },
            { name := some "text", type := some "String", mandatory := some "false" }] },
        .function { name := some "Ask", messageType := some "request", provider := some "hmi" },
        .function { name := some "Show", messageType := some "response", provider := some "sdl" },
        .request { name := some "Hide", provider := some "sdl" }] },
    { name := some "TTS"
      items := [.request { name := some "Speak" }] }]

/-- The two documents have the same service and the same generation. -/
theorem mixedProvidersInFull_same :
    mixedProviders.WrittenOut mixedProvidersInFull ∧
      Api.build mixedProvidersInFull = .ok mixedProvidersApi ∧
      Generation.ofDocument mixedProvidersInFull (.initial "hmi.xml" "out") =
        .ok (.ofApi (.initial "hmi.xml" "out") mixedProvidersApi) := by
  have h : mixedProviders.WrittenOut mixedProvidersInFull := by
    refine ⟨rfl, .cons ⟨rfl, ?_⟩ (.cons ⟨rfl, .cons (.kept _) .nil⟩ .nil)⟩
    exact .cons (.kept _) (.cons (.request _) (.cons (.response _) (.cons (.kept _) .nil)))
  obtain ⟨hbuild, hall⟩ := build_writtenOut h
  exact ⟨h, hbuild, (hall _).1⟩

end CallerStubs
