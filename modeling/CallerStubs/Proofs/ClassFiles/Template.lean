/-
  Caller stubs — templates.

  A template is text with places in it.  At a place stands the text that a
  path names, and a part of a template can be repeated for each member of a
  list.  Rendering fails if a path names nothing, or not what its place asks
  for.

  * `Value`, `Scope`, `Scope.resolve`: what paths name;
  * `Node`, `Node.render`, `renderAll`: the pieces of a template, and the text
    that they stand for;
  * `Engine`, `Engine.render`: named templates, with the rule that tells in
    which of them inserted text is escaped;
  * `Node.render_loop`: a loop stands for the texts of its body, one for each
    member, one after the other.
-/
import CallerStubs.ClassFiles

namespace CallerStubs.Template

/-! ## Values -/

/-- A value that a template can name. -/
inductive Value where
  | absent
  | text (s : String)
  | list (members : List Value)
  | record (fields : List (String × Value))

namespace Value

/-- The text that a value is. -/
def text? : Value → Option String
  | text s => some s
  | _ => none

/-- The members of the list that a value is. -/
def members? : Value → Option (List Value)
  | list members => some members
  | _ => none

/-- A field of the record that a value is. -/
def field? (name : String) : Value → Option Value
  | record fields => fields.lookup name
  | _ => none

/-- The value of a text that may be absent. -/
def ofOption : Option String → Value
  | some s => text s
  | none => absent

end Value

/-- The names that a piece of a template can use.  The name of the innermost
    loop stands first. -/
abbrev Scope := List (String × Value)

/-- The value that a path names: a name and then fields. -/
def Scope.resolve (scope : Scope) (name : String) (fields : List String) : Option Value := do
  let v ← scope.lookup name
  fields.foldlM (fun v field => v.field? field) v

/-! ## Templates -/

/-- A piece of a template. -/
inductive Node where
  /-- Text that is copied. -/
  | text (s : String)
  /-- The text that a path names. -/
  | value (name : String) (fields : List String := [])
  /-- A part that is repeated for each member of the list that a path names. -/
  | loop (item name : String) (fields : List String) (body : List Node)

mutual

/-- The text of a piece.  What `insert` makes of the text at a place is copied
    and not read again. -/
def Node.render (insert : String → String) (scope : Scope) : Node → Option String
  | .text s => some s
  | .value name fields => do
    let v ← scope.resolve name fields
    let s ← v.text?
    some (insert s)
  | .loop item name fields body => do
    let v ← scope.resolve name fields
    let members ← v.members?
    let parts ← members.mapM fun m => renderAll insert ((item, m) :: scope) body
    some (textOf parts)

/-- The text of pieces, one after the other. -/
def renderAll (insert : String → String) (scope : Scope) : List Node → Option String
  | [] => some ""
  | n :: ns => do
    let first ← n.render insert scope
    let rest ← renderAll insert scope ns
    some (first ++ rest)

end

/-- Templates that are rendered by their name. -/
structure Engine where
  /-- What is inserted where text is escaped. -/
  escape : String → String
  /-- Text is escaped in the templates whose names end like this. -/
  escapedEndings : List String
  templates : List (String × List Node)

/-- What stands in the template of this name for an inserted text. -/
def Engine.insert (engine : Engine) (name : String) : String → String :=
  if engine.escapedEndings.any (name.endsWith ·) then engine.escape else id

/-- The text of the template of this name. -/
def Engine.render (engine : Engine) (name : String) (context : Scope) : Option String := do
  let template ← engine.templates.lookup name
  renderAll (engine.insert name) context template

/-! ## Paths -/

section
variable {scope : Scope} {v : Value} {item name : String} {fields : List String}

theorem lookup_cons_eq_ite {α : Type} {entries : List (String × α)} {a : α} :
    ((item, a) :: entries).lookup name = if name = item then some a else entries.lookup name := by
  by_cases h : name = item
  · rw [if_pos h, h, List.lookup_cons_self]
  · rw [if_neg h, List.lookup_cons, beq_false_of_ne h]

@[simp] theorem Value.text?_text {s : String} : (text s).text? = some s := rfl

@[simp] theorem Value.field?_cons {entries : List (String × Value)} :
    (record ((item, v) :: entries)).field? name =
      if name = item then some v else (record entries).field? name :=
  lookup_cons_eq_ite

/-- A name that a scope adds hides the same name outside, and no other. -/
@[simp] theorem Scope.resolve_cons : Scope.resolve ((item, v) :: scope) name fields =
    if name = item then fields.foldlM (fun v field => v.field? field) v
    else scope.resolve name fields := by
  rw [resolve, resolve, lookup_cons_eq_ite]
  by_cases h : name = item
  · rw [if_pos h, if_pos h]
    rfl
  · rw [if_neg h, if_neg h]

end

/-! ## Rendering -/

section
variable {insert : String → String} {scope : Scope} {name : String} {fields : List String}

/-- Nothing is escaped where nothing is to be. -/
theorem Engine.insert_eq_id {engine : Engine} (h : engine.escapedEndings = []) :
    engine.insert name = id := by
  rw [insert, h, List.any_nil, if_neg Bool.false_ne_true]

@[simp] theorem renderAll_nil : renderAll insert scope [] = some "" := rfl

@[simp] theorem renderAll_cons {n : Node} {ns : List Node} :
    renderAll insert scope (n :: ns) = (n.render insert scope).bind fun first =>
      (renderAll insert scope ns).bind fun rest => some (first ++ rest) := rfl

@[simp] theorem Node.render_text {s : String} : (Node.text s).render insert scope = some s := rfl

@[simp] theorem Node.render_value :
    (Node.value name fields).render insert scope =
      (scope.resolve name fields).bind fun v => v.text?.bind fun s => some (insert s) := rfl

theorem mapM_map_eq_some {α β γ : Type} {f : β → Option γ} {value : α → β} {out : α → γ}
    (h : ∀ x, f (value x) = some (out x)) :
    ∀ xs : List α, (xs.map value).mapM f = some (xs.map out)
  | [] => rfl
  | x :: xs => by
    rw [List.map_cons, List.mapM_cons, h, mapM_map_eq_some h xs]
    rfl

/-- **A loop** stands for the texts of its body, one for each member, one after
    the other. -/
theorem Node.render_loop {α : Type} {item : String} {body : List Node} {xs : List α}
    {value : α → Value} {out : α → String}
    (hlist : scope.resolve name fields = some (.list (xs.map value)))
    (hbody : ∀ x, renderAll insert ((item, value x) :: scope) body = some (out x)) :
    (Node.loop item name fields body).render insert scope = some (textOf (xs.map out)) := by
  rw [render, hlist]
  simp only [Option.bind_eq_bind, Option.bind_some, Value.members?]
  rw [mapM_map_eq_some hbody, Option.bind_some]

end

end CallerStubs.Template
