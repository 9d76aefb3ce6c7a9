/-
  Caller stubs — attributes are read back as they were written.

  * `IsName`, `Attribute.Legible`: the names of well-formed markup, and the
    attributes that can be written;
  * `renderAttributes`: attributes one after the other;
  * `readAll_renderAttributes`, `leading_renderAttributes`: both ways to read
    attributes undo their writing.
-/
import CallerStubs.Markup.Attribute
import CallerStubs.Proofs.Markup.Reference
import Mathlib.Data.List.Nodup

namespace CallerStubs.Markup

/-! ## Names -/

/-- May the character stand in a name?  A colon may; it ends a prefix. -/
def isNameChar (c : Char) : Bool :=
  !isSpace c && !"<>/=!?&;@$\x27\"".toList.contains c

/-- **The names of well-formed markup.** -/
structure IsName (name : List Char) : Prop where
  nonempty : name ≠ []
  chars : ∀ c ∈ name, isNameChar c = true

instance (name : List Char) : Decidable (IsName name) :=
  decidable_of_iff (name ≠ [] ∧ name.all isNameChar = true)
    ⟨fun h => ⟨h.1, List.all_eq_true.1 h.2⟩, fun h => ⟨h.nonempty, List.all_eq_true.2 h.chars⟩⟩

theorem isSpace_eq_false {c : Char} (h : isNameChar c = true) : isSpace c = false := by
  unfold isNameChar at h
  simp only [Bool.and_eq_true, Bool.not_eq_true'] at h
  exact h.1

theorem ne_of_isNameChar {c d : Char} (h : isNameChar c = true)
    (hd : d ∈ "<>/=!?&;@$\x27\"".toList) : c ≠ d := by
  rintro rfl
  simp only [isNameChar, Bool.and_eq_true, Bool.not_eq_true', List.contains_eq_mem,
    decide_eq_false_iff_not] at h
  exact h.2 hd

/-! ## Writing -/

/-- The attribute can be written between double quotes. -/
structure Attribute.Legible (a : Attribute) : Prop where
  name : IsName a.name
  value : '"' ∉ a.value

/-- Attributes, one after the other. -/
def renderAttributes (attributes : List Attribute) : List Char :=
  attributes.flatMap Attribute.render

/-- An attribute begins with a space. -/
theorem Attribute.render_append (a : Attribute) (rest : List Char) :
    a.render ++ rest = ' ' :: (a.name ++ '=' :: '"' :: (a.value ++ '"' :: rest)) := by
  simp [render]

theorem length_le_length_renderAttributes (attributes : List Attribute) :
    attributes.length ≤ (renderAttributes attributes).length := by
  induction attributes with
  | nil => exact Nat.le_refl 0
  | cons a attributes ih =>
    have hrender : 0 < a.render.length := by simp [Attribute.render]
    rw [renderAttributes, List.flatMap_cons, List.length_append, List.length_cons,
      ← renderAttributes]
    omega

/-! ## Reading -/

variable {a : Attribute} {attributes : List Attribute}

theorem Attribute.next?_render (h : a.Legible) {first : Char} {name : List Char}
    (hname : a.name = first :: name) (rest : List Char) :
    Attribute.next? first (name ++ '=' :: '"' :: (a.value ++ '"' :: rest)) = some (a, rest) := by
  have hinName : ∀ c ∈ name, (c != '=' && !isSpace c) = true := by
    intro c hc
    have hchar : isNameChar c = true := h.name.chars c (hname ▸ List.mem_cons_of_mem _ hc)
    simp [ne_of_isNameChar hchar (d := '=') (by decide), isSpace_eq_false hchar]
  have hinValue : ∀ c ∈ a.value, (c != '"') = true := by
    intro c hc
    simp only [bne_iff_ne]
    rintro rfl
    exact h.value hc
  have hequals (cs : List Char) : ('=' :: cs).dropWhile isSpace = '=' :: cs :=
    List.dropWhile_cons_of_neg (by decide)
  have hquote (cs : List Char) : ('"' :: cs).dropWhile isSpace = '"' :: cs :=
    List.dropWhile_cons_of_neg (by decide)
  unfold Attribute.next?
  simp only [List.dropWhile_append_of_pos hinName, List.takeWhile_append_of_pos hinName]
  simp [hequals, hquote, List.dropWhile_append_of_pos hinValue,
    List.takeWhile_append_of_pos hinValue, ← hname]

theorem dropWhile_isSpace_render (h : a.Legible) {first : Char} {name : List Char}
    (hname : a.name = first :: name) (rest : List Char) :
    (a.render ++ rest).dropWhile isSpace =
      first :: (name ++ '=' :: '"' :: (a.value ++ '"' :: rest)) := by
  have hfirst : isSpace first = false :=
    isSpace_eq_false (h.name.chars first (hname ▸ List.mem_cons_self ..))
  have hspace : isSpace ' ' = true := by decide
  rw [Attribute.render_append, hname, List.dropWhile_cons_of_pos hspace, List.cons_append,
    List.dropWhile_cons_of_neg (by simp [hfirst])]

theorem readUpTo_renderAttributes {n : Nat} {seen : List (List Char)}
    (hn : attributes.length < n) (hlegible : ∀ a ∈ attributes, a.Legible)
    (hnodup : (attributes.map (·.name)).Nodup)
    (hfresh : ∀ a ∈ attributes, a.name ∉ seen) :
    Attribute.readUpTo seen n (renderAttributes attributes) = some attributes := by
  induction attributes generalizing n seen with
  | nil =>
    cases n with
    | zero => omega
    | succ n => rfl
  | cons a attributes ih =>
    cases n with
    | zero => omega
    | succ n =>
      have ha := hlegible a (List.mem_cons_self ..)
      obtain ⟨hnew, hnodup⟩ := List.nodup_cons.1 hnodup
      obtain ⟨first, name, hname⟩ := List.exists_cons_of_ne_nil ha.name.nonempty
      have hmore : Attribute.readUpTo (a.name :: seen) n (renderAttributes attributes) =
          some attributes := by
        refine ih (by simpa using hn) (fun b hb => hlegible b (List.mem_cons_of_mem _ hb)) hnodup ?_
        intro b hb hmem
        rcases List.mem_cons.1 hmem with heq | hmem
        · exact hnew (List.mem_map.2 ⟨b, hb, heq⟩)
        · exact hfresh b (List.mem_cons_of_mem _ hb) hmem
      rw [renderAttributes, List.flatMap_cons, ← renderAttributes, Attribute.readUpTo,
        dropWhile_isSpace_render ha hname]
      simp [Attribute.next?_render ha hname, hfresh a (List.mem_cons_self ..), hmore]

/-- **Attributes of different names are read back as they were written.** -/
theorem readAll_renderAttributes (hlegible : ∀ a ∈ attributes, a.Legible)
    (hnodup : (attributes.map (·.name)).Nodup) :
    Attribute.readAll (renderAttributes attributes) = some attributes :=
  readUpTo_renderAttributes
    (Nat.lt_succ_of_le (length_le_length_renderAttributes attributes)) hlegible hnodup (by simp)

theorem leadingUpTo_renderAttributes {n : Nat} (hn : attributes.length < n)
    (hlegible : ∀ a ∈ attributes, a.Legible) :
    Attribute.leadingUpTo n (renderAttributes attributes) = attributes := by
  induction attributes generalizing n with
  | nil =>
    cases n with
    | zero => omega
    | succ n => rfl
  | cons a attributes ih =>
    cases n with
    | zero => omega
    | succ n =>
      have ha := hlegible a (List.mem_cons_self ..)
      obtain ⟨first, name, hname⟩ := List.exists_cons_of_ne_nil ha.name.nonempty
      have hmore : Attribute.leadingUpTo n (renderAttributes attributes) = attributes :=
        ih (by simpa using hn) fun b hb => hlegible b (List.mem_cons_of_mem _ hb)
      rw [renderAttributes, List.flatMap_cons, ← renderAttributes, Attribute.leadingUpTo,
        dropWhile_isSpace_render ha hname]
      simp [Attribute.next?_render ha hname, hmore]

theorem leading_renderAttributes (hlegible : ∀ a ∈ attributes, a.Legible) :
    Attribute.leading (renderAttributes attributes) = attributes :=
  leadingUpTo_renderAttributes
    (Nat.lt_succ_of_le (length_le_length_renderAttributes attributes)) hlegible

end CallerStubs.Markup
