/-
  Caller stubs — closing brackets never meet.

  Old compilers read two closing brackets in a row as a shift.  The argument of
  a template is therefore written with a blank on either side, and this is so
  at every place where a type is put into other text.

  * `ClosesApart`, `Guarded`: texts without two closing brackets in a row, and
    those to which any other such text can be appended;
  * `closesApart_template`: a template, by its argument;
  * `HostType.closesApart_text`, `Param.Bracketless.block`, `guarded_bodyText`,
    `guarded_parameterList`: the places where types are written;
  * `brackets_apart`: no two closing brackets meet in a type, in a body or in
    a method.
-/
import CallerStubs.Proofs.Api.Types
import CallerStubs.Proofs.Generation.Agreement
import CallerStubs.Proofs.Text.Apart

namespace CallerStubs

/-! ## Texts -/

section
variable {s t : String}

/-- No two closing brackets stand side by side in the text. -/
def ClosesApart (text : String) : Prop :=
  Text.Apart '>' text.toList

/-- No two closing brackets stand side by side in the text, and none stands at
    its end, where another one could follow. -/
structure Guarded (text : String) : Prop where
  apart : ClosesApart text
  last : text.toList.getLast? ≠ some '>'

/-- A text without closing brackets is guarded. -/
theorem guarded_of_notMem (h : '>' ∉ s.toList) : Guarded s where
  apart := Text.apart_of_notMem h
  last hlast := h (List.mem_of_getLast? hlast)

theorem Guarded.append_closesApart (hs : Guarded s) (ht : ClosesApart t) :
    ClosesApart (s ++ t) := by
  rw [ClosesApart, String.toList_append]
  exact hs.apart.append ht fun hlast => absurd hlast hs.last

/-- A guarded text can be closed. -/
theorem Guarded.close (hs : Guarded s) : ClosesApart (s ++ ">") :=
  hs.append_closesApart Text.apart_singleton

theorem Guarded.append (hs : Guarded s) (ht : Guarded t) : Guarded (s ++ t) where
  apart := hs.append_closesApart ht.apart
  last := by
    rw [String.toList_append, List.getLast?_append]
    cases hlast : t.toList.getLast? with
    | none => simpa using hs.last
    | some c => simpa [hlast] using ht.last

/-- A closing bracket at the end is guarded by what follows. -/
theorem ClosesApart.guarded_append (hs : ClosesApart s) (ht : '>' ∉ t.toList)
    (hne : t.toList ≠ []) : Guarded (s ++ t) where
  apart := by
    rw [ClosesApart, String.toList_append]
    exact hs.append (Text.apart_of_notMem ht) fun _ hhead => ht (List.mem_of_head? hhead)
  last := by
    rw [String.toList_append, List.getLast?_append_of_ne_nil _ hne]
    exact fun hlast => ht (List.mem_of_getLast? hlast)

theorem guarded_join {texts : List String} (h : ∀ text ∈ texts, Guarded text) :
    Guarded (String.join texts) := by
  induction texts with
  | nil => exact guarded_of_notMem (by simp)
  | cons text texts ih =>
    rw [String.join_cons]
    exact (h text (List.mem_cons_self ..)).append (ih fun u hu => h u (List.mem_cons_of_mem _ hu))

theorem guarded_commaJoined : ∀ {texts : List String}, (∀ text ∈ texts, Guarded text) →
    Guarded (commaJoined texts)
  | [], _ => guarded_of_notMem (by simp [commaJoined])
  | [text], h => by
    rw [commaJoined, String.intercalate_singleton]
    exact h text (List.mem_cons_self ..)
  | text :: next :: texts, h => by
    have hcomma : Guarded ", " := guarded_of_notMem (by decide)
    rw [commaJoined, String.intercalate_cons_cons]
    exact ((h text (List.mem_cons_self ..)).append hcomma).append
      (guarded_commaJoined fun u hu => h u (List.mem_cons_of_mem _ hu))

/-- **A template keeps closing brackets apart** if its argument does. -/
theorem closesApart_template (front : String) (hfront : '>' ∉ front.toList)
    (ht : ClosesApart t) : ClosesApart (front ++ "< " ++ t ++ " >") := by
  have hopen : Guarded (front ++ "< ") :=
    (guarded_of_notMem hfront).append (guarded_of_notMem (by decide))
  have hblank : Guarded (front ++ "< " ++ t ++ " ") :=
    (hopen.append_closesApart ht).guarded_append (by decide) (by decide)
  rw [show " >" = " " ++ ">" from rfl, ← String.append_assoc]
  exact hblank.close

end

/-! ## Types -/

/-- **Closing brackets never meet in a type**, however deep its lists are. -/
theorem HostType.closesApart_text {type : HostType}
    (h : ∀ name ∈ type.structs, '>' ∉ name.toList) : ClosesApart type.text := by
  induction type with
  | list element ih => exact closesApart_template "QList" (by decide) (ih h)
  | struct name => exact Text.apart_of_notMem (h name (List.mem_singleton_self name))
  | variant | stringList | int | string | bool | double => exact Text.apart_of_notMem (by decide)

/-- Neither the name of the parameter nor the path of its structure has a
    closing bracket.  The path of an enumeration is not written. -/
structure Param.Bracketless (p : Param) : Prop where
  name : '>' ∉ p.name.toList
  path : ∀ path, p.kind = .struct path →
    '>' ∉ path.interface.toList ∧ '>' ∉ path.name.toList

/-- No name of the dispatch has a closing bracket. -/
structure Dispatch.Bracketless (d : Dispatch) : Prop where
  namespaceName : '>' ∉ d.namespaceName.toList
  interface : '>' ∉ d.interface.toList
  request : '>' ∉ d.request.toList
  callback : '>' ∉ d.callback.toList

variable {p : Param} {params : List Param} {d : Dispatch}

theorem Param.Bracketless.valueType (h : p.Bracketless) : ClosesApart p.valueType.text := by
  refine HostType.closesApart_text fun name hname => ?_
  obtain ⟨path, hkind, rfl⟩ := p.mem_structs_valueType hname
  obtain ⟨hinterface, hname⟩ := h.path path hkind
  simp [TypePath.joined, hinterface, hname]

theorem Param.Bracketless.signatureType (h : p.Bracketless) :
    ClosesApart p.signatureType.text := by
  unfold Param.signatureType
  split_ifs
  · exact h.valueType
  · exact Text.apart_of_notMem (by decide)

/-! ## Bodies -/

theorem guarded_envelopeBlock {name type : String} (hname : '>' ∉ name.toList)
    (htype : ClosesApart type) : ∀ line ∈ envelopeBlock name type, Guarded line := by
  -- the first and the third line hold the type
  have hdeclare : "OptionalArgument< " ++ type ++ " > o_" ++ name ++ ";" =
      ("OptionalArgument" ++ "< " ++ type ++ " >") ++ (" o_" ++ name ++ ";") := by
    simp [← String.toList_inj]
  have hvalue : "o_" ++ name ++ ".val = " ++ name ++ ".value< " ++ type ++ " >();" =
      ("o_" ++ name ++ ".val = " ++ name ++ ".value" ++ "< " ++ type ++ " >") ++ "();" := by
    simp [← String.toList_inj]
  intro line hline
  simp only [envelopeBlock, List.mem_cons, List.not_mem_nil, or_false] at hline
  rcases hline with rfl | rfl | rfl | rfl
  · rw [hdeclare]
    exact (closesApart_template _ (by decide) htype).guarded_append (by simp [hname]) (by simp)
  · exact guarded_of_notMem (by simp [hname])
  · rw [hvalue]
    exact (closesApart_template _ (by simp [hname]) htype).guarded_append (by decide) (by decide)
  · exact guarded_of_notMem (by simp [hname])

theorem Param.Bracketless.block (h : p.Bracketless) : ∀ line ∈ p.block, Guarded line := by
  unfold Param.block
  split_ifs
  · intro line hline
    rw [plainBlock, List.mem_singleton] at hline
    exact hline ▸ guarded_of_notMem (by simp [h.name])
  · exact guarded_envelopeBlock h.name h.valueType

theorem Dispatch.Bracketless.statement (h : d.Bracketless) : '>' ∉ d.statement.toList := by
  unfold Dispatch.statement argumentList
  simp [h.namespaceName, h.interface, h.request, h.callback]

theorem guarded_marshalling (hparams : ∀ p ∈ params, p.Bracketless) (hd : d.Bracketless) :
    ∀ line ∈ marshalling params d, Guarded line := by
  intro line hline
  rw [marshalling_eq, List.mem_cons, List.mem_append, List.mem_singleton] at hline
  rcases hline with rfl | hline | rfl
  · have hlist : Guarded "QList<QVariant" := guarded_of_notMem (by decide)
    show Guarded ("QList<QVariant" ++ ">" ++ " args;")
    exact hlist.close.guarded_append (by decide) (by decide)
  · obtain ⟨p, hp, hline⟩ := List.mem_flatMap.1 hline
    exact (hparams p hp).block line hline
  · exact guarded_of_notMem hd.statement

theorem guarded_bodyText (level : Nat) (hparams : ∀ p ∈ params, p.Bracketless)
    (hd : d.Bracketless) : Guarded (bodyText level params d) := by
  rw [bodyText_eq_linesOn, linesOn]
  refine guarded_join fun text htext => ?_
  obtain ⟨line, hline, rfl⟩ := List.mem_map.1 htext
  have hindent : Guarded (indentation level) := guarded_of_notMem (by simp [indentation])
  exact (hindent.append (guarded_marshalling hparams hd line hline)).append
    (guarded_of_notMem (by decide))

/-! ## Methods -/

variable {interface : String} {r : Request}

theorem callback_bracketless (release : QtRelease) :
    '>' ∉ (release.callbackType ++ " " ++ callbackName).toList := by
  cases release <;> decide

/-- The parameters of a method as they stand between its parentheses. -/
theorem guarded_parameterList (release : QtRelease) (interface : String)
    (hparams : ∀ p ∈ r.params, p.Bracketless) :
    Guarded (Signature.ofRequest release interface r).parameterList := by
  refine guarded_commaJoined fun text htext => ?_
  rw [Signature.ofRequest, List.map_map, List.mem_append, List.mem_singleton] at htext
  rcases htext with htext | rfl
  · obtain ⟨p, hp, rfl⟩ := List.mem_map.1 htext
    have hp := hparams p hp
    exact (hp.signatureType.guarded_append (by decide) (by decide)).append
      (guarded_of_notMem hp.name)
  · exact guarded_of_notMem (callback_bracketless release)

/-- No name that a method is made from has a closing bracket. -/
structure StubTarget.Bracketless (t : StubTarget) (interface : String) (r : Request) : Prop where
  className : '>' ∉ t.className.toList
  dispatch : (t.dispatch interface r).Bracketless
  params : ∀ p ∈ r.params, p.Bracketless

namespace StubTarget.Bracketless

variable {t : StubTarget}

theorem methodName (h : t.Bracketless interface r) :
    '>' ∉ (Signature.methodName interface r.name).toList := by
  have hinterface : '>' ∉ interface.toList := h.dispatch.interface
  have hrequest : '>' ∉ r.name.toList := h.dispatch.request
  simp [Signature.methodName, hinterface, hrequest]

theorem declaration (h : t.Bracketless interface r) :
    Guarded (Signature.ofRequest t.release interface r).declaration := by
  have hname : Guarded ("Q_INVOKABLE void " ++ Signature.methodName interface r.name ++ "(") :=
    guarded_of_notMem (by simp [h.methodName])
  exact (hname.append (guarded_parameterList t.release interface h.params)).append
    (guarded_of_notMem (by decide))

theorem opening (h : t.Bracketless interface r) :
    Guarded ((Signature.ofRequest t.release interface r).opening t.className) := by
  have hname : Guarded
      ("void " ++ t.className ++ "::" ++ Signature.methodName interface r.name ++ "(") :=
    guarded_of_notMem (by simp [h.className, h.methodName])
  exact (hname.append (guarded_parameterList t.release interface h.params)).append
    (guarded_of_notMem (by decide))

theorem definition (h : t.Bracketless interface r) :
    Guarded (Outline.text 0 [t.definition interface r]) := by
  rw [t.text_definition interface r]
  exact ((h.opening.append (guarded_of_notMem (by decide))).append
    (guarded_bodyText 1 h.params h.dispatch)).append (guarded_of_notMem (by decide))

end StubTarget.Bracketless

/-- **Closing brackets never meet** in a type, in a body or in a method, if no
    name has one. -/
theorem brackets_apart :
    (∀ type : HostType, (∀ name ∈ type.structs, '>' ∉ name.toList) →
      ¬ ['>', '>'] <:+: type.text.toList) ∧
    (∀ (level : Nat) (params : List Param) (d : Dispatch), (∀ p ∈ params, p.Bracketless) →
      d.Bracketless → ¬ ['>', '>'] <:+: (bodyText level params d).toList) ∧
    ∀ (t : StubTarget) (interface : String) (e : Exchange), t.Bracketless interface e.request →
      ¬ ['>', '>'] <:+: (t.stub interface e).declaration.toList ∧
      ¬ ['>', '>'] <:+: (t.stub interface e).definition.toList := by
  refine ⟨fun type h => HostType.closesApart_text h, ?_, ?_⟩
  · intro level params d hparams hd
    exact (guarded_bodyText level hparams hd).apart
  · intro t interface e h
    exact ⟨h.declaration.apart, h.definition.apart⟩

/-- A list that may be left out, and a list of structures. -/
def showRequest : Request where
  name := "Show"
  params := [
    { name := "ids", kind := .integer, mandatory := false, array := true },
    { name := "fields", kind := .struct ⟨"Common", "TextField"⟩, array := true }]

def callerTarget : StubTarget where
  release := .qt5
  className := "Caller"
  requestsNamespace := "requests"

theorem showRequest_bracketless : callerTarget.Bracketless "UI" showRequest where
  className := by decide
  dispatch := ⟨by decide, by decide, by decide, by decide⟩
  params := by
    simp only [showRequest, List.mem_cons, List.not_mem_nil, or_false]
    rintro p (rfl | rfl)
    · exact ⟨by decide, nofun⟩
    · refine ⟨by decide, ?_⟩
      rintro path ⟨⟩
      decide

/-- Lists in lists, and a method with lists in its parameters and its body. -/
theorem showMethod_apart :
    ¬ ['>', '>'] <:+:
      (HostType.list (.list (.list (.struct "Common_TextField")))).text.toList ∧
    ¬ ['>', '>'] <:+:
      (bodyText 1 showRequest.params (callerTarget.dispatch "UI" showRequest)).toList ∧
    ¬ ['>', '>'] <:+: (callerTarget.stub "UI" ⟨showRequest, none⟩).declaration.toList ∧
    ¬ ['>', '>'] <:+: (callerTarget.stub "UI" ⟨showRequest, none⟩).definition.toList := by
  obtain ⟨htypes, hbodies, hmethods⟩ := brackets_apart
  have hstructs : ∀ name ∈ (HostType.list (.list (.list (.struct "Common_TextField")))).structs,
      '>' ∉ name.toList := by
    intro name hname
    rw [List.mem_singleton.1 hname]
    decide
  have hmethod := hmethods callerTarget "UI" ⟨showRequest, none⟩ showRequest_bracketless
  exact ⟨htypes _ hstructs,
    hbodies 1 _ _ showRequest_bracketless.params showRequest_bracketless.dispatch, hmethod⟩

end CallerStubs
