/-
  Caller stubs — the layout of the two files.

  The two files are rendered from templates with loops over the interfaces and
  over their methods.  The loops that insert the methods are the only places
  of a template that look at more than the names of the interfaces, and what
  they insert is copied as it is.

  * `headerTemplate`, `sourceTemplate`, `ClassFrame.context`: the templates,
    and the values that they name;
  * `render_header`, `render_source`: the templates stand for `classHeader`
    and `classSource`, whatever the texts are;
  * `ClassLayout`, `classFiles_laid_out`: the same methods in the same order,
    between texts that no method has a part in.
-/
import CallerStubs.Proofs.ClassFiles.Template

namespace CallerStubs

open Template

/-! ## The templates -/

/-- The start of both files; `name` is the one of the file's own name. -/
def fileHead (name : String) : List Node := [
  .text "// Warning! This file is generated by '", .value "generator",
  .text "'. Edit at your own risk.\n",
  .text "/**\n * @file ", .value name,
  .text "\n * @brief Generated class that process requests from qtHMI\n */\n"]

/-- The declarations of all methods, a line for each. -/
def declarationLoop : Node :=
  .loop "iface" "interfaces" [] [
    .loop "fragment" "iface" ["fragments"] [
      .text "  ", .value "fragment" ["declaration"], .text "\n"]]

/-- The members for the interfaces, a line for each. -/
def memberLoop : Node :=
  .loop "iface" "interfaces" [] [
    .text "  QDBusInterface *", .value "iface" ["name"], .text ";\n"]

/-- The creation of the members. -/
def creationLoop : Node :=
  .loop "iface" "interfaces" [] [
    .text "  ", .value "iface" ["name"], .text " = new QDBusInterface(\"", .value "dbus_service",
    .text "\", \"", .value "dbus_path", .text "\", \"", .value "dbus_service", .text ".",
    .value "iface" ["name"], .text "\", bus, this);\n"]

/-- The release of the members. -/
def releaseLoop : Node :=
  .loop "iface" "interfaces" [] [
    .text "  ", .value "iface" ["name"], .text "->deleteLater();\n"]

/-- The definitions of all methods, with an empty line before each. -/
def definitionLoop : Node :=
  .loop "iface" "interfaces" [] [
    .loop "fragment" "iface" ["fragments"] [
      .text "\n", .value "fragment" ["definition"]]]

/-- **The template of the header.** -/
def headerTemplate : List Node := fileHead "header_name" ++ [
  .text "#ifndef ", .value "guard", .text "\n",
  .text "#define ", .value "guard", .text "\n\n",
  .text "#include <QtCore/QObject>\n",
  .text "#include <QtCore/QVariant>\n",
  .text "#include <", .value "callback_include", .text ">\n\n",
  .text "class QDBusInterface;\n",
  .text "class ", .value "class_name", .text " : public QObject\n",
  .text "\x7b\n",
  .text "  Q_OBJECT\n",
  .text " public:\n",
  .text "  explicit ", .value "class_name", .text "(QObject *parent = 0);\n",
  .text "  ~", .value "class_name", .text "();\n",
  declarationLoop,
  .text "  /// Connection type request objects use to invoke the HMI\n",
  .text "  static const Qt::ConnectionType kInvokeConnection;\n",
  .text " private:\n",
  memberLoop,
  .text "\x7d;\n#endif  // ", .value "guard", .text "\n"]

/-- **The template of the source file.** -/
def sourceTemplate : List Node := fileHead "source_name" ++ [
  .text "#include \"", .value "header_name", .text "\"\n",
  .text "#include <QtDBus/QDBusConnection>\n",
  .text "#include <QtDBus/QDBusInterface>\n",
  .text "#include \"hmi_requests.h\"\n\n",
  .text "const Qt::ConnectionType ", .value "class_name", .text "::kInvokeConnection = Qt::",
  .value "connection_mode", .text "Connection;\n\n",
  .value "class_name", .text "::", .value "class_name", .text "(QObject *parent) \x7b\n",
  .text "  QDBusConnection bus = QDBusConnection::sessionBus();\n",
  creationLoop,
  .text "\x7d\n\n",
  .value "class_name", .text "::~", .value "class_name", .text "() \x7b\n",
  releaseLoop,
  .text "\x7d\n",
  definitionLoop]

/-! ## The context -/

/-- What a template can name of a method. -/
def Stub.value (s : Stub) : Value :=
  .record [
    ("request", .text s.request), ("response", .ofOption s.response),
    ("declaration", .text s.declaration), ("definition", .text s.definition)]

/-- What a template can name of an interface. -/
def StubGroup.value (g : StubGroup) : Value :=
  .record [("name", .text g.name), ("fragments", .list (g.stubs.map Stub.value))]

/-- What the templates can name. -/
def ClassFrame.context (f : ClassFrame) (groups : List StubGroup) : Scope := [
  ("generator", .text "rpcstub"),
  ("class_name", .text f.className),
  ("header_name", .text f.headerName),
  ("source_name", .text f.sourceName),
  ("guard", .text f.guard),
  ("callback_include", .text f.release.callbackInclude),
  ("connection_mode", .text f.release.connectionMode),
  ("dbus_service", .text f.dbusService),
  ("dbus_path", .text f.dbusPath),
  ("interfaces", .list (groups.map StubGroup.value))]

/-- The engine with the two templates.  Text is escaped in neither of them. -/
def classEngine (escape : String → String) : Engine where
  escape := escape
  escapedEndings := []
  templates := [("header.h", headerTemplate), ("source.cc", sourceTemplate)]

/-- The two files, as they are rendered. -/
def ClassFrame.render (f : ClassFrame) (engine : Engine) (groups : List StubGroup) :
    Option (Artifact × Artifact) := do
  let header ← engine.render "header.h" (f.context groups)
  let source ← engine.render "source.cc" (f.context groups)
  some (⟨f.headerName, header⟩, ⟨f.sourceName, source⟩)

/-! ## Rendering -/

/-- A text for each method, interface by interface. -/
def methodTexts (line : Stub → String) (groups : List StubGroup) : String :=
  textOf (groups.map fun g => textOf (g.stubs.map line))

@[simp] theorem textOf_nil : textOf [] = "" := rfl

@[simp] theorem textOf_cons {text : String} {texts : List String} :
    textOf (text :: texts) = text ++ textOf texts := rfl

theorem textOf_append {as bs : List String} : textOf (as ++ bs) = textOf as ++ textOf bs := by
  simp only [textOf_eq_join, String.join_append]

theorem textOf_stubsOf {line : Stub → String} {groups : List StubGroup} :
    textOf ((stubsOf groups).map line) = methodTexts line groups := by
  induction groups with
  | nil => rfl
  | cons g groups ih =>
    rw [stubsOf, List.flatMap_cons, List.map_append, textOf_append, ← stubsOf, ih]
    rfl

section
variable {f : ClassFrame} {groups : List StubGroup}

theorem resolve_interfaces :
    (f.context groups).resolve "interfaces" [] = some (.list (groups.map StubGroup.value)) := by
  simp [ClassFrame.context]

theorem resolve_texts :
    (f.context groups).resolve "generator" [] = some (.text "rpcstub") ∧
    (f.context groups).resolve "class_name" [] = some (.text f.className) ∧
    (f.context groups).resolve "header_name" [] = some (.text f.headerName) ∧
    (f.context groups).resolve "source_name" [] = some (.text f.sourceName) ∧
    (f.context groups).resolve "guard" [] = some (.text f.guard) ∧
    (f.context groups).resolve "callback_include" [] = some (.text f.release.callbackInclude) ∧
    (f.context groups).resolve "connection_mode" [] = some (.text f.release.connectionMode) ∧
    (f.context groups).resolve "dbus_service" [] = some (.text f.dbusService) ∧
    (f.context groups).resolve "dbus_path" [] = some (.text f.dbusPath) := by
  simp [ClassFrame.context]

theorem render_memberLoop :
    memberLoop.render id (f.context groups) =
      some (textOf (groups.map fun g => ClassFrame.memberLine g.name)) := by
  refine Node.render_loop resolve_interfaces fun g => ?_
  unfold ClassFrame.memberLine
  simp [StubGroup.value, String.append_assoc]

theorem render_creationLoop :
    creationLoop.render id (f.context groups) =
      some (textOf (groups.map fun g => f.creationLine g.name)) := by
  refine Node.render_loop resolve_interfaces fun g => ?_
  unfold ClassFrame.creationLine
  simp [StubGroup.value, resolve_texts]

theorem render_releaseLoop :
    releaseLoop.render id (f.context groups) =
      some (textOf (groups.map fun g => ClassFrame.releaseLine g.name)) := by
  refine Node.render_loop resolve_interfaces fun g => ?_
  unfold ClassFrame.releaseLine
  simp [StubGroup.value, String.append_assoc]

/-- A loop over the interfaces around one over their methods. -/
theorem render_methodLoop {body : List Node} {line : Stub → String}
    (hbody : ∀ g s, renderAll id (("fragment", Stub.value s) :: ("iface", StubGroup.value g) ::
      f.context groups) body = some (line s)) :
    (Node.loop "iface" "interfaces" [] [.loop "fragment" "iface" ["fragments"] body]).render id
      (f.context groups) = some (methodTexts line groups) := by
  refine Node.render_loop resolve_interfaces fun g => ?_
  have hlist : Scope.resolve (("iface", g.value) :: f.context groups) "iface" ["fragments"] =
      some (.list (g.stubs.map Stub.value)) := by
    simp [StubGroup.value]
  rw [renderAll_cons, Node.render_loop hlist (hbody g)]
  simp

theorem render_declarationLoop :
    declarationLoop.render id (f.context groups) =
      some (methodTexts ClassFrame.declarationLine groups) := by
  refine render_methodLoop fun g s => ?_
  unfold ClassFrame.declarationLine
  simp [Stub.value, String.append_assoc]

theorem render_definitionLoop :
    definitionLoop.render id (f.context groups) =
      some (methodTexts ClassFrame.definitionText groups) := by
  refine render_methodLoop fun g s => ?_
  unfold ClassFrame.definitionText
  simp [Stub.value]

theorem banner_eq : ClassFrame.banner =
    "// Warning! This file is generated by '" ++ ("rpcstub" ++ "'. Edit at your own risk.\n") := by
  decide

/-- **The template of the header** stands for its text. -/
theorem render_header :
    renderAll id (f.context groups) headerTemplate = some (f.headerText groups) := by
  unfold ClassFrame.headerText ClassFrame.headerStart ClassFrame.fileComment
    ClassFrame.headerMiddle ClassFrame.headerEnd
  rw [textOf_stubsOf, banner_eq]
  -- both sides become the same row of pieces, which are not to be joined
  simp [headerTemplate, fileHead, render_declarationLoop, render_memberLoop, resolve_texts,
    String.append_assoc, -String.reduceAppend]

/-- **The template of the source file** stands for its text. -/
theorem render_source :
    renderAll id (f.context groups) sourceTemplate = some (f.sourceText groups) := by
  unfold ClassFrame.sourceText ClassFrame.sourceStart ClassFrame.fileComment
    ClassFrame.sourceMiddle
  rw [textOf_stubsOf, banner_eq]
  simp [sourceTemplate, fileHead, render_creationLoop, render_releaseLoop, render_definitionLoop,
    resolve_texts, String.append_assoc, -String.reduceAppend]

/-- Rendering succeeds, and makes the two files of the class. -/
theorem render_classEngine {escape : String → String} :
    f.render (classEngine escape) groups = some (classHeader f groups, classSource f groups) := by
  have hheader : (classEngine escape).render "header.h" (f.context groups) =
      some (f.headerText groups) := by
    rw [Engine.render, Engine.insert_eq_id rfl]
    exact render_header
  have hsource : (classEngine escape).render "source.cc" (f.context groups) =
      some (f.sourceText groups) := by
    rw [Engine.render, Engine.insert_eq_id rfl]
    exact render_source
  rw [ClassFrame.render, hheader, hsource]
  rfl

end

/-! ## Layout -/

/-- What stands around the methods in the two files, by the names of the
    interfaces. -/
structure ClassLayout where
  headerStart : List String → String
  headerEnd : List String → String
  sourceStart : List String → String

/-- The interface without its methods. -/
def StubGroup.emptied (g : StubGroup) : StubGroup :=
  { g with stubs := [] }

/-- **The layout of the two files.**  The header holds the declarations of all
    methods, a line for each, and the source file their definitions, with a
    line break before each, in the same order.  What is around them is there
    without any methods, too. -/
structure ClassLayout.Fits (l : ClassLayout) (f : ClassFrame) (groups : List StubGroup) :
    Prop where
  header : (classHeader f groups).contents =
    l.headerStart (groups.map (·.name)) ++
      methodTexts (fun s => "  " ++ s.declaration ++ "\n") groups ++
      l.headerEnd (groups.map (·.name))
  source : (classSource f groups).contents =
    l.sourceStart (groups.map (·.name)) ++ methodTexts (fun s => "\n" ++ s.definition) groups
  emptied_header : (classHeader f (groups.map StubGroup.emptied)).contents =
    l.headerStart (groups.map (·.name)) ++ l.headerEnd (groups.map (·.name))
  emptied_source : (classSource f (groups.map StubGroup.emptied)).contents =
    l.sourceStart (groups.map (·.name))

/-- What a frame puts around the methods. -/
def ClassFrame.layout (f : ClassFrame) : ClassLayout where
  headerStart _ := f.headerStart
  headerEnd names := headerMiddle ++ textOf (names.map memberLine) ++ f.headerEnd
  sourceStart names :=
    f.sourceStart ++ textOf (names.map f.creationLine) ++ f.sourceMiddle ++
      textOf (names.map releaseLine) ++ "\x7d\n"

section
variable {f : ClassFrame} {groups : List StubGroup}

theorem headerText_eq_layout : f.headerText groups =
    f.layout.headerStart (groups.map (·.name)) ++
      methodTexts ClassFrame.declarationLine groups ++
      f.layout.headerEnd (groups.map (·.name)) := by
  unfold ClassFrame.headerText ClassFrame.layout
  rw [textOf_stubsOf]
  simp only [List.map_map, Function.comp_def, String.append_assoc]

theorem sourceText_eq_layout : f.sourceText groups =
    f.layout.sourceStart (groups.map (·.name)) ++
      methodTexts ClassFrame.definitionText groups := by
  unfold ClassFrame.sourceText ClassFrame.layout
  rw [textOf_stubsOf]
  simp only [List.map_map, Function.comp_def]

theorem map_name_emptied : (groups.map StubGroup.emptied).map (·.name) = groups.map (·.name) := by
  rw [List.map_map]
  rfl

theorem methodTexts_emptied {line : Stub → String} :
    methodTexts line (groups.map StubGroup.emptied) = "" := by
  have hnone : stubsOf (groups.map StubGroup.emptied) = [] := by
    rw [stubsOf, List.flatMap_map]
    exact List.flatMap_eq_nil_iff.2 fun _ _ => rfl
  rw [← textOf_stubsOf, hnone]
  rfl

theorem ClassFrame.layout_fits : f.layout.Fits f groups where
  header := headerText_eq_layout
  source := sourceText_eq_layout
  emptied_header := by
    have h := @headerText_eq_layout f (groups.map StubGroup.emptied)
    rwa [map_name_emptied, methodTexts_emptied, String.append_empty] at h
  emptied_source := by
    have h := @sourceText_eq_layout f (groups.map StubGroup.emptied)
    rwa [map_name_emptied, methodTexts_emptied, String.append_empty] at h

end

/-- **The two files hold the same methods verbatim and in the same order**,
    and nothing that stands around them depends on a method.  This is so
    whatever text the methods and the settings are made of, and whatever
    escaping would make of it. -/
theorem classFiles_laid_out (escape : String → String) (s : Settings) :
    ∃ l : ClassLayout, ∀ groups : List StubGroup,
      s.frame.render (classEngine escape) groups =
        some (classHeader s.frame groups, classSource s.frame groups) ∧ l.Fits s.frame groups :=
  ⟨s.frame.layout, fun _ => ⟨render_classEngine, ClassFrame.layout_fits⟩⟩

end CallerStubs
