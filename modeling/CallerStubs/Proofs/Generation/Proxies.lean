/-
  Caller stubs — the proxies of the generated class.

  The class reaches each interface of the service through a proxy, which is a
  member with the name of the interface.  The header declares the proxies, the
  constructor creates them, the destructor releases them, and the methods hand
  them to their dispatchers.

  * `ProxyStatement`: what is done with a proxy, and its line;
  * `ClassUnit`: the class by its parts, and the texts of its two files;
  * `ClassUnit.Manages`: the same proxies are declared, created, released and
    handed over;
  * `ofDocument_manages`: that is so in every generation, with a proxy for each
    interface of the document.
-/
import CallerStubs.Proofs.ClassFiles.Layout
import CallerStubs.Proofs.Generation.Definition
import CallerStubs.Proofs.Generation.Methods

namespace CallerStubs

/-! ## The class by its parts -/

/-- What is done with a proxy. -/
inductive ProxyStatement where
  | declare (member : String)
  /-- Connects the member to an interface, by its full name, of an object of a
      service. -/
  | create (member service path interface : String)
  | release (member : String)
  deriving DecidableEq

/-- The line of the statement. -/
def ProxyStatement.line : ProxyStatement → String
  | declare member => "  QDBusInterface *" ++ member ++ ";\n"
  | create member service path interface =>
    "  " ++ member ++ " = new QDBusInterface(\"" ++ service ++ "\", \"" ++ path ++ "\", \"" ++
      interface ++ "\", bus, this);\n"
  | release member => "  " ++ member ++ "->deleteLater();\n"

/-- The source file up to the constructor. -/
def ClassFrame.preamble (f : ClassFrame) : String :=
  banner ++ fileComment f.sourceName ++
    "#include \"" ++ f.headerName ++ "\"\n" ++
    "#include <QtDBus/QDBusConnection>\n" ++
    "#include <QtDBus/QDBusInterface>\n" ++
    "#include \"hmi_requests.h\"\n\n" ++
    "const Qt::ConnectionType " ++ f.className ++ "::kInvokeConnection = Qt::" ++
    f.release.connectionMode ++ "Connection;\n\n"

/-- The class by its parts. -/
structure ClassUnit where
  frame : ClassFrame
  /-- The statements of the private section of the header. -/
  members : List ProxyStatement
  /-- The statements of the constructor. -/
  created : List ProxyStatement
  /-- The statements of the destructor. -/
  released : List ProxyStatement
  /-- The definitions of the methods, interface by interface. -/
  definitions : List (List Definition)

namespace ClassUnit

/-- The lines of statements. -/
def linesOf (statements : List ProxyStatement) : String :=
  String.join (statements.map ProxyStatement.line)

/-- The public section of the header, with the declarations of the methods. -/
def publicSection (u : ClassUnit) : String :=
  String.join (u.definitions.flatten.map fun f => "  " ++ f.declaration ++ "\n") ++
    "  /// Connection type request objects use to invoke the HMI\n" ++
    "  static const Qt::ConnectionType kInvokeConnection;\n"

/-- The private section of the header. -/
def privateSection (u : ClassUnit) : String :=
  " private:\n" ++ linesOf u.members ++ "\x7d;\n"

/-- The header of the class. -/
def headerText (u : ClassUnit) : String :=
  u.frame.headerStart ++ u.publicSection ++ u.privateSection ++
    "#endif  // " ++ u.frame.guard ++ "\n"

def constructorText (u : ClassUnit) : String :=
  u.frame.className ++ "::" ++ u.frame.className ++ "(QObject *parent) \x7b\n" ++
    "  QDBusConnection bus = QDBusConnection::sessionBus();\n" ++ linesOf u.created ++ "\x7d\n"

def destructorText (u : ClassUnit) : String :=
  u.frame.className ++ "::~" ++ u.frame.className ++ "() \x7b\n" ++ linesOf u.released ++ "\x7d\n"

/-- The source file of the class: the constructor and the destructor come
    before all definitions. -/
def sourceText (u : ClassUnit) : String :=
  u.frame.preamble ++ u.constructorText ++ "\n" ++ u.destructorText ++
    String.join (u.definitions.flatten.map fun f => "\n" ++ f.text)

end ClassUnit

/-! ## The class of a service -/

/-- The definitions of the methods for an interface. -/
def Interface.definitions (i : Interface) (t : StubTarget) (provider : String) :
    List Definition :=
  (i.participants provider).map (t.definitionOf i.name)

/-- The class for a service, by its parts. -/
def Api.classUnit (api : Api) (s : Settings) : ClassUnit where
  frame := s.frame
  members := api.interfaces.map fun i => .declare i.name
  created := api.interfaces.map fun i =>
    .create i.name s.dbusService s.dbusPath (s.dbusService ++ "." ++ i.name)
  released := api.interfaces.map fun i => .release i.name
  definitions := api.interfaces.map fun i => i.definitions s.target s.provider

section
variable {api : Api} {s : Settings}

/-- The methods of a service have the definitions of its class. -/
theorem Api.definedBy_classUnit (api : Api) (s : Settings) :
    List.Forall₂ (fun a fs => List.Forall₂ Stub.DefinedBy a.stubs fs) (api.stubGroups s)
      (api.classUnit s).definitions := by
  rw [stubGroups, classUnit, List.forall₂_map_left_iff, List.forall₂_map_right_iff,
    List.forall₂_same]
  intro i _
  rw [Interface.stubs, Interface.exchanges, Interface.definitions, List.map_map,
    List.forall₂_map_left_iff, List.forall₂_map_right_iff, List.forall₂_same]
  exact fun r _ => s.target.stub_definedBy i.name _

/-- The texts of methods are those of their definitions. -/
theorem map_stubsOf_eq {line : Stub → String} {line' : Definition → String}
    (hline : ∀ x f, x.DefinedBy f → line x = line' f) (api : Api) (s : Settings) :
    (stubsOf (api.stubGroups s)).map line = (api.classUnit s).definitions.flatten.map line' := by
  have hgroups : (api.stubGroups s).map (fun a => a.stubs.map line) =
      (api.classUnit s).definitions.map (·.map line') :=
    map_eq_map_of_forall₂ (fun a fs hfs => map_eq_map_of_forall₂ hline hfs)
      (api.definedBy_classUnit s)
  rw [stubsOf, List.map_flatMap, List.flatMap_def, hgroups, List.map_flatten]

theorem ClassUnit.linesOf_map {statement : Interface → ProxyStatement} {line : String → String}
    (hline : ∀ i, (statement i).line = line i.name) :
    linesOf (api.interfaces.map statement) =
      textOf ((api.stubGroups s).map fun g => line g.name) := by
  rw [linesOf, textOf_eq_join, Api.stubGroups, List.map_map, List.map_map]
  exact congrArg String.join (List.map_congr_left fun i _ => hline i)

theorem ofApi_headerText (api : Api) (s : Settings) :
    (Generation.ofApi s api).header.contents = (api.classUnit s).headerText := by
  have hmethods : (stubsOf (api.stubGroups s)).map ClassFrame.declarationLine =
      (api.classUnit s).definitions.flatten.map fun f =>
        "  " ++ f.declaration ++ "\n" :=
    map_stubsOf_eq (fun x f hx => by rw [ClassFrame.declarationLine, hx.declaration]) api s
  have hline (i : Interface) :
      (ProxyStatement.declare i.name).line = ClassFrame.memberLine i.name := by
    unfold ProxyStatement.line ClassFrame.memberLine
    rfl
  have hmembers : ClassUnit.linesOf (api.classUnit s).members =
      textOf ((api.stubGroups s).map fun g => ClassFrame.memberLine g.name) :=
    ClassUnit.linesOf_map hline
  have hframe : (api.classUnit s).frame = s.frame := rfl
  unfold ClassUnit.headerText ClassUnit.publicSection ClassUnit.privateSection
  rw [hmembers, ← hmethods, ← textOf_eq_join, hframe]
  change s.frame.headerText (api.stubGroups s) = _
  unfold ClassFrame.headerText ClassFrame.headerMiddle ClassFrame.headerEnd
  rw [show "\x7d;\n#endif  // " = "\x7d;\n" ++ "#endif  // " by decide]
  simp [String.append_assoc, -String.reduceAppend]

theorem ofApi_sourceText (api : Api) (s : Settings) :
    (Generation.ofApi s api).source.contents = (api.classUnit s).sourceText := by
  have hmethods : (stubsOf (api.stubGroups s)).map ClassFrame.definitionText =
      (api.classUnit s).definitions.flatten.map fun f => "\n" ++ f.text :=
    map_stubsOf_eq (fun x f hx => by rw [ClassFrame.definitionText, hx.definition]) api s
  have hcreation (i : Interface) :
      (ProxyStatement.create i.name s.dbusService s.dbusPath
        (s.dbusService ++ "." ++ i.name)).line = s.frame.creationLine i.name := by
    unfold ProxyStatement.line ClassFrame.creationLine
    simp [Settings.frame, String.append_assoc, -String.reduceAppend]
  have hcreated : ClassUnit.linesOf (api.classUnit s).created =
      textOf ((api.stubGroups s).map fun g => s.frame.creationLine g.name) :=
    ClassUnit.linesOf_map hcreation
  have hrelease (i : Interface) :
      (ProxyStatement.release i.name).line = ClassFrame.releaseLine i.name := by
    unfold ProxyStatement.line ClassFrame.releaseLine
    rfl
  have hreleased : ClassUnit.linesOf (api.classUnit s).released =
      textOf ((api.stubGroups s).map fun g => ClassFrame.releaseLine g.name) :=
    ClassUnit.linesOf_map hrelease
  have hframe : (api.classUnit s).frame = s.frame := rfl
  unfold ClassUnit.sourceText ClassUnit.constructorText ClassUnit.destructorText
  rw [hcreated, hreleased, ← hmethods, ← textOf_eq_join, hframe]
  change s.frame.sourceText (api.stubGroups s) = _
  unfold ClassFrame.sourceText ClassFrame.sourceStart ClassFrame.sourceMiddle ClassFrame.preamble
  rw [show "\x7d\n\n" = "\x7d\n" ++ "\n" by decide]
  simp [String.append_assoc, -String.reduceAppend]

end

/-! ## The same proxies everywhere -/

/-- **The class manages one proxy for each of the names**, which are different:
    in their order, it declares, creates and releases each of them once, and
    nothing else.  Each method of an interface hands over the proxy with the
    name of this interface, and no other, in the dispatch that ends its text. -/
structure ClassUnit.Manages (u : ClassUnit) (s : Settings) (names : List String) : Prop where
  nodup : names.Nodup
  members : u.members = names.map .declare
  created : u.created = names.map fun name =>
    .create name s.dbusService s.dbusPath (s.dbusService ++ "." ++ name)
  released : u.released = names.map .release
  proxies : List.Forall₂
    (fun name fs => ∀ f ∈ fs, f.dispatches.map (·.proxy) = [name] ∧
      ∃ request, f.name = name ++ "_" ++ request ∧ f.DispatchesTo (s.target.callOf name request))
    names u.definitions

/-- The method for a request of an interface hands over its proxy. -/
theorem Interface.proxies_definitions (i : Interface) (t : StubTarget) (provider : String) :
    ∀ f ∈ i.definitions t provider, f.dispatches.map (·.proxy) = [i.name] ∧
      ∃ request, f.name = i.name ++ "_" ++ request ∧ f.DispatchesTo (t.callOf i.name request) := by
  intro f hf
  obtain ⟨r, -, rfl⟩ := List.mem_map.1 hf
  have hdispatches := t.definitionOf_dispatchesTo i.name r
  refine ⟨?_, r.name, rfl, hdispatches⟩
  rw [hdispatches.once]
  rfl

theorem Api.classUnit_manages {api : Api} (h : (api.interfaces.map (·.name)).Nodup)
    (s : Settings) : (api.classUnit s).Manages s (api.interfaces.map (·.name)) where
  nodup := h
  members := by rw [List.map_map]; rfl
  created := by rw [List.map_map]; rfl
  released := by rw [List.map_map]; rfl
  proxies := by
    rw [List.forall₂_map_left_iff, classUnit, List.forall₂_map_right_iff, List.forall₂_same]
    exact fun i _ => i.proxies_definitions s.target s.provider

/-- **The generated class declares, creates and releases the same proxies**:
    one for each interface of the document, in its order, whether or not the
    interface has a method.  The methods are defined behind the constructor and
    the destructor and use no other proxies. -/
theorem ofDocument_manages {d : Document} {s : Settings} {g : Generation}
    (h : Generation.ofDocument d s = .ok g) :
    ∃ (names : List String) (u : ClassUnit), d.interfaces.map (·.name) = names.map some ∧
      g.header.contents = u.headerText ∧ g.source.contents = u.sourceText ∧
      u.frame = s.frame ∧ u.Manages s names ∧
      List.Forall₂ (fun a fs => List.Forall₂ Stub.DefinedBy a.stubs fs) g.groups
        u.definitions := by
  obtain ⟨-, api, hapi, rfl⟩ := Generation.ofDocument_eq_ok_iff.1 h
  have hnames : d.interfaces.map (·.name) = (api.interfaces.map (·.name)).map some := by
    rw [List.map_map]
    exact map_eq_map_of_forall₂ (fun _ _ he => he.name) hapi.interfaces
  exact ⟨_, api.classUnit s, hnames, ofApi_headerText api s, ofApi_sourceText api s, rfl,
    Api.classUnit_manages hapi.distinct s, api.definedBy_classUnit s⟩

/-- The interface without a method for the provider has a proxy, too. -/
theorem mixedProviders_managed :
    ∃ (g : Generation) (u : ClassUnit),
      Generation.ofDocument mixedProviders (.initial "hmi.xml" "out") = .ok g ∧
      g.header.contents = u.headerText ∧ g.source.contents = u.sourceText ∧
      u.members = [.declare "UI", .declare "TTS"] ∧ u.released = [.release "UI", .release "TTS"] ∧
      u.created = [
        .create "UI" "com.ford.sdl.core" "/" "com.ford.sdl.core.UI",
        .create "TTS" "com.ford.sdl.core" "/" "com.ford.sdl.core.TTS"] := by
  have h : Generation.ofDocument mixedProviders (.initial "hmi.xml" "out") =
      .ok (.ofApi (.initial "hmi.xml" "out") mixedProvidersApi) := rfl
  obtain ⟨names, u, hnames, hheader, hsource, -, hu, -⟩ := ofDocument_manages h
  obtain rfl : ["UI", "TTS"] = names :=
    List.map_inj_right (fun _ _ => Option.some.inj) |>.1 hnames
  exact ⟨_, u, h, hheader, hsource, hu.members, hu.released, hu.created⟩

end CallerStubs
