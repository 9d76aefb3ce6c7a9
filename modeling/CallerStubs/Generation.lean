/-
  Caller stubs — from a document to the generated files.

  The whole generation happens in memory.  It can only fail because of the
  settings or because of the document, in this order.

  * `Generation`: the methods and the two files;
  * `Generation.ofDocument`: the generation of a document;
  * `Generation.notices`: its log.
-/
import CallerStubs.Api.Build
import CallerStubs.ClassFiles

namespace CallerStubs

/-- What a run makes, before it is written. -/
structure Generation where
  groups : List StubGroup
  header : Artifact
  source : Artifact
  deriving DecidableEq, Repr

/-- The class that the settings ask for, as the target of its methods. -/
def Settings.target (s : Settings) : StubTarget where
  release := s.release
  className := s.className
  requestsNamespace := s.requestsNamespace

/-- The methods of all interfaces of a service. -/
def Api.stubGroups (api : Api) (s : Settings) : List StubGroup :=
  api.interfaces.map fun i => i.stubs s.target s.provider

namespace Generation

/-- The number of methods. -/
def requestCount (g : Generation) : Nat :=
  (stubsOf g.groups).length

/-- The files with the methods of these interfaces. -/
def ofGroups (s : Settings) (groups : List StubGroup) : Generation where
  groups := groups
  header := classHeader s.frame groups
  source := classSource s.frame groups

/-- The generation of a service. -/
def ofApi (s : Settings) (api : Api) : Generation :=
  ofGroups s (api.stubGroups s)

/-- The generation of a document. -/
def ofDocument (d : Document) (s : Settings) : Except Fault Generation := do
  (s.check).mapError Fault.settings
  let api ← (Api.build d).mapError Fault.schema
  .ok (ofApi s api)

/-! ## The log -/

/-- The record of a finished generation. -/
def summary (s : Settings) (api : Api) : Notice where
  level := .info
  text :=
    let made := (ofApi s api).requestCount
    let all := api.requestCount
    let interfaces := api.interfaces.length
    s!"Generated {made} of {all} requests across {interfaces} interfaces " ++
      s!"for provider '{s.provider}'"

/-- The log of the generation of a document, as far as it comes. -/
def notices (d : Document) (s : Settings) : List Notice :=
  match s.check with
  | .error _ => []
  | .ok () =>
    Api.buildNotices d ++
      match Api.build d with
      | .error _ => []
      | .ok api => api.interfaces.flatMap (·.exchangeNotices s.provider) ++ [summary s api]

end Generation

end CallerStubs
