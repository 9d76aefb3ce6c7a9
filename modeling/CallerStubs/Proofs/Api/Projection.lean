/-
  Caller stubs — what a service keeps of its document.

  But for base types, which are names in the document and types in the
  service, a service says what its document says: nothing is added, lost, put
  elsewhere or taken from another attribute.  What is said is compared as a
  profile, which documents and services both have.

  * `ParamProfile`, `RequestProfile`, `ResponseProfile`, `InterfaceProfile`:
    what is said of a part of a service;
  * `InterfaceElement.profile`, with those of its parts: what a document says;
  * `Interface.profile`, with those of its parts: what a service says;
  * `build_profile`: both say the same.
-/
import CallerStubs.Proofs.Api.Description

namespace CallerStubs

/-! ## Profiles -/

/-- What is said of a parameter, apart from its base type. -/
structure ParamProfile where
  name : Option String
  mandatory : Bool
  array : Bool
  limits : Limits
  deriving DecidableEq, Repr

/-- What is said of a request. -/
structure RequestProfile where
  name : Option String
  provider : Option String
  params : List ParamProfile
  deriving DecidableEq, Repr

/-- What is said of a response. -/
structure ResponseProfile where
  name : Option String
  provider : Option String
  deriving DecidableEq, Repr

/-- What is said of an interface. -/
structure InterfaceProfile where
  name : Option String
  requests : List RequestProfile
  responses : List ResponseProfile
  deriving DecidableEq, Repr

/-! ## What a document says -/

/-- A parameter is mandatory unless the document says exactly `false`, and an
    array only if it says exactly `true`. -/
def ParamElement.profile (e : ParamElement) : ParamProfile where
  name := e.name
  mandatory := decide (e.mandatory ≠ some "false")
  array := decide (e.array = some "true")
  limits := {
    minValue := e.minValue
    maxValue := e.maxValue
    minLength := e.minLength
    maxLength := e.maxLength
    minSize := e.minSize
    maxSize := e.maxSize }

def FunctionElement.requestProfile (e : FunctionElement) : RequestProfile where
  name := e.name
  provider := e.provider
  params := e.params.map ParamElement.profile

/-- The parameters of a response are not read. -/
def FunctionElement.responseProfile (e : FunctionElement) : ResponseProfile where
  name := e.name
  provider := e.provider

/-- The requests and the responses of both forms, each in document order. -/
def InterfaceElement.profile (e : InterfaceElement) : InterfaceProfile where
  name := e.name
  requests := e.requestElements.map FunctionElement.requestProfile
  responses := e.responseElements.map FunctionElement.responseProfile

/-! ## What a service says -/

def Param.profile (p : Param) : ParamProfile where
  name := some p.name
  mandatory := p.mandatory
  array := p.array
  limits := p.limits

def Request.profile (r : Request) : RequestProfile where
  name := some r.name
  provider := r.provider
  params := r.params.map Param.profile

def Response.profile (r : Response) : ResponseProfile where
  name := some r.name
  provider := r.provider

def Interface.profile (i : Interface) : InterfaceProfile where
  name := some i.name
  requests := i.requests.map Request.profile
  responses := i.responses.map Response.profile

/-! ## Elements and what they describe -/

variable {d : Document} {owner : String}

theorem ParamElement.Describes.profile_eq {e : ParamElement} {p : Param}
    (h : e.Describes d owner p) : e.profile = p.profile := by
  have hmandatory : decide (e.mandatory ≠ some "false") = p.mandatory :=
    Bool.eq_iff_iff.2 (decide_eq_true_iff.trans h.mandatory.symm)
  have harray : decide (e.array = some "true") = p.array :=
    Bool.eq_iff_iff.2 (decide_eq_true_iff.trans h.array.symm)
  rw [profile, Param.profile, h.name, hmandatory, harray, h.limits]
  rfl

theorem FunctionElement.DescribesRequest.profile_eq {e : FunctionElement} {r : Request}
    (h : e.DescribesRequest d owner r) : e.requestProfile = r.profile := by
  have hparams : e.params.map ParamElement.profile = r.params.map Param.profile :=
    map_eq_map_of_forall₂ (fun _ _ hp => hp.profile_eq) h.params
  rw [requestProfile, Request.profile, h.name, h.provider, hparams]

theorem FunctionElement.DescribesResponse.profile_eq {e : FunctionElement} {r : Response}
    (h : e.DescribesResponse r) : e.responseProfile = r.profile := by
  rw [responseProfile, Response.profile, h.name, h.provider]

theorem InterfaceElement.Describes.profile_eq {e : InterfaceElement} {i : Interface}
    (h : e.Describes d i) : e.profile = i.profile := by
  have hrequests : e.requestElements.map FunctionElement.requestProfile =
      i.requests.map Request.profile :=
    map_eq_map_of_forall₂ (fun _ _ hr => hr.profile_eq) h.requests
  have hresponses : e.responseElements.map FunctionElement.responseProfile =
      i.responses.map Response.profile :=
    map_eq_map_of_forall₂ (fun _ _ hr => hr.profile_eq) h.responses
  rw [profile, Interface.profile, h.name, hrequests, hresponses]

/-- **A service says what its document says**, interface for interface. -/
theorem build_profile {d : Document} {api : Api} (h : Api.build d = .ok api) :
    api.interfaces.map Interface.profile = d.interfaces.map InterfaceElement.profile := by
  have hinterfaces := (Api.build_eq_ok_iff.1 h).interfaces
  exact (map_eq_map_of_forall₂ (fun _ _ hi => hi.profile_eq) hinterfaces).symm

/-- Messages of both forms, with and without providers, and parameters with
    limits of several kinds. -/
def limitedRequests : Document where
  interfaces := [
    { name := some "UI"
      items := [
        .response { name := some "Show", messageType := some "request" },
        .request {
          name := some "Show", provider := some ""
          params := [
            { name := some "text", type := some "String", mandatory := some "false"
              minLength := some "1", maxLength := some "500" },
            { name := some "ids", type := some "Integer", mandatory := some "no"
              array := some "true", minValue := some "-5", maxSize := some "" }] },
        .function { name := some "OnShow", messageType := some "notification" },
        .function { name := some "Show", messageType := some "response", provider := some "hmi" },
        .function {
          name := some "Hide", messageType := some "request"
          params := [{ name := some "now", type := some "Boolean", array := some "True" }] }] },
    { name := some "VR" }]

theorem limitedRequests_profile :
    ∃ api, Api.build limitedRequests = .ok api ∧ api.interfaces.map Interface.profile = [
      { name := some "UI"
        requests := [
          { name := some "Show", provider := some ""
            params := [
              { name := some "text", mandatory := false, array := false
                limits := { minLength := some "1", maxLength := some "500" } },
              { name := some "ids", mandatory := true, array := true
                limits := { minValue := some "-5", maxSize := some "" } }] },
          { name := some "Hide", provider := none
            params := [{ name := some "now", mandatory := true, array := false, limits := {} }] }]
        responses := [
          { name := some "Show", provider := none },
          { name := some "Show", provider := some "hmi" }] },
      { name := some "VR", requests := [], responses := [] }] := by
  have h : ∃ api, Api.build limitedRequests = .ok api := ⟨_, rfl⟩
  obtain ⟨api, h⟩ := h
  exact ⟨api, h, (build_profile h).trans rfl⟩

end CallerStubs
