/-
  Caller stubs — the requests and responses of a service.

  * `Request`, `Response`, `Interface`, `Api`: a service as a set of
    interfaces, each with its requests and responses in document order;
  * `Api.requestCount`: the number of requests of a service.
-/
import CallerStubs.Param

namespace CallerStubs

/-- A call that an interface takes. -/
structure Request where
  name : String
  params : List Param := []
  /-- Who answers the request; absent if the document does not say. -/
  provider : Option String := none
  deriving DecidableEq, Repr

/-- An answer that an interface gives. -/
structure Response where
  name : String
  /-- Who gives the answer; absent if the document does not say. -/
  provider : Option String := none
  deriving DecidableEq, Repr

/-- An interface of a service. -/
structure Interface where
  name : String
  requests : List Request := []
  responses : List Response := []
  deriving DecidableEq, Repr

/-- A service. -/
structure Api where
  interfaces : List Interface := []
  deriving DecidableEq, Repr

/-- The number of requests of all interfaces. -/
def Api.requestCount (api : Api) : Nat :=
  (api.interfaces.flatMap (·.requests)).length

end CallerStubs
