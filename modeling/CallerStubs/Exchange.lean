/-
  Caller stubs — requests and the responses that answer them.

  For the provider that answers a stub's requests, every request that names
  this provider takes part, together with the first response that correlates
  with it.  A response that names no provider may come from anyone.

  * `Exchange`: a request and its response, if it has one;
  * `Interface.exchanges`: the exchanges of an interface with a provider;
  * `Interface.exchangeNotices`: the log of finding them.
-/
import CallerStubs.Api.Basic
import CallerStubs.Notice
import CallerStubs.Text.Quoted

namespace CallerStubs

/-- A request and the response that answers it.  A request without a response
    is sent and forgotten. -/
structure Exchange where
  request : Request
  response : Option Response
  deriving DecidableEq, Repr

/-- Does the provider answer the request? -/
def Request.takesPart (r : Request) (provider : String) : Bool :=
  r.provider == some provider

/-- Can the response be the provider's answer to a request of this name? -/
def Response.correlates (r : Response) (request provider : String) : Bool :=
  r.name == request && (r.provider.isNone || r.provider == some provider)

namespace Interface

/-- The responses that can answer a request of this name, in document order. -/
def candidates (i : Interface) (request provider : String) : List Response :=
  i.responses.filter (·.correlates request provider)

/-- The requests that the provider answers. -/
def participants (i : Interface) (provider : String) : List Request :=
  i.requests.filter (·.takesPart provider)

/-- The exchange of a request: the first candidate answers it. -/
def exchange (i : Interface) (provider : String) (r : Request) : Exchange where
  request := r
  response := (i.candidates r.name provider).head?

/-- The exchanges with a provider, in the order of the requests. -/
def exchanges (i : Interface) (provider : String) : List Exchange :=
  (i.participants provider).map (i.exchange provider)

/-- The position of the response that answers a request. -/
def responseIndex? (i : Interface) (provider : String) (r : Request) : Option Nat :=
  i.responses.findIdx? (·.correlates r.name provider)

/-! ## The log -/

/-- The records of a request: one if it does not take part, one if nothing
    answers it, and one if several responses could. -/
def requestNotices (i : Interface) (provider : String) (r : Request) : List Notice :=
  let name := s!"{i.name}.{r.name}"
  if r.takesPart provider then
    match (i.candidates r.name provider).length with
    | 0 => [⟨.debug, s!"{name} has no response"⟩]
    | 1 => []
    | n => [⟨.warn, s!"{name} matches {n} responses; using the first one declared"⟩]
  else
    let declared := Text.quotedOption r.provider
    [⟨.debug, s!"Skipping {name}: provider {declared} is not '{provider}'"⟩]

/-- The records of all requests, in their order. -/
def exchangeNotices (i : Interface) (provider : String) : List Notice :=
  i.requests.flatMap (i.requestNotices provider)

end Interface

end CallerStubs
