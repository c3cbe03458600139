import ApiMapping.Gateway.Handling
import ApiMapping.Http.Syntax

/-!
# The HTTP front

Every request that is valid HTTP and not too large is handled by the gateway, except
that `GET /health` tells how the gateway is doing unless a mapping claims it.
-/

namespace ApiMapping
namespace Gateway

/-- Served with the gateway's health. -/
def healthPath : String := "/health"

/-- A request that is valid HTTP. Header names are in lower case, and headers whose
values are not visible are left out. -/
structure HttpRequest where
  method : String
  target : Http.RequestTarget
  headers : List (String × String)
  body : ByteArray

namespace HttpRequest

/-- `none` if method, URI or headers are not valid HTTP. -/
def ofInbound? (r : InboundRequest) : Option HttpRequest := do
  let target ← Http.Uri.parse? r.uri
  let validHeader (h : String × String) : Bool := Http.isHeaderName h.1 && Http.isHeaderValue h.2
  if !(Http.isMethod r.method && r.headers.all validHeader) then none
  let visible := r.headers.filter fun h => Http.isVisible h.2
  return ⟨r.method, target, visible.map fun (name, value) => (Text.lower name, value), r.body⟩

def toInbound (r : HttpRequest) : InboundRequest := ⟨r.method, r.target.uri, r.headers, r.body⟩

end HttpRequest

/-- Statuses that HTTP can carry; any other becomes a server error. -/
def httpStatus (status : UInt16) : UInt16 := if 100 ≤ status && status ≤ 999 then status else 500

/-- A reply as it is sent. Headers that are not valid HTTP are left out. -/
def toHttp (r : OutboundResponse) : OutboundResponse :=
  let valid := r.headers.filter fun h => Http.isHeaderName h.1 && Http.isHeaderValue h.2
  ⟨httpStatus r.status, valid.map fun (name, value) => (Text.lower name, value), r.body⟩

/-- The reply to a body that is too large. -/
def tooLarge : OutboundResponse :=
  ⟨413, [("content-type", "text/plain; charset=utf-8")],
    "Failed to buffer the request body: length limit exceeded".toUTF8⟩

def countersJson (c : Counters) : Json := .object [
  ("requests_total", Json.ofNat c.total.toNat),
  ("requests_mapped", Json.ofNat c.mapped.toNat),
  ("target_errors", Json.ofNat c.targetErrors.toNat),
  ("unmatched_requests", Json.ofNat c.unmatched.toNat)]

def health (g : Gateway) (c : Counters) : OutboundResponse :=
  .ofJson 200 (.object [
    ("status", .string "healthy"),
    ("endpoints", Json.ofNat g.endpoints.length),
    ("stats", countersJson c)])

/-- The request asks for the gateway's health, and no mapping claims that path. -/
def asksHealth (g : Gateway) (r : HttpRequest) : Bool :=
  r.method == "GET" && r.target.path == healthPath && (g.find? "GET" healthPath).isNone

/-- Serve one request. -/
def serve (g : Gateway) (counters : Counters) (freshId : String) (elapsed : Nat)
    (target : TargetRequest → TargetResult) (r : HttpRequest) : Handled :=
  if r.body.size > g.settings.maxBodySize.toNat then ⟨tooLarge, [], none, counters⟩
  else if g.asksHealth r then ⟨g.health counters, [], none, counters⟩
  else
    let handled := g.handle counters freshId elapsed target r.toInbound
    { handled with response := toHttp handled.response }

end Gateway
end ApiMapping
