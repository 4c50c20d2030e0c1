import HostAccess.Access
import HostAccess.Assignment
import HostAccess.Http.Message
import HostAccess.Http.Query
import HostAccess.Wire

/-! # Router

Which operation a request stands for. A path is matched as it is written, and what it names is
decoded afterwards. The parts of a request are understood in a fixed order: the names in the path,
then the query or the type of the content, then the content. -/
namespace HostAccess.Http

/-- What a path leads to, with the names in it still encoded. -/
inductive Route
  | health
  | grants (uid : String)
  | access (uid : String)
  | dayAccess (uid slug : String)
deriving DecidableEq

namespace Route

def ofPath? (path : List Char) : Option Route :=
  match (Text.parts '/' path).map String.ofList with
  | ["", "health"] => some .health
  | ["", "v1", "admin", "members", uid, "roles"] => some (.grants uid)
  | ["", "v1", "admin", "members", uid, "access"] => some (.access uid)
  | ["", "v1", "admin", "members", uid, "demo-days", slug, "access"] => some (.dayAccess uid slug)
  | _ => none

def methods : Route → List String
  | .grants _ => ["GET", "HEAD", "PATCH"]
  | _ => ["GET", "HEAD"]

end Route

def maxContent : Nat := 2 * 1024 * 1024

/-- The fields of a wanted change of grants. Other fields are refused. -/
def changeLayout : Json.Layout where
  fields := [⟨"roles", (Json.optional (Json.list Json.text)).check⟩,
    ⟨"hosts", (Json.optional (Json.list Json.text)).check⟩]
  passesOver := false
  mayEndEarly := true

def decodeChange : Json.Decoder GrantRequest := fun draft => do
  let fields ← Json.supplied changeLayout draft
  return ⟨← Json.absentable fields "roles" (Json.list Json.text),
    ← Json.absentable fields "hosts" (Json.list Json.text)⟩

/-- Whether content is announced as JSON. Only visible ASCII announces anything. -/
def announcesJson (contentType : Option String) : Bool :=
  match contentType with
  | none => false
  | some s => (s.toList.all fun c => c.toNat < 0x7f) && (MediaType.parse? s).any MediaType.isJson

/-- The change that a request wants, or the status that refuses its content. -/
def requestedChange (request : Request) : Except Nat GrantRequest :=
  -- The type is looked at before the length, and the length before the content.
  if !announcesJson request.contentType then .error 415
  else if maxContent < request.body.utf8ByteSize then .error 413
  else
    match Json.decodeText decodeChange request.body with
    | .ok change => .ok change
    | .error .malformed => .error 400
    | .error .mismatched => .error 422

def complain (action : Action Error Response) : Action Empty Response := do
  match ← action.attempt with
  | .ok response => return response
  | .error e =>
    if let some event := faultEvent? e then Action.report event
    return (complaint e).toResponse

def verdict (allowed : Bool) : Response :=
  { status := 200, content := .json (.object [("allowed", .bool allowed)]) }

def patchGrants (settings : Settings) (uid : String) (change : GrantRequest) :
    Action Error Response := do
  Action.report (.updateRequested uid)
  Assignment.update settings uid change
  return { status := 204 }

def getGrants (uid : String) : Action Error Response := do
  let grants ← Action.read (Assignment.grantsOf uid)
  return { status := 200, content := .json (Wire.encode grants) }

def getAccess (settings : Settings) (uid role host : String) : Action Error Response := do
  let role ← Action.ofExcept (Role.parse role)
  return verdict (← Audited.toAction (Access.canAdminister settings uid role host))

def getDayAccess (settings : Settings) (uid slug : String) : Action Error Response := do
  return verdict (← Audited.toAction (Access.canAdministerDay settings uid slug))

def get (settings : Settings) (route : Route) (query : List Char) : Action Empty Response :=
  match route with
  | .health => return { status := 200, content := .plain "ok" }
  | .grants uid =>
    match Text.percentDecode? uid with
    | some uid => complain (getGrants uid)
    | none => return .refusal 400
  | .access uid =>
    let pairs := Query.pairs query
    match Text.percentDecode? uid, Query.single pairs "role", Query.single pairs "host" with
    | some uid, some role, some host => complain (getAccess settings uid role host)
    | _, _, _ => return .refusal 400
  | .dayAccess uid slug =>
    match Text.percentDecode? uid, Text.percentDecode? slug with
    | some uid, some slug => complain (getDayAccess settings uid slug)
    | _, _ => return .refusal 400

/-- Carry out a request for a change, which only grants know. -/
def patch (settings : Settings) (uid : String) (request : Request) : Action Empty Response :=
  match Text.percentDecode? uid, requestedChange request with
  | none, _ => return .refusal 400
  | some _, .error status => return .refusal status
  | some uid, .ok change => complain (patchGrants settings uid change)

/-- Carry out a request. A request for the head of a response is one for reading whose content is
left out. -/
def serve (settings : Settings) (request : Request) : Action Empty Response :=
  match Route.ofPath? request.target.path with
  | none => return .refusal 404
  | some route =>
    match request.method, route with
    | "GET", _ => get settings route request.target.query
    | "HEAD", _ => do
      let response ← get settings route request.target.query
      return { response with content := .empty }
    | "PATCH", .grants uid => patch settings uid request
    | _, _ => return { status := 405, allow := route.methods }

end HostAccess.Http
