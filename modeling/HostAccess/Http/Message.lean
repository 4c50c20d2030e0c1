import HostAccess.Event
import HostAccess.Http.MediaType
import HostAccess.Http.Target
import HostAccess.Json.Value

/-! # Requests and responses

What comes in and what goes out, and how an error goes out: with a status, a code, and a message
that tells nothing about storage. -/
namespace HostAccess.Http

structure Request where
  method : String
  target : Target
  contentType : Option String
  body : String
deriving DecidableEq

def isHeaderValue (s : String) : Bool :=
  s.toList.all fun c => (0x20 ≤ c.toNat && c.toNat != 0x7f) || c == '\t'

/-- A request with this method and target, if they can be such. -/
def Request.build? (method target : String) (contentType : Option String) (body : String) :
    Option Request :=
  if !method.isEmpty && method.toList.all isTokenChar && contentType.all isHeaderValue then
    (Target.parse? target).map fun target => ⟨method, target, contentType, body⟩
  else none

inductive Content
  | empty
  | plain (s : String)
  | json (value : Json.Value)

structure Response where
  status : Nat
  content : Content := .empty
  /-- Methods that the target knows, where the method of the request is not one of them. -/
  allow : List String := []

/-- A refusal that no operation has looked at. -/
def Response.refusal (status : Nat) : Response := { status := status }

structure Complaint where
  status : Nat
  code : String
  message : String
deriving DecidableEq

def internalStatus : Nat := 500

def statusAndCode : Error → Nat × String
  | .unknownRole _ => (400, "UNKNOWN_ROLE")
  | .invalidHost _ => (400, "INVALID_HOST")
  | .validation _ => (400, "VALIDATION")
  | .notFound _ _ => (404, "NOT_FOUND")
  | .alreadyExists _ => (409, "ALREADY_EXISTS")
  | .assignmentTransaction _ => (internalStatus, "ASSIGNMENT_TRANSACTION_FAILED")
  | .database _ => (internalStatus, "INTERNAL")
  | .internal _ => (internalStatus, "INTERNAL")

/-- What a caller is told about an error. Internal faults stay in the events. -/
def complaint (e : Error) : Complaint :=
  let (status, code) := statusAndCode e
  ⟨status, code, if status = internalStatus then "internal server error" else e.message⟩

def faultEvent? : Error → Option Event
  | .assignmentTransaction reason => some (.transactionFailed (.assignmentTransaction reason))
  | .database detail => some (.requestFailed (.database detail))
  | .internal reason => some (.requestFailed (.internal reason))
  | _ => none

def Complaint.toValue (c : Complaint) : Json.Value :=
  .object [("code", .text c.code), ("message", .text c.message)]

def Complaint.toResponse (c : Complaint) : Response :=
  { status := c.status, content := .json c.toValue }

end HostAccess.Http
