import HostAccess.Status

/-! # Errors

Every way in which a request can fail, as a cause with its data, and the one wording of each.
Storage speaks of its own faults first (`StoreError`), the assignment of grants of its own
(`AssignmentError`); both become an `Error`, which is what callers see. -/
namespace HostAccess

/-- What an input is refused for when it is well-formed but not acceptable. -/
inductive InputFault
  | emptyMemberUid
  | emptySlug
  | unknownScopeType (name : String)
  | backwardMove (slug : String) (current next : Status)
  | fixedHost (slug : String) (status : Status)
  | other (message : String)
deriving DecidableEq

def InputFault.message : InputFault → String
  | .emptyMemberUid => "member uid must not be empty"
  | .emptySlug => "demo day slug must not be empty"
  | .unknownScopeType name => "unknown scope type: " ++ name
  | .backwardMove slug current next =>
    "demo day " ++ slug ++ " cannot move from " ++ current.name ++ " to " ++ next.name
  | .fixedHost slug status => "demo day " ++ slug ++ " host is fixed once " ++ status.name
  | .other message => message

/-- Why a row of the store makes no sense, or was not taken. -/
inductive RowFault
  | unknownRole (name : String)
  | unknownStatus (name : String)
  | unknownScopeType (name : String)
  | malformedId
  | refused (reason : String)
deriving DecidableEq

def RowFault.message : RowFault → String
  | .unknownRole name => "unknown stored role: " ++ name
  | .unknownStatus name => "unknown demo day status: " ++ name
  | .unknownScopeType name => "Validation error: unknown scope type: " ++ name
  | .malformedId => "invalid UUID"
  | .refused reason => reason

/-- Faults of the store. -/
inductive StoreError
  /-- The storage engine refused a statement or could not be reached. -/
  | engine (reason : String)
  | migration (reason : String)
  | notFound (entity id : String)
  | invalidRow (fault : RowFault)
  /-- A transaction of several statements was cancelled. -/
  | transaction (reason : String)
deriving DecidableEq

def StoreError.message : StoreError → String
  | .engine reason => "SurrealDB error: " ++ reason
  | .migration reason => "Migration failed: " ++ reason
  | .notFound entity id => "Record not found: " ++ entity ++ " with id " ++ id
  | .invalidRow fault => "Invalid stored row: " ++ fault.message
  | .transaction reason => "Transaction cancelled: " ++ reason

/-- What is known of a storage failure that a caller cannot mend. -/
inductive StorageDetail
  | row (fault : RowFault)
  | text (message : String)
deriving DecidableEq

def StorageDetail.message : StorageDetail → String
  | .row fault => (StoreError.invalidRow fault).message
  | .text message => message

/-- Failures that callers see. -/
inductive Error
  | notFound (entity id : String)
  | alreadyExists (entity : String)
  | unknownRole (name : String)
  | invalidHost (host : String)
  | validation (fault : InputFault)
  /-- The atomic replacement of roles and hosts was rolled back. -/
  | assignmentTransaction (reason : String)
  | database (detail : StorageDetail)
  | internal (reason : String)
deriving DecidableEq

def Error.message : Error → String
  | .notFound entity id => "Entity not found: " ++ entity ++ " with id " ++ id
  | .alreadyExists entity => "Entity already exists: " ++ entity
  | .unknownRole name => "Unknown role: " ++ name
  | .invalidHost host => "Invalid host: " ++ host
  | .validation fault => "Validation error: " ++ fault.message
  | .assignmentTransaction reason => "Assignment transaction failed: " ++ reason
  | .database detail => "Database error: " ++ detail.message
  | .internal reason => "Internal error: " ++ reason

/-- A missing record and a cancelled transaction keep their meaning for callers; every other fault
of the store is a storage failure to them. -/
def StoreError.toError : StoreError → Error
  | .notFound entity id => .notFound entity id
  | .transaction reason => .assignmentTransaction reason
  | .invalidRow fault => .database (.row fault)
  | .engine reason => .database (.text (StoreError.engine reason).message)
  | .migration reason => .database (.text (StoreError.migration reason).message)

/-- What the assignment of grants refuses on its own account. -/
inductive AssignmentError
  | memberNotFound (uid : String)
  | wildcardNotAllowed (host : String)
deriving DecidableEq

def AssignmentError.message : AssignmentError → String
  | .memberNotFound uid => "member not found: " ++ uid
  | .wildcardNotAllowed host => "wildcard host scope is not allowed: " ++ host

/-- A forbidden wildcard is an invalid host to callers. -/
def AssignmentError.toError : AssignmentError → Error
  | .memberNotFound uid => .notFound "member" uid
  | .wildcardNotAllowed host => .invalidHost host

inductive StartupError
  | store (e : StoreError)
  | io (reason : String)
deriving DecidableEq

def StartupError.message : StartupError → String
  | .store e => "directory store unavailable: " ++ e.message
  | .io reason => "I/O error: " ++ reason

end HostAccess
