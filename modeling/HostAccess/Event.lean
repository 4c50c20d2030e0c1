import HostAccess.Role

/-! # Events

What an operation reports while it runs. An event is written with a level, a message and named
fields; a field whose content is an internal fault is withheld from the written form. -/
namespace HostAccess

inductive Level
  | debug
  | info
  | warn
  | error
deriving DecidableEq

def Level.name : Level → String
  | .debug => "DEBUG"
  | .info => "INFO"
  | .warn => "WARN"
  | .error => "ERROR"

inductive FieldValue
  | text (s : String)
  | flag (b : Bool)
  | number (n : Nat)
  | withheld (e : Error)
deriving DecidableEq

/-- Something that was done or went wrong. -/
inductive Event
  | grantChangeCommitted (uid : String)
  /-- Sizes of the sets that were written; a dimension that was left alone has none. -/
  | grantsUpdated (uid : String) (roles hosts : Option Nat)
  | memberDeleted (uid : String)
  | dayCreated (slug host : String)
  | accessChecked (uid : String) (role : Role) (host : String) (allowed : Bool)
  | accessReadFailed (uid : String) (e : Error)
  | dayLookupFailed (slug : String) (e : Error)
  | capabilityLookupFailed (uid : String) (e : Error)
  | updateRequested (uid : String)
  | transactionFailed (e : Error)
  | requestFailed (e : Error)
  | migrationStarted (version : Nat) (name : String)
  | migrationApplied (version : Nat)
deriving DecidableEq

namespace Event

def level : Event → Level
  | .grantChangeCommitted .. => .debug
  | .grantsUpdated .. => .info
  | .memberDeleted .. => .info
  | .dayCreated .. => .info
  | .accessChecked .. => .debug
  | .accessReadFailed .. => .warn
  | .dayLookupFailed .. => .debug
  | .capabilityLookupFailed .. => .warn
  | .updateRequested .. => .debug
  | .transactionFailed .. => .error
  | .requestFailed .. => .error
  | .migrationStarted .. => .info
  | .migrationApplied .. => .info

def message : Event → String
  | .grantChangeCommitted .. => "Grant change committed"
  | .grantsUpdated .. => "Member roles and hosts updated"
  | .memberDeleted .. => "Member deleted"
  | .dayCreated .. => "Demo day created"
  | .accessChecked .. => "Access check"
  | .accessReadFailed .. => "Access check read failed"
  | .dayLookupFailed .. => "Demo day lookup failed"
  | .capabilityLookupFailed .. => "Capability lookup failed"
  | .updateRequested .. => "Member roles update requested"
  | .transactionFailed .. => "Assignment transaction failed"
  | .requestFailed .. => "Internal error"
  | .migrationStarted .. => "Applying migration"
  | .migrationApplied .. => "Migration applied"

def countText : Option Nat → String
  | some n => "Some(" ++ n.repr ++ ")"
  | none => "None"

def fields : Event → List (String × FieldValue)
  | .grantChangeCommitted uid => [("member_uid", .text uid)]
  | .grantsUpdated uid roles hosts =>
    [("member_uid", .text uid), ("roles", .text (countText roles)),
      ("hosts", .text (countText hosts))]
  | .memberDeleted uid => [("member_uid", .text uid)]
  | .dayCreated slug host => [("slug_url", .text slug), ("host", .text host)]
  | .accessChecked uid role host allowed =>
    [("member_uid", .text uid), ("role", .text role.name), ("host", .text host),
      ("allowed", .flag allowed)]
  | .accessReadFailed uid e => [("member_uid", .text uid), ("error", .withheld e)]
  | .dayLookupFailed slug e => [("slug_url", .text slug), ("error", .withheld e)]
  | .capabilityLookupFailed uid e => [("member_uid", .text uid), ("error", .withheld e)]
  | .updateRequested uid => [("member_uid", .text uid)]
  | .transactionFailed e => [("error", .withheld e)]
  | .requestFailed e => [("error", .withheld e)]
  | .migrationStarted version name => [("version", .number version), ("name", .text name)]
  | .migrationApplied version => [("version", .number version)]

end Event

end HostAccess
