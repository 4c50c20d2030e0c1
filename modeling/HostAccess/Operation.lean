import HostAccess.Http.Router
import HostAccess.Store.Migration

/-! # Operations

Everything that the directory can be asked to do, as one type, and runs of it. A run starts from a
store and takes a moment for each of its operations; an operation that fails does not end it. -/
namespace HostAccess

/-- Something that the directory can be asked to do. -/
inductive Operation
  | migrate
  | createMember (new : NewMember)
  | findMember (uid : String)
  | isMember (uid : String)
  | deleteMember (uid : String)
  | listMembers (window : Pagination)
  | rolesOf (uid : String)
  | replaceRoles (uid : String) (roles : RoleSet)
  | holdersOf (role : Role)
  | scopesOf (uid : String)
  | hostsOf (uid : String)
  | replaceScopes (uid : String) (type : ScopeType) (values : HostSet)
  | applyGrants (uid : String) (change : GrantChange)
  | storedGrants (uid : String)
  | hostsIfHeld (uid : String) (role : Role)
  | assign (settings : Settings) (uid : String) (request : GrantRequest)
  | grantsOf (uid : String)
  | canAdminister (settings : Settings) (uid : String) (role : Role) (host : String)
  | canAdministerDay (settings : Settings) (uid slug : String)
  | capabilities (settings : Settings) (uid host : String)
  | createDay (new : NewDemoDay)
  | findDay (slug : String)
  | updateStatus (slug : String) (status : Status)
  | updateHost (slug host : String)
  | daysOn (host : String)
  | serve (settings : Settings) (request : Http.Request)

inductive Answer
  | done
  | flag (b : Bool)
  | member (m : Member)
  | members (page : Page Member)
  | roles (roles : RoleSet)
  | uids (uids : List String)
  | scopes (entries : OrderedSet ScopeEntry)
  | hosts (hosts : HostSet)
  | hostsIfHeld (hosts : Option HostSet)
  | grants (grants : Grants)
  | capabilities (capabilities : Access.CapabilitySet)
  | day (d : DemoDay)
  | days (days : List DemoDay)
  | response (r : Http.Response)

inductive Failure
  | error (e : Error)
  | migration (fault : MigrationFault)
deriving DecidableEq

namespace Operation

def answering {α : Type} (answer : α → Answer) (action : Action Error α) : Action Failure Answer :=
  (do return answer (← action)).mapError .error

def reading {α : Type} (answer : α → Answer) (query : Store → Except Error α) :
    Action Failure Answer :=
  answering answer (Action.read query)

def checking {α : Type} (answer : α → Answer) (check : Store → Audited α) : Action Failure Answer :=
  answering answer (Audited.toAction check)

def doing (action : Action Error Unit) : Action Failure Answer := answering (fun _ => .done) action

def perform : Operation → Action Failure Answer
  | .migrate => (do Migration.run; return .done : Action MigrationFault Answer).mapError .migration
  | .createMember new => answering .member (Members.create new)
  | .findMember uid => reading .member (Members.find uid)
  | .isMember uid => reading .flag (Members.isMember uid)
  | .deleteMember uid => doing (Members.delete uid)
  | .listMembers window => reading .members (Members.list window)
  | .rolesOf uid => reading .roles (Roles.ofMember uid)
  | .replaceRoles uid roles => doing (Roles.replace uid roles)
  | .holdersOf role => reading .uids (Roles.holders role)
  | .scopesOf uid => reading .scopes (Scopes.ofMember uid)
  | .hostsOf uid => reading .hosts (Scopes.hosts uid)
  | .replaceScopes uid type values => doing (Scopes.replace uid type values)
  | .applyGrants uid change => doing (Grants.apply uid change)
  | .storedGrants uid => reading .grants (Grants.ofMember uid)
  | .hostsIfHeld uid role => reading .hostsIfHeld (Grants.hostsIfHeld uid role)
  | .assign settings uid request => doing (Assignment.update settings uid request)
  | .grantsOf uid => reading .grants (Assignment.grantsOf uid)
  | .canAdminister settings uid role host =>
    checking .flag (Access.canAdminister settings uid role host)
  | .canAdministerDay settings uid slug =>
    checking .flag (Access.canAdministerDay settings uid slug)
  | .capabilities settings uid host =>
    checking .capabilities (Access.capabilities settings uid host)
  | .createDay new => answering .day (DemoDays.create new)
  | .findDay slug => reading .day (DemoDays.find slug)
  | .updateStatus slug status => answering .day (DemoDays.updateStatus slug status)
  | .updateHost slug host => answering .day (DemoDays.updateHost slug host)
  | .daysOn host => reading .days (DemoDays.onHost host)
  | .serve settings request =>
    (do return .response (← Http.serve settings request) : Action Empty Answer).mapError nofun

end Operation

/-- Operations, each with the moment at which it happens. -/
abbrev Run := List (Moment × Operation)

namespace Run

def finalStore (s : Store) : Run → Store
  | [] => s
  | (moment, operation) :: rest => finalStore ((operation.perform.run moment s).store) rest

def outcomes (s : Store) : Run → List (Outcome Failure Answer)
  | [] => []
  | (moment, operation) :: rest =>
    let outcome := operation.perform.run moment s
    outcome :: outcomes outcome.store rest

end Run

/-- The store in which the migrations have been applied and nothing else has happened. -/
def Store.fresh : Store := (Migration.run ⟨Instant.epoch, Uuid.ofNat 0⟩ Store.empty).store

end HostAccess
