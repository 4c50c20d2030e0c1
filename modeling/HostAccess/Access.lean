import HostAccess.Directory.DemoDays
import HostAccess.Directory.Grants
import HostAccess.Settings

/-! # Access checks

Whether a member may administer a host or a demo day, and what it may do on a host. A check never
fails: a missing member, an unknown demo day and a store that cannot be read all answer no. -/
namespace HostAccess

/-- An answer together with the events that were reported on the way. -/
structure Audited (α : Type) where
  value : α
  events : List Event

namespace Audited

/-- A computation of an audited answer as an action, which leaves the store as it is. -/
def toAction {ε α : Type} (check : Store → Audited α) : Action ε α := fun _ s =>
  ⟨.ok (check s).value, s, (check s).events⟩

end Audited

namespace Access

/-- Whether one of these hosts matches a target, exactly or as an honored wildcard. -/
def hostMatches (settings : Settings) (hosts : HostSet) (target : String) : Bool :=
  hosts.contains target || (settings.honorWildcardHost && hosts.contains Host.wildcard)

/-- Whether a member holds a role and has a host that matches. -/
def canAdminister (settings : Settings) (uid : String) (role : Role) (host : String) (s : Store) :
    Audited Bool :=
  match Grants.hostsIfHeld uid role s with
  | .ok (some hosts) =>
    let allowed := hostMatches settings hosts host
    ⟨allowed, [.accessChecked uid role host allowed]⟩
  | .ok none => ⟨false, []⟩
  | .error e => ⟨false, [.accessReadFailed uid e]⟩

/-- Whether a member may administer the demo day of a slug, which is matched by its host. -/
def canAdministerDay (settings : Settings) (uid slug : String) (s : Store) : Audited Bool :=
  match DemoDays.find slug s with
  | .ok day => canAdminister settings uid .demoDayAdmin day.host s
  | .error e => ⟨false, [.dayLookupFailed slug e]⟩

abbrev CapabilitySet := OrderedSet Capability

/-- What grants are good for on a host. A role that requires a host scope counts if a host matches,
any other role counts everywhere. -/
def usable (settings : Settings) (grants : Grants) (host : String) : CapabilitySet :=
  -- Hosts are matched once: every role that needs a host is matched by the same ones.
  let matched := hostMatches settings grants.hosts host
  OrderedSet.ofList
    ((grants.roles.toList.filter fun role => !role.requiresHostScope || matched).flatMap
      Role.capabilities)

def capabilities (settings : Settings) (uid host : String) (s : Store) : Audited CapabilitySet :=
  match Grants.ofMember uid s with
  | .ok grants => ⟨usable settings grants host, []⟩
  | .error e => ⟨OrderedSet.empty, [.capabilityLookupFailed uid e]⟩

end Access

end HostAccess
