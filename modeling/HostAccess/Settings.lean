/-! # Settings

Two choices about the wildcard host. -/
namespace HostAccess

structure Settings where
  /-- Whether a wildcard among a member's hosts matches every host. -/
  honorWildcardHost : Bool := true
  /-- Whether an update may assign the wildcard. -/
  allowWildcardAssignment : Bool := true
deriving DecidableEq

end HostAccess
