import HostAccess.Settings
import HostAccess.Text.Blank
import HostAccess.Text.Quoted

/-! # Configuration

What a server is told by its environment: where it listens, how it reaches its store, and how it
treats the wildcard. A variable that is not set leaves the default, and so does a flag that cannot
be read. -/
namespace HostAccess

/-- How the store is reached. -/
structure StoreAccess where
  url : String := "127.0.0.1:8000"
  space : String := "dirgate"
  database : String := "directory"
  username : String := "root"
  password : String := "root"
deriving DecidableEq

namespace StoreAccess

def hiddenPassword : String := "***"

def describe (a : StoreAccess) : String :=
  "DbConfig \x7b url: " ++ Text.quoted a.url ++ ", namespace: " ++ Text.quoted a.space ++
    ", database: " ++ Text.quoted a.database ++ ", username: " ++ Text.quoted a.username ++
    ", password: " ++ Text.quoted hiddenPassword ++ " \x7d"

end StoreAccess

structure Configuration where
  address : String := "0.0.0.0:8080"
  store : StoreAccess := {}
  settings : Settings := {}
deriving DecidableEq

namespace Configuration

def flag? (s : String) : Option Bool :=
  let word := String.ofList ((Text.trim s.toList).map Char.toLower)
  if ["1", "true", "yes", "on"].contains word then some true
  else if ["0", "false", "no", "off"].contains word then some false
  else none

def ofLookup (lookup : String → Option String) : Configuration :=
  let fallback : Configuration := {}
  let text (name : String) (unset : String) := (lookup name).getD unset
  let flag (name : String) (unset : Bool) := ((lookup name).bind flag?).getD unset
  { address := text "DIRGATE_BIND_ADDR" fallback.address
    store :=
      { url := text "DIRGATE_DB_URL" fallback.store.url
        space := text "DIRGATE_DB_NAMESPACE" fallback.store.space
        database := text "DIRGATE_DB_DATABASE" fallback.store.database
        username := text "DIRGATE_DB_USERNAME" fallback.store.username
        password := text "DIRGATE_DB_PASSWORD" fallback.store.password }
    settings :=
      { honorWildcardHost :=
          flag "DIRGATE_HONOR_WILDCARD_HOST" fallback.settings.honorWildcardHost
        allowWildcardAssignment :=
          flag "DIRGATE_ALLOW_WILDCARD_ASSIGNMENT" fallback.settings.allowWildcardAssignment } }

end Configuration

end HostAccess
