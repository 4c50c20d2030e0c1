import HostAccess.Text.Percent
import HostAccess.Text.Split

/-! # Queries

A query is a list of names with values, written as a form. -/
namespace HostAccess.Http.Query

/-- One pair. A name without an equals sign has the empty value. -/
def pair (cs : List Char) : String × String :=
  let name := cs.takeWhile (· != '=')
  (Text.formDecode (String.ofList name),
    Text.formDecode (String.ofList (cs.drop (name.length + 1))))

def pairs (cs : List Char) : List (String × String) :=
  ((Text.parts '&' cs).filter (!·.isEmpty)).map pair

def single (query : List (String × String)) (name : String) : Option String :=
  match query.filter (·.1 == name) with
  | [(_, value)] => some value
  | _ => none

end HostAccess.Http.Query
