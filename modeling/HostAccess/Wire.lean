import HostAccess.Json.Decode
import HostAccess.Model

/-! # Wire forms

The JSON form of every model: how it is written, and how it is read. A record is written as an
object with its fields in order; it is read from an object with other fields passed over, or from
the list of all its fields. -/
namespace HostAccess.Wire

open Json

/-- A type with a written form and a reading of it. -/
class Codec (α : Type) where
  encode : α → Value
  decode : Decoder α

export Codec (encode decode)

instance : Codec String := ⟨.text, text⟩

instance : Codec (Option String) where
  encode := fun
    | some s => .text s
    | none => .null
  decode := optional text

instance : Codec Role := ⟨fun r => .text r.name, oneOf Role.ofName?⟩

instance : Codec Capability := ⟨fun c => .text c.name, oneOf Capability.ofName?⟩

instance : Codec ScopeType := ⟨fun t => .text t.name, oneOf ScopeType.ofName?⟩

instance : Codec Status := ⟨fun s => .text s.name, oneOf Status.ofName?⟩

instance : Codec Uuid := ⟨fun id => .text id.text, textAs Uuid.parse?⟩

instance : Codec Instant := ⟨fun i => .text i.text, textAs Instant.parse?⟩

instance {α : Type} [Ord α] [Std.TransOrd α] [Std.LawfulEqOrd α] [Codec α] :
    Codec (OrderedSet α) where
  encode s := .list (s.toList.map encode)
  decode := set decode

def field (α : Type) [Codec α] (name : String) : FieldCheck := ⟨name, Decoder.check (α := α) decode⟩

/-- The layout of a record that passes over fields it does not know. -/
def record (fields : List FieldCheck) : Layout := ⟨fields, true, false⟩

instance : Codec ScopeEntry where
  encode e := .object [("member_uid", encode e.memberUid), ("scope_type", encode e.scopeType),
    ("scope_value", encode e.value)]
  decode draft := do
    let fields ← supplied (record [field String "member_uid", field ScopeType "scope_type",
      field String "scope_value"]) draft
    return ⟨← required fields "member_uid" decode, ← required fields "scope_type" decode,
      ← required fields "scope_value" decode⟩

instance : Codec Member where
  encode m := .object [("uid", encode m.uid), ("name", encode m.name), ("email", encode m.email),
    ("created_at", encode m.createdAt), ("updated_at", encode m.updatedAt)]
  decode draft := do
    let fields ← supplied (record [field String "uid", field String "name",
      field (Option String) "email", field Instant "created_at", field Instant "updated_at"]) draft
    return ⟨← required fields "uid" decode, ← required fields "name" decode,
      ← absentable fields "email" text, ← required fields "created_at" decode,
      ← required fields "updated_at" decode⟩

instance : Codec NewMember where
  encode m := .object [("uid", encode m.uid), ("name", encode m.name), ("email", encode m.email)]
  decode draft := do
    let fields ← supplied (record [field String "uid", field String "name",
      field (Option String) "email"]) draft
    return ⟨← required fields "uid" decode, ← required fields "name" decode,
      ← absentable fields "email" text⟩

instance : Codec DemoDay where
  encode d := .object [("id", encode d.id), ("slug_url", encode d.slug), ("name", encode d.name),
    ("host", encode d.host), ("status", encode d.status), ("created_at", encode d.createdAt),
    ("updated_at", encode d.updatedAt)]
  decode draft := do
    let fields ← supplied (record [field Uuid "id", field String "slug_url", field String "name",
      field String "host", field Status "status", field Instant "created_at",
      field Instant "updated_at"]) draft
    return ⟨← required fields "id" decode, ← required fields "slug_url" decode,
      ← required fields "name" decode, ← required fields "host" decode,
      ← required fields "status" decode, ← required fields "created_at" decode,
      ← required fields "updated_at" decode⟩

instance : Codec NewDemoDay where
  encode d := .object [("slug_url", encode d.slug), ("name", encode d.name),
    ("host", encode d.host)]
  decode draft := do
    let fields ← supplied (record [field String "slug_url", field String "name",
      field String "host"]) draft
    return ⟨← required fields "slug_url" decode, ← required fields "name" decode,
      ← required fields "host" decode⟩

instance : Codec Grants where
  encode g := .object [("roles", encode g.roles), ("hosts", encode g.hosts)]
  decode draft := do
    let fields ← supplied (record [field RoleSet "roles", field HostSet "hosts"]) draft
    return ⟨← required fields "roles" decode, ← required fields "hosts" decode⟩

def write {α : Type} [Codec α] (a : α) : String := (encode a).render

def read {α : Type} [Codec α] (s : String) : Except Fault α := decodeText decode s

end HostAccess.Wire
