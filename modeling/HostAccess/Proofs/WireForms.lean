import HostAccess.Access
import HostAccess.Proofs.Actions
import HostAccess.Proofs.Documents
import HostAccess.Proofs.Instants
import HostAccess.Wire

/-! # Wire forms without loss

Every value that this library writes as JSON is decoded to itself again: names of a closed choice,
UUIDs and instants by their own texts, sets by their canonical lists, and records field by field. So
a document that can be read may be replaced by what is written of its value. The written text depends
on nothing else, whichever spelling the document had, and stays the same from then on. -/
namespace HostAccess

namespace Json

/-! ## Records -/

/-- What an object supplies that is written with these fields. -/
def supply : List (String × Value) → Supplied
  | [] => []
  | (name, value) :: rest => (name, Draft.ofValue value) :: supply rest

/-- Whether a layout knows a field of this name, and the value meets its check. -/
def Layout.Meets (layout : Layout) (name : String) (value : Value) : Prop :=
  (layout.fields.find? (·.name == name)).map (·.check (Draft.ofValue value)) = some (.ok ())

theorem walkFields_ofFields {layout : Layout} {fields : List (String × Value)} (seen : Supplied)
    (met : ∀ f ∈ fields, layout.Meets f.1 f.2) (distinct : (fields.map Prod.fst).Nodup)
    (fresh : ∀ name ∈ fields.map Prod.fst, ∀ earlier ∈ seen, earlier.1 ≠ name) :
    walkFields layout seen (Draft.ofFields fields) = .ok ((supply fields).reverse ++ seen) := by
  induction fields generalizing seen with
  | nil => rfl
  | cons field rest ih =>
    obtain ⟨name, value⟩ := field
    obtain ⟨known, finds, checked⟩ :=
      Option.map_eq_some_iff.mp (met (name, value) List.mem_cons_self)
    have ⟨apart, distinctRest⟩ := List.nodup_cons.mp distinct
    have first : seen.any (·.1 == name) = false := by
      simpa using fun earlier draft member => fresh name List.mem_cons_self (earlier, draft) member
    have others := ih ((name, Draft.ofValue value) :: seen)
      (fun f member => met f (List.mem_cons_of_mem _ member)) distinctRest (by
        intro other member earlier before
        obtain rfl | before := List.mem_cons.mp before
        · rintro rfl
          exact apart member
        · exact fresh other (List.mem_cons_of_mem _ member) earlier before)
    rw [Draft.ofFields, walkFields]
    simp only [text, String.ofList_toList, finds, first, checked, bind, Except.bind]
    rw [if_neg Bool.false_ne_true]
    simp only [others, supply, List.reverse_cons, List.append_assoc, List.singleton_append]

/-- What is read of an object whose fields are known, each written once and meeting its check. -/
theorem supplied_written {layout : Layout} {fields : List (String × Value)}
    (met : ∀ f ∈ fields, layout.Meets f.1 f.2) (distinct : (fields.map Prod.fst).Nodup) :
    supplied layout (Draft.ofValue (.object fields)) = .ok (supply fields).reverse := by
  have walked := walkFields_ofFields [] met distinct (by simp)
  rw [List.append_nil] at walked
  simp only [Draft.ofValue, supplied, walked, bind, Except.bind, if_true]

end Json

namespace Wire

open Json

/-- A type of which every element is decoded from its written form. -/
class Lossless (α : Type) [Codec α] : Prop where
  recovers : ∀ a : α, decode (Draft.ofValue (encode a)) = .ok a

export Lossless (recovers)

theorem text_written (s : String) : text (Draft.ofValue (.text s)) = .ok s := by
  rw [Draft.ofValue, text, String.ofList_toList]

theorem textAs_written {α : Type} {parse? : String → Option α} {s : String} {a : α}
    (parses : parse? s = some a) : textAs parse? (Draft.ofValue (.text s)) = .ok a := by
  rw [textAs, text_written]
  simp only [bind, Except.bind, parses]

theorem oneOf_written {α : Type} {parse? : String → Option α} {s : String} {a : α}
    (parses : parse? s = some a) : oneOf parse? (Draft.ofValue (.text s)) = .ok a :=
  textAs_written parses

instance : Lossless String := ⟨text_written⟩

instance : Lossless (Option String) where
  recovers
    | none => rfl
    | some s => by
      change (text (Draft.ofValue (.text s))).map some = .ok (some s)
      rw [text_written]
      rfl

instance : Lossless Role := ⟨fun r => oneOf_written r.ofName?_name⟩

instance : Lossless Capability := ⟨fun c => oneOf_written c.ofName?_name⟩

instance : Lossless ScopeType := ⟨fun t => oneOf_written t.ofName?_name⟩

instance : Lossless Status := ⟨fun s => oneOf_written s.ofName?_name⟩

instance : Lossless Uuid := ⟨fun id => textAs_written id.parse?_text⟩

instance : Lossless Instant := ⟨fun i => textAs_written i.parse?_text⟩

theorem items_written {α : Type} [Codec α] [Lossless α] (as : List α) :
    items decode (Draft.ofItems (as.map encode)) = .ok as := by
  induction as with
  | nil => rfl
  | cons a as ih =>
    rw [List.map_cons, Draft.ofItems, items, recovers, ih]
    rfl

instance {α : Type} [Ord α] [Std.TransOrd α] [Std.LawfulEqOrd α] [Codec α] [Lossless α] :
    Lossless (OrderedSet α) where
  recovers s := by
    change Json.set decode (.list (Draft.ofItems (s.toList.map encode)) true) = .ok s
    rw [Json.set, list, items_written]
    exact congrArg Except.ok s.ofList_toList

theorem record_written {α : Type} {layout : Layout} {fields : List (String × Value)}
    {build : Supplied → Except Fault α} {a : α} (met : ∀ f ∈ fields, layout.Meets f.1 f.2)
    (distinct : (fields.map Prod.fst).Nodup) (built : build (supply fields).reverse = .ok a) :
    (supplied layout (Draft.ofValue (.object fields)) >>= build) = .ok a := by
  rw [supplied_written met distinct]
  exact built

@[simp] theorem field_name {α : Type} [Codec α] (name : String) : (field α name).name = name := rfl

@[simp] theorem field_check {α : Type} [Codec α] [Lossless α] (name : String) (a : α) :
    (field α name).check (Draft.ofValue (encode a)) = .ok () := by
  change (decode (Draft.ofValue (encode a))).map _ = .ok ()
  rw [recovers]
  rfl

instance : Lossless ScopeEntry where
  recovers e := by
    refine record_written ?met ?distinct ?built
    case met => simp [Layout.Meets, record]
    case distinct => simp
    case built => simp [required, supply, recovers, Functor.map, Except.map]

instance : Lossless Member where
  recovers m := by
    refine record_written ?met ?distinct ?built
    case met => simp [Layout.Meets, record]
    case distinct => simp
    case built =>
      have email : optional text (Draft.ofValue (encode m.email)) = .ok m.email := recovers m.email
      simp [required, absentable, supply, recovers, email, Functor.map, Except.map]

instance : Lossless NewMember where
  recovers m := by
    refine record_written ?met ?distinct ?built
    case met => simp [Layout.Meets, record]
    case distinct => simp
    case built =>
      have email : optional text (Draft.ofValue (encode m.email)) = .ok m.email := recovers m.email
      simp [required, absentable, supply, recovers, email, Functor.map, Except.map]

instance : Lossless DemoDay where
  recovers d := by
    refine record_written ?met ?distinct ?built
    case met => simp [Layout.Meets, record]
    case distinct => simp
    case built => simp [required, supply, recovers, Functor.map, Except.map]

instance : Lossless NewDemoDay where
  recovers d := by
    refine record_written ?met ?distinct ?built
    case met => simp [Layout.Meets, record]
    case distinct => simp
    case built => simp [required, supply, recovers, Functor.map, Except.map]

instance : Lossless Grants where
  recovers g := by
    refine record_written ?met ?distinct ?built
    case met => simp [Layout.Meets, record]
    case distinct => simp
    case built => simp [required, supply, recovers, Functor.map, Except.map]

theorem read_write {α : Type} [Codec α] [Lossless α] (a : α) : read (write a) = .ok a := by
  rw [read, write, decodeText_render, recovers]

/-! ## Documents -/

/-- The kinds of values that documents hold. -/
inductive Kind
  | scopeEntry
  | roles
  | capabilities
  | scopeEntries
  | demoDay
  | newDemoDay
  | member
  | newMember
  | grants

def Kind.Carrier : Kind → Type
  | .scopeEntry => ScopeEntry
  | .roles => RoleSet
  | .capabilities => Access.CapabilitySet
  | .scopeEntries => OrderedSet ScopeEntry
  | .demoDay => DemoDay
  | .newDemoDay => NewDemoDay
  | .member => Member
  | .newMember => NewMember
  | .grants => Grants

instance : (kind : Kind) → Codec kind.Carrier
  | .scopeEntry => inferInstanceAs (Codec ScopeEntry)
  | .roles => inferInstanceAs (Codec RoleSet)
  | .capabilities => inferInstanceAs (Codec Access.CapabilitySet)
  | .scopeEntries => inferInstanceAs (Codec (OrderedSet ScopeEntry))
  | .demoDay => inferInstanceAs (Codec DemoDay)
  | .newDemoDay => inferInstanceAs (Codec NewDemoDay)
  | .member => inferInstanceAs (Codec Member)
  | .newMember => inferInstanceAs (Codec NewMember)
  | .grants => inferInstanceAs (Codec Grants)

instance : (kind : Kind) → Lossless kind.Carrier
  | .scopeEntry => inferInstanceAs (Lossless ScopeEntry)
  | .roles => inferInstanceAs (Lossless RoleSet)
  | .capabilities => inferInstanceAs (Lossless Access.CapabilitySet)
  | .scopeEntries => inferInstanceAs (Lossless (OrderedSet ScopeEntry))
  | .demoDay => inferInstanceAs (Lossless DemoDay)
  | .newDemoDay => inferInstanceAs (Lossless NewDemoDay)
  | .member => inferInstanceAs (Lossless Member)
  | .newMember => inferInstanceAs (Lossless NewMember)
  | .grants => inferInstanceAs (Lossless Grants)

/-- Read a document and write its value again. -/
def rewrite (kind : Kind) (text : String) : Except Fault String := do
  let value : kind.Carrier ← read text
  return write value

/-- A value is read from what is written of it; every document that holds the value is rewritten to
that one text, which is rewritten to itself. -/
theorem documents_canonical (kind : Kind) (value : kind.Carrier) :
    read (write value) = .ok value ∧
      ∀ text : String, read text = .ok value →
        rewrite kind text = .ok (write value) ∧
          rewrite kind (write value) = .ok (write value) := by
  refine ⟨read_write value, fun text reads => ⟨?_, ?_⟩⟩
  · rw [rewrite, reads]
    rfl
  · rw [rewrite, read_write]
    rfl

/-- A demo day as the list of its fields, with a URN for its id, a name of one escaped surrogate
pair, and a leap second told in a zone where the next year has begun. -/
def leapDocument : String :=
  "[\"urn:uuid:01234567-89ab-CDEF-0123-456789ABCDEF\", \"s\", \"\\ud83d\\uDE80\", \"h\"," ++
    "\x7b\"LIVE\":null\x7d, \"2017-1-01 05:29:60.5+05:30\", \"1970-01-01T00:00:00Z\"]"

def leapDay : DemoDay where
  id := ⟨[0, 1, 2, 3, 4, 5, 6, 7, 8, 9, 10, 11, 12, 13, 14, 15, 0, 1, 2, 3, 4, 5, 6, 7, 8, 9, 10,
    11, 12, 13, 14, 15], rfl⟩
  slug := "s"
  name := "🚀"
  host := "h"
  status := .live
  createdAt := ⟨24720479, 60500000000, by decide, by decide, by decide⟩
  updatedAt := Instant.epoch

theorem documents_canonical_leap_second :
    read leapDocument = .ok leapDay ∧ read (write leapDay) = .ok leapDay ∧
      rewrite .demoDay leapDocument = .ok (write leapDay) ∧
      rewrite .demoDay (write leapDay) = .ok (write leapDay) ∧
      write leapDay = "\x7b\"id\":\"01234567-89ab-cdef-0123-456789abcdef\",\"slug_url\":\"s\"," ++
        "\"name\":\"🚀\",\"host\":\"h\",\"status\":\"LIVE\"," ++
        "\"created_at\":\"2016-12-31T23:59:60.500Z\"," ++
        "\"updated_at\":\"1970-01-01T00:00:00Z\"\x7d" := by
  have decoded : (read leapDocument : Except Fault DemoDay).toOption = some leapDay := by
    decide +kernel
  have reads : read leapDocument = .ok leapDay := by
    cases result : (read leapDocument : Except Fault DemoDay) with
    | error fault => simp [result, Except.toOption] at decoded
    | ok day => simpa [result, Except.toOption] using decoded
  obtain ⟨back, spellings⟩ := documents_canonical .demoDay leapDay
  obtain ⟨rewritten, stable⟩ := spellings leapDocument reads
  exact ⟨reads, back, rewritten, stable, by decide +kernel⟩

end Wire

end HostAccess
