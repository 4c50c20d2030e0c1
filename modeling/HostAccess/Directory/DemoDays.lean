import HostAccess.Action
import HostAccess.Host

/-! # Demo days of the directory

A demo day is found by its slug and changed under its id. Its status only moves forward, and its
host is fixed as soon as it is no longer upcoming. -/
namespace HostAccess

def decodeStatus (name : String) : Except StoreError Status :=
  match Status.ofName? name with
  | some status => .ok status
  | none => .error (.invalidRow (.unknownStatus name))

def DayRow.decodeAs (row : DayRow) (id : Uuid) : Except StoreError DemoDay := do
  let status ← decodeStatus row.status
  return ⟨id, row.slug, row.name, row.host, status, row.createdAt, row.updatedAt⟩

/-- The demo day of a row, whose record id must be a UUID in any spelling. -/
def DayRow.decode (row : DayRow) : Except StoreError DemoDay :=
  -- The id is looked at before the status, so of two faults it is the one that is reported.
  match row.id.bind Uuid.parse? with
  | some id => row.decodeAs id
  | none => .error (.invalidRow .malformedId)

def decodeDays : List DayRow → Except StoreError (List DemoDay)
  | [] => .ok []
  | row :: rest => do
    let day ← row.decode
    return day :: (← decodeDays rest)

namespace DemoDays

def lookup (slug : String) (s : Store) : Except StoreError DemoDay := do
  match (← s.readDays).rows.find? (·.slug == slug) with
  | some row => row.decode
  | none => throw (.notFound "demo_day" slug)

def find (slug : String) (s : Store) : Except Error DemoDay :=
  (lookup slug s).mapError StoreError.toError

def onHost (host : String) (s : Store) : Except Error (List DemoDay) :=
  Except.mapError StoreError.toError do
    let rows := (← s.readDays).rows.filter (·.host == host)
    decodeDays (rows.mergeSort fun a b => a.createdAt.atMost b.createdAt)

/-- Refuse a slug that is taken. A demo day that cannot be read is an error of its own. -/
def demandFree (slug : String) (s : Store) : Except Error Unit :=
  match find slug s with
  | .ok _ => .error (.alreadyExists "demo_day")
  | .error (.notFound _ _) => .ok ()
  | .error e => .error e

def add (new : NewDemoDay) (moment : Moment) (s : Store) : Except Refusal Store := do
  let table ← s.dayTable
  let table ← table.insert ⟨some moment.id.text, new.slug, new.name, new.host,
    Status.upcoming.name, moment.now, moment.now⟩
  return { s with days := some table }

def stored (id : Uuid) (s : Store) : Except StoreError DemoDay := do
  match (← s.readDays).rows.find? (·.id == some id.text) with
  | some row => row.decodeAs id
  | none => throw (.notFound "demo_day" id.text)

def create (new : NewDemoDay) : Action Error DemoDay := do
  Action.ofExcept (Host.validateConcrete new.host)
  if new.slug.isEmpty then Action.fail (.validation .emptySlug)
  -- The unique index would refuse a taken slug as well, but as a fault of the store.
  Action.read (demandFree new.slug)
  Action.change fun moment s =>
    (add new moment s).mapError fun refusal => refusal.toRowError.toError
  let moment ← Action.moment
  let day ← Action.read fun s => (stored moment.id s).mapError StoreError.toError
  Action.report (.dayCreated day.slug day.host)
  return day

/-- Change the row under an id, if there is one, and mark it as changed now. -/
def revise (id : Uuid) (edit : DayRow → DayRow) (now : Instant) (s : Store) :
    Except Refusal Store := do
  let table ← s.dayTable
  let table ← table.revise (·.id == some id.text) fun row => { edit row with updatedAt := now }
  return { s with days := some table }

/-- Change the row under an id and answer with the demo day that it has become, which is understood
only after it was written. -/
def amend (id : Uuid) (edit : DayRow → DayRow) : Action Error DemoDay := do
  Action.change fun moment s =>
    (revise id edit moment.now s).mapError fun refusal => refusal.toRowError.toError
  Action.read fun s => (stored id s).mapError StoreError.toError

def updateStatus (slug : String) (status : Status) : Action Error DemoDay := do
  let current ← Action.read (find slug)
  unless current.status.allows status do
    Action.fail (.validation (.backwardMove slug current.status status))
  amend current.id ({ · with status := status.name })

def updateHost (slug host : String) : Action Error DemoDay := do
  Action.ofExcept (Host.validateConcrete host)
  let current ← Action.read (find slug)
  unless current.status = .upcoming do
    Action.fail (.validation (.fixedHost slug current.status))
  amend current.id ({ · with host := host })

end DemoDays

end HostAccess
