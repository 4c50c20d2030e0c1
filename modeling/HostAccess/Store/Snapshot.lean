import HostAccess.Json.Value
import HostAccess.Store.Basic

/-! # Snapshots

The content of the tables without ids and times. A store keeps its rows in the order in which they
came, which says nothing about their content; a snapshot is ordered by the written form of its
records, so that equal contents have equal snapshots. -/
namespace HostAccess.Snapshot

/-- Columns of a row in alphabetical order, each with its content. -/
abbrev Record := List (String × Option Cell)

def cellChars : Option Cell → List Char
  | none => ['n', 'u', 'l', 'l']
  | some (.text s) => Json.stringChars s.toList
  | some (.number n) => (toString n).toList

/-- The columns of a record with commas between, and the closing brace. -/
def columnsChars : Record → List Char
  | [] => ['\x7d']
  | [(name, cell)] => Json.stringChars name.toList ++ ':' :: cellChars cell ++ ['\x7d']
  | (name, cell) :: rest =>
    Json.stringChars name.toList ++ ':' :: cellChars cell ++ ',' :: columnsChars rest

def text (record : Record) : String := String.ofList ('\x7b' :: columnsChars record)

/-- The columns of each table that a snapshot shows, in alphabetical order. -/
def columns : TableName → List String
  | .migration => ["name", "version"]
  | .member => ["email", "name", "uid"]
  | .memberRole => ["member_uid", "role_name"]
  | .memberScope => ["member_uid", "scope_type", "scope_value"]
  | .demoDay => ["host", "name", "slug_url", "status"]

def ofRow {ρ : Type} [Row ρ] (table : TableName) (row : ρ) : Record :=
  (columns table).map fun column =>
    (column, if column = "uid" then (Row.id row).map .text else Row.cell row column)

def ordered (records : List Record) : List Record :=
  records.mergeSort fun a b => decide (text a ≤ text b)

def ofTable {ρ : Type} [Row ρ] (name : TableName) (table : Table ρ) : List Record :=
  ordered (table.rows.map (ofRow name))

/-- The records of a table of a store, if the table is there. -/
def of (s : Store) : TableName → Option (List Record)
  | .migration => s.migrations.map (ofTable .migration)
  | .member => s.members.map (ofTable .member)
  | .memberRole => s.roles.map (ofTable .memberRole)
  | .memberScope => s.scopes.map (ofTable .memberScope)
  | .demoDay => s.days.map (ofTable .demoDay)

end HostAccess.Snapshot
