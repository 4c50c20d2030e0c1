import HostAccess.Proofs.Tables
import HostAccess.Store.Schema

/-! # Migrated stores

The four tables that the migrations declare, and what their declarations come to for the rows: which
names may be stored, and which rows exclude each other. Nothing is said about how the rows got
there, so a migrated store may hold roles of members that it does not know. -/
namespace HostAccess

namespace Schema

def memberTable (rows : List Member) : Table Member := ⟨memberFields, [], rows⟩

def roleTable (rows : List RoleRow) : Table RoleRow := ⟨roleFields, roleIndexes, rows⟩

def scopeTable (rows : List ScopeRow) : Table ScopeRow := ⟨scopeFields, scopeIndexes, rows⟩

def dayTable (rows : List DayRow) : Table DayRow := ⟨dayFields, dayIndexes, rows⟩

end Schema

namespace Store

/-! ## Rows, of which a table that is not there has none -/

def memberRows (s : Store) : List Member := s.members.elim [] Table.rows

def roleRows (s : Store) : List RoleRow := s.roles.elim [] Table.rows

def scopeRows (s : Store) : List ScopeRow := s.scopes.elim [] Table.rows

def dayRows (s : Store) : List DayRow := s.days.elim [] Table.rows

/-- The tables are declared as the migrations declare them, and their rows satisfy it. -/
structure Migrated (s : Store) : Prop where
  members : s.members = some (Schema.memberTable s.memberRows)
  roles : s.roles = some (Schema.roleTable s.roleRows)
  scopes : s.scopes = some (Schema.scopeTable s.scopeRows)
  days : s.days = some (Schema.dayTable s.dayRows)
  membersLegal : (Schema.memberTable s.memberRows).Legal
  rolesLegal : (Schema.roleTable s.roleRows).Legal
  scopesLegal : (Schema.scopeTable s.scopeRows).Legal
  daysLegal : (Schema.dayTable s.dayRows).Legal

/-- The tables of members, roles and scopes are declared as the migrations declare them. Their rows
may be of any content, as a condition is asked of a row only when the row is written. -/
structure Declared (s : Store) : Prop where
  members : s.members = some (Schema.memberTable s.memberRows)
  roles : s.roles = some (Schema.roleTable s.roleRows)
  scopes : s.scopes = some (Schema.scopeTable s.scopeRows)

theorem Migrated.declared {s : Store} (migrated : s.Migrated) : s.Declared :=
  ⟨migrated.members, migrated.roles, migrated.scopes⟩

end Store

namespace Schema

open Table

/-! ## What the declarations ask of a row -/

/-- Nothing is asked of a member beyond the types of its columns. -/
theorem memberTable_fits (rows : List Member) (row : Member) : (memberTable rows).Fits row := by
  simp [Fits, memberTable, memberFields, meets]

theorem roleTable_fits_iff {rows : List RoleRow} {row : RoleRow} :
    (roleTable rows).Fits row ↔ ∃ role : Role, role.name = row.roleName := by
  -- The schema spells the names out, so that a role that is added must be added there as well.
  have registered : (∃ role : Role, role.name = row.roleName) ↔
      row.roleName = "DEMO_DAY_ADMIN" ∨ row.roleName = "DIRECTORYADMIN" := by
    constructor
    · rintro ⟨role, named⟩
      cases role
      · exact Or.inl named.symm
      · exact Or.inr named.symm
    · rintro (named | named)
      · exact ⟨.demoDayAdmin, named.symm⟩
      · exact ⟨.directoryAdmin, named.symm⟩
  rw [registered]
  simp [Fits, roleTable, roleFields, roleName, meets, Row.cell, Assertion.holds]

theorem scopeTable_fits_iff {rows : List ScopeRow} {row : ScopeRow} :
    (scopeTable rows).Fits row ↔ row.scopeType = ScopeType.host.name ∧ row.scopeValue ≠ "" := by
  simp [Fits, scopeTable, scopeFields, scopeType, scopeValue, meets, Row.cell, Assertion.holds,
    ScopeType.name]

theorem dayTable_fits_iff {rows : List DayRow} {row : DayRow} :
    (dayTable rows).Fits row ↔ row.host ≠ "" ∧ ∃ status : Status, status.name = row.status := by
  have known : (∃ status : Status, status.name = row.status) ↔
      row.status = "UPCOMING" ∨ row.status = "LIVE" ∨ row.status = "COMPLETED" := by
    constructor
    · rintro ⟨status, named⟩
      cases status
      · exact Or.inl named.symm
      · exact Or.inr (Or.inl named.symm)
      · exact Or.inr (Or.inr named.symm)
    · rintro (named | named | named)
      · exact ⟨.upcoming, named.symm⟩
      · exact ⟨.live, named.symm⟩
      · exact ⟨.completed, named.symm⟩
  rw [known]
  simp [Fits, dayTable, dayFields, dayHost, dayStatus, meets, Row.cell, Assertion.holds]

/-! ## What the declarations ask of two rows -/

theorem memberTable_apart_iff {rows : List Member} {a b : Member} :
    (memberTable rows).Apart a b ↔ a.uid ≠ b.uid := by
  constructor
  -- There is no unique index on members. Their record id is their uid.
  · intro apart same
    exact apart.2 a.uid rfl (congrArg some same.symm)
  · intro differ
    exact ⟨by simp [memberTable], fun id named taken =>
      differ (Option.some.inj (named.trans taken.symm))⟩

theorem roleTable_apart_iff {rows : List RoleRow} {a b : RoleRow} :
    (roleTable rows).Apart a b ↔
      ¬(a.memberUid = b.memberUid ∧ a.roleName = b.roleName) ∧
        ∀ id, a.id = some id → b.id ≠ some id := by
  have key : sameKey ⟨"idx_member_role_unique", ["member_uid", "role_name"], true⟩ a b = false ↔
      ¬(a.memberUid = b.memberUid ∧ a.roleName = b.roleName) := by
    rw [← Bool.not_eq_true, sameKey_iff]
    simp [Row.cell]
  rw [← key]
  simp [Apart, roleTable, roleIndexes, Row.id]

theorem scopeTable_apart_iff {rows : List ScopeRow} {a b : ScopeRow} :
    (scopeTable rows).Apart a b ↔
      ¬(a.memberUid = b.memberUid ∧ a.scopeType = b.scopeType ∧ a.scopeValue = b.scopeValue) ∧
        ∀ id, a.id = some id → b.id ≠ some id := by
  have key :
      sameKey ⟨"idx_member_scope_unique", ["member_uid", "scope_type", "scope_value"], true⟩ a b =
        false ↔ ¬(a.memberUid = b.memberUid ∧ a.scopeType = b.scopeType ∧
          a.scopeValue = b.scopeValue) := by
    rw [← Bool.not_eq_true, sameKey_iff]
    simp [Row.cell]
  rw [← key]
  simp [Apart, scopeTable, scopeIndexes, Row.id]

theorem dayTable_apart_iff {rows : List DayRow} {a b : DayRow} :
    (dayTable rows).Apart a b ↔ a.slug ≠ b.slug ∧ ∀ id, a.id = some id → b.id ≠ some id := by
  have key : sameKey ⟨"idx_demo_day_slug", ["slug_url"], true⟩ a b = false ↔ a.slug ≠ b.slug := by
    rw [← Bool.not_eq_true, sameKey_iff]
    simp [Row.cell]
  rw [← key]
  simp [Apart, dayTable, dayIndexes, Row.id]

end Schema

end HostAccess
