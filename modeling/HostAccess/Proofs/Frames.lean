import HostAccess.Proofs.Outcomes

/-! # What operations leave alone

The directory writes rows and nothing else. Whatever a store holds and however its tables are
declared, no operation but the migrations adds a table, takes one away, declares anything or touches
the records of the migrations. The argument follows the actions: each of their writes keeps the
declarations, and so does any sequence of steps that do. -/
namespace HostAccess

/-! ## Tables -/

namespace Table

variable {ρ : Type} [Row ρ] {t t' : Table ρ}

theorem declared_insert {row : ρ} (inserted : t.insert row = .ok t') :
    t'.withRows [] = t.withRows [] := by
  obtain ⟨-, rfl⟩ := insert_eq_ok_iff.mp inserted
  rfl

theorem declared_insertAll {rows : List ρ} (inserted : t.insertAll rows = .ok t') :
    t'.withRows [] = t.withRows [] := by
  induction rows generalizing t with
  | nil => rw [Except.ok.inj inserted]
  | cons row rest ih =>
    obtain ⟨next, first, later⟩ := bind_eq_ok_iff.mp inserted
    rw [ih later, declared_insert first]

theorem declared_revise {chosen : ρ → Bool} {edit : ρ → ρ}
    (revised : t.revise chosen edit = .ok t') : t'.withRows [] = t.withRows [] := by
  obtain ⟨-, rfl⟩ := revise_eq_ok_iff.mp revised
  rfl

end Table

/-! ## Stores -/

namespace Store

variable {s s' : Store}

/-- The same tables are there, with the same declarations, and the same migrations are recorded. -/
structure SameSchema (s s' : Store) : Prop where
  migrations : s'.migrations = s.migrations
  members : s'.members.map (·.withRows []) = s.members.map (·.withRows [])
  roles : s'.roles.map (·.withRows []) = s.roles.map (·.withRows [])
  scopes : s'.scopes.map (·.withRows []) = s.scopes.map (·.withRows [])
  days : s'.days.map (·.withRows []) = s.days.map (·.withRows [])

theorem SameSchema.refl (s : Store) : s.SameSchema s := ⟨rfl, rfl, rfl, rfl, rfl⟩

theorem SameSchema.trans {s'' : Store} (first : s.SameSchema s') (second : s'.SameSchema s'') :
    s.SameSchema s'' where
  migrations := second.migrations.trans first.migrations
  members := second.members.trans first.members
  roles := second.roles.trans first.roles
  scopes := second.scopes.trans first.scopes
  days := second.days.trans first.days

theorem SameSchema.hasTable (same : s.SameSchema s') (name : TableName) :
    s'.hasTable name = s.hasTable name := by
  have there {ρ : Type} {t t' : Option (Table ρ)}
      (declared : t'.map (·.withRows []) = t.map (·.withRows [])) : t'.isSome = t.isSome := by
    rw [← Option.isSome_map, declared, Option.isSome_map]
  cases name with
  | migration => exact congrArg Option.isSome same.migrations
  | member => exact there same.members
  | memberRole => exact there same.roles
  | memberScope => exact there same.scopes
  | demoDay => exact there same.days

theorem present_eq_ok_iff {ρ : Type} {name : TableName} {table : Option (Table ρ)} {t : Table ρ} :
    present name table = .ok t ↔ table = some t := by
  cases table <;> simp [present]

namespace SameSchema

/-! ## Writes -/

theorem add_member {new : NewMember} {now : Instant} (added : Members.add new now s = .ok s') :
    s.SameSchema s' := by
  simp only [Members.add, memberTable, bind_eq_ok_iff, present_eq_ok_iff, pure_eq_ok_iff] at added
  obtain ⟨table, there, grown, inserted, rfl⟩ := added
  refine { SameSchema.refl s with members := ?_ }
  rw [there, Option.map_some, Option.map_some, Table.declared_insert inserted]

theorem erase_member {uid : String} (erased : Members.erase uid s = .ok s') : s.SameSchema s' := by
  simp only [Members.erase, memberTable, roleTable, scopeTable, bind_eq_ok_iff, present_eq_ok_iff,
    pure_eq_ok_iff] at erased
  obtain ⟨roles, rolesThere, scopes, scopesThere, members, membersThere, rfl⟩ := erased
  refine { SameSchema.refl s with members := ?_, roles := ?_, scopes := ?_ }
  · rw [membersThere]
    rfl
  · rw [rolesThere]
    rfl
  · rw [scopesThere]
    rfl

theorem touchMember {uid : String} {now : Instant} (touched : s.touchMember uid now = .ok s') :
    s.SameSchema s' := by
  unfold Store.touchMember at touched
  split at touched
  next => cases touched
  split at touched
  next => cases touched
  next members found =>
    obtain ⟨there, -⟩ := Option.filter_eq_some_iff.mp found
    simp only [bind_eq_ok_iff, mapError_eq_ok_iff, pure_eq_ok_iff] at touched
    obtain ⟨revised, accepted, rfl⟩ := touched
    refine { SameSchema.refl s with members := ?_ }
    rw [there, Option.map_some, Option.map_some, Table.declared_revise accepted]

theorem putRoles {uid : String} {roles : RoleSet} {now : Instant}
    (put : s.putRoles uid roles now = .ok s') : s.SameSchema s' := by
  simp only [Store.putRoles, roleTable, bind_eq_ok_iff, mapError_eq_ok_iff, present_eq_ok_iff,
    pure_eq_ok_iff] at put
  obtain ⟨table, there, replaced, inserted, rfl⟩ := put
  refine { SameSchema.refl s with roles := ?_ }
  rw [there, Option.map_some, Option.map_some, Table.declared_insertAll inserted]
  rfl

theorem putScopes {uid : String} {type : ScopeType} {values : HostSet} {now : Instant}
    (put : s.putScopes uid type values now = .ok s') : s.SameSchema s' := by
  simp only [Store.putScopes, scopeTable, bind_eq_ok_iff, mapError_eq_ok_iff, present_eq_ok_iff,
    pure_eq_ok_iff] at put
  obtain ⟨table, there, replaced, inserted, rfl⟩ := put
  refine { SameSchema.refl s with scopes := ?_ }
  rw [there, Option.map_some, Option.map_some, Table.declared_insertAll inserted]
  rfl

theorem putGrants {uid : String} {change : GrantChange} {now : Instant}
    (put : s.putGrants uid change now = .ok s') : s.SameSchema s' := by
  obtain ⟨roles, hosts⟩ := change
  rw [Store.putGrants_eq_bind, bind_eq_ok_iff] at put
  obtain ⟨first, touched, put⟩ := put
  obtain ⟨second, rolesPut, hostsPut⟩ := bind_eq_ok_iff.mp put
  have middle : first.SameSchema second := by
    cases roles with
    | none => exact Except.ok.inj rolesPut ▸ .refl first
    | some roles => exact .putRoles rolesPut
  have last : second.SameSchema s' := by
    cases hosts with
    | none => exact Except.ok.inj hostsPut ▸ .refl second
    | some hosts => exact .putScopes hostsPut
  exact (SameSchema.touchMember touched).trans (middle.trans last)

theorem add_day {new : NewDemoDay} {moment : Moment} (added : DemoDays.add new moment s = .ok s') :
    s.SameSchema s' := by
  simp only [DemoDays.add, dayTable, bind_eq_ok_iff, present_eq_ok_iff, pure_eq_ok_iff] at added
  obtain ⟨table, there, grown, inserted, rfl⟩ := added
  refine { SameSchema.refl s with days := ?_ }
  rw [there, Option.map_some, Option.map_some, Table.declared_insert inserted]

theorem revise_day {id : Uuid} {edit : DayRow → DayRow} {now : Instant}
    (revised : DemoDays.revise id edit now s = .ok s') : s.SameSchema s' := by
  simp only [DemoDays.revise, dayTable, bind_eq_ok_iff, present_eq_ok_iff,
    pure_eq_ok_iff] at revised
  obtain ⟨table, there, edited, accepted, rfl⟩ := revised
  refine { SameSchema.refl s with days := ?_ }
  rw [there, Option.map_some, Option.map_some, Table.declared_revise accepted]

end SameSchema

end Store

/-! ## Actions -/

/-- An action writes rows only, on whatever store it runs. -/
def Action.KeepsSchema {ε α : Type} (action : Action ε α) : Prop :=
  ∀ (moment : Moment) (s : Store), s.SameSchema (action.run moment s).store

namespace Action.KeepsSchema

variable {ε ε' α β : Type} {action : Action ε α}

/-- An action that leaves the store as it is leaves the declarations as they are. -/
theorem of_store_eq (same : ∀ moment s, (action.run moment s).store = s) : action.KeepsSchema :=
  fun moment s => (same moment s).symm ▸ .refl s

theorem pure (a : α) : (Pure.pure a : Action ε α).KeepsSchema := of_store_eq fun _ _ => rfl

theorem ofExcept (result : Except ε α) : (Action.ofExcept result).KeepsSchema :=
  of_store_eq fun _ _ => rfl

theorem read (query : Store → Except ε α) : (Action.read query).KeepsSchema :=
  of_store_eq fun _ _ => rfl

theorem report (event : Event) : (Action.report event : Action ε Unit).KeepsSchema :=
  of_store_eq fun _ _ => rfl

theorem moment : (Action.moment : Action ε Moment).KeepsSchema := of_store_eq fun _ _ => rfl

theorem audited (check : Store → Audited α) :
    (Audited.toAction check : Action ε α).KeepsSchema := of_store_eq fun _ _ => rfl

/-- What would follow a failure is not run. -/
theorem failing (e : ε) (next : α → Action ε β) : (Action.fail e >>= next).KeepsSchema :=
  of_store_eq fun _ _ => rfl

theorem change {write : Moment → Store → Except ε Store}
    (keeps : ∀ {moment s s'}, write moment s = .ok s' → s.SameSchema s') :
    (Action.change write).KeepsSchema := by
  intro moment s
  rw [run_change]
  cases written : write moment s with
  | ok s' => exact keeps written
  | error e => exact .refl s

theorem bind {next : α → Action ε β} (first : action.KeepsSchema)
    (later : ∀ a, (next a).KeepsSchema) : (action >>= next).KeepsSchema := by
  intro moment s
  rw [run_bind]
  cases (action.run moment s).result with
  | ok a => exact (first moment s).trans (later a moment _)
  | error e => exact first moment s

theorem mapError (keeps : action.KeepsSchema) (f : ε → ε') :
    (Action.mapError f action).KeepsSchema := fun moment s => keeps moment s

theorem ite {p : Prop} [Decidable p] {other : Action ε α} (first : action.KeepsSchema)
    (second : other.KeepsSchema) : (if p then action else other).KeepsSchema := by
  split
  · exact first
  · exact second

end Action.KeepsSchema

theorem Members.create_keepsSchema (new : NewMember) : (Members.create new).KeepsSchema := by
  unfold Members.create
  refine .ite (.failing _ _) (.bind (.read _) fun _ => .ite (.failing _ _) ?_)
  refine .bind ?_ fun _ => .read _
  exact .change fun written => .add_member (mapError_eq_ok_iff.mp written)

theorem Members.delete_keepsSchema (uid : String) : (Members.delete uid).KeepsSchema := by
  unfold Members.delete
  refine .bind (.read _) fun _ => .ite (.bind ?_ fun _ => .report _) (.failing _ _)
  exact .change fun written => .erase_member (mapError_eq_ok_iff.mp written)

theorem Grants.write_keepsSchema (uid : String) (change : GrantChange) :
    (Grants.write uid change).KeepsSchema :=
  .change fun written => .putGrants (mapError_eq_ok_iff.mp written)

theorem Grants.apply_keepsSchema (uid : String) (change : GrantChange) :
    (Grants.apply uid change).KeepsSchema :=
  .ite (.pure ()) (.bind (Grants.write_keepsSchema uid change) fun _ => .report _)

theorem Assignment.update_keepsSchema (settings : Settings) (uid : String)
    (request : GrantRequest) : (Assignment.update settings uid request).KeepsSchema := by
  unfold Assignment.update
  refine .bind (.ofExcept _) fun change => .bind (.read _) fun _ => .ite (.pure ()) ?_
  exact .bind (Grants.apply_keepsSchema uid change) fun _ => .report _

theorem DemoDays.create_keepsSchema (new : NewDemoDay) : (DemoDays.create new).KeepsSchema := by
  unfold DemoDays.create
  refine .bind (.ofExcept _) fun _ => .ite (.failing _ _) (.bind (.read _) fun _ => ?_)
  refine .bind ?_ fun _ => ?_
  · exact .change fun written => .add_day (mapError_eq_ok_iff.mp written)
  · exact .bind .moment fun _ => .bind (.read _) fun _ => .bind (.report _) fun _ => .pure _

theorem DemoDays.amend_keepsSchema (id : Uuid) (edit : DayRow → DayRow) :
    (DemoDays.amend id edit).KeepsSchema := by
  refine .bind ?_ fun _ => .read _
  exact .change fun written => .revise_day (mapError_eq_ok_iff.mp written)

theorem DemoDays.updateStatus_keepsSchema (slug : String) (status : Status) :
    (DemoDays.updateStatus slug status).KeepsSchema := by
  unfold DemoDays.updateStatus
  exact .bind (.read _) fun _ => .ite (DemoDays.amend_keepsSchema _ _) (.failing _ _)

theorem DemoDays.updateHost_keepsSchema (slug host : String) :
    (DemoDays.updateHost slug host).KeepsSchema := by
  unfold DemoDays.updateHost
  refine .bind (.ofExcept _) fun _ => .bind (.read _) fun _ => ?_
  exact .ite (DemoDays.amend_keepsSchema _ _) (.failing _ _)

theorem Http.serve_keepsSchema (settings : Settings) (request : Request) :
    (Http.serve settings request).KeepsSchema := by
  intro moment s
  rcases serve_store settings request moment s with same | ⟨uid, wanted, updated⟩
  · exact same.symm ▸ .refl s
  · exact updated ▸ Assignment.update_keepsSchema settings uid wanted moment s

/-! ## Operations -/

theorem Operation.answering_keepsSchema {α : Type} {answer : α → Answer} {action : Action Error α}
    (keeps : action.KeepsSchema) : (Operation.answering answer action).KeepsSchema :=
  .mapError (.bind keeps fun _ => .pure _) _

/-- This holds of every store, however its tables are declared and whichever of them are missing. -/
theorem Operation.keepsSchema {operation : Operation} (other : operation ≠ .migrate) :
    operation.perform.KeepsSchema := by
  cases operation with
  | migrate => exact absurd rfl other
  | createMember new => exact answering_keepsSchema (Members.create_keepsSchema new)
  | deleteMember uid => exact answering_keepsSchema (Members.delete_keepsSchema uid)
  | replaceRoles uid roles =>
    rw [perform, doing, Roles.replace_eq_write]
    exact answering_keepsSchema (Grants.write_keepsSchema uid _)
  | replaceScopes uid type values =>
    rw [perform, doing, Scopes.replace_eq_write]
    exact answering_keepsSchema (Grants.write_keepsSchema uid _)
  | applyGrants uid change => exact answering_keepsSchema (Grants.apply_keepsSchema uid change)
  | assign settings uid request =>
    exact answering_keepsSchema (Assignment.update_keepsSchema settings uid request)
  | createDay new => exact answering_keepsSchema (DemoDays.create_keepsSchema new)
  | updateStatus slug status =>
    exact answering_keepsSchema (DemoDays.updateStatus_keepsSchema slug status)
  | updateHost slug host => exact answering_keepsSchema (DemoDays.updateHost_keepsSchema slug host)
  | serve settings request =>
    exact .mapError (.bind (Http.serve_keepsSchema settings request) fun _ => .pure _) _
  | canAdminister | canAdministerDay | capabilities =>
    exact answering_keepsSchema (.audited _)
  | _ => exact answering_keepsSchema (.read _)

end HostAccess
