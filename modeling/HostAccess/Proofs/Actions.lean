import HostAccess.Action

/-! # Laws of computations that may fail

When a sequence of steps has a value, every step had one; and an action that runs as a sequence
leaves what its steps leave. -/
namespace HostAccess

variable {ε ε' α β : Type}

@[simp] theorem ok_bind (a : α) (next : α → Except ε β) : (.ok a >>= next) = next a := rfl

theorem pure_eq_ok (a : α) : (pure a : Except ε α) = .ok a := rfl

theorem bind_eq_ok_iff {first : Except ε α} {next : α → Except ε β} {b : β} :
    first >>= next = .ok b ↔ ∃ a, first = .ok a ∧ next a = .ok b := by
  cases first <;> simp [bind, Except.bind]

theorem pure_eq_ok_iff {a b : α} : (pure a : Except ε α) = .ok b ↔ a = b := by
  rw [pure_eq_ok, Except.ok.injEq]

@[simp] theorem mapError_ok (f : ε → ε') (a : α) : (Except.ok a).mapError f = .ok a := rfl

@[simp] theorem mapError_error (f : ε → ε') (e : ε) :
    (Except.error e : Except ε α).mapError f = .error (f e) := rfl

theorem mapError_eq_ok_iff {f : ε → ε'} {result : Except ε α} {a : α} :
    result.mapError f = .ok a ↔ result = .ok a := by
  cases result <;> simp

namespace Action

variable {moment : Moment} {s : Store}

/-- The steps of a sequence one after the other, up to the first that fails. -/
theorem run_bind (first : Action ε α) (next : α → Action ε β) :
    (first >>= next).run moment s =
      match (first.run moment s).result with
      | .ok a =>
        { (next a).run moment (first.run moment s).store with
          events := (first.run moment s).events ++
            ((next a).run moment (first.run moment s).store).events }
      | .error e => ⟨.error e, (first.run moment s).store, (first.run moment s).events⟩ := rfl

/-- A change is written as a whole or not at all. -/
theorem run_change (write : Moment → Store → Except ε Store) :
    (change write).run moment s =
      match write moment s with
      | .ok s' => ⟨.ok (), s', []⟩
      | .error e => ⟨.error e, s, []⟩ := rfl

theorem run_moment : (Action.moment : Action ε Moment).run moment s = ⟨.ok moment, s, []⟩ := rfl

theorem run_attempt (action : Action ε α) :
    (attempt action : Action ε' (Except ε α)).run moment s =
      ⟨.ok (action.run moment s).result, (action.run moment s).store,
        (action.run moment s).events⟩ := rfl

/-- The value and the error of an action under other names. -/
theorem run_map (f : ε → ε') (g : α → β) (action : Action ε α) :
    (mapError f (do return g (← action))).run moment s =
      ⟨((action.run moment s).result.map g).mapError f, (action.run moment s).store,
        (action.run moment s).events⟩ := by
  rw [run_mapError, run_bind]
  cases (action.run moment s).result <;> simp [Except.map]

end Action

end HostAccess
