import HostAccess.Event
import HostAccess.Store.Basic

/-! # Actions

An action runs on a store at a moment. It ends with a value or an error, leaves a store behind
either way, and reports events. An error stops what would follow, and takes back neither what was
written before it nor what was reported. The moment brings in what a store cannot know by itself:
the time, and an id that nobody has used. -/
namespace HostAccess

/-- The time of an action, and a fresh id for it. -/
structure Moment where
  now : Instant
  id : Uuid
deriving DecidableEq

/-- What running an action leaves behind. -/
structure Outcome (ε α : Type) where
  result : Except ε α
  store : Store
  events : List Event

/-- Something to be done to a store at a moment. -/
def Action (ε α : Type) : Type := Moment → Store → Outcome ε α

namespace Action

variable {ε α β : Type}

def run (action : Action ε α) (moment : Moment) (s : Store) : Outcome ε α := action moment s

def andThen (first : Action ε α) (next : α → Action ε β) : Action ε β := fun moment s =>
  let before := first moment s
  match before.result with
  | .ok a =>
    let after := next a moment before.store
    { after with events := before.events ++ after.events }
  | .error e => ⟨.error e, before.store, before.events⟩

instance : Monad (Action ε) where
  pure a := fun _ s => ⟨.ok a, s, []⟩
  bind := andThen

def fail (e : ε) : Action ε α := fun _ s => ⟨.error e, s, []⟩

def ofExcept (result : Except ε α) : Action ε α := fun _ s => ⟨result, s, []⟩

def read (query : Store → Except ε α) : Action ε α := fun _ s => ⟨query s, s, []⟩

/-- Replace the store by what a change makes of it. A change that is refused leaves it alone. -/
def change (write : Moment → Store → Except ε Store) : Action ε Unit := fun moment s =>
  match write moment s with
  | .ok s' => ⟨.ok (), s', []⟩
  | .error e => ⟨.error e, s, []⟩

def report (event : Event) : Action ε Unit := fun _ s => ⟨.ok (), s, [event]⟩

/-- Turn the errors of an action into errors of another kind. -/
def mapError {ε' : Type} (f : ε → ε') (action : Action ε α) : Action ε' α := fun moment s =>
  let outcome := action moment s
  ⟨outcome.result.mapError f, outcome.store, outcome.events⟩

/-- Run an action that may fail, as one that answers with its result. -/
def attempt {ε' : Type} (action : Action ε α) : Action ε' (Except ε α) := fun moment s =>
  let outcome := action moment s
  ⟨.ok outcome.result, outcome.store, outcome.events⟩

def moment : Action ε Moment := fun moment s => ⟨.ok moment, s, []⟩

section Laws

variable {moment : Moment} {s : Store}

@[simp] theorem run_pure (a : α) : (pure a : Action ε α).run moment s = ⟨.ok a, s, []⟩ := rfl

@[simp] theorem run_fail (e : ε) : (fail e : Action ε α).run moment s = ⟨.error e, s, []⟩ := rfl

@[simp] theorem run_ofExcept (result : Except ε α) :
    (ofExcept result).run moment s = ⟨result, s, []⟩ := rfl

@[simp] theorem run_read (query : Store → Except ε α) :
    (read query).run moment s = ⟨query s, s, []⟩ := rfl

@[simp] theorem run_report (event : Event) :
    (report event : Action ε Unit).run moment s = ⟨.ok (), s, [event]⟩ := rfl

@[simp] theorem run_mapError {ε' : Type} (f : ε → ε') (action : Action ε α) :
    (mapError f action).run moment s =
      ⟨(action.run moment s).result.mapError f, (action.run moment s).store,
        (action.run moment s).events⟩ := rfl

end Laws

end Action

end HostAccess
