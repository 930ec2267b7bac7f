import Mathlib.Logic.Function.Basic

/-!
# Interleaved processes

A machine says what one event does to the process that takes it and to the shared state; a schedule
is a list of events tagged with processes. Schedules are arbitrary, so a statement about every
schedule is one about every interleaving.

`Meets` asks that every step of a run is taken in a system that satisfies a condition.
-/

namespace Parqonaut.Effects

open Function Option

/-- What an event does to one process and to the shared state, if it can happen. -/
structure Machine (Event Local Shared : Type) where
  step : Event → Local → Shared → Option (Local × Shared)

/-- Local state of every process and the shared state. -/
structure System (Proc Local Shared : Type) where
  locals : Proc → Local
  shared : Shared

variable {Proc Event Local Shared : Type} [DecidableEq Proc]

namespace System

/-- One process moves; the others keep their local state. -/
def move (system : System Proc Local Shared) (process : Proc) (moved : Local × Shared) :
    System Proc Local Shared where
  locals := Function.update system.locals process moved.1
  shared := moved.2

variable {system : System Proc Local Shared} {process other : Proc} {moved : Local × Shared}

@[simp] lemma move_shared : (system.move process moved).shared = moved.2 := rfl

@[simp] lemma move_self : (system.move process moved).locals process = moved.1 :=
  update_self ..

lemma move_of_ne (different : other ≠ process) :
    (system.move process moved).locals other = system.locals other :=
  update_of_ne different ..

lemma move_same : system.move process (system.locals process, system.shared) = system := by
  rw [move, update_eq_self]

lemma move_same_local {shared : Shared} :
    (system.move process (system.locals process, shared)).locals = system.locals := by
  rw [move, update_eq_self]

lemma move_move {again : Local × Shared} :
    (system.move process moved).move process again = system.move process again := by
  rw [move, move, move, update_idem]

/-- A fact about every process after a move: the mover satisfies it, and the others
still do. -/
lemma forall_move (property : Proc → Local → Prop) (mover : property process moved.1)
    (others : ∀ other, other ≠ process → property other (system.locals other)) :
    ∀ other, property other ((system.move process moved).locals other) := by
  intro other
  by_cases same : other = process
  · rw [same, move_self]
    exact mover
  · rw [move_of_ne same]
    exact others other same

end System

namespace Machine

variable (machine : Machine Event Local Shared)

/-- A process takes one event. -/
def act (process : Proc) (event : Event) (system : System Proc Local Shared) :
    Option (System Proc Local Shared) :=
  (machine.step event (system.locals process) system.shared).map (system.move process)

/-- Run a schedule. -/
def run : List (Proc × Event) → System Proc Local Shared → Option (System Proc Local Shared)
  | [], system => some system
  | (process, event) :: rest, system =>
    (machine.act process event system).bind (run rest)

/-- Events of one process while no other process moves. -/
def solo : List Event → Local → Shared → Option (Local × Shared)
  | [], here, shared => some (here, shared)
  | event :: rest, here, shared =>
    (machine.step event here shared).bind fun moved => solo rest moved.1 moved.2

/-- Every step of the schedule is taken in a system that satisfies `condition`. -/
def Meets (condition : Proc → Event → System Proc Local Shared → Prop) :
    List (Proc × Event) → System Proc Local Shared → Prop
  | [], _ => True
  | (process, event) :: rest, system =>
    condition process event system ∧
      ∀ next, machine.act process event system = some next → Meets condition rest next

variable {machine} {system next last : System Proc Local Shared} {process : Proc} {event : Event}

lemma act_eq_some : machine.act process event system = some next ↔
      ∃ moved, machine.step event (system.locals process) system.shared = some moved ∧
        system.move process moved = next := by
  rw [act, map_eq_some_iff]

variable {moved : Local × Shared}

lemma act_of_step (steps : machine.step event (system.locals process) system.shared = some moved) :
    machine.act process event system = some (system.move process moved) :=
  act_eq_some.mpr ⟨moved, steps, rfl⟩

variable {rest : List (Proc × Event)}

lemma run_cons : machine.run ((process, event) :: rest) system = some last ↔
      ∃ next, machine.act process event system = some next ∧ machine.run rest next = some last := by
  rw [run, bind_eq_some_iff]

lemma run_solo {events : List Event}
    (runs : machine.solo events (system.locals process) system.shared = some moved) :
    machine.run (events.map (Prod.mk process)) system = some (system.move process moved) := by
  induction events generalizing system with
  | nil =>
    cases runs
    rw [System.move_same]
    rfl
  | cons _ rest ih =>
    obtain ⟨first, steps, runs⟩ := bind_eq_some_iff.mp runs
    apply run_cons.mpr
    refine ⟨_, act_of_step steps, ?_⟩
    have moves : machine.solo rest ((system.move process first).locals process)
        (system.move process first).shared = some moved := by
      rw [System.move_self]
      exact runs
    rw [ih moves, System.move_move]

variable {condition : Proc → Event → System Proc Local Shared → Prop}

lemma meets_cons (acts : machine.act process event system = some next)
    (here : condition process event system) (later : machine.Meets condition rest next) :
    machine.Meets condition ((process, event) :: rest) system := by
  refine ⟨here, ?_⟩
  intro reached actual
  rw [acts] at actual
  cases actual
  exact later

/-- The rest of a run meets what the run meets. -/
lemma meets_append
    {first second : List (Proc × Event)} (meets : machine.Meets condition (first ++ second) system)
    (runs : machine.run first system = some next) :
    machine.Meets condition first system ∧ machine.Meets condition second next := by
  induction first generalizing system with
  | nil =>
    cases runs
    exact ⟨trivial, meets⟩
  | cons _ _ ih =>
    obtain ⟨middle, acts, runs⟩ := run_cons.mp runs
    obtain ⟨later, second⟩ := ih (meets.2 middle acts) runs
    exact ⟨meets_cons acts meets.1 later, second⟩

variable {schedule : List (Proc × Event)}

lemma meets_and {also : Proc → Event → System Proc Local Shared → Prop}
    (meets : machine.Meets condition schedule system)
    (meetsAlso : machine.Meets also schedule system) :
    machine.Meets (fun process event system => condition process event system ∧
      also process event system) schedule system := by
  induction schedule generalizing system with
  | nil => trivial
  | cons _ _ ih =>
    exact ⟨⟨meets.1, meetsAlso.1⟩, fun next acts => ih (meets.2 next acts) (meetsAlso.2 next acts)⟩

lemma meets_true (schedule : List (Proc × Event)) (system : System Proc Local Shared) :
    machine.Meets (fun _ _ _ => True) schedule system := by
  induction schedule generalizing system with
  | nil => trivial
  | cons _ _ ih => exact ⟨trivial, fun next _ => ih next⟩

/-- What every admitted step preserves holds after every run of admitted steps. -/
lemma run_invariant (invariant : System Proc Local Shared → Prop)
    (preserved : ∀ process event system next, invariant system →
      condition process event system → machine.act process event system = some next →
        invariant next)
    (initially : invariant system)
    (meets : machine.Meets condition schedule system)
    (runs : machine.run schedule system = some last) : invariant last := by
  induction schedule generalizing system with
  | nil =>
    cases runs
    exact initially
  | cons _ _ ih =>
    obtain ⟨next, acts, runs⟩ := run_cons.mp runs
    exact ih (preserved _ _ _ _ initially meets.1 acts) (meets.2 next acts) runs

end Machine

end Parqonaut.Effects
