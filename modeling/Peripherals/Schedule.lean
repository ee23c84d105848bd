/-!
# `Peripherals.Schedule` — whose turn it is

Those that can go on stand in a queue, in the order in which they were woken. One that finds nothing to do waits
until there is something for it; one that has had its share gives way to all others.

* `Turned` — what a turn comes to;
* `Schedule.add`, `Schedule.rouse` — who joins the queue, and `Schedule.next?`, who leaves it;
* `Schedule.wait`, `Schedule.giveWay` — where one goes after its turns;
* `Schedule.resume` — those that gave way join the queue again.
-/

namespace Peripherals

/-- What a turn comes to. -/
inductive Turned (α : Type) where
  /-- There is nothing to do before something else happens. -/
  | waits
  | moved (a : α)
  /-- Something was done, and there will never be anything to do again. -/
  | over (a : α)

/-- Whose turn it is. -/
structure Schedule (α : Type) where
  /-- Those that can go on, in the order in which they were woken. -/
  ready : List α
  /-- Those that wait, in the order in which they began to. -/
  waiting : List α
  /-- Those that gave way, the latest first. -/
  yielded : List α

namespace Schedule

variable {α : Type}

/-- The schedule of nobody. -/
def empty : Schedule α := ⟨[], [], []⟩

instance : Inhabited (Schedule α) := ⟨empty⟩

/-- A new one joins the queue. -/
def add (s : Schedule α) (a : α) : Schedule α := { s with ready := s.ready ++ [a] }

/-- **Wakes those that wait and can go on.** They join the queue in the order in which they began to wait. -/
def rouse (s : Schedule α) (goesOn : α → Bool) : Schedule α :=
  { s with
    ready := s.ready ++ s.waiting.filter goesOn
    waiting := s.waiting.filter fun a => !goesOn a }

/-- The first of the queue, and the schedule without it. -/
def next? (s : Schedule α) : Option (α × Schedule α) :=
  match s.ready with
  | [] => none
  | a :: ready => some (a, { s with ready })

/-- One waits. -/
def wait (s : Schedule α) (a : α) : Schedule α := { s with waiting := s.waiting ++ [a] }

/-- One gives way. -/
def giveWay (s : Schedule α) (a : α) : Schedule α := { s with yielded := a :: s.yielded }

/-- **Those that gave way join the queue**, the latest first. -/
def resume (s : Schedule α) : Schedule α := { s with ready := s.ready ++ s.yielded, yielded := [] }

/-- Keeps only some. -/
def keepOnly (s : Schedule α) (keeps : α → Bool) : Schedule α :=
  ⟨s.ready.filter keeps, s.waiting.filter keeps, s.yielded.filter keeps⟩

end Schedule

end Peripherals
