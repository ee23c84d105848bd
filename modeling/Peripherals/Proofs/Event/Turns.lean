import Peripherals.Bench.Task
import Peripherals.Proofs.Event.Passage

/-!
# `Proofs.Event.Turns` — the tasks of a bench make the moves of a passage

On a bench, a radio whose commands the scripted coprocessor takes has two tasks: one pumps events, one hands them to
the adapter. What a turn of such a task does to the coprocessor and to the station of the radio are moves of the
`Passage` that they make up. So whatever holds of every history of a passage holds of what the tasks do.

* `World.passage`, `Follows` — a bench as a passage;
* `follows_pumpTurn`, `follows_dispatchTurn` — one turn of a task is a few moves.
-/

namespace Peripherals.Bench

open Coprocessor

/-- What a bench has of a radio on the scripted coprocessor. The calls on its adapter have tasks of their own. -/
def World.passage (w : World) (r : Radio) : Passage := ⟨w.script, r.station, []⟩

/-- A bench has the coprocessor of a passage, and the radio with its station. -/
structure Follows (n : Nat) (r : Radio) (p : Passage) (w : World) : Prop where
  script : w.script = p.script
  radio : w.things.get? n = some (.radio { r with station := p.station })

variable {w : World} {n : Nat} {r : Radio}

theorem transmit_scripted (c : Command) (w : World) :
    transmit .scripted c w = ((w.script.receive c w.now).1, { w with script := (w.script.receive c w.now).2 }) := rfl

/-- One thing after another. -/
theorem run_bind {α β : Type} (x : Bench α) (f : α → Bench β) (w : World) : (x >>= f) w = f (x w).1 (x w).2 := rfl

/-- **A poll** is a move of the pump. -/
theorem follows_poll (hroute : r.route = .scripted) (hwish : r.station.wish w.now = .poll) :
    Follows n r ((w.passage r).act (.pump w.now wall)) (poll n r w).2 := by
  have hact : (w.passage r).act (.pump w.now wall) = (w.passage r).pumpOnce w.now wall := rfl
  rw [poll, run_bind, run_bind, hroute, transmit_scripted, Script.receive_pollEvent, hact, Passage.pumpOnce,
    World.passage]
  simp only [hwish, Script.receive_pollEvent]
  refine ⟨rfl, ?_⟩
  rw [hroute]
  exact Table.get?_set_self _ _ _

/-- Once its event is in the inbox, a pump wants to poll. -/
theorem wish_accept {s : Station} {e : Event} {now : Nat} (h : s.wish now = .offer e) (now' : Nat) :
    (s.accept e).wish now' = .poll := by
  obtain ⟨p, hpump, -⟩ := Station.stage_of_wish (by rw [h]; exact nofun)
  rw [Station.wish, Station.accept, hpump]
  rfl

/-- **A turn of the pump** is no move, one, or two: an offer is followed by a poll. -/
theorem follows_pumpTurn (hradio : w.things.get? n = some (.radio r)) (hroute : r.route = .scripted) :
    ∃ moves, (∀ m ∈ moves, m = .pump w.now wall) ∧ Follows n r ((w.passage r).run moves) (pumpTurn n r w).2 := by
  have hget : (get : Bench World) w = (w, w) := rfl
  rw [pumpTurn, run_bind, hget]
  dsimp only
  cases hwish : r.station.wish w.now with
  | nothing => exact ⟨[], nofun, rfl, hradio⟩
  | poll =>
      obtain ⟨hscript, hradio'⟩ := follows_poll (n := n) hroute hwish
      exact ⟨[.pump w.now wall], by simp, hscript, hradio'⟩
  | offer e =>
      let w₁ := (put n (.radio { r with station := r.station.accept e }) w).2
      have hoffer : (w.passage r).act (.pump w.now wall) = w₁.passage { r with station := r.station.accept e } := by
        have hact : (w.passage r).act (.pump w.now wall) = (w.passage r).pumpOnce w.now wall := rfl
        rw [hact, Passage.pumpOnce, World.passage]
        simp only [hwish]
        rfl
      have hpoll : Follows n { r with station := r.station.accept e } _ (poll n _ w₁).2 :=
        follows_poll hroute (wish_accept hwish _)
      rw [← hoffer] at hpoll
      exact ⟨[.pump w.now wall, .pump w.now wall], by simp, hpoll.script, hpoll.radio⟩

/-- **A turn of the adapter** is no move, or one. -/
theorem follows_dispatchTurn (hradio : w.things.get? n = some (.radio r)) :
    ∃ moves, (∀ m ∈ moves, m = .dispatch wall) ∧ Follows n r ((w.passage r).run moves) (dispatchTurn n r w).2 := by
  unfold dispatchTurn
  cases holdest : r.station.oldest? with
  | none =>
      refine ⟨[], nofun, ?_⟩
      dsimp only
      split
      · exact ⟨rfl, hradio⟩
      · exact ⟨rfl, hradio⟩
  | some next =>
      obtain ⟨e, station⟩ := next
      have hact : (w.passage r).run [.dispatch wall] =
          ⟨w.script, { station with adapter := (station.adapter.dispatch e wall).1 }, []⟩ := by
        simp only [Passage.run, List.foldl_cons, List.foldl_nil, Passage.act, World.passage, holdest]
      refine ⟨[.dispatch wall], by simp, ?_⟩
      rw [hact]
      exact ⟨rfl, Table.get?_set_self _ _ _⟩

end Peripherals.Bench
