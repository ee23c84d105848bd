import Peripherals.Proofs.Event.Turns
import Peripherals.Proofs.Port.Conduct

/-!
# `Proofs.Link.Delivery` — what can come back for a command

A command comes back with a response, whatever its status, or with an error. Both ways to the coprocessor, the script
and the link over a bus, know only two sorts of errors: the command could not be sent, or the response could not be
read. Either way the command or its response is lost (`Error.isLoss`). So an error from below is never taken for one of
those with which a call says what it has found out itself.

* `Delivered` — a response, or a loss;
* `Script.delivered_receive`, `Script.delivered_proceed` — the scripted coprocessor; `Link.delivered_send` — the link;
* `Bench.delivered_transmit`, `Bench.delivered_follow` — commands on a bench.
-/

namespace Peripherals

namespace Coprocessor

/-- Whether an error says that a command or its response was lost. -/
def Error.isLoss : Error → Bool
  | .transport _ => true
  | .decode _ => true
  | _ => false

/-- **What can come back for a command**: a response, or the news that the command or its response was lost. -/
def Delivered (reply : Except Error Response) : Prop := ∀ e, reply = .error e → e.isLoss = true

theorem delivered_ok (response : Response) : Delivered (.ok response) := by
  intro e h
  contradiction

theorem delivered_error {e : Error} (h : e.isLoss = true) : Delivered (.error e) := by
  intro e' he
  obtain rfl := Except.error.inj he
  exact h

/-- What comes back for a command in transit, if anything does yet. -/
def Transit.Delivers (t : Transit) : Prop := ∀ reply, t.reply? = some reply → Delivered reply

theorem Transit.delivers_answered {reply : Except Error Response} (h : Delivered reply) :
    (Transit.answered reply).Delivers := by
  intro reply' hreply
  obtain rfl := Option.some.inj hreply
  exact h

theorem Transit.delivers_held (function : Function) (release : Nat) : (Transit.held function release).Delivers := by
  intro reply h
  contradiction

/-! ## The scripted coprocessor -/

namespace Script

variable (s : Script)

theorem delivered_collect (function : Function) : Delivered (s.collect function).1 := by
  unfold collect
  split
  · exact delivered_error rfl
  · split
    · exact delivered_ok _
    · exact delivered_ok _

theorem delivered_receive (c : Command) (now : Nat) : (s.receive c now).1.Delivers := by
  unfold receive
  split
  · exact Transit.delivers_answered (delivered_ok _)
  · split
    · exact Transit.delivers_answered (delivered_ok _)
    · dsimp only
      split
      · exact Transit.delivers_held _ _
      · exact Transit.delivers_answered (delivered_collect _ _)

theorem delivered_proceed {t : Transit} (ht : t.Delivers) (now : Nat) : (s.proceed t now).1.Delivers := by
  cases t with
  | answered reply => exact ht
  | held function release =>
      simp only [proceed]
      split
      · exact Transit.delivers_answered (delivered_collect s function)
      · exact Transit.delivers_held function release

end Script

/-! ## The link -/

namespace Link

open Hardware

theorem delivered_response (header payload : Bytes) : Delivered (response header payload) := by
  unfold response
  split
  · exact delivered_ok _
  · exact delivered_error rfl

theorem delivered_exchange (bus : FourWireBus) (selection : Selection) (frame : Bytes) :
    Within (bus.Selects selection.port.pin) (fun r => Delivered r.1) (exchange bus selection frame) := by
  refine within_bind (FourWireBus.within_selected bus selection (program frame)) ?_
  rintro ⟨outcome, port⟩ -
  cases outcome with
  | ok read => exact within_pure (delivered_response _ _)
  | error e => exact within_pure (delivered_error rfl)

/-- Whatever the hardware does, nothing is lost on a link but commands and responses. -/
theorem delivered_send (bus : FourWireBus) (selection : Selection) (c : Command) :
    Within (bus.Selects selection.port.pin) (fun r => Delivered r.1) (send bus selection c) := by
  refine within_bind (within_tell _) ?_
  intro _ _
  refine within_bind (delivered_exchange bus selection _) ?_
  rintro ⟨reply, port⟩ hreply
  cases reply with
  | ok response => exact within_bind (within_tell _) fun _ _ => within_pure hreply
  | error e => exact within_pure hreply

end Link

end Coprocessor

/-! ## Commands on a bench -/

namespace Bench

open Coprocessor

/-- **A program gives results of some sort**, wherever it starts. -/
def Gives {α : Type} (Q : α → Prop) (a : Bench α) : Prop := ∀ w, Q (a w).1

variable {α β : Type} {P : α → Prop} {Q : β → Prop}

theorem gives_pure {x : β} (h : Q x) : Gives Q (pure x) := fun _ => h

theorem Gives.bind {a : Bench α} {f : α → Bench β} (ha : Gives P a) (hf : ∀ x, P x → Gives Q (f x)) :
    Gives Q (a >>= f) := by
  intro w
  rw [run_bind]
  exact hf _ (ha w) _

/-- Nothing has to be known of what comes first. -/
theorem gives_bind {a : Bench α} {f : α → Bench β} (hf : ∀ x, Gives Q (f x)) : Gives Q (a >>= f) :=
  Gives.bind (P := fun _ => True) (fun _ => trivial) fun x _ => hf x

theorem delivered_sendOver (link : Nat) (c : Command) :
    Gives (fun reply? => ∀ reply, reply? = some reply → Delivered reply) (sendOver link c) := by
  refine gives_bind fun t => ?_
  split
  · next _ _ mode =>
      refine gives_bind fun bus => gives_bind fun select => ?_
      split
      · next bus port =>
          have hsend : Gives (fun r => Delivered r.1) (Link.send bus ⟨port, mode⟩ c).onBench :=
            fun w => (Link.delivered_send bus ⟨port, mode⟩ c w.hardware).2
          refine hsend.bind ?_
          rintro ⟨reply, port⟩ hreply
          refine gives_bind fun _ => gives_pure ?_
          intro reply' h
          obtain rfl := Option.some.inj h
          exact hreply
      · exact gives_pure nofun
  · exact gives_pure nofun

/-- **A command that is sent** comes back with a response or is lost, whichever way it goes. -/
theorem delivered_transmit (route : Route) (c : Command) : Gives Transit.Delivers (transmit route c) := by
  cases route with
  | scripted => exact fun w => Script.delivered_receive w.script c w.now
  | wired link =>
      refine Gives.bind (delivered_sendOver link c) ?_
      intro reply? hreply
      cases reply? with
      | none => exact gives_pure (Transit.delivers_answered (delivered_error rfl))
      | some reply => exact gives_pure (Transit.delivers_answered (hreply reply rfl))

/-- The same holds of one that was sent before. -/
theorem delivered_follow {t : Transit} (h : t.Delivers) : Gives Transit.Delivers (follow t) :=
  fun w => Script.delivered_proceed w.script h w.now

end Bench

end Peripherals
