/-! # Schedules

A system of flows goes on by steps of single flows.  Which flow goes next is open;
the schedule here always takes the first that can.

* `settle` lets the flows go on until all of them wait.
* `passTime` lets time pass; the clock stops at every timer on the way.
* `passWhile` lets time pass from timer to timer as long as something lasts.
-/

namespace SliderMixer

/-- A system of flows with a clock. -/
class FlowSystem (σ : Type) where
  /-- The state after a step of some flow, unless all of them wait. -/
  next? : σ → Option σ
  /-- The time of the next timer. -/
  timer? : σ → Option Nat
  clock : σ → Nat
  setClock : σ → Nat → σ

variable {σ : Type} [FlowSystem σ]

/-- Takes steps until all flows wait, at most `fuel` of them. -/
def settle : Nat → σ → σ
  | 0, s => s
  | fuel + 1, s =>
    match FlowSystem.next? s with
    | none => s
    | some s => settle fuel s

/-- Lets the clock go on to `target` and the flows go on at every timer that comes
    due; at most `timers` of them. -/
def passTime (fuel : Nat) (target : Nat) : Nat → σ → σ
  | 0, s => settle fuel (FlowSystem.setClock s target)
  | timers + 1, s =>
    match FlowSystem.timer? s with
    | some due =>
      if due ≤ target ∧ FlowSystem.clock s < due then
        passTime fuel target timers (settle fuel (FlowSystem.setClock s due))
      else settle fuel (FlowSystem.setClock s target)
    | none => settle fuel (FlowSystem.setClock s target)

/-- Lets the clock go on to the next timer, and the flows go on there, while `busy`
    holds; at most `timers` times. -/
def passWhile (fuel : Nat) (busy : σ → Bool) : Nat → σ → σ
  | 0, s => s
  | timers + 1, s =>
    match FlowSystem.timer? s with
    | some due =>
      if busy s then
        passWhile fuel busy timers
          (settle fuel (FlowSystem.setClock s (max due (FlowSystem.clock s))))
      else s
    | none => s

end SliderMixer
