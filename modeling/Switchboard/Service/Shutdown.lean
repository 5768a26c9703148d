/-!
# Shutting down

A signal that is given once and seen by everyone who waits for it, whether they began to wait before
it was given or after. To wait is to subscribe, then to look whether the signal was given, and only
then to sleep; to give it is to set the flag, then to wake everyone who has subscribed. What others
do may come between the steps.
-/

namespace Switchboard

/-- How far a wait has come. -/
inductive WaitStage where
  | subscribed
  | asleep
  | done
  deriving DecidableEq, Repr

/-- A wait. -/
structure Waiter where
  stage : WaitStage := .subscribed
  /-- Has it been woken since it subscribed? -/
  woken : Bool := false
  deriving DecidableEq, Repr

namespace Waiter

/-- Is it still subscribed? -/
def isSubscribed (w : Waiter) : Bool := w.stage ≠ .done

/-- Looks whether the signal was given. -/
def look (triggered : Bool) (w : Waiter) : Waiter :=
  match w.stage with
  | .subscribed => { w with stage := if triggered then .done else .asleep }
  | _ => w

/-- Is woken, if it is still subscribed. -/
def wake (w : Waiter) : Waiter := if w.isSubscribed then { w with woken := true } else w

/-- Gets up, if it was woken while asleep. -/
def getUp (w : Waiter) : Waiter :=
  if w.stage = .asleep && w.woken then { w with stage := .done } else w

end Waiter

/-- The state of the signal. -/
structure Shutdown where
  triggered : Bool := false
  waiters : List Waiter := []
  /-- Those who have subscribed without waiting. -/
  listeners : Nat := 0
  /-- How many have set the flag and not yet woken the others. -/
  signalling : Nat := 0
  deriving DecidableEq, Repr, Inhabited

namespace Shutdown

/-! ## Steps -/

/-- Begins to wait. -/
def subscribe (s : Shutdown) : Shutdown := { s with waiters := s.waiters ++ [{}] }

/-- A wait looks whether the signal was given. -/
def look (s : Shutdown) (i : Nat) : Shutdown :=
  { s with waiters := s.waiters.modify i (·.look s.triggered) }

/-- A wait gets up if it can. -/
def getUp (s : Shutdown) (i : Nat) : Shutdown :=
  { s with waiters := s.waiters.modify i Waiter.getUp }

/-- Sets the flag. -/
def raise (s : Shutdown) : Shutdown :=
  { s with triggered := true, signalling := s.signalling + 1 }

/-- Wakes everyone who has subscribed. -/
def wake (s : Shutdown) : Shutdown :=
  match s.signalling with
  | 0 => s
  | n + 1 => { s with signalling := n, waiters := s.waiters.map Waiter.wake }

/-! ## Whole calls -/

/-- Waits, up to where it has to sleep. -/
def wait (s : Shutdown) : Shutdown := s.subscribe.look s.waiters.length

/-- Gives the signal. -/
def trigger (s : Shutdown) : Shutdown := s.raise.wake

/-- Everyone gets up who can. -/
def settle (s : Shutdown) : Shutdown := { s with waiters := s.waiters.map Waiter.getUp }

/-- Subscribes without waiting. -/
def listen (s : Shutdown) : Shutdown := { s with listeners := s.listeners + 1 }

/-- Gives up a subscription without a wait. -/
def leave (s : Shutdown) : Shutdown := { s with listeners := s.listeners - 1 }

/-- How many are subscribed. -/
def receiverCount (s : Shutdown) : Nat := s.listeners + s.waiters.countP Waiter.isSubscribed

/-- Which waits are over. -/
def finished (s : Shutdown) : List Bool := s.waiters.map fun w => !w.isSubscribed

end Shutdown

end Switchboard
