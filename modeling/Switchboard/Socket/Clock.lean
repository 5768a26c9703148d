import Switchboard.Socket.Hub

/-!
# Pushes in time

The clock of the hub goes on by milliseconds. At each one every task that is due calls its push, and
what the push has to say goes to the channels of its path, or to the task's own channel, where the
task waits if there is no room. Then it sleeps for the delay of its push.
-/

namespace Switchboard

/-- Calls a push with a request; a push may have nothing to say. -/
abbrev Speaker (σ : Type) := Push σ → Request → StateM σ (Option String)

namespace PushTask
variable {σ : Type}

/-- The request that a task calls its push with. -/
def request (t : PushTask σ) : Request :=
  match t.scope with
  | .path => .ofUri .ws t.push.path
  | .channel _ handshake => handshake

/-- Does the task call its push at this time? -/
def isDue (clock : Nat) (t : PushTask σ) : Bool :=
  match t.stage with
  | .asleep due => due ≤ clock
  | .blocked .. => false

end PushTask

namespace Hub
variable {σ : Type}

/-- Where the message of a task goes, and what becomes of the task. -/
def deliver (h : Hub σ) (t : PushTask σ) (message : Option String) :
    Option (PushTask σ) × List (ChannelId × Mailbox) :=
  let again := some { t with stage := .asleep (h.clock + t.push.delay) }
  match message, t.scope with
  | none, _ => (again, h.mailboxes)
  | some message, .path => (again, offerAll (h.channelsOf t.push.path) message h.mailboxes)
  | some message, .channel id _ =>
    match h.mailbox? id with
    | none => (none, h.mailboxes)
    | some m =>
      if !m.isOpen then (none, h.mailboxes)
      else if m.isFull then (some { t with stage := .blocked message h.clock }, h.mailboxes)
      else (again, onMailbox id (·.push message) h.mailboxes)

/-- Runs the tasks that are due; `done` are those that have had their turn. -/
def runTasks (say : Speaker σ) (done : List (PushTask σ)) :
    List (PushTask σ) → Hub σ → StateM σ (Hub σ)
  | [], h => return { h with tasks := done }
  | t :: rest, h => do
    if t.isDue h.clock then
      let message ← say t.push t.request
      let (next, mailboxes) := h.deliver t message
      runTasks say (done ++ next.toList) rest { h with mailboxes }
    else runTasks say (done ++ [t]) rest h

/-- The clock goes on by one millisecond. -/
def tick (say : Speaker σ) (h : Hub σ) : StateM σ (Hub σ) :=
  let h := { h with clock := h.clock + 1 }
  runTasks say [] h.tasks h

/-- The clock goes on by some milliseconds. -/
def advance (say : Speaker σ) : Nat → Hub σ → StateM σ (Hub σ)
  | 0, h => return h
  | n + 1, h => do advance say n (← h.tick say)

end Hub

end Switchboard
