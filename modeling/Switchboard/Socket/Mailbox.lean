/-!
# Mailboxes

The messages that wait for the receiver of a channel: no more than there is room for, the one that
came first in front. Nothing enters a closed mailbox.
-/

namespace Switchboard

/-- A mailbox. -/
structure Mailbox where
  /-- The most messages that may wait. -/
  room : Nat
  queued : List String := []
  /-- Is there still a receiver? -/
  isOpen : Bool := true
  deriving DecidableEq, Repr, Inhabited

namespace Mailbox

/-- An empty mailbox with a receiver. -/
def ofRoom (room : Nat) : Mailbox := { room }

/-- Is there no room left? -/
def isFull (m : Mailbox) : Bool := m.room ≤ m.queued.length

/-- Does the mailbox take a message now? -/
def takes (m : Mailbox) : Bool := m.isOpen && !m.isFull

/-- Puts a message behind those that wait, whether or not there is room. -/
def push (m : Mailbox) (message : String) : Mailbox := { m with queued := m.queued ++ [message] }

/-- Puts a message behind those that wait, if the mailbox takes it. -/
def offer (m : Mailbox) (message : String) : Mailbox := if m.takes then m.push message else m

/-- Takes the message that came first. -/
def pop? (m : Mailbox) : Option (String × Mailbox) :=
  match m.queued with
  | [] => none
  | message :: rest => some (message, { m with queued := rest })

/-- Gives up the receiver with what waits for it. -/
def close (m : Mailbox) : Mailbox := { m with queued := [], isOpen := false }

end Mailbox

end Switchboard
