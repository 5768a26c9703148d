import Switchboard.Dictionary
import Switchboard.Socket.Mailbox
import Switchboard.Socket.Push

/-!
# The hub of channels

The channels bound to each path, their mailboxes, and the tasks that call pushes. A periodic push
has one task as long as its path has channels; a push by request has one for each channel. What
cancels a task stops it where it sleeps. A task that waits for room in a mailbox is not stopped until
it has left its message there.
-/

namespace Switchboard

/-- A channel; no two have the same number. -/
abbrev ChannelId := Nat

/-- What a task calls its push for. -/
inductive TaskScope where
  | path
  | channel (id : ChannelId) (handshake : Request)
  deriving Inhabited

namespace TaskScope

/-- The channel of a task that has one of its own. -/
def channel? : TaskScope → Option ChannelId
  | path => none
  | channel id _ => some id

end TaskScope

/-- What a task waits for. -/
inductive TaskStage where
  /-- The time of its next call. -/
  | asleep (due : Nat)
  /-- Room for a message, since some time. -/
  | blocked (message : String) (since : Nat)
  deriving DecidableEq, Repr, Inhabited

/-- A task that calls a push. -/
structure PushTask (σ : Type) where
  push : Push σ
  scope : TaskScope
  stage : TaskStage
  /-- Will it stop when it is no longer blocked? -/
  cancelled : Bool := false

namespace PushTask
variable {σ : Type}

/-- A task that sleeps before its first call. -/
def starting (clock : Nat) (scope : TaskScope) (push : Push σ) : PushTask σ where
  push := push
  scope := scope
  stage := .asleep (clock + push.delay)

/-- Does the task call a push of this path for all its channels? -/
def isOfPath (path : String) (t : PushTask σ) : Bool :=
  t.push.path == path && t.scope.channel?.isNone

/-- Does the task call a push for this channel? -/
def isOfChannel (id : ChannelId) (t : PushTask σ) : Bool := t.scope.channel? == some id

/-- The task after it is cancelled, unless that ends it. -/
def cancel? (t : PushTask σ) : Option (PushTask σ) :=
  match t.stage with
  | .asleep _ => none
  | .blocked .. => some { t with cancelled := true }

end PushTask

/-- The state of the hub. Times are milliseconds since it began. -/
structure Hub (σ : Type) where
  /-- The pushes by path, in order of registration. -/
  pushes : Dictionary (List (Push σ)) := []
  /-- The most messages that wait for one channel. -/
  capacity : Nat := 1
  clock : Nat := 0
  nextId : ChannelId := 0
  /-- The channels bound to each path that has any. -/
  channels : Dictionary (List ChannelId) := []
  /-- The paths whose periodic pushes run. -/
  pushing : List String := []
  /-- The channels for which pushes by request run. -/
  served : List ChannelId := []
  /-- The mailbox of every channel there ever was. -/
  mailboxes : List (ChannelId × Mailbox) := []
  tasks : List (PushTask σ) := []

namespace Hub
variable {σ : Type}

instance : Inhabited (Hub σ) := ⟨{}⟩

/-- A hub for some pushes. There is room for one message at least. -/
def ofPushes (pushes : List (Push σ)) (capacity : Nat) : Hub σ where
  pushes := pushes.foldl (fun d p => Dictionary.modify d p.path fun old => old.getD [] ++ [p]) []
  capacity := max capacity 1

/-- The pushes of a path. -/
def pushesOf (h : Hub σ) (path : String) : List (Push σ) := (Dictionary.get? h.pushes path).getD []

/-- The pushes of a path that are called on one event. -/
def pushesOn (h : Hub σ) (event : PushEvent) (path : String) : List (Push σ) :=
  (h.pushesOf path).filter (·.event = event)

/-- Has the path pushes? -/
def hasPushes (h : Hub σ) (path : String) : Bool := (Dictionary.get? h.pushes path).isSome

/-- The paths that have pushes. -/
def pushPaths (h : Hub σ) : List String := Dictionary.keys h.pushes

/-- The channels bound to a path. -/
def channelsOf (h : Hub σ) (path : String) : List ChannelId :=
  (Dictionary.get? h.channels path).getD []

/-- The number of channels bound to a path. -/
def channelCount (h : Hub σ) (path : String) : Nat := (h.channelsOf path).length

/-- Do periodic pushes of a path run? -/
def isPushing (h : Hub σ) (path : String) : Bool := h.pushing.contains path

/-- The mailbox of a channel. -/
def mailbox? (h : Hub σ) (id : ChannelId) : Option Mailbox := h.mailboxes.lookup id

/-- Changes the mailbox of a channel. -/
def onMailbox (id : ChannelId) (f : Mailbox → Mailbox) (l : List (ChannelId × Mailbox)) :
    List (ChannelId × Mailbox) :=
  l.map fun (i, m) => (i, if i = id then f m else m)

/-! ## Binding -/

/-- Starts tasks, each of which first calls its push after the push's delay. -/
def start (h : Hub σ) (scope : TaskScope) (pushes : List (Push σ)) : Hub σ :=
  { h with tasks := h.tasks ++ pushes.map (PushTask.starting h.clock scope) }

/-- Cancels the tasks that satisfy a test. -/
def cancelWhere (h : Hub σ) (p : PushTask σ → Bool) : Hub σ :=
  { h with tasks := h.tasks.filterMap fun t => if p t then t.cancel? else some t }

/-- Adds a channel to those of a path. -/
def addChannel (h : Hub σ) (path : String) (id : ChannelId) : Hub σ :=
  { h with channels := Dictionary.put path (h.channelsOf path ++ [id]) h.channels }

/-- Runs the periodic pushes of a path that now has its first channel. -/
def startPeriodic (h : Hub σ) (path : String) : Hub σ :=
  let pushes := h.pushesOn .periodic path
  if h.channelCount path = 1 && !pushes.isEmpty then
    { h.start .path pushes with pushing := h.pushing ++ [path] }
  else h

/-- Runs the pushes by request for a channel. -/
def startServing (h : Hub σ) (path : String) (id : ChannelId) (handshake : Request) : Hub σ :=
  let pushes := h.pushesOn .request path
  if pushes.isEmpty then h
  else { h.start (.channel id handshake) pushes with served := h.served ++ [id] }

/-- Binds a new channel to a path. -/
def bind (h : Hub σ) (path : String) (handshake : Request) : ChannelId × Hub σ :=
  let id := h.nextId
  let h := { h with
    nextId := id + 1
    mailboxes := h.mailboxes ++ [(id, Mailbox.ofRoom h.capacity)] }
  (id, ((h.addChannel path id).startPeriodic path).startServing path id handshake)

/-- Removes a channel from those of a path. The last one stops the periodic pushes. -/
def removeChannel (h : Hub σ) (path : String) (id : ChannelId) : Hub σ :=
  match Dictionary.get? h.channels path with
  | none => h
  | some ids =>
    let rest := ids.filter (· ≠ id)
    if rest.isEmpty then
      { h.cancelWhere (·.isOfPath path) with
        channels := Dictionary.erase h.channels path
        pushing := h.pushing.filter (· ≠ path) }
    else { h with channels := Dictionary.put path rest h.channels }

/-- Stops the pushes by request for a channel. -/
def stopServing (h : Hub σ) (id : ChannelId) : Hub σ :=
  { h.cancelWhere (·.isOfChannel id) with served := h.served.filter (· ≠ id) }

/-- Unbinds a channel from a path, whether or not it is bound there. -/
def unbind (h : Hub σ) (path : String) (id : ChannelId) : Hub σ :=
  (h.removeChannel path id).stopServing id

/-- Unbinds every channel. -/
def shutdown (h : Hub σ) : Hub σ :=
  { h.cancelWhere fun _ => true with channels := [], pushing := [], served := [] }

/-! ## Messages -/

/-- Offers a message to the mailboxes of some channels. -/
def offerAll (ids : List ChannelId) (message : String) (l : List (ChannelId × Mailbox)) :
    List (ChannelId × Mailbox) :=
  l.map fun (i, m) => (i, if ids.contains i then m.offer message else m)

/-- Offers a message to every channel of a path. Returns how many of them took it. -/
def broadcast (h : Hub σ) (path message : String) : Nat × Hub σ :=
  let ids := h.channelsOf path
  (ids.countP fun id => (h.mailbox? id).any Mailbox.takes,
    { h with mailboxes := offerAll ids message h.mailboxes })

/-- Lets the tasks that wait for room in a mailbox leave their messages there as far as it goes. A
task goes on then, unless it is cancelled; without a receiver it ends. -/
def settleTasks (clock : Nat) (id : ChannelId) : List (PushTask σ) → Mailbox →
    List (PushTask σ) × Mailbox
  | [], m => ([], m)
  | t :: rest, m =>
    match t.stage with
    | .blocked message _ =>
      if t.isOfChannel id then
        if !m.isOpen then settleTasks clock id rest m
        else if m.isFull then
          let (rest, m) := settleTasks clock id rest m
          (t :: rest, m)
        else
          let (rest, m) := settleTasks clock id rest (m.push message)
          let next := { t with stage := .asleep (clock + t.push.delay) }
          (if t.cancelled then rest else next :: rest, m)
      else
        let (rest, m) := settleTasks clock id rest m
        (t :: rest, m)
    | .asleep _ =>
      let (rest, m) := settleTasks clock id rest m
      (t :: rest, m)

/-- The time since when a task is blocked, or zero. -/
def blockedSince (t : PushTask σ) : Nat :=
  match t.stage with
  | .blocked _ since => since
  | .asleep _ => 0

/-- Changes the mailbox of a channel, and lets the tasks that wait for room there go on, those that
wait longest first. -/
def settle (h : Hub σ) (id : ChannelId) (f : Mailbox → Mailbox) : Hub σ :=
  match h.mailbox? id with
  | none => h
  | some m =>
    let waiting := h.tasks.mergeSort fun a b => blockedSince a ≤ blockedSince b
    let (tasks, m) := settleTasks h.clock id waiting (f m)
    { h with tasks, mailboxes := onMailbox id (fun _ => m) h.mailboxes }

/-- Takes the messages that wait for a channel. -/
def drain (h : Hub σ) (id : ChannelId) : List String × Hub σ :=
  (((h.mailbox? id).map (·.queued)).getD [], h.settle id fun m => { m with queued := [] })

/-- Takes the message that came first to a channel, if any waits. -/
def receive? (h : Hub σ) (id : ChannelId) : Option (String × Hub σ) := do
  let m ← h.mailbox? id
  let (message, _) ← m.pop?
  return (message, h.settle id fun m => { m with queued := m.queued.tail })

/-- Gives up the receiver of a channel. The channel stays bound. -/
def close (h : Hub σ) (id : ChannelId) : Hub σ := h.settle id Mailbox.close

end Hub

end Switchboard
