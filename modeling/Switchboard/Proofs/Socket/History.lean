import Switchboard.Proofs.Socket.Mailboxes
import Switchboard.Proofs.Socket.Tasks

/-!
# Histories of a hub

What happened to a hub is kept as a list of events, the last first, each with the hub as it was just
before (`Past`). `Hub.Leads` ties such a list to the states of a hub, whatever is done to it and in
whatever order. Time goes on in turns of single tasks, so what a turn keeps, time keeps
(`KeptByTime.advance`).

Tables and mailboxes follow from the past (`Hub.Leads.tracked`): a channel is in the table of a path
just if it was bound there and neither unbound nor shut down since.
-/

namespace Switchboard

variable {σ : Type}

/-- Something that happens to a hub. -/
inductive HubEvent where
  | bound (path : String) (id : ChannelId)
  | unbound (path : String) (id : ChannelId)
  | shut
  /-- A message goes to all channels of a path, by a broadcast or by a periodic push. -/
  | offered (path message : String)
  | took (id : ChannelId) (messages : List String)
  | closed (id : ChannelId)
  /-- Somebody else has used the sender of a channel. -/
  | posted (id : ChannelId)
  deriving DecidableEq, Repr

/-- Does the event leave the tables of channels alone? -/
def HubEvent.isQuiet : HubEvent → Bool
  | bound .. | unbound .. | shut => false
  | offered .. | took .. | closed _ | posted _ => true

/-- What happened, the last first, each time with the hub as it was just before. -/
abbrev Past (σ : Type) := List (Hub σ × HubEvent)

namespace Past

/-- What happened, without the hubs. -/
def events (past : Past σ) : List HubEvent := past.map (·.2)

/-- Is the channel bound to the path after all this? -/
def isBound (path : String) (id : ChannelId) : Past σ → Bool
  | [] => false
  | (_, e) :: past =>
    match e with
    | .bound p i => (p == path && i == id) || isBound path id past
    | .unbound p i => !(p == path && i == id) && isBound path id past
    | .shut => false
    | .offered .. | .took .. | .closed _ | .posted _ => isBound path id past

/-- The messages that went to a path while the channel was bound to it, the first first. -/
def offersTo (path : String) (id : ChannelId) : Past σ → List (Hub σ × String)
  | [] => []
  | (h, e) :: past =>
    match e with
    | .offered p message =>
      offersTo path id past ++ if p == path && isBound path id past then [(h, message)] else []
    | .bound .. | .unbound .. | .shut | .took .. | .closed _ | .posted _ => offersTo path id past

/-- The messages that were taken from a channel, the first first. -/
def receivedBy (id : ChannelId) : Past σ → List String
  | [] => []
  | (_, e) :: past =>
    match e with
    | .took i messages => receivedBy id past ++ if i = id then messages else []
    | .bound .. | .unbound .. | .shut | .offered .. | .closed _ | .posted _ => receivedBy id past

theorem events_append (later past : Past σ) : events (later ++ past) = later.events ++ past.events :=
  List.map_append

/-- What is quiet binds and unbinds nothing. -/
theorem isBound_append {later : Past σ} (quiet : ∀ e ∈ later.events, e.isQuiet = true)
    (path : String) (id : ChannelId) (past : Past σ) :
    isBound path id (later ++ past) = isBound path id past := by
  induction later with
  | nil => rfl
  | cons moment later ih =>
    obtain ⟨h, e⟩ := moment
    have rest := ih fun e he => quiet e (List.mem_cons_of_mem _ he)
    have first := quiet e List.mem_cons_self
    cases e with
    | bound | unbound | shut => cases first
    | offered | took | closed | posted => exact rest

/-- An event that binds nothing changes nothing of what was bound. -/
theorem bound_of_mem_cons {path : String} {id : ChannelId} {h : Hub σ} {e : HubEvent} {past : Past σ}
    (hm : .bound path id ∈ events ((h, e) :: past)) (other : e ≠ .bound path id) :
    .bound path id ∈ past.events := by
  rcases List.mem_cons.1 hm with same | old
  · exact absurd same.symm other
  · exact old

/-- A channel that is bound was bound. -/
theorem bound_of_isBound {path : String} {id : ChannelId} {past : Past σ}
    (h : past.isBound path id = true) : .bound path id ∈ past.events := by
  induction past with
  | nil => cases h
  | cons moment past ih =>
    obtain ⟨g, e⟩ := moment
    cases e with
    | bound p i =>
      simp only [isBound, Bool.or_eq_true, Bool.and_eq_true, beq_iff_eq] at h
      rcases h with ⟨rfl, rfl⟩ | h
      · exact List.mem_cons_self
      · exact List.mem_cons_of_mem _ (ih h)
    | unbound p i =>
      simp only [isBound, Bool.and_eq_true] at h
      exact List.mem_cons_of_mem _ (ih h.2)
    | shut => cases h
    | offered | took | closed | posted => exact List.mem_cons_of_mem _ (ih h)

end Past

/-! ## Turns of tasks -/

/-- What the message of a task makes happen, if it goes to all channels of a path. -/
def PushTask.offer? (t : PushTask σ) (message : Option String) : Option HubEvent :=
  match t.scope, message with
  | .path, some message => some (.offered t.push.path message)
  | _, _ => none

namespace Hub

/-- The hub after a task has had its turn, between those that have had theirs and those that have
not. -/
def afterTurn (h : Hub σ) (done : List (PushTask σ)) (t : PushTask σ) (rest : List (PushTask σ))
    (message : Option String) : Hub σ :=
  { h with
    tasks := done ++ (h.deliver t message).1.toList ++ rest
    mailboxes := (h.deliver t message).2 }

/-- What happens while the tasks that are due have their turns. -/
def turns (say : Speaker σ) (done : List (PushTask σ)) :
    List (PushTask σ) → Hub σ → σ → Past σ
  | [], _, _ => []
  | t :: rest, h, world =>
    if t.isDue h.clock then
      let called := (say t.push t.request).run world
      let turned := h.deliver t called.1
      turns say (done ++ turned.1.toList) rest { h with mailboxes := turned.2 } called.2 ++
        (t.offer? called.1).toList.map ({ h with tasks := done ++ t :: rest }, ·)
    else turns say (done ++ [t]) rest h world

/-- What happens in some milliseconds. -/
def rounds (say : Speaker σ) : Nat → Hub σ → σ → Past σ
  | 0, _, _ => []
  | n + 1, h, world =>
    let next := (h.tick say).run world
    rounds say n next.1 next.2 ++ turns say [] h.tasks { h with clock := h.clock + 1 } world

end Hub

/-- What the clock and the turn of any task leave true. -/
structure KeptByTime (P : Past σ → Hub σ → Prop) : Prop where
  clock : ∀ past h, P past h → P past { h with clock := h.clock + 1 }
  turn : ∀ past (h : Hub σ) done t rest message, h.tasks = done ++ t :: rest →
    t.isDue h.clock = true → P past h →
      P ((t.offer? message).toList.map (h, ·) ++ past) (h.afterTurn done t rest message)

namespace KeptByTime

variable {P : Past σ → Hub σ → Prop} (kept : KeptByTime P) (say : Speaker σ)

include kept

theorem turns (done rest : List (PushTask σ)) {past : Past σ} {h : Hub σ} (world : σ)
    (before : P past { h with tasks := done ++ rest }) :
    P (h.turns say done rest world ++ past) ((Hub.runTasks say done rest h).run world).1 := by
  induction rest generalizing done past h world with
  | nil =>
    rw [List.append_nil] at before
    exact before
  | cons t rest ih =>
    rw [Hub.turns, Hub.runTasks]
    by_cases due : t.isDue h.clock = true
    · rw [if_pos due, if_pos due]
      dsimp only
      rw [List.append_assoc]
      exact ih _ _ (kept.turn _ _ _ _ _ _ rfl due before)
    · rw [if_neg due, if_neg due]
      refine ih _ _ ?_
      rwa [List.append_assoc]

/-- **What a turn keeps, time keeps.** -/
theorem advance (n : Nat) {past : Past σ} {h : Hub σ} (world : σ) (before : P past h) :
    P (h.rounds say n world ++ past) ((h.advance say n).run world).1 := by
  induction n generalizing past h world with
  | zero => exact before
  | succ n ih =>
    rw [Hub.rounds, List.append_assoc]
    exact ih _ (kept.turns say [] h.tasks world (kept.clock _ _ before))

end KeptByTime

namespace Hub

/-! ## Histories -/

/-- The hub after somebody else has used the sender of a channel: other messages wait there. -/
def refill (h : Hub σ) (id : ChannelId) (queued : List String) : Hub σ :=
  { h with mailboxes := onMailbox id (fun m => { m with queued }) h.mailboxes }

/-- A refill is for one channel. -/
theorem mailbox?_refill (h : Hub σ) (i id : ChannelId) (queued : List String) :
    (h.refill i queued).mailbox? id =
      (h.mailbox? id).map fun m => if id = i then { m with queued } else m :=
  lookup_onMailbox i id (fun m => { m with queued }) h.mailboxes

/-- What can become of a hub, with what happens on the way. Receivers are given up and senders used
by others only of channels that there are. -/
inductive Leads (h₀ : Hub σ) : Past σ → Hub σ → Prop where
  | start : Leads h₀ [] h₀
  | bind {past : Past σ} {h : Hub σ} (before : Leads h₀ past h) (path : String)
      (handshake : Request) :
      Leads h₀ ((h, .bound path (h.bind path handshake).1) :: past) (h.bind path handshake).2
  | unbind {past : Past σ} {h : Hub σ} (before : Leads h₀ past h) (path : String)
      (id : ChannelId) : Leads h₀ ((h, .unbound path id) :: past) (h.unbind path id)
  | shutdown {past : Past σ} {h : Hub σ} (before : Leads h₀ past h) :
      Leads h₀ ((h, .shut) :: past) h.shutdown
  | broadcast {past : Past σ} {h : Hub σ} (before : Leads h₀ past h) (path message : String) :
      Leads h₀ ((h, .offered path message) :: past) (h.broadcast path message).2
  | advance {past : Past σ} {h : Hub σ} (before : Leads h₀ past h) (say : Speaker σ) (n : Nat)
      (world : σ) : Leads h₀ (h.rounds say n world ++ past) ((h.advance say n).run world).1
  | drain {past : Past σ} {h : Hub σ} (before : Leads h₀ past h) (id : ChannelId) :
      Leads h₀ ((h, .took id (h.drain id).1) :: past) (h.drain id).2
  | receive {past : Past σ} {h next : Hub σ} (before : Leads h₀ past h) {id : ChannelId}
      {message : String} (taken : h.receive? id = some (message, next)) :
      Leads h₀ ((h, .took id [message]) :: past) next
  | close {past : Past σ} {h : Hub σ} (before : Leads h₀ past h) {id : ChannelId}
      (there : id < h.nextId) : Leads h₀ ((h, .closed id) :: past) (h.close id)
  | post {past : Past σ} {h : Hub σ} (before : Leads h₀ past h) {id : ChannelId}
      (there : id < h.nextId) (queued : List String) :
      Leads h₀ ((h, .posted id) :: past) (h.refill id queued)

/-! ## What follows from the past -/

/-- The tables and mailboxes of a hub are those that its past makes. -/
structure Tracked (pushes : List (Push σ)) (capacity : Nat) (past : Past σ) (h : Hub σ) : Prop where
  listed : ∀ event path, h.pushesOn event path = pushesFor pushes event path
  room : h.capacity = max capacity 1
  channels : ∀ path id, id ∈ h.channelsOf path ↔ past.isBound path id = true
  nodup : ∀ path, (h.channelsOf path).Nodup
  issued : ∀ path id, .bound path id ∈ past.events → id < h.nextId
  once : ∀ path other id, .bound path id ∈ past.events → .bound other id ∈ past.events →
    other = path
  mailbox : ∀ id < h.nextId, ∃ m, h.mailbox? id = some m ∧ m.room = max capacity 1 ∧
    (.closed id ∉ past.events → m.isOpen = true)
  unissued : ∀ id, h.nextId ≤ id → h.mailbox? id = none
  scopes : ∀ t ∈ h.tasks, ∀ id, t.scope.channel? = some id → id < h.nextId

/-- A hub goes on to another while the tables of channels stay as they are. -/
structure LeavesTables (events : List HubEvent) (h h' : Hub σ) : Prop where
  frame : h' = { h with clock := h'.clock, tasks := h'.tasks, mailboxes := h'.mailboxes }
  quiet : ∀ e ∈ events, e.isQuiet = true
  scopes : ∀ t ∈ h'.tasks, ∃ t₀ ∈ h.tasks, t.scope = t₀.scope
  mailboxes : ∀ id, ∃ f : Mailbox → Mailbox, h'.mailbox? id = (h.mailbox? id).map f ∧
    ∀ m, (f m).room = m.room ∧ (.closed id ∉ events → (f m).isOpen = m.isOpen)

namespace LeavesTables

variable {h : Hub σ}

theorem clock (h : Hub σ) : LeavesTables [] h { h with clock := h.clock + 1 } := by
  refine ⟨rfl, List.forall_mem_nil _, fun t ht => ⟨t, ht, rfl⟩, fun id => ⟨fun m => m, ?_, ?_⟩⟩
  · simp [mailbox?]
  · exact fun m => ⟨rfl, fun _ => rfl⟩

/-- The turn of a task changes no table but for what it offers. -/
theorem turn {done rest : List (PushTask σ)} {t : PushTask σ} (tasks : h.tasks = done ++ t :: rest)
    (message : Option String) :
    LeavesTables (t.offer? message).toList h (h.afterTurn done t rest message) := by
  refine ⟨rfl, fun e he => ?_, fun u hu => ?_, fun id => ?_⟩
  · unfold PushTask.offer? at he
    split at he
    · rw [List.mem_singleton.1 he]
      rfl
    · cases he
  · rw [tasks]
    rcases List.mem_append.1 hu with hu | hu
    · rcases List.mem_append.1 hu with hu | hu
      · exact ⟨u, List.mem_append_left _ hu, rfl⟩
      · refine ⟨t, by simp, ?_⟩
        rcases deliver_next h t message with ended | ⟨stage, next⟩
        · rw [ended] at hu
          cases hu
        · rw [next] at hu
          rw [List.mem_singleton.1 hu]
    · exact ⟨u, List.mem_append_right _ (List.mem_cons_of_mem _ hu), rfl⟩
  · cases message with
    | none =>
      refine ⟨fun m => m, ?_, fun m => ⟨rfl, fun _ => rfl⟩⟩
      change (h.deliver t none).2.lookup id = _
      rw [deliver_none]
      simp [mailbox?]
    | some message =>
      refine ⟨_, lookup_deliver h t message id, fun m => ?_⟩
      have frame := m.offer_frame message
      split
      · exact ⟨frame.1, fun _ => frame.2⟩
      · exact ⟨rfl, fun _ => rfl⟩

/-- A broadcast fills mailboxes and leaves the tables. -/
theorem broadcast (h : Hub σ) (path message : String) :
    LeavesTables [.offered path message] h (h.broadcast path message).2 := by
  refine ⟨rfl, by simp [HubEvent.isQuiet], fun t ht => ⟨t, ht, rfl⟩, fun id => ?_⟩
  refine ⟨_, lookup_offerAll (h.channelsOf path) message id h.mailboxes, fun m => ?_⟩
  have frame := m.offer_frame message
  split
  · exact ⟨frame.1, fun _ => frame.2⟩
  · exact ⟨rfl, fun _ => rfl⟩

/-- What a channel does with its own mailbox leaves the tables. -/
theorem settle (h : Hub σ) {id : ChannelId} {f : Mailbox → Mailbox} {e : HubEvent}
    (quiet : e.isQuiet = true)
    (hf : ∀ m, (f m).room = m.room ∧ (e ≠ .closed id → (f m).isOpen = m.isOpen)) :
    LeavesTables [e] h (h.settle id f) := by
  obtain ⟨g, changed, frame, -⟩ := mailbox?_settle id h f
  refine ⟨by rw [settle_frame], by simpa using quiet, fun t ht => scope_settle id h f ht,
    fun other => ⟨_, changed other, fun m => ?_⟩⟩
  split
  · next same =>
    subst same
    rw [(frame m).1, (frame m).2]
    exact ⟨(hf m).1, fun not => (hf m).2 fun closed => not (closed ▸ List.mem_singleton_self _)⟩
  · exact ⟨rfl, fun _ => rfl⟩

theorem refill (h : Hub σ) (id : ChannelId) (queued : List String) :
    LeavesTables [.posted id] h (h.refill id queued) := by
  refine ⟨rfl, by simp [HubEvent.isQuiet], fun t ht => ⟨t, ht, rfl⟩, fun other => ?_⟩
  refine ⟨_, mailbox?_refill h id other queued, fun m => ?_⟩
  split
  · exact ⟨rfl, fun _ => rfl⟩
  · exact ⟨rfl, fun _ => rfl⟩

end LeavesTables

/-- A new channel has an empty mailbox, and the others keep theirs. -/
theorem mailbox?_bind (h : Hub σ) (path : String) (handshake : Request) (id : ChannelId) :
    (h.bind path handshake).2.mailbox? id =
      (h.mailbox? id).or (if id = h.nextId then some (.ofRoom h.capacity) else none) := by
  rw [bind_eq]
  refine List.lookup_append.trans (congrArg _ ?_)
  rw [List.lookup_cons]
  by_cases same : id = h.nextId
  · simp [same]
  · simp [same, beq_false_of_ne same]

theorem mailbox?_unbind (h : Hub σ) (path : String) (id i : ChannelId) :
    (h.unbind path id).mailbox? i = h.mailbox? i := by
  change (h.removeChannel path id).mailboxes.lookup i = _
  rw [(removeChannel_frame h path id).2.2.1]
  rfl

theorem scope_unbind {h : Hub σ} {path : String} {id : ChannelId} {t : PushTask σ}
    (ht : t ∈ (h.unbind path id).tasks) : ∃ t₀ ∈ h.tasks, t.scope = t₀.scope := by
  obtain ⟨t₁, h₁, e₁⟩ := mem_cancelWhere ht
  obtain ⟨t₀, h₀, e₀⟩ := (removeChannel_frame h path id).2.2.2.2 t₁ h₁
  exact ⟨t₀, h₀, e₁.trans e₀⟩

theorem unbind_capacity (h : Hub σ) (path : String) (id : ChannelId) :
    (h.unbind path id).capacity = h.capacity := by
  change (h.removeChannel path id).capacity = _
  rcases removeChannel_cases h path id with ⟨-, -, he⟩ | ⟨-, he⟩ | ⟨-, he⟩
  · rw [he]
  · rw [he]
    rfl
  · rw [he]

namespace Tracked

variable {pushes : List (Push σ)} {capacity : Nat} {past : Past σ} {h : Hub σ}

theorem start (pushes : List (Push σ)) (capacity : Nat) :
    Tracked pushes capacity [] (.ofPushes pushes capacity) where
  listed := pushesOn_ofPushes pushes capacity
  room := rfl
  channels path id := by simp [ofPushes, channelsOf, Past.isBound]
  nodup path := List.nodup_nil
  issued _ _ hm := by cases hm
  once _ _ _ hm := by cases hm
  mailbox id hid := absurd hid (Nat.not_lt_zero id)
  unissued _ _ := rfl
  scopes := List.forall_mem_nil _

/-- What leaves the tables alone is no part of what they follow from. -/
theorem leavesTables (tracked : Tracked pushes capacity past h) (later : Past σ) {h' : Hub σ}
    (leaves : LeavesTables later.events h h') : Tracked pushes capacity (later ++ past) h' := by
  have nextId : h'.nextId = h.nextId := by rw [leaves.frame]
  have tables (path : String) : h'.channelsOf path = h.channelsOf path := by
    rw [leaves.frame]
    rfl
  have bound {path : String} {id : ChannelId} (hm : .bound path id ∈ (later ++ past).events) :
      .bound path id ∈ past.events := by
    rw [Past.events_append] at hm
    rcases List.mem_append.1 hm with hm | hm
    · cases leaves.quiet _ hm
    · exact hm
  refine ⟨fun event path => ?_, ?_, fun path id => ?_, fun path => ?_, fun path id hm => ?_,
    fun path other id hp ho => tracked.once path other id (bound hp) (bound ho), fun id hid => ?_,
    fun id hid => ?_, fun t ht id hid => ?_⟩
  · rw [← tracked.listed, leaves.frame]
    rfl
  · rw [← tracked.room, leaves.frame]
  · rw [tables, tracked.channels, Past.isBound_append leaves.quiet]
  · rw [tables]
    exact tracked.nodup path
  · rw [nextId]
    exact tracked.issued path id (bound hm)
  · rw [nextId] at hid
    obtain ⟨m, hm, room, opened⟩ := tracked.mailbox id hid
    obtain ⟨f, hf, frame⟩ := leaves.mailboxes id
    refine ⟨f m, ?_, (frame m).1.trans room, fun closed => ?_⟩
    · rw [hf, hm]
      rfl
    · rw [Past.events_append, List.mem_append, not_or] at closed
      rw [(frame m).2 closed.1]
      exact opened closed.2
  · obtain ⟨f, hf, -⟩ := leaves.mailboxes id
    rw [hf, tracked.unissued id (nextId ▸ hid)]
    rfl
  · obtain ⟨t₀, h₀, e₀⟩ := leaves.scopes t ht
    rw [nextId]
    exact tracked.scopes t₀ h₀ id (e₀ ▸ hid)

/-- The next channel has not been bound. -/
theorem not_bound_nextId (tracked : Tracked pushes capacity past h) (path : String) :
    past.isBound path h.nextId = false := by
  rw [Bool.eq_false_iff]
  intro bound
  exact Nat.lt_irrefl _ (tracked.issued path _ (Past.bound_of_isBound bound))

/-- The tables follow from the past with one more binding. -/
theorem bind (tracked : Tracked pushes capacity past h) (path : String) (handshake : Request) :
    Tracked pushes capacity ((h, .bound path h.nextId) :: past) (h.bind path handshake).2 := by
  have tables := channelsOf_of_channels (bind_channels h path handshake)
  have new (p : String) : h.nextId ∉ h.channelsOf p := by
    rw [tracked.channels, tracked.not_bound_nextId]
    simp
  refine ⟨fun event p => ?_, ?_, fun p id => ?_, fun p => ?_, fun p id hm => ?_,
    fun p other id hp ho => ?_, fun id hid => ?_, fun id hid => ?_, fun t ht id hid => ?_⟩
  · rw [bind_eq]
    exact tracked.listed event p
  · rw [bind_eq]
    exact tracked.room
  · rw [tables]
    simp only [Past.isBound, Bool.or_eq_true, Bool.and_eq_true, beq_iff_eq]
    rw [← tracked.channels]
    by_cases hp : p = path
    · subst hp
      simp [or_comm, eq_comm]
    · simp [hp, Ne.symm hp]
  · rw [tables]
    split
    · rw [List.nodup_append]
      refine ⟨tracked.nodup path, List.nodup_singleton _, fun a ha b hb => ?_⟩
      rw [List.mem_singleton.1 hb]
      exact fun same => new path (same ▸ ha)
    · exact tracked.nodup p
  · rw [bind_eq]
    rcases List.mem_cons.1 hm with hm | hm
    · cases hm
      exact Nat.lt_succ_self _
    · exact Nat.lt_succ_of_lt (tracked.issued p id hm)
  · rcases List.mem_cons.1 hp with hp | hp
    · cases hp
      rcases List.mem_cons.1 ho with ho | ho
      · cases ho
        rfl
      · exact absurd (tracked.issued other _ ho) (Nat.lt_irrefl _)
    · rcases List.mem_cons.1 ho with ho | ho
      · cases ho
        exact absurd (tracked.issued p _ hp) (Nat.lt_irrefl _)
      · exact tracked.once p other id hp ho
  · rw [mailbox?_bind]
    by_cases same : id = h.nextId
    · subst same
      rw [tracked.unissued _ (Nat.le_refl _), if_pos rfl]
      exact ⟨_, rfl, tracked.room, fun _ => rfl⟩
    · rw [bind_eq] at hid
      obtain ⟨m, hm, room, opened⟩ := tracked.mailbox id
        (Nat.lt_of_le_of_ne (Nat.le_of_lt_succ hid) same)
      rw [hm]
      exact ⟨m, rfl, room, fun closed => opened (List.not_mem_of_not_mem_cons closed)⟩
  · rw [bind_eq] at hid
    change h.nextId + 1 ≤ id at hid
    rw [mailbox?_bind, tracked.unissued id (Nat.le_of_succ_le hid), if_neg (Nat.ne_of_gt hid)]
    rfl
  · rw [bind_eq] at ht ⊢
    rcases List.mem_append.1 ht with ht | ht
    · rcases List.mem_append.1 ht with ht | ht
      · exact Nat.lt_succ_of_lt (tracked.scopes t ht id hid)
      · obtain ⟨q, -, rfl⟩ := List.mem_map.1 ht
        cases hid
    · obtain ⟨q, -, rfl⟩ := List.mem_map.1 ht
      cases hid
      exact Nat.lt_succ_self _

/-- The tables follow from the past with one more channel gone. -/
theorem unbind (tracked : Tracked pushes capacity past h) (path : String) (id : ChannelId) :
    Tracked pushes capacity ((h, .unbound path id) :: past) (h.unbind path id) := by
  obtain ⟨listed, nextId, -⟩ := removeChannel_frame h path id
  have tables (p : String) : (h.unbind path id).channelsOf p = _ :=
    channelsOf_of_channels (removeChannel_channels h path id) p
  refine ⟨fun event p => ?_, ?_, fun p i => ?_, fun p => ?_, fun p i hm => ?_,
    fun p other i hp ho => ?_, fun i hi => ?_, fun i hi => ?_, fun t ht i hi => ?_⟩
  · rw [← tracked.listed]
    change ((Dictionary.get? (h.removeChannel path id).pushes p).getD []).filter _ = _
    rw [listed]
    rfl
  · exact (unbind_capacity h path id).trans tracked.room
  · rw [tables]
    simp only [Past.isBound, Bool.and_eq_true, Bool.not_eq_true', Bool.and_eq_false_iff,
      beq_eq_false_iff_ne]
    rw [← tracked.channels]
    by_cases hp : p = path
    · subst hp
      rw [if_pos rfl, List.mem_filter, decide_eq_true_iff, and_comm, ne_comm]
      simp
    · simp [hp, Ne.symm hp]
  · rw [tables]
    split
    · exact (tracked.nodup path).filter _
    · exact tracked.nodup p
  · exact nextId ▸ tracked.issued p i (Past.bound_of_mem_cons hm (by simp))
  · exact tracked.once p other i (Past.bound_of_mem_cons hp (by simp))
      (Past.bound_of_mem_cons ho (by simp))
  · obtain ⟨m, hm, room, opened⟩ := tracked.mailbox i (nextId ▸ hi)
    refine ⟨m, ?_, room, fun closed => opened (List.not_mem_of_not_mem_cons closed)⟩
    rw [mailbox?_unbind, hm]
  · rw [mailbox?_unbind]
    exact tracked.unissued i (nextId ▸ hi)
  · obtain ⟨t₀, h₀, e₀⟩ := scope_unbind ht
    exact nextId ▸ tracked.scopes t₀ h₀ i (e₀ ▸ hi)

theorem shutdown (tracked : Tracked pushes capacity past h) :
    Tracked pushes capacity ((h, .shut) :: past) h.shutdown := by
  refine ⟨tracked.listed, tracked.room, fun p i => ?_, fun p => List.nodup_nil, fun p i hm => ?_,
    fun p other i hp ho => ?_, fun i hi => ?_, tracked.unissued, fun t ht i hi => ?_⟩
  · simp [Hub.shutdown, Hub.channelsOf, Past.isBound]
  · exact tracked.issued p i (Past.bound_of_mem_cons hm (by simp))
  · exact tracked.once p other i (Past.bound_of_mem_cons hp (by simp))
      (Past.bound_of_mem_cons ho (by simp))
  · obtain ⟨m, hm, room, opened⟩ := tracked.mailbox i hi
    exact ⟨m, hm, room, fun closed => opened (List.not_mem_of_not_mem_cons closed)⟩
  · obtain ⟨t₀, h₀, e₀⟩ := mem_cancelWhere ht
    exact tracked.scopes t₀ h₀ i (e₀ ▸ hi)

end Tracked

/-- **Tables and mailboxes follow from the past**, in every history. -/
theorem Leads.tracked {pushes : List (Push σ)} {capacity : Nat} {past : Past σ} {h : Hub σ}
    (leads : Leads (.ofPushes pushes capacity) past h) : Tracked pushes capacity past h := by
  have time : KeptByTime (Tracked pushes capacity) := by
    refine ⟨fun past h before => ?_, fun past h done t rest message tasks _ before => ?_⟩
    · exact before.leavesTables [] (.clock h)
    · refine before.leavesTables _ ?_
      have said : Past.events ((t.offer? message).toList.map (h, ·)) = (t.offer? message).toList := by
        simp [Past.events]
      rw [said]
      exact .turn tasks message
  induction leads with
  | start => exact .start pushes capacity
  | bind _ path handshake ih => exact ih.bind path handshake
  | unbind _ path id ih => exact ih.unbind path id
  | shutdown _ ih => exact ih.shutdown
  | @broadcast past h _ path message ih =>
    exact ih.leavesTables [(h, _)] (.broadcast h path message)
  | advance _ say n world ih => exact time.advance say n world ih
  | @drain past h _ id ih =>
    exact ih.leavesTables [(h, _)] (.settle h rfl fun _ => ⟨rfl, fun _ => rfl⟩)
  | @receive past h next _ id message taken ih =>
    rw [(taking_receive? taken).2]
    exact ih.leavesTables [(h, _)] (.settle h rfl fun _ => ⟨rfl, fun _ => rfl⟩)
  | @close past h _ id there ih =>
    exact ih.leavesTables [(h, _)] (.settle h rfl fun _ => ⟨rfl, fun not => absurd rfl not⟩)
  | @post past h _ id there queued ih => exact ih.leavesTables [(h, _)] (.refill h id queued)

end Hub

end Switchboard
