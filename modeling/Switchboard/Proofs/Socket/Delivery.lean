import Switchboard.Proofs.Socket.History

/-!
# What a channel receives

On a path without pushes by request, what a channel has received, and what still waits for it, are
the messages that went to the path while the channel was bound, less those that found its mailbox
full (`Hub.Leads.receives_what_was_offered`). No other channel has a part in this: a message is
offered to each mailbox by itself (`Hub.queued_broadcast`).

The invariant is an account of each channel (`Hub.Accounted`). A message that is offered goes on both
sides of it or on none, and one that is taken only moves from what waits to what was received.
-/

namespace Switchboard

variable {σ : Type}

/-- The messages that went to a path while the channel was bound to it, less those that found as many
messages waiting as there is room for. -/
def Past.accepted (room : Nat) (path : String) (id : ChannelId) (past : Past σ) : List String :=
  ((past.offersTo path id).filter fun (h, _) => (h.queued id).length < room).map (·.2)

theorem Past.accepted_offered (room : Nat) (path : String) (id : ChannelId) (past : Past σ)
    (h : Hub σ) (p message : String) :
    Past.accepted room path id ((h, .offered p message) :: past) = past.accepted room path id ++
      if p = path ∧ past.isBound path id = true ∧ (h.queued id).length < room then [message]
      else [] := by
  unfold Past.accepted
  rw [Past.offersTo, List.filter_append, List.map_append]
  congr 1
  by_cases bound : p = path ∧ past.isBound path id = true
  · by_cases fits : (h.queued id).length < room
    · simp [bound, fits]
    · simp [bound, fits]
  · have none : (p == path && past.isBound path id) = false := by simpa using bound
    have not : ¬ (p = path ∧ past.isBound path id = true ∧ (h.queued id).length < room) :=
      fun all => bound ⟨all.1, all.2.1⟩
    rw [none, if_neg not]
    rfl

theorem PushTask.waiting?_eq_none {t : PushTask σ} {id : ChannelId}
    (other : t.scope.channel? ≠ some id) : t.waiting? id = none := by
  unfold PushTask.waiting? PushTask.isOfChannel
  cases t.stage with
  | asleep due => rfl
  | blocked message since => simp [other]

namespace Hub

/-! ## One message -/

theorem queued_of_same {h h' : Hub σ} {id : ChannelId} (same : h'.mailbox? id = h.mailbox? id) :
    h'.queued id = h.queued id := by
  unfold queued
  rw [same]

/-- What an offer to some channels leaves in a mailbox depends on this mailbox alone. -/
theorem queued_of_offered {h h' : Hub σ} {id : ChannelId} {ids : List ChannelId} {message : String}
    (offered : h'.mailbox? id =
      (h.mailbox? id).map fun m => if ids.contains id then m.offer message else m) :
    h'.queued id = if id ∈ ids ∧ (h.mailbox? id).any Mailbox.takes then h.queued id ++ [message]
      else h.queued id := by
  unfold queued
  rw [offered]
  cases h.mailbox? id with
  | none => simp
  | some m =>
    by_cases here : id ∈ ids
    · by_cases takes : m.takes = true
      · simp [here, takes, Mailbox.offer, Mailbox.push]
      · simp [here, takes, Mailbox.offer]
    · simp [here]

/-- A broadcast queues its message at the channels of the path that have room. -/
theorem queued_broadcast (h : Hub σ) (path message : String) (id : ChannelId) :
    (h.broadcast path message).2.queued id =
      if id ∈ h.channelsOf path ∧ (h.mailbox? id).any Mailbox.takes then h.queued id ++ [message]
      else h.queued id :=
  queued_of_offered (lookup_offerAll (h.channelsOf path) message id h.mailboxes)

/-- A broadcast counts the channels whose mailboxes gain the message. -/
theorem broadcast_count {pushes : List (Push σ)} {capacity : Nat} {past : Past σ} {h : Hub σ}
    (tracked : Tracked pushes capacity past h) (path message : String) :
    (h.broadcast path message).1 = ((List.range h.nextId).filter fun id =>
      (h.broadcast path message).2.queued id = h.queued id ++ [message]).length := by
  change (h.channelsOf path).countP _ = _
  rw [List.countP_eq_length_filter]
  refine List.Perm.length_eq ?_
  have distinct := (tracked.nodup path).filter fun id => (h.mailbox? id).any Mailbox.takes
  refine (List.perm_ext_iff_of_nodup distinct (List.nodup_range.filter _)).2 fun id => ?_
  rw [List.mem_filter, List.mem_filter, decide_eq_true_iff, queued_broadcast]
  constructor
  · rintro ⟨here, takes⟩
    have bound := tracked.issued path id (Past.bound_of_isBound ((tracked.channels path id).1 here))
    exact ⟨List.mem_range.2 bound, if_pos ⟨here, takes⟩⟩
  · rintro ⟨-, gained⟩
    split at gained
    · next both => exact both
    · simp at gained

/-! ## The account of a channel -/

/-- The channels whose account is kept: those bound to the path, and those to come. -/
def Concerns (path : String) (past : Past σ) (h : Hub σ) (id : ChannelId) : Prop :=
  .bound path id ∈ past.events ∨ h.nextId ≤ id

/-- What each channel of a path has received and what waits for it are what it accepted, while it has
its receiver and nobody else uses its sender. -/
structure Accounted (pushes : List (Push σ)) (capacity : Nat) (path : String) (past : Past σ)
    (h : Hub σ) : Prop where
  tracked : Tracked pushes capacity past h
  unserved : ∀ id, Concerns path past h id → ∀ t ∈ h.tasks, t.scope.channel? ≠ some id
  account : ∀ id, Concerns path past h id → .closed id ∉ past.events → .posted id ∉ past.events →
    past.receivedBy id ++ h.queued id = past.accepted (max capacity 1) path id

namespace Accounted

variable {pushes : List (Push σ)} {capacity : Nat} {path : String} {past : Past σ} {h : Hub σ}

theorem leavesTables (accounted : Accounted pushes capacity path past h) (later : Past σ)
    {h' : Hub σ} (leaves : LeavesTables later.events h h')
    (account : ∀ id, Concerns path past h id → .closed id ∉ later.events ++ past.events →
      .posted id ∉ later.events ++ past.events →
      past.receivedBy id ++ h.queued id = past.accepted (max capacity 1) path id →
      (later ++ past).receivedBy id ++ h'.queued id =
        (later ++ past).accepted (max capacity 1) path id) :
    Accounted pushes capacity path (later ++ past) h' := by
  have concerned {id : ChannelId} (concerns : Concerns path (later ++ past) h' id) :
      Concerns path past h id := by
    unfold Concerns at *
    rw [Past.events_append, List.mem_append, leaves.frame] at concerns
    rcases concerns with (new | old) | next
    · cases leaves.quiet _ new
    · exact .inl old
    · exact .inr next
  refine ⟨accounted.tracked.leavesTables later leaves, fun id concerns t ht => ?_,
    fun id concerns closed posted => ?_⟩
  · obtain ⟨t₀, h₀, e₀⟩ := leaves.scopes t ht
    rw [e₀]
    exact accounted.unserved id (concerned concerns) t₀ h₀
  · rw [Past.events_append] at closed posted
    refine account id (concerned concerns) closed posted
      (accounted.account id (concerned concerns) ?_ ?_)
    · exact fun old => closed (List.mem_append_right _ old)
    · exact fun old => posted (List.mem_append_right _ old)

/-- A channel takes a message that goes to a path just if its account says so. -/
theorem gains_iff (accounted : Accounted pushes capacity path past h) {id : ChannelId}
    (concerns : Concerns path past h id) (closed : .closed id ∉ past.events) (p : String) :
    (id ∈ h.channelsOf p ∧ (h.mailbox? id).any Mailbox.takes = true) ↔
      p = path ∧ past.isBound path id = true ∧ (h.queued id).length < max capacity 1 := by
  have tracked := accounted.tracked
  have mailbox (bound : past.isBound path id = true) : (h.mailbox? id).any Mailbox.takes = true ↔
      (h.queued id).length < max capacity 1 := by
    obtain ⟨m, hm, room, opened⟩ :=
      tracked.mailbox id (tracked.issued path id (Past.bound_of_isBound bound))
    unfold queued Mailbox.takes Mailbox.isFull
    rw [hm]
    simp [opened closed, room]
  constructor
  · rintro ⟨here, takes⟩
    have bound := (tracked.channels p id).1 here
    obtain rfl : p = path := by
      rcases concerns with own | next
      · exact tracked.once path p id own (Past.bound_of_isBound bound)
      · exact absurd (tracked.issued p id (Past.bound_of_isBound bound)) (Nat.not_lt.2 next)
    exact ⟨rfl, bound, (mailbox bound).1 takes⟩
  · rintro ⟨rfl, bound, fits⟩
    exact ⟨(tracked.channels p id).2 bound, (mailbox bound).2 fits⟩

theorem offered (accounted : Accounted pushes capacity path past h) {p message : String} {h' : Hub σ}
    (leaves : LeavesTables [.offered p message] h h')
    (mailboxes : ∀ id, h'.mailbox? id = (h.mailbox? id).map fun m =>
      if (h.channelsOf p).contains id then m.offer message else m) :
    Accounted pushes capacity path ((h, .offered p message) :: past) h' := by
  refine accounted.leavesTables [(h, .offered p message)] leaves
    fun id concerns closed _ before => ?_
  have gains := accounted.gains_iff concerns (fun old => closed (List.mem_append_right _ old)) p
  change past.receivedBy id ++ h'.queued id =
    Past.accepted (max capacity 1) path id ((h, .offered p message) :: past)
  rw [Past.accepted_offered, ← before, queued_of_offered (mailboxes id)]
  by_cases takes : p = path ∧ past.isBound path id = true ∧ (h.queued id).length < max capacity 1
  · rw [if_pos takes, if_pos (gains.2 takes), List.append_assoc]
  · rw [if_neg takes, if_neg (gains.not.2 takes), List.append_nil]

/-- The account holds when a task has had its turn. -/
theorem turn (accounted : Accounted pushes capacity path past h) {done rest : List (PushTask σ)}
    {t : PushTask σ} (tasks : h.tasks = done ++ t :: rest) (message : Option String) :
    Accounted pushes capacity path ((t.offer? message).toList.map (h, ·) ++ past)
      (h.afterTurn done t rest message) := by
  have leaves := LeavesTables.turn tasks message
  -- A turn that offers nothing to the path changes the mailboxes of channels that are served alone.
  have silent (none : t.offer? message = none) (same : ∀ id, Concerns path past h id →
      (h.deliver t message).2.lookup id = h.mailbox? id) :
      Accounted pushes capacity path ((t.offer? message).toList.map (h, ·) ++ past)
        (h.afterTurn done t rest message) := by
    rw [none] at leaves ⊢
    refine accounted.leavesTables [] leaves fun id concerns _ _ before => ?_
    have queued : (h.afterTurn done t rest message).queued id = h.queued id :=
      queued_of_same (same id concerns)
    rw [queued]
    exact before
  cases message with
  | none =>
    refine silent ?_ fun id _ => ?_
    · unfold PushTask.offer?
      cases t.scope <;> rfl
    · rw [deliver_none]
      rfl
  | some message =>
    cases scope : t.scope with
    | path =>
      have offer : t.offer? (some message) = some (.offered t.push.path message) := by
        unfold PushTask.offer?
        rw [scope]
      rw [offer] at leaves ⊢
      refine accounted.offered leaves fun id => ?_
      have changed := lookup_deliver h t message id
      unfold audience at changed
      rw [scope] at changed
      exact changed
    | channel i handshake =>
      refine silent ?_ fun id concerns => ?_
      · unfold PushTask.offer?
        rw [scope]
      · have other := accounted.unserved id concerns t (by rw [tasks]; simp)
        rw [lookup_deliver, map_offer_of_not_mem]
        unfold audience
        rw [scope] at other ⊢
        intro own
        exact other (congrArg some (List.mem_singleton.1 own).symm)

theorem took (accounted : Accounted pushes capacity path past h) {i : ChannelId}
    {messages : List String} {f : Mailbox → Mailbox} (taking : Taking h i messages f) :
    Accounted pushes capacity path ((h, .took i messages) :: past) (h.settle i f) := by
  obtain ⟨frame, front⟩ := taking
  refine accounted.leavesTables [(h, .took i messages)]
    (.settle h rfl fun m => ⟨(frame m).1, fun _ => (frame m).2⟩) fun id concerns _ _ before => ?_
  obtain ⟨g, changed, -, idle⟩ := mailbox?_settle i h f
  change (past.receivedBy id ++ if i = id then messages else []) ++ (h.settle i f).queued id =
    past.accepted (max capacity 1) path id
  rw [← before]
  by_cases same : i = id
  · subst same
    have nobody : ∀ t ∈ h.tasks, t.waiting? i = none := fun t ht =>
      PushTask.waiting?_eq_none (accounted.unserved i concerns t ht)
    rw [idle nobody] at changed
    rw [if_pos rfl, List.append_assoc, ← front]
    unfold queued
    rw [changed]
    simp [Function.comp_def]
  · rw [if_neg same, List.append_nil]
    congr 1
    refine queued_of_same ?_
    rw [changed]
    simp [Ne.symm same]

theorem close (accounted : Accounted pushes capacity path past h) (i : ChannelId) :
    Accounted pushes capacity path ((h, .closed i) :: past) (h.close i) := by
  refine accounted.leavesTables [(h, .closed i)]
    (.settle h rfl fun _ => ⟨rfl, fun not => absurd rfl not⟩) fun id concerns closed _ before => ?_
  have other : id ≠ i := fun same => closed (same ▸ List.mem_cons_self)
  obtain ⟨g, changed, -, -⟩ := mailbox?_settle i h Mailbox.close
  have same : (h.close i).queued id = h.queued id := by
    refine queued_of_same ((changed id).trans ?_)
    simp [other]
  rw [same]
  exact before

theorem refill (accounted : Accounted pushes capacity path past h) (i : ChannelId)
    (queued : List String) :
    Accounted pushes capacity path ((h, .posted i) :: past) (h.refill i queued) := by
  refine accounted.leavesTables [(h, .posted i)] (.refill h i queued)
    fun id concerns _ posted before => ?_
  have other : id ≠ i := fun same => posted (same ▸ List.mem_cons_self)
  have same : (h.refill i queued).queued id = h.queued id :=
    queued_of_same (by simp [mailbox?_refill, other])
  rw [same]
  exact before

/-- A change of the tables that binds no channel and lets every mailbox be. -/
theorem unbound (accounted : Accounted pushes capacity path past h) {h' : Hub σ} {e : HubEvent}
    (tracked : Tracked pushes capacity ((h, e) :: past) h') (nextId : h'.nextId = h.nextId)
    (event : (∃ p i, e = .unbound p i) ∨ e = .shut)
    (mailboxes : ∀ id, h'.mailbox? id = h.mailbox? id)
    (scopes : ∀ t ∈ h'.tasks, ∃ t₀ ∈ h.tasks, t.scope = t₀.scope) :
    Accounted pushes capacity path ((h, e) :: past) h' := by
  have concerned {id : ChannelId} (concerns : Concerns path ((h, e) :: past) h' id) :
      Concerns path past h id := by
    rcases concerns with own | next
    · refine .inl (Past.bound_of_mem_cons own ?_)
      rcases event with ⟨p, i, rfl⟩ | rfl
      · simp
      · simp
    · exact .inr (nextId ▸ next)
  refine ⟨tracked, fun id concerns t ht => ?_, fun id concerns closed posted => ?_⟩
  · obtain ⟨t₀, h₀, e₀⟩ := scopes t ht
    rw [e₀]
    exact accounted.unserved id (concerned concerns) t₀ h₀
  · have before := accounted.account id (concerned concerns)
      (List.not_mem_of_not_mem_cons closed) (List.not_mem_of_not_mem_cons posted)
    rw [queued_of_same (mailboxes id)]
    rcases event with ⟨p, i, rfl⟩ | rfl
    · exact before
    · exact before

/-- The account holds when a channel is bound. -/
theorem bind (accounted : Accounted pushes capacity path past h)
    (plain : pushesFor pushes .request path = []) (p : String) (handshake : Request) :
    Accounted pushes capacity path ((h, .bound p h.nextId) :: past) (h.bind p handshake).2 := by
  have tracked := accounted.tracked
  have concerned {id : ChannelId}
      (concerns : Concerns path ((h, .bound p h.nextId) :: past) (h.bind p handshake).2 id) :
      Concerns path past h id ∧ (id = h.nextId → p = path) := by
    rw [Concerns, bind_eq] at concerns
    rcases concerns with own | next
    · rcases List.mem_cons.1 own with new | old
      · cases new
        exact ⟨.inr (Nat.le_refl _), fun _ => rfl⟩
      · have below := tracked.issued path id old
        exact ⟨.inl old, fun same => absurd below (same ▸ Nat.lt_irrefl _)⟩
    · exact ⟨.inr (Nat.le_of_succ_le next), fun same => absurd next (same ▸ Nat.not_succ_le_self _)⟩
  refine ⟨tracked.bind p handshake, fun id concerns t ht => ?_, fun id concerns closed posted => ?_⟩
  · obtain ⟨before, here⟩ := concerned concerns
    rw [bind_eq] at ht
    rcases List.mem_append.1 ht with ht | ht
    · rcases List.mem_append.1 ht with ht | ht
      · exact accounted.unserved id before t ht
      · obtain ⟨q, -, rfl⟩ := List.mem_map.1 ht
        simp [PushTask.starting, TaskScope.channel?]
    · obtain ⟨q, listed, rfl⟩ := List.mem_map.1 ht
      intro same
      obtain rfl := here (Option.some.inj same).symm
      rw [tracked.listed, plain] at listed
      cases listed
  · obtain ⟨concerns, -⟩ := concerned concerns
    have before := accounted.account id concerns (List.not_mem_of_not_mem_cons closed)
      (List.not_mem_of_not_mem_cons posted)
    have same : (h.bind p handshake).2.queued id = h.queued id := by
      unfold queued
      rw [mailbox?_bind]
      by_cases new : id = h.nextId
      · rw [tracked.unissued id (Nat.le_of_eq new.symm), if_pos new]
        rfl
      · rw [if_neg new, Option.or_none]
    rw [same]
    exact before

end Accounted

/-- The run: the account of every channel of a path without pushes by request is kept. -/
theorem Leads.accounted {pushes : List (Push σ)} {capacity : Nat} {past : Past σ} {h : Hub σ}
    (leads : Leads (.ofPushes pushes capacity) past h) {path : String}
    (plain : pushesFor pushes .request path = []) : Accounted pushes capacity path past h := by
  have time : KeptByTime (Accounted pushes capacity path) := by
    refine ⟨fun past h before => ?_, fun past h done t rest message tasks _ before =>
      before.turn tasks message⟩
    exact before.leavesTables [] (.clock h) fun id _ _ _ same => same
  induction leads with
  | start => exact ⟨.start pushes capacity, fun _ _ => List.forall_mem_nil _, fun _ _ _ _ => rfl⟩
  | bind _ p handshake ih => exact ih.bind plain p handshake
  | @unbind past h _ p id ih =>
    exact ih.unbound (ih.tracked.unbind p id) (removeChannel_frame h p id).2.1 (.inl ⟨p, id, rfl⟩)
      (mailbox?_unbind h p id) fun t ht => scope_unbind ht
  | shutdown _ ih =>
    exact ih.unbound ih.tracked.shutdown rfl (.inr rfl) (fun _ => rfl) fun t ht => mem_cancelWhere ht
  | @broadcast past h _ p message ih =>
    exact ih.offered (.broadcast h p message) fun id => lookup_offerAll _ _ _ _
  | advance _ say n world ih => exact time.advance say n world ih
  | @drain past h _ id ih => exact ih.took (taking_drain h id)
  | receive _ taken ih =>
    obtain ⟨taking, rfl⟩ := taking_receive? taken
    exact ih.took taking
  | @close past h _ id there ih => exact ih.close id
  | @post past h _ id there queued ih => exact ih.refill id queued

/-- **A channel receives what was offered to it**, in every history: what a channel of a path without
pushes by request has received, and what still waits for it, are the messages that went to the path
while it was bound, in order, less those that found its mailbox full. What a broadcast leaves in a
mailbox depends on this mailbox alone, and it counts the mailboxes that gain the message. -/
theorem Leads.receives_what_was_offered {pushes : List (Push σ)} {capacity : Nat} {past : Past σ}
    {h : Hub σ} (leads : Leads (.ofPushes pushes capacity) past h) :
    (∀ path id, (∀ q ∈ pushes, q.path = path → q.event ≠ .request) →
      .bound path id ∈ past.events → .closed id ∉ past.events → .posted id ∉ past.events →
      past.receivedBy id ++ h.queued id = past.accepted (max capacity 1) path id) ∧
    (∀ path message id, (h.broadcast path message).2.queued id =
      if past.isBound path id ∧ (h.mailbox? id).any Mailbox.takes then h.queued id ++ [message]
      else h.queued id) ∧
    ∀ path message, (h.broadcast path message).1 = ((List.range h.nextId).filter fun id =>
      (h.broadcast path message).2.queued id = h.queued id ++ [message]).length := by
  refine ⟨fun path id plain bound => ?_, fun path message id => ?_, broadcast_count leads.tracked⟩
  · have none : pushesFor pushes .request path = [] := by
      unfold pushesFor
      rw [List.filter_eq_nil_iff]
      intro q hq both
      have both := of_decide_eq_true both
      exact plain q hq both.1 both.2
    exact (leads.accounted none).account id (.inl bound)
  · rw [queued_broadcast]
    simp only [leads.tracked.channels]

/-- A push that goes to all channels of a path after each millisecond. -/
def pulse : Push Unit where
  path := "/news"
  delay := 1
  event := .periodic
  handler := {
    type := "News", method := "pulse", verb := .ws, pattern := "/news", body := fun _ _ => pure default }

/-- With room for one message, the second one is lost on both channels and the third on the one that
has not read the first. -/
theorem Leads.receives_what_was_offered_pulse :
    ∃ (past : Past Unit) (h : Hub Unit), Leads (.ofPushes [pulse] 0) past h ∧
      past.receivedBy 0 ++ h.queued 0 = ["a", "c", "tick"] ∧
      past.receivedBy 1 ++ h.queued 1 = ["a"] := by
  have fresh : Leads (.ofPushes [pulse] 0) [] _ := .start
  have bound := (fresh.bind "/news" default).bind "/news" default
  have full := (bound.broadcast "/news" "a").broadcast "/news" "b"
  have again := ((full.drain 0).broadcast "/news" "c").drain 0
  have ticked := again.advance (fun _ _ => return some "tick") 1 ()
  have account := ticked.receives_what_was_offered.1 "/news"
  refine ⟨_, _, ticked, ?_, ?_⟩
  · refine (account 0 (by decide) (by decide +kernel) (by decide +kernel) (by decide +kernel)).trans ?_
    decide +kernel
  · refine (account 1 (by decide) (by decide +kernel) (by decide +kernel) (by decide +kernel)).trans ?_
    decide +kernel

end Hub

end Switchboard
