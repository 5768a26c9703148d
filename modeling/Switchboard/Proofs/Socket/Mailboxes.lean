import Switchboard.Socket.Clock
import Mathlib.Data.List.Basic

/-!
# Mailboxes of a hub

Every operation says what becomes of each mailbox by itself. A message of a task is offered to the
channels of its audience alone (`Hub.lookup_deliver`). Settling a mailbox changes no other, and where
nobody waits for room, it does what it is told and no more (`Hub.mailbox?_settle`).
-/

namespace Switchboard

variable {σ : Type}

/-- An offer changes neither the room of a mailbox nor whether it is open. -/
theorem Mailbox.offer_frame (m : Mailbox) (message : String) :
    (m.offer message).room = m.room ∧ (m.offer message).isOpen = m.isOpen := by
  unfold Mailbox.offer
  split
  · exact ⟨rfl, rfl⟩
  · exact ⟨rfl, rfl⟩

/-- The messages that wait for a channel. -/
def Hub.queued (h : Hub σ) (id : ChannelId) : List String := ((h.mailbox? id).map (·.queued)).getD []

namespace Hub

/-! ## Offers -/

theorem lookup_map_mailbox (f : ChannelId → Mailbox → Mailbox) (id : ChannelId)
    (l : List (ChannelId × Mailbox)) :
    (l.map fun (i, m) => (i, f i m)).lookup id = (l.lookup id).map (f id) := by
  induction l with
  | nil => rfl
  | cons e l ih =>
    obtain ⟨i, m⟩ := e
    rw [List.map_cons, List.lookup_cons, List.lookup_cons, ih]
    by_cases h : id = i
    · subst h
      simp
    · simp [beq_false_of_ne h]

/-- An offer to some channels is one to each of them and to no other. -/
theorem lookup_offerAll (ids : List ChannelId) (message : String) (id : ChannelId)
    (l : List (ChannelId × Mailbox)) : (offerAll ids message l).lookup id =
      (l.lookup id).map fun m => if ids.contains id then m.offer message else m :=
  lookup_map_mailbox (fun i m => if ids.contains i then m.offer message else m) id l

/-- An offer to others changes nothing. -/
theorem map_offer_of_not_mem {ids : List ChannelId} {id : ChannelId} (absent : id ∉ ids)
    (message : String) (m : Option Mailbox) :
    (m.map fun m => if ids.contains id then m.offer message else m) = m := by
  simp [absent]

theorem lookup_onMailbox (i id : ChannelId) (f : Mailbox → Mailbox)
    (l : List (ChannelId × Mailbox)) :
    (onMailbox i f l).lookup id = (l.lookup id).map fun m => if id = i then f m else m :=
  lookup_map_mailbox (fun j m => if j = i then f m else m) id l

/-- The channels that a task's messages go to. -/
def audience (h : Hub σ) (t : PushTask σ) : List ChannelId :=
  match t.scope with
  | .path => h.channelsOf t.push.path
  | .channel id _ => [id]

theorem deliver_channel (h : Hub σ) {t : PushTask σ} {i : ChannelId} {handshake : Request}
    (scope : t.scope = .channel i handshake) (message : String) :
    (h.deliver t (some message)).2 = if (h.mailbox? i).any Mailbox.takes then
      onMailbox i (·.push message) h.mailboxes else h.mailboxes := by
  unfold deliver
  rw [scope]
  dsimp only
  cases h.mailbox? i with
  | none => rfl
  | some m =>
    dsimp only
    rw [Option.any_some, Mailbox.takes]
    cases m.isOpen with
    | false => rfl
    | true => cases m.isFull <;> rfl

/-- A message of a task is offered to just the channels of its audience. -/
theorem lookup_deliver (h : Hub σ) (t : PushTask σ) (message : String) (id : ChannelId) :
    (h.deliver t (some message)).2.lookup id =
      (h.mailbox? id).map fun m => if (h.audience t).contains id then m.offer message else m := by
  cases scope : t.scope with
  | path =>
    unfold deliver audience
    rw [scope]
    exact lookup_offerAll _ _ _ _
  | channel i handshake =>
    rw [deliver_channel h scope]
    unfold audience
    rw [scope]
    have single : [i].contains id = decide (id = i) := by simp
    dsimp only
    rw [single]
    by_cases hid : id = i
    · subst hid
      unfold mailbox?
      cases hm : h.mailboxes.lookup id with
      | none => simp [hm]
      | some m =>
        by_cases takes : m.takes = true
        · simp [takes, lookup_onMailbox, hm, Mailbox.offer]
        · simp [takes, hm, Mailbox.offer]
    · have other : decide (id = i) = false := decide_eq_false hid
      rw [other]
      split
      · rw [lookup_onMailbox]
        simp [hid, mailbox?]
      · simp [mailbox?]

/-- A task that says nothing fills no mailbox. -/
theorem deliver_none (h : Hub σ) (t : PushTask σ) : (h.deliver t none).2 = h.mailboxes := by
  unfold deliver
  cases t.scope <;> rfl

/-- The task that has had its turn goes on to another stage, or ends. -/
theorem deliver_next (h : Hub σ) (t : PushTask σ) (message : Option String) :
    (h.deliver t message).1 = none ∨
      ∃ stage, (h.deliver t message).1 = some { t with stage := stage } := by
  unfold deliver
  dsimp only
  split
  · exact .inr ⟨_, rfl⟩
  · exact .inr ⟨_, rfl⟩
  · split
    · exact .inl rfl
    · split
      · exact .inl rfl
      · split
        · exact .inr ⟨_, rfl⟩
        · exact .inr ⟨_, rfl⟩

end Hub

/-! ## Settling -/

/-- The message that a task waits to leave for a channel. -/
def PushTask.waiting? (id : ChannelId) (t : PushTask σ) : Option String :=
  match t.stage with
  | .blocked message _ => if t.isOfChannel id then some message else none
  | .asleep _ => none

namespace Hub

theorem settleTasks_cons (clock : Nat) (id : ChannelId) (t : PushTask σ) (rest : List (PushTask σ))
    (m : Mailbox) : settleTasks clock id (t :: rest) m =
      match t.waiting? id with
      | none => (t :: (settleTasks clock id rest m).1, (settleTasks clock id rest m).2)
      | some message =>
        if !m.isOpen then settleTasks clock id rest m
        else if m.isFull then (t :: (settleTasks clock id rest m).1, (settleTasks clock id rest m).2)
        else
          let settled := settleTasks clock id rest (m.push message)
          (if t.cancelled then settled.1
            else { t with stage := .asleep (clock + t.push.delay) } :: settled.1, settled.2) := by
  rw [settleTasks, PushTask.waiting?]
  cases t.stage with
  | asleep due => rfl
  | blocked message since =>
    dsimp only
    split
    · rfl
    · rfl

section Settle

variable (clock : Nat) (id : ChannelId) {tasks : List (PushTask σ)} (m : Mailbox)

/-- Where nobody waits for room, nothing is left. -/
theorem settleTasks_of_idle (idle : ∀ t ∈ tasks, t.waiting? id = none) :
    settleTasks clock id tasks m = (tasks, m) := by
  induction tasks with
  | nil => rfl
  | cons t tasks ih =>
    rw [settleTasks_cons, idle t List.mem_cons_self]
    dsimp only
    rw [ih fun u hu => idle u (List.mem_cons_of_mem _ hu)]

theorem settleTasks_mailbox : (settleTasks clock id tasks m).2.room = m.room ∧
    (settleTasks clock id tasks m).2.isOpen = m.isOpen := by
  induction tasks generalizing m with
  | nil => exact ⟨rfl, rfl⟩
  | cons t tasks ih =>
    rw [settleTasks_cons]
    cases t.waiting? id with
    | none => exact ih m
    | some message =>
      dsimp only
      split
      · exact ih m
      · split
        · exact ih m
        · exact ih (m.push message)

theorem scope_settleTasks {t : PushTask σ} (ht : t ∈ (settleTasks clock id tasks m).1) :
    ∃ t₀ ∈ tasks, t.scope = t₀.scope := by
  induction tasks generalizing m with
  | nil => cases ht
  | cons t₀ tasks ih =>
    have later {m : Mailbox} (ht : t ∈ (settleTasks clock id tasks m).1) :
        ∃ t₁ ∈ t₀ :: tasks, t.scope = t₁.scope := by
      obtain ⟨t₁, h₁, e₁⟩ := ih m ht
      exact ⟨t₁, List.mem_cons_of_mem _ h₁, e₁⟩
    have here (stage : TaskStage) {m : Mailbox}
        (ht : t ∈ { t₀ with stage := stage } :: (settleTasks clock id tasks m).1) :
        ∃ t₁ ∈ t₀ :: tasks, t.scope = t₁.scope := by
      rcases List.mem_cons.1 ht with rfl | ht
      · exact ⟨t₀, List.mem_cons_self, rfl⟩
      · exact later ht
    rw [settleTasks_cons] at ht
    cases hw : t₀.waiting? id with
    | none =>
      rw [hw] at ht
      exact here t₀.stage ht
    | some message =>
      rw [hw] at ht
      dsimp only at ht
      split at ht
      · exact later ht
      · split at ht
        · exact here t₀.stage ht
        · split at ht
          · exact later ht
          · exact here _ ht

variable (h : Hub σ) (f : Mailbox → Mailbox)

/-- Settling changes tasks and mailboxes only. -/
theorem settle_frame : h.settle id f =
    { h with tasks := (h.settle id f).tasks, mailboxes := (h.settle id f).mailboxes } := by
  unfold settle
  cases h.mailbox? id with
  | none => rfl
  | some m => rfl

/-- Only the mailbox that is settled changes: as it is told to, and then by messages that waited. -/
theorem mailbox?_settle : ∃ g : Mailbox → Mailbox,
    (∀ other, (h.settle id f).mailbox? other =
      (h.mailbox? other).map fun m => if other = id then g m else m) ∧
    (∀ m, (g m).room = (f m).room ∧ (g m).isOpen = (f m).isOpen) ∧
    ((∀ t ∈ h.tasks, t.waiting? id = none) → g = f) := by
  let waiting := h.tasks.mergeSort fun a b => blockedSince a ≤ blockedSince b
  refine ⟨fun m => (settleTasks h.clock id waiting (f m)).2, fun other => ?_,
    fun m => settleTasks_mailbox _ _ _, fun idle => ?_⟩
  · unfold settle
    cases hm : h.mailbox? id with
    | none =>
      by_cases ho : other = id
      · subst ho
        simp [hm]
      · simp [ho]
    | some m =>
      change (onMailbox id (fun _ => (settleTasks h.clock id waiting (f m)).2)
        h.mailboxes).lookup other = _
      rw [lookup_onMailbox]
      by_cases ho : other = id
      · subst ho
        unfold mailbox? at hm ⊢
        simp [hm, waiting]
      · simp [ho, mailbox?]
  · funext m
    rw [settleTasks_of_idle]
    intro t ht
    exact idle t ((List.mergeSort_perm _ _).mem_iff.1 ht)

/-- Settling starts no task. -/
theorem scope_settle {t : PushTask σ} (ht : t ∈ (h.settle id f).tasks) :
    ∃ t₀ ∈ h.tasks, t.scope = t₀.scope := by
  unfold settle at ht
  cases hm : h.mailbox? id with
  | none =>
    rw [hm] at ht
    exact ⟨t, ht, rfl⟩
  | some m =>
    rw [hm] at ht
    obtain ⟨t₀, h₀, e₀⟩ := scope_settleTasks _ _ _ ht
    exact ⟨t₀, (List.mergeSort_perm _ _).mem_iff.1 h₀, e₀⟩

end Settle

/-! ## Taking messages -/

/-- The messages stand in front in a mailbox, and the change leaves the others there. -/
structure Taking (h : Hub σ) (id : ChannelId) (messages : List String) (f : Mailbox → Mailbox) :
    Prop where
  frame : ∀ m, (f m).room = m.room ∧ (f m).isOpen = m.isOpen
  front : messages ++ ((h.mailbox? id).map fun m => (f m).queued).getD [] = h.queued id

/-- A drain takes all that is queued. -/
theorem taking_drain (h : Hub σ) (id : ChannelId) :
    Taking h id (h.drain id).1 fun m => { m with queued := [] } := by
  refine ⟨fun _ => ⟨rfl, rfl⟩, ?_⟩
  unfold drain queued
  cases h.mailbox? id with
  | none => rfl
  | some m => exact List.append_nil _

/-- A receipt takes the message that came first. -/
theorem taking_receive? {h next : Hub σ} {id : ChannelId} {message : String}
    (taken : h.receive? id = some (message, next)) :
    Taking h id [message] (fun m => { m with queued := m.queued.tail }) ∧
      next = h.settle id fun m => { m with queued := m.queued.tail } := by
  unfold receive? at taken
  obtain ⟨m, hm, taken⟩ := Option.bind_eq_some_iff.1 taken
  obtain ⟨⟨first, rest⟩, popped, taken⟩ := Option.bind_eq_some_iff.1 taken
  cases taken
  refine ⟨⟨fun _ => ⟨rfl, rfl⟩, ?_⟩, rfl⟩
  unfold queued
  unfold Mailbox.pop? at popped
  rw [hm]
  cases hq : m.queued with
  | nil => simp [hq] at popped
  | cons front others =>
    rw [hq] at popped
    cases popped
    simp [hq]

end Hub

end Switchboard
