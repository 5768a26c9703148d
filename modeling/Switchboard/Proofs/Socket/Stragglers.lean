import Switchboard.Proofs.Socket.Groups
import Switchboard.Proofs.Socket.History

/-!
# What a channel receives after it has left

An unbind or a shutdown cancels the tasks of a channel where they sleep. A task that waits for room
is not stopped: it leaves its message when the receiver makes room, and ends only then. So after it
has left, a channel still receives what waits in its mailbox, and then what tasks were waiting to
leave there, in the order in which they began to wait (`Hub.Leads.receives_after_leaving`). Nothing
else is pushed to it.

The invariant is `Hub.Leftover`: what was received, what is queued and what tasks wait to leave make
up one list that does not change, until the receiver is given up.
-/

namespace Switchboard

variable {σ : Type}

namespace Hub

/-- The tasks of a channel in the order in which they are given room. -/
def tasksOf (h : Hub σ) (id : ChannelId) : List (PushTask σ) :=
  (h.tasks.filter (·.isOfChannel id)).mergeSort fun a b => blockedSince a ≤ blockedSince b

/-- The messages that tasks wait to leave for a channel, in the order in which they will. -/
def waiting (h : Hub σ) (id : ChannelId) : List String := (h.tasksOf id).filterMap (·.waiting? id)

theorem mem_tasksOf {h : Hub σ} {id : ChannelId} {t : PushTask σ} :
    t ∈ h.tasksOf id ↔ t ∈ h.tasks ∧ t.isOfChannel id = true := by
  unfold tasksOf
  rw [(List.mergeSort_perm _ _).mem_iff, List.mem_filter]

theorem tasksOf_of_filter {h h' : Hub σ} {id : ChannelId}
    (same : h'.tasks.filter (·.isOfChannel id) = h.tasks.filter (·.isOfChannel id)) :
    h'.tasksOf id = h.tasksOf id := by
  unfold tasksOf
  rw [same]

/-- Only the tasks of a channel wait to leave messages for it. -/
theorem filterMap_waiting? (id : ChannelId) (tasks : List (PushTask σ)) :
    (tasks.filter (·.isOfChannel id)).filterMap (·.waiting? id) =
      tasks.filterMap (·.waiting? id) := by
  induction tasks with
  | nil => rfl
  | cons t tasks ih =>
    by_cases own : t.isOfChannel id = true
    · rw [List.filter_cons_of_pos own, List.filterMap_cons, List.filterMap_cons, ih]
    · have none : t.waiting? id = none := by
        rw [Option.eq_none_iff_forall_ne_some]
        exact fun message h => own (PushTask.isOfChannel_of_waiting? h)
      rw [List.filter_cons_of_neg own, List.filterMap_cons_none none, ih]

/-! ## Settling -/

section Settle

variable (clock : Nat) (id : ChannelId) {tasks : List (PushTask σ)} (m : Mailbox)

/-- Nothing is settled while the mailbox is full. -/
theorem settleTasks_of_full (opened : m.isOpen = true) (full : m.isFull = true) :
    settleTasks clock id tasks m = (tasks, m) := by
  induction tasks with
  | nil => rfl
  | cons t tasks ih =>
    rw [settleTasks_cons, ih]
    cases t.waiting? id with
    | none => rfl
    | some message =>
      dsimp only
      rw [opened, full]
      rfl

/-- A message goes from the task that waits with it to the mailbox, or stays with the task. -/
theorem settleTasks_messages (opened : m.isOpen = true)
    (cancelled : ∀ t ∈ tasks, t.isOfChannel id = true → t.cancelled = true) :
    (settleTasks clock id tasks m).2.queued ++
        (settleTasks clock id tasks m).1.filterMap (·.waiting? id) =
      m.queued ++ tasks.filterMap (·.waiting? id) := by
  induction tasks generalizing m with
  | nil => rfl
  | cons t tasks ih =>
    have later : ∀ u ∈ tasks, u.isOfChannel id = true → u.cancelled = true :=
      fun u hu => cancelled u (List.mem_cons_of_mem _ hu)
    by_cases full : m.isFull = true
    · rw [settleTasks_of_full _ _ _ opened full]
    · rw [settleTasks_cons]
      cases hw : t.waiting? id with
      | none =>
        dsimp only
        rw [List.filterMap_cons_none hw, List.filterMap_cons_none hw]
        exact ih m opened later
      | some message =>
        have ended := cancelled t List.mem_cons_self (PushTask.isOfChannel_of_waiting? hw)
        dsimp only
        rw [if_neg (by simp [opened]), if_neg full, if_pos ended, List.filterMap_cons_some hw]
        have pushed := ih (m.push message) opened later
        rw [Mailbox.push, List.append_assoc, List.singleton_append] at pushed
        exact pushed

/-- No task waits for a receiver that is gone. -/
theorem settleTasks_of_closed (closed : m.isOpen = false) :
    (settleTasks clock id tasks m).2 = m ∧
      (settleTasks clock id tasks m).1.filterMap (·.waiting? id) = [] := by
  induction tasks with
  | nil => exact ⟨rfl, rfl⟩
  | cons t tasks ih =>
    rw [settleTasks_cons]
    cases hw : t.waiting? id with
    | none =>
      dsimp only
      rw [List.filterMap_cons_none hw]
      exact ih
    | some message =>
      dsimp only
      rw [if_pos (by simp [closed])]
      exact ih

end Settle

/-- Tasks that already stand in the order in which they are given room. -/
theorem tasksOf_of_sorted {h : Hub σ} {id : ChannelId} {tasks : List (PushTask σ)}
    (picked : h.tasks.filter (·.isOfChannel id) = tasks)
    (sorted : tasks.Pairwise fun a b => blockedSince a ≤ blockedSince b) :
    h.tasksOf id = tasks := by
  unfold tasksOf
  rw [picked]
  exact List.mergeSort_of_pairwise (sorted.imp fun h => decide_eq_true h)

/-- Tasks that wait longer come first. -/
theorem sorted_tasksOf (h : Hub σ) (id : ChannelId) :
    (h.tasksOf id).Pairwise fun a b => blockedSince a ≤ blockedSince b :=
  (stablySorted_mergeSort blockedSince _).ascending

/-- Settling is for one channel. -/
theorem tasksOf_settle_of_ne (h : Hub σ) {i id : ChannelId} (ne : id ≠ i) (f : Mailbox → Mailbox) :
    (h.settle i f).tasksOf id = h.tasksOf id := by
  cases hm : h.mailbox? i with
  | none => rw [settle_of_none hm]
  | some m =>
    refine tasksOf_of_sorted ?_ (sorted_tasksOf h id)
    rw [settle_eq hm, tasksOf, ← filter_mergeSort]
    exact filter_settleTasks_others _ _ _ ne

/-! ## Channels that have left -/

/-- The channel is bound to no path, and its tasks are at most those that wait for room and will end
then. -/
structure Dismissed (h : Hub σ) (id : ChannelId) : Prop where
  issued : id < h.nextId
  unbound : ∀ path, id ∉ h.channelsOf path
  cancelled : ∀ t ∈ h.tasksOf id,
    t.cancelled = true ∧ ∃ message since, t.stage = .blocked message since

namespace Dismissed

variable {h h' : Hub σ} {id : ChannelId}

theorem apart (dismissed : Dismissed h id) (nextId : h.nextId ≤ h'.nextId)
    (tables : ∀ path, id ∈ h'.channelsOf path → id ∈ h.channelsOf path)
    (tasks : h'.tasksOf id = h.tasksOf id) : Dismissed h' id := by
  refine ⟨Nat.lt_of_lt_of_le dismissed.issued nextId, fun path here => ?_, fun t ht => ?_⟩
  · exact dismissed.unbound path (tables path here)
  · rw [tasks] at ht
    exact dismissed.cancelled t ht

theorem not_isDue (dismissed : Dismissed h id) {t : PushTask σ} (ht : t ∈ h.tasks)
    (due : t.isDue h.clock = true) : t.isOfChannel id = false := by
  rw [Bool.eq_false_iff]
  intro own
  obtain ⟨-, message, since, blocked⟩ := dismissed.cancelled t (mem_tasksOf.2 ⟨ht, own⟩)
  unfold PushTask.isDue at due
  rw [blocked] at due
  cases due

/-- Tasks of a channel that has left are cancelled already. -/
theorem tasksOf_cancelWhere (dismissed : Dismissed h id) (p : PushTask σ → Bool) :
    (h.cancelWhere p).tasksOf id = h.tasksOf id := by
  refine tasksOf_of_filter ?_
  rw [filter_cancelWhere (PushTask.grouping_isOfChannel id)]
  refine (List.filterMap_congr fun t ht => ?_).trans List.filterMap_some
  obtain ⟨ht, own⟩ := List.mem_filter.1 ht
  obtain ⟨ended, message, since, blocked⟩ := dismissed.cancelled t (mem_tasksOf.2 ⟨ht, own⟩)
  rw [PushTask.cancel?_of_cancelled ended blocked, ite_self]

/-- What settling its own mailbox does for a channel that has left: its tasks go as they leave their
messages, and all of them go where there is no receiver. -/
theorem settle (dismissed : Dismissed h id) {m : Mailbox} (there : h.mailbox? id = some m)
    (f : Mailbox → Mailbox) : Dismissed (h.settle id f) id ∧
      (if (f m).isOpen then
        (h.settle id f).queued id ++ (h.settle id f).waiting id = (f m).queued ++ h.waiting id
      else (h.settle id f).queued id = (f m).queued ∧ (h.settle id f).waiting id = []) := by
  let waiting := h.tasks.mergeSort fun a b => blockedSince a ≤ blockedSince b
  let settled := settleTasks h.clock id waiting (f m)
  have ended : ∀ t ∈ waiting, t.isOfChannel id = true → t.cancelled = true := by
    intro t ht own
    have ht := (List.mergeSort_perm _ _).mem_iff.1 ht
    exact (dismissed.cancelled t (mem_tasksOf.2 ⟨ht, own⟩)).1
  -- Tasks only go, so those that stay are still in the order in which they began to wait.
  have fewer : settled.1.Sublist waiting := settleTasks_sublist _ _ _ ended
  have own : (h.settle id f).tasksOf id = settled.1.filter (·.isOfChannel id) := by
    refine tasksOf_of_sorted ?_ ?_
    · rw [settle_eq there]
    · have sorted := (stablySorted_mergeSort blockedSince h.tasks).ascending
      exact (sorted.sublist fewer).filter _
  have queued : (h.settle id f).queued id = settled.2.queued := by
    unfold queued mailbox? at *
    rw [settle_eq there]
    dsimp only
    rw [lookup_onMailbox, there]
    simp [settled, waiting]
  have left : (h.settle id f).waiting id = settled.1.filterMap (·.waiting? id) := by
    unfold Hub.waiting
    rw [own, filterMap_waiting?]
  have before : h.waiting id = waiting.filterMap (·.waiting? id) := by
    unfold Hub.waiting tasksOf
    rw [← filter_mergeSort, filterMap_waiting?]
  refine ⟨⟨?_, fun path here => ?_, fun t ht => ?_⟩, ?_⟩
  · rw [settle_frame]
    exact dismissed.issued
  · rw [settle_frame] at here
    exact dismissed.unbound path here
  · rw [own] at ht
    obtain ⟨ht, hc⟩ := List.mem_filter.1 ht
    have ht := (List.mergeSort_perm _ _).mem_iff.1 (fewer.subset ht)
    exact dismissed.cancelled t (mem_tasksOf.2 ⟨ht, hc⟩)
  · rw [queued, left, before]
    split
    · next opened => exact settleTasks_messages _ _ _ opened ended
    · next closed =>
      obtain ⟨same, none⟩ : settled.2 = f m ∧ settled.1.filterMap (·.waiting? id) = [] :=
        settleTasks_of_closed _ _ _ (Bool.eq_false_iff.2 closed)
      exact ⟨congrArg _ same, none⟩

end Dismissed

/-- A channel that is unbound, or shut down with the others, has left. -/
theorem Tracked.dismissed {pushes : List (Push σ)} {capacity : Nat} {past : Past σ} {h : Hub σ}
    (tracked : Tracked pushes capacity past h) {path : String} {id : ChannelId}
    (bound : .bound path id ∈ past.events) {left : Hub σ}
    (leaves : left = h.unbind path id ∨ left = h.shutdown) : Dismissed left id := by
  have issued := tracked.issued path id bound
  rcases leaves with rfl | rfl
  · have after := tracked.unbind path id
    refine ⟨?_, fun p here => ?_, fun t ht => ?_⟩
    · exact after.issued path id (List.mem_cons_of_mem _ bound)
    · have still := (after.channels p id).1 here
      simp only [Past.isBound, Bool.and_eq_true, Bool.not_eq_true', Bool.and_eq_false_iff,
        beq_self_eq_true, beq_eq_false_iff_ne, reduceCtorEq, or_false] at still
      exact still.1 (tracked.once p path id (Past.bound_of_isBound still.2) bound)
    · obtain ⟨ht, own⟩ := mem_tasksOf.1 ht
      exact blocked_of_mem_cancelWhere (fun _ own => own) ht own
  · refine ⟨issued, fun p => List.not_mem_nil, fun t ht => ?_⟩
    obtain ⟨ht, own⟩ := mem_tasksOf.1 ht
    exact blocked_of_mem_cancelWhere (fun _ _ => rfl) ht own

/-- What was received, what is queued and what tasks wait to leave are the beginning of one list, and
all of it while there is a receiver. -/
structure Leftover (all : List String) (id : ChannelId) (later : Past σ) (h : Hub σ) : Prop where
  dismissed : Dismissed h id
  order : later.receivedBy id ++ (h.queued id ++ h.waiting id) <+: all
  whole : (h.mailbox? id).any Mailbox.isOpen = true →
    later.receivedBy id ++ (h.queued id ++ h.waiting id) = all

namespace Leftover

variable {all : List String} {id : ChannelId} {later : Past σ} {h h' : Hub σ}

theorem apart (left : Leftover all id later h) (events : Past σ) (nextId : h.nextId ≤ h'.nextId)
    (tables : ∀ path, id ∈ h'.channelsOf path → id ∈ h.channelsOf path)
    (tasks : h'.tasksOf id = h.tasksOf id) (mailbox : h'.mailbox? id = h.mailbox? id)
    (silent : (events ++ later).receivedBy id = later.receivedBy id) :
    Leftover all id (events ++ later) h' := by
  have queued : h'.queued id = h.queued id := by
    unfold queued
    rw [mailbox]
  have waiting : h'.waiting id = h.waiting id := by
    unfold waiting
    rw [tasks]
  refine ⟨left.dismissed.apart nextId tables tasks, ?_, fun opened => ?_⟩
  · rw [silent, queued, waiting]
    exact left.order
  · rw [silent, queued, waiting]
    exact left.whole (mailbox ▸ opened)

theorem turn (left : Leftover all id later h) {done rest : List (PushTask σ)} {t : PushTask σ}
    (tasks : h.tasks = done ++ t :: rest) (due : t.isDue h.clock = true) (message : Option String) :
    Leftover all id ((t.offer? message).toList.map (h, ·) ++ later)
      (h.afterTurn done t rest message) := by
  have not := left.dismissed.not_isDue (by rw [tasks]; simp) due
  refine left.apart _ (Nat.le_refl _) (fun _ here => here) (tasksOf_of_filter ?_) ?_ ?_
  · have next : (h.deliver t message).1.toList.filter (·.isOfChannel id) = [] := by
      rcases deliver_next h t message with ended | ⟨stage, next⟩
      · rw [ended]
        rfl
      · rw [next]
        refine List.filter_cons_of_neg ?_
        unfold PushTask.isOfChannel at *
        simp [not]
    rw [tasks]
    change (done ++ (h.deliver t message).1.toList ++ rest).filter _ = _
    rw [List.filter_append, List.filter_append, List.filter_append, next, List.append_nil,
      List.filter_cons_of_neg (by simp [not])]
  · cases message with
    | none =>
      change (h.deliver t none).2.lookup id = _
      rw [deliver_none]
      rfl
    | some message =>
      refine (lookup_deliver h t message id).trans (map_offer_of_not_mem ?_ _ _)
      unfold audience
      unfold PushTask.isOfChannel at not
      cases scope : t.scope with
      | path => exact left.dismissed.unbound t.push.path
      | channel i handshake =>
        rw [scope] at not
        intro own
        rw [List.mem_singleton.1 own] at not
        simp [TaskScope.channel?] at not
  · unfold PushTask.offer?
    split
    · rfl
    · rfl

theorem bind (left : Leftover all id later h) (path : String) (handshake : Request) :
    Leftover all id ((h, .bound path h.nextId) :: later) (h.bind path handshake).2 := by
  have old : id ≠ h.nextId := Nat.ne_of_lt left.dismissed.issued
  refine left.apart [(h, _)] ?_ (fun p here => ?_) (tasksOf_of_filter ?_) ?_ rfl
  · rw [bind_eq]
    exact Nat.le_succ _
  · rw [channelsOf_of_channels (bind_channels h path handshake)] at here
    split at here
    · next same =>
      subst same
      rcases List.mem_append.1 here with here | new
      · exact here
      · exact absurd (List.mem_singleton.1 new) old
    · exact here
  · rw [bind_eq]
    have none (scope : TaskScope) (other : scope.channel? ≠ some id) (pushes : List (Push σ)) :
        (pushes.map (PushTask.starting h.clock scope)).filter (·.isOfChannel id) = [] := by
      rw [List.filter_eq_nil_iff]
      intro t ht
      obtain ⟨q, -, rfl⟩ := List.mem_map.1 ht
      simpa [PushTask.isOfChannel, PushTask.starting] using other
    have path_ : TaskScope.path.channel? ≠ some id := by simp [TaskScope.channel?]
    have new : (TaskScope.channel h.nextId handshake).channel? ≠ some id := by
      simpa [TaskScope.channel?, eq_comm] using old
    rw [List.filter_append, List.filter_append, none _ path_, none _ new, List.append_nil,
      List.append_nil]
  · rw [mailbox?_bind, if_neg old, Option.or_none]

theorem unbind (left : Leftover all id later h) (path : String) (i : ChannelId) :
    Leftover all id ((h, .unbound path i) :: later) (h.unbind path i) := by
  have tables (p : String) (here : id ∈ (h.unbind path i).channelsOf p) : id ∈ h.channelsOf p := by
    have at_ : (h.unbind path i).channelsOf p = _ :=
      channelsOf_of_channels (removeChannel_channels h path i) p
    rw [at_] at here
    split at here
    · next same => exact same ▸ List.mem_of_mem_filter here
    · exact here
  have nextId := (removeChannel_frame h path i).2.1
  have removed : (h.removeChannel path i).tasksOf id = h.tasksOf id := by
    rcases removeChannel_cases h path i with ⟨-, -, he⟩ | ⟨-, he⟩ | ⟨-, he⟩
    · rw [he]
    · rw [he]
      exact left.dismissed.tasksOf_cancelWhere _
    · rw [he]
      rfl
  have dismissed : Dismissed (h.removeChannel path i) id :=
    left.dismissed.apart (Nat.le_of_eq nextId.symm) tables removed
  exact left.apart [(h, _)] (Nat.le_of_eq nextId.symm) tables
    ((dismissed.tasksOf_cancelWhere _).trans removed) (mailbox?_unbind h path i id) rfl

theorem shutdown (left : Leftover all id later h) :
    Leftover all id ((h, .shut) :: later) h.shutdown :=
  left.apart [(h, _)] (Nat.le_refl _) (fun _ here => absurd here List.not_mem_nil)
    (left.dismissed.tasksOf_cancelWhere _) rfl rfl

theorem broadcast (left : Leftover all id later h) (path message : String) :
    Leftover all id ((h, .offered path message) :: later) (h.broadcast path message).2 := by
  refine left.apart [(h, _)] (Nat.le_refl _) (fun _ here => here) rfl ?_ rfl
  exact (lookup_offerAll _ _ _ _).trans
    (map_offer_of_not_mem (left.dismissed.unbound path) _ _)

theorem refill (left : Leftover all id later h) {i : ChannelId} (other : i ≠ id)
    (queued : List String) : Leftover all id ((h, .posted i) :: later) (h.refill i queued) := by
  refine left.apart [(h, _)] (Nat.le_refl _) (fun _ here => here) rfl ?_ rfl
  simp [mailbox?_refill, other.symm]

theorem elsewhere (left : Leftover all id later h) {i : ChannelId} (ne : id ≠ i) {e : HubEvent}
    (silent : Past.receivedBy id ((h, e) :: later) = later.receivedBy id) (f : Mailbox → Mailbox) :
    Leftover all id ((h, e) :: later) (h.settle i f) := by
  obtain ⟨g, changed, -⟩ := mailbox?_settle i h f
  refine left.apart [(h, e)] ?_ (fun p here => ?_) (tasksOf_settle_of_ne h ne f) ?_ silent
  · rw [settle_frame]
  · rw [settle_frame] at here
    exact here
  · simp [changed, ne]

/-- Its own mailbox is settled. With a receiver, what is taken and what stays are what was queued;
without one, they are the beginning of it. -/
theorem settled (left : Leftover all id later h) {e : HubEvent} {messages : List String}
    (receipt : Past.receivedBy id ((h, e) :: later) = later.receivedBy id ++ messages) {m : Mailbox}
    (there : h.mailbox? id = some m) {f : Mailbox → Mailbox}
    (front : messages ++ (f m).queued <+: m.queued)
    (opened : (f m).isOpen = true → m.isOpen = true ∧ messages ++ (f m).queued = m.queued) :
    Leftover all id ((h, e) :: later) (h.settle id f) := by
  obtain ⟨dismissed, effect⟩ := left.dismissed.settle there f
  have queued : h.queued id = m.queued := by
    unfold queued
    rw [there]
    rfl
  have order := left.order
  rw [queued] at order
  by_cases receiver : (f m).isOpen = true
  · obtain ⟨before, all_⟩ := opened receiver
    rw [if_pos receiver] at effect
    have same : Past.receivedBy id ((h, e) :: later) ++
        ((h.settle id f).queued id ++ (h.settle id f).waiting id) =
          later.receivedBy id ++ (m.queued ++ h.waiting id) := by
      rw [receipt, effect, ← all_]
      simp only [List.append_assoc]
    refine ⟨dismissed, ?_, fun _ => ?_⟩
    · rw [same]
      exact order
    · rw [same, ← queued]
      exact left.whole (by rw [there]; exact before)
  · rw [if_neg receiver] at effect
    refine ⟨dismissed, ?_, fun still => ?_⟩
    · rw [receipt, effect.1, effect.2, List.append_nil, List.append_assoc]
      refine List.IsPrefix.trans ?_ order
      rw [List.prefix_append_right_inj]
      exact front.trans (List.prefix_append _ _)
    · obtain ⟨g, changed, frame, -⟩ := mailbox?_settle id h f
      rw [changed, there, Option.map_some, if_pos rfl, Option.any_some, (frame m).2] at still
      exact absurd still receiver

theorem took (left : Leftover all id later h) {i : ChannelId} {messages : List String}
    {f : Mailbox → Mailbox} (taking : Taking h i messages f) :
    Leftover all id ((h, .took i messages) :: later) (h.settle i f) := by
  obtain ⟨frame, front⟩ := taking
  by_cases same : i = id
  · subst same
    have receipt : Past.receivedBy i ((h, .took i messages) :: later) =
        later.receivedBy i ++ messages := by
      rw [Past.receivedBy, if_pos rfl]
    unfold queued at front
    cases there : h.mailbox? i with
    | none =>
      rw [there] at front
      rw [settle_of_none there]
      refine left.apart [(h, _)] (Nat.le_refl _) (fun _ here => here) rfl rfl ?_
      rw [List.append_eq_nil_iff.1 front |>.1, List.append_nil] at receipt
      rw [List.append_eq_nil_iff.1 front |>.1]
      exact receipt
    | some m =>
      rw [there] at front
      have front : messages ++ (f m).queued = m.queued := front
      exact left.settled receipt there (front ▸ List.prefix_rfl)
        fun opened => ⟨(frame m).2.symm.trans opened, front⟩
  · refine left.elsewhere (Ne.symm same) ?_ f
    rw [Past.receivedBy, if_neg same, List.append_nil]

theorem close (left : Leftover all id later h) (i : ChannelId) :
    Leftover all id ((h, .closed i) :: later) (h.close i) := by
  by_cases same : i = id
  · subst same
    cases there : h.mailbox? i with
    | none =>
      have still : h.close i = h := settle_of_none there _
      rw [still]
      exact left.apart [(h, _)] (Nat.le_refl _) (fun _ here => here) rfl rfl rfl
    | some m =>
      have receipt : Past.receivedBy i ((h, .closed i) :: later) = later.receivedBy i ++ [] :=
        (List.append_nil _).symm
      refine left.settled receipt there List.nil_prefix fun opened => ?_
      cases opened
  · exact left.elsewhere (Ne.symm same) rfl _

end Leftover

/-- **What a channel receives after it has left**: in any history after an unbind or a shutdown, what
it receives, what is queued for it and what tasks wait to leave are together the beginning of what was
queued and waited for it at that moment, and all of it as long as it has its receiver. -/
theorem Leads.receives_after_leaving {pushes : List (Push σ)} {capacity : Nat} {past : Past σ}
    {h : Hub σ} (leads : Leads (.ofPushes pushes capacity) past h) {path : String} {id : ChannelId}
    (bound : .bound path id ∈ past.events) {left : Hub σ}
    (leaves : left = h.unbind path id ∨ left = h.shutdown) {later : Past σ} {h' : Hub σ}
    (after : Leads left later h') (own : .posted id ∉ later.events) :
    later.receivedBy id ++ (h'.queued id ++ h'.waiting id) <+: left.queued id ++ left.waiting id ∧
      ((h'.mailbox? id).any Mailbox.isOpen = true →
        later.receivedBy id ++ (h'.queued id ++ h'.waiting id) =
          left.queued id ++ left.waiting id) := by
  have time : KeptByTime fun (later : Past σ) (g : Hub σ) => .posted id ∉ later.events →
      Leftover (left.queued id ++ left.waiting id) id later g := by
    refine ⟨fun later g before own => ?_, fun later g done t rest message tasks due before own => ?_⟩
    · exact (before own).apart [] (Nat.le_refl _) (fun _ here => here) rfl rfl rfl
    · rw [Past.events_append] at own
      exact (before fun old => own (List.mem_append_right _ old)).turn tasks due message
  have leftover : .posted id ∉ later.events →
      Leftover (left.queued id ++ left.waiting id) id later h' := by
    clear own
    induction after with
    | start =>
      exact fun _ => ⟨leads.tracked.dismissed bound leaves, List.prefix_rfl, fun _ => rfl⟩
    | advance _ say n world ih => exact time.advance say n world ih
    | bind _ p handshake ih =>
      exact fun own => (ih (List.not_mem_of_not_mem_cons own)).bind p handshake
    | unbind _ p i ih => exact fun own => (ih (List.not_mem_of_not_mem_cons own)).unbind p i
    | shutdown _ ih => exact fun own => (ih (List.not_mem_of_not_mem_cons own)).shutdown
    | broadcast _ p message ih =>
      exact fun own => (ih (List.not_mem_of_not_mem_cons own)).broadcast p message
    | @drain later g _ i ih =>
      exact fun own => (ih (List.not_mem_of_not_mem_cons own)).took (taking_drain g i)
    | receive _ taken ih =>
      intro own
      obtain ⟨taking, rfl⟩ := taking_receive? taken
      exact (ih (List.not_mem_of_not_mem_cons own)).took taking
    | close _ there ih => exact fun own => (ih (List.not_mem_of_not_mem_cons own)).close _
    | post _ there queued ih =>
      intro own
      refine (ih (List.not_mem_of_not_mem_cons own)).refill ?_ queued
      rintro rfl
      exact own List.mem_cons_self
  exact ⟨(leftover own).order, (leftover own).whole⟩

/-- A push for each channel after each millisecond. -/
def greeter : Push Nat where
  path := "/me"
  delay := 1
  event := .request
  handler := {
    type := "Me", method := "greet", verb := .ws, pattern := "/me", body := fun _ _ => pure default }

/-- Says another word each time. -/
def saysWords : Speaker Nat := fun _ _ => modifyGet fun n => (["first", "second"][n]?, n + 1)

/-- A hub with room for one message, in which the second word waits. -/
def crowded : Hub Nat :=
  ((advance saysWords 2 ((ofPushes [greeter] 1).bind "/me" default).2).run 0).1

theorem leads_crowded : ∃ past, Leads (.ofPushes [greeter] 1) past crowded ∧
    .bound "/me" 0 ∈ past.events := by
  have fresh : Leads (.ofPushes [greeter] 1) [] _ := .start
  exact ⟨_, (fresh.bind "/me" default).advance saysWords 2 0, by decide +kernel⟩

theorem leads_drained (h : Hub Nat) :
    Leads h [((h.drain 0).2, .took 0 ((h.drain 0).2.drain 0).1), (h, .took 0 (h.drain 0).1)]
      ((h.drain 0).2.drain 0).2 :=
  (Leads.start.drain 0).drain 0

/-- What is received after an unbind are both words, though only the first one was queued. -/
theorem Leads.receives_after_leaving_greeter :
    (crowded.unbind "/me" 0).queued 0 = ["first"] ∧
      ∃ later h', Leads (crowded.unbind "/me" 0) later h' ∧
        later.receivedBy 0 ++ (h'.queued 0 ++ h'.waiting 0) = ["first", "second"] ∧
        h'.queued 0 ++ h'.waiting 0 = [] := by
  obtain ⟨past, leads, bound⟩ := leads_crowded
  have kept := leads.receives_after_leaving bound (.inl rfl) (leads_drained _) (by decide +kernel)
  refine ⟨by decide +kernel, _, _, leads_drained _, ?_, by decide +kernel⟩
  exact (kept.2 (by decide +kernel)).trans (by decide +kernel)

/-- A channel that has left receives more than what was queued for it. -/
theorem not_forall_received_was_queued :
    ¬ ∀ (pushes : List (Push Nat)) (capacity : Nat) (past : Past Nat) (h : Hub Nat) (path : String)
      (id : ChannelId) (left : Hub Nat) (later : Past Nat) (h' : Hub Nat),
      Leads (.ofPushes pushes capacity) past h → .bound path id ∈ past.events →
      (left = h.unbind path id ∨ left = h.shutdown) → Leads left later h' →
      .posted id ∉ later.events → ∀ message ∈ later.receivedBy id, message ∈ left.queued id := by
  intro claim
  obtain ⟨past, leads, bound⟩ := leads_crowded
  have queued := claim _ _ _ _ _ _ _ _ _ leads bound (.inr rfl) (leads_drained _)
    (by decide +kernel) "second" (by decide +kernel)
  revert queued
  decide +kernel

end Hub

end Switchboard
