import Switchboard.Proofs.List.StableSort
import Switchboard.Proofs.Socket.Mailboxes
import Switchboard.Proofs.Socket.Tasks

/-!
# Groups of tasks

The tasks of a path and the tasks of a channel are picked out of all tasks by a test that no task ever
passes into or out of (`PushTask.Grouping`). For each thing that can be done to a hub there is a lemma
that says what becomes of such a group.

In a millisecond just the tasks that are due call their pushes, each once and in their order
(`Hub.run_tick`). A task that finds room for its message is woken again after its delay
(`Hub.filter_tick`).
-/

namespace Switchboard

variable {σ : Type}

namespace PushTask

theorem isOfChannel_of_waiting? {t : PushTask σ} {id : ChannelId} {message : String}
    (h : t.waiting? id = some message) : t.isOfChannel id = true := by
  unfold PushTask.waiting? at h
  split at h
  · split at h
    · next own => exact own
    · cases h
  · cases h

theorem not_isOfChannel {t : PushTask σ} {id other : ChannelId} (ne : other ≠ id)
    (h : t.isOfChannel id = true) : t.isOfChannel other = false := by
  unfold PushTask.isOfChannel at *
  rw [eq_of_beq h]
  simpa using ne.symm

theorem cancel?_of_cancelled {t : PushTask σ} (ended : t.cancelled = true)
    {message : String} {since : Nat} (blocked : t.stage = .blocked message since) :
    t.cancel? = some t := by
  obtain ⟨push, scope, stage, cancelled⟩ := t
  subst ended blocked
  rfl

theorem cancel?_eq_some {t u : PushTask σ} (h : t.cancel? = some u) :
    u.scope = t.scope ∧ u.cancelled = true ∧ ∃ message since, u.stage = .blocked message since := by
  unfold PushTask.cancel? at h
  split at h
  · cases h
  · next message since blocked =>
    cases h
    exact ⟨rfl, rfl, message, since, blocked⟩

/-- A test of tasks that looks only at what a task is there for. -/
structure Grouping (p : PushTask σ → Bool) : Prop where
  stage : ∀ t stage, p { t with stage := stage } = p t
  cancel : ∀ t u, t.cancel? = some u → p u = p t

theorem grouping_isOfPath (path : String) : Grouping (σ := σ) (·.isOfPath path) where
  stage _ _ := rfl
  cancel t u became := by
    unfold cancel? at became
    split at became
    · cases became
    · cases became
      rfl

theorem grouping_isOfChannel (id : ChannelId) : Grouping (σ := σ) (·.isOfChannel id) where
  stage _ _ := rfl
  cancel t u became := by
    unfold isOfChannel
    rw [(cancel?_eq_some became).1]

/-- The task at some time, if its call leaves it nothing to wait for but its next one. -/
def woken (clock : Nat) (t : PushTask σ) : PushTask σ :=
  if t.isDue clock then { t with stage := .asleep (clock + t.push.delay) } else t

end PushTask

namespace Hub

/-! ## Calls -/

/-- The tasks that call their pushes in the next millisecond, in their order. -/
def callers (h : Hub σ) : List (PushTask σ) := h.tasks.filter (·.isDue (h.clock + 1))

/-- Calls the pushes of some tasks, one after another. -/
def callAll (say : Speaker σ) (tasks : List (PushTask σ)) : StateM σ Unit :=
  tasks.forM fun t => discard (say t.push t.request)

theorem run_runTasks (say : Speaker σ) (done rest : List (PushTask σ)) (h : Hub σ) (world : σ) :
    ((runTasks say done rest h).run world).2 =
      ((callAll say (rest.filter (·.isDue h.clock))).run world).2 := by
  induction rest generalizing done h world with
  | nil => rfl
  | cons t rest ih =>
    rw [runTasks]
    by_cases due : t.isDue h.clock = true
    · rw [if_pos due, List.filter_cons_of_pos due]
      exact ih _ { h with mailboxes := _ } _
    · rw [if_neg due, List.filter_cons_of_neg due]
      exact ih _ h world

/-- **What a millisecond calls**: the pushes of the tasks that are due, whatever the pushes do. -/
theorem run_tick (say : Speaker σ) (h : Hub σ) (world : σ) :
    ((h.tick say).run world).2 = ((callAll say h.callers).run world).2 :=
  run_runTasks say [] h.tasks { h with clock := h.clock + 1 } world

/-! ## Turns -/

theorem runTasks_frame (say : Speaker σ) (done rest : List (PushTask σ)) (h : Hub σ) (world : σ) :
    ((runTasks say done rest h).run world).1 =
      { h with
        tasks := ((runTasks say done rest h).run world).1.tasks
        mailboxes := ((runTasks say done rest h).run world).1.mailboxes } := by
  induction rest generalizing done h world with
  | nil => rfl
  | cons t rest ih =>
    rw [runTasks]
    split
    · exact ih _ { h with mailboxes := _ } _
    · exact ih _ h world

theorem tick_frame (say : Speaker σ) (h : Hub σ) (world : σ) :
    ((h.tick say).run world).1 =
      { h with
        clock := h.clock + 1
        tasks := ((h.tick say).run world).1.tasks
        mailboxes := ((h.tick say).run world).1.mailboxes } :=
  runTasks_frame say [] h.tasks { h with clock := h.clock + 1 } world

theorem scope_runTasks (say : Speaker σ) (done rest : List (PushTask σ)) (h : Hub σ) (world : σ)
    {t : PushTask σ} (ht : t ∈ ((runTasks say done rest h).run world).1.tasks) :
    ∃ t₀ ∈ done ++ rest, t.scope = t₀.scope := by
  induction rest generalizing done h world with
  | nil => exact ⟨t, List.mem_append_left _ ht, rfl⟩
  | cons u rest ih =>
    rw [runTasks] at ht
    split at ht
    · let called := (say u.push u.request).run world
      obtain ⟨t₀, h₀, same⟩ := ih (done ++ (h.deliver u called.1).1.toList)
        { h with mailboxes := (h.deliver u called.1).2 } called.2 ht
      rcases List.mem_append.1 h₀ with h₀ | h₀
      · rcases List.mem_append.1 h₀ with h₀ | h₀
        · exact ⟨t₀, List.mem_append_left _ h₀, same⟩
        · refine ⟨u, by simp, same.trans ?_⟩
          rcases deliver_next h u called.1 with ended | ⟨stage, next⟩
          · rw [ended] at h₀
            cases h₀
          · rw [next] at h₀
            rw [List.mem_singleton.1 h₀]
      · exact ⟨t₀, List.mem_append_right _ (List.mem_cons_of_mem _ h₀), same⟩
    · obtain ⟨t₀, h₀, same⟩ := ih _ h world ht
      rw [List.append_assoc] at h₀
      exact ⟨t₀, h₀, same⟩

theorem scope_tick (say : Speaker σ) (h : Hub σ) (world : σ) {t : PushTask σ}
    (ht : t ∈ ((h.tick say).run world).1.tasks) : ∃ t₀ ∈ h.tasks, t.scope = t₀.scope :=
  scope_runTasks say [] h.tasks { h with clock := h.clock + 1 } world ht

/-- Where mailboxes satisfy a condition, the task leaves any message at once, and sleeps again. -/
def FindsRoom (room : List (ChannelId × Mailbox) → Prop) (t : PushTask σ) : Prop :=
  ∀ (h : Hub σ) message, room h.mailboxes →
    (h.deliver t message).1 = some { t with stage := .asleep (h.clock + t.push.delay) }

/-- The tasks of a path need no room. -/
theorem findsRoom_of_isOfPath {path : String} {t : PushTask σ} (own : t.isOfPath path = true) :
    FindsRoom (fun _ => True) t := by
  intro h message _
  unfold PushTask.isOfPath at own
  unfold deliver
  cases message with
  | none => rfl
  | some message =>
    cases scope : t.scope with
    | path => rfl
    | channel id handshake => simp [scope, TaskScope.channel?] at own

/-- The tasks of a channel find room where its mailbox takes a message. -/
theorem findsRoom_of_isOfChannel {id : ChannelId} {t : PushTask σ}
    (own : t.isOfChannel id = true) :
    FindsRoom (fun mailboxes => (mailboxes.lookup id).any Mailbox.takes = true) t := by
  intro h message takes
  unfold PushTask.isOfChannel at own
  unfold deliver
  cases message with
  | none => rfl
  | some message =>
    cases scope : t.scope with
    | path => simp [scope, TaskScope.channel?] at own
    | channel i handshake =>
      have same : i = id := by simpa [scope, TaskScope.channel?] using own
      subst same
      obtain ⟨m, there, takes⟩ := (Option.any_eq_true _ _).1 takes
      have there : h.mailbox? i = some m := there
      unfold Mailbox.takes at takes
      rw [Bool.and_eq_true, Bool.not_eq_true'] at takes
      simp [there, takes.1, takes.2]

/-- A mailbox that takes a message after a turn took one before it. -/
theorem takes_of_deliver {h : Hub σ} {t : PushTask σ} {message : Option String} {id : ChannelId}
    (after : ((h.deliver t message).2.lookup id).any Mailbox.takes = true) :
    (h.mailbox? id).any Mailbox.takes = true := by
  cases message with
  | none => rwa [deliver_none] at after
  | some message =>
    rw [lookup_deliver, Option.any_map, Option.any_eq_true] at after
    obtain ⟨m, there, takes⟩ := after
    refine (Option.any_eq_true _ _).2 ⟨m, there, ?_⟩
    by_contra full
    split at takes
    · rw [Mailbox.offer, if_neg full] at takes
      exact full takes
    · exact full takes

section Turns

variable {p : PushTask σ → Bool} {room : List (ChannelId × Mailbox) → Prop}

/-- What is left of a task of the group after its turn, or of another one. -/
theorem filter_turn (grouping : PushTask.Grouping p) {h : Hub σ} {t : PushTask σ}
    (due : t.isDue h.clock = true) (finds : p t = true → FindsRoom room t) (message : Option String)
    (before : room h.mailboxes) :
    (h.deliver t message).1.toList.filter p = ([t].filter p).map (PushTask.woken h.clock) := by
  by_cases own : p t = true
  · rw [finds own h message before, List.filter_cons_of_pos own, List.filter_nil, List.map_singleton,
      PushTask.woken, if_pos due]
    exact List.filter_cons_of_pos ((grouping.stage t _).trans own)
  · rw [List.filter_cons_of_neg own, List.filter_nil, List.map_nil]
    rcases deliver_next h t message with ended | ⟨stage, next⟩
    · rw [ended]
      rfl
    · rw [next]
      exact List.filter_cons_of_neg (by rwa [grouping.stage])

/-- A task whose turn has not come yet. -/
theorem map_woken_of_not_due {clock : Nat} {tasks : List (PushTask σ)}
    (late : ∀ t ∈ tasks, ¬ t.isDue clock = true) : tasks.map (PushTask.woken clock) = tasks := by
  refine (List.map_congr_left fun t ht => ?_).trans (List.map_id _)
  exact if_neg (late t ht)

/-- Turns wake the tasks of a group that find room to the end. -/
theorem filter_runTasks (grouping : PushTask.Grouping p)
    (earlier : ∀ (h : Hub σ) t message, room (h.deliver t message).2 → room h.mailboxes)
    (say : Speaker σ) (done rest : List (PushTask σ)) (h : Hub σ) (world : σ)
    (finds : ∀ t ∈ rest, p t = true → t.isDue h.clock = true → FindsRoom room t)
    (left : room ((runTasks say done rest h).run world).1.mailboxes) :
    room h.mailboxes ∧ ((runTasks say done rest h).run world).1.tasks.filter p =
      done.filter p ++ (rest.filter p).map (PushTask.woken h.clock) := by
  induction rest generalizing done h world with
  | nil => exact ⟨left, (List.append_nil _).symm⟩
  | cons t rest ih =>
    obtain ⟨first, others⟩ := List.forall_mem_cons.1 finds
    -- One task moves from the rest to those that are done, as its turn leaves it.
    have moved {next : List (PushTask σ)}
        (turned : next.filter p = ([t].filter p).map (PushTask.woken h.clock)) :
        (done ++ next).filter p ++ (rest.filter p).map (PushTask.woken h.clock) =
          done.filter p ++ ((t :: rest).filter p).map (PushTask.woken h.clock) := by
      rw [← List.singleton_append (l := rest), List.filter_append, List.filter_append, List.map_append,
        turned, List.append_assoc]
    rw [runTasks] at left ⊢
    by_cases due : t.isDue h.clock = true
    · rw [if_pos due] at left ⊢
      let called := (say t.push t.request).run world
      obtain ⟨after, same⟩ := ih (done ++ (h.deliver t called.1).1.toList)
        { h with mailboxes := (h.deliver t called.1).2 } called.2 others left
      have before := earlier h t called.1 after
      exact ⟨before, same.trans (moved (filter_turn grouping due (first · due) called.1 before))⟩
    · rw [if_neg due] at left ⊢
      obtain ⟨before, same⟩ := ih _ _ _ others left
      have late : ∀ u ∈ [t].filter p, ¬ u.isDue h.clock = true := by
        intro u hu
        rwa [List.mem_singleton.1 (List.mem_filter.1 hu).1]
      exact ⟨before, same.trans (moved (map_woken_of_not_due late).symm)⟩

variable (room) in
/-- **A millisecond wakes the tasks of a group** whose tasks find room as they are due. -/
theorem filter_tick (grouping : PushTask.Grouping p)
    (earlier : ∀ (h : Hub σ) t message, room (h.deliver t message).2 → room h.mailboxes)
    (say : Speaker σ) (h : Hub σ) (world : σ)
    (finds : ∀ t ∈ h.tasks, p t = true → t.isDue (h.clock + 1) = true → FindsRoom room t)
    (left : room ((h.tick say).run world).1.mailboxes) :
    ((h.tick say).run world).1.tasks.filter p =
      (h.tasks.filter p).map (PushTask.woken (h.clock + 1)) :=
  (filter_runTasks grouping earlier say [] h.tasks { h with clock := h.clock + 1 } world finds
    left).2

theorem filter_tick_isOfPath (path : String) (say : Speaker σ) (h : Hub σ) (world : σ) :
    ((h.tick say).run world).1.tasks.filter (·.isOfPath path) =
      (h.tasks.filter (·.isOfPath path)).map (PushTask.woken (h.clock + 1)) :=
  filter_tick _ (PushTask.grouping_isOfPath path) (fun _ _ _ _ => trivial) say h world
    (fun _ _ own _ => findsRoom_of_isOfPath own) trivial

theorem filter_tick_isOfChannel (id : ChannelId) (say : Speaker σ) (h : Hub σ) (world : σ)
    (takes : (((h.tick say).run world).1.mailbox? id).any Mailbox.takes = true) :
    ((h.tick say).run world).1.tasks.filter (·.isOfChannel id) =
      (h.tasks.filter (·.isOfChannel id)).map (PushTask.woken (h.clock + 1)) :=
  filter_tick _ (PushTask.grouping_isOfChannel id) (fun _ _ _ => takes_of_deliver) say h world
    (fun _ _ own _ => findsRoom_of_isOfChannel own) takes

/-- A millisecond leaves the tasks of a group alone of which none is due. -/
theorem filter_tick_of_not_due (grouping : PushTask.Grouping p) (say : Speaker σ) (h : Hub σ)
    (world : σ) (late : ∀ t ∈ h.tasks.filter p, ¬ t.isDue (h.clock + 1) = true) :
    ((h.tick say).run world).1.tasks.filter p = h.tasks.filter p := by
  refine (filter_tick (fun _ => True) grouping (fun _ _ _ _ => trivial) say h world
    (fun t ht own due => absurd due (late t (List.mem_filter.2 ⟨ht, own⟩))) trivial).trans ?_
  exact map_woken_of_not_due late

end Turns

/-! ## Starting and cancelling -/

section Started

variable {p : PushTask σ → Bool} {clock : Nat} {scope : TaskScope} {pushes : List (Push σ)}

theorem filter_starting (all : ∀ q ∈ pushes, p (.starting clock scope q) = true) :
    (pushes.map (PushTask.starting clock scope)).filter p =
      pushes.map (PushTask.starting clock scope) := by
  rw [List.filter_eq_self]
  intro t ht
  obtain ⟨q, hq, rfl⟩ := List.mem_map.1 ht
  exact all q hq

theorem filter_starting_of_others (others : ∀ q ∈ pushes, p (.starting clock scope q) = false) :
    (pushes.map (PushTask.starting clock scope)).filter p = [] := by
  rw [List.filter_eq_nil_iff]
  intro t ht
  obtain ⟨q, hq, rfl⟩ := List.mem_map.1 ht
  rw [others q hq]
  exact Bool.false_ne_true

end Started

theorem filter_cancelWhere {p : PushTask σ → Bool} (grouping : PushTask.Grouping p)
    (h : Hub σ) (q : PushTask σ → Bool) :
    (h.cancelWhere q).tasks.filter p =
      (h.tasks.filter p).filterMap fun t => if q t then t.cancel? else some t := by
  unfold cancelWhere
  rw [List.filter_filterMap, List.filterMap_filter]
  congr 1
  funext t
  have became {u : PushTask σ} (h : (if q t then t.cancel? else some t) = some u) : p u = p t := by
    split at h
    · exact grouping.cancel t u h
    · rw [Option.some.inj h]
  cases hu : if q t then t.cancel? else some t with
  | none => simp
  | some u => cases hp : p t <;> simp [Option.filter, became hu, hp]

/-- Cancelling ends the tasks of a group that sleep. -/
theorem filter_cancelWhere_asleep {p : PushTask σ → Bool} (grouping : PushTask.Grouping p)
    {h : Hub σ} {q : PushTask σ → Bool} (all : ∀ t, p t = true → q t = true)
    (asleep : ∀ t ∈ h.tasks.filter p, ∃ due, t.stage = .asleep due) :
    (h.cancelWhere q).tasks.filter p = [] := by
  rw [filter_cancelWhere grouping, List.filterMap_eq_nil_iff]
  intro t ht
  obtain ⟨due, sleeps⟩ := asleep t ht
  rw [if_pos (all t (List.mem_filter.1 ht).2), PushTask.cancel?, sleeps]

/-- Cancelling others leaves the tasks of a group alone. -/
theorem filter_cancelWhere_others {p : PushTask σ → Bool} (grouping : PushTask.Grouping p)
    {h : Hub σ} {q : PushTask σ → Bool} (others : ∀ t, p t = true → q t = false) :
    (h.cancelWhere q).tasks.filter p = h.tasks.filter p := by
  rw [filter_cancelWhere grouping]
  refine (List.filterMap_congr fun t ht => ?_).trans List.filterMap_some
  rw [others t (List.mem_filter.1 ht).2]
  rfl

theorem blocked_of_mem_cancelWhere {h : Hub σ} {p : PushTask σ → Bool} {id : ChannelId}
    (own : ∀ t : PushTask σ, t.isOfChannel id = true → p t = true) {t : PushTask σ}
    (ht : t ∈ (h.cancelWhere p).tasks) (ofChannel : t.isOfChannel id = true) :
    t.cancelled = true ∧ ∃ message since, t.stage = .blocked message since := by
  obtain ⟨t₀, -, became⟩ := List.mem_filterMap.1 ht
  split at became
  · exact (PushTask.cancel?_eq_some became).2
  · next kept =>
    obtain rfl := Option.some.inj became
    exact absurd (own _ ofChannel) kept

theorem unbind_clock (h : Hub σ) (path : String) (id : ChannelId) :
    (h.unbind path id).clock = h.clock := by
  change (h.removeChannel path id).clock = h.clock
  rcases removeChannel_cases h path id with ⟨-, -, he⟩ | ⟨-, he⟩ | ⟨-, he⟩
  · rw [he]
  · rw [he]
    rfl
  · rw [he]

/-- A removal leaves the tasks of a group alone that is not of the path. -/
theorem filter_removeChannel_others {p : PushTask σ → Bool} (grouping : PushTask.Grouping p)
    {h : Hub σ} (path : String) (id : ChannelId)
    (others : ∀ t, p t = true → t.isOfPath path = false) :
    (h.removeChannel path id).tasks.filter p = h.tasks.filter p := by
  rcases removeChannel_cases h path id with ⟨-, -, he⟩ | ⟨-, he⟩ | ⟨-, he⟩
  · rw [he]
  · rw [he]
    exact filter_cancelWhere_others grouping others
  · rw [he]

/-! ## Settling -/

section SettleTasks

variable (clock : Nat) (id : ChannelId) {tasks : List (PushTask σ)} (m : Mailbox)

/-- Where every task that waits is cancelled, tasks only go. -/
theorem settleTasks_sublist
    (cancelled : ∀ t ∈ tasks, t.isOfChannel id = true → t.cancelled = true) :
    (settleTasks clock id tasks m).1.Sublist tasks := by
  induction tasks generalizing m with
  | nil => exact .refl _
  | cons t tasks ih =>
    have rest (m : Mailbox) := ih m fun u hu => cancelled u (List.mem_cons_of_mem _ hu)
    rw [settleTasks_cons]
    cases hw : t.waiting? id with
    | none => exact (rest m).cons_cons t
    | some message =>
      have ended := cancelled t List.mem_cons_self (PushTask.isOfChannel_of_waiting? hw)
      dsimp only
      split
      · exact (rest m).cons t
      · split
        · exact (rest m).cons_cons t
        · exact (rest _).cons t

/-- Only tasks that wait for room change. -/
theorem filter_settleTasks {p : PushTask σ → Bool} (grouping : PushTask.Grouping p)
    (idle : ∀ t ∈ tasks, p t = true → t.waiting? id = none) :
    (settleTasks clock id tasks m).1.filter p = tasks.filter p := by
  induction tasks generalizing m with
  | nil => rfl
  | cons t tasks ih =>
    have rest (m : Mailbox) := ih m fun u hu => idle u (List.mem_cons_of_mem _ hu)
    rw [settleTasks_cons]
    cases hw : t.waiting? id with
    | none =>
      dsimp only
      rw [List.filter_cons, List.filter_cons, rest]
    | some message =>
      have other : p t = false := by
        rw [Bool.eq_false_iff]
        intro own
        rw [idle t List.mem_cons_self own] at hw
        cases hw
      rw [List.filter_cons_of_neg (a := t) (by simp [other])]
      dsimp only
      split
      · exact rest m
      · split
        · rw [List.filter_cons_of_neg (by simp [other]), rest]
        · split
          · exact rest _
          · rw [List.filter_cons_of_neg (by simp [grouping.stage, other]), rest]

theorem filter_settleTasks_others {other : ChannelId} (ne : other ≠ id) :
    (settleTasks clock id tasks m).1.filter (·.isOfChannel other) =
      tasks.filter (·.isOfChannel other) := by
  refine filter_settleTasks _ _ _ (PushTask.grouping_isOfChannel other) fun t _ own => ?_
  rw [Option.eq_none_iff_forall_ne_some]
  intro message waits
  rw [PushTask.not_isOfChannel ne (PushTask.isOfChannel_of_waiting? waits)] at own
  cases own

end SettleTasks

theorem settle_eq {h : Hub σ} {id : ChannelId} {m : Mailbox} (there : h.mailbox? id = some m)
    (f : Mailbox → Mailbox) :
    let waiting := h.tasks.mergeSort fun a b => blockedSince a ≤ blockedSince b
    h.settle id f = { h with
      tasks := (settleTasks h.clock id waiting (f m)).1
      mailboxes := onMailbox id (fun _ => (settleTasks h.clock id waiting (f m)).2) h.mailboxes } := by
  unfold settle
  rw [there]

theorem settle_of_none {h : Hub σ} {id : ChannelId} (absent : h.mailbox? id = none)
    (f : Mailbox → Mailbox) : h.settle id f = h := by
  unfold settle
  rw [absent]

theorem mem_waiting {h : Hub σ} {t : PushTask σ} :
    (t ∈ h.tasks.mergeSort fun a b => blockedSince a ≤ blockedSince b) ↔ t ∈ h.tasks :=
  (List.mergeSort_perm _ _).mem_iff

/-- A mailbox that is settled leaves the tasks of a group alone that sleep. -/
theorem filter_settle {p : PushTask σ → Bool} (grouping : PushTask.Grouping p) {h : Hub σ}
    (id : ChannelId) (f : Mailbox → Mailbox)
    (asleep : ∀ t ∈ h.tasks.filter p, ∃ due, t.stage = .asleep due) :
    (h.settle id f).tasks.filter p = h.tasks.filter p := by
  cases hm : h.mailbox? id with
  | none => rw [settle_of_none hm]
  | some m =>
    have sorted : (h.tasks.filter p).Pairwise fun a b => blockedSince a ≤ blockedSince b := by
      refine List.pairwise_of_forall_mem_list fun a ha b _ => ?_
      obtain ⟨due, sleeps⟩ := asleep a ha
      unfold blockedSince
      rw [sleeps]
      exact Nat.zero_le _
    rw [settle_eq hm]
    refine (filter_settleTasks _ _ _ grouping fun t ht own => ?_).trans ?_
    · obtain ⟨due, sleeps⟩ := asleep t (List.mem_filter.2 ⟨mem_waiting.1 ht, own⟩)
      unfold PushTask.waiting?
      rw [sleeps]
    · rw [filter_mergeSort]
      exact List.mergeSort_of_pairwise (sorted.imp fun le => decide_eq_true le)

/-- A mailbox that is settled makes no tasks of a channel whose tasks are all cancelled. -/
theorem mem_of_mem_settle {h : Hub σ} {i id : ChannelId} {f : Mailbox → Mailbox}
    (cancelled : ∀ t ∈ h.tasks, t.isOfChannel id = true → t.cancelled = true) {t : PushTask σ}
    (ht : t ∈ (h.settle i f).tasks) (own : t.isOfChannel id = true) : t ∈ h.tasks := by
  cases hm : h.mailbox? i with
  | none => rwa [settle_of_none hm] at ht
  | some m =>
    rw [settle_eq hm] at ht
    refine mem_waiting.1 ?_
    by_cases same : id = i
    · subst same
      exact (settleTasks_sublist _ _ _ fun u hu => cancelled u (mem_waiting.1 hu)).mem ht
    · have kept := List.mem_filter.2 ⟨ht, own⟩
      rw [filter_settleTasks_others _ _ _ same] at kept
      exact (List.mem_filter.1 kept).1

end Hub

end Switchboard
