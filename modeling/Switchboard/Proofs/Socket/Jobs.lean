import Switchboard.Socket.Clock
import Mathlib.Data.List.Perm.Basic

/-!
# The jobs of tasks

A task goes through its stages for the sake of one job: to call a push for a path, or for a channel.
It takes the job up where it is started (`jobsOf_starting`) and leaves it where it is cancelled
(`Hub.jobs_cancelWhere`). Time and receivers move tasks from stage to stage, and as long as no
receiver is given up they change no job (`Hub.stirred_advance`, `Hub.stirred_settle`).
-/

namespace Switchboard

variable {σ : Type}

/-- What a task is there for: it calls a push, for one channel or for all of the push's path. -/
abbrev Job (σ : Type) := Push σ × Option ChannelId

namespace Job

/-- Does the job go to all channels of this path? -/
def isOfPath (path : String) (j : Job σ) : Bool := j.1.path == path && j.2.isNone

/-- Does the job go to this channel? -/
def isOfChannel (id : ChannelId) (j : Job σ) : Bool := j.2 == some id

end Job

/-- The job of a task. -/
def PushTask.job (t : PushTask σ) : Job σ := (t.push, t.scope.channel?)

/-- The jobs of those tasks that are not cancelled. -/
def jobsOf (tasks : List (PushTask σ)) : List (Job σ) :=
  (tasks.filter fun t => !t.cancelled).map PushTask.job

/-- A task has its job, unless it was cancelled. -/
theorem jobsOf_cons (t : PushTask σ) (tasks : List (PushTask σ)) :
    jobsOf (t :: tasks) = if t.cancelled then jobsOf tasks else t.job :: jobsOf tasks := by
  unfold jobsOf
  cases ht : t.cancelled <;> simp [ht]

theorem jobsOf_append (tasks more : List (PushTask σ)) :
    jobsOf (tasks ++ more) = jobsOf tasks ++ jobsOf more := by
  unfold jobsOf
  rw [List.filter_append, List.map_append]

theorem jobsOf_starting (clock : Nat) (scope : TaskScope) (pushes : List (Push σ)) :
    jobsOf (pushes.map (PushTask.starting clock scope)) = pushes.map (·, scope.channel?) := by
  induction pushes with
  | nil => rfl
  | cons p pushes ih =>
    rw [List.map_cons, jobsOf_cons, ih]
    rfl

namespace Hub

/-- The jobs under way. -/
def jobs (h : Hub σ) : List (Job σ) := jobsOf h.tasks

/-- Tasks that are cancelled take their jobs with them, and no others. -/
theorem jobs_cancelWhere (h : Hub σ) (p : Job σ → Bool) :
    (h.cancelWhere fun t => p t.job).jobs = h.jobs.filter fun j => !p j := by
  unfold jobs cancelWhere
  dsimp only
  induction h.tasks with
  | nil => rfl
  | cons t tasks ih =>
    rw [jobsOf_cons]
    by_cases hp : p t.job = true
    · have gone : (if t.cancelled then jobsOf tasks else t.job :: jobsOf tasks).filter
          (fun j => !p j) = (jobsOf tasks).filter fun j => !p j := by
        split
        · rfl
        · rw [List.filter_cons_of_neg (by simp [hp])]
      rw [gone, ← ih]
      cases hs : t.stage with
      | asleep due => rw [List.filterMap_cons_none (by rw [if_pos hp, PushTask.cancel?, hs])]
      | blocked message since =>
        rw [List.filterMap_cons_some (by rw [if_pos hp, PushTask.cancel?, hs]), jobsOf_cons]
        exact if_pos rfl
    · rw [List.filterMap_cons_some (by rw [if_neg hp]), jobsOf_cons, ih]
      split
      · rfl
      · rw [List.filter_cons_of_pos (by simpa using hp)]

theorem mem_cancelWhere {h : Hub σ} {p : PushTask σ → Bool} {t : PushTask σ}
    (ht : t ∈ (h.cancelWhere p).tasks) : ∃ t₀ ∈ h.tasks, t.scope = t₀.scope := by
  obtain ⟨t₀, hm, he⟩ := List.mem_filterMap.1 ht
  refine ⟨t₀, hm, ?_⟩
  split at he
  · unfold PushTask.cancel? at he
    split at he
    · cases he
    · cases he
      rfl
  · cases he
    rfl

end Hub

/-! ## Tasks that only change stage -/

/-- The tasks have become others with the same jobs. -/
structure SameJobs (before after : List (PushTask σ)) : Prop where
  jobs : (jobsOf after).Perm (jobsOf before)
  scopes : ∀ t ∈ after, ∃ t₀ ∈ before, t.scope = t₀.scope

namespace SameJobs

variable {before middle after : List (PushTask σ)}

theorem refl (tasks : List (PushTask σ)) : SameJobs tasks tasks :=
  ⟨.refl _, fun t ht => ⟨t, ht, rfl⟩⟩

theorem trans (h : SameJobs before middle) (h' : SameJobs middle after) : SameJobs before after := by
  refine ⟨h'.jobs.trans h.jobs, fun t ht => ?_⟩
  obtain ⟨t₁, h₁, e₁⟩ := h'.scopes t ht
  obtain ⟨t₀, h₀, e₀⟩ := h.scopes t₁ h₁
  exact ⟨t₀, h₀, e₁.trans e₀⟩

theorem of_perm (h : after.Perm before) : SameJobs before after :=
  ⟨(h.filter _).map _, fun t ht => ⟨t, h.mem_iff.1 ht, rfl⟩⟩

/-- A task at another stage has the same job. -/
theorem cons (h : SameJobs before after) (t : PushTask σ) (stage : TaskStage) :
    SameJobs (t :: before) ({ t with stage := stage } :: after) := by
  refine ⟨?_, List.forall_mem_cons.2 ⟨⟨t, List.mem_cons_self, rfl⟩, fun u hu => ?_⟩⟩
  · rw [jobsOf_cons, jobsOf_cons]
    split
    · exact h.jobs
    · exact h.jobs.cons _
  · obtain ⟨t₀, h₀, e₀⟩ := h.scopes u hu
    exact ⟨t₀, List.mem_cons_of_mem _ h₀, e₀⟩

/-- A task that is cancelled may end. -/
theorem drop (h : SameJobs before after) {t : PushTask σ} (ht : t.cancelled = true) :
    SameJobs (t :: before) after := by
  refine ⟨?_, fun u hu => ?_⟩
  · rw [jobsOf_cons, if_pos ht]
    exact h.jobs
  · obtain ⟨t₀, h₀, e₀⟩ := h.scopes u hu
    exact ⟨t₀, List.mem_cons_of_mem _ h₀, e₀⟩

end SameJobs

/-! ## Mailboxes with a receiver -/

/-- Every channel up to this number has a mailbox, and no receiver is given up. -/
structure AllOpen (n : ChannelId) (mailboxes : List (ChannelId × Mailbox)) : Prop where
  receivers : ∀ e ∈ mailboxes, e.2.isOpen = true
  present : ∀ id < n, (mailboxes.lookup id).isSome

/-- Every channel that was given out has a mailbox with a receiver. -/
theorem AllOpen.lookup {n : ChannelId} {mailboxes : List (ChannelId × Mailbox)}
    (h : AllOpen n mailboxes) {id : ChannelId} (hid : id < n) :
    ∃ m, mailboxes.lookup id = some m ∧ m.isOpen = true := by
  obtain ⟨m, hm⟩ := Option.isSome_iff_exists.1 (h.present id hid)
  obtain ⟨before, after, rfl, -⟩ := List.lookup_eq_some_iff.1 hm
  exact ⟨m, hm, h.receivers (id, m) (by simp)⟩

theorem AllOpen.map {n : ChannelId} {mailboxes : List (ChannelId × Mailbox)}
    (h : AllOpen n mailboxes) {f : ChannelId → Mailbox → Mailbox}
    (hf : ∀ id m, m.isOpen = true → (f id m).isOpen = true) :
    AllOpen n (mailboxes.map fun (id, m) => (id, f id m)) := by
  refine ⟨fun e he => ?_, fun id hid => ?_⟩
  · obtain ⟨⟨id, m⟩, hm, rfl⟩ := List.mem_map.1 he
    exact hf id m (h.receivers _ hm)
  · obtain ⟨e, he, hk⟩ := List.lookup_isSome_iff.1 (h.present id hid)
    exact List.lookup_isSome_iff.2 ⟨_, List.mem_map_of_mem he, hk⟩

theorem AllOpen.append {n : ChannelId} {mailboxes : List (ChannelId × Mailbox)}
    (h : AllOpen n mailboxes) (room : Nat) :
    AllOpen (n + 1) (mailboxes ++ [(n, Mailbox.ofRoom room)]) := by
  refine ⟨fun e he => ?_, fun id hid => ?_⟩
  · rcases List.mem_append.1 he with he | he
    · exact h.receivers e he
    · rw [List.mem_singleton.1 he]
      rfl
  · rw [List.lookup_isSome_iff]
    rcases Nat.lt_succ_iff_lt_or_eq.1 hid with hid | rfl
    · obtain ⟨e, he, hk⟩ := List.lookup_isSome_iff.1 (h.present id hid)
      exact ⟨e, List.mem_append_left _ he, hk⟩
    · exact ⟨_, List.mem_append_right _ (List.mem_singleton_self _), beq_self_eq_true _⟩

/-- What is done with one mailbox closes none, if it does not close that one. -/
theorem AllOpen.onMailbox {n : ChannelId} {mailboxes : List (ChannelId × Mailbox)}
    (h : AllOpen n mailboxes) (id : ChannelId) {f : Mailbox → Mailbox}
    (hf : ∀ m, m.isOpen = true → (f m).isOpen = true) :
    AllOpen n (Hub.onMailbox id f mailboxes) := by
  refine h.map (f := fun i m => if i = id then f m else m) fun i m hm => ?_
  split
  · exact hf m hm
  · exact hm

theorem AllOpen.offerAll {n : ChannelId} {mailboxes : List (ChannelId × Mailbox)}
    (h : AllOpen n mailboxes) (ids : List ChannelId) (message : String) :
    AllOpen n (Hub.offerAll ids message mailboxes) := by
  refine h.map (f := fun i m => if ids.contains i then m.offer message else m) fun i m hm => ?_
  split
  · unfold Mailbox.offer
    split
    · exact hm
    · exact hm
  · exact hm

namespace Hub

/-- No receiver is given up, and every task with a channel has one that was bound. -/
structure Ready (h : Hub σ) : Prop where
  mailboxes : AllOpen h.nextId h.mailboxes
  bound : ∀ t ∈ h.tasks, ∀ id, t.scope.channel? = some id → id < h.nextId

/-- Nothing has changed but the time, the stages of tasks and what waits in mailboxes. -/
structure Stirred (h h' : Hub σ) : Prop where
  frame : h' = { h with clock := h'.clock, tasks := h'.tasks, mailboxes := h'.mailboxes }
  tasks : SameJobs h.tasks h'.tasks
  mailboxes : AllOpen h.nextId h'.mailboxes

theorem Stirred.nextId {h h' : Hub σ} (hs : Stirred h h') : h'.nextId = h.nextId := by
  rw [hs.frame]

/-- A hub that is stirred is ready for more. -/
theorem Stirred.ready {h h' : Hub σ} (hs : Stirred h h') (hr : h.Ready) : h'.Ready := by
  refine ⟨hs.nextId ▸ hs.mailboxes, fun t ht id hid => ?_⟩
  obtain ⟨t₀, h₀, e₀⟩ := hs.tasks.scopes t ht
  rw [hs.nextId]
  exact hr.bound t₀ h₀ id (e₀ ▸ hid)

theorem Stirred.refl {h : Hub σ} (hr : h.Ready) : Stirred h h :=
  ⟨rfl, .refl _, hr.mailboxes⟩

/-- A hub may be stirred again and again. -/
theorem Stirred.trans {h h₁ h₂ : Hub σ} (a : Stirred h h₁) (b : Stirred h₁ h₂) : Stirred h h₂ := by
  refine ⟨?_, a.tasks.trans b.tasks, a.nextId ▸ b.mailboxes⟩
  rw [b.frame, a.frame]

/-- The task whose message is delivered goes on to another stage. -/
theorem deliver_of_ready {h : Hub σ} (ho : AllOpen h.nextId h.mailboxes) {t : PushTask σ}
    (ht : ∀ id, t.scope.channel? = some id → id < h.nextId) (message : Option String) :
    ∃ stage mailboxes, h.deliver t message = (some { t with stage := stage }, mailboxes) ∧
      AllOpen h.nextId mailboxes := by
  unfold deliver
  cases message with
  | none => exact ⟨_, _, rfl, ho⟩
  | some message =>
    cases hscope : t.scope with
    | path => exact ⟨_, _, rfl, ho.offerAll _ _⟩
    | channel id handshake =>
      obtain ⟨m, hm, hopen⟩ := ho.lookup (ht id (by rw [hscope]; rfl))
      dsimp only [mailbox?]
      rw [hm]
      dsimp only
      rw [hopen]
      cases m.isFull with
      | true => exact ⟨_, _, rfl, ho⟩
      | false => exact ⟨_, _, rfl, ho.onMailbox id fun _ h => h⟩

/-- The turns of the tasks change stages and mailboxes, and no jobs. -/
theorem runTasks_of_ready (say : Speaker σ) {h : Hub σ} (done rest : List (PushTask σ)) (world : σ)
    (ho : AllOpen h.nextId h.mailboxes)
    (hb : ∀ t ∈ rest, ∀ id, t.scope.channel? = some id → id < h.nextId) :
    ∃ turned mailboxes, ((runTasks say done rest h).run world).1 =
        { h with tasks := done ++ turned, mailboxes := mailboxes } ∧
      SameJobs rest turned ∧ AllOpen h.nextId mailboxes := by
  induction rest generalizing h done world with
  | nil =>
    refine ⟨[], h.mailboxes, ?_, .refl _, ho⟩
    rw [List.append_nil]
    rfl
  | cons t rest ih =>
    obtain ⟨ht, hb⟩ := List.forall_mem_cons.1 hb
    -- only the mailboxes change from task to task; the hub gets its tasks back at the end
    rw [runTasks]
    split
    · let called := (say t.push t.request).run world
      obtain ⟨stage, mailboxes, hd, ho'⟩ := deliver_of_ready ho ht called.1
      obtain ⟨turned, mailboxes', hrun, same, ho''⟩ :=
        ih (h := { h with mailboxes }) (done ++ [{ t with stage := stage }]) called.2 ho' hb
      refine ⟨{ t with stage := stage } :: turned, mailboxes', ?_, same.cons t stage, ho''⟩
      rw [List.append_cons, ← hrun, StateT.run_bind]
      change ((runTasks say (done ++ (h.deliver t called.1).1.toList) rest
        { h with mailboxes := (h.deliver t called.1).2 }).run called.2).1 = _
      rw [hd]
      rfl
    · obtain ⟨turned, mailboxes, hrun, same, ho'⟩ := ih (done ++ [t]) world ho hb
      refine ⟨t :: turned, mailboxes, ?_, same.cons t t.stage, ho'⟩
      rw [hrun, List.append_assoc]
      rfl

theorem stirred_tick (say : Speaker σ) {h : Hub σ} (hr : h.Ready) (world : σ) :
    Stirred h ((h.tick say).run world).1 := by
  obtain ⟨turned, mailboxes, hrun, same, ho⟩ :=
    runTasks_of_ready say (h := { h with clock := h.clock + 1 }) [] h.tasks world hr.mailboxes
      hr.bound
  have ticked : ((h.tick say).run world).1 =
      { h with clock := h.clock + 1, tasks := turned, mailboxes := mailboxes } := hrun
  rw [ticked]
  exact ⟨rfl, same, ho⟩

/-- **Time changes no job.** -/
theorem stirred_advance (say : Speaker σ) (n : Nat) {h : Hub σ} (hr : h.Ready) (world : σ) :
    Stirred h ((h.advance say n).run world).1 := by
  induction n generalizing h world with
  | zero => exact .refl hr
  | succ n ih =>
    have once := stirred_tick say hr world
    exact once.trans (ih (once.ready hr) _)

/-- A receiver that takes a message lets waiting tasks go on with their jobs. -/
theorem sameJobs_settleTasks (clock : Nat) (id : ChannelId) (tasks : List (PushTask σ))
    {m : Mailbox} (hm : m.isOpen = true) :
    SameJobs tasks (settleTasks clock id tasks m).1 ∧
      (settleTasks clock id tasks m).2.isOpen = true := by
  induction tasks generalizing m with
  | nil => exact ⟨.refl _, hm⟩
  | cons t rest ih =>
    have stays := (ih hm).1.cons t t.stage
    rw [settleTasks]
    split
    · rename_i message since hs
      split
      · rw [if_neg (by simp [hm])]
        split
        · exact ⟨stays, (ih hm).2⟩
        · have after := ih (m := m.push message) hm
          generalize settleTasks clock id rest (m.push message) = settled at after ⊢
          obtain ⟨rest', m'⟩ := settled
          obtain ⟨same, ho⟩ := after
          dsimp only
          split
          · rename_i hc
            exact ⟨same.drop hc, ho⟩
          · exact ⟨same.cons t _, ho⟩
      · exact ⟨stays, (ih hm).2⟩
    · exact ⟨stays, (ih hm).2⟩

/-- **A receiver that takes messages changes no job.** -/
theorem stirred_settle {h : Hub σ} (hr : h.Ready) {id : ChannelId} (hid : id < h.nextId)
    {f : Mailbox → Mailbox} (hf : ∀ m, m.isOpen = true → (f m).isOpen = true) :
    Stirred h (h.settle id f) := by
  obtain ⟨m, hm, ho⟩ := hr.mailboxes.lookup hid
  unfold settle mailbox?
  rw [hm]
  dsimp only
  have sorted : SameJobs h.tasks (h.tasks.mergeSort fun a b => blockedSince a ≤ blockedSince b) :=
    .of_perm (List.mergeSort_perm _ _)
  obtain ⟨same, ho'⟩ := sameJobs_settleTasks h.clock id
    (h.tasks.mergeSort fun a b => blockedSince a ≤ blockedSince b) (hf m ho)
  exact ⟨rfl, sorted.trans same, hr.mailboxes.onMailbox id fun _ _ => ho'⟩

theorem stirred_drain {h : Hub σ} (hr : h.Ready) {id : ChannelId} (hid : id < h.nextId) :
    Stirred h (h.drain id).2 :=
  stirred_settle hr hid fun _ ho => ho

theorem stirred_receive? {h next : Hub σ} (hr : h.Ready) {id : ChannelId} (hid : id < h.nextId)
    {message : String} (taken : h.receive? id = some (message, next)) : Stirred h next := by
  unfold receive? at taken
  obtain ⟨m, -, taken⟩ := Option.bind_eq_some_iff.1 taken
  obtain ⟨⟨first, _⟩, -, taken⟩ := Option.bind_eq_some_iff.1 taken
  cases taken
  exact stirred_settle hr hid fun _ ho => ho

end Hub

end Switchboard
