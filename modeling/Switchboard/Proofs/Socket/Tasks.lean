import Switchboard.Proofs.Dictionary
import Switchboard.Proofs.Socket.Jobs
import Mathlib.Data.List.Perm.Subperm

/-!
# Tasks and channels

At any time the tasks that are not cancelled are those that the bound channels call for: one for each
periodic push of a path with a channel, and one for each push by request and channel
(`Hub.Reached.tasks_match_channels`). This holds through any history of the hub in which channels
are unbound from the path they were bound to, as often as one likes, and no receiver is given up.

The invariant is `Hub.Balanced`. Each operation keeps it: a bind adds what the new channel calls for,
an unbind takes away what no channel calls for any more, and all else changes no job.
-/

namespace Switchboard

variable {σ : Type}

/-! ## What channels call for -/

/-- The pushes of a path that are called on one event. -/
def pushesFor (pushes : List (Push σ)) (event : PushEvent) (path : String) : List (Push σ) :=
  pushes.filter fun p => p.path = path ∧ p.event = event

/-- The jobs of a path with some channels: its periodic pushes once, if there is a channel, and its
pushes by request for each of them. -/
def jobsFor (pushes : List (Push σ)) (path : String) (ids : List ChannelId) : List (Job σ) :=
  (if ids = [] then [] else (pushesFor pushes .periodic path).map (·, none)) ++
    ids.flatMap fun id => (pushesFor pushes .request path).map (·, some id)

/-- The jobs of all channels. -/
def jobsDue (pushes : List (Push σ)) (channels : Dictionary (List ChannelId)) : List (Job σ) :=
  channels.flatMap fun (path, ids) => jobsFor pushes path ids

section Jobs

variable (pushes : List (Push σ)) (path : String) (ids : List ChannelId) (id : ChannelId)

theorem jobsFor_append :
    (jobsFor pushes path (ids ++ [id])).Perm
      (jobsFor pushes path ids ++
        (if ids = [] then (pushesFor pushes .periodic path).map (·, none) else []) ++
        (pushesFor pushes .request path).map (·, some id)) := by
  unfold jobsFor
  rw [if_neg (by simp), List.flatMap_append, List.flatMap_singleton]
  by_cases h : ids = []
  · simp [h]
  · simp [h]

/-- A job is due for a path that is occupied, or for one of its channels. -/
theorem mem_jobsFor {j : Job σ} :
    j ∈ jobsFor pushes path ids ↔
      (ids ≠ [] ∧ j.1 ∈ pushesFor pushes .periodic path ∧ j.2 = none) ∨
      ∃ id ∈ ids, j.1 ∈ pushesFor pushes .request path ∧ j.2 = some id := by
  obtain ⟨p, channel⟩ := j
  unfold jobsFor
  rw [List.mem_append, List.mem_flatMap]
  refine or_congr ?_ (exists_congr fun i => and_congr_right fun _ => ?_)
  · split
    · simp [*]
    · simp [*, eq_comm]
  · simp [eq_comm]

/-- While other channels are left, only the jobs of a channel go with it. -/
theorem filter_jobsFor (h : ids.filter (· ≠ id) ≠ []) :
    (jobsFor pushes path ids).filter (fun j => !j.isOfChannel id) =
      jobsFor pushes path (ids.filter (· ≠ id)) := by
  have some : ids ≠ [] := fun e => h (by rw [e]; rfl)
  unfold jobsFor
  rw [if_neg some, if_neg h, List.filter_append]
  congr 1
  · exact List.filter_eq_self.2 fun j hj => by
      obtain ⟨p, -, rfl⟩ := List.mem_map.1 hj
      rfl
  · clear h some
    induction ids with
    | nil => rfl
    | cons i ids ih =>
      rw [List.flatMap_cons, List.filter_append, ih]
      by_cases hi : i = id
      · rw [List.filter_cons_of_neg (by simpa using hi), List.filter_eq_nil_iff.2, List.nil_append]
        intro j hj
        obtain ⟨p, -, rfl⟩ := List.mem_map.1 hj
        simp [Job.isOfChannel, hi]
      · rw [List.filter_cons_of_pos (by simpa using hi), List.flatMap_cons, List.filter_eq_self.2]
        intro j hj
        obtain ⟨p, -, rfl⟩ := List.mem_map.1 hj
        simp [Job.isOfChannel, hi]

/-- With the last channel the jobs of its path go, too. -/
theorem filter_jobsFor_last (h : ids.filter (· ≠ id) = []) :
    ((jobsFor pushes path ids).filter fun j => !j.isOfPath path).filter
      (fun j => !j.isOfChannel id) = [] := by
  rw [List.filter_filter, List.filter_eq_nil_iff]
  intro j hj
  rcases (mem_jobsFor pushes path ids).1 hj with ⟨-, hp, hn⟩ | ⟨i, hi, -, hc⟩
  · have own : j.1.path = path := (of_decide_eq_true (List.mem_filter.1 hp).2).1
    simp [Job.isOfPath, own, hn]
  · have same : i = id := by simpa using List.filter_eq_nil_iff.1 h i hi
    simp [Job.isOfChannel, hc, same]

theorem filter_jobsDue {channels : Dictionary (List ChannelId)} {q : Job σ → Bool}
    (h : ∀ e ∈ channels, ∀ j ∈ jobsFor pushes e.1 e.2, q j = true) :
    (jobsDue pushes channels).filter q = jobsDue pushes channels := by
  refine List.filter_eq_self.2 fun j hj => ?_
  obtain ⟨e, he, hj⟩ := List.mem_flatMap.1 hj
  exact h e he j hj

/-- The jobs of one path and those of the others. -/
theorem jobsDue_perm {channels : Dictionary (List ChannelId)}
    (sorted : Dictionary.Sorted channels) :
    (jobsDue pushes channels).Perm
      (jobsFor pushes path ((Dictionary.get? channels path).getD []) ++
        jobsDue pushes (Dictionary.erase channels path)) := by
  cases hg : Dictionary.get? channels path with
  | none =>
    rw [Dictionary.erase_of_get?_eq_none hg]
    exact .refl _
  | some ids =>
    exact (sorted.perm_cons_erase hg).flatMap_right _

end Jobs

/-! ## Histories -/

namespace Hub

/-- The states a hub gets into, with the channels that were ever bound and those that still are.
Channels are unbound from their own path, and their receivers take messages and are not given up. -/
inductive Reached (pushes : List (Push σ)) (capacity : Nat) :
    (issued bound : List (String × ChannelId)) → Hub σ → Prop where
  | start : Reached pushes capacity [] [] (.ofPushes pushes capacity)
  | bind {issued bound : List (String × ChannelId)} {h : Hub σ}
      (before : Reached pushes capacity issued bound h) (path : String) (handshake : Request) :
      Reached pushes capacity (issued ++ [(path, (h.bind path handshake).1)])
        (bound ++ [(path, (h.bind path handshake).1)]) (h.bind path handshake).2
  | unbind {issued bound : List (String × ChannelId)} {h : Hub σ}
      (before : Reached pushes capacity issued bound h) {path : String} {id : ChannelId}
      (own : (path, id) ∈ issued) :
      Reached pushes capacity issued (bound.filter (· ≠ (path, id))) (h.unbind path id)
  | broadcast {issued bound : List (String × ChannelId)} {h : Hub σ}
      (before : Reached pushes capacity issued bound h) (path message : String) :
      Reached pushes capacity issued bound (h.broadcast path message).2
  | shutdown {issued bound : List (String × ChannelId)} {h : Hub σ}
      (before : Reached pushes capacity issued bound h) :
      Reached pushes capacity issued [] h.shutdown
  | advance {issued bound : List (String × ChannelId)} {h : Hub σ}
      (before : Reached pushes capacity issued bound h) (say : Speaker σ) (n : Nat) (world : σ) :
      Reached pushes capacity issued bound ((h.advance say n).run world).1
  | drain {issued bound : List (String × ChannelId)} {h : Hub σ}
      (before : Reached pushes capacity issued bound h) {path : String} {id : ChannelId}
      (own : (path, id) ∈ issued) : Reached pushes capacity issued bound (h.drain id).2
  | receive {issued bound : List (String × ChannelId)} {h next : Hub σ}
      (before : Reached pushes capacity issued bound h) {path : String} {id : ChannelId}
      (own : (path, id) ∈ issued) {message : String} (taken : h.receive? id = some (message, next)) :
      Reached pushes capacity issued bound next

theorem pushesOn_ofPushes (pushes : List (Push σ)) (capacity : Nat) (event : PushEvent)
    (path : String) : (ofPushes pushes capacity).pushesOn event path =
      pushesFor pushes event path := by
  have gathered (d : Dictionary (List (Push σ))) :
      (Dictionary.get? (pushes.foldl (fun d p =>
        Dictionary.modify d p.path fun old => old.getD [] ++ [p]) d) path).getD [] =
      (Dictionary.get? d path).getD [] ++ pushes.filter fun p => p.path = path := by
    induction pushes generalizing d with
    | nil => simp
    | cons p pushes ih =>
      rw [List.foldl_cons, ih, Dictionary.get?_modify]
      by_cases hp : p.path = path
      · simp [hp]
      · simp [hp, Ne.symm hp]
  unfold pushesOn pushesOf ofPushes pushesFor
  dsimp only
  rw [gathered, Dictionary.get?_nil, Option.getD_none, List.nil_append, List.filter_filter]
  congr 1
  funext p
  rw [← Bool.decide_and, decide_eq_decide]
  exact and_comm

section Entry

-- One path has other channels; without any it has no entry.
variable {h h' : Hub σ} {path : String} {ids : List ChannelId}
  (channels : h'.channels =
    if ids = [] then Dictionary.erase h.channels path else Dictionary.put path ids h.channels)

include channels

theorem channelsOf_of_channels (p : String) :
    h'.channelsOf p = if p = path then ids else h.channelsOf p := by
  unfold channelsOf
  rw [channels]
  by_cases none : ids = []
  · rw [if_pos none, Dictionary.get?_erase]
    split
    · exact none.symm
    · rfl
  · rw [if_neg none, Dictionary.get?_put]
    split
    · rfl
    · rfl

theorem sorted_of_channels (sorted : Dictionary.Sorted h.channels) :
    Dictionary.Sorted h'.channels := by
  rw [channels]
  split
  · exact sorted.erase path
  · exact sorted.put path ids

theorem erase_of_channels :
    Dictionary.erase h'.channels path = Dictionary.erase h.channels path := by
  rw [channels]
  split
  · exact Dictionary.erase_erase _ _
  · exact Dictionary.erase_put _ _ _

theorem mem_of_channels {e : String × List ChannelId} (he : e ∈ h'.channels) :
    (e = (path, ids) ∧ ids ≠ []) ∨ e ∈ h.channels := by
  rw [channels] at he
  split at he
  · exact Or.inr (List.mem_of_mem_filter he)
  · rename_i some
    exact (Dictionary.mem_put he).imp_left fun here => ⟨here, some⟩

end Entry

/-- The tables of a hub and its tasks agree. -/
structure Balanced (pushes : List (Push σ)) (issued : List (String × ChannelId)) (h : Hub σ) :
    Prop where
  listed : ∀ event path, h.pushesOn event path = pushesFor pushes event path
  sorted : Dictionary.Sorted h.channels
  sets : ∀ e ∈ h.channels, e.2 ≠ [] ∧ e.2.Nodup ∧ ∀ id ∈ e.2, (e.1, id) ∈ issued
  fresh : ∀ e ∈ issued, e.2 < h.nextId
  single : ∀ path other id, (path, id) ∈ issued → (other, id) ∈ issued → other = path
  pushing : ∀ path, path ∈ h.pushing ↔
    pushesFor pushes .periodic path ≠ [] ∧ h.channelsOf path ≠ []
  served : ∀ id, id ∈ h.served ↔
    ∃ path, id ∈ h.channelsOf path ∧ pushesFor pushes .request path ≠ []
  jobs : h.jobs.Perm (jobsDue pushes h.channels)
  ready : h.Ready

namespace Balanced

variable {pushes : List (Push σ)} {issued : List (String × ChannelId)} {h : Hub σ}

theorem start (pushes : List (Push σ)) (capacity : Nat) :
    Balanced pushes [] (.ofPushes pushes capacity) where
  listed := pushesOn_ofPushes pushes capacity
  sorted := Dictionary.sorted_nil
  sets := List.forall_mem_nil _
  fresh := List.forall_mem_nil _
  single _ _ _ hm := by cases hm
  pushing path := by simp [ofPushes, channelsOf]
  served id := by simp [ofPushes, channelsOf]
  jobs := .refl _
  ready := ⟨⟨List.forall_mem_nil _, fun id hid => absurd hid (Nat.not_lt_zero id)⟩,
    List.forall_mem_nil _⟩

/-- Time and deliveries leave jobs and channels in balance. -/
theorem stirred (hb : Balanced pushes issued h) {h' : Hub σ} (hs : Stirred h h') :
    Balanced pushes issued h' := by
  have ready := hs.ready hb.ready
  have jobs := hs.tasks.jobs
  rw [hs.frame] at ready ⊢
  exact { hb with jobs := jobs.trans hb.jobs, ready }

/-- A hub in which only one path has other channels, with the jobs that they call for. -/
theorem update (hb : Balanced pushes issued h) {issued' : List (String × ChannelId)} {h' : Hub σ}
    (path : String) (ids : List ChannelId)
    (listed : h'.pushes = h.pushes)
    (channels : h'.channels =
      if ids = [] then Dictionary.erase h.channels path else Dictionary.put path ids h.channels)
    (nodup : ids.Nodup) (own : ∀ id ∈ ids, (path, id) ∈ issued') (more : issued ⊆ issued')
    (fresh : ∀ e ∈ issued', e.2 < h'.nextId)
    (single : ∀ path other id, (path, id) ∈ issued' → (other, id) ∈ issued' → other = path)
    (pushing : ∀ p, p ∈ h'.pushing ↔
      if p = path then pushesFor pushes .periodic path ≠ [] ∧ ids ≠ [] else p ∈ h.pushing)
    (served : ∀ id, id ∈ h'.served ↔
      (id ∈ ids ∧ pushesFor pushes .request path ≠ []) ∨
        ∃ p, p ≠ path ∧ id ∈ h.channelsOf p ∧ pushesFor pushes .request p ≠ [])
    (jobs : h'.jobs.Perm
      (jobsFor pushes path ids ++ jobsDue pushes (Dictionary.erase h.channels path)))
    (ready : h'.Ready) : Balanced pushes issued' h' := by
  have at_ := channelsOf_of_channels channels
  have sorted := sorted_of_channels channels hb.sorted
  refine ⟨fun event p => ?_, sorted, fun e he => ?_, fresh, single, fun p => ?_, fun id => ?_, ?_,
    ready⟩
  · rw [← hb.listed]
    unfold pushesOn pushesOf
    rw [listed]
  · rcases mem_of_channels channels he with ⟨rfl, some⟩ | he
    · exact ⟨some, nodup, own⟩
    · obtain ⟨some, nodup, own⟩ := hb.sets e he
      exact ⟨some, nodup, fun id hid => more (own id hid)⟩
  · rw [pushing, at_]
    split
    · rename_i hp
      rw [hp]
    · exact hb.pushing p
  · rw [served]
    constructor
    · rintro (⟨hid, hr⟩ | ⟨p, hp, hid, hr⟩)
      · exact ⟨path, by rwa [at_, if_pos rfl], hr⟩
      · exact ⟨p, by rwa [at_, if_neg hp], hr⟩
    · rintro ⟨p, hid, hr⟩
      rw [at_] at hid
      split at hid
      · rename_i hp
        exact Or.inl ⟨hid, hp ▸ hr⟩
      · rename_i hp
        exact Or.inr ⟨p, hp, hid, hr⟩
  · have due := jobsDue_perm pushes path sorted
    rw [erase_of_channels channels] at due
    have here : (Dictionary.get? h'.channels path).getD [] = ids := by
      have := at_ path
      rwa [if_pos rfl] at this
    rw [here] at due
    exact jobs.trans due.symm

end Balanced

/-! ## Bind -/

theorem startPeriodic_eq (h : Hub σ) (path : String) :
    h.startPeriodic path = { h with
      tasks := h.tasks ++ (if h.channelCount path = 1 then h.pushesOn .periodic path else []).map
        (PushTask.starting h.clock .path)
      pushing := h.pushing ++
        if h.channelCount path = 1 ∧ h.pushesOn .periodic path ≠ [] then [path] else [] } := by
  unfold startPeriodic start
  by_cases one : h.channelCount path = 1
  · by_cases none : h.pushesOn .periodic path = []
    · simp [one, none]
    · simp [one, none]
  · simp [one]

theorem startServing_eq (h : Hub σ) (path : String) (id : ChannelId) (handshake : Request) :
    h.startServing path id handshake = { h with
      tasks := h.tasks ++ (h.pushesOn .request path).map
        (PushTask.starting h.clock (.channel id handshake))
      served := h.served ++ if h.pushesOn .request path = [] then [] else [id] } := by
  unfold startServing start
  by_cases none : h.pushesOn .request path = []
  · simp [none]
  · simp [none]

/-- A channel is the first on its path just if there was none. -/
theorem channelCount_addChannel (h : Hub σ) (path : String) (id : ChannelId) :
    (h.addChannel path id).channelCount path = 1 ↔ h.channelsOf path = [] := by
  have all : (h.addChannel path id).channelsOf path = h.channelsOf path ++ [id] := by
    unfold addChannel channelsOf
    rw [Dictionary.get?_put_self]
    rfl
  unfold channelCount
  rw [all, List.length_append, List.length_singleton, Nat.add_eq_right, List.length_eq_zero_iff]

/-- All that a bind does. -/
theorem bind_eq (h : Hub σ) (path : String) (handshake : Request) :
    (h.bind path handshake).2 = { h with
      nextId := h.nextId + 1
      mailboxes := h.mailboxes ++ [(h.nextId, Mailbox.ofRoom h.capacity)]
      channels := Dictionary.put path (h.channelsOf path ++ [h.nextId]) h.channels
      tasks := h.tasks ++
        (if h.channelsOf path = [] then h.pushesOn .periodic path else []).map
          (PushTask.starting h.clock .path) ++
        (h.pushesOn .request path).map (PushTask.starting h.clock (.channel h.nextId handshake))
      pushing := h.pushing ++
        if h.channelsOf path = [] ∧ h.pushesOn .periodic path ≠ [] then [path] else []
      served := h.served ++ if h.pushesOn .request path = [] then [] else [h.nextId] } := by
  unfold bind
  dsimp only
  rw [startServing_eq, startPeriodic_eq]
  simp only [channelCount_addChannel]
  rfl

theorem bind_channels (h : Hub σ) (path : String) (handshake : Request) :
    (h.bind path handshake).2.channels =
      if h.channelsOf path ++ [h.nextId] = [] then Dictionary.erase h.channels path
      else Dictionary.put path (h.channelsOf path ++ [h.nextId]) h.channels := by
  rw [if_neg (List.append_ne_nil_of_right_ne_nil _ (List.cons_ne_nil _ _)), bind_eq]

namespace Balanced

variable {pushes : List (Push σ)} {issued : List (String × ChannelId)} {h : Hub σ}

/-- The channels of a path are distinct, and were bound to it. -/
theorem channelsOf (hb : Balanced pushes issued h) (path : String) :
    (h.channelsOf path).Nodup ∧ ∀ id ∈ h.channelsOf path, (path, id) ∈ issued := by
  unfold Hub.channelsOf
  cases hg : Dictionary.get? h.channels path with
  | none => exact ⟨List.nodup_nil, List.forall_mem_nil _⟩
  | some ids => exact (hb.sets _ (Dictionary.mem_of_get? hg)).2

theorem pushing_bind (hb : Balanced pushes issued h) (path : String) (handshake : Request)
    (p : String) : p ∈ (h.bind path handshake).2.pushing ↔
      if p = path then
        pushesFor pushes .periodic path ≠ [] ∧ h.channelsOf path ++ [h.nextId] ≠ []
      else p ∈ h.pushing := by
  rw [bind_eq, List.mem_append, hb.listed]
  by_cases hp : p = path
  · subst hp
    rw [hb.pushing]
    by_cases first : h.channelsOf p = []
    · by_cases none : pushesFor pushes .periodic p = []
      · simp [first, none]
      · simp [first, none]
    · simp [first]
  · rw [if_neg hp, or_iff_left]
    split
    · simpa using hp
    · simp

theorem served_bind (hb : Balanced pushes issued h) (path : String) (handshake : Request)
    (id : ChannelId) : id ∈ (h.bind path handshake).2.served ↔
      (id ∈ h.channelsOf path ++ [h.nextId] ∧ pushesFor pushes .request path ≠ []) ∨
        ∃ p, p ≠ path ∧ id ∈ h.channelsOf p ∧ pushesFor pushes .request p ≠ [] := by
  rw [bind_eq, List.mem_append, hb.served, hb.listed]
  constructor
  · rintro (⟨p, hid, hr⟩ | hid)
    · by_cases hp : p = path
      · subst hp
        exact Or.inl ⟨List.mem_append_left _ hid, hr⟩
      · exact Or.inr ⟨p, hp, hid, hr⟩
    · split at hid
      · cases hid
      · rename_i hr
        exact Or.inl ⟨List.mem_append_right _ hid, hr⟩
  · rintro (⟨hid, hr⟩ | ⟨p, -, hid, hr⟩)
    · rcases List.mem_append.1 hid with hid | hid
      · exact Or.inl ⟨path, hid, hr⟩
      · exact Or.inr (by rwa [if_neg hr])
    · exact Or.inl ⟨p, hid, hr⟩

/-- A new channel brings the jobs that are due for it. -/
theorem jobs_bind (hb : Balanced pushes issued h) (path : String) (handshake : Request) :
    (h.bind path handshake).2.jobs.Perm
      (jobsFor pushes path (h.channelsOf path ++ [h.nextId]) ++
        jobsDue pushes (Dictionary.erase h.channels path)) := by
  have added : ((if h.channelsOf path = [] then pushesFor pushes .periodic path else []).map
      fun p => (p, TaskScope.path.channel?)) =
      if h.channelsOf path = [] then (pushesFor pushes .periodic path).map (·, none) else [] := by
    split <;> rfl
  have before : h.jobs.Perm (jobsFor pushes path (h.channelsOf path) ++ _) :=
    hb.jobs.trans (jobsDue_perm pushes path hb.sorted)
  have after := jobsFor_append pushes path (h.channelsOf path) h.nextId
  rw [bind_eq]
  unfold Hub.jobs
  dsimp only
  rw [jobsOf_append, jobsOf_append, jobsOf_starting, jobsOf_starting, hb.listed, hb.listed, added,
    List.append_assoc]
  -- the new jobs stand behind those of the other paths, and belong in front of them
  refine ((before.append_right _).trans ?_).trans (after.symm.append_right _)
  rw [List.append_assoc, List.append_assoc, List.append_assoc]
  refine (List.perm_append_comm.trans ?_).append_left _
  rw [List.append_assoc]
  exact .refl _

theorem ready_bind (hb : Balanced pushes issued h) (path : String) (handshake : Request) :
    (h.bind path handshake).2.Ready := by
  rw [bind_eq]
  refine ⟨hb.ready.mailboxes.append _, fun t ht id hid => ?_⟩
  rcases List.mem_append.1 ht with ht | ht
  · rcases List.mem_append.1 ht with ht | ht
    · exact Nat.lt_succ_of_lt (hb.ready.bound t ht id hid)
    · obtain ⟨p, -, rfl⟩ := List.mem_map.1 ht
      cases hid
  · obtain ⟨p, -, rfl⟩ := List.mem_map.1 ht
    cases hid
    exact Nat.lt_succ_self _

/-- A new channel keeps jobs and channels in balance. -/
theorem bind (hb : Balanced pushes issued h) (path : String) (handshake : Request) :
    Balanced pushes (issued ++ [(path, h.nextId)]) (h.bind path handshake).2 := by
  obtain ⟨nodup, own⟩ := hb.channelsOf path
  have new {p : String} {id : ChannelId} (hm : (p, id) ∈ issued) : id ≠ h.nextId :=
    Nat.ne_of_lt (hb.fresh _ hm)
  refine hb.update path (h.channelsOf path ++ [h.nextId]) ?pushes (bind_channels h path handshake)
    ?nodup ?own (List.subset_append_left _ _) ?fresh ?single (hb.pushing_bind path handshake)
    (hb.served_bind path handshake) (hb.jobs_bind path handshake) (hb.ready_bind path handshake)
  case pushes => rw [bind_eq]
  case nodup =>
    refine List.nodup_append.2 ⟨nodup, List.nodup_singleton _, fun a ha b hb => ?_⟩
    rw [List.mem_singleton.1 hb]
    exact new (own a ha)
  case own =>
    intro id hid
    rcases List.mem_append.1 hid with hid | hid
    · exact List.mem_append_left _ (own id hid)
    · rw [List.mem_singleton.1 hid]
      exact List.mem_append_right _ (List.mem_singleton_self _)
  case fresh =>
    intro e he
    rw [bind_eq]
    rcases List.mem_append.1 he with he | he
    · exact Nat.lt_succ_of_lt (hb.fresh e he)
    · rw [List.mem_singleton.1 he]
      exact Nat.lt_succ_self _
  case single =>
    intro p other id hp ho
    rcases List.mem_append.1 hp with hp | hp
    · rcases List.mem_append.1 ho with ho | ho
      · exact hb.single p other id hp ho
      · exact absurd (Prod.mk.inj (List.mem_singleton.1 ho)).2 (new hp)
    · obtain ⟨rfl, rfl⟩ := Prod.mk.inj (List.mem_singleton.1 hp)
      rcases List.mem_append.1 ho with ho | ho
      · exact absurd rfl (new ho)
      · exact (Prod.mk.inj (List.mem_singleton.1 ho)).1

end Balanced

/-! ## Unbind -/

/-- What a removal does, by what is left of the path's channels. -/
theorem removeChannel_cases (h : Hub σ) (path : String) (id : ChannelId) :
    (h.channelsOf path = [] ∧ h.channels = Dictionary.erase h.channels path ∧
      h.removeChannel path id = h) ∨
    ((h.channelsOf path).filter (· ≠ id) = [] ∧
      h.removeChannel path id = { h.cancelWhere (·.isOfPath path) with
        channels := Dictionary.erase h.channels path
        pushing := h.pushing.filter (· ≠ path) }) ∨
    ((h.channelsOf path).filter (· ≠ id) ≠ [] ∧
      h.removeChannel path id = { h with
        channels := Dictionary.put path ((h.channelsOf path).filter (· ≠ id)) h.channels }) := by
  unfold removeChannel channelsOf
  cases hg : Dictionary.get? h.channels path with
  | none => exact Or.inl ⟨rfl, (Dictionary.erase_of_get?_eq_none hg).symm, rfl⟩
  | some ids =>
    rw [Option.getD_some]
    dsimp only
    by_cases last : ids.filter (· ≠ id) = []
    · exact Or.inr (Or.inl ⟨last, if_pos (List.isEmpty_iff.2 last)⟩)
    · exact Or.inr (Or.inr ⟨last, if_neg fun e => last (List.isEmpty_iff.1 e)⟩)

/-- A removal leaves the rest of the hub alone. -/
theorem removeChannel_frame (h : Hub σ) (path : String) (id : ChannelId) :
    (h.removeChannel path id).pushes = h.pushes ∧
      (h.removeChannel path id).nextId = h.nextId ∧
      (h.removeChannel path id).mailboxes = h.mailboxes ∧
      (h.removeChannel path id).served = h.served ∧
      ∀ t ∈ (h.removeChannel path id).tasks, ∃ t₀ ∈ h.tasks, t.scope = t₀.scope := by
  rcases removeChannel_cases h path id with ⟨-, -, he⟩ | ⟨-, he⟩ | ⟨-, he⟩
  · rw [he]
    exact ⟨rfl, rfl, rfl, rfl, fun t ht => ⟨t, ht, rfl⟩⟩
  · rw [he]
    exact ⟨rfl, rfl, rfl, rfl, fun t ht => mem_cancelWhere ht⟩
  · rw [he]
    exact ⟨rfl, rfl, rfl, rfl, fun t ht => ⟨t, ht, rfl⟩⟩

theorem removeChannel_channels (h : Hub σ) (path : String) (id : ChannelId) :
    (h.removeChannel path id).channels =
      if (h.channelsOf path).filter (· ≠ id) = [] then Dictionary.erase h.channels path
      else Dictionary.put path ((h.channelsOf path).filter (· ≠ id)) h.channels := by
  rcases removeChannel_cases h path id with ⟨none, same, he⟩ | ⟨last, he⟩ | ⟨rest, he⟩
  · rw [he, none, List.filter_nil, if_pos rfl]
    exact same
  · rw [he, if_pos last]
  · rw [he, if_neg rest]

namespace Balanced

variable {pushes : List (Push σ)} {issued : List (String × ChannelId)} {h : Hub σ}

/-- Other paths have no job of a channel of this path. -/
theorem filter_others (hb : Balanced pushes issued h) {path : String} {id : ChannelId}
    (own : (path, id) ∈ issued) :
    ((jobsDue pushes (Dictionary.erase h.channels path)).filter fun j => !j.isOfChannel id) =
        jobsDue pushes (Dictionary.erase h.channels path) ∧
      ((jobsDue pushes (Dictionary.erase h.channels path)).filter fun j => !j.isOfPath path) =
        jobsDue pushes (Dictionary.erase h.channels path) := by
  have other {e : String × List ChannelId} (he : e ∈ Dictionary.erase h.channels path) :
      e.1 ≠ path ∧ ∀ i ∈ e.2, i ≠ id := by
    obtain ⟨hm, hp⟩ := List.mem_filter.1 he
    have ne : e.1 ≠ path := by simpa using hp
    refine ⟨ne, fun i hi same => ne ?_⟩
    exact hb.single path e.1 id own (same ▸ (hb.sets e hm).2.2 i hi)
  refine ⟨filter_jobsDue pushes fun e he j hj => ?_, filter_jobsDue pushes fun e he j hj => ?_⟩
  · rcases (mem_jobsFor pushes e.1 e.2).1 hj with ⟨-, -, hn⟩ | ⟨i, hi, -, hc⟩
    · simp [Job.isOfChannel, hn]
    · simp [Job.isOfChannel, hc, (other he).2 i hi]
  · rcases (mem_jobsFor pushes e.1 e.2).1 hj with ⟨-, hp, hn⟩ | ⟨i, hi, -, hc⟩
    · have at_ : j.1.path = e.1 := (of_decide_eq_true (List.mem_filter.1 hp).2).1
      simp [Job.isOfPath, at_, (other he).1]
    · simp [Job.isOfPath, hc]

theorem pushing_removeChannel (hb : Balanced pushes issued h) (path : String) (id : ChannelId)
    (p : String) : p ∈ (h.removeChannel path id).pushing ↔
      if p = path then
        pushesFor pushes .periodic path ≠ [] ∧ (h.channelsOf path).filter (· ≠ id) ≠ []
      else p ∈ h.pushing := by
  rcases removeChannel_cases h path id with ⟨none, -, he⟩ | ⟨last, he⟩ | ⟨rest, he⟩
  · rw [he, none]
    split
    · rename_i hp
      rw [hb.pushing, hp, none]
      rfl
    · rfl
  · rw [he, last]
    split
    · rename_i hp
      simp [hp]
    · rename_i hp
      simp [hp]
  · rw [he]
    split
    · rename_i hp
      have some : h.channelsOf path ≠ [] := fun e => rest (by rw [e]; rfl)
      rw [hb.pushing, hp, and_iff_left some, and_iff_left rest]
    · rfl

/-- A channel that leaves takes its jobs with it. -/
theorem jobs_removeChannel (hb : Balanced pushes issued h) {path : String} {id : ChannelId}
    (own : (path, id) ∈ issued) :
    ((h.removeChannel path id).jobs.filter fun j => !j.isOfChannel id).Perm
      (jobsFor pushes path ((h.channelsOf path).filter (· ≠ id)) ++
        jobsDue pushes (Dictionary.erase h.channels path)) := by
  obtain ⟨notChannel, notPath⟩ := hb.filter_others own
  have before : h.jobs.Perm (jobsFor pushes path (h.channelsOf path) ++ _) :=
    hb.jobs.trans (jobsDue_perm pushes path hb.sorted)
  rcases removeChannel_cases h path id with ⟨none, -, he⟩ | ⟨last, he⟩ | ⟨rest, he⟩
  · rw [he, none]
    rw [none] at before
    have after := before.filter fun j => !j.isOfChannel id
    rwa [List.filter_append, notChannel] at after
  · have after := (before.filter fun j => !j.isOfPath path).filter fun j => !j.isOfChannel id
    rw [List.filter_append, List.filter_append, notPath, notChannel,
      filter_jobsFor_last pushes path _ id last, ← jobs_cancelWhere] at after
    rw [he, last]
    exact after
  · have after := before.filter fun j => !j.isOfChannel id
    rw [List.filter_append, notChannel, filter_jobsFor pushes path _ id rest] at after
    rw [he]
    exact after

theorem served_unbind (hb : Balanced pushes issued h) {path : String} {id : ChannelId}
    (own : (path, id) ∈ issued) (i : ChannelId) : i ∈ h.served.filter (· ≠ id) ↔
      (i ∈ (h.channelsOf path).filter (· ≠ id) ∧ pushesFor pushes .request path ≠ []) ∨
        ∃ p, p ≠ path ∧ i ∈ h.channelsOf p ∧ pushesFor pushes .request p ≠ [] := by
  rw [List.mem_filter, List.mem_filter, hb.served, decide_eq_true_iff]
  constructor
  · rintro ⟨⟨p, hi, hr⟩, ne⟩
    by_cases hp : p = path
    · subst hp
      exact Or.inl ⟨⟨hi, ne⟩, hr⟩
    · exact Or.inr ⟨p, hp, hi, hr⟩
  · rintro (⟨⟨hi, ne⟩, hr⟩ | ⟨p, hp, hi, hr⟩)
    · exact ⟨⟨path, hi, hr⟩, ne⟩
    · refine ⟨⟨p, hi, hr⟩, fun same => hp ?_⟩
      exact hb.single path p id own (same ▸ (hb.channelsOf p).2 i hi)

/-- A channel that leaves keeps jobs and channels in balance. -/
theorem unbind (hb : Balanced pushes issued h) {path : String} {id : ChannelId}
    (own : (path, id) ∈ issued) : Balanced pushes issued (h.unbind path id) := by
  obtain ⟨nodup, bound⟩ := hb.channelsOf path
  obtain ⟨listed, nextId, mailboxes, served, scopes⟩ := removeChannel_frame h path id
  refine hb.update path ((h.channelsOf path).filter (· ≠ id)) listed
    (removeChannel_channels h path id) (nodup.filter _)
    (fun i hi => bound i (List.mem_of_mem_filter hi)) (List.Subset.refl _) ?_ hb.single
    (hb.pushing_removeChannel path id) (fun i => ?_) ?_ ⟨?_, fun t ht i hi => ?_⟩
  · exact fun e he => nextId ▸ hb.fresh e he
  · rw [← hb.served_unbind own, ← served]
    rfl
  · have stopped := jobs_cancelWhere (h.removeChannel path id) (Job.isOfChannel id)
    exact (List.Perm.of_eq stopped).trans (hb.jobs_removeChannel own)
  · exact nextId ▸ mailboxes ▸ hb.ready.mailboxes
  · obtain ⟨t₁, h₁, e₁⟩ := mem_cancelWhere ht
    obtain ⟨t₀, h₀, e₀⟩ := scopes t₁ h₁
    exact nextId ▸ hb.ready.bound t₀ h₀ i (e₀ ▸ e₁ ▸ hi)

/-! ## The other operations -/

theorem shutdown (hb : Balanced pushes issued h) : Balanced pushes issued h.shutdown where
  listed := hb.listed
  sorted := Dictionary.sorted_nil
  sets := List.forall_mem_nil _
  fresh := hb.fresh
  single := hb.single
  pushing path := by simp [Hub.shutdown, Hub.channelsOf]
  served id := by simp [Hub.shutdown, Hub.channelsOf]
  jobs := by
    have none := jobs_cancelWhere h fun _ => true
    rw [List.filter_eq_nil_iff.2 fun _ _ => by simp] at none
    exact List.Perm.of_eq none
  ready := by
    refine ⟨hb.ready.mailboxes, fun t ht id hid => ?_⟩
    obtain ⟨t₀, h₀, e₀⟩ := mem_cancelWhere ht
    exact hb.ready.bound t₀ h₀ id (e₀ ▸ hid)

theorem broadcast (hb : Balanced pushes issued h) (path message : String) :
    Balanced pushes issued (h.broadcast path message).2 :=
  hb.stirred ⟨rfl, .refl _, hb.ready.mailboxes.offerAll _ _⟩

end Balanced

section Histories

variable {pushes : List (Push σ)} {capacity : Nat} {issued bound : List (String × ChannelId)}
  {h : Hub σ}

/-- The run: every state of a history is balanced. -/
theorem Reached.balanced (reached : Reached pushes capacity issued bound h) :
    Balanced pushes issued h := by
  induction reached with
  | start => exact .start pushes capacity
  | bind _ path handshake ih => exact ih.bind path handshake
  | unbind _ own ih => exact ih.unbind own
  | broadcast _ path message ih => exact ih.broadcast path message
  | shutdown _ ih => exact ih.shutdown
  | advance _ say n world ih => exact ih.stirred (stirred_advance say n ih.ready world)
  | drain _ own ih => exact ih.stirred (stirred_drain ih.ready (ih.fresh _ own))
  | receive _ own taken ih => exact ih.stirred (stirred_receive? ih.ready (ih.fresh _ own) taken)

/-- The channels in the tables of a hub are those that were bound and not unbound since. -/
theorem Reached.mem_channelsOf (reached : Reached pushes capacity issued bound h) (path : String)
    (id : ChannelId) : id ∈ h.channelsOf path ↔ (path, id) ∈ bound := by
  induction reached with
  | start => simp [ofPushes, channelsOf]
  | @bind issued bound h before p handshake ih =>
    have new : (h.bind p handshake).1 = h.nextId := rfl
    rw [channelsOf_of_channels (bind_channels h p handshake), List.mem_append, ← ih, new]
    by_cases hp : path = p
    · simp [hp]
    · simp [hp]
  | @unbind issued bound h before p i own ih =>
    have at_ : (h.unbind p i).channelsOf path = _ :=
      channelsOf_of_channels (removeChannel_channels h p i) path
    rw [at_, List.mem_filter, ← ih]
    by_cases hp : path = p
    · simp [hp]
    · simp [hp]
  | broadcast _ p message ih => exact ih
  | shutdown _ ih => simp [Hub.shutdown, channelsOf]
  | advance before say n world ih =>
    rw [← ih, (stirred_advance say n before.balanced.ready world).frame]
    rfl
  | drain before own ih =>
    have hb := before.balanced
    rw [← ih, (stirred_drain hb.ready (hb.fresh _ own)).frame]
    rfl
  | receive before own taken ih =>
    have hb := before.balanced
    rw [← ih, (stirred_receive? hb.ready (hb.fresh _ own) taken).frame]
    rfl

/-- **The tasks match the channels** at every point of a history: no path is kept without a channel,
the tables of running pushes say for which paths and channels there are some, each job that a channel
calls for has one task that is not cancelled, and no other job has one. A shutdown leaves none. -/
theorem Reached.tasks_match_channels (reached : Reached pushes capacity issued bound h) :
    (Dictionary.keys h.channels).Nodup ∧ (∀ e ∈ h.channels, e.2 ≠ [] ∧ e.2.Nodup) ∧
    (∀ path id, id ∈ h.channelsOf path ↔ (path, id) ∈ bound) ∧
    (∀ path, h.isPushing path = true ↔
      (∃ p ∈ pushes, p.path = path ∧ p.event = .periodic) ∧ 0 < h.channelCount path) ∧
    (∀ id, id ∈ h.served ↔
      ∃ path, (path, id) ∈ bound ∧ ∃ p ∈ pushes, p.path = path ∧ p.event = .request) ∧
    h.jobs.Perm (jobsDue pushes h.channels) ∧
    h.shutdown.jobs = [] := by
  have hb := reached.balanced
  have some (event : PushEvent) (path : String) : pushesFor pushes event path ≠ [] ↔
      ∃ p ∈ pushes, p.path = path ∧ p.event = event := by
    simp [pushesFor, List.filter_eq_nil_iff]
  refine ⟨hb.sorted.nodup_keys, fun e he => ?_, reached.mem_channelsOf, fun path => ?_, fun id => ?_,
    hb.jobs, ?_⟩
  · exact ⟨(hb.sets e he).1, (hb.sets e he).2.1⟩
  · unfold isPushing channelCount
    rw [List.contains_iff_mem, hb.pushing, some, List.length_pos_iff]
  · rw [hb.served]
    simp only [some, reached.mem_channelsOf]
  · exact List.Perm.eq_nil hb.shutdown.jobs

/-- A push that goes to all channels of a path. -/
def ticker : Push Unit where
  path := "/news"
  delay := 1000
  event := .periodic
  handler := {
    type := "News", method := "tick", verb := .ws, pattern := "/news", body := fun _ _ => pure default }

/-- A channel that is unbound twice and followed by another leaves one task. -/
theorem Reached.tasks_match_channels_rebound :
    ∃ h : Hub Unit, Reached [ticker] 1 [("/news", 0), ("/news", 1)] [("/news", 1)] h ∧
      h.isPushing "/news" = true ∧ h.jobs.Perm [(ticker, none)] := by
  have first : Reached [ticker] 1 [("/news", 0)] [("/news", 0)] _ := Reached.start.bind "/news" default
  have again := (first.unbind (List.mem_singleton_self _)).unbind (List.mem_singleton_self _)
  have second := again.bind "/news" default
  obtain ⟨-, -, -, pushing, -, jobs, -⟩ := second.tasks_match_channels
  refine ⟨_, second, (pushing "/news").2 ⟨⟨ticker, ?_⟩, ?_⟩, jobs⟩
  · exact ⟨List.mem_singleton_self _, rfl, rfl⟩
  · decide

end Histories

end Hub

end Switchboard
