import Switchboard.Proofs.Rpc.Resolution
import Switchboard.Proofs.Socket.Groups
import Switchboard.Proofs.Socket.History
import Mathlib.Algebra.Order.Ring.Nat
import Mathlib.Data.Nat.ModEq

/-!
# When pushes are called

A push of a path is called as long as the path has a channel: the delay of the push after the path got
its first channel, then every such delay, however many channels come and go. A push by request is
called in the same way for each channel from its bind on. Nothing else is called
(`HubHistory.calls_on_time`).

All of this is said of any history of a hub, a list of steps of which some are milliseconds
(`HubHistory`). The invariant names the tasks: those of a path have all slept from beat to beat since
the path got its first channel (`HubHistory.filter_isOfPath_hub`), and those of a channel since it was
bound (`HubHistory.filter_isOfChannel_hub`).
-/

namespace Switchboard

variable {σ : Type}

/-! ## Beats -/

/-- Is a time later than another by one or more delays? -/
def IsBeat (start delay time : Nat) : Prop := ∃ k, 0 < k ∧ time = start + k * delay

instance (start delay time : Nat) : Decidable (IsBeat start delay time) :=
  decidable_of_iff (∃ k < time + 2, 0 < k ∧ time = start + k * delay) <| by
    constructor
    · rintro ⟨k, -, beat⟩
      exact ⟨k, beat⟩
    · rintro ⟨k, hk, beat⟩
      rcases Nat.eq_zero_or_pos delay with rfl | positive
      · exact ⟨1, by omega, Nat.one_pos, beat⟩
      · have far := Nat.le_mul_of_pos_right k positive
        exact ⟨k, by omega, hk, beat⟩

/-- The first beat after a time. -/
def nextBeat (start delay now : Nat) : Nat := start + ((now - start) / delay + 1) * delay

theorem nextBeat_self (start delay : Nat) : nextBeat start delay start = start + delay := by
  simp [nextBeat]

section Beats

variable {start delay now : Nat} (started : start ≤ now)

include started

/-- The next instant is a beat if the delay divides the time since the start. -/
theorem isBeat_succ_iff : IsBeat start delay (now + 1) ↔ delay ∣ now - start + 1 := by
  constructor
  · rintro ⟨k, -, beat⟩
    exact Dvd.intro_left k (by omega)
  · rintro ⟨k, beat⟩
    rw [Nat.mul_comm] at beat
    refine ⟨k, Nat.pos_of_ne_zero ?_, by omega⟩
    rintro rfl
    omega

/-- The next beat moves on when it comes. -/
theorem nextBeat_succ : nextBeat start delay (now + 1) =
    if IsBeat start delay (now + 1) then nextBeat start delay now + delay
    else nextBeat start delay now := by
  rw [nextBeat, nextBeat, Nat.sub_add_comm started, Nat.succ_div]
  simp only [isBeat_succ_iff started]
  split
  · rw [Nat.succ_mul, Nat.add_assoc]
  · rfl

/-- The first beat comes with the next millisecond, or later. -/
theorem nextBeat_cases (positive : 0 < delay) :
    if IsBeat start delay (now + 1) then nextBeat start delay now = now + 1
    else now + 1 < nextBeat start delay now := by
  have parts := Nat.div_add_mod (now - start) delay
  have below := Nat.mod_lt (now - start) positive
  have next : nextBeat start delay now = start + delay * ((now - start) / delay) + delay := by
    rw [nextBeat, Nat.succ_mul, Nat.mul_comm, Nat.add_assoc]
  have last : IsBeat start delay (now + 1) ↔ (now - start) % delay + 1 = delay := by
    rw [isBeat_succ_iff started]
    nth_rewrite 1 [← parts]
    rw [Nat.add_assoc, Nat.dvd_add_right (Nat.dvd_mul_right _ _)]
    constructor
    · intro divides
      exact Nat.le_antisymm below (Nat.le_of_dvd (Nat.succ_pos _) divides)
    · intro same
      rw [same]
  split
  · next beat =>
    have same := last.1 beat
    omega
  · next silent =>
    have other := mt last.2 silent
    omega

end Beats

/-! ## Histories in time -/

/-- Something done to a hub. Between two of these no time goes by, but for a millisecond. -/
inductive HubStep (σ : Type) where
  | bind (path : String) (handshake : Request)
  | unbind (path : String) (id : ChannelId)
  | shutdown
  | broadcast (path message : String)
  /-- A millisecond goes by. The tasks that are due call their pushes through a speaker. -/
  | tick (say : Speaker σ) (world : σ)
  /-- Somebody else changes a mailbox: a receiver that takes messages or is given up, or a sender. -/
  | settle (id : ChannelId) (change : Mailbox → Mailbox)

/-- The hub after a step. -/
def HubStep.apply (h : Hub σ) : HubStep σ → Hub σ
  | bind path handshake => (h.bind path handshake).2
  | unbind path id => h.unbind path id
  | shutdown => h.shutdown
  | broadcast path message => (h.broadcast path message).2
  | tick say world => ((h.tick say).run world).1
  | settle id change => h.settle id change

/-- What was done to a hub, the last first. -/
abbrev HubHistory (σ : Type) := List (HubStep σ)

namespace HubHistory

/-- The hub that some pushes get into. -/
def hub (pushes : List (Push σ)) (capacity : Nat) : HubHistory σ → Hub σ
  | [] => .ofPushes pushes capacity
  | step :: past => step.apply (hub pushes capacity past)

/-- The milliseconds that have gone by. -/
def time : HubHistory σ → Nat
  | [] => 0
  | .tick .. :: past => time past + 1
  | .bind .. :: past | .unbind .. :: past | .shutdown :: past | .broadcast .. :: past
  | .settle .. :: past => time past

/-- The channels bound so far, which is the number of the next one. -/
def issued : HubHistory σ → ChannelId
  | [] => 0
  | .bind .. :: past => issued past + 1
  | .unbind .. :: past | .shutdown :: past | .broadcast .. :: past | .tick .. :: past
  | .settle .. :: past => issued past

/-- The channels that are bound to a path. -/
def channels (path : String) : HubHistory σ → List ChannelId
  | [] => []
  | .bind p _ :: past =>
    if path = p then channels path past ++ [issued past] else channels path past
  | .unbind p id :: past =>
    if path = p then (channels path past).filter (· ≠ id) else channels path past
  | .shutdown :: _ => []
  | .broadcast .. :: past | .tick .. :: past | .settle .. :: past => channels path past

/-- The time since when a path has had a channel without interruption. -/
def occupiedSince? (path : String) : HubHistory σ → Option Nat
  | [] => none
  | step :: past =>
    if channels path (step :: past) = [] then none
    else some ((occupiedSince? path past).getD (time past))

/-- The path and the request with which a channel was bound, and when, unless a later step has named
the channel to be unbound, or has shut down all. -/
def boundSince? (id : ChannelId) : HubHistory σ → Option (String × Request × Nat)
  | [] => none
  | .bind path handshake :: past =>
    if id = issued past then some (path, handshake, time past) else boundSince? id past
  | .unbind _ i :: past => if id = i then none else boundSince? id past
  | .shutdown :: _ => none
  | .broadcast .. :: past | .tick .. :: past | .settle .. :: past => boundSince? id past

/-- Has the mailbox of a channel had room for one more message at any time, and a receiver? -/
def HasRoom (pushes : List (Push σ)) (capacity : Nat) (id : ChannelId) : HubHistory σ → Prop
  | [] => True
  | step :: past => HasRoom pushes capacity id past ∧ (id < issued (step :: past) →
      ((hub pushes capacity (step :: past)).mailbox? id).any Mailbox.takes = true)

instance decidableHasRoom (pushes : List (Push σ)) (capacity : Nat) (id : ChannelId) :
    (past : HubHistory σ) → Decidable (HasRoom pushes capacity id past)
  | [] => .isTrue trivial
  | _ :: past =>
    have := decidableHasRoom pushes capacity id past
    inferInstanceAs (Decidable (_ ∧ (_ → _)))

/-- A path is vacant just if no channel is bound to it. -/
theorem occupiedSince?_eq_none_iff {path : String} {past : HubHistory σ} :
    past.occupiedSince? path = none ↔ past.channels path = [] := by
  cases past with
  | nil => exact ⟨fun _ => rfl, fun _ => rfl⟩
  | cons step past =>
    rw [occupiedSince?]
    split
    · next vacant => exact ⟨fun _ => vacant, fun _ => rfl⟩
    · next occupied => exact ⟨fun h => (Option.some_ne_none _ h).elim, fun h => absurd h occupied⟩

theorem time_le_cons (step : HubStep σ) (past : HubHistory σ) :
    past.time ≤ HubHistory.time (step :: past) := by
  cases step with
  | tick => exact Nat.le_succ _
  | bind | unbind | shutdown | broadcast | settle => exact Nat.le_refl _

theorem le_time_of_occupiedSince? {path : String} {past : HubHistory σ} {start : Nat}
    (since : past.occupiedSince? path = some start) : start ≤ past.time := by
  induction past generalizing start with
  | nil => cases since
  | cons step past ih =>
    rw [occupiedSince?] at since
    split at since
    · cases since
    · refine Nat.le_trans ?_ (time_le_cons step past)
      cases before : occupiedSince? path past with
      | none =>
        rw [before] at since
        exact Nat.le_of_eq (Option.some.inj since).symm
      | some first =>
        rw [before] at since
        exact (Option.some.inj since) ▸ ih before

theorem of_boundSince? {id : ChannelId} {past : HubHistory σ} {path : String} {handshake : Request}
    {start : Nat} (since : past.boundSince? id = some (path, handshake, start)) :
    id < past.issued ∧ start ≤ past.time := by
  induction past with
  | nil => cases since
  | cons step past ih =>
    cases step with
    | bind p r =>
      rw [boundSince?] at since
      split at since
      · next same =>
        cases since
        exact ⟨same ▸ Nat.lt_succ_self _, Nat.le_refl _⟩
      · exact ⟨Nat.lt_succ_of_lt (ih since).1, (ih since).2⟩
    | unbind p i =>
      rw [boundSince?] at since
      split at since
      · cases since
      · exact ih since
    | shutdown => cases since
    | broadcast | settle => exact ih since
    | tick say world => exact ⟨(ih since).1, Nat.le_succ_of_le (ih since).2⟩

end HubHistory

/-! ## Steady tasks -/

namespace PushTask

/-- The task that has called a push since some time, asleep until its next beat. -/
def steady (start now : Nat) (scope : TaskScope) (push : Push σ) : PushTask σ where
  push := push
  scope := scope
  stage := .asleep (nextBeat start push.delay now)

theorem steady_self (now : Nat) (scope : TaskScope) (push : Push σ) :
    steady now now scope push = starting now scope push := by
  unfold steady starting
  rw [nextBeat_self]

section Steady

variable {start now : Nat} (started : start ≤ now) {push : Push σ} (positive : 0 < push.delay)
  (scope : TaskScope)

include started positive

/-- A steady task is due at its beats. -/
theorem isDue_steady :
    (steady start now scope push).isDue (now + 1) = decide (IsBeat start push.delay (now + 1)) := by
  have first := nextBeat_cases started positive
  change decide (nextBeat start push.delay now ≤ now + 1) = _
  split at first
  · next beat => simp [beat, first]
  · next silent => simp [silent, first]

/-- A steady task goes on being steady. -/
theorem woken_steady :
    (steady start now scope push).woken (now + 1) = steady start (now + 1) scope push := by
  have first := nextBeat_cases started positive
  unfold woken
  rw [isDue_steady started positive]
  unfold steady
  rw [nextBeat_succ started]
  split at first
  · next beat => simp [beat, first]
  · next silent => simp [silent]

end Steady

end PushTask

namespace HubHistory

/-- The tasks that a path calls for. -/
def pathTasks (pushes : List (Push σ)) (path : String) (past : HubHistory σ) : List (PushTask σ) :=
  match past.occupiedSince? path with
  | none => []
  | some start => (pushesFor pushes .periodic path).map (.steady start past.time .path)

/-- The tasks that a channel calls for. -/
def channelTasks (pushes : List (Push σ)) (id : ChannelId) (past : HubHistory σ) :
    List (PushTask σ) :=
  match past.boundSince? id with
  | none => []
  | some (path, handshake, start) =>
    (pushesFor pushes .request path).map (.steady start past.time (.channel id handshake))

/-! ## What a hub keeps of its history -/

/-- The clock and the tables of a hub say what its history does. -/
structure Kept (pushes : List (Push σ)) (capacity : Nat) (past : HubHistory σ) (h : Hub σ) :
    Prop where
  listed : h.pushes = (Hub.ofPushes pushes capacity).pushes
  clock : h.clock = past.time
  nextId : h.nextId = past.issued
  channels : ∀ path, h.channelsOf path = past.channels path

variable {pushes : List (Push σ)} {capacity : Nat}

/-- The hub keeps what its history says. -/
theorem kept_hub (past : HubHistory σ) : Kept pushes capacity past (past.hub pushes capacity) := by
  induction past with
  | nil => exact ⟨rfl, rfl, rfl, fun _ => rfl⟩
  | cons step past ih =>
    generalize hg : hub pushes capacity past = g at ih
    rw [hub, hg]
    cases step with
    | bind p handshake =>
      refine ⟨?_, ?_, ?_, fun path => ?_⟩
      · rw [HubStep.apply, Hub.bind_eq]
        exact ih.listed
      · rw [HubStep.apply, Hub.bind_eq]
        exact ih.clock
      · rw [HubStep.apply, Hub.bind_eq]
        exact congrArg (· + 1) ih.nextId
      · refine (Hub.channelsOf_of_channels (Hub.bind_channels g p handshake) path).trans ?_
        rw [HubHistory.channels, ih.channels, ih.channels, ih.nextId]
        split
        · next same => rw [same]
        · rfl
    | unbind p id =>
      obtain ⟨listed, nextId, -⟩ := Hub.removeChannel_frame g p id
      refine ⟨listed.trans ih.listed, (Hub.unbind_clock g p id).trans ih.clock,
        nextId.trans ih.nextId, fun path => ?_⟩
      have changed : (g.unbind p id).channelsOf path = _ :=
        Hub.channelsOf_of_channels (Hub.removeChannel_channels g p id) path
      refine changed.trans ?_
      rw [HubHistory.channels, ih.channels, ih.channels]
      split
      · next same => rw [same]
      · rfl
    | shutdown => exact ⟨ih.listed, ih.clock, ih.nextId, fun _ => rfl⟩
    | broadcast => exact ⟨ih.listed, ih.clock, ih.nextId, ih.channels⟩
    | tick say world =>
      rw [HubStep.apply, Hub.tick_frame]
      exact ⟨ih.listed, congrArg (· + 1) ih.clock, ih.nextId, ih.channels⟩
    | settle id change =>
      rw [HubStep.apply, Hub.settle_frame]
      exact ⟨ih.listed, ih.clock, ih.nextId, ih.channels⟩

theorem pushesOn_hub (past : HubHistory σ) (event : PushEvent) (path : String) :
    (past.hub pushes capacity).pushesOn event path = pushesFor pushes event path := by
  rw [← Hub.pushesOn_ofPushes pushes capacity]
  unfold Hub.pushesOn Hub.pushesOf
  rw [(kept_hub past).listed]

/-- No task is there for a channel that has not been bound yet. -/
theorem lt_issued_of_mem_tasks {past : HubHistory σ} {t : PushTask σ}
    (ht : t ∈ (past.hub pushes capacity).tasks) {id : ChannelId}
    (own : t.scope.channel? = some id) : id < past.issued := by
  induction past generalizing t with
  | nil => cases ht
  | cons step past ih =>
    have old {t₀ : PushTask σ} (h₀ : t₀ ∈ (hub pushes capacity past).tasks)
        (same : t.scope = t₀.scope) : id < issued past := ih h₀ (same ▸ own)
    cases step with
    | bind p handshake =>
      rw [hub, HubStep.apply, Hub.bind_eq] at ht
      rcases List.mem_append.1 ht with ht | ht
      · rcases List.mem_append.1 ht with ht | ht
        · exact Nat.lt_succ_of_lt (old ht rfl)
        · obtain ⟨q, -, rfl⟩ := List.mem_map.1 ht
          cases own
      · obtain ⟨q, -, rfl⟩ := List.mem_map.1 ht
        cases own
        rw [(kept_hub past).nextId]
        exact Nat.lt_succ_self _
    | unbind p i =>
      obtain ⟨t₀, h₀, same⟩ := Hub.scope_unbind ht
      exact old h₀ same
    | shutdown =>
      obtain ⟨t₀, h₀, same⟩ := Hub.mem_cancelWhere ht
      exact old h₀ same
    | broadcast => exact old ht rfl
    | tick say world =>
      obtain ⟨t₀, h₀, same⟩ := Hub.scope_tick say _ world ht
      exact old h₀ same
    | settle i change =>
      obtain ⟨t₀, h₀, same⟩ := Hub.scope_settle i _ change ht
      exact old h₀ same

/-! ## The tasks of a path -/

section Occupied

variable {path : String} {step : HubStep σ} {past : HubHistory σ}

/-- The first channel on a path starts its time. -/
theorem occupiedSince?_of_first (vacant : past.channels path = [])
    (occupied : channels path (step :: past) ≠ []) :
    occupiedSince? path (step :: past) = some past.time := by
  rw [occupiedSince?, if_neg occupied, occupiedSince?_eq_none_iff.2 vacant]
  rfl

theorem occupiedSince?_of_still (before : past.channels path ≠ [])
    (occupied : channels path (step :: past) ≠ []) :
    occupiedSince? path (step :: past) = past.occupiedSince? path := by
  rw [occupiedSince?, if_neg occupied]
  cases since : past.occupiedSince? path with
  | none => exact absurd (occupiedSince?_eq_none_iff.1 since) before
  | some start => rfl

theorem occupiedSince?_of_same (same : channels path (step :: past) = past.channels path) :
    occupiedSince? path (step :: past) = past.occupiedSince? path := by
  by_cases vacant : past.channels path = []
  · rw [occupiedSince?_eq_none_iff.2 vacant, occupiedSince?_eq_none_iff, same, vacant]
  · exact occupiedSince?_of_still vacant (same ▸ vacant)

end Occupied

theorem asleep_of_mem_pathTasks {path : String} {past : HubHistory σ} {t : PushTask σ}
    (ht : t ∈ past.pathTasks pushes path) : ∃ due, t.stage = .asleep due := by
  unfold pathTasks at ht
  cases since : past.occupiedSince? path with
  | none =>
    rw [since] at ht
    cases ht
  | some start =>
    rw [since] at ht
    obtain ⟨q, -, rfl⟩ := List.mem_map.1 ht
    exact ⟨_, rfl⟩

theorem pathTasks_of_vacant {path : String} {past : HubHistory σ}
    (vacant : past.channels path = []) : past.pathTasks pushes path = [] := by
  rw [pathTasks, occupiedSince?_eq_none_iff.2 vacant]

/-- A step that takes no time and leaves a path what it has changes nothing it calls for. -/
theorem pathTasks_of_same {path : String} {step : HubStep σ} {past : HubHistory σ}
    (time : HubHistory.time (step :: past) = past.time)
    (same : occupiedSince? path (step :: past) = past.occupiedSince? path) :
    pathTasks pushes path (step :: past) = past.pathTasks pushes path := by
  rw [pathTasks, pathTasks, time, same]

theorem delay_pos_of_mem_pushesFor (positive : ∀ p ∈ pushes, 0 < p.delay) {event : PushEvent}
    {path : String} {q : Push σ} (hq : q ∈ pushesFor pushes event path) : 0 < q.delay :=
  positive q (List.mem_filter.1 hq).1

theorem map_woken_steady (positive : ∀ p ∈ pushes, 0 < p.delay) {start now : Nat}
    (started : start ≤ now) (scope : TaskScope) (event : PushEvent) (path : String) :
    ((pushesFor pushes event path).map (PushTask.steady start now scope)).map
      (PushTask.woken (now + 1)) =
        (pushesFor pushes event path).map (.steady start (now + 1) scope) := by
  rw [List.map_map]
  exact List.map_congr_left fun q hq =>
    PushTask.woken_steady started (delay_pos_of_mem_pushesFor positive hq) scope

/-- A bind adds to the tasks of a path what its first channel calls for. -/
theorem filter_isOfPath_bind (path : String) (past : HubHistory σ) (p : String)
    (handshake : Request)
    (before : (past.hub pushes capacity).tasks.filter (·.isOfPath path) =
      past.pathTasks pushes path) :
    (hub pushes capacity (.bind p handshake :: past)).tasks.filter (·.isOfPath path) =
      pathTasks pushes path (.bind p handshake :: past) := by
  have kept : Kept pushes capacity past _ := kept_hub past
  rw [hub, HubStep.apply, Hub.bind_eq]
  dsimp only
  have apart : ((pushesFor pushes .request p).map (PushTask.starting past.time
      (.channel past.issued handshake))).filter (·.isOfPath path) = [] :=
    Hub.filter_starting_of_others fun _ _ => Bool.and_false _
  rw [List.filter_append, List.filter_append, before, kept.channels, kept.clock, kept.nextId,
    pushesOn_hub, pushesOn_hub, apart, List.append_nil]
  by_cases own : path = p
  · subst own
    have occupied : channels path (.bind path handshake :: past) ≠ [] := by
      rw [channels, if_pos rfl]
      exact List.append_ne_nil_of_right_ne_nil _ (List.cons_ne_nil _ _)
    by_cases vacant : past.channels path = []
    · rw [if_pos vacant, pathTasks_of_vacant vacant, List.nil_append, Hub.filter_starting, pathTasks,
        occupiedSince?_of_first vacant occupied]
      · exact List.map_congr_left fun q _ => (PushTask.steady_self _ _ q).symm
      · intro q hq
        have at_ := (of_decide_eq_true (List.mem_filter.1 hq).2).1
        simp [PushTask.isOfPath, PushTask.starting, TaskScope.channel?, at_]
    · rw [if_neg vacant]
      refine (List.append_nil _).trans (pathTasks_of_same rfl ?_).symm
      exact occupiedSince?_of_still vacant occupied
  · rw [Hub.filter_starting_of_others, List.append_nil, pathTasks_of_same rfl]
    · exact occupiedSince?_of_same (by rw [channels, if_neg own])
    · intro q hq
      have at_ : q.path = p := by
        split at hq
        · exact (of_decide_eq_true (List.mem_filter.1 hq).2).1
        · cases hq
      simp [PushTask.isOfPath, PushTask.starting, at_, Ne.symm own]

/-- An unbind takes away the tasks of a path with its last channel. -/
theorem filter_isOfPath_unbind (path : String) (past : HubHistory σ) (p : String) (id : ChannelId)
    (before : (past.hub pushes capacity).tasks.filter (·.isOfPath path) =
      past.pathTasks pushes path) :
    (hub pushes capacity (.unbind p id :: past)).tasks.filter (·.isOfPath path) =
      pathTasks pushes path (.unbind p id :: past) := by
  have kept : Kept pushes capacity past _ := kept_hub past
  have grouping := PushTask.grouping_isOfPath (σ := σ) path
  rw [hub]
  refine (Hub.filter_cancelWhere_others grouping fun t own => ?_).trans ?_
  · unfold PushTask.isOfPath at own
    rw [Bool.and_eq_true, Option.isNone_iff_eq_none] at own
    rw [PushTask.isOfChannel, own.2]
    rfl
  by_cases own : path = p
  · subst own
    have after : channels path (.unbind path id :: past) =
        (past.channels path).filter (· ≠ id) := by rw [channels, if_pos rfl]
    rcases Hub.removeChannel_cases (past.hub pushes capacity) path id with
      ⟨vacant, -, he⟩ | ⟨last, he⟩ | ⟨rest, he⟩
    · rw [kept.channels] at vacant
      rw [he, before, pathTasks_of_same rfl]
      exact occupiedSince?_of_same (by rw [after, vacant, List.filter_nil])
    · rw [kept.channels] at last
      rw [he, pathTasks_of_vacant (after.trans last)]
      refine Hub.filter_cancelWhere_asleep grouping (fun _ own => own) fun t ht => ?_
      exact asleep_of_mem_pathTasks (before ▸ ht)
    · rw [kept.channels] at rest
      rw [he]
      refine before.trans (pathTasks_of_same rfl (occupiedSince?_of_still ?_ ?_)).symm
      · intro vacant
        rw [vacant] at rest
        exact rest rfl
      · rwa [after]
  · rw [Hub.filter_removeChannel_others grouping p id, before, pathTasks_of_same rfl]
    · exact occupiedSince?_of_same (by rw [channels, if_neg own])
    · intro t ofPath
      unfold PushTask.isOfPath at ofPath ⊢
      rw [Bool.and_eq_true, beq_iff_eq] at ofPath
      simp [ofPath.1, own]

/-- The tasks of a path are those that it calls for. -/
theorem filter_isOfPath_hub (positive : ∀ p ∈ pushes, 0 < p.delay) (path : String)
    (past : HubHistory σ) :
    (past.hub pushes capacity).tasks.filter (·.isOfPath path) = past.pathTasks pushes path := by
  have grouping := PushTask.grouping_isOfPath (σ := σ) path
  induction past with
  | nil => rfl
  | cons step past ih =>
    have asleep {t : PushTask σ}
        (ht : t ∈ (hub pushes capacity past).tasks.filter (·.isOfPath path)) :
        ∃ due, t.stage = .asleep due := asleep_of_mem_pathTasks (ih ▸ ht)
    cases step with
    | bind p handshake => exact filter_isOfPath_bind path past p handshake ih
    | unbind p id => exact filter_isOfPath_unbind path past p id ih
    | shutdown =>
      rw [pathTasks_of_vacant rfl]
      exact Hub.filter_cancelWhere_asleep grouping (fun _ _ => rfl) fun _ => asleep
    | broadcast => exact ih.trans (pathTasks_of_same rfl (occupiedSince?_of_same rfl)).symm
    | tick say world =>
      rw [hub, HubStep.apply, Hub.filter_tick_isOfPath, ih, (kept_hub past).clock, pathTasks,
        pathTasks, occupiedSince?_of_same rfl]
      cases since : occupiedSince? path past with
      | none => rfl
      | some start =>
        exact map_woken_steady positive (le_time_of_occupiedSince? since) _ _ _
    | settle i change =>
      exact (Hub.filter_settle grouping i change fun _ => asleep).trans
        (ih.trans (pathTasks_of_same rfl (occupiedSince?_of_same rfl)).symm)

/-! ## The tasks of a channel -/

theorem asleep_of_mem_channelTasks {id : ChannelId} {past : HubHistory σ} {t : PushTask σ}
    (ht : t ∈ past.channelTasks pushes id) : ∃ due, t.stage = .asleep due := by
  unfold channelTasks at ht
  cases since : past.boundSince? id with
  | none =>
    rw [since] at ht
    cases ht
  | some bound =>
    rw [since] at ht
    obtain ⟨q, -, rfl⟩ := List.mem_map.1 ht
    exact ⟨_, rfl⟩

theorem channelTasks_of_left {id : ChannelId} {past : HubHistory σ}
    (left : past.boundSince? id = none) : past.channelTasks pushes id = [] := by
  rw [channelTasks, left]

theorem channelTasks_of_same {id : ChannelId} {step : HubStep σ} {past : HubHistory σ}
    (time : HubHistory.time (step :: past) = past.time)
    (same : boundSince? id (step :: past) = past.boundSince? id) :
    channelTasks pushes id (step :: past) = past.channelTasks pushes id := by
  rw [channelTasks, channelTasks, time, same]

theorem boundSince?_of_not_issued {id : ChannelId} {past : HubHistory σ}
    (new : ¬ id < past.issued) : past.boundSince? id = none := by
  cases since : past.boundSince? id with
  | none => rfl
  | some bound => exact absurd (of_boundSince? since).1 new

theorem isOfPath_of_isOfChannel {id : ChannelId} {t : PushTask σ} (own : t.isOfChannel id = true)
    (path : String) : t.isOfPath path = false := by
  rw [PushTask.isOfPath, eq_of_beq own]
  exact Bool.and_false _

/-- A bind adds what the channel that is bound calls for. -/
theorem filter_isOfChannel_bind (id : ChannelId) (past : HubHistory σ) (p : String)
    (handshake : Request)
    (before : (past.hub pushes capacity).tasks.filter (·.isOfChannel id) =
      past.channelTasks pushes id) :
    (hub pushes capacity (.bind p handshake :: past)).tasks.filter (·.isOfChannel id) =
      channelTasks pushes id (.bind p handshake :: past) := by
  have kept : Kept pushes capacity past _ := kept_hub past
  rw [hub, HubStep.apply, Hub.bind_eq]
  dsimp only
  have apart (own : List (Push σ)) :
      (own.map (PushTask.starting past.time .path)).filter (·.isOfChannel id) = [] :=
    Hub.filter_starting_of_others fun _ _ => rfl
  rw [List.filter_append, List.filter_append, before, kept.nextId, kept.clock, pushesOn_hub,
    pushesOn_hub, apart, List.append_nil]
  by_cases own : id = past.issued
  · rw [channelTasks_of_left (boundSince?_of_not_issued fun lt => Nat.ne_of_lt lt own),
      List.nil_append,
      Hub.filter_starting fun _ _ => by
        simp [PushTask.isOfChannel, PushTask.starting, TaskScope.channel?, own],
      channelTasks, boundSince?, if_pos own, own]
    exact List.map_congr_left fun q _ => (PushTask.steady_self _ _ q).symm
  · rw [Hub.filter_starting_of_others fun _ _ => by
        simp [PushTask.isOfChannel, PushTask.starting, TaskScope.channel?, Ne.symm own],
      List.append_nil]
    exact (channelTasks_of_same rfl (by rw [boundSince?, if_neg own])).symm

/-- The tasks of a channel that has room are those that it calls for. -/
theorem filter_isOfChannel_hub (positive : ∀ p ∈ pushes, 0 < p.delay) {id : ChannelId}
    {past : HubHistory σ} (room : past.HasRoom pushes capacity id) :
    (past.hub pushes capacity).tasks.filter (·.isOfChannel id) =
      past.channelTasks pushes id := by
  have grouping := PushTask.grouping_isOfChannel (σ := σ) id
  induction past with
  | nil => rfl
  | cons step past ih =>
    have ih := ih room.1
    have asleep {t : PushTask σ}
        (ht : t ∈ (hub pushes capacity past).tasks.filter (·.isOfChannel id)) :
        ∃ due, t.stage = .asleep due := asleep_of_mem_channelTasks (ih ▸ ht)
    cases step with
    | bind p handshake => exact filter_isOfChannel_bind id past p handshake ih
    | unbind p i =>
      have removed : ((hub pushes capacity past).removeChannel p i).tasks.filter (·.isOfChannel id) =
          channelTasks pushes id past :=
        (Hub.filter_removeChannel_others grouping p i fun _ own =>
          isOfPath_of_isOfChannel own p).trans ih
      by_cases same : id = i
      · subst same
        rw [channelTasks_of_left (by rw [boundSince?, if_pos rfl])]
        exact Hub.filter_cancelWhere_asleep grouping (fun _ own => own) fun t ht =>
          asleep_of_mem_channelTasks (removed ▸ ht)
      · rw [channelTasks_of_same rfl (by rw [boundSince?, if_neg same]), ← removed]
        exact Hub.filter_cancelWhere_others grouping fun t own =>
          PushTask.not_isOfChannel (Ne.symm same) own
    | shutdown =>
      rw [channelTasks_of_left rfl]
      exact Hub.filter_cancelWhere_asleep grouping (fun _ _ => rfl) fun _ => asleep
    | broadcast => exact ih.trans (channelTasks_of_same rfl rfl).symm
    | tick say world =>
      by_cases known : id < issued past
      · rw [hub, HubStep.apply, Hub.filter_tick_isOfChannel id say _ world (room.2 known), ih,
          (kept_hub past).clock, channelTasks, channelTasks, boundSince?]
        cases since : boundSince? id past with
        | none => rfl
        | some bound => exact map_woken_steady positive (of_boundSince? since).2 _ _ _
      · have left : boundSince? id (.tick say world :: past) = none := boundSince?_of_not_issued known
        rw [channelTasks_of_left left, List.filter_eq_nil_iff]
        exact fun t ht own => known (lt_issued_of_mem_tasks ht (eq_of_beq own))
    | settle i change =>
      exact (Hub.filter_settle grouping i change fun _ => asleep).trans
        (ih.trans (channelTasks_of_same rfl rfl).symm)

/-- Of a channel that is not bound any more there are at most tasks that wait for room to leave a
message, and end then. -/
theorem cancelled_of_left {id : ChannelId} {past : HubHistory σ}
    (left : past.boundSince? id = none) {t : PushTask σ}
    (ht : t ∈ (past.hub pushes capacity).tasks) (own : t.isOfChannel id = true) :
    t.cancelled = true ∧ ∃ message since, t.stage = .blocked message since := by
  have grouping := PushTask.grouping_isOfChannel (σ := σ) id
  induction past generalizing t with
  | nil => cases ht
  | cons step past ih =>
    cases step with
    | bind p handshake =>
      rw [boundSince?] at left
      split at left
      · cases left
      · next other =>
        rw [hub, HubStep.apply, Hub.bind_eq] at ht
        rcases List.mem_append.1 ht with ht | ht
        · rcases List.mem_append.1 ht with ht | ht
          · exact ih left ht own
          · obtain ⟨q, -, rfl⟩ := List.mem_map.1 ht
            cases own
        · obtain ⟨q, -, rfl⟩ := List.mem_map.1 ht
          have same := Option.some.inj (eq_of_beq own)
          rw [(kept_hub past).nextId] at same
          exact absurd same.symm other
    | unbind p i =>
      rw [boundSince?] at left
      split at left
      · next same =>
        subst same
        exact Hub.blocked_of_mem_cancelWhere (fun _ own => own) ht own
      · next other =>
        have kept : t ∈ (hub pushes capacity past).tasks.filter (·.isOfChannel id) := by
          rw [← Hub.filter_removeChannel_others grouping p i fun _ own =>
              isOfPath_of_isOfChannel own p,
            ← Hub.filter_cancelWhere_others (q := (·.isOfChannel i)) grouping fun _ own =>
              PushTask.not_isOfChannel (Ne.symm other) own]
          exact List.mem_filter.2 ⟨ht, own⟩
        exact ih left (List.mem_filter.1 kept).1 own
    | shutdown => exact Hub.blocked_of_mem_cancelWhere (fun _ _ => rfl) ht own
    | broadcast => exact ih left ht own
    | tick say world =>
      have kept : t ∈ (hub pushes capacity past).tasks.filter (·.isOfChannel id) := by
        rw [← Hub.filter_tick_of_not_due grouping say _ world fun u hu => ?_]
        · exact List.mem_filter.2 ⟨ht, own⟩
        · obtain ⟨hu, ofChannel⟩ := List.mem_filter.1 hu
          obtain ⟨-, message, since, blocked⟩ := ih left hu ofChannel
          rw [PushTask.isDue, blocked]
          exact Bool.false_ne_true
      exact ih left (List.mem_filter.1 kept).1 own
    | settle i change =>
      exact ih left (Hub.mem_of_mem_settle (fun u hu own => (ih left hu own).1) ht own) own

/-! ## Calls -/

/-- The pushes whose beat a time is, with the request they are called with. -/
def callsAt (start time : Nat) (request : Request) (pushes : List (Push σ)) :
    List (Push σ × Request) :=
  (pushes.filter fun p => IsBeat start p.delay time).map (·, request)

/-- The calls for all channels of a path in the millisecond after a history. -/
def pathCalls (pushes : List (Push σ)) (path : String) (past : HubHistory σ) :
    List (Push σ × Request) :=
  match past.occupiedSince? path with
  | none => []
  | some start =>
    callsAt start (past.time + 1) (.ofUri .ws path) (pushesFor pushes .periodic path)

/-- The calls for a channel in the millisecond after a history. -/
def channelCalls (pushes : List (Push σ)) (id : ChannelId) (past : HubHistory σ) :
    List (Push σ × Request) :=
  match past.boundSince? id with
  | none => []
  | some (path, handshake, start) =>
    callsAt start (past.time + 1) handshake (pushesFor pushes .request path)

/-- The push that a task calls, with the request it calls it with. -/
def call (t : PushTask σ) : Push σ × Request := (t.push, t.request)

/-- Steady tasks call their pushes at the beats. -/
theorem map_call_steady {own : List (Push σ)} (positive : ∀ p ∈ own, 0 < p.delay)
    {start now : Nat} (started : start ≤ now) {scope : TaskScope} {request : Request}
    (asks : ∀ p ∈ own, (PushTask.steady start now scope p).request = request) :
    ((own.map (PushTask.steady start now scope)).filter (·.isDue (now + 1))).map call =
      callsAt start (now + 1) request own := by
  have due : own.filter ((fun t => t.isDue (now + 1)) ∘ PushTask.steady start now scope) =
      own.filter fun p => IsBeat start p.delay (now + 1) :=
    List.filter_congr fun p hp => PushTask.isDue_steady started (positive p hp) scope
  rw [List.filter_map, List.map_map, callsAt, due]
  exact List.map_congr_left fun p hp => Prod.ext rfl (asks p (List.mem_filter.1 hp).1)

/-- The tasks of a path call what is due on it. -/
theorem map_call_pathTasks (positive : ∀ p ∈ pushes, 0 < p.delay) (path : String)
    (past : HubHistory σ) :
    ((past.pathTasks pushes path).filter (·.isDue (past.time + 1))).map call =
      past.pathCalls pushes path := by
  unfold pathTasks pathCalls
  cases since : past.occupiedSince? path with
  | none => rfl
  | some start =>
    refine map_call_steady (fun p => delay_pos_of_mem_pushesFor positive)
      (le_time_of_occupiedSince? since) fun p hp => ?_
    exact congrArg (Request.ofUri .ws) (of_decide_eq_true (List.mem_filter.1 hp).2).1

/-- The tasks of a channel call what is due for it. -/
theorem map_call_channelTasks (positive : ∀ p ∈ pushes, 0 < p.delay) (id : ChannelId)
    (past : HubHistory σ) :
    ((past.channelTasks pushes id).filter (·.isDue (past.time + 1))).map call =
      past.channelCalls pushes id := by
  unfold channelTasks channelCalls
  cases since : past.boundSince? id with
  | none => rfl
  | some bound =>
    exact map_call_steady (fun p => delay_pos_of_mem_pushesFor positive)
      (of_boundSince? since).2 fun _ _ => rfl

/-- The callers of a group, out of the tasks of that group. -/
theorem filter_callers (past : HubHistory σ) (p : PushTask σ → Bool) :
    (past.hub pushes capacity).callers.filter p =
      ((past.hub pushes capacity).tasks.filter p).filter (·.isDue (past.time + 1)) := by
  rw [Hub.callers, (kept_hub past).clock, List.filter_filter, List.filter_filter]
  exact List.filter_congr fun t _ => Bool.and_comm _ _

/-- **Pushes are called on time.** Whatever was done to a hub, the next millisecond calls the pushes
of its callers, each once, and nothing else. Of the callers, those of a path are its periodic pushes
on their beats since the path has had a channel. Those of a channel are the pushes by request on their
beats since it was bound, provided there was always room for a message to it. Every caller is one or
the other, and no caller is left of a channel that was unbound. -/
theorem calls_on_time (positive : ∀ p ∈ pushes, 0 < p.delay) (past : HubHistory σ) :
    (∀ (say : Speaker σ) (world : σ),
      (((past.hub pushes capacity).tick say).run world).2 =
        ((Hub.callAll say (past.hub pushes capacity).callers).run world).2) ∧
    (∀ path, ((past.hub pushes capacity).callers.filter (·.isOfPath path)).map call =
      past.pathCalls pushes path) ∧
    (∀ id, past.HasRoom pushes capacity id →
      ((past.hub pushes capacity).callers.filter (·.isOfChannel id)).map call =
        past.channelCalls pushes id) ∧
    (∀ t ∈ (past.hub pushes capacity).callers,
      t.isOfPath t.push.path = true ∨ ∃ id, t.isOfChannel id = true) ∧
    ∀ id, past.boundSince? id = none →
      (past.hub pushes capacity).callers.filter (·.isOfChannel id) = [] := by
  refine ⟨fun say world => Hub.run_tick say _ world, fun path => ?_, fun id room => ?_,
    fun t _ => ?_, fun id left => ?_⟩
  · rw [filter_callers, filter_isOfPath_hub positive]
    exact map_call_pathTasks positive path past
  · rw [filter_callers, filter_isOfChannel_hub positive room]
    exact map_call_channelTasks positive id past
  · unfold PushTask.isOfPath PushTask.isOfChannel
    cases t.scope with
    | path => exact .inl (by simp [TaskScope.channel?])
    | channel id handshake => exact .inr ⟨id, beq_self_eq_true _⟩
  · rw [filter_callers, List.filter_eq_nil_iff]
    intro t ht due
    obtain ⟨ht, own⟩ := List.mem_filter.1 ht
    obtain ⟨-, message, since, blocked⟩ := cancelled_of_left left ht own
    rw [PushTask.isDue, blocked] at due
    cases due

/-- A push that goes to all channels of a path after every third millisecond. -/
def chime : Push Unit where
  path := "/news"
  delay := 3
  event := .periodic
  handler := {
    type := "News", method := "chime", verb := .ws, pattern := "/news",
    body := fun _ _ => pure default }

/-- A push that goes to each channel for itself after every second millisecond. -/
def reminder : Push Unit := { chime with event := .request, delay := 2 }

/-- A channel that comes and one that goes leave the periodic push as it is. The push by request is
called for the one that came. -/
theorem calls_on_time_chime :
    ∃ past : HubHistory Unit, past.boundSince? 0 = none ∧
      ((past.hub [chime, reminder] 1).callers.filter (·.isOfPath "/news")).map call =
        [(chime, .ofUri .ws "/news")] ∧
      ((past.hub [chime, reminder] 1).callers.filter (·.isOfChannel 1)).map call =
        [(reminder, .ofUri .get "/late")] := by
  let quiet : HubStep Unit := .tick (fun _ _ => return none) ()
  let past : HubHistory Unit := [.unbind "/news" 0, quiet, .bind "/news" (.ofUri .get "/late"), quiet,
    .bind "/news" (.ofUri .get "/early")]
  obtain ⟨-, paths, channels, -⟩ := @calls_on_time _ [chime, reminder] 1 (by decide) past
  exact ⟨past, rfl, (paths "/news").trans rfl, (channels 1 (by decide)).trans rfl⟩

end HubHistory

/-! ## Pushes that are registered -/

namespace Registry

theorem delay_pos_of_buildPush {aspects : AspectRegistry σ} {d : PushDeclaration σ} {p : Push σ}
    (built : buildPush aspects d = .ok p) : 0 < p.delay := by
  unfold buildPush at built
  split at built
  · cases built
  · next some =>
    obtain ⟨-, -, built⟩ := exists_ok_of_bind built
    obtain ⟨handler, -, built⟩ := exists_ok_of_bind built
    cases built
    exact Nat.pos_of_ne_zero some

theorem delay_pos_of_buildPushes {aspects : AspectRegistry σ}
    {declarations : List (PushDeclaration σ)} {pushes : List (Push σ)}
    (built : declarations.mapM (buildPush aspects) = .ok pushes) : ∀ p ∈ pushes, 0 < p.delay := by
  induction declarations generalizing pushes with
  | nil =>
    cases built
    exact fun _ hp => absurd hp List.not_mem_nil
  | cons d declarations ih =>
    rw [List.mapM_cons] at built
    obtain ⟨p, first, built⟩ := exists_ok_of_bind built
    obtain ⟨rest, others, built⟩ := exists_ok_of_bind built
    cases built
    exact List.forall_mem_cons.2 ⟨delay_pos_of_buildPush first, ih others⟩

/-- The hub of an engine begins with pushes that all have a delay. -/
theorem hub_of_build {r : Registry σ} {settings : Settings} {files : FileSystem} {world : σ}
    {engine : Engine σ} {service : Service σ}
    (built : r.build settings files world = .ok (engine, service)) :
    ∃ pushes, (∀ p ∈ pushes, 0 < p.delay) ∧
      service.hub = HubHistory.hub pushes settings.socket.channelCapacity [] := by
  obtain ⟨pushes, -, attached, hub, -⟩ := exists_of_build built
  exact ⟨pushes, delay_pos_of_buildPushes attached, hub⟩

end Registry

end Switchboard
