import Switchboard.Service.Shutdown
import Mathlib.Data.List.Basic

/-!
# No one sleeps through the signal

Waits and calls that give the signal go on side by side, in any number and with their steps in any
order. Each call sends a message to everyone who has subscribed. The channel has room for one
message, and who has fallen behind is told how many he has missed, which wakes him as well.

The invariant is `Run.Sound`. A wait falls asleep only where it has seen that no call has begun, so
it subscribed before the first message was sent (`WaitSound.asleep`). Whatever is sent later is there
for it, so behind the first call that is over nobody is asleep with nothing to receive
(`Reached.nobody_misses_it`).
-/

namespace Switchboard.Shutdown

/-! ## The channel -/

/-- What a receiver gets. -/
inductive Receipt where
  | message
  /-- So many messages are lost. -/
  | lagged (missed : Nat)
  deriving DecidableEq, Repr

/-- What there is to receive for a receiver that subscribed when there had been `place` messages,
now that there were `sent`. The channel keeps only the last one. -/
def receipt? (place sent : Nat) : Option Receipt :=
  match sent - place with
  | 0 => none
  | 1 => some .message
  | missed + 2 => some (.lagged (missed + 1))

theorem isSome_receipt?_iff {place sent : Nat} : (receipt? place sent).isSome ↔ place < sent := by
  unfold receipt?
  split <;> simp <;> omega

/-! ## Runs -/

/-- A signal and what went through its channel. -/
structure Run where
  signal : Shutdown := {}
  /-- How many messages were sent. Each call that is over has sent one. -/
  sent : Nat := 0
  /-- How many of them were sent when each of the waits subscribed. -/
  places : List Nat := []
  deriving DecidableEq

/-- The runs that waits and calls come to in any order of their steps, while others subscribe and
leave. -/
inductive Reached : Run → Prop where
  | start : Reached {}
  | subscribe {r : Run} (before : Reached r) :
      Reached { r with signal := r.signal.subscribe, places := r.places ++ [r.sent] }
  | look {r : Run} (before : Reached r) (i : Nat) : Reached { r with signal := r.signal.look i }
  | getUp {r : Run} (before : Reached r) (i : Nat) : Reached { r with signal := r.signal.getUp i }
  | raise {r : Run} (before : Reached r) : Reached { r with signal := r.signal.raise }
  | wake {r : Run} (before : Reached r) (begun : 0 < r.signal.signalling) :
      Reached { r with signal := r.signal.wake, sent := r.sent + 1 }
  | listen {r : Run} (before : Reached r) : Reached { r with signal := r.signal.listen }
  | leave {r : Run} (before : Reached r) : Reached { r with signal := r.signal.leave }

variable {r : Run}

/-- The steps of a wait, taken at once. -/
theorem Reached.wait (h : Reached r) :
    Reached { r with signal := r.signal.wait, places := r.places ++ [r.sent] } :=
  h.subscribe.look r.signal.waiters.length

/-! ## What a step preserves -/

/-- A wait that subscribed at some place among the messages: it is woken where a message is there
for it, asleep only if it subscribed before them all, and over only if the signal was given. -/
structure WaitSound (triggered : Bool) (sent place : Nat) (w : Waiter) : Prop where
  behind : place ≤ sent
  woken : w.stage ≠ .done → (w.woken = true ↔ place < sent)
  asleep : w.stage = .asleep → place = 0
  done : w.stage = .done → triggered = true

namespace WaitSound

variable {triggered : Bool} {sent place : Nat} {w : Waiter}

/-- A subscription begins behind the messages that were sent before it. -/
theorem subscribed (triggered : Bool) (sent : Nat) : WaitSound triggered sent sent {} where
  behind := Nat.le_refl sent
  woken _ := by simp
  asleep h := by cases h
  done h := by cases h

/-- A waiter that looks at the flag stays sound. -/
theorem look (h : WaitSound triggered sent place w) (unsent : triggered = false → sent = 0) :
    WaitSound triggered sent place (w.look triggered) := by
  obtain ⟨stage, woken⟩ := w
  cases stage with
  | subscribed =>
    cases triggered with
    | true => exact ⟨h.behind, fun ne => absurd rfl ne, nofun, fun _ => rfl⟩
    | false =>
      -- the flag is down, so there is no message yet that the wait could have missed
      have first : place = 0 := Nat.le_zero.1 (unsent rfl ▸ h.behind)
      exact ⟨h.behind, fun _ => h.woken nofun, fun _ => first, nofun⟩
  | asleep => exact h
  | done => exact h

/-- A waiter that gets up stays sound. -/
theorem getUp (h : WaitSound triggered sent place w) (given : 0 < sent → triggered = true) :
    WaitSound triggered sent place w.getUp := by
  unfold Waiter.getUp
  split
  · rename_i up
    obtain ⟨sleeps, woken⟩ := Bool.and_eq_true_iff.1 up
    have stage : w.stage ≠ .done := by simp [of_decide_eq_true sleeps]
    have message := (h.woken stage).1 woken
    exact ⟨h.behind, fun ne => absurd rfl ne, nofun, fun _ => given (Nat.zero_lt_of_lt message)⟩
  · exact h

theorem wake (h : WaitSound triggered sent place w) :
    WaitSound triggered (sent + 1) place w.wake := by
  have later : place < sent + 1 := Nat.lt_succ_of_le h.behind
  unfold Waiter.wake Waiter.isSubscribed
  split
  · exact ⟨Nat.le_of_lt later, fun _ => iff_of_true rfl later, h.asleep, h.done⟩
  · rename_i gone
    have done : w.stage = .done := by simpa using gone
    exact ⟨Nat.le_of_lt later, fun ne => absurd done ne, h.asleep, h.done⟩

end WaitSound

/-- The flag is up just where a call has begun, and each wait has a place and is sound there. -/
structure Run.Sound (r : Run) : Prop where
  triggered : r.signal.triggered = true ↔ 0 < r.sent + r.signal.signalling
  placed : r.places.length = r.signal.waiters.length
  waits : ∀ (i place : Nat) (w : Waiter), r.places[i]? = some place →
    r.signal.waiters[i]? = some w → WaitSound r.signal.triggered r.sent place w

namespace Run.Sound

theorem unsent (h : r.Sound) (down : r.signal.triggered = false) : r.sent = 0 := by
  by_contra some
  have up := h.triggered.2 (by omega)
  rw [down] at up
  cases up

/-- One wait takes a step that keeps it sound. -/
theorem modify (h : r.Sound) (i : Nat) {step : Waiter → Waiter}
    (keeps : ∀ place w, WaitSound r.signal.triggered r.sent place w →
      WaitSound r.signal.triggered r.sent place (step w)) :
    Sound { r with signal := { r.signal with waiters := r.signal.waiters.modify i step } } := by
  refine ⟨h.triggered, by rw [h.placed, List.length_modify], fun j place w hp hw => ?_⟩
  rw [List.getElem?_modify] at hw
  obtain ⟨old, ho, rfl⟩ := Option.map_eq_some_iff.1 hw
  have sound := h.waits j place old hp ho
  split
  · exact keeps place old sound
  · exact sound

theorem subscribe (h : r.Sound) :
    Sound { r with signal := r.signal.subscribe, places := r.places ++ [r.sent] } := by
  refine ⟨h.triggered, by simp [Shutdown.subscribe, h.placed], fun i place w hp hw => ?_⟩
  rw [List.getElem?_append] at hp
  dsimp only [Shutdown.subscribe] at hw
  rw [List.getElem?_append, ← h.placed] at hw
  split at hp
  · rename_i before
    rw [if_pos before] at hw
    exact h.waits i place w hp hw
  · rename_i last
    rw [if_neg last] at hw
    obtain rfl := List.mem_singleton.1 (List.mem_of_getElem? hp)
    obtain rfl := List.mem_singleton.1 (List.mem_of_getElem? hw)
    exact .subscribed _ _

theorem raise (h : r.Sound) : Sound { r with signal := r.signal.raise } := by
  refine ⟨iff_of_true rfl (Nat.succ_pos _), h.placed, fun i place w hp hw => ?_⟩
  have sound := h.waits i place w hp hw
  exact ⟨sound.behind, sound.woken, sound.asleep, fun _ => rfl⟩

theorem wake (h : r.Sound) (begun : 0 < r.signal.signalling) :
    Sound { r with signal := r.signal.wake, sent := r.sent + 1 } := by
  obtain ⟨n, hn⟩ := Nat.exists_eq_add_one.2 begun
  have up := h.triggered.2 (by omega)
  unfold Shutdown.wake
  rw [hn]
  refine ⟨iff_of_true up (Nat.add_pos_left (Nat.succ_pos _) _), by rw [h.placed, List.length_map],
    fun i place w hp hw => ?_⟩
  rw [List.getElem?_map] at hw
  obtain ⟨old, ho, rfl⟩ := Option.map_eq_some_iff.1 hw
  exact (h.waits i place old hp ho).wake

end Run.Sound

/-- **Every run is sound.** -/
theorem Reached.sound (h : Reached r) : r.Sound := by
  induction h with
  | start => exact ⟨by decide, rfl, nofun⟩
  | subscribe _ ih => exact ih.subscribe
  | look _ i ih => exact ih.modify i fun _ _ sound => sound.look ih.unsent
  | getUp _ i ih =>
    have given (some : 0 < _) := ih.triggered.2 (Nat.add_pos_left some _)
    exact ih.modify i fun _ _ sound => sound.getUp given
  | raise _ ih => exact ih.raise
  | wake _ begun ih => exact ih.wake begun
  | listen _ ih => exact ⟨ih.triggered, ih.placed, ih.waits⟩
  | leave _ ih => exact ⟨ih.triggered, ih.placed, ih.waits⟩

/-! ## Behind a call that is over -/

namespace WaitSound

variable {triggered : Bool} {sent place : Nat} {w : Waiter}

/-- Who sleeps gets up just where there is something to receive. -/
theorem getUp_iff (h : WaitSound triggered sent place w) (asleep : w.stage = .asleep) :
    w.getUp.stage = .done ↔ (receipt? place sent).isSome := by
  have stage : w.stage ≠ .done := by simp [asleep]
  rw [isSome_receipt?_iff, ← h.woken stage]
  unfold Waiter.getUp
  cases w.woken <;> simp [asleep]

/-- Who sleeps has something to receive, once a message was sent. -/
theorem isSome_receipt? (h : WaitSound triggered sent place w) (asleep : w.stage = .asleep)
    (some : 0 < sent) : (receipt? place sent).isSome := by
  rw [isSome_receipt?_iff, h.asleep asleep]
  exact some

end WaitSound

/-- **Nobody misses the signal.** Once a call is over, no wait is asleep with nothing to receive:
its next step ends it, whether it has still to look at the flag or sleeps. Who sleeps gets up just
where the channel has something for it, and no wait is over before a call has begun. -/
theorem Reached.nobody_misses_it (h : Reached r) :
    (0 < r.sent → ∀ (i : Nat) (w : Waiter), r.signal.waiters[i]? = some w →
      (∃ place, r.places[i]? = some place ∧
        ¬ (w.stage = .asleep ∧ receipt? place r.sent = none)) ∧
      (w.stage = .subscribed →
        (r.signal.look i).waiters[i]? = some { w with stage := .done }) ∧
      (w.stage = .asleep →
        (r.signal.getUp i).waiters[i]? = some { w with stage := .done })) ∧
    (∀ (i place : Nat) (w : Waiter), r.places[i]? = some place → r.signal.waiters[i]? = some w →
      w.stage = .asleep → (w.getUp.stage = .done ↔ (receipt? place r.sent).isSome)) ∧
    ∀ w ∈ r.signal.waiters, w.stage = .done → 0 < r.sent + r.signal.signalling := by
  have sound := h.sound
  have placed : ∀ (i : Nat) (w : Waiter), r.signal.waiters[i]? = some w →
      ∃ place, r.places[i]? = some place ∧ WaitSound r.signal.triggered r.sent place w := by
    intro i w hw
    have bound : i < r.places.length := by
      rw [sound.placed]
      exact (List.getElem?_eq_some_iff.1 hw).1
    exact ⟨r.places[i], List.getElem?_eq_getElem bound,
      sound.waits i _ w (List.getElem?_eq_getElem bound) hw⟩
  refine ⟨fun some i w hw => ?_, fun i place w hp hw asleep => ?_, fun w hm done => ?_⟩
  · obtain ⟨place, hp, wait⟩ := placed i w hw
    have up := sound.triggered.2 (Nat.add_pos_left some _)
    refine ⟨⟨place, hp, fun ⟨asleep, nothing⟩ => ?_⟩, fun subscribed => ?_, fun asleep => ?_⟩
    · have there := wait.isSome_receipt? asleep some
      rw [nothing] at there
      cases there
    · simp [Shutdown.look, hw, Waiter.look, subscribed, up]
    · have woken : w.woken = true :=
        (wait.woken (by simp [asleep])).2 (isSome_receipt?_iff.1 (wait.isSome_receipt? asleep some))
      simp [Shutdown.getUp, hw, Waiter.getUp, asleep, woken]
  · exact (sound.waits i place w hp hw).getUp_iff asleep
  · obtain ⟨i, hw⟩ := List.mem_iff_getElem?.1 hm
    obtain ⟨place, -, wait⟩ := placed i w hw
    exact sound.triggered.1 (wait.done done)

/-- One wait sleeps while two calls overrun the channel, and another one subscribes between their
messages. The first has missed a message and gets up, the second sees the flag. -/
theorem Reached.nobody_misses_it_race :
    ∃ r : Run, Reached r ∧ r.signal.waiters.map (·.stage) = [.asleep, .subscribed] ∧
      r.places.map (receipt? · r.sent) = [some (.lagged 1), some .message] ∧
      (r.signal.getUp 0).finished = [true, false] ∧ (r.signal.look 1).finished = [false, true] ∧
      (r.signal.getUp 0).waiters[0]? = some ⟨.done, true⟩ ∧
      (r.signal.look 1).waiters[1]? = some ⟨.done, true⟩ := by
  have calls := Reached.start.wait.raise.raise
  have first := calls.wake (by decide)
  have both := first.subscribe.wake (by decide)
  have ends := both.nobody_misses_it.1 (by decide)
  exact ⟨_, both, rfl, rfl, rfl, rfl, (ends 0 ⟨.asleep, true⟩ rfl).2.2 rfl,
    (ends 1 ⟨.subscribed, true⟩ rfl).2.1 rfl⟩

end Switchboard.Shutdown
