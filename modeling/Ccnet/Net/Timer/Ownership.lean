import Ccnet.Net.Timer.HandleRead

/-! # Who owns a timer

In every run each timer handed to the queue is owned by exactly one of the
queue, the batch of the running `handleRead` and the freed memory, and no
assertion fails on the way. -/

namespace Ccnet.Net.TimerQueue

variable {queue : TimerQueue} {place : Nat → TimerPlace}

structure Consistent (queue : TimerQueue) (place : Nat → TimerPlace) : Prop where
  represents : queue.Represents place
  phased : queue.Phased
  starts : ∀ start ∈ queue.starts, start.2 ≤ queue.reads

theorem create_consistent : create.Consistent fun _ => .unborn :=
  ⟨create_represents, rfl, by simp [create]⟩

theorem SameCalls.consistent {next : TimerQueue} {after : Nat → TimerPlace}
    (same : queue.SameCalls next) (consistent : queue.Consistent place)
    (represents : next.Represents after) : next.Consistent after where
  represents := represents
  phased := by
    have phased := consistent.phased
    unfold Phased at phased ⊢
    rw [same.phase, same.calling]
    exact phased
  starts := by
    rw [same.starts, same.reads]
    exact consistent.starts

theorem Consistent.callingExpiredTimers (consistent : queue.Consistent place)
    (calling : queue.phase.isCalling = true) : queue.callingExpiredTimers = true := by
  have phased := consistent.phased
  rcases TimerPhase.exists_of_isCalling calling with ⟨_, _, _, phase⟩
  rw [Phased, phase] at phased
  exact phased.1

/-- User code that runs while `handleRead` does is that of the callbacks. -/
theorem RunsUserCode.isCalling (userCode : queue.RunsUserCode)
    (busy : queue.phase ≠ .idle) : queue.phase.isCalling = true := by
  unfold RunsUserCode at userCode
  cases phase : queue.phase with
  | idle => exact absurd phase busy
  | calling now expired rest => rfl
  | resetting now rest =>
      rw [phase] at userCode
      cases userCode

/-! ## One step -/

theorem beginHandleRead_consistent (consistent : queue.Consistent place)
    (idle : queue.phase = .idle) (now : Int) :
    ∃ next, queue.beginHandleRead now = .ok next ∧
      next.Consistent (afterExpiry place (queue.expiredAt now)) := by
  rcases beginHandleRead_ok consistent.represents idle now with
    ⟨next, ran, represents, phase, calling, _, reads, starts, _⟩
  refine ⟨next, ran, represents, ?_, ?_⟩
  · rw [Phased, phase]
    exact ⟨calling, List.suffix_rfl⟩
  · rw [starts, reads]
    intro start member
    exact (consistent.starts start member).trans (Nat.le_succ _)

theorem runCallback_consistent (consistent : queue.Consistent place)
    (toCall : queue.phase.toCall ≠ []) :
    ∃ next, queue.runCallback = .ok next ∧ next.Consistent place := by
  rcases TimerPhase.exists_of_toCall_ne toCall with ⟨now, expired, entry, rest, phase⟩
  have phased := consistent.phased
  simp only [Phased, phase] at phased
  refine ⟨_, runCallback_ok consistent.represents phase phased.2, ?_, ?_, ?_⟩
  · refine consistent.represents.of_fields rfl rfl rfl rfl ?_ rfl rfl
    simp [TimerQueue.batch, phase]
  · exact ⟨phased.1, (List.suffix_cons entry rest).trans phased.2⟩
  · intro start member
    rcases List.mem_append.mp member with old | new
    · exact consistent.starts start old
    · rw [List.mem_singleton.mp new]

theorem finishCallbacks_consistent (consistent : queue.Consistent place)
    (calling : queue.phase.isCalling = true) :
    queue.finishCallbacks.Consistent place := by
  rcases TimerPhase.exists_of_isCalling calling with ⟨now, expired, rest, phase⟩
  simp only [finishCallbacks, phase]
  refine ⟨consistent.represents.of_fields rfl rfl rfl rfl ?_ rfl rfl, rfl,
    consistent.starts⟩
  simp [TimerQueue.batch, phase]

theorem resetNext_consistent (consistent : queue.Consistent place)
    (toReset : queue.phase.toReset ≠ []) :
    ∃ next place, queue.resetNext = .ok next ∧ next.Consistent place := by
  rcases TimerPhase.exists_of_toReset_ne toReset with ⟨now, entry, rest, phase⟩
  have phased := consistent.phased
  simp only [Phased, phase] at phased
  rcases resetNext_ok consistent.represents phase with
    ⟨next, ran, nextPhase, calling, _, reads, starts, _, _, outcome⟩
  have nextPhased : next.Phased := by
    rw [Phased, nextPhase]
    exact calling.trans phased
  have nextStarts : ∀ start ∈ next.starts, start.2 ≤ next.reads := by
    rw [starts, reads]
    exact consistent.starts
  rcases outcome with ⟨_, queued⟩ | freed
  · exact ⟨next, _, ran, queued, nextPhased, nextStarts⟩
  · exact ⟨next, _, ran, freed, nextPhased, nextStarts⟩

theorem finishReset_consistent (consistent : queue.Consistent place)
    (reset : queue.phase.isResetting = true ∧ queue.phase.toReset = [])
    (clock : Int) :
    ∃ next, queue.finishReset clock = .ok next ∧ next.Consistent place := by
  rcases TimerPhase.exists_of_reset reset with ⟨now, phase⟩
  have phased := consistent.phased
  simp only [Phased, phase] at phased
  rcases finishReset_ok consistent.represents phase clock with
    ⟨next, ran, represents, nextPhase, calling, reads, starts, _⟩
  refine ⟨next, ran, represents, ?_, ?_⟩
  · rw [Phased, nextPhase]
    exact calling.trans phased
  · rw [starts, reads]
    exact consistent.starts

theorem step_consistent (action : Action) (consistent : queue.Consistent place)
    (allowed : queue.Allowed action) :
    ∃ next place, queue.step action = .ok next ∧ next.Consistent place := by
  have represents := consistent.represents
  cases action with
  | newTimer timer =>
      exact ⟨_, _, rfl, newTimer_represents represents allowed, consistent.phased,
        consistent.starts⟩
  | addTimerInLoop timer clock =>
      rcases addTimerInLoop_ok represents allowed.2.1 allowed.2.2 clock with
        ⟨next, ran, moved, same, _⟩
      exact ⟨next, _, ran, same.consistent consistent moved⟩
  | cancelInLoop timerId =>
      rcases cancelInLoop_ok represents timerId with ⟨next, ran, same, _, outcome⟩
      rcases outcome with ⟨_, _, _, _, freed⟩ | ⟨_, _, kept⟩
      · exact ⟨next, _, ran, same.consistent consistent freed⟩
      · exact ⟨next, _, ran, same.consistent consistent kept⟩
  | beginHandleRead now =>
      rcases beginHandleRead_consistent consistent allowed now with ⟨next, ran, kept⟩
      exact ⟨next, _, ran, kept⟩
  | runCallback =>
      rcases runCallback_consistent consistent allowed with ⟨next, ran, kept⟩
      exact ⟨next, _, ran, kept⟩
  | finishCallbacks =>
      exact ⟨_, _, rfl, finishCallbacks_consistent consistent allowed.1⟩
  | resetNext => exact resetNext_consistent consistent allowed
  | finishReset clock =>
      rcases finishReset_consistent consistent allowed clock with ⟨next, ran, kept⟩
      exact ⟨next, _, ran, kept⟩
  | alarm =>
      exact ⟨_, _, rfl, represents.of_fields rfl rfl rfl rfl rfl rfl rfl,
        consistent.phased, consistent.starts⟩

/-- Only `addTimerInLoop` hands a timer to the queue, and no object is
forgotten. -/
theorem step_frame {next : TimerQueue} (action : Action)
    (consistent : queue.Consistent place) (allowed : queue.Allowed action)
    (noAdd : ∀ timer clock, action ≠ .addTimerInLoop timer clock)
    (stepped : queue.step action = .ok next) :
    queue.created ⊆ next.created ∧ next.handed = queue.handed := by
  have unchanged : queue.SameTimers next →
      queue.created ⊆ next.created ∧ next.handed = queue.handed := by
    intro same
    rw [same.created, same.handed]
    exact ⟨fun _ member => member, rfl⟩
  have represents := consistent.represents
  cases action with
  | newTimer timer =>
      cases stepped
      exact ⟨List.subset_append_left _ _, rfl⟩
  | addTimerInLoop timer clock => exact absurd rfl (noAdd timer clock)
  | cancelInLoop timerId =>
      rcases cancelInLoop_ok represents timerId with ⟨_, ran, _, same, _⟩
      cases ran.symm.trans stepped
      exact unchanged same
  | beginHandleRead now =>
      rcases beginHandleRead_ok represents allowed now with
        ⟨_, ran, _, _, _, _, _, _, same⟩
      cases ran.symm.trans stepped
      exact unchanged same
  | runCallback =>
      rcases TimerPhase.exists_of_toCall_ne allowed with ⟨_, _, _, _, phase⟩
      have phased := consistent.phased
      simp only [Phased, phase] at phased
      cases (runCallback_ok represents phase phased.2).symm.trans stepped
      exact unchanged ⟨rfl, rfl⟩
  | finishCallbacks =>
      rcases TimerPhase.exists_of_isCalling allowed.1 with ⟨_, _, _, phase⟩
      cases stepped
      exact unchanged ⟨by simp [finishCallbacks, phase], by simp [finishCallbacks, phase]⟩
  | resetNext =>
      rcases TimerPhase.exists_of_toReset_ne allowed with ⟨_, _, _, phase⟩
      rcases resetNext_ok represents phase with ⟨_, ran, _, _, _, _, _, same, _⟩
      cases ran.symm.trans stepped
      exact unchanged same
  | finishReset clock =>
      rcases TimerPhase.exists_of_reset allowed with ⟨_, phase⟩
      rcases finishReset_ok represents phase clock with ⟨_, ran, _, _, _, _, _, same⟩
      cases ran.symm.trans stepped
      exact unchanged same
  | alarm =>
      cases stepped
      exact unchanged ⟨rfl, rfl⟩

/-! ## Every run -/

theorem consistent_of_reachable :
    machine.Safe ∧ ∀ queue, machine.Reachable queue → ∃ place, queue.Consistent place := by
  refine Machine.safe_of_invariant
    (fun queue : TimerQueue => ∃ place, queue.Consistent place) ?_ ?_
  · rintro _ rfl
    exact ⟨_, create_consistent⟩
  · rintro queue action ⟨place, consistent⟩ allowed
    rcases step_consistent action consistent allowed with ⟨next, after, ran, kept⟩
    exact ⟨next, ran, after, kept⟩

inductive Owner
  | timers
  | batch
  | freed
  deriving DecidableEq, Repr

def OwnedBy (queue : TimerQueue) (serial : Nat) : Owner → Prop
  | .timers => ∃ entry ∈ queue.timers, entry.timer.serial = serial
  | .batch => ∃ entry ∈ queue.batch, entry.timer.serial = serial
  | .freed => serial ∈ queue.freed

def Owner.toPlace : Owner → TimerPlace
  | .timers => .queued
  | .batch => .expired
  | .freed => .freed

theorem Represents.ownedBy_iff (represents : queue.Represents place) (serial : Nat)
    (owner : Owner) : queue.OwnedBy serial owner ↔ place serial = owner.toPlace := by
  have located := represents.located serial
  cases owner with
  | timers =>
      constructor
      · rintro ⟨entry, member, same⟩
        exact ((located.timers entry same).mp member).1
      · intro queued
        have isLive : (place serial).isLive = true := by
          rw [queued]
          rfl
        rcases represents.exists_live isLive with ⟨timer, alive⟩
        refine ⟨⟨timer.expiration, ⟨timer.address, serial⟩⟩, ?_, rfl⟩
        exact (located.timers _ rfl).mpr ⟨queued, timer, alive, rfl, rfl⟩
  | batch => exact located.batch
  | freed => exact located.freed

theorem Represents.exists_unique_owner (represents : queue.Represents place)
    {serial : Nat} (handed : serial ∈ queue.handed) :
    ∃! owner, queue.OwnedBy serial owner := by
  simp only [represents.ownedBy_iff serial]
  rcases (represents.located serial).handed.mp handed with queued | expired | freed
  · refine ⟨.timers, queued, ?_⟩
    intro owner
    cases owner <;> simp [queued, Owner.toPlace]
  · refine ⟨.batch, expired, ?_⟩
    intro owner
    cases owner <;> simp [expired, Owner.toPlace]
  · refine ⟨.freed, freed, ?_⟩
    intro owner
    cases owner <;> simp [freed, Owner.toPlace]

theorem deref_eq_ok_iff {pointer : TimerPtr} {timer : Timer} :
    queue.deref pointer = .ok timer ↔ queue.live pointer.serial = some timer := by
  unfold deref
  split <;> simp_all

theorem sequence_eq_ok_iff {pointer : TimerPtr} {sequence : Nat} :
    queue.sequence pointer = .ok sequence ↔
      sequence = pointer.serial ∧ ∃ timer, queue.live pointer.serial = some timer := by
  cases alive : queue.live pointer.serial with
  | none => simp [TimerQueue.sequence, deref, alive]
  | some timer =>
      rw [sequence_of_live alive]
      simp [eq_comm]

/-- The two sets hold the same timers, each under its own expiration and
sequence number. -/
theorem Represents.timers_iff_activeTimers (represents : queue.Represents place)
    (entry : Entry) :
    entry ∈ queue.timers ↔ ∃ timer sequence, queue.deref entry.timer = .ok timer ∧
      queue.sequence entry.timer = .ok sequence ∧
      ActiveTimer.mk entry.timer sequence ∈ queue.activeTimers ∧
      entry.expiration = timer.expiration := by
  simp only [deref_eq_ok_iff, sequence_eq_ok_iff]
  constructor
  · intro member
    rcases represents.queued_of_mem_timers member with
      ⟨_, timer, alive, _, expiration⟩
    exact ⟨timer, _, alive, ⟨rfl, timer, alive⟩,
      represents.active_of_mem_timers member, expiration.symm⟩
  · rintro ⟨timer, sequence, alive, _, member, expiration⟩
    rcases ((represents.located _).activeTimers _ rfl).mp member with
      ⟨queued, _, other, otherAlive, address⟩
    rw [alive, Option.some.injEq] at otherAlive
    subst otherAlive
    exact ((represents.located _).timers entry rfl).mpr
      ⟨queued, timer, alive, address, expiration.symm⟩

theorem Represents.sequence_of_mem_activeTimers (represents : queue.Represents place)
    {active : ActiveTimer} (member : active ∈ queue.activeTimers) :
    queue.sequence active.timer = .ok active.sequence := by
  rcases ((represents.located _).activeTimers active rfl).mp member with
    ⟨_, sequence, timer, alive, _⟩
  exact sequence_eq_ok_iff.mpr ⟨sequence, timer, alive⟩

theorem timers_consistently_owned :
    machine.Safe ∧ ∀ queue, machine.Reachable queue →
      (∀ entry, entry ∈ queue.timers ↔
        ∃ timer sequence, queue.deref entry.timer = .ok timer ∧
          queue.sequence entry.timer = .ok sequence ∧
          ActiveTimer.mk entry.timer sequence ∈ queue.activeTimers ∧
          entry.expiration = timer.expiration) ∧
      (∀ active ∈ queue.activeTimers,
        queue.sequence active.timer = .ok active.sequence) ∧
      (∀ serial ∈ queue.handed, ∃! owner, queue.OwnedBy serial owner) ∧
      (queue.batch.map fun entry => entry.timer.serial).Nodup ∧
      queue.freed.Nodup ∧
      ∀ pointer, pointer.serial ∈ queue.freed →
        queue.deref pointer = .error .useAfterFree := by
  refine ⟨consistent_of_reachable.1, ?_⟩
  intro queue reachable
  rcases consistent_of_reachable.2 queue reachable with ⟨place, represents, _⟩
  refine ⟨represents.timers_iff_activeTimers,
    fun _ member => represents.sequence_of_mem_activeTimers member,
    fun _ handed => represents.exists_unique_owner handed,
    represents.batch_nodup, represents.freed_nodup, ?_⟩
  intro pointer freed
  have located := represents.located pointer.serial
  have dead : queue.live pointer.serial = none := by
    rw [← Option.not_isSome_iff_eq_none, Option.isSome_iff_exists, located.live,
      located.freed.mp freed]
    simp [TimerPlace.isLive]
  simp [deref, dead]

/-- A callback cancels its own repeating timer, whose address is then given to
a new one while the rest of the batch is still to be decided about. -/
theorem timers_consistently_owned_reuse :
    ∃ queue, machine.Reachable queue ∧
      (queue.freed = [1] ∧ queue.handed = [1, 2] ∧
        queue.batch.map (fun entry => entry.timer) = [⟨16, 2⟩] ∧
        queue.created = [⟨8, 1⟩, ⟨16, 2⟩, ⟨8, 3⟩]) ∧
      (∃! owner, queue.OwnedBy 1 owner) ∧ ∃! owner, queue.OwnedBy 2 owner := by
  have run := Machine.exists_reachable machine
    (fun queue => queue.freed = [1] ∧ queue.handed = [1, 2] ∧
      queue.batch.map (fun entry => entry.timer) = [⟨16, 2⟩] ∧
      queue.created = [⟨8, 1⟩, ⟨16, 2⟩, ⟨8, 3⟩])
    rfl
    [.newTimer ⟨8, 10, 5, true⟩, .newTimer ⟨16, 12, 0, false⟩,
      .addTimerInLoop ⟨8, 1⟩ 0, .addTimerInLoop ⟨16, 2⟩ 1, .alarm,
      .beginHandleRead 20, .runCallback, .cancelInLoop ⟨⟨8, 1⟩, 1⟩, .runCallback,
      .finishCallbacks, .resetNext, .newTimer ⟨8, 50, 0, false⟩]
    (by decide)
  rcases run with ⟨queue, reachable, reached⟩
  rcases timers_consistently_owned.2 queue reachable with ⟨_, _, owned, _⟩
  refine ⟨queue, reachable, reached, owned 1 ?_, owned 2 ?_⟩
  · simp [reached.2.1]
  · simp [reached.2.1]

end Ccnet.Net.TimerQueue
