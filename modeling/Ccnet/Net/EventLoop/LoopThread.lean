import Ccnet.Net.EventLoop.Wakeup

namespace Ccnet.Net

/-! `net/event_loop_thread.cc`: one thread starts the loop thread, waits until it has
published its loop, and later destroys the `EventLoopThread`. The loop itself is the
one of `net/event_loop.cc`, with everything that other threads and user code do to it. -/

/-- Where the thread is that owns the `EventLoopThread`. -/
inductive OwnerPhase
  | created
  /-- In `startLoop`, before it has the lock. -/
  | starting
  /-- In `cond_.wait`. -/
  | waiting
  /-- Woken there, before it has the lock again. -/
  | woken
  /-- `startLoop` has returned. -/
  | started
  /-- In the destructor, with `loop_` found to be set. -/
  | calling
  /-- In `loop_->quit()`, before it stores the flag. -/
  | quitting
  /-- There, before `wakeup()`. -/
  | waking
  | joining
  | destroyed
  deriving DecidableEq, Repr

/-- Where the loop thread is. -/
inductive ThreadPhase
  | notStarted
  /-- The loop is constructed, and `callback_` may run. -/
  | initializing
  /-- `loop_` is set, and `loop()` not entered. -/
  | published
  | looping
  /-- `loop()` has returned. -/
  | leaving
  /-- `loop_` is cleared, and the loop not yet destroyed. -/
  | cleared
  | ended
  deriving DecidableEq, Repr

namespace ThreadPhase

/-- The loop object exists. -/
def isAlive : ThreadPhase → Bool
  | .initializing | .published | .looping | .leaving | .cleared => true
  | .notStarted | .ended => false

/-- `loop()` has been entered, and so has reset the flag. -/
def hasEntered : ThreadPhase → Bool
  | .looping | .leaving | .cleared | .ended => true
  | .notStarted | .initializing | .published => false

end ThreadPhase

/-- `quitStored` tells whether some `quit()` has stored the flag. -/
structure EventLoopThread (Functor Thread : Type) where
  loopPointer : Bool
  exiting : Bool
  owner : OwnerPhase
  thread : ThreadPhase
  eventLoop : EventLoop Functor Thread
  quitStored : Bool
  deriving DecidableEq, Repr

namespace EventLoopThread

variable {Functor Thread : Type}

def create : EventLoopThread Functor Thread where
  loopPointer := false
  exiting := false
  owner := .created
  thread := .notStarted
  eventLoop := .create
  quitStored := false

inductive Action (Functor Thread : Type)
  /-- `startLoop`, up to its locked region. -/
  | startLoop
  /-- A round of the loop there. -/
  | testPointer
  /-- The owner is woken for no reason. -/
  | wakeOwner
  /-- The destructor, up to its test of `loop_`. -/
  | destroy
  | loadPointer
  | storeQuit
  | wakeup
  | join
  | publish
  | clearPointer
  | destruct
  /-- Something happens in the loop, or is done to it. -/
  | loop (action : EventLoop.Action Functor Thread)

def quits : EventLoop.Action Functor Thread → Bool
  | .callQuit => true
  | _ => false

/-- Where the loop thread runs user code, and where it enters the loop. -/
def LoopAllowed (state : EventLoopThread Functor Thread) :
    EventLoop.Action Functor Thread → Prop
  | .loopPush _ => state.thread = .initializing ∨ state.thread = .looping
  | .enterLoop => state.thread = .published
  | _ => True

def Allowed (state : EventLoopThread Functor Thread) : Action Functor Thread → Prop
  | .startLoop => state.owner = .created
  | .testPointer => state.owner = .starting ∨ state.owner = .woken
  | .wakeOwner => state.owner = .waiting
  | .destroy => state.owner = .started
  | .loadPointer => state.owner = .calling
  | .storeQuit => state.owner = .quitting
  | .wakeup => state.owner = .waking
  | .join => state.owner = .joining ∧ state.thread = .ended
  | .publish => state.thread = .initializing ∧ state.eventLoop.loopInQueue = false
  | .clearPointer => state.thread = .leaving
  | .destruct => state.thread = .cleared
  | .loop action => state.thread.isAlive = true ∧ state.LoopAllowed action ∧
      state.eventLoop.Allowed action

/-- An access to the loop object by the owner. -/
def checkAlive (state : EventLoopThread Functor Thread) : Checked Unit :=
  if state.thread.isAlive then .ok () else .error .useAfterFree

section Step

variable [DecidableEq Thread]

def step (state : EventLoopThread Functor Thread) :
    Action Functor Thread → Checked (EventLoopThread Functor Thread)
  | .startLoop => do
      check (state.thread = .notStarted)
      return { state with owner := .starting, thread := .initializing }
  | .testPointer =>
      return { state with owner := if state.loopPointer then .started else .waiting }
  | .wakeOwner => return { state with owner := .woken }
  | .destroy =>
      return { state with
        exiting := true
        owner := if state.loopPointer then .calling else .destroyed }
  | .loadPointer =>
      -- `loop_` is read a second time, for the call.
      if state.loopPointer then
        return { state with owner := .quitting }
      else
        .error .nullPointer
  | .storeQuit => do
      state.checkAlive
      let eventLoop ← state.eventLoop.step .callQuit
      return { state with eventLoop, owner := .waking, quitStored := true }
  | .wakeup => do
      state.checkAlive
      let eventLoop ← state.eventLoop.step .callWakeup
      return { state with eventLoop, owner := .joining }
  | .join => return { state with owner := .destroyed }
  | .publish =>
      return { state with
        loopPointer := true
        thread := .published
        owner := if state.owner = .waiting then .woken else state.owner }
  | .clearPointer => return { state with loopPointer := false, thread := .cleared }
  | .destruct => return { state with thread := .ended }
  | .loop action => do
      let eventLoop ← state.eventLoop.step action
      return { state with
        eventLoop
        quitStored := state.quitStored || quits action
        thread := if eventLoop.phase = .outsideLoop then
            if state.thread = .looping then .leaving else state.thread
          else
            .looping }

def machine : Machine (EventLoopThread Functor Thread) (Action Functor Thread) where
  initial state := state = create
  allowed := Allowed
  step := step

end Step

/-- `quit()` stores the flag only when `loop()` has reset it. -/
def QuitsAfterReset (state : EventLoopThread Functor Thread) :
    Action Functor Thread → Prop
  | .storeQuit => state.thread.hasEntered = true
  | .loop action => quits action = true → state.thread.hasEntered = true
  | _ => True

/-! ## Evaluation -/

section Evaluation

variable [DecidableEq Functor] [DecidableEq Thread]

instance (state : EventLoopThread Functor Thread) :
    (action : EventLoop.Action Functor Thread) → Decidable (state.LoopAllowed action)
  | .loopPush _ => inferInstanceAs (Decidable (_ ∨ _))
  | .enterLoop => inferInstanceAs (Decidable (_ = _))
  | .push _ _ | .wakeup _ | .loopTestWakeup | .callWakeup | .callQuit | .testQuit
  | .pollReturns | .handleRead | .beginFunctors | .swapFunctors | .startFunctor
  | .finishFunctors | .destroyFunctors => inferInstanceAs (Decidable True)

instance (state : EventLoopThread Functor Thread) :
    (action : Action Functor Thread) → Decidable (state.Allowed action)
  | .startLoop | .wakeOwner | .destroy | .loadPointer | .storeQuit | .wakeup | .clearPointer
  | .destruct => inferInstanceAs (Decidable (_ = _))
  | .testPointer => inferInstanceAs (Decidable (_ ∨ _))
  | .join | .publish => inferInstanceAs (Decidable (_ = _ ∧ _ = _))
  | .loop action => inferInstanceAs (Decidable
      (_ ∧ state.LoopAllowed action ∧ state.eventLoop.Allowed action))

instance (state : EventLoopThread Functor Thread) (action : Action Functor Thread) :
    Decidable (machine.allowed state action) :=
  inferInstanceAs (Decidable (state.Allowed action))

instance (state : EventLoopThread Functor Thread) :
    (action : Action Functor Thread) → Decidable (state.QuitsAfterReset action)
  | .storeQuit => inferInstanceAs (Decidable (_ = _))
  | .loop _ => inferInstanceAs (Decidable (_ → _))
  | .startLoop | .testPointer | .wakeOwner | .destroy | .loadPointer | .wakeup | .join
  | .publish | .clearPointer | .destruct => inferInstanceAs (Decidable True)

end Evaluation

end EventLoopThread

/-! ## What the loop does to its flag -/

namespace EventLoop

variable {Functor Thread : Type} [DecidableEq Thread] {loop next : EventLoop Functor Thread}
  {action : Action Functor Thread}

/-- Entering the loop resets the flag, and testing it decides on the next round. Nothing
else clears it, leaves the loop, goes to sleep or takes a wakeup from a sleeping loop. -/
theorem step_flag (allowed : loop.Allowed action) (stepped : loop.step action = .ok next) :
    (action = .enterLoop ∧ next.phase = .testingQuit ∧ next.quit = false) ∨
    (action = .testQuit ∧ loop.phase = .testingQuit ∧ next.quit = loop.quit ∧
      next.phase = if loop.quit then .outsideLoop else .polling) ∨
    ((loop.quit = true → next.quit = true) ∧
      (next.phase = .outsideLoop ↔ loop.phase = .outsideLoop) ∧
      (next.phase = .polling → loop.phase = .polling ∧
        (0 < loop.wakeupCounter → 0 < next.wakeupCounter))) := by
  cases action with
  | enterLoop =>
      rcases Checked.check_bind_eq_ok_iff.mp stepped with ⟨_, returned⟩
      cases returned
      exact .inl ⟨rfl, rfl, rfl⟩
  | testQuit =>
      refine .inr (.inl ⟨rfl, allowed.1, ?_⟩)
      simp only [step] at stepped
      split at stepped
      · rename_i quit
        cases stepped
        exact ⟨rfl, by rw [if_pos quit]⟩
      · rename_i running
        cases stepped
        exact ⟨rfl, by rw [if_neg running]⟩
  | push thread functor | loopPush functor =>
      cases stepped
      exact .inr (.inr ⟨id, Iff.rfl, fun polling => ⟨polling, id⟩⟩)
  | wakeup thread | callWakeup =>
      cases stepped
      exact .inr (.inr ⟨id, Iff.rfl, fun polling => ⟨polling, fun _ => writeEventfd_pos _⟩⟩)
  | callQuit =>
      cases stepped
      exact .inr (.inr ⟨fun _ => rfl, Iff.rfl, fun polling => ⟨polling, id⟩⟩)
  | loopTestWakeup =>
      simp only [step] at stepped
      split at stepped
      · cases stepped
        exact .inr (.inr ⟨id, Iff.rfl, fun polling => ⟨polling, fun _ => writeEventfd_pos _⟩⟩)
      · cases stepped
        exact .inr (.inr ⟨id, Iff.rfl, fun polling => ⟨polling, id⟩⟩)
  | handleRead =>
      cases stepped
      refine .inr (.inr ⟨id, Iff.rfl, fun polling => ?_⟩)
      cases allowed.1.symm.trans polling
  | pollReturns | beginFunctors | swapFunctors | finishFunctors | destroyFunctors =>
      cases stepped
      refine .inr (.inr ⟨id, ?_, fun polling => ?_⟩)
      · simp [allowed.1]
      · cases polling
  | startFunctor =>
      simp only [step] at stepped
      split at stepped
      · cases stepped
        exact .inr (.inr ⟨id, Iff.rfl, fun polling => ⟨polling, id⟩⟩)
      · cases stepped
        exact .inr (.inr ⟨id, Iff.rfl, fun polling => ⟨polling, id⟩⟩)

end EventLoop

/-! ## No quit is lost -/

namespace EventLoopThread

variable {Functor Thread : Type} {state next : EventLoopThread Functor Thread}
  {action : Action Functor Thread}

/-- A quit that was stored is still stored, and the owner joins the thread only after it
has stored one and has written to the eventfd. -/
structure Kept (state : EventLoopThread Functor Thread) : Prop where
  looping : state.thread = .looping ↔ state.eventLoop.phase ≠ .outsideLoop
  stored : state.quitStored = true →
    state.eventLoop.quit = true ∧ state.thread.hasEntered = true
  owner : state.owner = .waking ∨ state.owner = .joining → state.quitStored = true
  awake : state.owner = .joining → state.eventLoop.phase = .polling →
    0 < state.eventLoop.wakeupCounter

theorem create_kept : (create : EventLoopThread Functor Thread).Kept where
  looping := by simp [create, EventLoop.create]
  stored stored := by cases stored
  owner owner := by simp [create] at owner
  awake joining := by cases joining

/-- The owner goes on, before its quit or after the join. -/
theorem Kept.of_owner (kept : state.Kept) (thread : next.thread = state.thread)
    (eventLoop : next.eventLoop = state.eventLoop) (stored : next.quitStored = state.quitStored)
    (quiet : next.owner ≠ .waking ∧ next.owner ≠ .joining) : next.Kept where
  looping := by
    rw [thread, eventLoop]
    exact kept.looping
  stored := by
    rw [thread, eventLoop, stored]
    exact kept.stored
  owner owner := absurd owner (not_or.mpr quiet)
  awake joining := absurd joining quiet.2

/-- The loop thread goes on outside the loop. -/
theorem Kept.of_thread (kept : state.Kept) (phase : ThreadPhase)
    (outside : state.thread ≠ .looping) (notLooping : phase ≠ .looping)
    (entered : state.thread.hasEntered = true → phase.hasEntered = true) :
    { state with thread := phase }.Kept where
  looping := ⟨fun looping => absurd looping notLooping,
    fun inside => absurd (kept.looping.mpr inside) outside⟩
  stored stored := ⟨(kept.stored stored).1, entered (kept.stored stored).2⟩
  owner := kept.owner
  awake := kept.awake

variable [DecidableEq Thread]

theorem quit_of_quits {action : EventLoop.Action Functor Thread}
    {loop after : EventLoop Functor Thread} (isQuit : quits action = true)
    (stepped : loop.step action = .ok after) : after.quit = true := by
  cases action with
  | callQuit =>
      cases stepped
      rfl
  | _ => cases isQuit

theorem loop_kept {action : EventLoop.Action Functor Thread} (kept : state.Kept)
    (allowed : state.Allowed (.loop action)) (late : state.QuitsAfterReset (.loop action))
    (stepped : state.step (.loop action) = .ok next) : next.Kept := by
  rcases allowed with ⟨_, placed, loopAllowed⟩
  rcases Checked.bind_eq_ok_iff.mp stepped with ⟨eventLoop, ran, returned⟩
  cases returned
  rcases EventLoop.step_flag loopAllowed ran with
    ⟨rfl, phase, quit⟩ | ⟨rfl, testing, quit, phase⟩ | ⟨quit, outside, polling⟩
  · -- The flag is reset, and so far nobody has stored it.
    have published : state.thread = .published := placed
    have none : state.quitStored = false := by
      cases isStored : state.quitStored with
      | false => rfl
      | true =>
          have entered := (kept.stored isStored).2
          rw [published] at entered
          cases entered
    refine ⟨?_, ?_, ?_, ?_⟩
    · simp [phase]
    · simp [none, quits]
    · intro owner
      have stored := kept.owner owner
      rw [none] at stored
      cases stored
    · simp [phase]
  · have looping : state.thread = .looping := kept.looping.mpr (by simp [testing])
    refine ⟨?_, ?_, ?_, ?_⟩
    · simp only [phase, looping]
      split <;> simp
    · intro stored
      have stored : state.quitStored = true := by simpa [quits] using stored
      refine ⟨quit.trans (kept.stored stored).1, ?_⟩
      simp only [looping]
      split <;> rfl
    · intro owner
      simp [kept.owner owner]
    · intro joining isPolling
      have stored := kept.owner (.inr joining)
      simp only [phase, (kept.stored stored).1] at isPolling
      cases isPolling
  · have same : (if eventLoop.phase = .outsideLoop then
        if state.thread = .looping then .leaving else state.thread
      else .looping) = state.thread := by
      by_cases isOutside : eventLoop.phase = .outsideLoop
      · have notLooping : state.thread ≠ .looping := fun looping =>
          kept.looping.mp looping (outside.mp isOutside)
        rw [if_pos isOutside, if_neg notLooping]
      · rw [if_neg isOutside]
        exact (kept.looping.mpr (fun before => isOutside (outside.mpr before))).symm
    refine ⟨?_, ?_, ?_, ?_⟩
    · dsimp only
      rw [same, kept.looping, ne_eq, ne_eq, outside]
    · simp only [same, Bool.or_eq_true]
      rintro (stored | isQuit)
      · exact ⟨quit (kept.stored stored).1, (kept.stored stored).2⟩
      · exact ⟨quit_of_quits isQuit ran, late isQuit⟩
    · intro owner
      simp [kept.owner owner]
    · intro joining isPolling
      exact (polling isPolling).2 (kept.awake joining (polling isPolling).1)

theorem step_kept (kept : state.Kept) (allowed : state.Allowed action)
    (late : state.QuitsAfterReset action) (stepped : state.step action = .ok next) :
    next.Kept := by
  cases action with
  | startLoop =>
      rcases Checked.check_bind_eq_ok_iff.mp stepped with ⟨notStarted, returned⟩
      cases returned
      have moved := kept.of_thread .initializing (by simp [notStarted]) (by simp)
        (by simp [notStarted, ThreadPhase.hasEntered])
      exact moved.of_owner rfl rfl rfl (by simp)
  | testPointer | destroy =>
      cases stepped
      refine kept.of_owner rfl rfl rfl ?_
      dsimp only
      split <;> simp
  | wakeOwner | join =>
      cases stepped
      exact kept.of_owner rfl rfl rfl (by simp)
  | loadPointer =>
      simp only [step] at stepped
      split at stepped
      · cases stepped
        exact kept.of_owner rfl rfl rfl (by simp)
      · cases stepped
  | storeQuit =>
      rcases Checked.bind_eq_ok_iff.mp stepped with ⟨_, _, returned⟩
      cases returned
      exact ⟨kept.looping, fun _ => ⟨rfl, late⟩, fun _ => rfl, by simp⟩
  | wakeup =>
      rcases Checked.bind_eq_ok_iff.mp stepped with ⟨_, _, returned⟩
      cases returned
      exact ⟨kept.looping, kept.stored, fun _ => kept.owner (.inl allowed),
        fun _ _ => EventLoop.writeEventfd_pos _⟩
  | publish =>
      cases stepped
      have moved := kept.of_thread .published (by simp [allowed.1]) (by simp)
        (by simp [allowed.1, ThreadPhase.hasEntered])
      refine ⟨moved.looping, moved.stored, ?_, ?_⟩
      · intro owner
        dsimp only at owner
        split at owner
        · simp at owner
        · exact kept.owner owner
      · intro joining
        dsimp only at joining
        split at joining
        · cases joining
        · exact kept.awake joining
  | clearPointer =>
      cases stepped
      have leaving : state.thread = .leaving := allowed
      have moved := kept.of_thread .cleared (by simp [leaving]) (by simp) (fun _ => rfl)
      exact ⟨moved.looping, moved.stored, moved.owner, moved.awake⟩
  | destruct =>
      cases stepped
      have cleared : state.thread = .cleared := allowed
      exact kept.of_thread .ended (by simp [cleared]) (by simp) (fun _ => rfl)
  | loop action => exact loop_kept kept allowed late stepped

theorem reachable_kept (reachable : (machine.restrict QuitsAfterReset).Reachable state) :
    state.Kept := by
  refine reachable.invariant Kept ?_ ?_
  · rintro _ rfl
    exact create_kept
  · intro current action next kept allowed stepped
    exact step_kept kept allowed.1 allowed.2 stepped

/-- When the flag is only stored after `loop()` has reset it, every later test finds it
set, and while the owner waits in `join` the loop neither runs with the flag cleared nor
sleeps. -/
theorem quit_never_lost (reachable : (machine.restrict QuitsAfterReset).Reachable state) :
    (state.quitStored = true → state.eventLoop.phase = .testingQuit →
      state.eventLoop.quit = true) ∧
    ¬(state.owner = .joining ∧ state.thread = .looping ∧ state.eventLoop.quit = false) ∧
    (state.owner = .joining → state.eventLoop.phase = .polling →
      0 < state.eventLoop.wakeupCounter) := by
  have kept := reachable_kept reachable
  refine ⟨fun stored _ => (kept.stored stored).1, ?_, kept.awake⟩
  rintro ⟨joining, _, running⟩
  rw [(kept.stored (kept.owner (.inr joining))).1] at running
  cases running

/-- The owner destroys the thread while the loop sleeps in `poll`. -/
theorem quit_never_lost_polling :
    ∃ state : EventLoopThread Nat Nat, (machine.restrict QuitsAfterReset).Reachable state ∧
      state.owner = .joining ∧ state.eventLoop.phase = .testingQuit ∧
      state.quitStored = true ∧ state.eventLoop.quit = true := by
  let orderly : Machine (EventLoopThread Nat Nat) (Action Nat Nat) :=
    machine.restrict QuitsAfterReset
  rcases orderly.exists_reachable
      (fun state => state.owner = .joining ∧ state.eventLoop.phase = .testingQuit ∧
        state.quitStored = true)
      rfl [.startLoop, .testPointer, .publish, .loop .enterLoop, .loop .testQuit, .testPointer,
        .destroy, .loadPointer, .storeQuit, .wakeup, .loop .pollReturns, .loop .handleRead,
        .loop .beginFunctors, .loop .swapFunctors, .loop .finishFunctors,
        .loop .destroyFunctors] (by decide) with
    ⟨state, reachable, joining, testing, stored⟩
  exact ⟨state, reachable, joining, testing, stored,
    (quit_never_lost reachable).1 stored testing⟩

/-- `startLoop` returns and the destructor calls `quit()` before `loop()` is entered, which
resets the flag: the owner waits in `join` for a loop that sleeps with the flag cleared and
the wakeup already read. -/
theorem quit_lost :
    ∃ state : EventLoopThread Nat Nat, machine.Reachable state ∧ state.owner = .joining ∧
      state.quitStored = true ∧ state.thread = .looping ∧ state.eventLoop.quit = false ∧
      state.eventLoop.phase = .polling ∧ state.eventLoop.wakeupCounter = 0 :=
  machine.exists_reachable _ rfl
    [.startLoop, .publish, .testPointer, .destroy, .loadPointer, .storeQuit, .wakeup,
      .loop .enterLoop, .loop .testQuit, .loop .pollReturns, .loop .handleRead,
      .loop .beginFunctors, .loop .swapFunctors, .loop .finishFunctors, .loop .destroyFunctors,
      .loop .testQuit] (by decide)

end EventLoopThread

end Ccnet.Net
