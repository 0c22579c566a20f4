import Ccnet.Foundation.Machine
import Ccnet.Net.EventLoop.FunctorQueue
import Mathlib.Algebra.Group.Nat.Defs

namespace Ccnet.Net

/-! The event loop of `net/event_loop.cc`, seen by the threads that queue
functors in it. A step is the code of one thread up to the next point at which
another thread can notice a difference, so `queueInLoop` is two steps: the push
under `mutex_`, and the test that decides whether to call `wakeup`. -/

/-- Where the loop thread is. -/
inductive LoopPhase
  /-- Constructed, and `loop()` not entered or already left. -/
  | outsideLoop
  | testingQuit
  | polling
  | handlingEvents
  /-- In `doPendingFunctors`, before its `swap`. -/
  | enteringFunctors
  | runningFunctors
  /-- `callingPendingFunctors_` is cleared and the local vector is destroyed. -/
  | destroyingFunctors
  deriving DecidableEq, Repr

/-- The loop's fields, the eventfd behind `wakeupFd_`, the threads inside
`queueInLoop`, and the history the order of functors is stated about: each
functor ever queued with the batch that was running then, and each functor
started with its batch. -/
structure EventLoop (Functor Thread : Type) where
  looping : Bool
  quit : Bool
  eventHandling : Bool
  callingPendingFunctors : Bool
  queue : FunctorQueue Functor
  wakeupCounter : Nat
  phase : LoopPhase
  loopInQueue : Bool
  waking : List Thread
  batch : Nat
  queued : List (Functor × Option Nat)
  started : List (Functor × Nat)
  deriving DecidableEq, Repr

namespace EventLoop

variable {Functor Thread : Type}

def create : EventLoop Functor Thread where
  looping := false
  quit := false
  eventHandling := false
  callingPendingFunctors := false
  queue := .empty
  wakeupCounter := 0
  phase := .outsideLoop
  loopInQueue := false
  waking := []
  batch := 0
  queued := []
  started := []

/-- A write of one to an eventfd, which fails when the counter is at its limit. -/
def writeEventfd (counter : Nat) : Nat :=
  if counter < 2 ^ 64 - 2 then counter + 1 else counter

def wakeup (loop : EventLoop Functor Thread) : EventLoop Functor Thread :=
  { loop with wakeupCounter := writeEventfd loop.wakeupCounter }

def handleRead (loop : EventLoop Functor Thread) : EventLoop Functor Thread :=
  { loop with wakeupCounter := 0 }

/-- The batch that is running, if any. -/
def runningBatch (loop : EventLoop Functor Thread) : Option Nat :=
  match loop.phase with
  | .runningFunctors | .destroyingFunctors => some loop.batch
  | _ => none

/-- The locked part of `queueInLoop`. -/
def pushFunctor (loop : EventLoop Functor Thread) (functor : Functor) :
    EventLoop Functor Thread :=
  { loop with
    queue := loop.queue.push functor
    queued := loop.queued ++ [(functor, loop.runningBatch)] }

inductive Action (Functor Thread : Type)
  | push (thread : Thread) (functor : Functor)
  | wakeup (thread : Thread)
  | loopPush (functor : Functor)
  | loopTestWakeup
  /-- `wakeup()` is public; `quit()` calls it too. -/
  | callWakeup
  | callQuit
  | enterLoop
  | testQuit
  | pollReturns
  | handleRead
  | beginFunctors
  | swapFunctors
  | startFunctor
  | finishFunctors
  | destroyFunctors

/-- User code runs in the loop thread in these phases. -/
def LoopPhase.runsUserCode : LoopPhase → Bool
  | .outsideLoop | .handlingEvents | .runningFunctors | .destroyingFunctors => true
  | .testingQuit | .polling | .enteringFunctors => false

def Allowed (loop : EventLoop Functor Thread) : Action Functor Thread → Prop
  | .push thread _ => thread ∉ loop.waking
  | .wakeup thread => thread ∈ loop.waking
  | .loopPush _ => LoopPhase.runsUserCode loop.phase = true ∧ loop.loopInQueue = false
  | .loopTestWakeup => loop.loopInQueue = true
  | .callWakeup | .callQuit => True
  | .enterLoop => loop.phase = .outsideLoop ∧ loop.loopInQueue = false
  | .testQuit => loop.phase = .testingQuit ∧ loop.loopInQueue = false
  | .pollReturns => loop.phase = .polling ∧ loop.loopInQueue = false
  | .handleRead | .beginFunctors =>
      loop.phase = .handlingEvents ∧ loop.loopInQueue = false
  | .swapFunctors => loop.phase = .enteringFunctors ∧ loop.loopInQueue = false
  | .startFunctor =>
      loop.phase = .runningFunctors ∧ loop.loopInQueue = false ∧
        loop.queue.functors ≠ []
  | .finishFunctors =>
      loop.phase = .runningFunctors ∧ loop.loopInQueue = false ∧
        loop.queue.functors = []
  | .destroyFunctors => loop.phase = .destroyingFunctors ∧ loop.loopInQueue = false

instance [DecidableEq Functor] [DecidableEq Thread]
    (loop : EventLoop Functor Thread) :
    (action : Action Functor Thread) → Decidable (loop.Allowed action)
  | .push thread _ => inferInstanceAs (Decidable (thread ∉ loop.waking))
  | .wakeup thread => inferInstanceAs (Decidable (thread ∈ loop.waking))
  | .loopPush _ => inferInstanceAs (Decidable (_ ∧ _))
  | .loopTestWakeup => inferInstanceAs (Decidable (_ = _))
  | .callWakeup | .callQuit => inferInstanceAs (Decidable True)
  | .enterLoop | .testQuit | .pollReturns | .handleRead | .beginFunctors
  | .swapFunctors | .destroyFunctors => inferInstanceAs (Decidable (_ ∧ _))
  | .startFunctor => inferInstanceAs (Decidable (_ ∧ _ ∧ _ ≠ _))
  | .finishFunctors => inferInstanceAs (Decidable (_ ∧ _ ∧ _ = _))

section Step

variable [DecidableEq Thread]

def step (loop : EventLoop Functor Thread) :
    Action Functor Thread → Checked (EventLoop Functor Thread)
  | .push thread functor =>
      return { loop.pushFunctor functor with waking := thread :: loop.waking }
  | .wakeup thread =>
      return { loop.wakeup with waking := loop.waking.erase thread }
  | .loopPush functor =>
      return { loop.pushFunctor functor with loopInQueue := true }
  | .loopTestWakeup =>
      -- In the loop thread `!isInLoopThread()` is false, so the flag decides.
      if loop.callingPendingFunctors then
        return { loop.wakeup with loopInQueue := false }
      else
        return { loop with loopInQueue := false }
  | .callWakeup => return loop.wakeup
  | .callQuit => return { loop with quit := true }
  | .enterLoop => do
      check (loop.looping = false)
      return { loop with looping := true, quit := false, phase := .testingQuit }
  | .testQuit =>
      if loop.quit then
        return { loop with looping := false, phase := .outsideLoop }
      else
        return { loop with phase := .polling }
  | .pollReturns =>
      return { loop with eventHandling := true, phase := .handlingEvents }
  | .handleRead => return loop.handleRead
  | .beginFunctors =>
      return { loop with
        eventHandling := false
        callingPendingFunctors := true
        phase := .enteringFunctors }
  | .swapFunctors =>
      return { loop with
        queue := loop.queue.swap
        batch := loop.batch + 1
        phase := .runningFunctors }
  | .startFunctor =>
      match loop.queue.next with
      | some (functor, rest) =>
          return { loop with
            queue := rest
            started := loop.started ++ [(functor, loop.batch)] }
      | none => return loop
  | .finishFunctors =>
      return { loop with
        callingPendingFunctors := false
        phase := .destroyingFunctors }
  | .destroyFunctors => return { loop with phase := .testingQuit }

def machine : Machine (EventLoop Functor Thread) (Action Functor Thread) where
  initial loop := loop = create
  allowed := Allowed
  step := step

instance [DecidableEq Functor] (loop : EventLoop Functor Thread)
    (action : Action Functor Thread) : Decidable (machine.allowed loop action) :=
  inferInstanceAs (Decidable (loop.Allowed action))

end Step

end EventLoop

end Ccnet.Net
