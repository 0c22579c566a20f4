import Ccnet.Net.Connection.Control

/-! # A connection closes once

`handleClose` is reached from a hang-up, from a read of no bytes and from
`forceCloseInLoop`. It is entered once, and in a state in which it may be, as
long as the channel stays out of the epoll set after it, no two callbacks of one
event can both lead to it, and no thread that found the connection open sets its
state after it was closed. -/

namespace Ccnet.Net

/-- The callback may lead to `handleClose`. -/
def Channel.Callback.mayClose : Channel.Callback → Bool
  | .close | .read => true
  | .error | .write => false

/-- Nothing but the error callback precedes one that may close. -/
def Channel.ClosesOnce (callbacks : List Channel.Callback) : Prop :=
  callbacks.Pairwise fun earlier later => later.mayClose = true → earlier = .error

def Frame.mayClose : Frame → Bool
  | .handleClose | .handleRead => true
  | .handleEvent rest => rest.any Channel.Callback.mayClose
  | .connectEstablished | .connectionCallback | .messageCallback | .handleWrite
  | .closeCallback | .connectDestroyed | .destroyConnected | .channelRemove => false

theorem Frame.mayClose_of_runsUserCode {frame : Frame}
    (userCode : frame.runsUserCode = true) : frame.mayClose = false := by
  cases frame <;> first | rfl | cases userCode

theorem Frame.removing_of_finish {frame : Frame} {stack below : List Frame}
    (stackEq : stack = frame :: below) (mayFinish : frame.mayFinish = true)
    (removing : .channelRemove ∈ stack) : .channelRemove ∈ below := by
  rw [stackEq] at removing
  rcases List.mem_cons.mp removing with rfl | removing
  · cases mayFinish
  · exact removing

/-- A hang-up that comes without data comes without urgent data too. -/
def PollEvents.ClosesOnce (reported : PollEvents) : Prop :=
  reported.pollHup = true → reported.pollIn = false →
    reported.pollPri = false ∧ reported.pollRdhup = false

instance (reported : PollEvents) : Decidable reported.ClosesOnce :=
  inferInstanceAs (Decidable (_ → _))

theorem Channel.callbacks_closesOnce {reported : PollEvents}
    (once : reported.ClosesOnce) : Channel.ClosesOnce (Channel.callbacks reported) := by
  rcases reported with ⟨pollIn, pollPri, pollOut, pollErr, pollHup, pollNval, pollRdhup⟩
  simp only [PollEvents.ClosesOnce] at once
  unfold ClosesOnce callbacks
  simp only
  split_ifs <;> simp_all [Callback.mayClose]

/-! ## The call stack -/

/-- At most one frame can lead to `handleClose`: the innermost one, and only
while the connection is open. -/
structure Closing (state : StateE) (stack : List Frame)
    (handleCloses closeCallbacks : Nat) : Prop where
  counted : closeCallbacks + stack.count .closeCallback + stack.count .handleClose =
    handleCloses
  once : handleCloses ≤ 1
  entered : handleCloses = 1 → .handleClose ∈ stack ∨ state = .kDisconnected
  innermost : ∀ frame ∈ stack.tail, frame.mayClose = false
  whileOpen : ∀ frame ∈ stack, frame.mayClose = true →
    state = .kConnected ∨ state = .kDisconnecting
  single : ∀ rest, .handleEvent rest ∈ stack → Channel.ClosesOnce rest

namespace Closing

variable {state : StateE} {frame : Frame} {stack below : List Frame}
  {rest : List Channel.Callback} {handleCloses closeCallbacks : Nat}

theorem pop (closing : Closing state (frame :: below) handleCloses closeCallbacks)
    (notClose : frame ≠ .handleClose) (notCallback : frame ≠ .closeCallback) :
    Closing state below handleCloses closeCallbacks where
  counted := by simpa [notClose, notCallback] using closing.counted
  once := closing.once
  entered once := by simpa [notClose.symm] using closing.entered once
  innermost _ member := closing.innermost _ (List.mem_of_mem_tail member)
  whileOpen _ member := closing.whileOpen _ (List.mem_cons_of_mem _ member)
  single _ member := closing.single _ (List.mem_cons_of_mem _ member)

theorem push (closing : Closing state stack handleCloses closeCallbacks)
    (harmless : ∀ frame ∈ stack, frame.mayClose = false)
    (notClose : frame ≠ .handleClose) (notCallback : frame ≠ .closeCallback)
    (whileOpen : frame.mayClose = true → state = .kConnected ∨ state = .kDisconnecting)
    (single : ∀ rest, frame = .handleEvent rest → Channel.ClosesOnce rest) :
    Closing state (frame :: stack) handleCloses closeCallbacks where
  counted := by simpa [notClose, notCallback] using closing.counted
  once := closing.once
  entered once := by simpa [notClose.symm] using closing.entered once
  innermost := harmless
  whileOpen := by
    rintro other member mayClose
    rcases List.mem_cons.mp member with rfl | member
    · exact whileOpen mayClose
    · exact closing.whileOpen other member mayClose
  single := by
    rintro rest member
    rcases List.mem_cons.mp member with same | member
    · exact single rest same.symm
    · exact closing.single rest member

/-- A frame that neither closes nor handles events. -/
theorem pushQuiet (closing : Closing state stack handleCloses closeCallbacks)
    (harmless : ∀ frame ∈ stack, frame.mayClose = false)
    (quiet : frame.mayClose = false) (notEvent : frame.isHandleEvent = false)
    (notCallback : frame ≠ .closeCallback) :
    Closing state (frame :: stack) handleCloses closeCallbacks := by
  refine closing.push harmless ?_ notCallback (by simp [quiet]) ?_
  · rintro rfl
    cases quiet
  · rintro rest rfl
    cases notEvent

/-- An innermost frame that may close shows that nothing was closed before. -/
theorem none_entered (closing : Closing state stack handleCloses closeCallbacks)
    (harmless : ∀ frame ∈ stack, frame.mayClose = false)
    (isOpen : state = .kConnected ∨ state = .kDisconnecting) : handleCloses = 0 := by
  by_contra positive
  have once := closing.once
  rcases closing.entered (by omega) with member | closed
  · cases harmless _ member
  · simp [closed] at isOpen

theorem enterHandleClose (closing : Closing state stack handleCloses closeCallbacks)
    (harmless : ∀ frame ∈ stack, frame.mayClose = false)
    (isOpen : state = .kConnected ∨ state = .kDisconnecting) :
    Closing state (.handleClose :: stack) (handleCloses + 1) closeCallbacks where
  counted := by
    have counted := closing.counted
    simp
    omega
  once := by simp [closing.none_entered harmless isOpen]
  entered _ := .inl List.mem_cons_self
  innermost := harmless
  whileOpen _ _ _ := isOpen
  single rest member := closing.single rest (by simpa using member)

/-- The connection changes its state while no frame can close it. -/
theorem setState (next : StateE)
    (closing : Closing state stack handleCloses closeCallbacks)
    (harmless : ∀ frame ∈ stack, frame.mayClose = false)
    (stays : state = .kDisconnected → next = .kDisconnected) :
    Closing next stack handleCloses closeCallbacks where
  counted := closing.counted
  once := closing.once
  entered once := (closing.entered once).imp_right stays
  innermost := closing.innermost
  whileOpen frame member mayClose := by simp [harmless frame member] at mayClose
  single := closing.single

theorem disconnecting (closing : Closing state stack handleCloses closeCallbacks)
    (notClosed : state ≠ .kDisconnected) :
    Closing .kDisconnecting stack handleCloses closeCallbacks where
  counted := closing.counted
  once := closing.once
  entered once := (closing.entered once).imp_right fun closed => absurd closed notClosed
  innermost := closing.innermost
  whileOpen _ _ _ := .inr rfl
  single := closing.single

/-- `handleClose` up to its call of `connectionCallback_`. -/
theorem handleClose (closing : Closing state (.handleClose :: below) handleCloses
      closeCallbacks) :
    Closing .kDisconnected (.connectionCallback :: .closeCallback :: below) handleCloses
      closeCallbacks where
  counted := by
    have counted := closing.counted
    simp at counted ⊢
    omega
  once := closing.once
  entered _ := .inr rfl
  innermost frame member := by
    rcases List.mem_cons.mp member with rfl | member
    · rfl
    · exact closing.innermost frame member
  whileOpen frame member mayClose := by
    simp only [List.mem_cons] at member
    rcases member with rfl | rfl | member
    · cases mayClose
    · cases mayClose
    · simp [closing.innermost frame member] at mayClose
  single rest member := closing.single rest (by simpa using member)

theorem closeCallback (closing : Closing state (.closeCallback :: below) handleCloses
      closeCallbacks) :
    Closing state below handleCloses (closeCallbacks + 1) where
  counted := by
    have counted := closing.counted
    simp at counted
    omega
  once := closing.once
  entered once := by simpa using closing.entered once
  innermost _ member := closing.innermost _ (List.mem_of_mem_tail member)
  whileOpen _ member := closing.whileOpen _ (List.mem_cons_of_mem _ member)
  single _ member := closing.single _ (List.mem_cons_of_mem _ member)

/-- `handleEventWithGuard` calls its next callback, and what it still has to call
does not close. -/
theorem nextCallback {callback : Channel.Callback}
    (closing : Closing state (.handleEvent (callback :: rest) :: below) handleCloses
      closeCallbacks) :
    Closing state (.handleEvent rest :: below) handleCloses closeCallbacks ∧
      (callback ≠ .error → ∀ frame ∈ Frame.handleEvent rest :: below,
        frame.mayClose = false) := by
  have single := List.pairwise_cons.mp (closing.single _ List.mem_cons_self)
  constructor
  · refine (closing.pop (by simp) (by simp)).push closing.innermost (by simp) (by simp) ?_ ?_
    · intro mayClose
      refine closing.whileOpen _ List.mem_cons_self ?_
      simp only [Frame.mayClose, List.any_cons] at mayClose ⊢
      simp [mayClose]
    · rintro other same
      cases same
      exact single.2
  · intro notError frame member
    rcases List.mem_cons.mp member with rfl | member
    · simp only [Frame.mayClose, List.any_eq_false]
      exact fun later after mayClose => notError (single.1 later after mayClose)
    · exact closing.innermost frame member

end Closing

namespace Control

/-- No other thread's `setState(kDisconnecting)` comes after the connection was closed,
reading is neither started nor stopped once it is disconnected, `handleClose` finds the
channel with an interest, and no event closes twice. -/
def ClosesCleanly (control : Control) : Label → Prop
  | .setDisconnecting | .startRead | .stopRead => control.state ≠ .kDisconnected
  | .handleClose => control.events ≠ .kNoneEvent
  | .poll reported => reported.ClosesOnce
  | .connectDestroyed | .destroyServer | .other => True

instance (control : Control) :
    (label : Label) → Decidable (control.ClosesCleanly label)
  | .setDisconnecting | .startRead | .stopRead | .handleClose => inferInstanceAs (Decidable (_ ≠ _))
  | .poll reported => inferInstanceAs (Decidable reported.ClosesOnce)
  | .connectDestroyed | .destroyServer | .other => inferInstanceAs (Decidable True)

variable {before after : Control} {label : Label}

def closing (control : Control) : Prop :=
  Closing control.state control.stack control.handleCloses control.closeCallbacks

theorem closing.updated {events : PollEvents} (closing : before.closing)
    (updated : before.Updated after events) : after.closing := by
  rcases updated with ⟨index, inKernel, known, removes, deleted, rfl⟩
  exact closing

theorem closing.harmless {frame : Frame} {below : List Frame} (closing : before.closing)
    (stack : before.stack = frame :: below) (quiet : frame.mayClose = false) :
    ∀ other ∈ before.stack, other.mayClose = false := by
  have innermost := closing.innermost
  rw [stack] at innermost ⊢
  simpa [quiet] using innermost

/-- While the channel's events wait to be handled, nothing of the connection is
under way that could close it. -/
structure Waiting (control : Control) : Prop where
  handling : control.eventHandling = true
  single : Channel.ClosesOnce (Channel.callbacks control.revents)
  harmless : ∀ frame ∈ control.stack,
    frame.mayClose = false ∧ frame.isHandleEvent = false
  whileOpen : control.isOpen ∨ .channelRemove ∈ control.stack

theorem Step.closing (stepped : before.Step label after) (clean : before.ClosesCleanly label)
    (closing : before.closing)
    (waiting : before.activity = .waiting → before.Waiting) : after.closing := by
  have opened := closing
  unfold Control.closing at opened ⊢
  cases stepped with
  | same | beginSetting | pollOthers stack | poll revents stack | endEvents stack => exact closing
  | disconnecting isOpen => exact opened.disconnecting isOpen.notClosed
  | setDisconnecting => exact opened.disconnecting clean
  | enableWriting _ updated | startRead updated | stopRead updated => exact closing.updated updated
  | dispatch stack activity =>
      have pending := waiting activity
      rw [stack] at opened
      refine opened.push (by simp) (by simp) (by simp) (fun _ => ?_) ?_
      · simpa [stack, isOpen] using pending.whileOpen
      · rintro rest same
        cases same
        exact pending.single
  | forceClose stack _ isOpen =>
      rw [stack] at opened
      exact opened.enterHandleClose (by simp) isOpen
  | destroyLater stack =>
      rw [stack] at opened
      exact opened.pushQuiet (by simp) rfl rfl (by simp)
  | destroyServer userCode =>
      refine opened.pushQuiet ?_ rfl rfl (by simp)
      cases stack : before.stack with
      | nil => simp
      | cons frame below =>
          rw [← stack]
          refine closing.harmless stack (Frame.mayClose_of_runsUserCode (userCode frame ?_))
          simp [stack]
  | connectEstablished stack connecting updated =>
      rcases updated with ⟨index, inKernel, known, removes, deleted, rfl⟩
      rw [stack] at opened
      have popped := opened.pop (by simp) (by simp)
      have connected := popped.setState .kConnected opened.innermost (by simp [connecting])
      exact connected.pushQuiet opened.innermost rfl rfl (by simp)
  | finish stack mayFinish =>
      rw [stack] at opened
      refine opened.pop ?_ ?_
      · rintro rfl
        cases mayFinish
      · rintro rfl
        cases mayFinish
  | @nextCallback callback rest below stack =>
      rw [stack] at opened
      have isOpen := opened.whileOpen _ List.mem_cons_self
      rcases opened.nextCallback with ⟨called, harmless⟩
      cases callback with
      | close => exact called.enterHandleClose (harmless (by simp)) (isOpen rfl)
      | error => exact called
      | read =>
          exact called.push (harmless (by simp)) (by simp) (by simp) (fun _ => isOpen rfl)
            (by simp)
      | write => exact called.pushQuiet (harmless (by simp)) rfl rfl (by simp)
  | readNothing stack =>
      rw [stack] at opened
      have isOpen := opened.whileOpen _ List.mem_cons_self rfl
      exact (opened.pop (by simp) (by simp)).enterHandleClose opened.innermost isOpen
  | readData stack | connectDestroyed stack | connectDestroyedLate stack =>
      rw [stack] at opened
      exact (opened.pop (by simp) (by simp)).pushQuiet opened.innermost rfl rfl (by simp)
  | disableWriting stack _ updated =>
      rw [stack] at opened
      have popped := opened.pop (by simp) (by simp)
      refine Control.closing.updated ?_ updated
      exact popped
  | handleClose stack _ disconnected =>
      rcases disconnected with ⟨_, ⟨index, inKernel, known, removes, deleted, rfl⟩, rfl⟩
      rw [stack] at opened
      exact opened.handleClose
  | closeCallback stack =>
      rw [stack] at opened
      exact opened.closeCallback
  | destroyConnected stack disconnected =>
      rcases disconnected with ⟨_, ⟨index, inKernel, known, removes, deleted, rfl⟩, rfl⟩
      rw [stack] at opened
      have popped := opened.pop (by simp) (by simp)
      have closed := popped.setState .kDisconnected opened.innermost (by simp)
      refine Closing.pushQuiet ?_ ?_ rfl rfl (by simp)
      · exact closed.pushQuiet opened.innermost rfl rfl (by simp)
      · simpa [Frame.mayClose] using opened.innermost
  | channelRemove stack =>
      rw [stack] at opened
      exact opened.pop (by simp) (by simp)

/-! ## The epoll set -/

/-- A closed connection's channel is in the epoll set only while it is being
destroyed. -/
def Unwatched (control : Control) : Prop :=
  control.state = .kDisconnected → control.removed = false →
    control.inKernel = false ∨ .channelRemove ∈ control.stack

theorem Unwatched.of_ne (notClosed : before.state ≠ .kDisconnected) : before.Unwatched :=
  fun closed => absurd closed notClosed

/-- The stack loses only frames that do not remove the channel. -/
theorem Unwatched.restack (unwatched : before.Unwatched)
    (removing : .channelRemove ∈ before.stack → .channelRemove ∈ after.stack)
    (same : after.registration = before.registration) : after.Unwatched := by
  simp only [registration, Prod.mk.injEq] at same
  rcases same with ⟨state, _, removed, _, _, inKernel, _⟩
  unfold Unwatched
  rw [state, removed, inKernel]
  exact fun closed running => (unwatched closed running).imp_right removing

theorem Unwatched.updated {events : PollEvents} (notClosed : before.state ≠ .kDisconnected)
    (updated : before.Updated after events) : after.Unwatched := by
  rcases updated with ⟨index, inKernel, known, removes, deleted, rfl⟩
  exact .of_ne notClosed

/-- A channel with an interest is taken out of the epoll set. -/
theorem Unwatched.handleClose {below : List Frame} (registered : before.Registered)
    (running : before.removed = false) (isOpen : before.isOpen)
    (interested : before.events ≠ .kNoneEvent)
    (disconnected : before.Disconnected after below) : after.Unwatched := by
  rcases disconnected with ⟨_, ⟨index, inKernel, known, removes, deleted, rfl⟩, rfl⟩
  have added : before.index = .kAdded := by
    cases found : before.index with
    | kNew => exact absurd found (registered.known isOpen.established running).1
    | kAdded => rfl
    | kDeleted => exact absurd (registered.deleted found).1 interested
  exact fun _ _ => .inl (deleted (removes added rfl)).2

theorem Step.unwatched (stepped : before.Step label after)
    (clean : before.ClosesCleanly label) (registered : before.Registered)
    (running : before.removed = false) (quiet : before.Quiet)
    (unwatched : before.Unwatched) : after.Unwatched := by
  cases stepped with
  | same | beginSetting | pollOthers | poll | endEvents => exact unwatched
  | disconnecting | setDisconnecting => exact .of_ne (by simp)
  | enableWriting notClosed updated => exact .updated notClosed updated
  | startRead updated | stopRead updated => exact .updated clean updated
  | dispatch stack | forceClose stack | destroyLater stack | readNothing stack | readData stack
  | closeCallback stack => exact unwatched.restack (by simp [stack]) rfl
  | destroyServer => exact unwatched.restack (List.mem_cons_of_mem _) rfl
  | connectEstablished _ _ updated =>
      rcases updated with ⟨index, inKernel, known, removes, deleted, rfl⟩
      exact .of_ne (by simp)
  | finish stack mayFinish =>
      exact unwatched.restack (Frame.removing_of_finish stack mayFinish) rfl
  | @nextCallback callback _ _ stack =>
      refine unwatched.restack ?_ (called_registration _ _ _)
      rw [stack]
      cases callback <;> simp [called]
  | disableWriting _ writing updated =>
      refine .updated (fun closed => ?_) updated
      simp [quiet closed, PollEvents.kNoneEvent] at writing
  | handleClose _ isOpen disconnected =>
      exact .handleClose registered running isOpen clean disconnected
  | connectDestroyed stack | connectDestroyedLate stack =>
      exact unwatched.restack (by simp [stack]) rfl
  | destroyConnected _ disconnected =>
      rcases disconnected with ⟨_, ⟨index, inKernel, known, removes, deleted, rfl⟩, rfl⟩
      exact fun _ _ => .inr (by simp)
  | channelRemove =>
      intro _ running
      cases running

/-! ## Events that wait -/

theorem Waiting.head {frame : Frame} {below : List Frame} (waiting : before.Waiting)
    (stack : before.stack = frame :: below) :
    frame.mayClose = false ∧ frame.isHandleEvent = false :=
  waiting.harmless frame (by simp [stack])

/-- The stack gains only frames that cannot close, and loses none that removes
the channel. -/
theorem Waiting.restack (waiting : before.Waiting)
    (harmless : ∀ frame ∈ after.stack, frame ∈ before.stack ∨
      frame.mayClose = false ∧ frame.isHandleEvent = false)
    (isOpen : before.isOpen → after.isOpen ∨ .channelRemove ∈ after.stack)
    (removing : .channelRemove ∈ before.stack → .channelRemove ∈ after.stack)
    (revents : after.revents = before.revents)
    (handling : after.eventHandling = before.eventHandling) : after.Waiting where
  handling := handling ▸ waiting.handling
  single := revents ▸ waiting.single
  harmless frame member := (harmless frame member).elim (waiting.harmless frame) id
  whileOpen := waiting.whileOpen.elim isOpen fun member => .inr (removing member)

theorem Waiting.updated {events : PollEvents} (waiting : before.Waiting)
    (updated : before.Updated after events) : after.Waiting := by
  rcases updated with ⟨index, inKernel, known, removes, deleted, rfl⟩
  exact waiting.restack (fun _ => .inl) .inl id rfl rfl

theorem Updated.activity {events : PollEvents} (updated : before.Updated after events) :
    after.activity = before.activity := by
  rcases updated with ⟨index, inKernel, known, removes, deleted, rfl⟩
  rfl

theorem Unwatched.open_of_inKernel (unwatched : before.Unwatched) (registered : before.Registered)
    (running : before.removed = false) (stack : before.stack = [])
    (inKernel : before.inKernel = true) : before.isOpen := by
  refine isOpen_of_ne (registered.notConnecting (by simp [stack])) fun closed => ?_
  simpa [stack, inKernel] using unwatched closed running

theorem Step.waiting (stepped : before.Step label after)
    (clean : before.ClosesCleanly label) (registered : before.Registered)
    (running : before.removed = false) (unwatched : before.Unwatched)
    (waiting : before.activity = .waiting → before.Waiting)
    (activity : after.activity = .waiting) : after.Waiting := by
  cases stepped with
  | same => exact waiting activity
  | beginSetting => exact (waiting activity).restack (fun _ => .inl) .inl id rfl rfl
  | disconnecting | setDisconnecting =>
      exact (waiting activity).restack (fun _ => .inl) (fun _ => .inl (.inr rfl)) id rfl rfl
  | enableWriting _ updated | startRead updated | stopRead updated =>
      exact (waiting (updated.activity ▸ activity)).updated updated
  | pollOthers | dispatch => cases activity
  | poll revents stack _ inKernel =>
      exact {
        handling := rfl
        single := Channel.callbacks_closesOnce clean
        harmless := by simp [stack]
        whileOpen := .inl (unwatched.open_of_inKernel registered running stack inKernel) }
  | endEvents _ notWaiting => exact absurd activity notWaiting
  | forceClose _ idle | destroyLater _ idle =>
      exact absurd (waiting activity).handling (by simp [idle])
  | destroyServer =>
      refine (waiting activity).restack ?_ .inl (List.mem_cons_of_mem _) rfl rfl
      exact List.forall_mem_cons.mpr ⟨.inr ⟨rfl, rfl⟩, fun _ => .inl⟩
  | connectEstablished stack _ updated =>
      have pending := waiting (updated.activity ▸ activity)
      rcases updated with ⟨index, inKernel, known, removes, deleted, rfl⟩
      refine pending.restack ?_ (fun _ => .inl (.inl rfl)) (by simp [stack]) rfl rfl
      exact List.forall_mem_cons.mpr ⟨.inr ⟨rfl, rfl⟩, by simp +contextual [stack]⟩
  | finish stack mayFinish =>
      exact (waiting activity).restack (by simp +contextual [stack]) .inl
        (Frame.removing_of_finish stack mayFinish) rfl rfl
  | @nextCallback callback _ _ stack =>
      have pending : before.activity = .waiting := by cases callback <;> exact activity
      cases ((waiting pending).head stack).2
  | readNothing stack | readData stack => cases ((waiting activity).head stack).1
  | disableWriting stack _ updated =>
      refine Waiting.updated ?_ updated
      exact (waiting (updated.activity ▸ activity)).restack
        (by simp +contextual [stack]) .inl (by simp [stack]) rfl rfl
  | handleClose stack _ disconnected =>
      rcases disconnected with ⟨_, updated, rfl⟩
      cases ((waiting (updated.activity ▸ activity)).head stack).1
  | closeCallback stack =>
      exact (waiting activity).restack (by simp +contextual [stack]) .inl (by simp [stack]) rfl rfl
  | destroyConnected stack disconnected =>
      rcases disconnected with ⟨_, updated, rfl⟩
      have pending := waiting (updated.activity ▸ activity)
      rcases updated with ⟨index, inKernel, known, removes, deleted, rfl⟩
      refine pending.restack ?_ (fun _ => .inr (by simp)) (by simp) rfl rfl
      refine List.forall_mem_cons.mpr ⟨.inr ⟨rfl, rfl⟩, List.forall_mem_cons.mpr ?_⟩
      exact ⟨.inr ⟨rfl, rfl⟩, by simp +contextual [stack]⟩
  | connectDestroyed stack | connectDestroyedLate stack =>
      refine (waiting activity).restack ?_ .inl (by simp [stack]) rfl rfl
      exact List.forall_mem_cons.mpr ⟨.inr ⟨rfl, rfl⟩, by simp +contextual [stack]⟩
  | channelRemove stack permitted =>
      have pending := waiting activity
      -- The loop refuses to remove a channel that still waits.
      rcases permitted pending.handling with current | absent
      · rcases List.any_eq_true.mp current with ⟨frame, member, handlesEvent⟩
        simp [(pending.harmless frame (by simp [stack, member])).2] at handlesEvent
      · exact absurd (activity.symm.trans absent) (by simp)

/-! ## Runs -/

structure Closes (control : Control) : Prop where
  registered : control.Registered
  quiet : control.Quiet
  unwatched : control.Unwatched
  closing : control.closing
  waiting : control.activity = .waiting → control.Waiting

theorem Step.closes (stepped : before.Step label after)
    (clean : before.ClosesCleanly label) (running : before.removed = false)
    (closes : before.Closes) : after.Closes where
  registered := stepped.registered closes.registered
  quiet := by
    refine stepped.quiet ?_ closes.quiet
    rintro rfl
    exact clean
  unwatched :=
    stepped.unwatched clean closes.registered running closes.quiet closes.unwatched
  closing := stepped.closing clean closes.closing closes.waiting
  waiting :=
    stepped.waiting clean closes.registered running closes.unwatched closes.waiting

end Control

namespace ConnectionSystem

def ClosesCleanly (system : ConnectionSystem) (action : Action) : Prop :=
  system.control.ClosesCleanly (system.label action)

instance (system : ConnectionSystem) (action : Action) :
    Decidable (system.ClosesCleanly action) :=
  inferInstanceAs (Decidable (system.control.ClosesCleanly _))

theorem Initial.closes {system : ConnectionSystem} (initial : system.Initial) :
    system.control.Closes := by
  rw [initial.control]
  exact {
    registered := ⟨by simp, by simp, by simp, by simp⟩
    quiet := by simp [Control.Quiet]
    unwatched := .of_ne (by simp)
    closing := ⟨by simp, by simp, by simp, by simp, by simp [Frame.mayClose], by simp⟩
    waiting := by simp }

theorem closes_of_reachable {system : ConnectionSystem}
    (reachable : (machine.restrict ClosesCleanly).Reachable system) :
    system.control.Closes := by
  refine reachable.invariant (fun system => system.control.Closes)
    (fun _ => Initial.closes) ?_
  rintro before action after closes ⟨allowed, clean⟩ stepped
  exact (step_control allowed stepped).closes clean allowed.1 closes

/-- In every run that closes cleanly `handleClose` is entered and the close
callback called at most once, and the assertion of `handleClose` holds. -/
theorem handleClose_once {system : ConnectionSystem}
    (reachable : (machine.restrict ClosesCleanly).Reachable system) :
    system.history.handleCloses ≤ 1 ∧ system.history.closeCallbacks ≤ 1 ∧
      (system.stack.head? = some .handleClose → system.isOpen) := by
  have closing := (closes_of_reachable reachable).closing
  have once : system.history.handleCloses ≤ 1 := closing.once
  have counted : system.history.closeCallbacks + _ + _ = system.history.handleCloses :=
    closing.counted
  refine ⟨once, by omega, fun head => ?_⟩
  exact closing.whileOpen _ (List.mem_of_mem_head? head) rfl

/-- The peer hangs up, and a forced close that was queued before finds the
connection closed. -/
theorem handleClose_once_forced :
    ∃ system, (machine.restrict ClosesCleanly).Reachable system ∧
      (system.functors.functors = [] ∧ system.connection.state = .kDisconnected ∧
        system.history.closeCallbacks = 1) ∧
      system.history.handleCloses ≤ 1 ∧ system.history.closeCallbacks ≤ 1 ∧
      (system.stack.head? = some .handleClose → system.isOpen) := by
  have run := Machine.exists_reachable (machine.restrict ClosesCleanly)
    (fun system => system.functors.functors = [] ∧
      system.connection.state = .kDisconnected ∧ system.history.closeCallbacks = 1)
    lone_initial
    [.connectEstablished, .returnCallback,
      .poll (some { PollEvents.kNoneEvent with pollHup := true }), .dispatch,
      .call (some 9) .forceClose (.wrote 0), .setDisconnecting 9, .push 9, .nextCallback,
      .handleClose,
      .returnCallback, .closeCallback, .finishEvent, .endEvents, .swapFunctors,
      .runFunctor (.wrote 0)]
    (by decide +kernel)
  rcases run with ⟨system, reachable, reached⟩
  exact ⟨system, reachable, reached, handleClose_once reachable⟩

/-- After the close `stopRead` puts the channel back into the epoll set, where
the hang-up is reported again. Or a thread that has found the connection open in
`forceClose()` sets `kDisconnecting` after the close, and the functor it queues closes
again. -/
theorem handleClose_twice :
    (∃ system, machine.Reachable system ∧ system.history.handleCloses = 2 ∧
      system.stack.head? = some .handleClose ∧ ¬system.isOpen) ∧
    ∃ system, machine.Reachable system ∧ system.history.handleCloses = 2 ∧
      system.history.closeCallbacks = 2 ∧
      system.history.connectionCallbacks = [true, false, false] := by
  constructor
  · exact Machine.exists_reachable machine _ lone_initial
      [.connectEstablished, .returnCallback,
        .poll (some { PollEvents.kNoneEvent with pollHup := true }), .dispatch,
        .nextCallback, .handleClose, .returnCallback, .closeCallback, .finishEvent,
        .call none .stopRead (.wrote 0), .endEvents,
        .poll (some { PollEvents.kNoneEvent with pollHup := true }), .dispatch,
        .nextCallback]
      (by decide +kernel)
  · exact Machine.exists_reachable machine _ lone_initial
      [.connectEstablished, .returnCallback,
        .poll (some { PollEvents.kNoneEvent with pollHup := true }), .dispatch,
        .call (some 9) .forceClose (.wrote 0), .nextCallback, .handleClose, .returnCallback,
        .closeCallback, .finishEvent, .endEvents, .setDisconnecting 9, .push 9, .swapFunctors,
        .runFunctor (.wrote 0), .handleClose, .returnCallback, .closeCallback]
      (by decide +kernel)

end ConnectionSystem

end Ccnet.Net
