import Ccnet.Foundation.Fault
import Mathlib.Logic.Function.Basic

namespace Ccnet.Net

/-! Channels and the epoll poller that watches them, from `net/channel.cc` and
`net/epoller.cc`. -/

/-- A set of `poll` flags. -/
structure PollEvents where
  pollIn : Bool
  pollPri : Bool
  pollOut : Bool
  pollErr : Bool
  pollHup : Bool
  pollNval : Bool
  pollRdhup : Bool
  deriving DecidableEq, Repr

namespace PollEvents

def kNoneEvent : PollEvents := ⟨false, false, false, false, false, false, false⟩

def kReadEvent : PollEvents := { kNoneEvent with pollIn := true, pollPri := true }

def kWriteEvent : PollEvents := { kNoneEvent with pollOut := true }

def union (left right : PollEvents) : PollEvents where
  pollIn := left.pollIn || right.pollIn
  pollPri := left.pollPri || right.pollPri
  pollOut := left.pollOut || right.pollOut
  pollErr := left.pollErr || right.pollErr
  pollHup := left.pollHup || right.pollHup
  pollNval := left.pollNval || right.pollNval
  pollRdhup := left.pollRdhup || right.pollRdhup

def without (left right : PollEvents) : PollEvents where
  pollIn := left.pollIn && !right.pollIn
  pollPri := left.pollPri && !right.pollPri
  pollOut := left.pollOut && !right.pollOut
  pollErr := left.pollErr && !right.pollErr
  pollHup := left.pollHup && !right.pollHup
  pollNval := left.pollNval && !right.pollNval
  pollRdhup := left.pollRdhup && !right.pollRdhup

/-- What epoll may report for a registered interest: `POLLERR` and `POLLHUP`
come unasked. -/
def ReportableFor (reported interest : PollEvents) : Prop :=
  reported.pollIn ≤ interest.pollIn ∧ reported.pollPri ≤ interest.pollPri ∧
    reported.pollOut ≤ interest.pollOut ∧ reported.pollNval = false ∧
    reported.pollRdhup ≤ interest.pollRdhup

instance (reported interest : PollEvents) :
    Decidable (reported.ReportableFor interest) :=
  inferInstanceAs (Decidable (_ ∧ _))

end PollEvents

inductive ChannelIndex
  | kNew
  | kAdded
  | kDeleted
  deriving DecidableEq, Repr

/-- A channel, with the address by which the poller knows it. -/
structure Channel where
  address : Nat
  fd : Nat
  events : PollEvents
  revents : PollEvents
  index : ChannelIndex
  addedToLoop : Bool
  eventHandling : Bool
  deriving DecidableEq, Repr

/-- `channels_`, and the kernel's side of the epoll descriptor: for each
descriptor in the set its interest and its user data. `refused` counts the calls
of `epoll_ctl` that failed. -/
structure EPollPoller where
  channels : Nat → Option Nat
  kernel : Nat → Option (PollEvents × Nat)
  refused : Nat

inductive EpollOperation
  | add
  | mod
  | del
  deriving DecidableEq, Repr

namespace Channel

def create (address fd : Nat) : Channel where
  address := address
  fd := fd
  events := .kNoneEvent
  revents := .kNoneEvent
  index := .kNew
  addedToLoop := false
  eventHandling := false

def isNoneEvent (channel : Channel) : Bool := channel.events = .kNoneEvent

def isWriting (channel : Channel) : Bool := channel.events.pollOut

def isReading (channel : Channel) : Bool :=
  channel.events.pollIn || channel.events.pollPri

end Channel

namespace EPollPoller

/-- `epoll_ctl` adds only what is absent and changes or deletes only what is
present; `update` ignores its failure. -/
def update (poller : EPollPoller) (operation : EpollOperation) (channel : Channel) :
    EPollPoller :=
  match operation, poller.kernel channel.fd with
  | .add, none | .mod, some _ =>
      { poller with kernel :=
          Function.update poller.kernel channel.fd (some (channel.events, channel.address)) }
  | .del, some _ =>
      { poller with kernel := Function.update poller.kernel channel.fd none }
  | .add, some _ | .mod, none | .del, none =>
      { poller with refused := poller.refused + 1 }

def updateChannel (poller : EPollPoller) (channel : Channel) :
    Checked (Channel × EPollPoller) :=
  match channel.index with
  | .kNew => do
      check (poller.channels channel.fd = none)
      let recorded : EPollPoller := { poller with
        channels := Function.update poller.channels channel.fd (some channel.address) }
      let added : Channel := { channel with index := .kAdded }
      return (added, recorded.update .add added)
  | .kDeleted => do
      check (poller.channels channel.fd ≠ none)
      check (poller.channels channel.fd = some channel.address)
      let added : Channel := { channel with index := .kAdded }
      return (added, poller.update .add added)
  | .kAdded => do
      check (poller.channels channel.fd ≠ none)
      check (poller.channels channel.fd = some channel.address)
      if channel.isNoneEvent then
        return ({ channel with index := .kDeleted }, poller.update .del channel)
      else
        return (channel, poller.update .mod channel)

def removeChannel (poller : EPollPoller) (channel : Channel) :
    Checked (Channel × EPollPoller) := do
  check (poller.channels channel.fd ≠ none)
  check (poller.channels channel.fd = some channel.address)
  check (channel.isNoneEvent = true)
  check (channel.index = .kAdded ∨ channel.index = .kDeleted)
  let erased : EPollPoller :=
    { poller with channels := Function.update poller.channels channel.fd none }
  if channel.index = .kAdded then
    return ({ channel with index := .kNew }, erased.update .del channel)
  else
    return ({ channel with index := .kNew }, erased)

end EPollPoller

namespace Channel

/-- `Channel::update`, through `EventLoop::updateChannel`. -/
def update (channel : Channel) (poller : EPollPoller) :
    Checked (Channel × EPollPoller) :=
  poller.updateChannel { channel with addedToLoop := true }

def enableReading (channel : Channel) (poller : EPollPoller) :
    Checked (Channel × EPollPoller) :=
  { channel with events := channel.events.union .kReadEvent }.update poller

def disableReading (channel : Channel) (poller : EPollPoller) :
    Checked (Channel × EPollPoller) :=
  { channel with events := channel.events.without .kReadEvent }.update poller

def enableWriting (channel : Channel) (poller : EPollPoller) :
    Checked (Channel × EPollPoller) :=
  { channel with events := channel.events.union .kWriteEvent }.update poller

def disableWriting (channel : Channel) (poller : EPollPoller) :
    Checked (Channel × EPollPoller) :=
  { channel with events := channel.events.without .kWriteEvent }.update poller

def disableAll (channel : Channel) (poller : EPollPoller) :
    Checked (Channel × EPollPoller) :=
  { channel with events := .kNoneEvent }.update poller

/-- The callbacks a channel dispatches to. -/
inductive Callback
  | close
  | error
  | read
  | write
  deriving DecidableEq, Repr

/-- The callbacks `handleEventWithGuard` calls, in its order. -/
def callbacks (revents : PollEvents) : List Callback :=
  (if revents.pollHup && !revents.pollIn then [.close] else []) ++
  (if revents.pollErr || revents.pollNval then [.error] else []) ++
  (if revents.pollIn || revents.pollPri || revents.pollRdhup then [.read] else []) ++
  (if revents.pollOut then [.write] else [])

end Channel

/-! ## What an update leaves alone -/

/-- The effect of a successful update: the channel keeps its identity and its
new interest, and the poller knows it. -/
structure Channel.Updated (before after : Channel) (poller : EPollPoller) : Prop where
  address : after.address = before.address
  fd : after.fd = before.fd
  events : after.events = before.events
  revents : after.revents = before.revents
  index : after.index = .kAdded ∨ after.index = .kDeleted
  deleted : before.index = .kAdded → before.events = .kNoneEvent →
    after.index = .kDeleted
  channels : poller.channels before.fd = some before.address
  kernel : after.index = .kDeleted →
    before.events = .kNoneEvent ∧ poller.kernel before.fd = none

namespace EPollPoller

@[simp] theorem update_channels (poller : EPollPoller) (operation : EpollOperation)
    (channel : Channel) : (poller.update operation channel).channels = poller.channels := by
  unfold update
  split <;> rfl

/-- Deleting leaves the descriptor out of the kernel's set, whether or not it
was in it. -/
theorem update_del_kernel (poller : EPollPoller) (channel : Channel) :
    (poller.update .del channel).kernel channel.fd = none := by
  unfold update
  cases present : poller.kernel channel.fd with
  | none => simpa using present
  | some registered => simp

/-- A channel without interest that the poller knows can be removed. -/
theorem removeChannel_of {poller : EPollPoller} {channel : Channel}
    (recorded : poller.channels channel.fd = some channel.address)
    (noInterest : channel.isNoneEvent = true)
    (known : channel.index = .kAdded ∨ channel.index = .kDeleted)
    (deleted : channel.index = .kDeleted → poller.kernel channel.fd = none) :
    ∃ after, poller.removeChannel channel = .ok ({ channel with index := .kNew }, after) ∧
      after.channels channel.fd = none ∧ after.kernel channel.fd = none := by
  unfold removeChannel
  rw [Checked.check_bind_of (by simp [recorded]), Checked.check_bind_of recorded,
    Checked.check_bind_of noInterest, Checked.check_bind_of known]
  split
  · exact ⟨_, rfl, by simp, update_del_kernel _ _⟩
  · rename_i notAdded
    exact ⟨_, rfl, by simp, deleted (known.resolve_left notAdded)⟩

theorem removeChannel_channel {poller after : EPollPoller} {channel next : Channel}
    (removed : poller.removeChannel channel = .ok (next, after)) :
    next = { channel with index := .kNew } := by
  simp only [removeChannel, Checked.check_bind_eq_ok_iff] at removed
  rcases removed with ⟨_, _, _, _, result⟩
  split at result
  · cases result
    rfl
  · cases result
    rfl

end EPollPoller

namespace Channel

variable {channel next : Channel} {poller after : EPollPoller}

theorem update_updated (updated : channel.update poller = .ok (next, after)) :
    channel.Updated next after := by
  unfold update EPollPoller.updateChannel at updated
  simp only at updated
  cases index : channel.index with
  | kNew =>
      rw [index] at updated
      simp only [Checked.check_bind_eq_ok_iff] at updated
      cases updated.2
      exact ⟨rfl, rfl, rfl, rfl, .inl rfl, by simp [index], by simp, by simp⟩
  | kDeleted =>
      rw [index] at updated
      simp only [Checked.check_bind_eq_ok_iff] at updated
      rcases updated with ⟨_, recorded, result⟩
      cases result
      exact ⟨rfl, rfl, rfl, rfl, .inl rfl, by simp [index], by simpa using recorded,
        by simp⟩
  | kAdded =>
      rw [index] at updated
      simp only [Checked.check_bind_eq_ok_iff] at updated
      rcases updated with ⟨_, recorded, result⟩
      split at result
      · rename_i noInterest
        cases result
        exact ⟨rfl, rfl, rfl, rfl, .inr rfl, fun _ _ => rfl, by simpa using recorded,
          fun _ => ⟨by simpa [isNoneEvent] using noInterest,
            EPollPoller.update_del_kernel _ _⟩⟩
      · rename_i interested
        cases result
        exact ⟨rfl, rfl, rfl, rfl, .inl rfl,
          fun _ none => absurd (by simpa [isNoneEvent] using none) interested,
          by simpa using recorded, by simp⟩

/-- A channel that the poller knows can be updated. -/
theorem update_of (recorded : poller.channels channel.fd = some channel.address)
    (known : channel.index ≠ .kNew) :
    ∃ result, channel.update poller = .ok result := by
  unfold update EPollPoller.updateChannel
  simp only
  cases index : channel.index with
  | kNew => exact absurd index known
  | kDeleted =>
      simp only
      rw [Checked.check_bind_of (by simp [recorded]), Checked.check_bind_of recorded]
      exact ⟨_, rfl⟩
  | kAdded =>
      simp only
      rw [Checked.check_bind_of (by simp [recorded]), Checked.check_bind_of recorded]
      split <;> exact ⟨_, rfl⟩

end Channel

end Ccnet.Net
