import Ccnet.Foundation.Machine
import Ccnet.Net.Poller

/-! # The registration of channels

Whether a descriptor is watched is recorded three times: in the index of its
channel, in `channels_` and in the kernel's set. -/

namespace Ccnet.Net

namespace Channel

/-- `Channel::remove`, through `EventLoop::removeChannel` outside event handling. -/
def remove (channel : Channel) (poller : EPollPoller) : Checked (Channel × EPollPoller) := do
  check (channel.isNoneEvent = true)
  poller.removeChannel { channel with addedToLoop := false }

inductive Operation
  | enableReading
  | disableReading
  | enableWriting
  | disableWriting
  | disableAll
  | remove
  deriving DecidableEq, Repr

namespace Operation

def perform (operation : Operation) : Channel → EPollPoller → Checked (Channel × EPollPoller) :=
  match operation with
  | .enableReading => Channel.enableReading
  | .disableReading => Channel.disableReading
  | .enableWriting => Channel.enableWriting
  | .disableWriting => Channel.disableWriting
  | .disableAll => Channel.disableAll
  | .remove => Channel.remove

/-- The interest that an operation leaves. -/
def interest (operation : Operation) (events : PollEvents) : PollEvents :=
  match operation with
  | .enableReading => events.union .kReadEvent
  | .disableReading => events.without .kReadEvent
  | .enableWriting => events.union .kWriteEvent
  | .disableWriting => events.without .kWriteEvent
  | .disableAll => .kNoneEvent
  | .remove => events

/-- Every operation but `remove` sets the interest and updates. -/
theorem perform_eq {operation : Operation} {channel : Channel} {poller : EPollPoller} :
    operation ≠ .remove → operation.perform channel poller =
      ({ channel with events := operation.interest channel.events } : Channel).update poller := by
  cases operation <;> simp [perform, interest] <;> rfl

end Operation

end Channel

/-! ## One call -/

namespace EPollPoller

variable {poller : EPollPoller} {channel : Channel}

theorem update_add (absent : poller.kernel channel.fd = none) :
    poller.update .add channel = { poller with
      kernel := Function.update poller.kernel channel.fd
        (some (channel.events, channel.address)) } := by
  simp only [update, absent]

theorem update_mod (present : poller.kernel channel.fd ≠ none) :
    poller.update .mod channel = { poller with
      kernel := Function.update poller.kernel channel.fd
        (some (channel.events, channel.address)) } := by
  rcases Option.ne_none_iff_exists'.mp present with ⟨registered, registration⟩
  simp only [update, registration]

theorem update_del (present : poller.kernel channel.fd ≠ none) :
    poller.update .del channel =
      { poller with kernel := Function.update poller.kernel channel.fd none } := by
  rcases Option.ne_none_iff_exists'.mp present with ⟨registered, registration⟩
  simp only [update, registration]

end EPollPoller

namespace Channel

/-- The poller's records of a channel fit its index; its interest may just have
been changed. -/
structure Known (channel : Channel) (poller : EPollPoller) : Prop where
  new : channel.index = .kNew → poller.channels channel.fd = none
  recorded : channel.index ≠ .kNew → poller.channels channel.fd = some channel.address
  kernel_iff : poller.kernel channel.fd ≠ none ↔ channel.index = .kAdded

/-- An update deletes an added channel without interest, and adds or keeps every
other one. -/
def nextIndex (channel : Channel) : ChannelIndex :=
  if channel.index = .kAdded ∧ channel.isNoneEvent = true then .kDeleted else .kAdded

/-- What the kernel holds for a channel with this index. -/
def registration (channel : Channel) (index : ChannelIndex) : Option (PollEvents × Nat) :=
  if index = .kAdded then some (channel.events, channel.address) else none

/-- After an update the kernel holds the channel's interest, an empty one too
unless the channel had been added. -/
theorem registration_nextIndex (channel : Channel) :
    channel.registration channel.nextIndex =
      if channel.index = .kAdded ∧ channel.isNoneEvent = true then none
      else some (channel.events, channel.address) := by
  unfold registration nextIndex
  split <;> rfl

variable {channel : Channel} {poller : EPollPoller}

theorem update_eq (known : channel.Known poller) :
    channel.update poller = .ok
      ({ channel with addedToLoop := true, index := channel.nextIndex },
        { poller with
          channels := Function.update poller.channels channel.fd (some channel.address)
          kernel := Function.update poller.kernel channel.fd
            (channel.registration channel.nextIndex) }) := by
  have absent : channel.index ≠ .kAdded → poller.kernel channel.fd = none := by
    intro different
    by_contra present
    exact different (known.kernel_iff.mp present)
  have unchanged : channel.index ≠ .kNew →
      Function.update poller.channels channel.fd (some channel.address) = poller.channels := by
    intro old
    rw [← known.recorded old, Function.update_eq_self]
  unfold update EPollPoller.updateChannel nextIndex
  cases index : channel.index with
  | kNew =>
      have kernel := absent (by rw [index]; decide)
      simp only [reduceCtorEq, false_and, if_false]
      rw [Checked.check_bind_of (known.new index), EPollPoller.update_add (by exact kernel)]
      rfl
  | kDeleted =>
      have kernel := absent (by rw [index]; decide)
      have recorded := known.recorded (by rw [index]; decide)
      simp only [reduceCtorEq, false_and, if_false]
      rw [Checked.check_bind_of (by simp [recorded]), Checked.check_bind_of recorded,
        EPollPoller.update_add (by exact kernel), unchanged (by rw [index]; decide)]
      rfl
  | kAdded =>
      have kernel := known.kernel_iff.mpr index
      have recorded := known.recorded (by rw [index]; decide)
      rw [unchanged (by rw [index]; decide)]
      simp only [true_and]
      rw [Checked.check_bind_of (by simp [recorded]), Checked.check_bind_of recorded]
      by_cases noInterest : channel.isNoneEvent = true
      · rw [if_pos (by exact noInterest), if_pos noInterest,
          EPollPoller.update_del (by exact kernel)]
        rfl
      · rw [if_neg (by exact noInterest), if_neg noInterest,
          EPollPoller.update_mod (by exact kernel)]
        rfl

theorem remove_eq (known : channel.Known poller) (added : channel.index ≠ .kNew)
    (noInterest : channel.isNoneEvent = true) :
    channel.remove poller = .ok
      ({ channel with addedToLoop := false, index := .kNew },
        { poller with
          channels := Function.update poller.channels channel.fd none
          kernel := Function.update poller.kernel channel.fd none }) := by
  have recorded := known.recorded added
  have either : channel.index = .kAdded ∨ channel.index = .kDeleted := by
    cases index : channel.index with
    | kNew => exact absurd index added
    | kAdded => exact .inl rfl
    | kDeleted => exact .inr rfl
  unfold remove EPollPoller.removeChannel
  rw [Checked.check_bind_of noInterest, Checked.check_bind_of (by simp [recorded]),
    Checked.check_bind_of recorded, Checked.check_bind_of (by exact noInterest),
    Checked.check_bind_of either]
  dsimp only
  split
  · rename_i isAdded
    have present : poller.kernel channel.fd ≠ none := known.kernel_iff.mpr isAdded
    rw [EPollPoller.update_del (by exact present)]
    rfl
  · rename_i notAdded
    have absent : poller.kernel channel.fd = none := by
      by_contra present
      exact notAdded (known.kernel_iff.mp present)
    rw [← absent, Function.update_eq_self]
    rfl

end Channel

/-- The channels by their addresses, and the poller that watches them.
`eventListSize` is the size of `events_`, `activeChannels` what `poll` returns. -/
structure Registry where
  channels : Nat → Option Channel
  poller : EPollPoller
  eventListSize : Nat
  activeChannels : List Nat

namespace Registry

def kInitEventListSize : Nat := 16

/-- What `epoll_wait` writes to `events_` for the descriptors that are ready: the
user data of each and its events. -/
def epollWait (poller : EPollPoller) (ready : List (Nat × PollEvents)) :
    List (Nat × PollEvents) :=
  ready.filterMap fun (fd, events) =>
    (poller.kernel fd).map fun (_, data) => (data, events)

/-- The body of the loop of `fillActiveChannels`. -/
def fillActiveChannel (registry : Registry) (event : Nat × PollEvents) : Checked Registry :=
  match registry.channels event.1 with
  | none => .error .useAfterFree
  | some channel => do
      check (registry.poller.channels channel.fd ≠ none)
      check (registry.poller.channels channel.fd = some event.1)
      return { registry with
        channels := Function.update registry.channels event.1
          (some { channel with revents := event.2 })
        activeChannels := registry.activeChannels ++ [event.1] }

def fillActiveChannels (registry : Registry) (events : List (Nat × PollEvents)) :
    Checked Registry := do
  check (events.length ≤ registry.eventListSize)
  events.foldlM fillActiveChannel registry

def poll (registry : Registry) (ready : List (Nat × PollEvents)) : Checked Registry :=
  let events := epollWait registry.poller ready
  let cleared := { registry with activeChannels := [] }
  if events.length > 0 then do
    let filled ← cleared.fillActiveChannels events
    if events.length = filled.eventListSize then
      return { filled with eventListSize := filled.eventListSize * 2 }
    else
      return filled
  else
    .ok cleared

inductive Action
  | call (address : Nat) (operation : Channel.Operation)
  | poll (ready : List (Nat × PollEvents))

/-- `remove` is called only for a channel without interest that has been added.
`epoll_wait` returns at most `maxevents` events, for descriptors in the set. -/
def Allowed (registry : Registry) : Action → Prop
  | .call address operation =>
      ∃ channel ∈ registry.channels address, operation = .remove →
        channel.isNoneEvent = true ∧ channel.addedToLoop = true
  | .poll ready =>
      ready.length ≤ registry.eventListSize ∧
        ∀ event ∈ ready, ∃ registered ∈ registry.poller.kernel event.1,
          event.2.ReportableFor registered.1

instance (registry : Registry) (action : Action) : Decidable (registry.Allowed action) :=
  match action with
  | .call _ _ => inferInstanceAs (Decidable (∃ _ ∈ _, _))
  | .poll _ => inferInstanceAs (Decidable (_ ∧ _))

def step (registry : Registry) : Action → Checked Registry
  | .call address operation =>
      match registry.channels address with
      | none => .error .useAfterFree
      | some channel => do
          let (changed, poller) ← operation.perform channel registry.poller
          return { registry with
            channels := Function.update registry.channels address (some changed)
            poller := poller }
  | .poll ready => registry.poll ready

/-- New channels with pairwise distinct descriptors, and a new poller. -/
structure Initial (registry : Registry) : Prop where
  created : ∀ address channel, registry.channels address = some channel →
    channel = Channel.create address channel.fd
  distinct : ∀ left right leftChannel rightChannel,
    registry.channels left = some leftChannel → registry.channels right = some rightChannel →
    leftChannel.fd = rightChannel.fd → left = right
  poller : registry.poller = ⟨fun _ => none, fun _ => none, 0⟩
  eventListSize : registry.eventListSize = kInitEventListSize

def machine : Machine Registry Action where
  initial := Initial
  allowed := Allowed
  step := step

instance (registry : Registry) (action : Action) :
    Decidable (machine.allowed registry action) :=
  inferInstanceAs (Decidable (registry.Allowed action))

/-! ## What holds of every channel -/

/-- The three records of a channel's registration agree. -/
structure Registered (poller : EPollPoller) (address : Nat) (channel : Channel) : Prop where
  new_iff : channel.index = .kNew ↔ poller.channels channel.fd = none
  recorded : channel.index ≠ .kNew → poller.channels channel.fd = some address
  kernel_iff : poller.kernel channel.fd ≠ none ↔ channel.index = .kAdded
  interest : ∀ events data, poller.kernel channel.fd = some (events, data) →
    events = channel.events ∧ data = address
  deleted : channel.index = .kDeleted → channel.events = .kNoneEvent

/-- The registration is consistent, and no call of `epoll_ctl` has failed. -/
structure Consistent (registry : Registry) : Prop where
  registered : ∀ address channel, registry.channels address = some channel →
    Registered registry.poller address channel
  accepted : registry.poller.refused = 0

/-- What carries the consistency from step to step. -/
structure Invariant (registry : Registry) : Prop where
  consistent : registry.Consistent
  address : ∀ address channel, registry.channels address = some channel →
    channel.address = address
  added : ∀ address channel, registry.channels address = some channel →
    channel.addedToLoop = true → channel.index ≠ .kNew
  new : ∀ address channel, registry.channels address = some channel →
    channel.index = .kNew → channel.events = .kNoneEvent
  distinct : ∀ left right leftChannel rightChannel,
    registry.channels left = some leftChannel → registry.channels right = some rightChannel →
    leftChannel.fd = rightChannel.fd → left = right
  owned : ∀ fd events data, registry.poller.kernel fd = some (events, data) →
    ∃ channel, registry.channels data = some channel ∧ channel.fd = fd

variable {registry : Registry} {address : Nat} {channel changed : Channel} {poller : EPollPoller}

theorem Initial.invariant (initial : registry.Initial) : registry.Invariant := by
  refine ⟨⟨?_, ?_⟩, ?_, ?_, ?_, initial.distinct, ?_⟩
  · intro address channel present
    rw [initial.poller, initial.created address channel present]
    refine ⟨?_, ?_, ?_, ?_, ?_⟩ <;> simp [Channel.create]
  · rw [initial.poller]
  · intro address channel present
    rw [initial.created address channel present]
    rfl
  · intro address channel present added
    rw [initial.created address channel present] at added
    cases added
  · intro address channel present _
    rw [initial.created address channel present]
    rfl
  · intro fd events data registered
    rw [initial.poller] at registered
    cases registered

theorem Invariant.known (invariant : registry.Invariant)
    (present : registry.channels address = some channel) : channel.Known registry.poller := by
  have registered := invariant.consistent.registered address channel present
  refine ⟨registered.new_iff.mp, ?_, registered.kernel_iff⟩
  rw [invariant.address address channel present]
  exact registered.recorded

/-- A channel and what the poller holds for its descriptor are replaced. -/
theorem Invariant.replace (invariant : registry.Invariant)
    (present : registry.channels address = some channel)
    (sameFd : changed.fd = channel.fd) (sameAddress : changed.address = channel.address)
    (registered : Registered poller address changed)
    (added : changed.addedToLoop = true → changed.index ≠ .kNew)
    (new : changed.index = .kNew → changed.events = .kNoneEvent)
    (channels : ∀ fd ≠ channel.fd, poller.channels fd = registry.poller.channels fd)
    (kernel : ∀ fd ≠ channel.fd, poller.kernel fd = registry.poller.kernel fd)
    (accepted : poller.refused = registry.poller.refused) (active : List Nat) (size : Nat) :
    Invariant ⟨Function.update registry.channels address (some changed), poller, size, active⟩ := by
  have elsewhere : ∀ other otherChannel, other ≠ address →
      registry.channels other = some otherChannel → otherChannel.fd ≠ channel.fd := by
    intro other otherChannel different otherPresent sharesFd
    exact different (invariant.distinct _ _ _ _ otherPresent present sharesFd)
  have cases : ∀ {other otherChannel},
      Function.update registry.channels address (some changed) other = some otherChannel →
      (other = address ∧ otherChannel = changed) ∨
        (other ≠ address ∧ registry.channels other = some otherChannel) := by
    intro other otherChannel found
    by_cases same : other = address
    · rw [same, Function.update_self] at found
      exact .inl ⟨same, (Option.some.inj found).symm⟩
    · rw [Function.update_of_ne same] at found
      exact .inr ⟨same, found⟩
  constructor
  case consistent =>
    constructor
    case registered =>
      intro other otherChannel found
      rcases cases found with ⟨rfl, rfl⟩ | ⟨different, found⟩
      · exact registered
      · have old := invariant.consistent.registered other otherChannel found
        have apart := elsewhere other otherChannel different found
        constructor
        · rw [channels _ apart]; exact old.new_iff
        · rw [channels _ apart]; exact old.recorded
        · rw [kernel _ apart]; exact old.kernel_iff
        · rw [kernel _ apart]; exact old.interest
        · exact old.deleted
    case accepted => exact accepted.trans invariant.consistent.accepted
  case address =>
    intro other otherChannel found
    rcases cases found with ⟨rfl, rfl⟩ | ⟨_, found⟩
    · exact sameAddress.trans (invariant.address _ _ present)
    · exact invariant.address _ _ found
  case added =>
    intro other otherChannel found
    rcases cases found with ⟨rfl, rfl⟩ | ⟨_, found⟩
    · exact added
    · exact invariant.added _ _ found
  case new =>
    intro other otherChannel found
    rcases cases found with ⟨rfl, rfl⟩ | ⟨_, found⟩
    · exact new
    · exact invariant.new _ _ found
  case distinct =>
    intro left right leftChannel rightChannel leftFound rightFound sharesFd
    rcases cases leftFound with ⟨leftSame, leftChanged⟩ | ⟨leftDifferent, leftOld⟩ <;>
      rcases cases rightFound with ⟨rightSame, rightChanged⟩ | ⟨rightDifferent, rightOld⟩
    · exact leftSame.trans rightSame.symm
    · rw [leftChanged, sameFd] at sharesFd
      exact absurd sharesFd.symm (elsewhere _ _ rightDifferent rightOld)
    · rw [rightChanged, sameFd] at sharesFd
      exact absurd sharesFd (elsewhere _ _ leftDifferent leftOld)
    · exact invariant.distinct _ _ _ _ leftOld rightOld sharesFd
  case owned =>
    intro fd events data entry
    by_cases same : fd = channel.fd
    · subst same
      have isOwn := (registered.interest events data (by rw [sameFd]; exact entry)).2
      subst isOwn
      exact ⟨changed, Function.update_self .., sameFd⟩
    · have old : registry.poller.kernel fd = some (events, data) := by
        rw [← kernel fd same]; exact entry
      rcases invariant.owned fd events data old with ⟨owner, found, ownsFd⟩
      have different : data ≠ address := by
        intro isOwn
        subst isOwn
        rw [present] at found
        cases found
        exact same ownsFd.symm
      exact ⟨owner, (Function.update_of_ne different ..).trans found, ownsFd⟩

/-! ## Every step keeps it -/

theorem Registered.of_update (channel : Channel) (poller : EPollPoller) (refused : Nat) :
    Registered
      { channels := Function.update poller.channels channel.fd (some channel.address)
        kernel := Function.update poller.kernel channel.fd
          (channel.registration channel.nextIndex)
        refused := refused }
      channel.address { channel with addedToLoop := true, index := channel.nextIndex } := by
  unfold Channel.nextIndex
  split
  · rename_i deleted
    have noInterest : channel.events = .kNoneEvent := of_decide_eq_true deleted.2
    constructor <;> simp [Channel.registration, noInterest]
  · constructor <;> simp +contextual [Channel.registration]

theorem Registered.of_remove (channel : Channel) (poller : EPollPoller) (refused : Nat) :
    Registered
      { channels := Function.update poller.channels channel.fd none
        kernel := Function.update poller.kernel channel.fd none
        refused := refused }
      channel.address { channel with addedToLoop := false, index := .kNew } := by
  constructor <;> simp

theorem Invariant.step_update (invariant : registry.Invariant)
    (present : registry.channels address = some channel) {operation : Channel.Operation}
    (updates : operation ≠ .remove) :
    let changed : Channel := { channel with events := operation.interest channel.events }
    registry.step (.call address operation) = .ok { registry with
      channels := Function.update registry.channels address
        (some { changed with addedToLoop := true, index := changed.nextIndex })
      poller := { registry.poller with
        channels := Function.update registry.poller.channels channel.fd (some channel.address)
        kernel := Function.update registry.poller.kernel channel.fd
          (changed.registration changed.nextIndex) } } := by
  intro changed
  have known := invariant.known present
  have changedKnown : changed.Known registry.poller :=
    ⟨known.new, known.recorded, known.kernel_iff⟩
  simp only [Registry.step, present]
  rw [Channel.Operation.perform_eq updates, Channel.update_eq changedKnown]
  rfl

theorem Invariant.step_remove (invariant : registry.Invariant)
    (present : registry.channels address = some channel)
    (noInterest : channel.isNoneEvent = true) (isAdded : channel.addedToLoop = true) :
    registry.step (.call address .remove) = .ok { registry with
      channels := Function.update registry.channels address
        (some { channel with addedToLoop := false, index := .kNew })
      poller := { registry.poller with
        channels := Function.update registry.poller.channels channel.fd none
        kernel := Function.update registry.poller.kernel channel.fd none } } := by
  have added := invariant.added address channel present isAdded
  simp only [Registry.step, present, Channel.Operation.perform]
  rw [Channel.remove_eq (invariant.known present) added noInterest]
  rfl

theorem Invariant.call (invariant : registry.Invariant) {operation : Channel.Operation}
    (allowed : registry.Allowed (.call address operation)) :
    ∃ next, registry.step (.call address operation) = .ok next ∧ next.Invariant := by
  rcases allowed with ⟨channel, present, permitted⟩
  have isOwn := invariant.address address channel present
  by_cases removes : operation = .remove
  · subst removes
    rcases permitted rfl with ⟨noInterest, isAdded⟩
    refine ⟨_, invariant.step_remove present noInterest isAdded, ?_⟩
    apply invariant.replace present
    case sameFd => rfl
    case sameAddress => rfl
    case registered =>
      subst isOwn
      exact Registered.of_remove channel registry.poller registry.poller.refused
    case added => simp
    case new => exact fun _ => of_decide_eq_true noInterest
    case channels => exact fun fd apart => Function.update_of_ne apart ..
    case kernel => exact fun fd apart => Function.update_of_ne apart ..
    case accepted => rfl
  · have indexed : ∀ changed : Channel, changed.nextIndex ≠ .kNew := by
      intro changed
      unfold Channel.nextIndex
      split <;> simp
    refine ⟨_, invariant.step_update present removes, ?_⟩
    apply invariant.replace present
    case sameFd => rfl
    case sameAddress => rfl
    case registered =>
      subst isOwn
      exact Registered.of_update { channel with events := operation.interest channel.events }
        registry.poller registry.poller.refused
    case added => exact fun _ => indexed _
    case new => exact fun isNew => absurd isNew (indexed _)
    case channels => exact fun fd apart => Function.update_of_ne apart ..
    case kernel => exact fun fd apart => Function.update_of_ne apart ..
    case accepted => rfl

/-- What the filling of the active channels keeps while it appends them. -/
structure Filling (before : Registry) (out : List Nat) (registry : Registry) : Prop where
  invariant : registry.Invariant
  poller : registry.poller = before.poller
  eventListSize : registry.eventListSize = before.eventListSize
  activeChannels : registry.activeChannels = out

theorem Filling.next {before : Registry} {out : List Nat} (filling : Filling before out registry)
    {event : Nat × PollEvents} {fd : Nat} {events : PollEvents}
    (entry : before.poller.kernel fd = some (events, event.1)) :
    ∃ after, registry.fillActiveChannel event = .ok after ∧
      Filling before (out ++ [event.1]) after := by
  rw [← filling.poller] at entry
  have invariant := filling.invariant
  rcases invariant.owned fd events event.1 entry with ⟨channel, present, ownsFd⟩
  have registered := invariant.consistent.registered event.1 channel present
  have isAdded := registered.kernel_iff.mp (by rw [ownsFd, entry]; simp)
  have recorded := registered.recorded (by rw [isAdded]; decide)
  simp only [fillActiveChannel, present]
  rw [Checked.check_bind_of (by simp [recorded]), Checked.check_bind_of recorded]
  refine ⟨_, rfl, ?_, filling.poller, filling.eventListSize, ?_⟩
  · apply invariant.replace present
    case sameFd => rfl
    case sameAddress => rfl
    case registered =>
      exact ⟨registered.new_iff, registered.recorded, registered.kernel_iff,
        registered.interest, registered.deleted⟩
    case added => exact invariant.added event.1 channel present
    case new => exact invariant.new event.1 channel present
    case channels => exact fun _ _ => rfl
    case kernel => exact fun _ _ => rfl
    case accepted => rfl
  · rw [filling.activeChannels]

theorem epollWait_entry {ready : List (Nat × PollEvents)} {event : Nat × PollEvents}
    (reported : event ∈ epollWait poller ready) :
    ∃ fd events, poller.kernel fd = some (events, event.1) := by
  simp only [epollWait, List.mem_filterMap, Option.map_eq_some_iff] at reported
  rcases reported with ⟨⟨fd, _⟩, _, ⟨events, data⟩, entry, rfl⟩
  exact ⟨fd, events, entry⟩

theorem Invariant.resize (invariant : registry.Invariant) (size : Nat) (active : List Nat) :
    Invariant { registry with eventListSize := size, activeChannels := active } :=
  ⟨⟨invariant.consistent.registered, invariant.consistent.accepted⟩, invariant.address,
    invariant.added, invariant.new, invariant.distinct, invariant.owned⟩

theorem Invariant.fillActiveChannels (invariant : registry.Invariant)
    {events : List (Nat × PollEvents)} (bounded : events.length ≤ registry.eventListSize)
    (entries : ∀ event ∈ events, ∃ fd interest,
      registry.poller.kernel fd = some (interest, event.1)) :
    ∃ after, registry.fillActiveChannels events = .ok after ∧
      Filling registry (registry.activeChannels ++ events.map Prod.fst) after := by
  have start : Filling registry registry.activeChannels registry := ⟨invariant, rfl, rfl, rfl⟩
  unfold Registry.fillActiveChannels
  rw [Checked.check_bind_of bounded, List.map_eq_flatMap]
  apply Checked.foldlM_emit _ (Filling registry) _ start List.prefix_rfl
  intro event member out state filling _
  rcases entries event member with ⟨fd, interest, entry⟩
  exact filling.next entry

/-- `poll` succeeds, and makes active the channels whose descriptors were reported. -/
theorem Invariant.poll (invariant : registry.Invariant) {ready : List (Nat × PollEvents)}
    (allowed : registry.Allowed (.poll ready)) :
    ∃ next, registry.step (.poll ready) = .ok next ∧ next.Invariant ∧
      next.poller = registry.poller ∧
      next.activeChannels = (epollWait registry.poller ready).map Prod.fst := by
  have cleared := invariant.resize registry.eventListSize []
  have bounded : (epollWait registry.poller ready).length ≤ registry.eventListSize :=
    Nat.le_trans (List.length_filterMap_le ..) allowed.1
  rcases cleared.fillActiveChannels bounded (fun _ => epollWait_entry) with
    ⟨filled, ran, filling⟩
  simp only [step, Registry.poll]
  split
  · rw [ran, Checked.ok_bind]
    split
    · exact ⟨_, rfl, filling.invariant.resize _ _, filling.poller, filling.activeChannels⟩
    · exact ⟨_, rfl, filling.invariant, filling.poller, filling.activeChannels⟩
  · rename_i silent
    have none : epollWait registry.poller ready = [] :=
      List.eq_nil_of_length_eq_zero (Nat.eq_zero_of_not_pos silent)
    rw [none]
    exact ⟨_, rfl, cleared, rfl, rfl⟩

theorem Invariant.step (invariant : registry.Invariant) {action : Action}
    (allowed : registry.Allowed action) :
    ∃ next, registry.step action = .ok next ∧ next.Invariant := by
  cases action with
  | call address operation => exact invariant.call allowed
  | poll ready =>
      rcases invariant.poll allowed with ⟨next, stepped, kept, _⟩
      exact ⟨next, stepped, kept⟩

theorem safe_invariant :
    machine.Safe ∧ ∀ registry, machine.Reachable registry → registry.Invariant :=
  Machine.safe_of_invariant Invariant (fun _ initial => Initial.invariant initial)
    (fun _ _ invariant allowed => invariant.step allowed)

/-- A new poller, and channel `n` of descriptor `n` for every number. -/
def fresh : Registry where
  channels address := some (Channel.create address address)
  poller := ⟨fun _ => none, fun _ => none, 0⟩
  eventListSize := kInitEventListSize
  activeChannels := []

theorem initial_fresh : fresh.Initial := by
  constructor
  case created =>
    intro address channel present
    cases present
    rfl
  case distinct =>
    intro left right leftChannel rightChannel leftPresent rightPresent sharesFd
    cases leftPresent
    cases rightPresent
    exact sharesFd
  case poller => rfl
  case eventListSize => rfl

/-- No assert of the poller fails, no call of `epoll_ctl` is refused, and the
index, `channels_` and the kernel's set agree about every channel. -/
theorem registration_consistent :
    machine.Safe ∧ ∀ registry, machine.Reachable registry → registry.Consistent :=
  ⟨safe_invariant.1, fun registry reachable => (safe_invariant.2 registry reachable).consistent⟩

theorem registration_consistent_readded :
    ∃ registry, machine.Reachable registry ∧
      (∃ channel ∈ registry.channels 0, channel.index = .kAdded) ∧ registry.Consistent := by
  have visited : ∃ registry, machine.Reachable registry ∧
      ∃ channel ∈ registry.channels 0, channel.index = .kAdded :=
    Machine.exists_reachable _ _ initial_fresh
      [.call 0 .enableReading, .call 0 .disableAll, .call 0 .remove, .call 0 .enableWriting,
        .poll [(0, .kWriteEvent)]] (by decide)
  rcases visited with ⟨registry, reachable, added⟩
  exact ⟨registry, reachable, added, registration_consistent.2 registry reachable⟩

/-! ## Interest and the kernel's set -/

/-- An operation leaves a channel without interest only if the channel is in the
kernel's set: `updateChannel` adds every other one, whatever its interest. -/
def EmptiesAdded (registry : Registry) : Action → Prop
  | .call address operation =>
      ∀ channel ∈ registry.channels address, operation ≠ .remove →
        operation.interest channel.events = .kNoneEvent → channel.index = .kAdded
  | .poll _ => True

instance (registry : Registry) (action : Action) : Decidable (registry.EmptiesAdded action) :=
  match action with
  | .call _ _ => inferInstanceAs (Decidable (∀ _ ∈ _, _))
  | .poll _ => inferInstanceAs (Decidable True)

/-- Once its interest is gone from the kernel's set, a channel without interest is
added again by a further `disableAll`, and can be reported. -/
theorem disableAll_twice_watched : ∃ registry, machine.Reachable registry ∧
    (∃ channel ∈ registry.channels 0, channel.events = .kNoneEvent ∧
      registry.poller.kernel channel.fd ≠ none) ∧
    registry.Allowed (.poll [(0, { PollEvents.kNoneEvent with pollHup := true })]) := by
  exact machine.exists_reachable _ initial_fresh
    [.call 0 .enableReading, .call 0 .disableAll, .call 0 .disableAll] (by decide)

/-- The kernel holds no empty interest. -/
def Interested (registry : Registry) : Prop :=
  ∀ fd events data, registry.poller.kernel fd = some (events, data) → events ≠ .kNoneEvent

theorem Interested.call (interested : registry.Interested) (invariant : registry.Invariant)
    {operation : Channel.Operation} {next : Registry}
    (allowed : registry.Allowed (.call address operation))
    (empties : registry.EmptiesAdded (.call address operation))
    (stepped : registry.step (.call address operation) = .ok next) : next.Interested := by
  rcases allowed with ⟨channel, present, permitted⟩
  intro fd events data entry
  by_cases removes : operation = .remove
  · subst removes
    rcases permitted rfl with ⟨noInterest, isAdded⟩
    rw [invariant.step_remove present noInterest isAdded] at stepped
    cases stepped
    by_cases same : fd = channel.fd
    · subst same
      simp at entry
    · exact interested fd events data (by simpa [Function.update_of_ne same] using entry)
  · rw [invariant.step_update present removes] at stepped
    cases stepped
    by_cases same : fd = channel.fd
    · subst same
      intro emptied
      simp only [Function.update_self, Channel.registration_nextIndex] at entry
      split at entry
      · cases entry
      · rename_i kept
        cases entry
        exact kept ⟨empties channel present removes emptied, decide_eq_true emptied⟩
    · exact interested fd events data (by simpa [Function.update_of_ne same] using entry)

theorem restrict_interested {registry : Registry}
    (reachable : (machine.restrict EmptiesAdded).Reachable registry) : registry.Interested := by
  refine reachable.invariant_knowing
    (fun state known => safe_invariant.2 state known.of_restrict) Interested ?_ ?_
  · intro registry initial fd events data entry
    rw [Initial.poller initial] at entry
    cases entry
  · rintro registry action next invariant interested ⟨allowed, empties⟩ stepped
    cases action with
    | call address operation => exact interested.call invariant allowed empties stepped
    | poll ready =>
        rcases invariant.poll allowed with ⟨found, foundStep, _, poller, _⟩
        cases foundStep.symm.trans stepped
        unfold Interested
        rw [poller]
        exact interested

theorem Invariant.watched_iff (invariant : registry.Invariant) (interested : registry.Interested)
    (present : registry.channels address = some channel) :
    registry.poller.kernel channel.fd ≠ none ↔ channel.events ≠ .kNoneEvent := by
  have registered := invariant.consistent.registered address channel present
  constructor
  · intro watched
    rcases Option.ne_none_iff_exists'.mp watched with ⟨⟨events, data⟩, entry⟩
    rw [← (registered.interest events data entry).1]
    exact interested channel.fd events data entry
  · intro interest
    apply registered.kernel_iff.mpr
    cases index : channel.index with
    | kNew => exact absurd (invariant.new address channel present index) interest
    | kAdded => rfl
    | kDeleted => exact absurd (registered.deleted index) interest

/-- When operations leave only added channels without interest, exactly the
channels with an interest are in the kernel's set, and no poll makes another one
active. An operation that leaves any other channel without interest puts it there. -/
theorem watched_iff_interest (registry : Registry) :
    ((machine.restrict EmptiesAdded).Reachable registry →
      (∀ address channel, registry.channels address = some channel →
        (registry.poller.kernel channel.fd ≠ none ↔ channel.events ≠ .kNoneEvent)) ∧
      (∀ ready next, registry.Allowed (.poll ready) →
        registry.step (.poll ready) = .ok next →
        ∀ address channel, registry.channels address = some channel →
          channel.events = .kNoneEvent → address ∉ next.activeChannels)) ∧
    (∀ address operation, machine.Reachable registry →
      registry.Allowed (.call address operation) →
      ¬ registry.EmptiesAdded (.call address operation) →
      ∃ next channel, registry.step (.call address operation) = .ok next ∧
        next.channels address = some channel ∧ channel.events = .kNoneEvent ∧
        next.poller.kernel channel.fd ≠ none) := by
  constructor
  · intro reachable
    have invariant := safe_invariant.2 registry reachable.of_restrict
    have interested := restrict_interested reachable
    refine ⟨fun _ _ present => invariant.watched_iff interested present, ?_⟩
    intro ready next allowed stepped address channel present noInterest active
    rcases invariant.poll allowed with ⟨found, foundStep, _, _, activeChannels⟩
    cases foundStep.symm.trans stepped
    rw [activeChannels] at active
    rcases List.mem_map.mp active with ⟨event, reported, rfl⟩
    rcases epollWait_entry reported with ⟨fd, events, entry⟩
    rcases invariant.owned fd events event.1 entry with ⟨owner, ownerPresent, ownsFd⟩
    cases ownerPresent.symm.trans present
    have watched : registry.poller.kernel channel.fd ≠ none := by
      rw [ownsFd, entry]
      simp
    exact (invariant.watched_iff interested present).mp watched noInterest
  · intro address operation reachable allowed adds
    have invariant := safe_invariant.2 registry reachable
    simp only [EmptiesAdded, not_forall] at adds
    rcases adds with ⟨channel, present, updates, emptied, notAdded⟩
    refine ⟨_, _, invariant.step_update present updates, Function.update_self .., emptied, ?_⟩
    simp [Channel.registration_nextIndex, notAdded]

theorem watched_iff_interest_disableAll :
    ∃ registry, (machine.restrict EmptiesAdded).Reachable registry ∧
      (∃ channel ∈ registry.channels 0, channel.index = .kDeleted) ∧
      ∀ address channel, registry.channels address = some channel →
        (registry.poller.kernel channel.fd ≠ none ↔ channel.events ≠ .kNoneEvent) := by
  have visited : ∃ registry, (machine.restrict EmptiesAdded).Reachable registry ∧
      ∃ channel ∈ registry.channels 0, channel.index = .kDeleted :=
    Machine.exists_reachable _ _ initial_fresh
      [.call 0 .enableReading, .call 1 .enableWriting, .call 0 .disableAll] (by decide)
  rcases visited with ⟨registry, reachable, deleted⟩
  exact ⟨registry, reachable, deleted, ((watched_iff_interest registry).1 reachable).1⟩

end Registry

end Ccnet.Net
