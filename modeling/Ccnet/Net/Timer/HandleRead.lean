import Ccnet.Net.Timer.Operations
import Mathlib.Data.List.Nodup

/-! # `handleRead` moves timers out of the queue and back -/

namespace Ccnet.Net.TimerQueue

variable {queue : TimerQueue} {place : Nat → TimerPlace}

def serials (entries : List Entry) : List Nat :=
  entries.map fun entry => entry.timer.serial

theorem mem_serials {entries : List Entry} {serial : Nat} :
    serial ∈ serials entries ↔ ∃ entry ∈ entries, entry.timer.serial = serial :=
  List.mem_map

/-! ## Taking the expired timers out -/

/-- The loop of `getExpired` removes each expired timer from `activeTimers_`. -/
theorem deactivate_all (entries : List Entry) (queue : TimerQueue)
    (alive : ∀ entry ∈ entries, ∃ timer, queue.live entry.timer.serial = some timer)
    (active : ∀ entry ∈ entries,
      ActiveTimer.mk entry.timer entry.timer.serial ∈ queue.activeTimers)
    (unique : ∀ left ∈ queue.activeTimers, ∀ right ∈ queue.activeTimers,
      left.timer.serial = right.timer.serial → left = right)
    (nodup : (serials entries).Nodup) :
    ∃ remaining : ActiveTimerSet,
      entries.foldlM deactivate queue = .ok { queue with activeTimers := remaining } ∧
      (∀ active, active ∈ remaining ↔
        active ∈ queue.activeTimers ∧ active.timer.serial ∉ serials entries) ∧
      remaining.size + entries.length = queue.activeTimers.size := by
  induction entries generalizing queue with
  | nil => exact ⟨queue.activeTimers, rfl, by simp [serials], rfl⟩
  | cons entry rest induction =>
      have entryActive := active entry (by simp)
      rcases alive entry (by simp) with ⟨timer, entryAlive⟩
      have nodupParts := List.nodup_cons.mp nodup
      let erased := queue.activeTimers.erase
        (ActiveTimer.key ⟨entry.timer, entry.timer.serial⟩)
      have memErased : ∀ other, other ∈ erased.2 ↔
          other ∈ queue.activeTimers ∧ other.timer.serial ≠ entry.timer.serial := by
        intro other
        rw [OrderedSet.mem_erase_key entryActive, and_comm]
        refine and_congr_right fun member => not_congr ?_
        exact ⟨fun equal => by rw [equal], unique other member _ entryActive⟩
      have erasedOne : erased.1 = 1 := OrderedSet.erase_count_of_mem entryActive
      have erasedSize : erased.2.size + erased.1 = queue.activeTimers.size :=
        OrderedSet.size_erase_add_count _ _
      have stepped : queue.deactivate entry =
          .ok { queue with activeTimers := erased.2 } := by
        unfold deactivate
        rw [sequence_of_live entryAlive, Checked.ok_bind,
          Checked.check_bind_of erasedOne]
        rfl
      rcases induction { queue with activeTimers := erased.2 }
          (fun other member => alive other (by simp [member]))
          (by
            intro other member
            refine (memErased _).mpr ⟨active other (by simp [member]), ?_⟩
            intro same
            exact nodupParts.1 (mem_serials.mpr ⟨other, member, same⟩))
          (fun left leftMember right rightMember =>
            unique left ((memErased left).mp leftMember).1 right
              ((memErased right).mp rightMember).1)
          nodupParts.2 with ⟨remaining, folded, memRemaining, size⟩
      refine ⟨remaining, ?_, ?_, ?_⟩
      · rw [List.foldlM_cons, stepped, Checked.ok_bind, folded]
      · intro other
        rw [memRemaining, memErased]
        simp only [serials, List.map_cons, List.mem_cons, not_or, and_assoc]
      · simp only [List.length_cons]
        simp only at size
        omega

def afterExpiry (place : Nat → TimerPlace) (expired : List Entry)
    (serial : Nat) : TimerPlace :=
  if serial ∈ serials expired then .expired else place serial

section Expiry

variable {now : Int}

/-- What `getExpired` takes out. -/
def expiredAt (queue : TimerQueue) (now : Int) : List Entry :=
  queue.timers.below (toLex (now, uintptrMax))

theorem mem_expiredAt {entry : Entry} :
    entry ∈ queue.expiredAt now ↔
      entry ∈ queue.timers ∧ entry.key < toLex (now, uintptrMax) :=
  OrderedSet.mem_below

theorem Represents.queued_of_mem_timers (represents : queue.Represents place)
    {entry : Entry} (member : entry ∈ queue.timers) :
    place entry.timer.serial = .queued ∧
      ∃ timer, queue.live entry.timer.serial = some timer ∧
        timer.address = entry.timer.address ∧
        timer.expiration = entry.expiration :=
  ((represents.located _).timers entry rfl).mp member

theorem Represents.active_of_mem_timers (represents : queue.Represents place)
    {entry : Entry} (member : entry ∈ queue.timers) :
    ActiveTimer.mk entry.timer entry.timer.serial ∈ queue.activeTimers := by
  rcases represents.queued_of_mem_timers member with ⟨queued, timer, alive, address, _⟩
  exact ((represents.located _).activeTimers _ rfl).mpr
    ⟨queued, rfl, timer, alive, address⟩

theorem Represents.expiredAt_nodup (represents : queue.Represents place) :
    (serials (queue.expiredAt now)).Nodup := by
  refine List.Nodup.map_on ?_ ?_
  · intro left leftMember right rightMember same
    exact represents.timers_unique (mem_expiredAt.mp leftMember).1
      (mem_expiredAt.mp rightMember).1 same
  · refine (queue.timers.below_sorted _).imp ?_
    intro left right before equal
    rw [equal] at before
    exact lt_irrefl _ before

/-- No timer has the highest address, so the sentry is beyond all that expire
at `now`. -/
theorem Represents.expiration_gt (represents : queue.Represents place)
    {entry : Entry}
    (member : entry ∈ queue.timers.eraseBelow (toLex (now, uintptrMax))) :
    now < entry.expiration := by
  rcases OrderedSet.mem_eraseBelow.mp member with ⟨inTimers, beyond⟩
  rcases represents.queued_of_mem_timers inTimers with ⟨_, timer, alive, address, _⟩
  have addressLt := represents.address_lt _ timer alive
  rw [address] at addressLt
  rw [Entry.key, Prod.Lex.toLex_le_toLex] at beyond
  rcases beyond with later | ⟨_, addressLe⟩
  · exact later
  · exact absurd addressLe (not_le_of_gt addressLt)

/-- What `getExpired` does at `now` to the fields that the places speak about. -/
structure Expires (queue : TimerQueue) (now : Int) (next : TimerQueue) : Prop where
  live : next.live = queue.live
  created : next.created = queue.created
  timers : next.timers = queue.timers.eraseBelow (toLex (now, uintptrMax))
  activeTimers : ∀ active, active ∈ next.activeTimers ↔
    active ∈ queue.activeTimers ∧ active.timer.serial ∉ serials (queue.expiredAt now)
  batch : next.batch = queue.expiredAt now
  freed : next.freed = queue.freed
  handed : next.handed = queue.handed

namespace Expires

variable {next : TimerQueue}

theorem mem_timers (expires : queue.Expires now next) (represents : queue.Represents place)
    (entry : Entry) : entry ∈ next.timers ↔
      entry ∈ queue.timers ∧ entry.timer.serial ∉ serials (queue.expiredAt now) := by
  rw [expires.timers, OrderedSet.mem_eraseBelow]
  refine and_congr_right fun member => ?_
  rw [mem_serials, ← not_lt]
  refine not_congr ⟨fun below => ⟨entry, mem_expiredAt.mpr ⟨member, below⟩, rfl⟩, ?_⟩
  rintro ⟨other, otherMember, same⟩
  rcases mem_expiredAt.mp otherMember with ⟨inTimers, below⟩
  rw [← represents.timers_unique inTimers member same]
  exact below

/-- An expired timer is in the batch and nowhere else. -/
theorem located (expires : queue.Expires now next) (represents : queue.Represents place)
    {entry : Entry} (expired : entry ∈ queue.expiredAt now) :
    next.At entry.timer.serial .expired := by
  have inTimers := (mem_expiredAt.mp expired).1
  have moved : entry.timer.serial ∈ serials (queue.expiredAt now) :=
    mem_serials.mpr ⟨entry, expired, rfl⟩
  rcases represents.queued_of_mem_timers inTimers with ⟨queued, timer, alive, address, _⟩
  have old := represents.located entry.timer.serial
  rw [queued] at old
  constructor
  · simp [expires.live, alive, TimerPlace.isLive]
  · intro pointer member same
    rw [expires.created] at member
    rw [expires.live]
    exact ⟨by simp, (old.created pointer member same).2⟩
  · intro other same
    rw [expires.mem_timers represents, same]
    simp [moved]
  · intro other same
    rw [expires.activeTimers, same]
    simp [moved]
  · rw [expires.batch]
    simp only [iff_true]
    exact ⟨entry, expired, rfl⟩
  · intro other otherMember same found foundAlive
    rw [expires.batch] at otherMember
    rw [expires.live, alive, Option.some.injEq] at foundAlive
    rw [represents.timers_unique (mem_expiredAt.mp otherMember).1 inTimers same, ← foundAlive,
      address]
  · rw [expires.freed, old.freed]
    simp
  · rw [expires.handed, old.handed]
    simp

/-- The other timers stay where they are. -/
theorem agreesAt (expires : queue.Expires now next) (represents : queue.Represents place)
    (idle : queue.batch = []) {serial : Nat}
    (kept : serial ∉ serials (queue.expiredAt now)) : queue.AgreesAt next serial where
  live := by rw [expires.live]
  created _ _ := by rw [expires.created]
  timers entry same := by
    rw [expires.mem_timers represents, same]
    simp [kept]
  activeTimers active same := by
    rw [expires.activeTimers, same]
    simp [kept]
  batch entry same := by
    rw [expires.batch, idle]
    simp only [List.not_mem_nil, iff_false]
    exact fun member => kept (mem_serials.mpr ⟨entry, member, same⟩)
  freed := by rw [expires.freed]
  handed := by rw [expires.handed]

end Expires

/-- The representation after `getExpired`. -/
theorem Represents.expire (represents : queue.Represents place)
    (idle : queue.batch = []) {next : TimerQueue} (expires : queue.Expires now next)
    (sizes : next.timers.size = next.activeTimers.size) :
    next.Represents (afterExpiry place (queue.expiredAt now)) := by
  constructor
  · intro serial
    by_cases moved : serial ∈ serials (queue.expiredAt now)
    · simp only [afterExpiry, moved, if_true]
      rcases mem_serials.mp moved with ⟨entry, expired, rfl⟩
      exact expires.located represents expired
    · simp only [afterExpiry, moved, if_false]
      exact (represents.located serial).congr (expires.agreesAt represents idle moved)
  · intro serial beyond
    rw [expires.created] at beyond
    have unborn := represents.unborn serial beyond
    unfold afterExpiry
    split
    · rename_i moved
      rcases mem_serials.mp moved with ⟨entry, member, same⟩
      have queued := (represents.queued_of_mem_timers (mem_expiredAt.mp member).1).1
      rw [same, unborn] at queued
      cases queued
    · exact unborn
  · rw [expires.live]
    exact represents.address_lt
  · rw [expires.live]
    exact represents.address_injective
  · rw [expires.live, expires.created]
    exact represents.exists_created
  · exact sizes
  · rw [expires.batch]
    exact represents.expiredAt_nodup
  · rw [expires.freed]
    exact represents.freed_nodup
  · rw [expires.handed]
    exact represents.handed_nodup

theorem beginHandleRead_ok (represents : queue.Represents place)
    (idle : queue.phase = .idle) (now : Int) :
    ∃ next, queue.beginHandleRead now = .ok next ∧
      next.Represents (afterExpiry place (queue.expiredAt now)) ∧
      next.phase = .calling now (queue.expiredAt now) (queue.expiredAt now) ∧
      next.callingExpiredTimers = true ∧ next.cancelingTimers = .empty ∧
      next.reads = queue.reads + 1 ∧ next.starts = queue.starts ∧
      queue.SameTimers next := by
  have noBatch : queue.batch = [] := by simp [TimerQueue.batch, idle]
  let taken : TimerQueue := { queue.readTimerfd with
    timers := queue.timers.eraseBelow (toLex (now, uintptrMax)) }
  have beyond : ∀ entry ∈ taken.timers.first, now < entry.expiration := by
    intro entry found
    exact represents.expiration_gt (List.mem_of_mem_head? found)
  rcases deactivate_all (queue.expiredAt now) taken
      (fun entry member => by
        rcases represents.queued_of_mem_timers (mem_expiredAt.mp member).1 with
          ⟨_, timer, alive, _⟩
        exact ⟨timer, alive⟩)
      (fun entry member => represents.active_of_mem_timers (mem_expiredAt.mp member).1)
      (fun _ leftMember _ rightMember =>
        represents.activeTimers_unique leftMember rightMember)
      represents.expiredAt_nodup with ⟨remaining, folded, memRemaining, size⟩
  have sizes : taken.timers.size = remaining.size := by
    have before := represents.sizes
    have split := queue.timers.size_eraseBelow_add_below (toLex (now, uintptrMax))
    have activeSize : remaining.size + (queue.expiredAt now).length =
        queue.activeTimers.size := size
    unfold expiredAt at activeSize
    change (queue.timers.eraseBelow _).size = _
    omega
  have got : queue.readTimerfd.getExpired now =
      .ok (queue.expiredAt now, { taken with activeTimers := remaining }) := by
    unfold getExpired
    have sizesBefore : queue.readTimerfd.timers.size =
        queue.readTimerfd.activeTimers.size := represents.sizes
    rw [Checked.check_bind_of sizesBefore]
    refine (Checked.check_bind_of beyond _).trans ?_
    change ((queue.expiredAt now).foldlM deactivate taken >>= _) = _
    rw [folded, Checked.ok_bind, Checked.check_bind_of sizes]
    rfl
  unfold beginHandleRead
  rw [got]
  simp only [Checked.ok_bind]
  refine ⟨_, rfl, ?_, rfl, rfl, rfl, rfl, rfl, ⟨rfl, rfl⟩⟩
  exact represents.expire noBatch ⟨rfl, rfl, rfl, memRemaining, rfl, rfl, rfl⟩ sizes

end Expiry

/-! ## Running the callbacks -/

/-- `callingExpiredTimers_` and the callbacks still to run agree with the
phase. -/
def Phased (queue : TimerQueue) : Prop :=
  match queue.phase with
  | .idle | .resetting _ _ => queue.callingExpiredTimers = false
  | .calling _ expired rest => queue.callingExpiredTimers = true ∧ rest <:+ expired

theorem Represents.live_of_mem_batch (represents : queue.Represents place)
    {entry : Entry} (member : entry ∈ queue.batch) :
    place entry.timer.serial = .expired ∧
      ∃ timer, queue.live entry.timer.serial = some timer ∧
        timer.address = entry.timer.address := by
  have located := represents.located entry.timer.serial
  have expired := located.batch.mp ⟨entry, member, rfl⟩
  have isLive : (place entry.timer.serial).isLive = true := by
    simp [expired, TimerPlace.isLive]
  rcases represents.exists_live isLive with ⟨timer, alive⟩
  exact ⟨expired, timer, alive, located.batch_address entry member rfl timer alive⟩

theorem runCallback_ok (represents : queue.Represents place) {now : Int}
    {expired rest : List Entry} {entry : Entry}
    (calling : queue.phase = .calling now expired (entry :: rest))
    (suffix : entry :: rest <:+ expired) :
    queue.runCallback = .ok { queue with
      phase := .calling now expired rest
      starts := queue.starts ++ [(entry.timer.serial, queue.reads)] } := by
  have member : entry ∈ queue.batch := by
    simp only [TimerQueue.batch, calling]
    exact suffix.subset (by simp)
  rcases represents.live_of_mem_batch member with ⟨_, timer, alive, _⟩
  unfold runCallback
  rw [calling]
  simp only
  rw [deref_of_live alive, Checked.ok_bind]
  rfl

/-! ## Putting the timers back -/

/-- The loop of `reset` queues a repeating timer again unless it was cancelled
by a callback, and frees any other. -/
theorem resetNext_ok (represents : queue.Represents place) {now : Int}
    {rest : List Entry} {entry : Entry}
    (resetting : queue.phase = .resetting now (entry :: rest)) :
    ∃ next, queue.resetNext = .ok next ∧ next.phase = .resetting now rest ∧
      next.callingExpiredTimers = queue.callingExpiredTimers ∧
      next.cancelingTimers = queue.cancelingTimers ∧
      next.reads = queue.reads ∧ next.starts = queue.starts ∧
      queue.SameTimers next ∧ place entry.timer.serial = .expired ∧
      ((queue.cancelingTimers.find
            (ActiveTimer.key ⟨entry.timer, entry.timer.serial⟩) = none ∧
          next.Represents (Function.update place entry.timer.serial .queued)) ∨
        next.Represents (Function.update place entry.timer.serial .freed)) := by
  have batch : queue.batch = entry :: rest := by simp [TimerQueue.batch, resetting]
  have member : entry ∈ queue.batch := by simp [batch]
  rcases represents.live_of_mem_batch member with ⟨expired, timer, alive, address⟩
  have nodup := represents.batch_nodup
  rw [batch, List.map_cons, List.nodup_cons] at nodup
  have memRest : ∀ other, other ∈ rest ↔
      other.timer.serial ≠ entry.timer.serial ∧ other ∈ queue.batch := by
    intro other
    rw [batch, List.mem_cons]
    constructor
    · intro inRest
      refine ⟨?_, .inr inRest⟩
      intro same
      exact nodup.1 (List.mem_map.mpr ⟨other, inRest, same⟩)
    · rintro ⟨different, equal | inRest⟩
      · rw [equal] at different
        exact absurd rfl different
      · exact inRest
  have located := represents.located entry.timer.serial
  have wasHanded : entry.timer.serial ∈ queue.handed := by
    rw [located.handed, expired]
    simp
  unfold resetNext
  rw [resetting]
  simp only
  rw [deref_of_live alive, Checked.ok_bind, sequence_of_live alive, Checked.ok_bind]
  split
  · rename_i again
    let restarted : TimerQueue := { queue with
      phase := .resetting now rest
      live := Function.update queue.live entry.timer.serial (some (timer.restart now)) }
    have restartAddress : (timer.restart now).address = entry.timer.address := by
      unfold Timer.restart
      split <;> exact address
    rcases represents.address_free alive address (by simp [expired]) with
      ⟨timersFree, activeFree⟩
    have restartedSizes : restarted.timers.size = restarted.activeTimers.size :=
      represents.sizes
    have restartedAlive : restarted.live entry.timer.serial =
        some (timer.restart now) := Function.update_self _ _ _
    rcases insert_ok restartedSizes restartedAlive timersFree activeFree with
      ⟨earliestChanged, inserted⟩
    have restart : TimerQueue.restart { queue with phase := .resetting now rest }
        entry.timer now = .ok restarted := by
      simp [TimerQueue.restart, deref, alive, restarted]
    rw [restart, Checked.ok_bind, inserted, Checked.ok_bind]
    refine ⟨_, rfl, rfl, rfl, rfl, rfl, rfl, ⟨rfl, rfl⟩, expired, .inl ⟨again.2, ?_⟩⟩
    refine represents.enqueue alive address (by simp [expired]) restartAddress
      ⟨rfl, rfl, rfl, rfl, memRest, rfl, ?_⟩ nodup.2 represents.handed_nodup
    intro serial
    constructor
    · exact .inr
    · rintro (equal | member)
      · rw [equal]
        exact wasHanded
      · exact member
  · simp only [delete, deref, alive, Checked.ok_bind]
    refine ⟨_, rfl, rfl, rfl, rfl, rfl, rfl, ⟨rfl, rfl⟩, expired, .inr ?_⟩
    have timersElsewhere : ∀ other ∈ queue.timers,
        other.timer.serial ≠ entry.timer.serial := by
      intro other inTimers same
      have queued := (represents.queued_of_mem_timers inTimers).1
      rw [same, expired] at queued
      cases queued
    have activeElsewhere : ∀ active ∈ queue.activeTimers,
        active.timer.serial ≠ entry.timer.serial := by
      intro active inActive same
      have queued := (((represents.located _).activeTimers active rfl).mp inActive).1
      rw [same, expired] at queued
      cases queued
    refine represents.release (.inr expired) rfl rfl ?_ ?_ represents.sizes memRest
      nodup.2 rfl rfl
    · exact fun other => ⟨fun inTimers => ⟨timersElsewhere other inTimers, inTimers⟩,
        And.right⟩
    · exact fun active => ⟨fun inActive => ⟨activeElsewhere active inActive, inActive⟩,
        And.right⟩

theorem finishReset_ok (represents : queue.Represents place) {now : Int}
    (resetting : queue.phase = .resetting now []) (clock : Int) :
    ∃ next, queue.finishReset clock = .ok next ∧ next.Represents place ∧
      next.phase = .idle ∧
      next.callingExpiredTimers = queue.callingExpiredTimers ∧
      next.reads = queue.reads ∧ next.starts = queue.starts ∧
      queue.SameTimers next := by
  have noBatch : queue.batch = [] := by simp [TimerQueue.batch, resetting]
  have found : ∃ nextExpire, queue.nextExpire = .ok nextExpire := by
    unfold TimerQueue.nextExpire
    cases first : queue.timers.first with
    | none => exact ⟨0, rfl⟩
    | some entry =>
        have member : entry ∈ queue.timers := List.mem_of_mem_head? first
        rcases represents.queued_of_mem_timers member with ⟨_, timer, alive, _⟩
        simp only [deref_of_live alive]
        exact ⟨timer.expiration, rfl⟩
  rcases found with ⟨nextExpire, found⟩
  unfold finishReset
  rw [found, Checked.ok_bind]
  split
  · exact ⟨_, rfl, represents.of_fields rfl rfl rfl rfl noBatch.symm rfl rfl,
      rfl, rfl, rfl, rfl, ⟨rfl, rfl⟩⟩
  · exact ⟨_, rfl, represents.of_fields rfl rfl rfl rfl noBatch.symm rfl rfl,
      rfl, rfl, rfl, rfl, ⟨rfl, rfl⟩⟩

end Ccnet.Net.TimerQueue
