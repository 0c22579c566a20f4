import Mathlib.Data.List.Perm.Subperm
import Ccnet.Net.Connection.FlowControl
import Ccnet.Net.Connection.Link

namespace Ccnet.Net

/-! What `send` passes on, over whole runs: only a call of `send` adds to it, and nothing is added
after the channel was removed. -/

/-! ## Removed connections -/

namespace Control

variable {before after : Control} {label : Label}

def Unconnected (control : Control) : Prop :=
  control.removed = true ∨ .channelRemove ∈ control.stack → control.state ≠ .kConnected

theorem Unconnected.updated {events : PollEvents} (unconnected : before.Unconnected)
    (updated : before.Updated after events) : after.Unconnected := by
  rcases updated with ⟨index, inKernel, known, removes, deleted, rfl⟩
  exact unconnected

theorem Unconnected.restack (unconnected : before.Unconnected)
    (removed : after.removed = before.removed) (state : after.state = before.state)
    (stack : .channelRemove ∈ after.stack → .channelRemove ∈ before.stack) :
    after.Unconnected := by
  unfold Unconnected
  rw [removed, state]
  exact fun gone => unconnected (gone.imp_right stack)

theorem Step.unconnected (stepped : before.Step label after) (registered : before.Registered)
    (running : before.removed = false) (unconnected : before.Unconnected) :
    after.Unconnected := by
  cases stepped with
  | same => exact unconnected
  | beginSetting => exact unconnected.restack rfl rfl id
  | disconnecting | setDisconnecting =>
      intro _ connected
      cases connected
  | enableWriting _ updated | startRead updated | stopRead updated =>
      exact unconnected.updated updated
  | pollOthers | poll | endEvents => exact unconnected.restack rfl rfl id
  | dispatch | forceClose | destroyLater =>
      refine unconnected.restack rfl rfl (fun member => ?_)
      simp at member
  | destroyServer _ =>
      refine unconnected.restack rfl rfl (fun member => ?_)
      exact (List.mem_cons.mp member).resolve_left nofun
  | connectEstablished stack connecting updated =>
      rcases updated with ⟨index, inKernel, known, removes, deleted, rfl⟩
      have alone := registered.connecting connecting
      rw [stack, List.cons.injEq] at alone
      intro gone
      simp [running, alone.2] at gone
  | finish stack _ | closeCallback stack =>
      refine unconnected.restack rfl rfl (fun member => ?_)
      rw [stack]
      exact List.mem_cons_of_mem _ member
  | @nextCallback callback rest below stack =>
      refine unconnected.restack ?_ ?_ (fun member => ?_)
      · cases callback <;> rfl
      · cases callback <;> rfl
      · rw [stack]
        cases callback <;> simpa [called] using member
  | readNothing stack | readData stack | connectDestroyed stack =>
      refine unconnected.restack rfl rfl (fun member => ?_)
      rw [stack]
      exact List.mem_cons_of_mem _ ((List.mem_cons.mp member).resolve_left nofun)
  | disableWriting stack _ updated =>
      refine Unconnected.updated ?_ updated
      refine unconnected.restack rfl rfl (fun member => ?_)
      rw [stack]
      exact List.mem_cons_of_mem _ member
  | handleClose _ _ disconnected | destroyConnected _ disconnected =>
      rcases disconnected with ⟨_, ⟨index, inKernel, known, removes, deleted, rfl⟩, rfl⟩
      intro _ connected
      cases connected
  | connectDestroyedLate _ notConnected => exact fun _ => notConnected
  | channelRemove stack _ =>
      intro _
      refine unconnected (.inr ?_)
      rw [stack]
      exact List.mem_cons_self

end Control

namespace ConnectionSystem

variable {system next : ConnectionSystem}

/-- A connection is removed after it has left `kConnected`. -/
theorem running_of_connected (reachable : machine.Reachable system)
    (connected : system.connection.state = .kConnected) : system.removed = false := by
  have unconnected : system.control.Unconnected := by
    refine reachable.invariant_knowing (fun _ => registered_of_reachable)
      (fun system => system.control.Unconnected) ?_ ?_
    · intro first initial
      rw [initial.control]
      rintro (removed | member)
      · cases removed
      · simp at member
    · intro before action after registered unconnected allowed stepped
      exact (step_control allowed stepped).unconnected registered allowed.1 unconnected
  exact Bool.eq_false_iff.mpr fun removed => unconnected (.inl removed) connected

/-! ## Messages that are passed on -/

/-- `shutdown` in the loop thread returns to where it was called. -/
theorem shutdown_stack {result : WriteResult}
    (ran : system.step (.call none .shutdown result) = .ok next) :
    next.stack = system.stack ∧ next.removed = system.removed := by
  simp only [step, shutdown] at ran
  split at ran
  · cases ran
    unfold shutdownInLoop
    split <;> exact ⟨rfl, rfl⟩
  · cases ran
    exact ⟨rfl, rfl⟩

/-- Only a call of `send` passes a message on. -/
theorem step_issued {action : Action} (allowed : system.Allowed action)
    (notCall : ∀ caller call result, action ≠ .call caller call result)
    (ran : system.step action = .ok next) :
    next.history.issued = system.history.issued := by
  cases action with
  | call caller call result => exact absurd rfl (notCall caller call result)
  | retrieveInput _ | handleRead _ =>
      exact congrArg OrderView.issued (step_views rfl allowed ran).2
  | setDisconnecting _ | push _ | poll _ | dispatch | endEvents | swapFunctors | runFunctor _
  | connectEstablished | returnCallback | nextCallback | finishEvent | handleWrite _
  | handleClose | closeCallback | connectDestroyed | destroyConnected | channelRemove
  | removeConnectionInLoop | destroyServer _ =>
      exact (step_transmits rfl ran).issued

/-- The messages that `sendInLoop` has dealt with are among those that were passed on. -/
theorem sends_subperm (reachable : machine.Reachable system) :
    (system.history.sends.map fun record => (record.sender, record.message)).Subperm
      system.history.issued := by
  have ordered := (streaming_of_reachable reachable).order
  rw [List.subperm_ext_iff]
  rintro ⟨caller, message⟩ _
  have dealtWith : (system.history.sends.map fun record => (record.sender, record.message)).count
      (caller, message) = (system.orderView.dealtWith caller).count message := by
    unfold OrderView.dealtWith orderView
    dsimp only
    induction system.history.sends with
    | nil => rfl
    | cons record sends induction =>
        by_cases same : record.sender = caller
        · simp [List.count_cons, same, induction]
        · simp [same, induction]
  have issuedBy : system.history.issued.count (caller, message) =
      (system.orderView.issuedBy caller).count message := by
    unfold OrderView.issuedBy orderView
    dsimp only
    induction system.history.issued with
    | nil => rfl
    | cons entry issued induction =>
        rcases entry with ⟨sender, text⟩
        by_cases same : sender = caller
        · simp [List.count_cons, same, induction]
        · simp [same, induction]
  rw [dealtWith, issuedBy, ← ordered.order caller, List.append_assoc, List.count_append]
  exact Nat.le_add_right _ _

end ConnectionSystem

end Ccnet.Net
