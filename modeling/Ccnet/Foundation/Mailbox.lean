import Mathlib.Data.List.Nodup
import Mathlib.Logic.Function.Basic

namespace Ccnet

/-! Messages that wait at places. Each message is about a subject, and the protocol
passes one message for each subject around: whoever takes it may put the next one
somewhere else. -/

variable {Place : Type u} {Message : Type v} {Subject : Type w}

/-- No two messages, at one place or at two, are about the same subject. -/
structure SingleMail (subject : Message → Subject) (mail : Place → List Message) : Prop where
  nodup : ∀ place, ((mail place).map subject).Nodup
  place : ∀ {here there : Place} {first second : Message}, first ∈ mail here →
    second ∈ mail there → subject first = subject second → here = there

namespace SingleMail

variable {subject : Message → Subject} {mail : Place → List Message}

theorem empty : SingleMail subject (fun _ : Place => []) where
  nodup _ := List.nodup_nil
  place member := absurd member (List.not_mem_nil)

section Update

variable [DecidableEq Place] {here : Place} {message : Message} {rest : List Message}

/-- Once the message is taken, no other is about its subject. -/
theorem absent_of_take (single : SingleMail subject mail) (taken : mail here = message :: rest)
    {place : Place} {other : Message}
    (member : other ∈ Function.update mail here rest place) :
    subject other ≠ subject message := by
  intro same
  by_cases isHere : place = here
  · subst isHere
    rw [Function.update_self] at member
    have nodup := single.nodup place
    rw [taken, List.map_cons, List.nodup_cons] at nodup
    exact nodup.1 (List.mem_map.mpr ⟨other, member, same⟩)
  · rw [Function.update_of_ne isHere] at member
    refine isHere (single.place member ?_ same)
    rw [taken]
    exact List.mem_cons_self

theorem mem_of_take (taken : mail here = message :: rest) {place : Place} {other : Message}
    (member : other ∈ Function.update mail here rest place) : other ∈ mail place := by
  by_cases isHere : place = here
  · subst isHere
    rw [Function.update_self] at member
    rw [taken]
    exact List.mem_cons_of_mem _ member
  · rwa [Function.update_of_ne isHere] at member

theorem take (single : SingleMail subject mail) (taken : mail here = message :: rest) :
    SingleMail subject (Function.update mail here rest) where
  nodup place := by
    have nodup := single.nodup place
    by_cases isHere : place = here
    · subst isHere
      rw [taken, List.map_cons] at nodup
      rw [Function.update_self]
      exact nodup.of_cons
    · rwa [Function.update_of_ne isHere]
  place first second same :=
    single.place (mem_of_take taken first) (mem_of_take taken second) same

theorem mem_of_put {mailbox : List Message} (perm : mailbox.Perm (message :: mail here))
    {place : Place} {other : Message}
    (member : other ∈ Function.update mail here mailbox place) :
    (place = here ∧ other = message) ∨ other ∈ mail place := by
  by_cases isHere : place = here
  · subst isHere
    rw [Function.update_self, perm.mem_iff] at member
    rcases List.mem_cons.mp member with new | old
    · exact .inl ⟨rfl, new⟩
    · exact .inr old
  · rw [Function.update_of_ne isHere] at member
    exact .inr member

/-- A message about a new subject may be put anywhere. -/
theorem put {mailbox : List Message} (single : SingleMail subject mail)
    (absent : ∀ place, ∀ other ∈ mail place, subject other ≠ subject message)
    (perm : mailbox.Perm (message :: mail here)) :
    SingleMail subject (Function.update mail here mailbox) where
  nodup place := by
    by_cases isHere : place = here
    · subst isHere
      rw [Function.update_self, (perm.map subject).nodup_iff, List.map_cons, List.nodup_cons]
      refine ⟨?_, single.nodup place⟩
      intro member
      rcases List.mem_map.mp member with ⟨other, isOther, same⟩
      exact absent place other isOther same
    · rw [Function.update_of_ne isHere]
      exact single.nodup place
  place first second same := by
    rcases mem_of_put perm first with ⟨firstHere, isFirst⟩ | firstOld
    · rcases mem_of_put perm second with ⟨secondHere, _⟩ | secondOld
      · exact firstHere.trans secondHere.symm
      · rw [isFirst] at same
        exact absurd same.symm (absent _ _ secondOld)
    · rcases mem_of_put perm second with ⟨_, isSecond⟩ | secondOld
      · rw [isSecond] at same
        exact absurd same (absent _ _ firstOld)
      · exact single.place firstOld secondOld same

end Update

end SingleMail

end Ccnet
