namespace Ccnet.Net

/-! The functors waiting in an event loop. `doPendingFunctors` takes a whole
batch out of `pendingFunctors_` and then starts its members one by one, so a
functor waits in one of two lists. -/

structure FunctorQueue (Functor : Type u) where
  functors : List Functor
  pendingFunctors : List Functor
  deriving DecidableEq, Repr

namespace FunctorQueue

variable {Functor : Type u}

def empty : FunctorQueue Functor where
  functors := []
  pendingFunctors := []

def push (queue : FunctorQueue Functor) (functor : Functor) :
    FunctorQueue Functor :=
  { queue with pendingFunctors := queue.pendingFunctors ++ [functor] }

/-- `functors.swap(pendingFunctors_)`, where `functors` is a fresh vector. -/
def swap (queue : FunctorQueue Functor) : FunctorQueue Functor where
  functors := queue.pendingFunctors
  pendingFunctors := []

def next : FunctorQueue Functor → Option (Functor × FunctorQueue Functor)
  | { functors := [], pendingFunctors := _ } => none
  | { functors := functor :: rest, pendingFunctors := pending } =>
      some (functor, { functors := rest, pendingFunctors := pending })

/-- Everything that still has to run, in the order in which it will. -/
def outstanding (queue : FunctorQueue Functor) : List Functor :=
  queue.functors ++ queue.pendingFunctors

@[simp] theorem outstanding_empty :
    (empty : FunctorQueue Functor).outstanding = [] := rfl

@[simp] theorem outstanding_push (queue : FunctorQueue Functor)
    (functor : Functor) :
    (queue.push functor).outstanding = queue.outstanding ++ [functor] := by
  simp [outstanding, push]

theorem outstanding_swap {queue : FunctorQueue Functor}
    (finished : queue.functors = []) :
    queue.swap.outstanding = queue.outstanding := by
  simp [outstanding, swap, finished]

theorem next_eq_some_iff {queue rest : FunctorQueue Functor}
    {functor : Functor} :
    queue.next = some (functor, rest) ↔
      queue.functors = functor :: rest.functors ∧
        rest.pendingFunctors = queue.pendingFunctors := by
  rcases queue with ⟨functors, pending⟩
  rcases rest with ⟨restFunctors, restPending⟩
  cases functors with
  | nil => simp [next]
  | cons head tail =>
      simp only [next, Option.some.injEq, Prod.mk.injEq, mk.injEq,
        List.cons.injEq]
      constructor
      · rintro ⟨rfl, rfl, rfl⟩
        exact ⟨⟨rfl, rfl⟩, rfl⟩
      · rintro ⟨⟨rfl, rfl⟩, rfl⟩
        exact ⟨rfl, rfl, rfl⟩

theorem outstanding_next {queue rest : FunctorQueue Functor}
    {functor : Functor} (taken : queue.next = some (functor, rest)) :
    queue.outstanding = functor :: rest.outstanding := by
  rcases next_eq_some_iff.mp taken with ⟨functors, pending⟩
  simp [outstanding, functors, pending]

end FunctorQueue

end Ccnet.Net
