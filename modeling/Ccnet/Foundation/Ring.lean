import Ccnet.Foundation.Fault
import Mathlib.Data.List.Chain
import Mathlib.Data.List.Nodup
import Mathlib.Logic.Function.Basic

namespace Ccnet

/-! Circular doubly linked lists, as the two functions that give every node its
successor and its predecessor. A node that is taken out keeps its own links, so
that it can be put back. -/

@[ext] structure Links (α : Type u) where
  next : α → α
  prev : α → α

namespace Links

variable {α : Type u} [DecidableEq α]

def flip (links : Links α) : Links α := ⟨links.prev, links.next⟩

/-- `node->next->prev = node->prev; node->prev->next = node->next;` -/
def unlink (links : Links α) (node : α) : Links α :=
  let first : Links α := { links with
    prev := Function.update links.prev (links.next node) (links.prev node) }
  { first with next := Function.update first.next (first.prev node) (first.next node) }

/-- `node->next->prev = node; node->prev->next = node;` -/
def relink (links : Links α) (node : α) : Links α :=
  let first : Links α := { links with
    prev := Function.update links.prev (links.next node) node }
  { first with next := Function.update first.next (first.prev node) node }

/-- `node->prev = old->prev; node->next = old; old->prev->next = node;
old->prev = node;` -/
def insertBefore (links : Links α) (old node : α) : Links α :=
  let first : Links α := { links with
    prev := Function.update links.prev node (links.prev old) }
  let second : Links α := { first with next := Function.update first.next node old }
  let third : Links α := { second with
    next := Function.update second.next (second.prev old) node }
  { third with prev := Function.update third.prev old node }

/-- `node->prev = node; node->next = node;` -/
def alone (links : Links α) (node : α) : Links α where
  next := Function.update links.next node node
  prev := Function.update links.prev node node

def Edge (links : Links α) (left right : α) : Prop :=
  links.next left = right ∧ links.prev right = left

/-- The node's neighbours point back to it, and it is not its own neighbour. -/
structure Linked (links : Links α) (node : α) : Prop where
  next_prev : links.next (links.prev node) = node
  prev_next : links.prev (links.next node) = node
  next_ne : links.next node ≠ node
  prev_ne : links.prev node ≠ node

/-- The nodes after `head`, up to `head` again. -/
structure Ring (links : Links α) (head : α) (rest : List α) : Prop where
  nodup : (head :: rest).Nodup
  path : (head :: rest ++ [head]).IsChain links.Edge

/-! ## Taking out and putting back -/

section Unlink

variable {links : Links α} {node head left right : α} {rest : List α}

theorem unlink_eq (next_ne : links.next node ≠ node) :
    links.unlink node = {
      next := Function.update links.next (links.prev node) (links.next node)
      prev := Function.update links.prev (links.next node) (links.prev node) } := by
  simp [unlink, Function.update_of_ne next_ne.symm]

theorem relink_eq (next_ne : links.next node ≠ node) :
    links.relink node = {
      next := Function.update links.next (links.prev node) node
      prev := Function.update links.prev (links.next node) node } := by
  simp [relink, Function.update_of_ne next_ne.symm]

/-- Putting a node back undoes taking it out. -/
theorem relink_unlink (linked : links.Linked node) :
    (links.unlink node).relink node = links := by
  rcases linked with ⟨next_prev, prev_next, next_ne, prev_ne⟩
  have same : (links.unlink node).next node = links.next node := by
    rw [unlink_eq next_ne]
    exact Function.update_of_ne prev_ne.symm _ _
  have samePrev : (links.unlink node).prev node = links.prev node := by
    rw [unlink_eq next_ne]
    exact Function.update_of_ne next_ne.symm _ _
  rw [relink_eq (by rw [same]; exact next_ne), same, samePrev, unlink_eq next_ne]
  ext other
  · simp only [Function.update_idem]
    by_cases here : other = links.prev node
    · rw [here, Function.update_self, next_prev]
    · rw [Function.update_of_ne here]
  · simp only [Function.update_idem]
    by_cases here : other = links.next node
    · rw [here, Function.update_self, prev_next]
    · rw [Function.update_of_ne here]

/-- Every link that does not involve the node stays. -/
theorem Edge.unlink (edge : links.Edge left right) (linked : links.Linked node)
    (left_ne : left ≠ node) (right_ne : right ≠ node) :
    (links.unlink node).Edge left right := by
  rcases edge with ⟨next, prev⟩
  have away : left ≠ links.prev node := by
    intro same
    rw [same, linked.next_prev] at next
    exact right_ne next.symm
  have awayPrev : right ≠ links.next node := by
    intro same
    rw [same, linked.prev_next] at prev
    exact left_ne prev.symm
  rw [unlink_eq linked.next_ne]
  exact ⟨(Function.update_of_ne away _ _).trans next,
    (Function.update_of_ne awayPrev _ _).trans prev⟩

theorem Linked.edge_unlink (linked : links.Linked node) :
    (links.unlink node).Edge (links.prev node) (links.next node) := by
  rw [unlink_eq linked.next_ne]
  exact ⟨Function.update_self _ _ _, Function.update_self _ _ _⟩

theorem path_unlink {nodes : List α} (path : nodes.IsChain links.Edge)
    (linked : links.Linked node) (absent : node ∉ nodes) :
    nodes.IsChain (links.unlink node).Edge := by
  apply path.imp_of_mem_imp
  intro left right leftMember rightMember edge
  apply edge.unlink linked
  · rintro rfl
    exact absent leftMember
  · rintro rfl
    exact absent rightMember

end Unlink

end Links

/-! ## Rings -/

namespace Links.Ring

section Shape

variable {α : Type u} {links : Links α} {head node : α} {rest front back : List α}

theorem head_not_mem (ring : links.Ring head rest) : head ∉ rest :=
  (List.nodup_cons.mp ring.nodup).1

theorem rest_nodup (ring : links.Ring head rest) : rest.Nodup :=
  (List.nodup_cons.mp ring.nodup).2

theorem single (next : links.next head = head) (prev : links.prev head = head) :
    links.Ring head [] where
  nodup := List.nodup_singleton head
  path := List.isChain_pair.mpr ⟨next, prev⟩

/-- A node of a ring, with the path up to it and the path after it. -/
structure Around (links : Links α) (front : List α) (node : α) (back : List α) :
    Prop where
  frontPath : front.IsChain links.Edge
  backPath : back.IsChain links.Edge
  fromFront : ∀ left ∈ front.getLast?, links.Edge left node
  toBack : ∀ right ∈ back.head?, links.Edge node right
  absent : node ∉ front ++ back

theorem around (ring : links.Ring head (front ++ node :: back)) :
    Around links (head :: front) node (back ++ [head]) := by
  have path := ring.path
  have split : head :: (front ++ node :: back) ++ [head] =
      (head :: front) ++ (node :: (back ++ [head])) := by simp
  rw [split, List.isChain_append] at path
  rcases path with ⟨frontPath, afterPath, between⟩
  rw [List.isChain_cons] at afterPath
  refine ⟨frontPath, afterPath.2, ?_, afterPath.1, ?_⟩
  · intro left member
    exact between left member node rfl
  · have nodup := ring.nodup
    simp only [List.nodup_cons, List.nodup_append, List.mem_append, List.mem_cons] at nodup
    simp only [List.mem_append, List.mem_cons]
    grind

theorem linked (ring : links.Ring head rest) (member : node ∈ rest) :
    links.Linked node := by
  rcases List.append_of_mem member with ⟨front, back, rfl⟩
  have around := ring.around
  have absent := around.absent
  rw [List.mem_append, not_or] at absent
  rcases List.exists_mem_of_ne_nil (head :: front).getLast?.toList (by simp) with
    ⟨left, leftMember⟩
  rcases List.exists_mem_of_ne_nil (back ++ [head]).head?.toList (by simp) with
    ⟨right, rightMember⟩
  rw [Option.mem_toList] at leftMember rightMember
  have before := around.fromFront left leftMember
  have after := around.toBack right rightMember
  refine ⟨?_, ?_, ?_, ?_⟩
  · rw [before.2, before.1]
  · rw [after.1, after.2]
  · rw [after.1]
    rintro rfl
    exact absent.2 (List.mem_of_mem_head? rightMember)
  · rw [before.2]
    rintro rfl
    exact absent.1 (List.mem_of_mem_getLast? leftMember)

/-- The walk from a node of the ring goes on with what follows it. -/
theorem next_eq (ring : links.Ring head (front ++ node :: back)) :
    links.next node = back.headD head := by
  have after := ring.around.toBack (back.headD head) (by cases back <;> simp)
  exact after.1

theorem next_head (ring : links.Ring head rest) : links.next head = rest.headD head := by
  have path := ring.path
  rw [List.cons_append, List.isChain_cons] at path
  exact (path.1 (rest.headD head) (by cases rest <;> simp)).1

theorem next_of_split (ring : links.Ring head rest) (split : head :: rest = front ++ node :: back) :
    links.next node = back.headD head := by
  cases front with
  | nil =>
      cases split
      exact ring.next_head
  | cons first front =>
      cases split
      exact ring.next_eq

/-- Whoever follows the links from the head stays on the ring. -/
theorem iterate_next_mem (ring : links.Ring head rest) (steps : Nat) :
    links.next^[steps] head ∈ head :: rest := by
  induction steps with
  | zero => exact List.mem_cons_self
  | succ steps induction =>
      rw [Function.iterate_succ_apply']
      rcases List.append_of_mem induction with ⟨front, back, split⟩
      rw [ring.next_of_split split]
      cases back with
      | nil => exact List.mem_cons_self
      | cons next back =>
          rw [split]
          simp

theorem iterate_next_of_split (ring : links.Ring head rest)
    (split : head :: rest = front ++ node :: back) : links.next^[front.length] head = node := by
  induction front using List.reverseRecOn generalizing node back with
  | nil =>
      cases split
      rfl
  | append_singleton front last induction =>
      rw [List.append_assoc, List.singleton_append] at split
      rw [List.length_append, List.length_singleton, Function.iterate_succ_apply',
        induction split]
      exact ring.next_of_split split

/-- Following the links from the head leads to exactly the nodes of the ring. -/
theorem mem_iff_iterate_next (ring : links.Ring head rest) :
    node ∈ head :: rest ↔ ∃ steps, links.next^[steps] head = node := by
  constructor
  · intro member
    rcases List.append_of_mem member with ⟨front, back, split⟩
    exact ⟨front.length, ring.iterate_next_of_split split⟩
  · rintro ⟨steps, rfl⟩
    exact ring.iterate_next_mem steps

theorem edge_last (ring : links.Ring head rest) :
    ∀ last ∈ (head :: rest).getLast?, links.Edge last head := by
  have path := ring.path
  rw [List.isChain_append] at path
  exact fun last member => path.2.2 last member head rfl

theorem prev_head_mem (ring : links.Ring head rest) : links.prev head ∈ head :: rest := by
  have last := List.getLast?_eq_some_getLast (List.cons_ne_nil head rest)
  rw [(ring.edge_last _ last).2]
  exact List.getLast_mem _

theorem next_prev_head (ring : links.Ring head rest) : links.next (links.prev head) = head := by
  have last := List.getLast?_eq_some_getLast (List.cons_ne_nil head rest)
  rw [(ring.edge_last _ last).2, (ring.edge_last _ last).1]

theorem mem_of_mem_path {other : α} (member : other ∈ head :: rest ++ [head]) :
    other ∈ head :: rest := by
  rcases List.mem_append.mp member with member | member
  · exact member
  · rw [List.mem_singleton.mp member]
    exact List.mem_cons_self

theorem flip (ring : links.Ring head rest) : links.flip.Ring head rest.reverse where
  nodup := by simpa using ring.nodup
  path := by
    have reversed : head :: rest.reverse ++ [head] = (head :: rest ++ [head]).reverse := by
      simp
    rw [reversed, List.isChain_reverse]
    apply ring.path.imp
    intro left right edge
    exact ⟨edge.2, edge.1⟩

/-- The same ring, from another of its nodes. -/
theorem rotate (ring : links.Ring head (front ++ node :: back)) :
    links.Ring node (back ++ head :: front) where
  nodup := by
    have nodup := ring.nodup
    simp only [List.nodup_cons, List.nodup_append, List.mem_append, List.mem_cons] at nodup ⊢
    grind
  path := by
    have path := ring.path
    have split : head :: (front ++ node :: back) ++ [head] =
        (head :: front) ++ node :: (back ++ [head]) := by simp
    have turned : node :: (back ++ head :: front) ++ [node] =
        (node :: back) ++ head :: (front ++ [node]) := by simp
    rw [split, List.isChain_split] at path
    rw [turned, List.isChain_split]
    exact ⟨path.2, path.1⟩

end Shape

section Change

variable {α : Type u} [DecidableEq α] {links : Links α} {head node old : α}
  {rest front back : List α}

theorem unlink_absent (ring : links.Ring head rest) (linked : links.Linked node)
    (absent : node ∉ head :: rest) : (links.unlink node).Ring head rest where
  nodup := ring.nodup
  path := by
    apply path_unlink ring.path linked
    exact fun member => absent (mem_of_mem_path member)

theorem unlink_split (ring : links.Ring head (front ++ node :: back)) :
    (links.unlink node).Ring head (front ++ back) where
  nodup := List.Nodup.sublist (by simp) ring.nodup
  path := by
    have around := ring.around
    have linked : links.Linked node := ring.linked (by simp)
    have absent := around.absent
    rw [List.mem_append, not_or] at absent
    have split : head :: (front ++ back) ++ [head] = (head :: front) ++ (back ++ [head]) := by
      simp
    rw [split]
    apply (path_unlink around.frontPath linked absent.1).append
      (path_unlink around.backPath linked absent.2)
    intro left leftMember right rightMember
    rw [← (around.fromFront left leftMember).2, ← (around.toBack right rightMember).1]
    exact linked.edge_unlink

theorem unlink (ring : links.Ring head rest) (member : node ∈ rest) :
    (links.unlink node).Ring head (rest.filter (· ≠ node)) := by
  rcases List.append_of_mem member with ⟨front, back, rfl⟩
  have kept : (front ++ node :: back).filter (· ≠ node) = front ++ back := by
    have nodup := ring.rest_nodup
    simp only [List.nodup_append, List.nodup_cons, List.mem_cons] at nodup
    have inFront : front.filter (· ≠ node) = front := by
      rw [List.filter_eq_self]
      intro other otherMember
      simpa using nodup.2.2 other otherMember node (.inl rfl)
    have inBack : back.filter (· ≠ node) = back := by
      rw [List.filter_eq_self]
      rintro other otherMember
      simp only [ne_eq, decide_eq_true_eq]
      rintro rfl
      exact nodup.2.1.1 otherMember
    rw [List.filter_append, List.filter_cons, inFront, inBack]
    simp
  rw [kept]
  exact ring.unlink_split

/-! Growing a ring. -/

theorem insertBefore_eq (different : old ≠ node) :
    links.insertBefore old node = {
      next := Function.update (Function.update links.next node old) (links.prev old) node
      prev := Function.update (Function.update links.prev node (links.prev old)) old node } := by
  simp [Links.insertBefore, Function.update_of_ne different]

theorem edge_insertBefore {left right : α} (edge : links.Edge left right)
    (linked : links.next (links.prev old) = old) (different : old ≠ node)
    (left_ne : left ≠ node) (right_ne : right ≠ node) (not_old : right ≠ old) :
    (links.insertBefore old node).Edge left right := by
  rcases edge with ⟨next, prev⟩
  have away : left ≠ links.prev old := by
    rintro rfl
    exact not_old (next.symm.trans linked)
  rw [insertBefore_eq different]
  constructor
  · exact (Function.update_of_ne away _ _).trans
      ((Function.update_of_ne left_ne _ _).trans next)
  · exact (Function.update_of_ne not_old _ _).trans
      ((Function.update_of_ne right_ne _ _).trans prev)

theorem insertBefore_absent (ring : links.Ring head rest)
    (linked : links.next (links.prev old) = old) (different : old ≠ node)
    (absent : node ∉ head :: rest) (notOld : old ∉ head :: rest) :
    (links.insertBefore old node).Ring head rest where
  nodup := ring.nodup
  path := by
    apply ring.path.imp_of_mem_imp
    intro left right leftMember rightMember edge
    apply edge_insertBefore edge linked different
    · rintro rfl
      exact absent (mem_of_mem_path leftMember)
    · rintro rfl
      exact absent (mem_of_mem_path rightMember)
    · rintro rfl
      exact notOld (mem_of_mem_path rightMember)

theorem insertBefore (ring : links.Ring head rest) (absent : node ∉ head :: rest) :
    (links.insertBefore head node).Ring head (rest ++ [node]) where
  nodup := by
    have nodup := ring.nodup
    simp only [List.nodup_cons, List.nodup_append, List.mem_append, List.mem_cons] at nodup absent ⊢
    grind
  path := by
    have linked := ring.next_prev_head
    have different : head ≠ node := by
      rintro rfl
      exact absent List.mem_cons_self
    have path := ring.path
    rw [List.isChain_append] at path
    have split : head :: (rest ++ [node]) ++ [head] = (head :: rest) ++ [node, head] := by simp
    rw [split]
    apply List.IsChain.append
    · apply path.1.imp_of_mem_tail_imp
      intro left right leftMember rightMember edge
      have right_ne : right ≠ head := by
        rintro rfl
        exact ring.head_not_mem rightMember
      apply edge_insertBefore edge linked different _ _ right_ne
      · rintro rfl
        exact absent leftMember
      · rintro rfl
        exact absent (List.mem_cons_of_mem _ rightMember)
    · have away : node ≠ links.prev head := by
        intro same
        rw [same] at absent
        exact absent ring.prev_head_mem
      rw [List.isChain_pair, insertBefore_eq different]
      constructor
      · exact (Function.update_of_ne away _ _).trans (Function.update_self _ _ _)
      · exact Function.update_self _ _ _
    · intro last member next same
      cases same
      rw [insertBefore_eq different, ← (ring.edge_last last member).2]
      constructor
      · exact Function.update_self _ _ _
      · exact (Function.update_of_ne different.symm _ _).trans (Function.update_self _ _ _)

/-- A node that is set up alone is a ring of its own. -/
theorem alone (links : Links α) (node : α) : (links.alone node).Ring node [] :=
  single (Function.update_self _ _ _) (Function.update_self _ _ _)

theorem alone_absent (ring : links.Ring head rest) (absent : node ∉ head :: rest) :
    (links.alone node).Ring head rest where
  nodup := ring.nodup
  path := by
    apply ring.path.imp_of_mem_imp
    intro left right leftMember rightMember edge
    have left_ne : left ≠ node := by
      rintro rfl
      exact absent (mem_of_mem_path leftMember)
    have right_ne : right ≠ node := by
      rintro rfl
      exact absent (mem_of_mem_path rightMember)
    exact ⟨(Function.update_of_ne left_ne _ _).trans edge.1,
      (Function.update_of_ne right_ne _ _).trans edge.2⟩

end Change

end Links.Ring

/-! ## Walking around a ring -/

section Walk

variable {α : Type u} [DecidableEq α] {State : Type v}

/-- `for (node = start; node != stop; node = node->next) body`. The successor is
read when the body is done. -/
def walk (next : State → α → α) (stop : α) (body : State → α → Checked State) :
    Nat → α → State → Checked State
  | 0, _, _ => .error .outOfFuel
  | fuel + 1, node, state =>
      if node = stop then
        .ok state
      else do
        let after ← body state node
        walk next stop body fuel (next after node) after

/-- What holds of the nodes that are still to be visited and of the state is kept
up by every round of the loop, which also finds its way. -/
theorem walk_ok {next : State → α → α} {stop : α} {body : State → α → Checked State}
    (Remaining : List α → State → Prop)
    (round : ∀ node rest state, Remaining (node :: rest) state → node ≠ stop ∧
      ∃ after, body state node = .ok after ∧ Remaining rest after ∧
        next after node = rest.headD stop)
    {nodes : List α} {state : State} {fuel : Nat} (remaining : Remaining nodes state)
    (enough : nodes.length < fuel) :
    ∃ final, walk next stop body fuel (nodes.headD stop) state = .ok final ∧
      Remaining [] final := by
  induction nodes generalizing state fuel with
  | nil =>
      cases fuel with
      | zero => exact absurd enough (Nat.not_lt_zero _)
      | succ fuel =>
          refine ⟨state, ?_, remaining⟩
          rw [walk, if_pos (by simp)]
  | cons node rest induction =>
      cases fuel with
      | zero => exact absurd enough (Nat.not_lt_zero _)
      | succ fuel =>
          rcases round node rest state remaining with ⟨different, after, ran, later, found⟩
          rcases induction later (Nat.lt_of_succ_lt_succ enough) with ⟨final, walked, done⟩
          refine ⟨final, ?_, done⟩
          rw [walk, List.headD_cons, if_neg different, ran, Checked.ok_bind, found, walked]

/-- A change of the state that neither the body nor the way depends on can be made
before the loop or after it. -/
theorem walk_map {next : State → α → α} {stop : α} {body : State → α → Checked State}
    (change : State → State) (way : ∀ state node, next (change state) node = next state node)
    (commutes : ∀ state node, body (change state) node = (body state node).map change)
    (fuel : Nat) (node : α) (state : State) :
    walk next stop body fuel node (change state) =
      (walk next stop body fuel node state).map change := by
  induction fuel generalizing node state with
  | zero => rfl
  | succ fuel induction =>
      unfold walk
      split
      · rfl
      · rw [commutes]
        cases body state node with
        | error fault => rfl
        | ok after =>
            rw [Except.map, Checked.ok_bind, Checked.ok_bind, way, induction]

/-- A loop whose body cannot fail visits the nodes one after the other. -/
theorem walk_foldl {next : State → α → α} {stop : α} {body : State → α → Checked State}
    {visit : State → α → State} {nodes : List α} {start : State} {fuel : Nat}
    (round : ∀ done node rest, nodes = done ++ node :: rest →
      node ≠ stop ∧
      body (done.foldl visit start) node = .ok (visit (done.foldl visit start) node) ∧
      next (visit (done.foldl visit start) node) node = rest.headD stop)
    (enough : nodes.length < fuel) :
    walk next stop body fuel (nodes.headD stop) start = .ok (nodes.foldl visit start) := by
  have walked : ∃ final, walk next stop body fuel (nodes.headD stop) start = .ok final ∧
      ∃ done, nodes = done ++ [] ∧ final = done.foldl visit start := by
    apply walk_ok
      (fun rest state => ∃ done, nodes = done ++ rest ∧ state = done.foldl visit start)
      _ ⟨[], rfl, rfl⟩ enough
    rintro node rest state ⟨done, nodes_eq, rfl⟩
    rcases round done node rest nodes_eq with ⟨different, ran, found⟩
    refine ⟨different, _, ran, ⟨done ++ [node], ?_, ?_⟩, found⟩
    · rw [nodes_eq, List.append_assoc, List.singleton_append]
    · rw [List.foldl_append, List.foldl_cons, List.foldl_nil]
  rcases walked with ⟨final, ran, done, visited, rfl⟩
  rw [List.append_nil] at visited
  rw [ran, visited]

end Walk

/-- Undoing the last steps in the reverse order leads back to where they began. -/
theorem foldl_undo {α : Type u} {State : Type v} {perform undo : State → α → State}
    {nodes : List α} {start : State}
    (undoes : ∀ done node rest, nodes = done ++ node :: rest →
      undo (perform (done.foldl perform start) node) node = done.foldl perform start)
    {done rest : List α} (split : nodes = done ++ rest) :
    rest.reverse.foldl undo (nodes.foldl perform start) = done.foldl perform start := by
  induction rest generalizing done with
  | nil => rw [split, List.append_nil, List.reverse_nil, List.foldl_nil]
  | cons node rest induction =>
      have later : rest.reverse.foldl undo (nodes.foldl perform start) =
          (done ++ [node]).foldl perform start := induction (by simpa using split)
      rw [List.reverse_cons, List.foldl_append, later, List.foldl_append]
      exact undoes done node rest split

end Ccnet
