import Mathlib.Data.List.Nodup
import Mathlib.Data.List.Perm.Basic
import Mathlib.Data.List.Perm.Subperm

namespace Ccnet

/-! Exact covers: items that each occupy some columns are chosen so that no two
share a column and every column is occupied. -/

section ExactCover

variable {Item : Type u} {Column : Type v} (columnsOf : Item → List Column)
  (items : List Item) (columns : List Column)

structure ExactCover (chosen : List Item) : Prop where
  available : ∀ item ∈ chosen, item ∈ items
  disjoint : chosen.Pairwise fun left right =>
    List.Disjoint (columnsOf left) (columnsOf right)
  covers : ∀ column ∈ columns, ∃ item ∈ chosen, column ∈ columnsOf item

/-- The choice can be completed to an exact cover. -/
def Completable (chosen : List Item) : Prop :=
  ∃ rest, ExactCover columnsOf items columns (chosen ++ rest)

variable {columnsOf items columns}

theorem ExactCover.perm {chosen other : List Item}
    (cover : ExactCover columnsOf items columns chosen) (same : chosen.Perm other) :
    ExactCover columnsOf items columns other where
  available item member := cover.available item (same.mem_iff.mpr member)
  disjoint := by
    apply (same.pairwise_iff _).mp cover.disjoint
    intro left right disjoint
    exact List.disjoint_symm disjoint
  covers column member := by
    rcases cover.covers column member with ⟨item, itemMember, occupies⟩
    exact ⟨item, same.mem_iff.mp itemMember, occupies⟩

/-- A column that is still free decides the next choice: one of the items that
occupy it and share nothing with those chosen. -/
theorem completable_iff {chosen : List Item} {column : Column}
    (member : column ∈ columns) (free : ∀ item ∈ chosen, column ∉ columnsOf item) :
    Completable columnsOf items columns chosen ↔
      ∃ item ∈ items, column ∈ columnsOf item ∧
        (∀ other ∈ chosen, List.Disjoint (columnsOf other) (columnsOf item)) ∧
        Completable columnsOf items columns (chosen ++ [item]) := by
  constructor
  · rintro ⟨rest, cover⟩
    rcases cover.covers column member with ⟨item, itemMember, occupies⟩
    have inRest : item ∈ rest := by
      rcases List.mem_append.mp itemMember with inChosen | inRest
      · exact absurd occupies (free item inChosen)
      · exact inRest
    rcases List.append_of_mem inRest with ⟨front, back, rfl⟩
    refine ⟨item, cover.available item itemMember, occupies, ?_, front ++ back, ?_⟩
    · intro other inChosen
      exact (List.pairwise_append.mp cover.disjoint).2.2 other inChosen item inRest
    · apply cover.perm
      rw [List.append_assoc]
      apply List.Perm.append_left
      exact List.perm_middle
  · rintro ⟨item, _, _, _, rest, cover⟩
    refine ⟨item :: rest, ?_⟩
    rwa [List.append_assoc, List.singleton_append] at cover

end ExactCover

/-! ## Naming the items and the columns -/

section Naming

variable {Item : Type u} {Column : Type v} {Label : Type w} {Name : Type x}
  {columnsOf : Item → List Column} {namesOf : Label → List Name}
  {label : Item → Label} {name : Column → Name} {items chosen : List Item}
  {columns : List Column}

theorem ExactCover.named (occupied : ∀ item ∈ items, namesOf (label item) =
      (columnsOf item).map name)
    (inside : ∀ item ∈ items, ∀ column ∈ columnsOf item, column ∈ columns)
    (injective : ∀ left ∈ columns, ∀ right ∈ columns, name left = name right → left = right)
    (cover : ExactCover columnsOf items columns chosen) :
    ExactCover namesOf (items.map label) (columns.map name) (chosen.map label) where
  available := by
    intro chosenLabel member
    rcases List.mem_map.mp member with ⟨item, itemMember, rfl⟩
    exact List.mem_map_of_mem (cover.available item itemMember)
  disjoint := by
    rw [List.pairwise_map]
    apply cover.disjoint.imp_of_mem
    intro left right leftMember rightMember disjoint shared inLeft inRight
    have leftItem := cover.available left leftMember
    have rightItem := cover.available right rightMember
    rw [occupied left leftItem] at inLeft
    rw [occupied right rightItem] at inRight
    rcases List.mem_map.mp inLeft with ⟨column, columnMember, rfl⟩
    rcases List.mem_map.mp inRight with ⟨other, otherMember, same⟩
    have equal := injective other (inside right rightItem other otherMember) column
      (inside left leftItem column columnMember) same
    subst equal
    exact disjoint columnMember otherMember
  covers := by
    intro columnName member
    rcases List.mem_map.mp member with ⟨column, columnMember, rfl⟩
    rcases cover.covers column columnMember with ⟨item, itemMember, occupies⟩
    refine ⟨label item, List.mem_map_of_mem itemMember, ?_⟩
    rw [occupied item (cover.available item itemMember)]
    exact List.mem_map_of_mem occupies

theorem ExactCover.of_named (occupied : ∀ item ∈ items, namesOf (label item) =
      (columnsOf item).map name)
    (inside : ∀ item ∈ items, ∀ column ∈ columnsOf item, column ∈ columns)
    (injective : ∀ left ∈ columns, ∀ right ∈ columns, name left = name right → left = right)
    (available : ∀ item ∈ chosen, item ∈ items)
    (cover : ExactCover namesOf (items.map label) (columns.map name) (chosen.map label)) :
    ExactCover columnsOf items columns chosen where
  available := available
  disjoint := by
    apply (List.pairwise_map.mp cover.disjoint).imp_of_mem
    intro left right leftMember rightMember disjoint shared inLeft inRight
    apply disjoint
    · rw [occupied left (available left leftMember)]
      exact List.mem_map_of_mem inLeft
    · rw [occupied right (available right rightMember)]
      exact List.mem_map_of_mem inRight
  covers := by
    intro column member
    rcases cover.covers (name column) (List.mem_map_of_mem member) with
      ⟨_, labelMember, occupies⟩
    rcases List.mem_map.mp labelMember with ⟨item, itemMember, rfl⟩
    have isItem := available item itemMember
    rw [occupied item isItem] at occupies
    rcases List.mem_map.mp occupies with ⟨other, otherMember, same⟩
    have equal := injective other (inside item isItem other otherMember) column member same
    exact ⟨item, itemMember, equal ▸ otherMember⟩

end Naming

end Ccnet
