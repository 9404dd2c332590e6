/-!
The nodes of a tree in the order in which a walk comes to them.

An occurrence is a node together with the nodes around it, so that what a walk knows of a node, such
as the class it stands in, can be said of the node's place in the tree alone. `preorder` lists a
node before the nodes below it, and those from the first part to the last.
-/

namespace CodeIndex

class Branching (α : Type) [SizeOf α] where
  parts : α → List α
  sizeOf_lt : ∀ {t p : α}, p ∈ parts t → sizeOf p < sizeOf t

/-- A node at its place in a tree, with the nodes around it, the innermost first. -/
structure Occurrence (α : Type) where
  above : List α
  node : α

variable {α : Type} [SizeOf α] [Branching α]

/-- What passes from the parts of a node to the node holds of every tree. -/
theorem Branching.induction {motive : α → Prop}
    (node : ∀ t, (∀ p ∈ parts t, motive p) → motive t) (t : α) : motive t :=
  node t fun p _ => Branching.induction node p
termination_by sizeOf t
decreasing_by exact sizeOf_lt ‹_›

/-- A node that lies below the given ones, and after it all that lies below the node. -/
def preorderBelow (above : List α) (t : α) : List (Occurrence α) :=
  ⟨above, t⟩ :: (Branching.parts t).attach.flatMap fun ⟨p, _⟩ => preorderBelow (t :: above) p
termination_by sizeOf t
decreasing_by exact Branching.sizeOf_lt ‹_›

theorem preorderBelow_eq (above : List α) (t : α) :
    preorderBelow above t =
      ⟨above, t⟩ :: (Branching.parts t).flatMap (preorderBelow (t :: above)) := by
  rw [preorderBelow]
  simp [List.flatMap_subtype]

theorem mem_preorderBelow_self (above : List α) (t : α) :
    ⟨above, t⟩ ∈ preorderBelow above t := by
  rw [preorderBelow_eq]
  exact List.mem_cons_self

/-- Below the first node of a tree, the innermost node around a place has its own place in the
tree, and holds the node as a part. -/
private theorem exists_parent (t : α) : ∀ (above : List α), ∀ o ∈ preorderBelow above t,
    o = ⟨above, t⟩ ∨ ∃ outer ∈ preorderBelow above t,
      o.above = outer.node :: outer.above ∧ o.node ∈ Branching.parts outer.node := by
  induction t using Branching.induction with
  | node t ih =>
      intro above o member
      rw [preorderBelow_eq] at member ⊢
      rcases List.mem_cons.mp member with rfl | hbelow
      · exact .inl rfl
      · obtain ⟨p, hp, ho⟩ := List.mem_flatMap.mp hbelow
        rcases ih p hp (t :: above) o ho with rfl | ⟨outer, houter, hplace⟩
        · exact .inr ⟨⟨above, t⟩, List.mem_cons_self, rfl, hp⟩
        · exact .inr ⟨outer, List.mem_cons_of_mem _ (List.mem_flatMap.mpr ⟨p, hp, houter⟩), hplace⟩

def preorder (t : α) : List (Occurrence α) :=
  preorderBelow [] t

section Preorder

variable {t a : α} {above : List α} {o : Occurrence α}

theorem mem_preorder_of_above_eq (member : o ∈ preorder t) (h : o.above = a :: above) :
    ⟨above, a⟩ ∈ preorder t ∧ o.node ∈ Branching.parts a := by
  rcases exists_parent t [] o member with rfl | ⟨outer, houter, habove, hpart⟩
  · cases h
  · obtain ⟨rfl, rfl⟩ := List.cons.inj (h.symm.trans habove)
    exact ⟨houter, hpart⟩

/-- The nodes around a place all have their own places. -/
theorem exists_mem_preorder_of_mem_above (member : o ∈ preorder t) (ha : a ∈ o.above) :
    ∃ outer ∈ preorder t, outer.node = a := by
  generalize habove : o.above = above at ha
  induction above generalizing o with
  | nil => cases ha
  | cons b above ih =>
      have hparent := (mem_preorder_of_above_eq member habove).1
      rcases List.mem_cons.mp ha with rfl | ha
      · exact ⟨_, hparent, rfl⟩
      · exact ih hparent rfl ha

end Preorder

end CodeIndex
