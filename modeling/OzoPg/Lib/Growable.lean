import Mathlib.Tactic.Common

/-!
# Growable arrays and pointers into them

An array whose elements live in one allocated block. It is extended in place while there is room
and moves to a new block otherwise, which leaves the pointers into the old one dangling: reading
through them has no result. How much room a new block has is up to the implementation.
-/

namespace OzoPg.Growable

variable {α : Type}

/-- An array: the number of its current block, the room there and the elements. -/
structure Buffer (α : Type) where
  block : Nat
  capacity : Nat
  data : List α
  length_le : data.length ≤ capacity

/-- A position in a block. -/
structure Pointer where
  block : Nat
  offset : Nat
  deriving DecidableEq, Repr

namespace Buffer

/-- An array without elements and without room. -/
def empty : Buffer α := ⟨0, 0, [], Nat.le_refl 0⟩

/-- Make room for `n` elements. -/
def reserve (b : Buffer α) (n : Nat) : Buffer α :=
  if h : n ≤ b.capacity then b
  else { b with
    block := b.block + 1, capacity := n, length_le := Nat.le_trans b.length_le (by omega) }

/-- Add elements at the end; `growth` is the spare room of a new block. -/
def append (growth : Nat → Nat) (b : Buffer α) (xs : List α) : Buffer α :=
  if h : (b.data ++ xs).length ≤ b.capacity then { b with data := b.data ++ xs, length_le := h }
  else
    { block := b.block + 1
      capacity := (b.data ++ xs).length + growth (b.data ++ xs).length
      data := b.data ++ xs
      length_le := Nat.le_add_right _ _ }

/-- A pointer to the element at an offset. -/
def pointer (b : Buffer α) (offset : Nat) : Pointer := ⟨b.block, offset⟩

/-- The `n` elements at a pointer, if it points into the current block and they are there. -/
def read (b : Buffer α) (p : Pointer) (n : Nat) : Option (List α) :=
  if p.block = b.block ∧ p.offset + n ≤ b.data.length then some ((b.data.drop p.offset).take n)
  else none

@[simp] theorem data_reserve (b : Buffer α) (n : Nat) : (b.reserve n).data = b.data := by
  unfold reserve
  split <;> rfl

@[simp] theorem data_append (growth : Nat → Nat) (b : Buffer α) (xs : List α) :
    (b.append growth xs).data = b.data ++ xs := by
  unfold append
  split <;> rfl

/-- A sequence of writes adds them all, whether the array has moved or not. -/
theorem data_foldl_append (growth : Nat → Nat) (b : Buffer α) (xss : List (List α)) :
    (xss.foldl (append growth) b).data = b.data ++ xss.flatten := by
  induction xss generalizing b with
  | nil => simp
  | cons xs xss ih => rw [List.foldl_cons, ih, data_append, List.flatten_cons, List.append_assoc]

/-- A pointer taken from the array as it is reads what is there. -/
theorem read_pointer {b : Buffer α} {before xs after : List α}
    (h : b.data = before ++ (xs ++ after)) :
    b.read (b.pointer before.length) xs.length = some xs := by
  have hlen : before.length + xs.length ≤ b.data.length := by simp [h]
  rw [read, if_pos ⟨rfl, hlen⟩, h, pointer, List.drop_left, List.take_left]

end Buffer

end OzoPg.Growable
