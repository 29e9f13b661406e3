import SimilarityClient.Text.Numeral

/-! # File slots

The form has a list of numbered file inputs. It grows and shrinks at its end
and never has fewer than two.
-/

namespace SimilarityClient

open Text (decimal)

structure Slot where
  index : Nat
  deriving DecidableEq, Repr

/-- The name of a file input, and of the part of a request that carries its file. -/
def fieldName (index : Nat) : String := "file-" ++ String.ofList (decimal index)

namespace Slot

def fieldName (s : Slot) : String := SimilarityClient.fieldName s.index

def label (s : Slot) : String := "File " ++ String.ofList (decimal s.index)

def acceptedExtension : String := ".py"

end Slot

structure SlotInput where
  id : String
  name : String
  label : String
  accept : String
  required : Bool
  deriving DecidableEq, Repr

def Slot.input (s : Slot) : SlotInput :=
  ⟨s.fieldName, s.fieldName, s.label, Slot.acceptedExtension, true⟩

structure SlotList where
  slots : List Slot
  deriving DecidableEq, Repr

namespace SlotList

/-- A comparison needs a pair. -/
def minimum : Nat := 2

def initial : SlotList := ⟨(List.range' 1 minimum).map Slot.mk⟩

def count (l : SlotList) : Nat := l.slots.length

/-- Appends a slot that is numbered by the new count, and tells which one. -/
def add (l : SlotList) : Slot × SlotList :=
  let slot := ⟨l.count + 1⟩
  (slot, ⟨l.slots ++ [slot]⟩)

/-- Removes the last slot, unless only the least number is left. -/
def remove (l : SlotList) : Bool × SlotList :=
  if l.count ≤ minimum then (false, l) else (true, ⟨l.slots.dropLast⟩)

@[simp] theorem count_add (l : SlotList) : l.add.2.count = l.count + 1 := by simp [add, count]

theorem remove_fst_iff (l : SlotList) : l.remove.1 = true ↔ minimum < l.count := by
  unfold remove; split <;> simp <;> omega

@[simp] theorem count_remove (l : SlotList) :
    l.remove.2.count = if minimum < l.count then l.count - 1 else l.count := by
  unfold remove
  split <;> rename_i h
  · simp [Nat.not_lt.2 h]
  · rw [if_pos (Nat.lt_of_not_le h)]
    simp [count]

end SlotList

end SimilarityClient
