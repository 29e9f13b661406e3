import Mathlib.Data.List.Induction
import Mathlib.Data.List.Nodup
import Mathlib.Order.Bounds.Basic
import SimilarityClient.Proofs.Form.Run
import SimilarityClient.Proofs.Text.Numeral

/-! # The slots of a run

The slots are numbered from one without gaps, in every run. A removal at the
least number is refused and leaves no trace, so that their number is not the
additions minus the removals: it exceeds the least number by the largest growth
that the last moves of the run have, however many of them are looked at.
-/

namespace SimilarityClient

open Text (decimal)

theorem fieldName_injective : Function.Injective fieldName := by
  intro m n h
  have hd := congrArg String.toList h
  simp only [fieldName, String.toList_append, String.toList_ofList] at hd
  exact Text.decimal_injective (List.append_cancel_left hd)

namespace Slot

theorem fieldName_injective : Function.Injective fieldName := by
  rintro ⟨m⟩ ⟨n⟩ h
  exact congrArg mk (SimilarityClient.fieldName_injective h)

theorem label_injective : Function.Injective label := by
  rintro ⟨m⟩ ⟨n⟩ h
  have hd := congrArg String.toList h
  simp only [label, String.toList_append, String.toList_ofList] at hd
  exact congrArg mk (Text.decimal_injective (List.append_cancel_left hd))

end Slot

namespace SlotList

/-- The slots are numbered in a row, and there are enough of them. -/
structure Numbered (l : SlotList) : Prop where
  slots : l.slots = (List.range' 1 l.count).map Slot.mk
  minimum_le : minimum ≤ l.count

variable {l : SlotList}

theorem numbered_initial : initial.Numbered := ⟨rfl, Nat.le_refl _⟩

theorem Numbered.add (h : l.Numbered) : l.add.2.Numbered := by
  constructor
  · rw [count_add, List.range'_concat, List.map_append, ← h.slots]
    simp [SlotList.add, Nat.add_comm]
  · rw [count_add]
    exact Nat.le_succ_of_le h.minimum_le

theorem Numbered.remove (h : l.Numbered) : l.remove.2.Numbered := by
  rw [SlotList.remove]
  split
  · exact h
  · rename_i hc
    have hl : (l.slots.dropLast).length = l.count - 1 := List.length_dropLast
    obtain ⟨n, hn⟩ : ∃ n, l.count = n + 1 := ⟨l.count - 1, by omega⟩
    constructor
    · change l.slots.dropLast = (List.range' 1 l.slots.dropLast.length).map Slot.mk
      rw [hl, h.slots, hn, List.range'_concat, List.map_append]
      simp
    · change minimum ≤ l.slots.dropLast.length
      omega

theorem Numbered.nodup_map {α : Type} {g : Slot → α} (h : l.Numbered)
    (hg : Function.Injective g) : (l.slots.map g).Nodup := by
  rw [h.slots]
  have hm : Function.Injective Slot.mk := fun m n hmn => congrArg Slot.index hmn
  exact ((List.nodup_range' 1 Nat.one_pos).map hm).map hg

end SlotList

namespace Form

/-- An addition or a removal, whether it is refused or not. -/
inductive Move
  | add | remove
  deriving DecidableEq, Repr

def Event.move? : Event → Option Move
  | addSlot => some .add
  | removeSlot => some .remove
  | _ => none

def moves (es : List Event) : List Move := es.filterMap Event.move?

/-- By how many the additions outnumber the removals. -/
def growth (ms : List Move) : Int := ms.count .add - ms.count .remove

/-- The growths of the last moves, from none of them to all. -/
def endGrowths (ms : List Move) : Set Int := {d | ∃ s, s <:+ ms ∧ growth s = d}

variable {f : Form} {e : Event} {es : List Event} {ms : List Move} {m : Move} {d : Int}

theorem moves_concat (es : List Event) (e : Event) :
    moves (es ++ [e]) = moves es ++ e.move?.toList := by
  cases he : e.move? <;> simp [moves, he]

@[simp] theorem growth_nil : growth [] = 0 := rfl

@[simp] theorem growth_concat (ms : List Move) (m : Move) :
    growth (ms ++ [m]) = growth ms + growth [m] := by
  simp only [growth, List.count_append]
  omega

theorem isGreatest_endGrowths_concat (h : IsGreatest (endGrowths ms) d) (m : Move) :
    IsGreatest (endGrowths (ms ++ [m])) (max 0 (d + growth [m])) := by
  obtain ⟨⟨s, hs, rfl⟩, hu⟩ := h
  constructor
  · rcases le_total 0 (growth s + growth [m]) with hg | hg
    · refine ⟨s ++ [m], ?_, ?_⟩
      · exact List.suffix_concat_iff.2 (.inr ⟨s, rfl, hs⟩)
      · rw [growth_concat, max_eq_right hg]
    · exact ⟨[], List.nil_suffix, (max_eq_left hg).symm⟩
  · rintro _ ⟨t, ht, rfl⟩
    rcases List.suffix_concat_iff.1 ht with rfl | ⟨t, rfl, hm⟩
    · exact le_max_left _ _
    · have hle : growth t ≤ growth s := hu ⟨t, hm, rfl⟩
      rw [growth_concat]
      omega

theorem isGreatest_endGrowths_nil : IsGreatest (endGrowths []) 0 := by
  constructor
  · exact ⟨[], List.nil_suffix, rfl⟩
  · rintro _ ⟨s, hs, rfl⟩
    rw [List.suffix_nil.1 hs, growth_nil]

theorem numbered_step (h : f.slots.Numbered) (e : Event) : (f.step e).2.slots.Numbered := by
  cases e with
  | addSlot => exact h.add
  | removeSlot => exact h.remove
  | beginSubmit => exact h
  | completeSubmit t r =>
    simp only [step, completeSubmit]
    split <;> exact h

theorem slotCount_step_of_move (h : f.slots.Numbered) (he : e.move? = some m) :
    ((f.step e).2.slotCount : Int) - SlotList.minimum =
      max 0 ((f.slotCount : Int) - SlotList.minimum + growth [m]) := by
  have hc := h.minimum_le
  cases e with
  | addSlot =>
    cases he
    change ((f.slots.add.2.count : Nat) : Int) - _ = max 0 ((f.slots.count : Int) - _ + 1)
    rw [SlotList.count_add]
    omega
  | removeSlot =>
    cases he
    change ((f.slots.remove.2.count : Nat) : Int) - _ = max 0 ((f.slots.count : Int) - _ + -1)
    rw [SlotList.count_remove]
    split <;> omega
  | beginSubmit => cases he
  | completeSubmit t r => cases he

theorem slotCount_step_of_other (he : e.move? = none) : (f.step e).2.slotCount = f.slotCount := by
  cases e with
  | addSlot => cases he
  | removeSlot => cases he
  | beginSubmit => rfl
  | completeSubmit t r =>
    simp only [step, completeSubmit]
    split <;> rfl

theorem numbered_run (h : f.slots.Numbered) (es : List Event) : (f.run es).slots.Numbered := by
  induction es generalizing f with
  | nil => exact h
  | cons e es ih => exact ih (numbered_step h e)

theorem isGreatest_slotCount_run (es : List Event) :
    IsGreatest (endGrowths (moves es))
      (((initial.run es).slotCount : Int) - SlotList.minimum) := by
  induction es using List.reverseRecOn with
  | nil => exact isGreatest_endGrowths_nil
  | append_singleton es e ih =>
    rw [run_append, run_cons, run_nil, moves_concat]
    cases he : e.move? with
    | none =>
      rw [slotCount_step_of_other he, Option.toList_none, List.append_nil]
      exact ih
    | some m =>
      rw [slotCount_step_of_move (numbered_run SlotList.numbered_initial es) he]
      exact isGreatest_endGrowths_concat ih m

/-- In every run the slots are numbered from one to their number, which exceeds the least number
by the largest growth of the last moves. An addition returns the slot with the new number, a
removal succeeds above the least number, and one that is refused changes nothing. -/
theorem slots_of_moves (es : List Event) :
    let f := initial.run es
    f.slots.slots = (List.range' 1 f.slotCount).map Slot.mk ∧
    (f.slots.slots.map Slot.fieldName).Nodup ∧ (f.slots.slots.map Slot.label).Nodup ∧
    IsGreatest (endGrowths (moves es)) ((f.slotCount : Int) - SlotList.minimum) ∧
    f.addSlot.1 = ⟨f.addSlot.2.slotCount⟩ ∧
    (f.removeSlot.1 = true ↔ SlotList.minimum < f.slotCount) ∧
    (f.removeSlot.1 = false → f.removeSlot.2 = f) := by
  intro f
  have hn : f.slots.Numbered := numbered_run SlotList.numbered_initial es
  refine ⟨hn.slots, hn.nodup_map Slot.fieldName_injective, hn.nodup_map Slot.label_injective,
    isGreatest_slotCount_run es, ?_, f.slots.remove_fst_iff, ?_⟩
  · exact congrArg Slot.mk (SlotList.count_add f.slots).symm
  · intro hr
    have hl : f.slots.remove.2 = f.slots := by
      change f.slots.remove.1 = false at hr
      unfold SlotList.remove at hr ⊢
      split at hr <;> simp_all
    change { f with slots := f.slots.remove.2 } = f
    rw [hl]

/-- Two removals at the least number are refused, so that two additions bring the third and the
fourth slot. -/
example : (initial.run [.removeSlot, .beginSubmit, .addSlot, .removeSlot, .removeSlot,
    .addSlot, .addSlot]).slotCount = 4 := by decide

end Form

end SimilarityClient
