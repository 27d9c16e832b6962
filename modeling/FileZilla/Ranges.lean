import Mathlib.Algebra.BigOperators.Group.List.Basic
import Mathlib.Algebra.Order.Ring.Int

namespace FileZilla

open List

universe u

variable {Element : Type u}

/-! Ranges requested one after the other, and what is left of a file when it
is put together from the answers in the order they arrive. -/

/-- Ranges, given as offset and size, that cover `start` to `stop` without gap
or overlap. -/
def Tiles : Nat → List (Nat × Nat) → Nat → Prop
  | start, [], stop => start = stop
  | start, (offset, size) :: rest, stop =>
    offset = start ∧ Tiles (start + size) rest stop

variable {start stop : Nat}

@[simp] theorem tiles_nil :
    Tiles start [] stop ↔ start = stop := Iff.rfl

variable {size : Nat}

@[simp] theorem tiles_cons {offset : Nat} {rest : List (Nat × Nat)} :
    Tiles start ((offset, size) :: rest) stop ↔
      offset = start ∧ Tiles (start + size) rest stop := Iff.rfl

variable {ranges : List (Nat × Nat)}

theorem Tiles.snoc (tiles : Tiles start ranges stop) (size : Nat) :
    Tiles start (ranges ++ [(stop, size)]) (stop + size) := by
  induction ranges generalizing start with
  | nil =>
    cases tiles
    simp
  | cons range rest ih =>
    obtain ⟨offset, length⟩ := range
    exact ⟨tiles.1, ih tiles.2⟩

theorem Tiles.sum_eq (tiles : Tiles start ranges stop) :
    start + (ranges.map Prod.snd).sum = stop := by
  induction ranges generalizing start with
  | nil => simpa using tiles
  | cons range rest ih =>
    obtain ⟨offset, length⟩ := range
    have tail := ih tiles.2
    simp only [map_cons, sum_cons]
    omega

theorem Tiles.le (tiles : Tiles start ranges stop) : start ≤ stop := by
  have total := tiles.sum_eq
  omega

/-! Answers to requests of one fixed size, each kept with the offset it was
requested at. -/

def OnStride (size : Nat) : Nat → List (Nat × List Element) → Prop
  | _, [] => True
  | start, (offset, _) :: rest => offset = start ∧ OnStride size (start + size) rest

variable {blocks : List (Nat × List Element)}

theorem OnStride.snoc (stride : OnStride size start blocks) (block : List Element) :
    OnStride size start (blocks ++ [(start + size * blocks.length, block)]) := by
  induction blocks generalizing start with
  | nil => simp [OnStride]
  | cons head rest ih =>
    obtain ⟨offset, bytes⟩ := head
    refine ⟨stride.1, ?_⟩
    have tail := ih stride.2
    have same : start + size * (rest.length + 1) = start + size + size * rest.length := by
      rw [Nat.mul_succ]
      omega
    simpa [same] using tail

/-- A block answers a request of `size` at its offset with part of the file. -/
def Answers (file : List Element) (size : Nat) (block : Nat × List Element) : Prop :=
  block.2 <+: file.drop block.1 ∧ block.2.length ≤ size

def ReachesEnd (file : List Element) (size : Nat) (block : Nat × List Element) : Prop :=
  block.2.length < size → file.length ≤ block.1 + block.2.length

def isShort (size : Nat) (block : Nat × List Element) : Bool :=
  decide (block.2.length < size)

variable {file : List Element}

theorem Answers.le_length {block : Nat × List Element} (answers : Answers file size block)
    (positive : 0 < block.2.length) :
    block.1 + block.2.length ≤ file.length := by
  have bound := answers.1.length_le
  rw [length_drop] at bound
  omega

theorem Answers.eq_take {block : Nat × List Element} (answers : Answers file size block)
    (full : ¬ block.2.length < size) :
    block.2 = (file.drop block.1).take size := by
  have same : block.2.length = size := by
    have := answers.2
    omega
  rw [← same]
  exact prefix_iff_eq_take.mp answers.1

theorem OnStride.le_length_of_full (positive : 0 < size) (stride : OnStride size start blocks)
    (answers : ∀ block ∈ blocks, Answers file size block)
    (full : ∀ block ∈ blocks, ¬ block.2.length < size) (nonempty : blocks ≠ []) :
    start + size * blocks.length ≤ file.length := by
  induction blocks generalizing start with
  | nil => exact absurd rfl nonempty
  | cons head rest ih =>
    obtain ⟨offset, bytes⟩ := head
    have headFull : ¬ bytes.length < size := full (offset, bytes) (by simp)
    have headAnswers : Answers file size (offset, bytes) := answers (offset, bytes) (by simp)
    have headBound : offset + bytes.length ≤ file.length :=
      headAnswers.le_length (show 0 < bytes.length by omega)
    have offsetEq : offset = start := stride.1
    cases rest with
    | nil =>
      simp only [length_cons, length_nil]
      omega
    | cons second others =>
      have tail := ih stride.2 (fun block member => answers block (by simp [member]))
        (fun block member => full block (by simp [member])) (by simp)
      simp only [length_cons, Nat.mul_succ] at tail ⊢
      omega

theorem full_of_countP_eq_zero (noneShort : blocks.countP (isShort size) = 0) :
    ∀ block ∈ blocks, ¬ block.2.length < size := by
  intro block member short
  have notShort := countP_eq_zero.mp noneShort block member
  simp [isShort, short] at notShort

theorem length_flatMap_of_full (answers : ∀ block ∈ blocks, Answers file size block)
    (full : ∀ block ∈ blocks, ¬ block.2.length < size) :
    (blocks.flatMap Prod.snd).length = size * blocks.length := by
  induction blocks with
  | nil => simp
  | cons head rest ih =>
    have headLength : head.2.length = size := by
      have upper := (answers head (by simp)).2
      have lower := full head (by simp)
      omega
    simp only [flatMap_cons, length_append, length_cons, Nat.mul_succ]
    rw [ih (fun block member => answers block (by simp [member]))
      (fun block member => full block (by simp [member])), headLength]
    omega

/-- Blocks put together in order, at most one of them short, give the file
from `start` on exactly when the short one reaches the end of the file and so
do the blocks together. -/
theorem OnStride.flatMap_eq_drop_iff (positive : 0 < size) (stride : OnStride size start blocks)
    (answers : ∀ block ∈ blocks, Answers file size block)
    (once : blocks.countP (isShort size) ≤ 1) :
    blocks.flatMap Prod.snd = file.drop start ↔
      (∀ block ∈ blocks, ReachesEnd file size block) ∧
        file.length ≤ start + size * blocks.length := by
  induction blocks generalizing start with
  | nil => simp [drop_eq_nil_iff, eq_comm]
  | cons head rest ih =>
    obtain ⟨offset, bytes⟩ := head
    have offsetEq : offset = start := stride.1
    subst offsetEq
    have headAnswers : Answers file size (offset, bytes) := answers (offset, bytes) (by simp)
    have restAnswers : ∀ block ∈ rest, Answers file size block :=
      fun block member => answers block (by simp [member])
    simp only [flatMap_cons, forall_mem_cons, length_cons, Nat.mul_succ]
    by_cases short : bytes.length < size
    · have restFull : ∀ block ∈ rest, ¬ block.2.length < size := by
        apply full_of_countP_eq_zero
        simp [isShort, short] at once
        simpa [isShort] using once
      by_cases last : rest = []
      · subst last
        have prefixEq : bytes = (file.drop offset).take bytes.length :=
          prefix_iff_eq_take.mp headAnswers.1
        simp only [flatMap_nil, append_nil, length_nil, ReachesEnd]
        constructor
        · intro whole
          have lengths := congrArg length whole
          rw [length_drop] at lengths
          refine ⟨⟨fun _ => ?_, by simp⟩, ?_⟩ <;> omega
        · rintro ⟨⟨reaches, -⟩, -⟩
          have bound := reaches short
          rw [prefixEq]
          apply take_of_length_le
          rw [length_drop]
          omega
      · -- a full block behind a short one lies beyond what was written
        have bound := stride.2.le_length_of_full positive restAnswers restFull last
        have restLength := length_flatMap_of_full restAnswers restFull
        have least : size ≤ size * rest.length :=
          Nat.le_mul_of_pos_right size (length_pos_iff.mpr last)
        constructor
        · intro whole
          have lengths := congrArg length whole
          rw [length_append, restLength, length_drop] at lengths
          omega
        · rintro ⟨⟨reaches, -⟩, -⟩
          have := reaches short
          simp only at this
          omega
    · have headEq : bytes = (file.drop offset).take size := headAnswers.eq_take short
      have restOnce : rest.countP (isShort size) ≤ 1 := by
        simpa [isShort, short] using once
      have tail := ih stride.2 restAnswers restOnce
      have split : file.drop offset = bytes ++ file.drop (offset + size) := by
        rw [headEq, ← drop_drop, take_append_drop]
      rw [split, append_cancel_left_eq, tail]
      have reorder : offset + (size * rest.length + size) =
          offset + size + size * rest.length := by omega
      rw [reorder]
      simp [ReachesEnd, short]

end FileZilla
