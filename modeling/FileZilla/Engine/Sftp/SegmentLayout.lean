import FileZilla.Engine.Sftp.SegmentUpdates
import FileZilla.Ranges

namespace FileZilla.Sftp

open List Nat

variable {total count index : Nat}

theorem segmentOffset_eq (total count index : Nat) :
    segmentOffset total count index = index * (total / count) + min index (total % count) := by
  induction index with
  | zero => simp [segmentOffset]
  | succ index ih =>
    simp only [segmentOffset, segmentLength, ih, succ_mul]
    split <;> omega

theorem segmentOffset_count (positive : 0 < count) :
    segmentOffset total count count = total := by
  rw [segmentOffset_eq, min_eq_right (mod_lt total positive).le]
  exact div_add_mod total count

theorem segmentOffset_le_of_le {later : Nat} (before : index ≤ later) :
    segmentOffset total count index ≤ segmentOffset total count later := by
  induction later with
  | zero =>
    have same : index = 0 := le_zero.mp before
    rw [same]
  | succ later ih =>
    rcases lt_or_ge later index with after | earlier
    · have same : index = later + 1 := by omega
      rw [same]
    · exact (ih earlier).trans (le_add_right _ _)

theorem segment_le_total (inside : index < count) :
    segmentOffset total count index + segmentLength total count index ≤
      total := by
  have last : segmentOffset total count (index + 1) ≤
      segmentOffset total count count := segmentOffset_le_of_le inside
  rwa [segmentOffset_count (zero_lt_of_lt inside)] at last

theorem segmentLength_pos (positive : 0 < count) (enough : count ≤ total)
    (index : Nat) : 0 < segmentLength total count index :=
  lt_of_lt_of_le (div_pos enough positive) (le_add_right _ _)

def segmentBytes (remote : Bytes) (count index : Nat) : Bytes :=
  (remote.drop (segmentOffset remote.length count index)).take
    (segmentLength remote.length count index)

variable {remote : Bytes}

theorem segmentBytes_length (inside : index < count) :
    (segmentBytes remote count index).length =
      segmentLength remote.length count index := by
  have bound := @segment_le_total remote.length _ _ inside
  simp only [segmentBytes, length_take, length_drop]
  omega

theorem flatMap_segmentBytes (inside : index ≤ count) (positive : 0 < count) :
    (List.range' index (count - index)).flatMap (segmentBytes remote count) =
      remote.drop (segmentOffset remote.length count index) := by
  generalize left : count - index = rest
  induction rest generalizing index with
  | zero =>
    have same : index = count := by omega
    subst same
    simp [segmentOffset_count positive]
  | succ rest ih =>
    have tail := ih (show index + 1 ≤ count by omega) (show count - (index + 1) = rest by omega)
    rw [range'_succ, flatMap_cons, tail]
    simp only [segmentBytes, segmentOffset]
    rw [← drop_drop, take_append_drop]

theorem segmentBytes_take_append {data : Bytes} {received : Nat} (carries : data <+: remote.drop
      (segmentOffset remote.length count index + received)) (fits : received + data.length ≤
      segmentLength remote.length count index) :
    (segmentBytes remote count index).take (received + data.length) =
      (segmentBytes remote count index).take received ++ data := by
  have next : data = (remote.drop
      (segmentOffset remote.length count index + received)).take data.length :=
    prefix_iff_eq_take.mp carries
  simp only [segmentBytes, take_take]
  rw [min_eq_left fits, min_eq_left (show received ≤ _ by omega), take_add,
    drop_drop]
  congr 1
  exact next.symm

end FileZilla.Sftp
