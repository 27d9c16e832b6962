import FileZilla.Engine.Sftp.SegmentDownload

namespace FileZilla.Sftp

/-! What the segments know about their part files once a segmented download has
decided whether it resumes. -/

variable {count : Nat}

namespace SegmentedDownload

/-- The download past the decision, before it asks for anything; nothing if it ends before. -/
def resumeDecision (count total : Nat) (disk : Disk) (sftp : Client (Fin count))
    (env : StartEnv) : Option (SegmentedDownload count) :=
  if !env.encodable then none
  else if resumeValid total count disk then
    some (prepared count total disk sftp (keptParts total count disk) disk.manifest)
  else if !env.writeManifest then none
  else
    some (prepared count total disk sftp (keptParts total count disk)
      (some (writeSegmentManifest total count)))

def storedSize (op : SegmentedDownload count) (index : Nat) : Nat :=
  match op.parts index with
  | none => 0
  | some content => content.length

structure AgreesWithDisk (op : SegmentedDownload count) : Prop where
  partSize : ∀ index : Fin count, (op.segments index).partSize = op.storedSize index
  received : ∀ index : Fin count, (op.segments index).received = op.storedSize index
  fits : ∀ index : Fin count, (op.segments index).partSize ≤ (op.segments index).length
  requestOffset : ∀ index : Fin count, (op.segments index).requestOffset =
    (op.segments index).offset + (op.segments index).partSize
  done : ∀ index : Fin count, (op.segments index).done = true ↔
    op.storedSize index = (op.segments index).length
  segmentsDone : op.segmentsDone = ((List.finRange count).filter fun index : Fin count =>
    op.storedSize index = (op.segments index).length).length

/-- A resume is not abandoned after a part that holds something. -/
def NotAbandoned (total count : Nat) (disk : Disk) : Prop :=
  readSegmentManifest total count disk.manifest = true →
    (∀ index < count, disk.partSize index ≤ segmentLength total count index) ∨
    ∀ index < count,
      (∀ earlier ≤ index, disk.partSize earlier ≤ segmentLength total count earlier) →
        disk.partSize index = 0

theorem resumeValid_iff (total : Nat) (disk : Disk) :
    resumeValid total count disk = true ↔
      readSegmentManifest total count disk.manifest = true ∧
        ∀ index < count, disk.partSize index ≤ segmentLength total count index := by
  simp [resumeValid, Bool.and_eq_true]

theorem resumedSize_eq_zero_iff (total : Nat) (disk : Disk) (index : Nat) :
    resumedSize total count disk index = 0 ↔
      (readSegmentManifest total count disk.manifest = true →
        (∀ earlier ≤ index, disk.partSize earlier ≤ segmentLength total count earlier) →
          disk.partSize index = 0) := by
  unfold resumedSize
  split
  case isTrue taken =>
    simp only [Bool.and_eq_true, List.all_eq_true, List.mem_range, decide_eq_true_eq] at taken
    have fits : ∀ earlier ≤ index, disk.partSize earlier ≤ segmentLength total count earlier :=
      fun earlier before => taken.2 earlier (Nat.lt_succ_of_le before)
    exact ⟨fun empty _ _ => empty, fun empty => empty taken.1 fits⟩
  case isFalse rejected =>
    simp only [Bool.and_eq_true, List.all_eq_true, List.mem_range, decide_eq_true_eq] at rejected
    refine ⟨fun _ manifest fits => ?_, fun _ => rfl⟩
    exact absurd ⟨manifest, fun earlier before => fits earlier (Nat.le_of_lt_succ before)⟩
      rejected

theorem resumedSize_of_valid {total : Nat} {disk : Disk}
    (valid : resumeValid total count disk = true) {index : Nat} (inside : index < count) :
    resumedSize total count disk index = disk.partSize index := by
  obtain ⟨manifest, fits⟩ := (resumeValid_iff total disk).mp valid
  unfold resumedSize
  rw [if_pos]
  simp only [manifest, Bool.true_and, List.all_eq_true, List.mem_range, decide_eq_true_eq]
  exact fun earlier before => fits earlier (by omega)

section Prepared

variable {total : Nat} {disk : Disk} {sftp : Client (Fin count)}
variable {parts : Nat → Option Bytes} {manifest : Option String}

theorem agreesWithDisk_prepared_iff (fits : ∀ index < count, resumedSize total count disk index ≤
      segmentLength total count index) :
    (prepared count total disk sftp parts manifest).AgreesWithDisk ↔
      ∀ index : Fin count, resumedSize total count disk index =
        (prepared count total disk sftp parts manifest).storedSize index := by
  constructor
  · exact fun agrees => agrees.partSize
  · intro sizes
    have done (index : Fin count) :
        ((prepared count total disk sftp parts manifest).segments index).done = true ↔
          (prepared count total disk sftp parts manifest).storedSize index =
            segmentLength total count index := by
      have known := fits index index.isLt
      have size := sizes index
      change decide (resumedSize total count disk index ≥ segmentLength total count index) =
        true ↔ _
      rw [decide_eq_true_eq]
      omega
    exact {
      partSize := sizes
      received := sizes
      fits := fun index => fits index index.isLt
      requestOffset := fun _ => rfl
      done
      segmentsDone := by
        refine congrArg List.length (List.filter_congr fun index _ => ?_)
        exact Bool.eq_iff_iff.mpr ((done index).trans decide_eq_true_iff.symm) }

end Prepared

theorem storedSize_keptParts (few : count ≤ maxSegmentCount) {total : Nat} (disk : Disk)
    {op : SegmentedDownload count} (parts : op.parts = keptParts total count disk)
    {index : Nat} (inside : index < count) :
    op.storedSize index = if resumeValid total count disk then disk.partSize index else 0 := by
  unfold storedSize
  rw [parts, keptParts]
  cases valid : resumeValid total count disk with
  | true => rfl
  | false =>
    rw [if_neg (by simp), if_pos (lt_of_lt_of_le inside few)]
    rfl

theorem resumeDecision_agrees_iff (count total : Nat) (few : count ≤ maxSegmentCount)
    (disk : Disk) (sftp : Client (Fin count)) (env : StartEnv) (op : SegmentedDownload count)
    (passed : resumeDecision count total disk sftp env = some op) :
    op.AgreesWithDisk ↔ NotAbandoned total count disk := by
  obtain ⟨manifest, rfl⟩ : ∃ manifest, op =
      prepared count total disk sftp (keptParts total count disk) manifest := by
    obtain ⟨-, passed⟩ := of_refusal passed
    split at passed
    case isTrue => exact ⟨_, (Option.some.inj passed).symm⟩
    case isFalse =>
      obtain ⟨-, passed⟩ := of_refusal passed
      exact ⟨_, (Option.some.inj passed).symm⟩
  rw [agreesWithDisk_prepared_iff fun index _ => resumedSize_le total count disk index]
  have stored (index : Fin count) := @storedSize_keptParts count few total disk
    (prepared count total disk sftp (keptParts total count disk) manifest) rfl index index.isLt
  cases valid : resumeValid total count disk with
  | true =>
    refine iff_of_true (fun index => ?_) fun _ => ?_
    · rw [stored index, valid, if_pos rfl, resumedSize_of_valid valid index.isLt]
    · exact .inl ((resumeValid_iff total disk).mp valid).2
  | false =>
    have zero : (∀ index : Fin count, resumedSize total count disk index =
        (prepared count total disk sftp (keptParts total count disk) manifest).storedSize
          index) ↔ ∀ index < count, resumedSize total count disk index = 0 := by
      refine ⟨fun sizes index inside => ?_, fun sizes index => ?_⟩
      · rw [sizes ⟨index, inside⟩, stored ⟨index, inside⟩, valid]
        rfl
      · rw [sizes index index.isLt, stored index, valid]
        rfl
    rw [zero]
    constructor
    · intro sizes matching
      exact .inr fun index inside =>
        (resumedSize_eq_zero_iff total disk index).mp (sizes index inside) matching
    · intro unabandoned index inside
      refine (resumedSize_eq_zero_iff total disk index).mpr fun matching fits => ?_
      rcases unabandoned matching with all | none
      · rw [(resumeValid_iff total disk).mpr ⟨matching, all⟩] at valid
        cases valid
      · exact none index inside fits

theorem resumeDecision_agrees_fresh :
    ∃ op, resumeDecision 2 3 {} {} {} = some op ∧ op.AgreesWithDisk := by
  refine ⟨_, rfl, (resumeDecision_agrees_iff 2 3 (by decide) {} {} {} _ rfl).mpr ?_⟩
  intro matching
  cases matching

def oversizedDisk : Disk where
  manifest := some "fzseg1\n3 2\n0 2\n2 1\n"
  parts index := if index = 0 then some [1] else if index = 1 then some [2, 3] else none

theorem resumeDecision_disagrees :
    ∃ op, resumeDecision 2 3 oversizedDisk {} {} = some op ∧ ¬op.AgreesWithDisk := by
  have invalid : resumeValid 3 2 oversizedDisk = false := by decide +kernel
  refine ⟨_, by rw [resumeDecision, invalid]; rfl, fun agrees => ?_⟩
  have size := agrees.partSize 0
  have taken : resumedSize 3 2 oversizedDisk 0 = 1 := by decide +kernel
  change resumedSize 3 2 oversizedDisk 0 = _ at size
  have gone := @storedSize_keptParts 2 (by decide) 3 oversizedDisk
    (prepared 2 3 oversizedDisk {} (keptParts 3 2 oversizedDisk)
      (some (writeSegmentManifest 3 2))) rfl 0 (by decide)
  rw [invalid, if_neg (by decide)] at gone
  exact absurd (taken.symm.trans (size.trans gone)) (by decide)

end SegmentedDownload

end FileZilla.Sftp
