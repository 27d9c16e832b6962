import FileZilla.Engine.DirectoryListingParser.Determinism

namespace FileZilla

namespace EntryParser

open Rejecting

variable {Time : Type} (context : ListingContext Time) {before fields : Finset EntryField}

open Finset

instance (factname value : WString) (facts : MlsdFacts) :
    Settles {.time} (fun _ => ∅) (mlsdFact context factname value facts) := by
  refine ⟨fun known => .step (decide_eq_true known) fun time => .ite (fun _ => ?_) fun _ =>
    .ite (fun _ => ?_) fun _ => .ite (fun _ => ?_) fun _ => .pure _ (empty_subset _)⟩
  · split
    · exact .pure _ (empty_subset _)
    · exact .pure _ (empty_subset _)
    · exact .step rfl fun _ => .pure _ (empty_subset _)
    · refine .step rfl fun _ => .step rfl fun _ => ?_
      split
      · exact .pure _ (empty_subset _)
      · exact .step rfl fun _ => .pure _ (empty_subset _)
  · exact .step rfl fun _ => .step rfl fun _ => .pure _ (empty_subset _)
  · exact .step rfl fun _ => .step rfl fun _ => .pure _ (empty_subset _)

instance (steps : Nat) (text : WString) (facts : MlsdFacts) :
    Settles {.time} (fun _ => ∅) (mlsdFacts context steps text facts) := by
  induction steps generalizing text facts with
  | zero => exact ⟨fun _ => .pure _ (empty_subset _)⟩
  | succ steps ih =>
    refine ⟨fun known => .ite (fun _ => .pure _ (empty_subset _)) fun _ => ?_⟩
    refine .step rfl fun _ => ?_
    split
    · exact .failure
    refine .step (decide_eq_true (known.trans subset_union_left)) fun facts => ?_
    cases facts with
    | none => exact .pure _ (empty_subset _)
    | some facts => exact (ih _ _).determined (by simpa using known)

variable (line : CLine)

theorem parseAsMlsd_determined :
    Determines ∅ (fun stored => if stored then univ else ∅) (parseAsMlsd context line) := by
  repeat refine .step rfl fun _ => ?_
  split
  · exact .pure _ (empty_subset _)
  · repeat refine .step rfl fun _ => ?_
    exact .pure _ (by decide)

instance (nameToken : CToken) :
    Settles ∅ (fun _ => {.name}) (setIbmName nameToken : EntryParser Time Unit) :=
  .of (.ite (fun _ => .step rfl fun _ => .last rfl fun _ => by simp) fun _ =>
    .last rfl fun _ => by simp)

theorem parseAsIbm_determined :
    Determines ∅ (fun _ => {.target}ᶜ) (parseAsIbm context line) := by
  repeat refine .step rfl fun _ => ?_
  exact .last rfl fun _ => by decide

instance (nameToken : CToken) :
    Writes {.name, .flags} (setIbmName nameToken : EntryParser Time Unit) :=
  .ite (fun _ => .step (by decide) fun _ => .within (by decide)) fun _ => .within (by decide)

theorem parseAsIbm_keeps :
    Keeps (mask {.target}) (parseAsIbm context line) := by
  repeat refine .step rfl fun _ => ?_
  exact .last rfl

theorem parseAsWfFtp_determined :
    Determines ∅ (fun _ => {.target}ᶜ) (parseAsWfFtp context line) := by
  repeat refine .step rfl fun _ => ?_
  exact .last rfl fun _ => by decide

theorem parseAsWfFtp_keeps :
    Keeps (mask {.target}) (parseAsWfFtp context line) := by
  repeat refine .step rfl fun _ => ?_
  exact .last rfl

instance (line : CLine) (token : CToken) :
    Settles {.flags} (fun _ => {.target, .time}ᶜ) (mvsVsam line token : EntryParser Time Unit) := by
  refine ⟨fun known => ?_⟩
  repeat refine .step rfl fun _ => ?_
  refine .last rfl fun _ => ?_
  rintro (_ | _ | _ | _ | _ | _ | _) member
  all_goals simp [known (mem_singleton_self _)] at member ⊢

instance (line : CLine) (token : CToken) :
    Writes {.target, .time, .flags}ᶜ (mvsVsam line token : EntryParser Time Unit) := by
  repeat refine .step (by decide) fun _ => ?_
  exact .within (by decide)

instance (dsorg : CToken) :
    Settles ∅ (fun _ => {.size}) (setMvsSize dsorg : EntryParser Time Unit) :=
  .of (.ite (fun _ => .step rfl fun _ => .last rfl fun _ => by simp) fun _ =>
    .last rfl fun _ => by simp)

instance (dsorg : CToken) :
    Writes {.size, .flags} (setMvsSize dsorg : EntryParser Time Unit) :=
  .ite (fun _ => .step (by decide) fun _ => .within (by decide)) fun _ => .within (by decide)

instance (line : CLine) :
    Settles {.flags} (fun _ => {.target, .time}ᶜ) (mvsFields line : EntryParser Time Unit) := by
  refine ⟨fun known => ?_⟩
  repeat refine .step rfl fun _ => ?_
  refine .last rfl fun _ => ?_
  rintro (_ | _ | _ | _ | _ | _ | _) member
  all_goals simp [known (mem_singleton_self _)] at member ⊢

instance (line : CLine) :
    Writes {.target, .time}ᶜ (mvsFields line : EntryParser Time Unit) := by
  repeat refine .step (by decide) fun _ => ?_
  exact .within (by decide)

def mvsUnwritten (line : CLine) : Finset EntryField :=
  if ShortDate.parse (line.getToken 2) false = none then {.target, .time} else {.target}

theorem parseAsIbmMvs_determined :
    Determines ∅ (fun _ => (mvsUnwritten line)ᶜ) (parseAsIbmMvs context line) := by
  refine .step rfl fun _ => .step rfl fun _ => .ofOption_bind fun token present => ?_
  cases getToken?_eq present
  refine .step rfl fun _ => ?_
  unfold mvsUnwritten
  refine .ite (fun undated => ?_) fun _ => ?_
  · have noDate : ShortDate.parse (line.getToken 2) false = none := by
      rw [undated]
      decide
    rw [if_pos noDate]
    exact .last rfl fun _ => by decide
  refine .bind (Settles.determined (empty_subset _)).attempt fun dated => ?_
  cases dated with
  | some date =>
    cases date
    refine .last rfl fun _ => ?_
    split <;> decide
  | none =>
    by_cases isVsam : line.getToken 2 = wide "VSAM"
    · have noDate : ShortDate.parse (line.getToken 2) false = none := by
        rw [isVsam]
        decide
      rw [if_pos noDate]
      exact .last rfl fun _ => by decide
    · exact .require_bind fun holds => absurd holds isVsam

theorem parseAsIbmMvs_keeps :
    Keeps (mask (mvsUnwritten line)) (parseAsIbmMvs context line) := by
  have others : Disjoint {.target, .time}ᶜ (mvsUnwritten line) := by
    unfold mvsUnwritten
    split <;> decide
  refine .step rfl fun _ => .step rfl fun _ => .ofOption_bind fun token present => ?_
  cases getToken?_eq present
  refine .step (decide_eq_true (others.mono_left (by decide))) fun _ =>
    .ite (fun _ => .last (decide_eq_true others)) fun _ => ?_
  have date : Keeps (mask (mvsUnwritten line)) (parseShortDate context (line.getToken 2)) := by
    unfold mvsUnwritten
    split
    case isTrue noDate =>
      unfold parseShortDate
      rw [noDate]
      exact .failure
    case isFalse => exact .last rfl
  refine .bind date.attempt fun dated => ?_
  cases dated with
  | some _ => exact .last (decide_eq_true others)
  | none => exact .last (decide_eq_true (others.mono_left (by decide)))

theorem parseAsIbmMvsPds_determined :
    Determines ∅ (fun _ => {.target}ᶜ) (parseAsIbmMvsPds context line) := by
  repeat refine .step rfl fun _ => ?_
  exact .last rfl fun _ => by decide

theorem parseAsIbmMvsPds_keeps :
    Keeps (mask {.target}) (parseAsIbmMvsPds context line) := by
  repeat refine .step rfl fun _ => ?_
  exact .last rfl

theorem parseAsIbmMvsMigrated_determined :
    Determines ∅ (fun _ => {.target, .time}ᶜ)
      (parseAsIbmMvsMigrated line : EntryParser Time Unit) := by
  repeat refine .step rfl fun _ => ?_
  exact .last rfl fun _ => by decide

theorem parseAsIbmMvsMigrated_keeps :
    Keeps (mask {.target, .time}) (parseAsIbmMvsMigrated line : EntryParser Time Unit) := by
  repeat refine .step rfl fun _ => ?_
  exact .last rfl

theorem parseAsIbmMvsPds2_determined :
    Determines ∅ (fun _ => {.target, .time}ᶜ)
      (parseAsIbmMvsPds2 line : EntryParser Time Unit) := by
  iterate 6 refine .step rfl fun _ => ?_
  refine .ite (fun _ => .pure _ (by decide)) fun _ => ?_
  iterate 6 refine .step rfl fun _ => ?_
  exact .last rfl fun _ => by decide

theorem parseAsIbmMvsPds2_keeps :
    Keeps (mask {.target, .time}) (parseAsIbmMvsPds2 line : EntryParser Time Unit) := by
  iterate 6 refine .step rfl fun _ => ?_
  refine .ite (fun _ => .pure _) fun _ => ?_
  iterate 6 refine .step rfl fun _ => ?_
  exact .last rfl

theorem parseAsIbmMvsTape_determined :
    Determines ∅ (fun _ => {.target, .time}ᶜ)
      (parseAsIbmMvsTape line : EntryParser Time Unit) := by
  iterate 9 refine .step rfl fun _ => ?_
  exact .last rfl fun _ => by decide

theorem parseAsIbmMvsTape_keeps :
    Keeps (mask {.target, .time}) (parseAsIbmMvsTape line : EntryParser Time Unit) := by
  iterate 9 refine .step rfl fun _ => ?_
  exact .last rfl

theorem parseAsOs9_determined :
    Determines ∅ (fun _ => {.target}ᶜ) (parseAsOs9 context line) := by
  refine .step rfl fun ownerGroupToken => ?_
  split
  · exact .failure
  repeat refine .step rfl fun _ => ?_
  exact .last rfl fun _ => by decide

theorem parseAsOs9_keeps :
    Keeps (mask {.target}) (parseAsOs9 context line) := by
  refine .step rfl fun ownerGroupToken => ?_
  split
  · exact .failure
  repeat refine .step rfl fun _ => ?_
  exact .last rfl

theorem parseAsZvm_determined :
    Determines ∅ (fun _ => univ) (parseAsZvm context line) := by
  repeat refine .step rfl fun _ => ?_
  exact .last rfl fun _ => by decide

theorem parseAsHpNonstop_determined :
    Determines ∅ (fun _ => {.target}ᶜ) (parseAsHpNonstop context line) := by
  repeat refine .step rfl fun _ => ?_
  exact .last rfl fun _ => by decide

theorem parseAsHpNonstop_keeps :
    Keeps (mask {.target}) (parseAsHpNonstop context line) := by
  repeat refine .step rfl fun _ => ?_
  exact .last rfl

end EntryParser

end FileZilla
