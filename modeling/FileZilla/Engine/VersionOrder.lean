import FileZilla.Engine.VersionNumbers

namespace FileZilla

def numeral (digits : WString) : Nat :=
  digits.foldl (fun number char => number * 10 + (char - 48)) 0

structure Numeral (least most : Nat) where
  digits : WString
  numeric : ∀ char ∈ digits, isDigit char = true
  filled : digits ≠ []
  least_le : least ≤ numeral digits
  le_most : numeral digits ≤ most

inductive Stage
  | beta (number : Numeral 1 1023)
  | candidate (number : Numeral 1 511)
  | final

/-- `A`, `A.B`, `A.B.C` or `A.B.C.D`, and the stage -/
structure Version where
  first : Numeral 0 1023
  others : List (Numeral 0 1023)
  few : others.length ≤ 3
  stage : Stage

def Stage.text : Stage → WString
  | .beta number => wide "-beta" ++ number.digits
  | .candidate number => wide "-rc" ++ number.digits
  | .final => []

def Stage.key : Stage → List Nat
  | .beta number => [0, numeral number.digits]
  | .candidate number => [1, numeral number.digits]
  | .final => [2, 0]

namespace Version

def text (self : Version) : WString :=
  self.first.digits ++ (self.others.flatMap fun other => '.'.toNat :: other.digits) ++
    self.stage.text

def component (self : Version) (index : Nat) : Nat :=
  (self.others[index]?.map fun other => numeral other.digits).getD 0

/-- Missing components are 0, and betas come before candidates and these before the release. -/
def key (self : Version) : List Nat :=
  [numeral self.first.digits, self.component 0, self.component 1, self.component 2] ++
    self.stage.key

end Version

variable {place number : Nat} {digits rest : WString}

open List

theorem versionNumbers_digits (numeric : ∀ char ∈ digits, isDigit char = true) :
    versionNumbers place number (digits ++ rest) =
      versionNumbers place (digits.foldl (fun number char => number * 10 + (char - 48)) number)
        rest := by
  induction digits generalizing number with
  | nil => rfl
  | cons char digits induction =>
    obtain ⟨digit, later⟩ := forall_mem_cons.mp numeric
    have inside : ¬(char = '.'.toNat ∨ char = '-'.toNat ∨ char = 'b'.toNat) := by
      rintro (rfl | rfl | rfl) <;> cases digit
    rw [cons_append, versionNumbers, if_neg inside, if_pos digit, induction later,
      foldl_cons]

theorem versionNumbers_numeral (numeric : ∀ char ∈ digits, isDigit char = true) :
    versionNumbers place 0 digits = [(place, numeral digits)] := by
  rw [← append_nil digits, versionNumbers_digits numeric, append_nil]
  rfl

def Stage.raw : Stage → Nat
  | .beta number => numeral number.digits
  | .candidate number => numeral number.digits * 2 ^ 10
  | .final => 0

theorem versionNumbers_stage (stage : Stage) (few : place ≤ 3) (small : number < 1024) :
    packed (versionNumbers place number stage.text) = number * 2 ^ ((5 - place) * 10) + stage.raw ∧
      ∀ entry ∈ versionNumbers place number stage.text, entry.1 ≤ 5 ∧ entry.2 < 1024 := by
  have four : nextPlace '-'.toNat place = 4 := by
    rw [nextPlace, if_pos rfl]
    omega
  cases stage with
  | final =>
    refine ⟨rfl, fun entry member => ?_⟩
    obtain rfl := mem_singleton.mp member
    exact ⟨by dsimp only; omega, small⟩
  | candidate candidate =>
    have numbers : versionNumbers place number (Stage.candidate candidate).text =
        [(place, number), (nextPlace '-'.toNat place, numeral candidate.digits)] := by
      rw [← versionNumbers_numeral candidate.numeric]
      rfl
    have most := candidate.le_most
    rw [numbers, four]
    refine ⟨by simp [packed, Stage.raw], ?_⟩
    simp
    omega
  | beta beta =>
    have numbers : versionNumbers place number (Stage.beta beta).text =
        [(place, number), (nextPlace '-'.toNat place, 0),
          (nextPlace '-'.toNat place + 1, numeral beta.digits)] := by
      rw [← versionNumbers_numeral beta.numeric]
      rfl
    have most := beta.le_most
    rw [numbers, four]
    refine ⟨by simp [packed, Stage.raw], ?_⟩
    simp
    omega

theorem Stage.raw_lt (stage : Stage) : stage.raw < 2 ^ 20 := by
  cases stage with
  | final => decide
  | candidate candidate =>
    have most := candidate.le_most
    dsimp only [raw]
    omega
  | beta beta =>
    have most := beta.le_most
    dsimp only [raw]
    omega

def packedOthers (raw : Nat) : Nat → List (Numeral 0 1023) → Nat
  | _, [] => raw
  | place, other :: others =>
    numeral other.digits * 2 ^ ((5 - place) * 10) + packedOthers raw (place + 1) others

theorem versionNumbers_others {others : List (Numeral 0 1023)} (stage : Stage)
    (few : place + others.length ≤ 3) (small : number < 1024) :
    let text := (others.flatMap fun other => '.'.toNat :: other.digits) ++ stage.text
    packed (versionNumbers place number text) =
        number * 2 ^ ((5 - place) * 10) + packedOthers stage.raw (place + 1) others ∧
      ∀ entry ∈ versionNumbers place number text, entry.1 ≤ 5 ∧ entry.2 < 1024 := by
  induction others generalizing place number with
  | nil => exact versionNumbers_stage stage few small
  | cons other others induction =>
    rw [length_cons] at few
    have most := other.le_most
    obtain ⟨total, range⟩ := @induction (place + 1) (numeral other.digits) (by omega) (by omega)
    dsimp only at total range ⊢
    have read : versionNumbers place number
        (((other :: others).flatMap fun other => '.'.toNat :: other.digits) ++ stage.text) =
        (place, number) :: versionNumbers (place + 1) (numeral other.digits)
          ((others.flatMap fun other => '.'.toNat :: other.digits) ++ stage.text) := by
      rw [flatMap_cons, append_assoc, cons_append, versionNumbers,
        if_pos (.inl rfl), versionNumbers_digits other.numeric]
      rfl
    rw [read, packed, total]
    exact ⟨rfl, forall_mem_cons.mpr ⟨⟨by dsimp only; omega, small⟩, range⟩⟩

theorem pack_lt {base left right low high : Nat} (small : low < base ∧ high < base) :
    left * base + low < right * base + high ↔ left < right ∨ left = right ∧ low < high := by
  constructor
  · intro less
    rcases Nat.lt_trichotomy left right with below | rfl | above
    · exact .inl below
    · exact .inr ⟨rfl, by omega⟩
    · have := Nat.mul_le_mul_right base (Nat.succ_le_of_lt above)
      rw [Nat.succ_mul] at this
      omega
  · rintro (below | ⟨rfl, below⟩)
    · have := Nat.mul_le_mul_right base (Nat.succ_le_of_lt below)
      rw [Nat.succ_mul] at this
      omega
    · omega

theorem pack_eq {base left right low high : Nat} (small : low < base ∧ high < base) :
    left * base + low = right * base + high ↔ left = right ∧ low = high := by
  constructor
  · intro same
    have less := mt (pack_lt small).mpr (Nat.lt_irrefl _ <| same ▸ ·)
    have more := mt (pack_lt small.symm).mpr (Nat.lt_irrefl _ <| same ▸ ·)
    omega
  · rintro ⟨rfl, rfl⟩
    rfl

def Stage.marked : Stage → Nat
  | .final => 2 ^ 19
  | stage => stage.raw

theorem Stage.withFinal_raw (stage : Stage) (base : Nat) :
    withFinal (base * 2 ^ 20 + stage.raw) = base * 2 ^ 20 + stage.marked := by
  have small := stage.raw_lt
  unfold withFinal
  split
  case isTrue whole =>
    have none : stage.raw = 0 := by omega
    clear whole small
    cases stage with
    | final => simp [raw, marked]
    | candidate candidate =>
      have least := candidate.least_le
      rcases Nat.mul_eq_zero.mp none with zero | zero
      · omega
      · cases zero
    | beta beta =>
      have least := beta.least_le
      simp only [raw] at none
      omega
  case isFalse part =>
    cases stage with
    | final => simp [raw] at part
    | candidate => rfl
    | beta => rfl

theorem Stage.marked_ordered (left right : Stage) :
    (left.marked < 2 ^ 20 ∧ right.marked < 2 ^ 20) ∧
      (left.marked < right.marked ↔ Lex (· < ·) left.key right.key) ∧
      (left.marked = right.marked ↔ left.key = right.key) := by
  rcases left with left | left | - <;> rcases right with right | right | - <;>
    simp [marked, raw, key, cons_lex_cons_iff]
  all_goals
    try have leftRange := And.intro left.least_le left.le_most
    try have rightRange := And.intro right.least_le right.le_most
    omega

namespace Version

def packed (self : Version) : Nat :=
  numeral self.first.digits * 2 ^ 50 + self.component 0 * 2 ^ 40 + self.component 1 * 2 ^ 30 +
    self.component 2 * 2 ^ 20 + self.stage.raw

variable (self : Version)

theorem component_le (index : Nat) : self.component index ≤ 1023 := by
  unfold component
  cases self.others[index]? with
  | none => exact Nat.zero_le _
  | some other => exact other.le_most

theorem cString_text : cString self.text = self.text := by
  have numeric : ∀ {least most} (number : Numeral least most), ∀ char ∈ number.digits,
      (char != 0) = true := by
    intro least most number char member
    have digit := number.numeric char member
    exact bne_iff_ne.mpr fun zero => by
      subst zero
      cases digit
  refine takeWhile_eq_self_iff.mpr fun char member => ?_
  rcases mem_append.mp member with front | stage
  · rcases mem_append.mp front with first | other
    · exact numeric _ _ first
    · obtain ⟨other, _, inside⟩ := mem_flatMap.mp other
      rcases mem_cons.mp inside with rfl | digit
      · rfl
      · exact numeric _ _ digit
  · cases kind : self.stage with
    | final => rw [kind] at stage; cases stage
    | candidate candidate =>
      rw [kind] at stage
      rcases mem_append.mp stage with letter | digit
      · have letters : ∀ char ∈ wide "-rc", (char != 0) = true := by decide
        exact letters _ letter
      · exact numeric _ _ digit
    | beta beta =>
      rw [kind] at stage
      rcases mem_append.mp stage with letter | digit
      · have letters : ∀ char ∈ wide "-beta", (char != 0) = true := by decide
        exact letters _ letter
      · exact numeric _ _ digit

theorem packed_text :
    FileZilla.packed (versionNumbers 0 0 self.text) = self.packed ∧
      ∀ entry ∈ versionNumbers 0 0 self.text, entry.1 ≤ 5 ∧ entry.2 < 1024 := by
  have most := self.first.le_most
  obtain ⟨total, range⟩ := @versionNumbers_others 0 (numeral self.first.digits) self.others
    self.stage (by have := self.few; omega) (by omega)
  have read : versionNumbers 0 0 self.text = versionNumbers 0 (numeral self.first.digits)
      ((self.others.flatMap fun other => '.'.toNat :: other.digits) ++ self.stage.text) := by
    rw [text, append_assoc, versionNumbers_digits self.first.numeric]
    rfl
  rw [read]
  refine ⟨total.trans ?_, range⟩
  obtain ⟨first, others, few, stage⟩ := self
  rcases others with - | ⟨second, - | ⟨third, - | ⟨fourth, - | ⟨_, _⟩⟩⟩⟩
  all_goals simp [packed, packedOthers, component] at few ⊢
  all_goals omega

theorem withFinal_packed : withFinal self.packed =
    (((numeral self.first.digits * 1024 + self.component 0) * 1024 + self.component 1) * 1024 +
      self.component 2) * 2 ^ 20 + self.stage.marked := by
  have sum : self.packed = (((numeral self.first.digits * 1024 + self.component 0) * 1024 +
      self.component 1) * 1024 + self.component 2) * 2 ^ 20 + self.stage.raw := by
    unfold packed
    ring
  rw [sum, Stage.withFinal_raw]

theorem convertToVersionNumber_text :
    convertToVersionNumber self.text = withFinal self.packed := by
  obtain ⟨total, range⟩ := self.packed_text
  have clean := self.cString_text
  have digit : (cString self.text).head?.any isDigit = true := by
    obtain ⟨char, digits, same⟩ := exists_cons_of_ne_nil self.first.filled
    rw [clean, text, same]
    exact self.first.numeric char (same ▸ mem_cons_self)
  have most := self.first.le_most
  have raw := self.stage.raw_lt
  have packs : Packs 0 (versionNumbers 0 0 (cString self.text)) := by
    rw [clean]
    refine ⟨fun entry member => (range entry member).1,
      fun entry member => Nat.lt_trans (range entry member).2 (by decide), ?_⟩
    have components := self.component_le
    have bounds := And.intro (components 0) (And.intro (components 1) (components 2))
    rw [total, packed]
    omega
  have converted := (checkedVersionNumber_iff digit).mpr ⟨packs, rfl⟩
  rw [convertToVersionNumber_of_checked converted, clean, total]

/-- The numbers are in the order of the versions. -/
theorem convertToVersionNumber_ordered (left right : Version) :
    (convertToVersionNumber left.text < convertToVersionNumber right.text ↔
        Lex (· < ·) left.key right.key) ∧
      (convertToVersionNumber left.text = convertToVersionNumber right.text ↔
        left.key = right.key) := by
  have leftMost := left.component_le
  have rightMost := right.component_le
  have components (index : Nat) : left.component index < 1024 ∧ right.component index < 1024 :=
    ⟨by have := leftMost index; omega, by have := rightMost index; omega⟩
  have stages := left.stage.marked_ordered right.stage
  rw [left.convertToVersionNumber_text, right.convertToVersionNumber_text, left.withFinal_packed,
    right.withFinal_packed, Nat.cast_lt, Nat.cast_inj, pack_lt stages.1, pack_eq stages.1, 
    pack_lt (components 2), pack_eq (components 2), pack_lt (components 1), pack_eq (components 1),
    pack_lt (components 0), pack_eq (components 0), stages.2.1, stages.2.2]
  simp only [key, cons_append, nil_append, cons_lex_cons_iff, cons.injEq,
    and_or_left, and_assoc, or_assoc]
  exact ⟨trivial, trivial⟩

end Version

end FileZilla
