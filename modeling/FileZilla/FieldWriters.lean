import Mathlib.Data.Finset.Lattice.Lemmas

namespace FileZilla

open Finset

/-! Parsers that write into a record while they read, and that leave in it what they have
written when they reject their input. `agreeOn field` tells whether two records have the
same value in a field. -/

abbrev Rejecting (σ : Type) := OptionT (StateM σ)

namespace Rejecting

variable {σ ι α β : Type} (parser : Rejecting σ α)

def outcome (record : σ) : Option α × σ :=
  StateT.run (OptionT.run parser) record

@[simp] theorem outcome_pure (value : α) (record : σ) :
    outcome (pure value : Rejecting σ α) record = (some value, record) := rfl

@[simp] theorem outcome_failure (record : σ) :
    outcome (failure : Rejecting σ α) record = (none, record) := rfl

@[simp] theorem outcome_modify (change : σ → σ) (record : σ) :
    outcome (modify change : Rejecting σ PUnit) record = (some ⟨⟩, change record) := rfl

theorem outcome_bind (next : α → Rejecting σ β) (record : σ) :
    outcome (parser >>= next) record =
      match outcome parser record with
      | (none, left) => (none, left)
      | (some value, left) => outcome (next value) left := by
  simp only [outcome, OptionT.run_bind, Option.elimM, StateT.run_bind]
  rcases StateT.run (OptionT.run parser) record with ⟨_ | value, left⟩
  · rfl
  · rfl

def require (condition : Prop) [Decidable condition] : Rejecting σ Unit :=
  if condition then pure () else failure

/-- Tells whether the parser has accepted, and does not reject itself. -/
def attempt : Rejecting σ (Option α) :=
  OptionT.mk fun record => match outcome parser record with
    | (value, left) => (some value, left)

@[simp] theorem outcome_attempt (record : σ) :
    outcome (attempt parser) record =
      (some (outcome parser record).1, (outcome parser record).2) := rfl

def ofOption (result : Option α) : Rejecting σ α :=
  match result with
  | some value => pure value
  | none => failure

def read (value : σ → α) : Rejecting σ α :=
  value <$> get

@[simp] theorem outcome_read (value : σ → α) (record : σ) :
    outcome (read value) record = (some (value record), record) := rfl

section
variable {record left : σ} {value : β}

theorem accepts_bind {parser : Rejecting σ α} {next : α → Rejecting σ β}
    (accepts : outcome (parser >>= next) record = (some value, left)) :
    ∃ middle between, outcome parser record = (some middle, between) ∧
      outcome (next middle) between = (some value, left) := by
  rw [outcome_bind] at accepts
  rcases result : outcome parser record with ⟨_ | middle, between⟩
  · rw [result] at accepts
    cases accepts
  · rw [result] at accepts
    exact ⟨middle, between, rfl, accepts⟩

theorem accepts_require {condition : Prop} [Decidable condition] {next : Unit → Rejecting σ β}
    (accepts : outcome (require condition >>= next) record = (some value, left)) :
    condition ∧ outcome (next ()) record = (some value, left) := by
  unfold require at accepts
  split at accepts
  case isTrue holds => exact ⟨holds, accepts⟩
  case isFalse => cases accepts

theorem accepts_ofOption {result : Option α} {next : α → Rejecting σ β}
    (accepts : outcome (ofOption result >>= next) record = (some value, left)) :
    ∃ middle, result = some middle ∧ outcome (next middle) record = (some value, left) := by
  cases result with
  | none => cases accepts
  | some middle => exact ⟨middle, rfl, accepts⟩

end

/-- The parser does not change what `observe` sees, whether it accepts or not. -/
def Keeps (observe : σ → β) (parser : Rejecting σ α) : Prop :=
  ∀ record, observe (outcome parser record).2 = observe record

open Rejecting

section
variable {γ : Type} {observe : σ → γ}

theorem Keeps.pure (value : α) : Keeps observe (pure value : Rejecting σ α) :=
  fun _ => rfl

theorem Keeps.failure : Keeps observe (failure : Rejecting σ α) :=
  fun _ => rfl

variable {parser : Rejecting σ α} {next : α → Rejecting σ β}

theorem Keeps.bind_reached (first : Keeps observe parser)
    (rest : ∀ value record, (outcome parser record).1 = some value → Keeps observe (next value)) :
    Keeps observe (parser >>= next) := by
  intro record
  have kept := first record
  have next := fun value => rest value record
  rw [outcome_bind]
  rcases result : outcome parser record with ⟨_ | value, left⟩
  · simpa [result] using kept
  · rw [result] at kept next
    exact (next value rfl left).trans kept

theorem Keeps.bind (first : Keeps observe parser) (rest : ∀ value, Keeps observe (next value)) :
    Keeps observe (parser >>= next) :=
  first.bind_reached fun value _ _ => rest value

theorem Keeps.map (kept : Keeps observe parser) (answer : α → β) :
    Keeps observe (answer <$> parser) := by
  rw [map_eq_pure_bind]
  exact kept.bind fun value => .pure _

theorem Keeps.modify {change : σ → σ} (kept : ∀ record, observe (change record) = observe record) :
    Keeps observe (modify change : Rejecting σ PUnit) :=
  kept

theorem Keeps.read (value : σ → α) : Keeps observe (read value) :=
  fun _ => rfl

theorem Keeps.require (condition : Prop) [Decidable condition] :
    Keeps observe (require condition) := by
  unfold Rejecting.require
  split
  · exact .pure ()
  · exact .failure

theorem Keeps.ofOption (result : Option α) : Keeps observe (ofOption result) := by
  cases result with
  | none => exact .failure
  | some value => exact .pure value

theorem Keeps.ofOption_bind {result : Option α}
    (rest : ∀ value, result = some value → Keeps observe (next value)) :
    Keeps observe (Rejecting.ofOption result >>= next) := by
  cases result with
  | none => exact fun _ => rfl
  | some value => exact rest value rfl

theorem Keeps.attempt (kept : Keeps observe parser) :
    Keeps observe (attempt parser) :=
  kept

theorem Keeps.ite {condition : Prop} [Decidable condition] {first second : Rejecting σ α}
    (whenTrue : condition → Keeps observe first)
    (whenFalse : ¬ condition → Keeps observe second) :
    Keeps observe (if condition then first else second) := by
  split
  case isTrue holds => exact whenTrue holds
  case isFalse fails => exact whenFalse fails

end

section
variable (agreeOn : ι → σ → σ → Prop) [DecidableEq ι]

def Agree (fields : Finset ι) (left right : σ) : Prop :=
  ∀ field ∈ fields, agreeOn field left right

/-- Started with records that agree on the fields `before`, the parser does the same: it
accepts both or rejects both, and when it accepts with a value the records agree on the
fields `written value` too. -/
structure Determined (before : Finset ι) (written : α → Finset ι) (parser : Rejecting σ α) :
    Prop where
  same : ∀ left right, Agree agreeOn before left right →
    (outcome parser left).1 = (outcome parser right).1
  kept : ∀ left right, Agree agreeOn before left right →
    Agree agreeOn before (outcome parser left).2 (outcome parser right).2
  accepted : ∀ left right value, Agree agreeOn before left right →
    (outcome parser left).1 = some value →
    Agree agreeOn (before ∪ written value) (outcome parser left).2 (outcome parser right).2

end

section
variable {agreeOn : ι → σ → σ → Prop} {before : Finset ι}

theorem Agree.mono {fields fewer : Finset ι} {left right : σ}
    (agree : Agree agreeOn fields left right) (subset : fewer ⊆ fields) :
    Agree agreeOn fewer left right :=
  fun field member => agree field (subset member)

variable [DecidableEq ι]

variable {written : α → Finset ι} {parser : Rejecting σ α}

theorem Determined.runs (determined : Determined agreeOn before written parser) {left right : σ}
    (agree : Agree agreeOn before left right) :
    (∃ left' right', outcome parser left = (none, left') ∧ outcome parser right = (none, right') ∧
      Agree agreeOn before left' right') ∨
    ∃ value left' right', outcome parser left = (some value, left') ∧
      outcome parser right = (some value, right') ∧
      Agree agreeOn (before ∪ written value) left' right' := by
  have same := determined.same left right agree
  have kept := determined.kept left right agree
  have accepted := fun value => determined.accepted left right value agree
  cases result : (outcome parser left).1 with
  | none =>
    refine .inl ⟨_, _, Prod.ext result rfl, Prod.ext ?_ rfl, kept⟩
    rw [← same, result]
  | some value =>
    refine .inr ⟨value, _, _, Prod.ext result rfl, Prod.ext ?_ rfl, accepted value result⟩
    rw [← same, result]

theorem Determined.weaken {fewer : α → Finset ι}
    (determined : Determined agreeOn before written parser)
    (subset : ∀ value, fewer value ⊆ before ∪ written value) :
    Determined agreeOn before fewer parser where
  __ := determined
  accepted left right value agree accepts :=
    (determined.accepted left right value agree accepts).mono
      (union_subset subset_union_left (subset value))

theorem Determined.pure (value : α) (known : written value ⊆ before) :
    Determined agreeOn before written (pure value : Rejecting σ α) where
  same _ _ _ := rfl
  kept _ _ agree := agree
  accepted left right other agree accepts := by
    cases accepts
    exact agree.mono (union_subset (Finset.Subset.refl _) known)

theorem Determined.failure :
    Determined agreeOn before written (failure : Rejecting σ α) where
  same _ _ _ := rfl
  kept _ _ agree := agree
  accepted _ _ _ _ accepts := by cases accepts

variable {middle : α → Finset ι} {next : α → Rejecting σ β}

theorem Determined.bind_reached {written : β → Finset ι}
    (first : Determined agreeOn before middle parser)
    (rest : ∀ value record, (outcome parser record).1 = some value →
      Determined agreeOn (before ∪ middle value) written (next value)) :
    Determined agreeOn before written (parser >>= next) := by
  refine ⟨fun left right agree => ?_, fun left right agree => ?_,
    fun left right value agree accepts => ?_⟩
  · rw [outcome_bind, outcome_bind]
    rcases first.runs agree with
      ⟨_, _, ranLeft, ranRight, _⟩ | ⟨middleValue, _, _, ranLeft, ranRight, agree⟩
    · rw [ranLeft, ranRight]
    · have next := rest middleValue left (congrArg Prod.fst ranLeft)
      rw [ranLeft, ranRight]
      exact next.same _ _ agree
  · rw [outcome_bind, outcome_bind]
    rcases first.runs agree with
      ⟨_, _, ranLeft, ranRight, kept⟩ | ⟨middleValue, _, _, ranLeft, ranRight, agree⟩
    · rw [ranLeft, ranRight]
      exact kept
    · have next := rest middleValue left (congrArg Prod.fst ranLeft)
      rw [ranLeft, ranRight]
      exact (next.kept _ _ agree).mono subset_union_left
  · rw [outcome_bind] at accepts ⊢
    rw [outcome_bind]
    rcases first.runs agree with
      ⟨_, _, ranLeft, _, _⟩ | ⟨middleValue, _, _, ranLeft, ranRight, agree⟩
    · rw [ranLeft] at accepts
      cases accepts
    · have next := rest middleValue left (congrArg Prod.fst ranLeft)
      rw [ranLeft] at accepts ⊢
      rw [ranRight]
      exact (next.accepted _ _ value agree accepts).mono
        (union_subset_union_left subset_union_left)

theorem Determined.bind {written : β → Finset ι} (first : Determined agreeOn before middle parser)
    (rest : ∀ value, Determined agreeOn (before ∪ middle value) written (next value)) :
    Determined agreeOn before written (parser >>= next) :=
  first.bind_reached fun value _ _ => rest value

theorem Determined.map {fields : β → Finset ι}
    (determined : Determined agreeOn before written parser) (answer : α → β)
    (known : ∀ value, fields (answer value) ⊆ before ∪ written value) :
    Determined agreeOn before fields (answer <$> parser) := by
  rw [map_eq_pure_bind]
  exact determined.bind fun value => .pure _ (known value)

theorem Determined.require (condition : Prop) [Decidable condition] :
    Determined agreeOn before (fun _ => ∅) (require condition) := by
  unfold Rejecting.require
  split
  · exact .pure () (empty_subset _)
  · exact .failure

theorem Determined.require_bind {written : β → Finset ι} {condition : Prop}
    [Decidable condition] {next : Unit → Rejecting σ β}
    (rest : condition → Determined agreeOn before written (next ())) :
    Determined agreeOn before written (Rejecting.require condition >>= next) := by
  unfold Rejecting.require
  split
  case isTrue holds => exact rest holds
  case isFalse => exact Determined.failure

theorem Determined.ofOption (result : Option α) :
    Determined agreeOn before (fun _ => ∅) (ofOption result) := by
  cases result with
  | none => exact .failure
  | some value => exact .pure value (empty_subset _)

theorem Determined.ofOption_bind {written : β → Finset ι} {result : Option α}
    (rest : ∀ value, result = some value → Determined agreeOn before written (next value)) :
    Determined agreeOn before written (Rejecting.ofOption result >>= next) := by
  cases result with
  | none => exact Determined.failure
  | some value => exact rest value rfl

theorem Determined.ite {condition : Prop} [Decidable condition] {first second : Rejecting σ α}
    (whenTrue : condition → Determined agreeOn before written first)
    (whenFalse : ¬ condition → Determined agreeOn before written second) :
    Determined agreeOn before written (if condition then first else second) := by
  split
  case isTrue holds => exact whenTrue holds
  case isFalse fails => exact whenFalse fails

theorem Determined.attempt (determined : Determined agreeOn before written parser) :
    Determined agreeOn before (fun result => result.elim ∅ written) (attempt parser) where
  same left right agree := congrArg some (determined.same left right agree)
  kept := determined.kept
  accepted left right result agree accepts := by
    have found : (outcome parser left).1 = result := Option.some.inj accepts
    cases result with
    | none =>
      exact (determined.kept left right agree).mono
        (union_subset (Finset.Subset.refl _) (empty_subset _))
    | some value => exact determined.accepted left right value agree found

theorem Determined.modify {fields : Finset ι} {change : σ → σ}
    (agrees : ∀ left right, Agree agreeOn before left right →
      Agree agreeOn (before ∪ fields) (change left) (change right)) :
    Determined agreeOn before (fun _ => fields) (modify change : Rejecting σ PUnit) where
  same _ _ _ := rfl
  kept left right agree := (agrees left right agree).mono subset_union_left
  accepted left right _ agree _ := agrees left right agree

theorem Determined.read {value : σ → α}
    (agrees : ∀ left right, Agree agreeOn before left right → value left = value right) :
    Determined agreeOn before (fun _ => ∅) (read value) where
  same left right agree := congrArg some (agrees left right agree)
  kept _ _ agree := agree
  accepted _ _ _ agree _ :=
    agree.mono (union_subset (Finset.Subset.refl _) (empty_subset _))

theorem Determined.bind_from {written : β → Finset ι} (record : σ)
    (first : Determined agreeOn ∅ middle parser)
    (rest : ∀ value, (outcome parser record).1 = some value →
      Determined agreeOn (middle value) written (next value)) :
    Determined agreeOn ∅ written (parser >>= next) := by
  refine first.bind_reached fun value other reached => ?_
  rw [empty_union]
  refine rest value ?_
  rw [first.same record other fun _ member => absurd member (notMem_empty _), reached]

theorem Keeps.bind_from {γ : Type} {observe : σ → γ} (record : σ) (first : Keeps observe parser)
    (determined : Determined agreeOn ∅ middle parser)
    (rest : ∀ value, (outcome parser record).1 = some value → Keeps observe (next value)) :
    Keeps observe (parser >>= next) := by
  refine first.bind_reached fun value other reached => rest value ?_
  rw [determined.same record other fun _ member => absurd member (notMem_empty _), reached]

end

/-- The parser keeps an invariant of the record, whether it accepts or not. -/
def Stays (invariant : σ → Prop) (parser : Rejecting σ α) : Prop :=
  ∀ record, invariant record → invariant (outcome parser record).2

section
variable {invariant : σ → Prop}

theorem Stays.pure (value : α) : Stays invariant (pure value : Rejecting σ α) :=
  fun _ known => known

theorem Stays.failure : Stays invariant (failure : Rejecting σ α) :=
  fun _ known => known

variable {parser : Rejecting σ α}

theorem Stays.bind {next : α → Rejecting σ β} (first : Stays invariant parser)
    (rest : ∀ value, Stays invariant (next value)) :
    Stays invariant (parser >>= next) := by
  intro record known
  have kept := first record known
  rw [outcome_bind]
  rcases result : outcome parser record with ⟨_ | value, left⟩
  · rw [result] at kept
    exact kept
  · rw [result] at kept
    exact rest value left kept

theorem Stays.map (kept : Stays invariant parser) (answer : α → β) :
    Stays invariant (answer <$> parser) := by
  rw [map_eq_pure_bind]
  exact kept.bind fun value => .pure _

theorem Stays.require_bind {condition : Prop} [Decidable condition] {next : Unit → Rejecting σ β}
    (rest : condition → Stays invariant (next ())) :
    Stays invariant (require condition >>= next) := by
  unfold require
  split
  case isTrue holds => exact rest holds
  case isFalse => exact fun _ known => known

theorem Stays.ofOption_bind {result : Option α} {next : α → Rejecting σ β}
    (rest : ∀ value, result = some value → Stays invariant (next value)) :
    Stays invariant (ofOption result >>= next) := by
  cases result with
  | none => exact fun _ known => known
  | some value => exact rest value rfl

theorem Stays.ite {condition : Prop} [Decidable condition] {first second : Rejecting σ α}
    (whenTrue : condition → Stays invariant first)
    (whenFalse : ¬ condition → Stays invariant second) :
    Stays invariant (if condition then first else second) := by
  split
  case isTrue holds => exact whenTrue holds
  case isFalse fails => exact whenFalse fails

end

/-- When the parser accepts, the value and the record it leaves satisfy `post`. -/
def Ensures (post : α → σ → Prop) (parser : Rejecting σ α) : Prop :=
  ∀ record value left, outcome parser record = (some value, left) → post value left

section
variable {post : β → σ → Prop}

theorem Ensures.pure {post : α → σ → Prop} {value : α} (holds : ∀ record, post value record) :
    Ensures post (pure value : Rejecting σ α) := by
  rintro record _ _ ⟨⟩
  exact holds record

theorem Ensures.failure {post : α → σ → Prop} :
    Ensures post (failure : Rejecting σ α) := by
  rintro record _ _ ⟨⟩

variable {parser : Rejecting σ α} {next : α → Rejecting σ β}

theorem Ensures.bind (rest : ∀ value, Ensures post (next value)) :
    Ensures post (parser >>= next) := by
  intro record value left accepts
  rw [outcome_bind] at accepts
  split at accepts
  · cases accepts
  · exact rest _ _ value left accepts

theorem Ensures.bind_value {known : α → σ → Prop} (first : Ensures known parser)
    (rest : ∀ value, (∃ record, known value record) → Ensures post (next value)) :
    Ensures post (parser >>= next) := by
  intro record value left accepts
  rw [outcome_bind] at accepts
  split at accepts
  · cases accepts
  case h_2 middle between reached =>
    exact rest middle ⟨between, first _ _ _ reached⟩ _ value left accepts

theorem Ensures.bind_keeps {γ : Type} (observe : σ → γ) (holds : γ → Prop)
    (first : Ensures (fun _ record => holds (observe record)) parser)
    (rest : ∀ value, Keeps observe (next value)) :
    Ensures (fun _ record => holds (observe record)) (parser >>= next) := by
  intro record value left accepts
  rw [outcome_bind] at accepts
  split at accepts
  · cases accepts
  case h_2 middle between reached =>
    have kept := rest middle between
    rw [accepts] at kept
    dsimp only at kept
    rw [kept]
    exact first _ _ _ reached

theorem Ensures.ofOption_bind {result : Option α}
    (rest : ∀ value, result = some value → Ensures post (next value)) :
    Ensures post (ofOption result >>= next) := by
  cases result with
  | none => exact Ensures.failure
  | some value => exact rest value rfl

theorem Ensures.require_bind {condition : Prop} [Decidable condition]
    {next : Unit → Rejecting σ β} (rest : condition → Ensures post (next ())) :
    Ensures post (require condition >>= next) := by
  unfold require
  split
  case isTrue holds => exact rest holds
  case isFalse => exact Ensures.failure

theorem Ensures.ite {condition : Prop} [Decidable condition] {first second : Rejecting σ β}
    (whenTrue : condition → Ensures post first) (whenFalse : ¬ condition → Ensures post second) :
    Ensures post (if condition then first else second) := by
  split
  case isTrue holds => exact whenTrue holds
  case isFalse fails => exact whenFalse fails

theorem Ensures.map {holds : σ → Prop} (ensures : Ensures (fun _ => holds) parser)
    (answer : α → β) :
    Ensures (fun _ => holds) (answer <$> parser) := by
  rw [map_eq_pure_bind]
  intro record value left accepts
  rw [outcome_bind] at accepts
  split at accepts
  · cases accepts
  case h_2 middle between reached =>
    cases accepts
    exact ensures _ _ _ reached

end

end Rejecting

end FileZilla
