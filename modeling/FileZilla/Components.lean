import FileZilla.Pieces
import FileZilla.Text

namespace FileZilla

open List

/-- From the directory `base`, `.` stays and `..` goes up, but not beyond the top. -/
def resolve (base : List WString) : List WString → List WString
  | [] => base
  | component :: rest =>
    if component = wide "." then resolve base rest
    else if component = wide ".." then resolve base.dropLast rest
    else resolve (base ++ [component]) rest

/-- No component goes up at the top. -/
def staysBelow (depth : Nat) : List WString → Bool
  | [] => true
  | component :: rest =>
    if component = wide "." then staysBelow depth rest
    else if component = wide ".." then decide (0 < depth) && staysBelow (depth - 1) rest
    else staysBelow (depth + 1) rest

theorem resolve_append (base left right : List WString) :
    resolve base (left ++ right) = resolve (resolve base left) right := by
  induction left generalizing base with
  | nil => rfl
  | cons component rest induction =>
    simp only [cons_append, resolve, induction]
    split
    case isTrue => rfl
    case isFalse => split <;> rfl

theorem resolve_above (above base components : List WString)
    (stays : staysBelow base.length components = true) :
    resolve (above ++ base) components = above ++ resolve base components := by
  induction components generalizing base with
  | nil => rfl
  | cons component rest induction =>
    simp only [resolve, staysBelow] at stays ⊢
    split
    case isTrue self =>
      rw [if_pos self] at stays
      exact induction base stays
    case isFalse notSelf =>
      rw [if_neg notSelf] at stays
      split
      case isTrue parent =>
        rw [if_pos parent, Bool.and_eq_true, decide_eq_true_eq] at stays
        rw [dropLast_append_of_ne_nil (length_pos_iff.mp stays.1)]
        exact induction base.dropLast (by rw [length_dropLast]; exact stays.2)
      case isFalse notParent =>
        rw [if_neg notParent] at stays
        rw [append_assoc]
        exact induction (base ++ [component]) (by rwa [length_append])

theorem resolve_plain {components : List WString}
    (plain : ∀ component ∈ components, component ≠ wide "." ∧ component ≠ wide "..")
    (base : List WString) : resolve base components = base ++ components := by
  induction components generalizing base with
  | nil => exact (append_nil base).symm
  | cons component rest induction =>
    have head := plain component mem_cons_self
    rw [resolve, if_neg head.1, if_neg head.2,
      induction (fun component member => plain component (mem_cons_of_mem _ member)),
      append_assoc]
    rfl

theorem mem_resolve {base components : List WString} {component : WString}
    (member : component ∈ resolve base components) :
    component ∈ base ∨ component ∈ components ∧ component ≠ wide "." ∧ component ≠ wide ".." := by
  induction components generalizing base with
  | nil => exact .inl member
  | cons first rest induction =>
    unfold resolve at member
    split at member
    case isTrue =>
      exact (induction member).imp_right (And.imp_left (mem_cons_of_mem _))
    case isFalse notSelf =>
      split at member
      case isTrue =>
        exact (induction member).imp (dropLast_subset _ ·)
          (And.imp_left (mem_cons_of_mem _))
      case isFalse notParent =>
        rcases induction member with before | later
        · rcases mem_append.mp before with earlier | last
          · exact .inl earlier
          · rw [mem_singleton.mp last]
            exact .inr ⟨mem_cons_self, notSelf, notParent⟩
        · exact .inr ⟨mem_cons_of_mem _ later.1, later.2⟩

end FileZilla
