import Mathlib.Data.List.Basic

namespace FileZilla.Quoting

open List

universe u

variable {Letter : Type u} [DecidableEq Letter] (mark : Letter)

def doubled (text : List Letter) : List Letter :=
  text.flatMap fun char => if char = mark then [mark, mark] else [char]

def quoted (text : List Letter) : List Letter :=
  mark :: doubled mark text ++ [mark]

def readQuoted : Option (List Letter) → List Letter → List (List Letter)
  | _, [] => []
  | none, char :: rest =>
    if char = mark then readQuoted (some []) rest else readQuoted none rest
  | some text, [char] => if char = mark then [text] else []
  | some text, char :: next :: rest =>
    if char ≠ mark then
      readQuoted (some (text ++ [char])) (next :: rest)
    else if next = mark then
      readQuoted (some (text ++ [mark])) rest
    else
      text :: readQuoted none (next :: rest)

def quotedTexts (line : List Letter) : List (List Letter) :=
  readQuoted mark none line

variable {mark}

@[simp] theorem doubled_nil : doubled mark [] = [] := rfl

theorem doubled_cons_mark (text : List Letter) :
    doubled mark (mark :: text) = mark :: mark :: doubled mark text := by
  simp [doubled]

variable {char : Letter}

theorem doubled_cons (different : char ≠ mark) (text : List Letter) :
    doubled mark (char :: text) = char :: doubled mark text := by
  simp [doubled, different]

theorem doubled_append (first second : List Letter) :
    doubled mark (first ++ second) = doubled mark first ++ doubled mark second := by
  simp [doubled]

variable {text : List Letter}

theorem doubled_of_not_mem (unmarked : mark ∉ text) :
    doubled mark text = text := by
  induction text with
  | nil => rfl
  | cons char text same =>
    rw [mem_cons, not_or] at unmarked
    rw [doubled_cons (Ne.symm unmarked.1), same unmarked.2]

theorem mem_doubled :
    char ∈ doubled mark text ↔ char ∈ text := by
  induction text with
  | nil => rfl
  | cons first text same =>
    by_cases marked : first = mark
    · subst marked
      simp [doubled_cons_mark, same]
    · simp [doubled_cons marked, same]

theorem mem_quoted :
    char ∈ quoted mark text ↔ char = mark ∨ char ∈ text := by
  rw [quoted, mem_append, mem_cons, mem_doubled, mem_singleton]
  exact or_right_comm.trans (or_congr_left (or_self_iff))

theorem readQuoted_outside {front : List Letter} (unmarked : mark ∉ front) (rest : List Letter) :
    readQuoted mark none (front ++ rest) = readQuoted mark none rest := by
  induction front with
  | nil => rfl
  | cons char front passed =>
    rw [mem_cons, not_or] at unmarked
    rw [cons_append, readQuoted, if_neg (Ne.symm unmarked.1), passed unmarked.2]

theorem readQuoted_doubled (before text : List Letter) {rest : List Letter}
    (closed : rest.head? ≠ some mark) :
    readQuoted mark (some before) (doubled mark text ++ mark :: rest) =
      (before ++ text) :: readQuoted mark none rest := by
  induction text generalizing before with
  | nil =>
    rw [doubled_nil, nil_append, append_nil]
    cases rest with
    | nil => simp [readQuoted]
    | cons next rest =>
      have different : next ≠ mark := fun same => closed (congrArg some same)
      conv_lhs => rw [readQuoted, if_neg (not_not_intro rfl), if_neg different]
  | cons char text read =>
    by_cases marked : char = mark
    · subst marked
      rw [doubled_cons_mark, cons_append, cons_append, readQuoted,
        if_neg (not_not_intro rfl), if_pos rfl, read, append_assoc]
      rfl
    · rw [doubled_cons marked, cons_append]
      obtain ⟨next, tail, shape⟩ : ∃ next tail,
          doubled mark text ++ mark :: rest = next :: tail := by
        cases doubled mark text with
        | nil => exact ⟨mark, rest, rfl⟩
        | cons next tail => exact ⟨next, tail ++ mark :: rest, rfl⟩
      rw [shape, readQuoted, if_pos marked, ← shape, read, append_assoc]
      rfl

theorem quotedTexts_quoted (text : List Letter) {rest : List Letter}
    (closed : rest.head? ≠ some mark) :
    quotedTexts mark (quoted mark text ++ rest) = text :: quotedTexts mark rest := by
  have opened : quoted mark text ++ rest = mark :: (doubled mark text ++ mark :: rest) := by
    simp [quoted]
  rw [opened, quotedTexts, readQuoted, if_pos rfl, readQuoted_doubled [] text closed,
    nil_append, quotedTexts]

theorem quotedTexts_outside {front : List Letter} (unmarked : mark ∉ front) (rest : List Letter) :
    quotedTexts mark (front ++ rest) = quotedTexts mark rest :=
  readQuoted_outside unmarked rest

theorem quotedTexts_of_not_mem {line : List Letter} (unmarked : mark ∉ line) :
    quotedTexts mark line = [] := by
  have passed := quotedTexts_outside unmarked []
  rwa [append_nil] at passed

theorem quotedTexts_single (text : List Letter) :
    quotedTexts mark (quoted mark text) = [text] := by
  have alone := quotedTexts_quoted text (head?_nil.trans_ne (Option.some_ne_none mark).symm)
  rwa [append_nil] at alone

end FileZilla.Quoting
