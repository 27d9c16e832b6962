import FileZilla.Components

namespace FileZilla

open List

namespace LocalPath

def pathSeparator : WChar := '/'.toNat

inductive Last
  | separator
  | dot
  | dotdot
  | segment

structure Scan where
  out : WString
  segments : List Nat
  last : Last

namespace Scan

variable (scan : Scan)

/-- `out = segments.back()` -/
def rewind : Scan :=
  { scan with out := scan.out.take (scan.segments.headD 0) }

/-- A beginning is taken back unless it is the only one. -/
def popSegment : Scan :=
  if scan.segments.length > 1 then { scan with segments := scan.segments.tail } else scan

def separate : Scan :=
  match scan.last with
  | .separator => scan
  | .dot => { scan.rewind with last := .separator }
  | .dotdot => { scan.popSegment.rewind with last := .separator }
  | .segment =>
    { out := scan.out ++ [pathSeparator]
      segments := (scan.out.length + 1) :: scan.segments
      last := .separator }

def nextLast (last : Last) (char : WChar) : Last :=
  if char = '.'.toNat then
    match last with
    | .separator => .dot
    | .dot => .dotdot
    | .dotdot => .segment
    | .segment => .segment
  else .segment

def step (char : WChar) : Scan :=
  if char = pathSeparator then scan.separate
  else { scan with out := scan.out ++ [char], last := nextLast scan.last char }

/-- What follows the loop; the file is only set if there is one. -/
def finish (isFile : Bool) : WString × Option WString :=
  match scan.last with
  | .separator => (scan.out, none)
  | .dot => (scan.rewind.out, none)
  | .dotdot => (scan.popSegment.rewind.out, none)
  | .segment =>
    if isFile then (scan.rewind.out, some (scan.out.drop (scan.segments.headD 0)))
    else (scan.out ++ [pathSeparator], none)

end Scan

open Scan

/-- `SetPath`: the stored path and the file if the path is valid -/
def setPath (path : WString) (isFile : Bool := false) : Option (WString × Option WString) :=
  if path = [] then none
  else
    match cString path with
    | [] => none
    | first :: rest =>
      if first ≠ pathSeparator then none
      else
        some <|
          (rest.foldl step { out := [pathSeparator], segments := [1], last := .separator }).finish
            isFile

def isSeparator (char : WChar) : Bool :=
  char == pathSeparator

def components (text : WString) : List WString :=
  piecesBetween isSeparator text

def canonical (directories : List WString) : WString :=
  pathSeparator :: directories.flatMap (· ++ [pathSeparator])

theorem canonical_concat (directories : List WString) (name : WString) :
    canonical (directories ++ [name]) = canonical directories ++ name ++ [pathSeparator] := by
  simp [canonical]

def beginnings : List WString → List Nat
  | [] => [(canonical []).length]
  | name :: upper => (canonical (name :: upper).reverse).length :: beginnings upper

variable (upper : List WString)

theorem headD_beginnings :
    (beginnings upper).headD 0 = (canonical upper.reverse).length := by
  cases upper <;> rfl

def classify (current : WString) : Last :=
  if current = [] then .separator
  else if current = wide "." then .dot
  else if current = wide ".." then .dotdot
  else .segment

/-- The state between two characters: the directories, innermost first, and the text since the
last separator. -/
def scanned (upper : List WString) (current : WString) : Scan where
  out := canonical upper.reverse ++ current
  segments := beginnings upper
  last := classify current

variable {current : WString}

theorem classify_other {char : WChar} (other : char ≠ '.'.toNat) :
    classify (current ++ [char]) = .segment := by
  have ends : ∀ text : WString, text.getLast? = .some '.'.toNat → current ++ [char] ≠ text := by
    rintro text last rfl
    rw [getLast?_concat] at last
    exact other (Option.some.inj last)
  rw [classify, if_neg (by simp), if_neg (ends _ rfl), if_neg (ends _ rfl)]

theorem nextLast_classify (current : WString) (char : WChar) :
    nextLast (classify current) char = classify (current ++ [char]) := by
  unfold nextLast
  split
  case isTrue dot =>
    subst dot
    by_cases missing : current = []
    · subst missing
      rfl
    · by_cases single : current = wide "."
      · subst single
        rfl
      · by_cases double : current = wide ".."
        · subst double
          rfl
        · have more : classify (current ++ ['.'.toNat]) = .segment := by
            have shorter : ∀ text : WString, ¬ current = text →
                ¬ current ++ ['.'.toNat] = text ++ ['.'.toNat] :=
              fun _ different same => different (append_cancel_right same)
            have notSingle : ¬ current ++ ['.'.toNat] = wide "." := shorter [] missing
            have notDouble : ¬ current ++ ['.'.toNat] = wide ".." := shorter (wide ".") single
            rw [classify, if_neg (by simp), if_neg notSingle, if_neg notDouble]
          rw [more, classify, if_neg missing, if_neg single, if_neg double]
  case isFalse other => exact (classify_other other).symm

theorem step_other {upper : List WString} {char : WChar} (other : char ≠ pathSeparator) :
    (scanned upper current).step char = scanned upper (current ++ [char]) := by
  rw [step, if_neg other, scanned, nextLast_classify, append_assoc]
  rfl

theorem rewind_scanned (current : WString) :
    (scanned upper current).rewind.out = canonical upper.reverse := by
  change (canonical upper.reverse ++ current).take ((beginnings upper).headD 0) = _
  rw [headD_beginnings, take_left]

theorem popSegment_scanned (current : WString) :
    (scanned upper current).popSegment.rewind.out = canonical upper.tail.reverse ∧
      (scanned upper current).popSegment.segments = beginnings upper.tail := by
  cases upper with
  | nil => exact ⟨rewind_scanned [] current, rfl⟩
  | cons name upper =>
    have more : (scanned (name :: upper) current).segments.length > 1 := by
      cases upper <;> simp [scanned, beginnings]
    rw [popSegment, if_pos more]
    refine ⟨?_, rfl⟩
    change (canonical (name :: upper).reverse ++ current).take ((beginnings upper).headD 0) = _
    rw [headD_beginnings, reverse_cons, canonical_concat, append_assoc,
      append_assoc, take_left]
    rfl

/-- What a component does to the directories, innermost first. -/
def enter (upper : List WString) (current : WString) : List WString :=
  match classify current with
  | .separator => upper
  | .dot => upper
  | .dotdot => upper.tail
  | .segment => current :: upper

theorem eq_nil_of_classify (kind : classify current = .separator) :
    current = [] := by
  by_contra filled
  rw [classify, if_neg filled] at kind
  split at kind
  case isTrue => contradiction
  case isFalse => split at kind <;> contradiction

theorem scanned_nil :
    scanned upper [] =
      { out := canonical upper.reverse, segments := beginnings upper, last := .separator } := by
  rw [scanned, append_nil]
  rfl

theorem separate_scanned (current : WString) :
    (scanned upper current).separate = scanned (enter upper current) [] := by
  have last : (scanned upper current).last = classify current := rfl
  rw [scanned_nil]
  unfold separate enter
  rw [last]
  cases kind : classify current with
  | separator =>
    rw [eq_nil_of_classify kind]
    exact scanned_nil upper
  | dot =>
    dsimp only
    rw [rewind_scanned]
    rfl
  | dotdot =>
    obtain ⟨out, segments⟩ := popSegment_scanned upper current
    dsimp only
    rw [out, ← segments]
    rfl
  | segment =>
    dsimp only
    rw [beginnings, reverse_cons, canonical_concat]
    congr 2
    simp [scanned, Nat.add_assoc]

theorem enter_reverse {upper : List WString} (clean : ∀ char ∈ current, isSeparator char = false) :
    (enter upper current).reverse = resolve upper.reverse (components current) := by
  by_cases missing : current = []
  · subst missing
    rfl
  · rw [components, piecesBetween_of_clean missing clean]
    simp only [enter, classify, missing, if_false, resolve]
    by_cases single : current = wide "."
    · subst single
      rfl
    · rw [if_neg single, if_neg single]
      by_cases double : current = wide ".."
      · rw [if_pos double, if_pos double]
        cases upper with
        | nil => rfl
        | cons name upper => simp
      · rw [if_neg double, if_neg double, reverse_cons]

theorem finish_scanned (current : WString) :
    (scanned upper current).finish false = (canonical (enter upper current).reverse, none) := by
  have last : (scanned upper current).last = classify current := rfl
  unfold finish enter
  rw [last]
  cases kind : classify current with
  | separator =>
    rw [eq_nil_of_classify kind, scanned_nil]
  | dot => exact congrArg (·, none) (rewind_scanned upper current)
  | dotdot => exact congrArg (·, none) (popSegment_scanned upper current).1
  | segment =>
    dsimp only
    rw [reverse_cons, canonical_concat]
    rfl

theorem components_separator (left right : WString) :
    components (left ++ pathSeparator :: right) = components left ++ components right :=
  @piecesBetween_append _ isSeparator pathSeparator rfl left right

variable {text : WString}

theorem foldl_clean (clean : ∀ char ∈ text, isSeparator char = false) (upper : List WString)
    (current : WString) :
    text.foldl step (scanned upper current) = scanned upper (current ++ text) := by
  induction text generalizing current with
  | nil => rw [append_nil]; rfl
  | cons char text induction =>
    have other : char ≠ pathSeparator := beq_eq_false_iff_ne.mp (clean char mem_cons_self)
    rw [foldl_cons, step_other other,
      induction (fun char member => clean char (mem_cons_of_mem _ member)),
      append_assoc]
    rfl

theorem foldl_scanned (current text : WString)
    (clean : ∀ char ∈ current, isSeparator char = false) :
    ∃ next last, text.foldl step (scanned upper current) = scanned next last ∧
      (∀ char ∈ last, isSeparator char = false) ∧
      (enter next last).reverse = resolve upper.reverse (components (current ++ text)) := by
  induction text generalizing upper current with
  | nil =>
    refine ⟨upper, current, rfl, clean, ?_⟩
    rw [append_nil]
    exact enter_reverse clean
  | cons char text induction =>
    rw [foldl_cons]
    by_cases separates : char = pathSeparator
    · subst separates
      have stepped : (scanned upper current).step pathSeparator =
          scanned (enter upper current) [] := by
        rw [step, if_pos rfl, separate_scanned]
      obtain ⟨next, last, run, lastClean, resolved⟩ := induction (enter upper current) []
        fun _ member => absurd member not_mem_nil
      refine ⟨next, last, ?_, lastClean, ?_⟩
      · rw [stepped, run]
      · rw [resolved, enter_reverse clean, components_separator, resolve_append, nil_append]
    · have cleanNext : ∀ other ∈ current ++ [char], isSeparator other = false := by
        intro other member
        rcases mem_append.mp member with earlier | last
        · exact clean other earlier
        · rw [mem_singleton.mp last]
          exact beq_eq_false_iff_ne.mpr separates
      have moved : current ++ char :: text = current ++ [char] ++ text := by simp
      rw [step_other separates, moved]
      exact induction upper (current ++ [char]) cleanNext

def directories (text : WString) : List WString :=
  resolve [] (components text)

theorem directories_separator (text : WString) :
    directories (pathSeparator :: text) = directories text := by
  rw [directories, ← nil_append (pathSeparator :: text), components_separator]
  rfl

theorem setPath_rooted {rest : WString} (clean : 0 ∉ rest) (isFile : Bool) :
    setPath (pathSeparator :: rest) isFile =
      some ((rest.foldl step (scanned [] [])).finish isFile) := by
  have zeroFree : 0 ∉ pathSeparator :: rest := by
    intro member
    rcases mem_cons.mp member with zero | inside
    · cases zero
    · exact clean inside
  rw [setPath, if_neg (by simp), cString_of_not_mem zeroFree]
  rfl

theorem setPath_eq (clean : 0 ∉ text) :
    setPath text =
      if text.head? = some pathSeparator then some (canonical (directories text), none)
      else none := by
  cases text with
  | nil => rfl
  | cons first rest =>
    by_cases rooted : first = pathSeparator
    · subst rooted
      obtain ⟨next, last, run, -, resolved⟩ := foldl_scanned [] [] rest
        fun _ member => absurd member not_mem_nil
      rw [setPath_rooted fun member => clean (mem_cons_of_mem _ member), run,
        finish_scanned, resolved, directories_separator]
      rfl
    · have unrooted : ¬ (first :: rest).head? = some pathSeparator := fun same =>
        rooted (Option.some.inj same)
      rw [setPath, if_neg (by simp), cString_of_not_mem clean, if_neg unrooted]
      exact if_pos rooted

structure GoodName (name : WString) : Prop where
  filled : name ≠ []
  clean : ∀ char ∈ name, isSeparator char = false
  noDots : name ≠ wide "." ∧ name ≠ wide ".."

variable {name : WString}

theorem goodName_of_mem (member : name ∈ directories text) :
    GoodName name := by
  rcases mem_resolve member with root | ⟨component, noDots⟩
  · exact absurd root not_mem_nil
  · exact ⟨ne_nil_of_mem_pieces component, clean_of_mem_pieces component, noDots⟩

theorem directories_canonical {names : List WString} (good : ∀ name ∈ names, GoodName name) :
    directories (canonical names) = names := by
  have separates : isSeparator pathSeparator = true := rfl
  have pieces := piecesBetween_terminated separates (fun name member => (good name member).filled)
    (fun name member => (good name member).clean) []
  rw [piecesBetween_nil, append_nil, append_nil] at pieces
  rw [canonical, directories_separator, directories, components, pieces,
    resolve_plain fun name member => (good name member).noDots]
  rfl

theorem finish_file (good : GoodName name) (upper : List WString) :
    (scanned upper name).finish true = (canonical upper.reverse, some name) := by
  have segment : (scanned upper name).last = .segment := by
    change classify name = .segment
    rw [classify, if_neg good.filled, if_neg good.noDots.1, if_neg good.noDots.2]
  rw [finish, segment]
  dsimp only
  rw [if_pos rfl, rewind_scanned]
  congr 2
  change (canonical upper.reverse ++ name).drop ((beginnings upper).headD 0) = name
  rw [headD_beginnings, drop_left]

theorem foldl_separator (good : GoodName name) (upper : List WString) (current : WString) :
    ((pathSeparator :: name).foldl step (scanned upper current)) =
      scanned (enter upper current) name := by
  rw [foldl_cons, step, if_pos rfl, separate_scanned, foldl_clean good.clean]
  rfl

theorem setPath_file {dir : WString} (clean : 0 ∉ dir ++ pathSeparator :: name)
    (rooted : (dir ++ pathSeparator :: name).head? = some pathSeparator) (good : GoodName name) :
    setPath (dir ++ pathSeparator :: name) true =
      some (canonical (directories dir), some name) := by
  cases dir with
  | nil =>
    have zeroFree : 0 ∉ name := fun member => clean (mem_cons_of_mem _ member)
    rw [nil_append, setPath_rooted zeroFree, foldl_clean good.clean, nil_append,
      finish_file good]
    rfl
  | cons first dir =>
    have root : first = pathSeparator := Option.some.inj rooted
    subst root
    have zeroFree : 0 ∉ dir ++ pathSeparator :: name := fun member =>
      clean (mem_cons_of_mem _ member)
    obtain ⟨next, last, run, -, resolved⟩ := foldl_scanned [] [] dir
      fun _ member => absurd member not_mem_nil
    rw [cons_append, setPath_rooted zeroFree, foldl_append, run,
      foldl_separator good, finish_file good, resolved, directories_separator]
    rfl

theorem directories_file (good : GoodName name) (dir : WString) :
    directories (dir ++ pathSeparator :: name) = directories dir ++ [name] := by
  have single : components name = [name] := piecesBetween_of_clean good.filled good.clean
  have plain : ∀ component ∈ [name], component ≠ wide "." ∧ component ≠ wide ".." := by
    intro component member
    rw [mem_singleton.mp member]
    exact good.noDots
  rw [directories, components_separator, single, resolve_append, resolve_plain plain]
  rfl

theorem zeroFree_canonical (clean : 0 ∉ text) :
    0 ∉ canonical (directories text) := by
  intro member
  rcases mem_cons.mp member with zero | inside
  · cases zero
  · obtain ⟨name, isDirectory, within⟩ := mem_flatMap.mp inside
    rcases mem_append.mp within with inName | separator
    · rcases mem_resolve isDirectory with root | ⟨component, -⟩
      · exact absurd root not_mem_nil
      · exact clean (mem_of_mem_pieces component inName)
    · cases mem_singleton.mp separator

/-- What `SetPath` is to make of a text -/
structure Canonicalized (text : WString) : Prop where
  path : setPath text =
    if text.head? = some pathSeparator then some (canonical (directories text), none) else none
  fixed : ∀ path, setPath text = some (path, none) → setPath path = some (path, none)
  file : ∀ dir name, text = dir ++ pathSeparator :: name → GoodName name →
    text.head? = some pathSeparator →
      setPath text true = some (canonical (directories text).dropLast, some name)

theorem setPath_canonicalized {text : WString} (clean : 0 ∉ text) : Canonicalized text := by
  have path := setPath_eq clean
  refine ⟨path, fun stored set => ?_, ?_⟩
  · rw [path] at set
    split at set
    case isTrue =>
      cases set
      have again := setPath_eq (zeroFree_canonical clean)
      rw [directories_canonical fun name => goodName_of_mem] at again
      exact again
    case isFalse => contradiction
  · rintro dir name rfl good rooted
    rw [setPath_file clean rooted good, directories_file good, dropLast_concat]

theorem setPath_canonicalized_home : Canonicalized (wide "/home//a/../b") :=
  setPath_canonicalized (by decide)

end LocalPath

end FileZilla
