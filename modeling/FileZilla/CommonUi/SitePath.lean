import FileZilla.Text

namespace FileZilla.SiteManager

open List

abbrev backslash : WChar := '\\'.toNat

abbrev slash : WChar := '/'.toNat

def isSpecial (char : WChar) : Bool :=
  char == backslash || char == slash

structure PathReader where
  name : WString := []
  lastBackslash : Bool := false
  result : List WString := []

namespace PathReader

/-- The result when the name ends here -/
def names (self : PathReader) : List WString :=
  if self.name.isEmpty then self.result else self.result ++ [self.name]

def readChar (self : PathReader) (char : WChar) : PathReader :=
  if char = backslash then
    if self.lastBackslash then
      { self with name := self.name ++ [char], lastBackslash := false }
    else { self with lastBackslash := true }
  else if char = slash then
    if self.lastBackslash then
      { self with name := self.name ++ [char], lastBackslash := false }
    else { self with name := [], result := self.names }
  else { self with name := self.name ++ [char] }

end PathReader

open PathReader

def unescapeSitePath (path : WString) : Option (List WString) :=
  let reader := (cString path).foldl readChar {}
  if reader.lastBackslash || reader.names.isEmpty then none else some reader.names

/-- `replace_substrings` for a text of one character -/
def replaceChar (find : WChar) (replacement text : WString) : WString :=
  text.flatMap fun char => if char = find then replacement else [char]

def escapeSegment (segment : WString) : WString :=
  replaceChar slash [backslash, slash] (replaceChar backslash [backslash, backslash] segment)

def buildPath (root : WChar) (segments : List WString) : WString :=
  root :: segments.flatMap fun segment => slash :: escapeSegment segment

/-- Read from the left, every backslash is followed by a backslash or a slash. -/
def wellEscaped : WString → Bool
  | [] => true
  | [char] => char ≠ backslash
  | char :: next :: rest =>
    if char = backslash then isSpecial next && wellEscaped rest else wellEscaped (next :: rest)

/-- What stands between the slashes without a backslash; `current` is the part before. -/
def rawSegments : WString → WString → List WString
  | [], current => [current]
  | [char], current => if char = slash then [current, []] else [current ++ [char]]
  | char :: next :: rest, current =>
    if char = backslash then rawSegments rest (current ++ [char, next])
    else if char = slash then current :: rawSegments (next :: rest) []
    else rawSegments (next :: rest) (current ++ [char])

/-- The path with one slash before each name -/
def tidyPath (path : WString) : WString :=
  ((rawSegments path []).filter (!·.isEmpty)).flatMap (slash :: ·)

theorem escapeSegment_cons (char : WChar) (rest : WString) :
    escapeSegment (char :: rest) =
      (if isSpecial char then [backslash, char] else [char]) ++ escapeSegment rest := by
  unfold escapeSegment replaceChar isSpecial
  by_cases isBackslash : char = backslash
  · subst isBackslash
    rfl
  · by_cases isSlash : char = slash
    · subst isSlash
      rfl
    · simp [isBackslash, isSlash]

theorem escapeSegment_append (first second : WString) :
    escapeSegment (first ++ second) = escapeSegment first ++ escapeSegment second := by
  simp [escapeSegment, replaceChar]

variable {char : WChar} {segments : List WString} {text : WString} (name : WString)

theorem readChar_plain (plain : isSpecial char = false) (reader : PathReader) :
    reader.readChar char = { reader with name := reader.name ++ [char] } := by
  simp only [isSpecial, Bool.or_eq_false_iff, beq_eq_false_iff_ne] at plain
  rw [readChar, if_neg plain.1, if_neg plain.2]

theorem readChar_escaped (special : isSpecial char = true) (name : WString)
    (result : List WString) :
    readChar ⟨name, true, result⟩ char = ⟨name ++ [char], false, result⟩ := by
  simp only [isSpecial, Bool.or_eq_true, beq_iff_eq] at special
  rcases special with rfl | rfl
  · rfl
  · rfl

theorem read_escapeSegment (segment name : WString) (result : List WString) :
    (escapeSegment segment).foldl readChar ⟨name, false, result⟩ =
      ⟨name ++ segment, false, result⟩ := by
  induction segment generalizing name with
  | nil => exact congrArg (PathReader.mk · false result) (append_nil name).symm
  | cons char segment induction =>
    rw [escapeSegment_cons, foldl_append]
    cases special : isSpecial char with
    | true =>
      change foldl readChar (readChar ⟨name, true, result⟩ char) _ = _
      rw [readChar_escaped special, induction, append_assoc]
      rfl
    | false =>
      change foldl readChar (readChar ⟨name, false, result⟩ char) _ = _
      rw [readChar_plain special, induction, append_assoc]
      rfl

theorem read_segments (filled : ∀ segment ∈ segments, segment ≠ [])
    (name : WString) (result : List WString) :
    ∃ reader : PathReader, reader.lastBackslash = false ∧
      (segments.flatMap fun segment => slash :: escapeSegment segment).foldl readChar
        ⟨name, false, result⟩ = reader ∧
      reader.names = PathReader.names ⟨name, false, result⟩ ++ segments := by
  induction segments generalizing name result with
  | nil => exact ⟨_, rfl, rfl, (append_nil _).symm⟩
  | cons segment segments induction =>
    obtain ⟨reader, complete, reads, names⟩ :=
      induction (fun other member => filled other (mem_cons_of_mem _ member)) segment
        (PathReader.names ⟨name, false, result⟩)
    refine ⟨reader, complete, ?_, names.trans ?_⟩
    · rw [flatMap_cons, foldl_append, foldl_cons, ← reads]
      exact congrArg (foldl readChar · _) (read_escapeSegment segment [] _)
    · rw [PathReader.names, if_neg (by simpa using filled segment mem_cons_self),
        append_assoc]
      rfl

theorem mem_escapeSegment {segment : WString}
    (member : char ∈ escapeSegment segment) : char = backslash ∨ char ∈ segment := by
  induction segment with
  | nil => exact absurd member not_mem_nil
  | cons first rest induction =>
    rw [escapeSegment_cons, mem_append] at member
    rcases member with here | later
    · split at here
      · simp only [mem_cons, not_mem_nil, or_false] at here ⊢
        exact here.imp_right .inl
      · exact .inr (mem_cons.mpr (.inl (mem_singleton.mp here)))
    · exact (induction later).imp_right (mem_cons_of_mem _)

theorem mem_buildPath {root : WChar} (member : char ∈ (buildPath root segments).tail) :
    isSpecial char = true ∨ ∃ segment ∈ segments, char ∈ segment := by
  obtain ⟨segment, inside, member⟩ := mem_flatMap.mp member
  rcases mem_cons.mp member with rfl | member
  · exact .inl rfl
  · rcases mem_escapeSegment member with rfl | member
    · exact .inl rfl
    · exact .inr ⟨segment, inside, member⟩

theorem unescapeSitePath_buildPath (root : WChar)
    (nonempty : segments ≠ []) (filled : ∀ segment ∈ segments, segment ≠ [] ∧ 0 ∉ segment) :
    unescapeSitePath (buildPath root segments).tail = some segments := by
  have clean : 0 ∉ (buildPath root segments).tail := by
    intro member
    rcases mem_buildPath member with special | ⟨segment, inside, member⟩
    · cases special
    · exact (filled segment inside).2 member
  obtain ⟨reader, complete, reads, names⟩ :=
    read_segments (fun segment member => (filled segment member).1) [] []
  unfold unescapeSitePath
  rw [cString_of_not_mem clean]
  dsimp only
  rw [show foldl readChar {} (buildPath root segments).tail = reader from reads, names,
    complete]
  simp [PathReader.names, nonempty]

theorem pending_read (text : WString) (reader : PathReader) :
    (text.foldl readChar reader).lastBackslash = (text.filter isSpecial).foldl
        (fun pending char => if char = backslash then !pending else false) reader.lastBackslash := by
  induction text generalizing reader with
  | nil => rfl
  | cons char text induction =>
    rw [foldl_cons, induction]
    cases special : isSpecial char with
    | false =>
      rw [readChar_plain special, filter_cons_of_neg (by simp [special])]
    | true =>
      rw [filter_cons_of_pos special, foldl_cons, readChar]
      congr 1
      simp only [isSpecial, Bool.or_eq_true, beq_iff_eq] at special
      cases pending : reader.lastBackslash <;> split <;> simp_all

theorem pending_wellEscaped (special : ∀ char ∈ text, isSpecial char = true) :
    text.foldl (fun pending char => if char = backslash then !pending else false) false =
      !wellEscaped text := by
  induction text using wellEscaped.induct with
  | case1 => rfl
  | case2 char => by_cases isBackslash : char = backslash <;> simp [wellEscaped, isBackslash]
  | case3 next rest induction =>
    have behind := special next (mem_cons_of_mem _ mem_cons_self)
    rw [wellEscaped, if_pos rfl, behind, Bool.true_and, ← induction fun char member =>
      special char (mem_cons_of_mem _ (mem_cons_of_mem _ member))]
    by_cases isBackslash : next = backslash <;> simp [isBackslash]
  | case4 char next rest other induction =>
    rw [wellEscaped, if_neg other, ← induction fun char member =>
      special char (mem_cons_of_mem _ member), foldl_cons, if_neg other]

theorem lastBackslash_read (text : WString) :
    (text.foldl readChar {}).lastBackslash = !wellEscaped (text.filter isSpecial) :=
  (pending_read text {}).trans (pending_wellEscaped fun _ member => (mem_filter.mp member).2)

def PathReader.Begun (reader : PathReader) : Prop :=
  reader.lastBackslash = true ∨ reader.names ≠ []

theorem begun_append (char : WChar) (pending : Bool) (result : List WString) :
    PathReader.Begun ⟨name ++ [char], pending, result⟩ :=
  .inr (by simp [PathReader.names])

theorem begun_readChar {reader : PathReader}
    (begins : reader.Begun ∨ char = backslash) : (reader.readChar char).Begun := by
  unfold PathReader.readChar
  split
  · split
    · exact begun_append ..
    · exact .inl rfl
  case isFalse other =>
    split
    · split
      · exact begun_append ..
      case isFalse complete => exact .inr ((begins.resolve_right other).resolve_left complete)
    · exact begun_append ..

theorem begun_read {text : WString} {reader : PathReader}
    (begins : reader.Begun ∨ backslash ∈ text) : (text.foldl PathReader.readChar reader).Begun := by
  induction text generalizing reader with
  | nil => exact begins.resolve_right not_mem_nil
  | cons first text induction =>
    refine induction ?_
    rcases begins with begun | member
    · exact .inl (begun_readChar (.inl begun))
    · exact (mem_cons.mp member).imp (fun first => begun_readChar (.inr first.symm)) id

theorem wellEscaped_of_not_mem (clean : backslash ∉ text) :
    wellEscaped text = true := by
  induction text using wellEscaped.induct with
  | case1 => rfl
  | case2 char => exact decide_eq_true fun same => clean (same ▸ mem_singleton_self char)
  | case3 next rest induction => exact absurd mem_cons_self clean
  | case4 char next rest other induction =>
    rw [wellEscaped, if_neg other]
    exact induction fun member => clean (mem_cons_of_mem _ member)

theorem escaped_names {name : WString} {result : List WString} :
    (PathReader.names ⟨name, false, result⟩).map escapeSegment =
      result.map escapeSegment ++ [escapeSegment name].filter (!·.isEmpty) := by
  cases name with
  | nil => simp [PathReader.names, escapeSegment, replaceChar]
  | cons char name =>
    have filled : escapeSegment (char :: name) ≠ [] := by
      rw [escapeSegment_cons]
      split <;> exact cons_ne_nil _ _
    simp [PathReader.names, filled]

theorem escapeSegment_special (special : isSpecial char = true) :
    escapeSegment (name ++ [char]) = escapeSegment name ++ [backslash, char] := by
  rw [escapeSegment_append, escapeSegment_cons, if_pos special]
  rfl

theorem escapeSegment_plain (plain : isSpecial char = false) :
    escapeSegment (name ++ [char]) = escapeSegment name ++ [char] := by
  rw [escapeSegment_append, escapeSegment_cons, if_neg (by simp [plain])]
  rfl

theorem isSpecial_of_ne (notBackslash : char ≠ backslash) (notSlash : char ≠ slash) :
    isSpecial char = false := by
  simp [isSpecial, notBackslash, notSlash]

theorem names_wellEscaped (well : wellEscaped text = true) (name : WString)
    (result : List WString) :
    (text.foldl readChar ⟨name, false, result⟩).names.map escapeSegment =
      result.map escapeSegment ++
        (rawSegments text (escapeSegment name)).filter (!·.isEmpty) := by
  induction text using wellEscaped.induct generalizing name result with
  | case1 => exact escaped_names
  | case2 char =>
    have notBackslash : char ≠ backslash := of_decide_eq_true well
    by_cases isSlash : char = slash
    · subst isSlash
      change (PathReader.names ⟨name, false, result⟩).map escapeSegment =
        _ ++ [escapeSegment name, []].filter _
      rw [escaped_names]
      cases escapeSegment name <;> rfl
    · have plain := isSpecial_of_ne notBackslash isSlash
      rw [foldl_cons, readChar_plain plain, rawSegments, if_neg isSlash,
        ← escapeSegment_plain name plain]
      exact escaped_names
  | case3 next rest induction =>
    rw [wellEscaped, if_pos rfl, Bool.and_eq_true] at well
    rw [rawSegments, if_pos rfl, ← escapeSegment_special name well.1,
      ← induction well.2 (name ++ [next]) result, ← readChar_escaped well.1]
    rfl
  | case4 char next rest notBackslash induction =>
    rw [wellEscaped, if_neg notBackslash] at well
    rw [rawSegments, if_neg notBackslash, foldl_cons]
    by_cases isSlash : char = slash
    · subst isSlash
      have parts : (escapeSegment name :: rawSegments (next :: rest) []).filter (!·.isEmpty) = _ :=
        filter_append [escapeSegment name] _
      rw [if_pos rfl, parts, ← append_assoc, ← escaped_names]
      exact induction well [] (PathReader.names ⟨name, false, result⟩)
    · have plain := isSpecial_of_ne notBackslash isSlash
      rw [if_neg isSlash, readChar_plain plain, ← escapeSegment_plain name plain]
      exact induction well (name ++ [char]) result

/-- An accepted path is built again from its names, and a stray backslash is not accepted. -/
def Unambiguous (root : WChar) (path : WString) : Prop :=
  (∀ names, unescapeSitePath path = some names →
    (buildPath root names).tail = tidyPath (cString path)) ∧
  (wellEscaped (cString path) = false → unescapeSitePath path = none)

/-- No other characters are between a backslash and the backslash or slash that it is read with. -/
def ReadAsMeant (path : WString) : Prop :=
  wellEscaped ((cString path).filter isSpecial) = true → wellEscaped (cString path) = true

theorem unambiguous_iff (root : WChar) (path : WString) :
    Unambiguous root path ↔ ReadAsMeant path := by
  have pending := lastBackslash_read (cString path)
  unfold Unambiguous ReadAsMeant unescapeSitePath
  dsimp only
  rw [pending]
  cases complete : wellEscaped ((cString path).filter isSpecial) with
  | false => simp
  | true =>
    cases well : wellEscaped (cString path) with
    | true =>
      have built := names_wellEscaped well [] []
      refine ⟨fun _ _ => rfl, fun _ => ⟨fun names found => ?_, by simp⟩⟩
      split at found
      · cases found
      · rw [buildPath, tail_cons, ← Option.some.inj found, tidyPath, ← flatMap_map,
          show map escapeSegment _ = _ from built]
        rfl
    | false =>
      have stray : backslash ∈ cString path := by
        by_contra clean
        rw [wellEscaped_of_not_mem clean] at well
        cases well
      have begun := @begun_read _ {} (.inr stray)
      rw [PathReader.Begun, pending, complete] at begun
      simp [begun.resolve_left (by simp)]

/-- Names are recovered from their path, and a path is read as it is meant unless a backslash is
followed by other characters and then by a backslash or slash. -/
theorem site_paths_are_escaped (root : WChar) :
    (∀ segments : List WString, segments ≠ [] →
      (∀ segment ∈ segments, segment ≠ [] ∧ 0 ∉ segment) →
      unescapeSitePath (buildPath root segments).tail = some segments) ∧
    ∀ path, Unambiguous root path ↔ ReadAsMeant path :=
  ⟨fun _ nonempty filled => unescapeSitePath_buildPath root nonempty filled, unambiguous_iff root⟩

theorem stray_backslash_accepted :
    unescapeSitePath (wide "\\b\\") = some [wide "b\\"] ∧
      (buildPath '0'.toNat [wide "b\\"]).tail ≠ tidyPath (wide "\\b\\") ∧
      wellEscaped (wide "\\b\\") = false ∧ ¬ ∀ path, Unambiguous '0'.toNat path := by
  have accepted : unescapeSitePath (wide "\\b\\") = some [wide "b\\"] := by decide
  refine ⟨accepted, by decide, by decide, fun unambiguous => ?_⟩
  rw [(unambiguous (wide "\\b\\")).2 (by decide)] at accepted
  cases accepted

end FileZilla.SiteManager
