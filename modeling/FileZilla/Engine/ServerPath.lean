import FileZilla.Engine.Server

namespace FileZilla

structure ServerTypeTraits where
  separators : WString
  hasRoot : Bool
  leftEnclosure : Option WChar := none
  rightEnclosure : Option WChar := none
  filenameInsideEnclosure : Bool := false
  prefixmode : Nat := 0
  separatorEscape : Option WChar := none
  hasDots : Bool
  separatorAfterPrefix : Bool := false

def traits : ServerType → ServerTypeTraits
  | .unix | .vxworks | .zvm =>
    { separators := wide "/", hasRoot := true, hasDots := true }
  | .vms =>
    { separators := wide ".", hasRoot := false
      leftEnclosure := some '['.toNat, rightEnclosure := some ']'.toNat
      separatorEscape := some '^'.toNat, hasDots := false }
  | .dos =>
    { separators := wide "\\/", hasRoot := false, hasDots := true }
  | .mvs =>
    { separators := wide ".", hasRoot := false
      leftEnclosure := some '\''.toNat, rightEnclosure := some '\''.toNat
      filenameInsideEnclosure := true, prefixmode := 1, hasDots := false }
  | .hpnonstop =>
    { separators := wide ".", hasRoot := false, hasDots := false }
  | .dosVirtual =>
    { separators := wide "\\", hasRoot := true, hasDots := true }
  | .cygwin =>
    { separators := wide "/", hasRoot := true, hasDots := true
      separatorAfterPrefix := true }
  | .dosFwdSlashes =>
    { separators := wide "/\\", hasRoot := false, hasDots := true }

structure CServerPathData where
  segments : List WString
  pathPrefix : Option WString
  deriving DecidableEq

structure CServerPath where
  data : Option CServerPathData
  type : ServerType
  deriving DecidableEq

namespace CServerPath

def none : CServerPath :=
  { data := .none, type := .unix }

variable (path : CServerPath)

def empty : Bool :=
  path.data.isNone

def clear : CServerPath :=
  { path with data := .none }

def segments : List WString :=
  match path.data with
  | .none => []
  | .some data => data.segments

def equal (left right : CServerPath) : Bool :=
  left.empty == right.empty && left.type == right.type && left.data == right.data

/-- `operator<` on the segments, which `wcscmp` reads up to their first NUL. -/
def segmentsLess : List WString → List WString → Bool
  | [], right => !right.isEmpty
  | _ :: _, [] => false
  | segment :: left, other :: right =>
    decideBy (wcscmp segment other) (segmentsLess left right)

def less (left right : CServerPath) : Bool :=
  match left.data, right.data with
  | .none, other => other.isSome
  | .some _, .none => false
  | .some ld, .some rd =>
    decideBy (compare ld.pathPrefix rd.pathPrefix) <|
    decideBy (compare left.type.value right.type.value) <|
    segmentsLess ld.segments rd.segments

def hasParent : Bool :=
  match path.data with
  | .none => false
  | .some data =>
    if !(traits path.type).hasRoot then
      decide (data.segments.length > 1)
    else
      !data.segments.isEmpty

def makeParent : CServerPath :=
  match path.data with
  | .none => path.clear
  | .some data =>
    if !path.hasParent then
      path.clear
    else
      { path with
        data := some
          { segments := data.segments.dropLast
            pathPrefix :=
              if path.type = .mvs then some (wide ".") else data.pathPrefix } }

def getLastSegment : WString :=
  if path.empty || !path.hasParent then [] else path.segments.getLastD []

def samePrefix (same : WString → WString → Bool) :
    Option WString → Option WString → Bool
  | .none, .none => true
  | .some left, .some right => same left right
  | _, _ => false

/-- The loop of `IsSubdirOf`. -/
def segmentsBelow (same : WString → WString → Bool) (allowEqual : Bool) :
    List WString → List WString → Bool
  | [], right => allowEqual && right.isEmpty
  | _ :: _, [] => true
  | segment :: left, other :: right =>
    if same segment other then segmentsBelow same allowEqual left right else false

/-- `IsSubdirOf`; `same` compares without regard to case or exactly. -/
def isSubdirOfBy (same : WString → WString → Bool) (self path : CServerPath)
    (allowEqual : Bool) : Bool :=
  match self.data, path.data with
  | some ld, some rd =>
    if self.type ≠ path.type then false
    else if !self.hasParent then false
    else if (traits self.type).prefixmode ≠ 1 &&
        !samePrefix same ld.pathPrefix rd.pathPrefix then false
    else if (traits self.type).prefixmode = 1 && rd.pathPrefix.isNone then false
    else segmentsBelow same allowEqual ld.segments rd.segments
  | _, _ => false

def isSubdirOf (self path : CServerPath) (allowEqual : Bool := false) : Bool :=
  isSubdirOfBy (fun left right => left == right) self path allowEqual

def isParentOf (self path : CServerPath) (allowEqual : Bool := false) : Bool :=
  path.isSubdirOf self allowEqual

/-- `AddSegment`; it fails on an empty path. -/
def addSegment (segment : WString) : Option CServerPath :=
  path.data.map fun data =>
    { path with data := some { data with segments := data.segments ++ [segment] } }

def escapeSeparators (type : ServerType) (subdir : WString) : WString :=
  match (traits type).separatorEscape with
  | .none => subdir
  | .some escape =>
    (traits type).separators.foldl (fun text separator =>
      text.flatMap fun char =>
        if char = separator then escape :: (traits type).separators.take 1
        else [char]) subdir

/-- The segments as `GetPath` writes them, with a separator between each two. -/
def joinSegments (type : ServerType) : List WString → WString
  | [] => []
  | [segment] => escapeSeparators type segment
  | segment :: rest =>
    escapeSeparators type segment ++ (traits type).separators.take 1 ++ joinSegments type rest

def getPath : WString :=
  match path.data with
  | .none => []
  | .some data =>
    let self := traits path.type
    let separator := self.separators.take 1
    let volume := data.pathPrefix.getD []
    (if self.prefixmode = 0 then volume else []) ++
    self.leftEnclosure.toList ++
    (if data.segments.isEmpty &&
        (!self.hasRoot || data.pathPrefix.isNone || self.separatorAfterPrefix)
      then separator else []) ++
    (if !data.segments.isEmpty && self.hasRoot &&
        (data.pathPrefix.isNone || self.separatorAfterPrefix)
      then separator else []) ++
    joinSegments path.type data.segments ++
    (if self.prefixmode ≠ 0 then volume else []) ++
    self.rightEnclosure.toList ++
    (if (path.type = .dos ∨ path.type = .dosFwdSlashes) ∧
        data.segments.length = 1
      then separator else [])

def isSeparator (type : ServerType) (char : WChar) : Bool :=
  (traits type).separators.contains char

def filenameSeparator (directory : WString) : WString :=
  let missing := !directory.isEmpty && !isSeparator path.type (directory.getLastD 0)
  match path.type with
  | .vxworks =>
    if missing && !path.segments.isEmpty then (traits path.type).separators.take 1 else []
  | .vms | .mvs => []
  | _ => if missing then (traits path.type).separators.take 1 else []

def formatFilename (filename : WString) (omitPath : Bool := false) :
    WString :=
  match path.data with
  | .none => filename
  | .some data =>
    let self := traits path.type
    if filename = [] then filename
    else if omitPath ∧ (self.prefixmode = 0 ∨ data.pathPrefix = some (wide ".")) then filename
    else
      let inside := self.leftEnclosure.isSome && self.filenameInsideEnclosure
      let directory := if inside then path.getPath.dropLast else path.getPath
      directory ++ path.filenameSeparator directory ++
      (if self.prefixmode = 1 ∧ data.pathPrefix = .none then wide "(" ++ filename ++ wide ")"
        else filename) ++
      (if inside then self.rightEnclosure.toList else [])

def formatSubdir (subdir : WString) : WString :=
  escapeSeparators path.type subdir

variable {left right : CServerPath}

@[simp] theorem equal_iff :
    equal left right = true ↔ left = right := by
  cases left
  cases right
  simp only [equal, empty, Bool.and_eq_true, beq_iff_eq, mk.injEq]
  constructor
  · rintro ⟨⟨_, type⟩, data⟩
    exact ⟨data, type⟩
  · rintro ⟨rfl, rfl⟩
    exact ⟨⟨rfl, rfl⟩, rfl⟩

@[simp] theorem equal_eq_false :
    equal left right = false ↔ left ≠ right := by
  rw [← Bool.not_eq_true, equal_iff]

theorem equal_comm (left right : CServerPath) : equal left right = equal right left := by
  rw [Bool.eq_iff_iff, equal_iff, equal_iff]
  exact eq_comm

def orderKey : Option (Option WString × Nat × List WString) :=
  path.data.map fun data =>
    (data.pathPrefix, path.type.value, data.segments.map cString)

attribute [local instance] lexOrd

def order : CServerPath → CServerPath → Ordering :=
  compareOn orderKey

instance : Std.TransCmp order :=
  inferInstanceAs (Std.TransCmp (compareOn orderKey))

theorem order_eq_iff :
    order left right = .eq ↔ orderKey left = orderKey right := by
  unfold order compareOn
  exact Std.LawfulEqCmp.compare_eq_iff_eq

theorem segmentsLess_eq (left right : List WString) :
    segmentsLess left right = (compare (left.map cString) (right.map cString) == .lt) := by
  induction left generalizing right with
  | nil => cases right <;> rfl
  | cons segment left ih =>
    cases right with
    | nil => rfl
    | cons other right =>
      simp only [segmentsLess, ih, decideBy_then, List.map_cons, wcscmp, List.compare_cons_cons]

theorem less_eq (left right : CServerPath) :
    less left right = (order left right == .lt) := by
  unfold less order compareOn orderKey
  cases left.data with
  | none => cases right.data <;> rfl
  | some ld =>
    cases right.data with
    | none => rfl
    | some rd =>
      simp only [segmentsLess_eq, decideBy_then]
      rfl

theorem compareOfLess_less : compareOfLess less = order :=
  compareOfLess_eq less_eq

theorem less_strictWeakOrder : StrictWeakOrder less :=
  strictWeakOrder_of_induced less_eq

end CServerPath

end FileZilla
