import FileZilla.Engine.DirectoryListingParser.Token
import FileZilla.Engine.ServerPathOrder
import FileZilla.Engine.ServerPathParents

namespace FileZilla

open List

namespace CServerPath

/-! The text in which a path is stored, with the length of each part in front of it. -/

def fastSprintNumber (number : Nat) : WString :=
  (Nat.toDigits 10 number).map Char.toNat

/-- The copy of a text, which ends at its first NUL, in a buffer of zeros -/
def tstrcpy (text : WString) : WString :=
  cString text ++ replicate (text.length - (cString text).length) 0

def storedSegments (segments : List WString) : WString :=
  segments.flatMap fun segment =>
    32 :: fastSprintNumber segment.length ++ 32 :: tstrcpy segment

def getSafePath (path : CServerPath) : WString :=
  match path.data with
  | .none => []
  | .some data =>
    fastSprintNumber (path.type.value + 1) ++ 32 ::
      (fastSprintNumber (data.pathPrefix.getD []).length ++
        (data.pathPrefix.elim [] (fun volume => 32 :: tstrcpy volume) ++
          storedSegments data.segments))

/-- The loop over the digits of a number; the text ends with a NUL. -/
def readNumber (limit : Nat) (stops : WChar → Bool) (number : Nat) :
    WString → Option (Nat × WString)
  | [] => .none
  | char :: rest =>
    let next := 10 * number + (char - 48)
    if !isDigit char || limit < next then .none
    else if stops (rest.headD 0) then some (next, rest)
    else readNumber limit stops next rest

variable {limit number value : Nat} {stops : WChar → Bool} {text rest : WString}

theorem readNumber_read (read : readNumber limit stops number text = some (value, rest)) :
    value ≤ limit ∧ rest <:+ text ∧ rest.length < text.length := by
  induction text generalizing number with
  | nil => cases read
  | cons char text ih =>
    rw [readNumber] at read
    obtain ⟨accepted, read⟩ := of_refusal read
    split at read
    case isTrue =>
      cases read
      simp only [Bool.or_eq_true, decide_eq_true_eq, not_or] at accepted
      exact ⟨by omega, suffix_cons .., Nat.lt_succ_self _⟩
    case isFalse =>
      obtain ⟨bound, suffix, shorter⟩ := ih read
      exact ⟨bound, suffix.trans (suffix_cons ..), Nat.lt_succ_of_lt shorter⟩

def readSegments (text : WString) : Option (List WString) :=
  if text = [] then some []
  else
    match read : readNumber 32767 (· = 32) 0 text with
    | .none => .none
    | some (segmentLen, rest) =>
      if segmentLen = 0 ∨ (rest.drop 1).length < segmentLen then .none
      else
        (readSegments ((rest.drop 1).drop (segmentLen + 1))).map
          ((rest.drop 1).take segmentLen :: ·)
termination_by text.length
decreasing_by
  have shorter := (readNumber_read read).2.2
  simp only [length_drop]
  omega

/-- `SetSafePath`, which leaves the path empty where it fails -/
def setSafePath (text : WString) : Option CServerPath := do
  let (type, rest) ← readNumber 10 (· = 32) 0 text
  let type := ServerType.ofNat (type - 1)
  let (prefixLen, rest) ←
    readNumber 32767 (fun char => char = 0 || char = 32) 0 (rest.drop 1)
  if rest.headD 0 = 0 then
    if prefixLen ≠ 0 then .none
    else some { data := some { segments := [], pathPrefix := .none }, type }
  else if (rest.drop 1).length < prefixLen then .none
  else
    let pathPrefix := if prefixLen = 0 then .none else some ((rest.drop 1).take prefixLen)
    let skipped := if prefixLen = 0 then 0 else prefixLen + 1
    (readSegments ((rest.drop 1).drop skipped)).map fun segments =>
      { data := some { segments, pathPrefix }, type }

def Storable (text : WString) : Prop :=
  text ≠ [] ∧ text.length ≤ 32767 ∧ 0 ∉ text

theorem readNumber_digits {chars : List Char} (digits : ∀ char ∈ chars, char.isDigit = true)
    (filled : chars ≠ []) (bound : Nat.ofDigitChars 10 chars number ≤ limit)
    (going : ∀ char, isDigit char = true → stops char = false)
    (stop : stops (rest.headD 0) = true) :
    readNumber limit stops number (chars.map Char.toNat ++ rest) =
      some (Nat.ofDigitChars 10 chars number, rest) := by
  induction chars generalizing number with
  | nil => exact absurd rfl filled
  | cons char chars ih =>
    have digit {char : Char} (member : char.isDigit = true) : isDigit char.toNat = true := by
      simpa [isDigit, Char.isDigit_iff_toNat] using member
    rw [Nat.ofDigitChars_cons] at bound ⊢
    have least : 10 * number + (char.toNat - 48) ≤ limit := by
      rw [Nat.ofDigitChars_eq_ofDigitChars_zero] at bound
      exact (Nat.le_mul_of_pos_left _ (Nat.pow_pos (Nat.succ_pos 9))).trans
        (Nat.le_of_add_right_le bound)
    rw [map_cons, cons_append, readNumber,
      if_neg (by simpa [digit (digits char mem_cons_self)] using least)]
    cases chars with
    | nil => exact if_pos stop
    | cons other chars =>
      have others (char : Char) (member : char ∈ other :: chars) :=
        digits char (mem_cons_of_mem _ member)
      rw [if_neg (by simp [going _ (digit (others other mem_cons_self))])]
      exact ih others (cons_ne_nil _ _) bound

theorem readNumber_number (bound : value ≤ limit)
    (going : ∀ char, isDigit char = true → stops char = false)
    (stop : stops (rest.headD 0) = true) :
    readNumber limit stops 0 (fastSprintNumber value ++ rest) = some (value, rest) := by
  have digits (char : Char) (member : char ∈ Nat.toDigits 10 value) : char.isDigit = true :=
    Nat.isDigit_of_mem_toDigits (by decide) (by decide) member
  have number := @Nat.ofDigitChars_ten_toDigits value
  rw [fastSprintNumber, readNumber_digits digits Nat.toDigits_ne_nil (by rwa [number]) going stop,
    number]

theorem stops_of_isDigit (char : WChar) (digit : isDigit char = true) :
    (decide (char = 0) || decide (char = 32)) = false := by
  rw [Bool.or_eq_false_iff]
  constructor
  all_goals
    apply decide_eq_false
    rintro rfl
    cases digit

theorem not_space_of_isDigit (char : WChar) (digit : isDigit char = true) :
    decide (char = 32) = false :=
  (Bool.or_eq_false_iff.mp (stops_of_isDigit char digit)).2

theorem tstrcpy_of_storable (storable : Storable text) : tstrcpy text = text := by
  rw [tstrcpy, cString_of_not_mem storable.2.2, Nat.sub_self]
  exact append_nil text

theorem readSegments_storedSegments {segments : List WString}
    (storable : ∀ segment ∈ segments, Storable segment) :
    readSegments ((storedSegments segments).drop 1) = some segments := by
  induction segments with
  | nil => rw [readSegments]; rfl
  | cons segment segments ih =>
    have first := storable segment mem_cons_self
    have written : (storedSegments (segment :: segments)).drop 1 =
        fastSprintNumber segment.length ++ 32 :: (segment ++ storedSegments segments) := by
      simp [storedSegments, tstrcpy_of_storable first]
    have number := @readNumber_number 32767 _ (· = 32) (32 :: (segment ++ storedSegments segments))
      first.2.1 not_space_of_isDigit rfl
    rw [written, readSegments, if_neg (by simp)]
    split
    case h_1 failed => cases failed.symm.trans number
    case h_2 read =>
      cases read.symm.trans number
      have later := ih fun segment member => storable segment (mem_cons_of_mem _ member)
      rw [drop_succ_cons, drop_zero, if_neg (by simp [first.1]), take_left' rfl,
        drop_length_add_append, later]
      rfl

theorem setSafePath_getSafePath {data : CServerPathData} {type : ServerType}
    (volume : ∀ volume ∈ data.pathPrefix, Storable volume)
    (segments : ∀ segment ∈ data.segments, Storable segment) :
    setSafePath (getSafePath { data := some data, type }) = some { data := some data, type } := by
  have typeBound : type.value + 1 ≤ 10 := by cases type <;> decide
  have same : ServerType.ofNat (type.value + 1 - 1) = type := ServerType.ofNat_ctorIdx type
  rw [getSafePath, setSafePath, readNumber_number typeBound not_space_of_isDigit rfl]
  simp only [Option.bind_eq_bind, Option.bind_some, drop_succ_cons, drop_zero, same]
  have read := readSegments_storedSegments segments
  obtain ⟨parts, _ | name⟩ := data
  · cases parts with
    | nil => rfl
    | cons segment rest =>
      simp only [Option.getD_none, Option.elim_none, length_nil, nil_append]
      rw [readNumber_number (Nat.zero_le _) stops_of_isDigit rfl]
      exact congrArg (Option.map _) read
  · have storable := volume name rfl
    simp only [Option.getD_some, Option.elim_some, tstrcpy_of_storable storable, cons_append]
    rw [readNumber_number storable.2.1 stops_of_isDigit rfl]
    dsimp only [Option.bind_some] at read ⊢
    have filled : name.length ≠ 0 := by simpa using storable.1
    rw [drop_succ_cons, drop_zero, if_neg (by simp), if_neg (by simp), if_neg filled,
      if_neg filled, drop_length_add_append, read, take_left' rfl]
    rfl

theorem storable_take (some : value ≠ 0) (bound : value ≤ 32767) (fits : ¬text.length < value)
    (clean : 0 ∉ text) : Storable (text.take value) := by
  have taken : (text.take value).length = value := length_take_of_le (not_lt.mp fits)
  refine ⟨fun none => some ?_, taken.trans_le bound, fun zero => clean (mem_of_mem_take zero)⟩
  rw [← taken, none, length_nil]

theorem readNumber_clean (clean : 0 ∉ text)
    (read : readNumber limit stops number text = some (value, rest)) : 0 ∉ rest.drop 1 :=
  fun zero => clean ((readNumber_read read).2.1.subset (mem_of_mem_drop zero))

theorem readSegments_storable {segments : List WString} (clean : 0 ∉ text)
    (read : readSegments text = some segments) : ∀ segment ∈ segments, Storable segment := by
  fun_induction readSegments text generalizing segments with
  | case1 => cases read; exact nofun
  | case2 => cases read
  | case3 => cases read
  | case4 text _ segmentLen rest found fits ih =>
    obtain ⟨later, others, rfl⟩ := Option.map_eq_some_iff.mp read
    obtain ⟨some, fits⟩ := not_or.mp fits
    have remaining := readNumber_clean clean found
    rintro segment (_ | ⟨_, member⟩)
    · exact storable_take some (readNumber_read found).1 fits remaining
    · exact ih (fun zero => remaining (mem_of_mem_drop zero)) others segment member

/-- What is read from a text is read again from its own text. -/
theorem setSafePath_again {path : CServerPath} (clean : 0 ∉ text)
    (read : setSafePath text = some path) : setSafePath (getSafePath path) = some path := by
  obtain ⟨⟨type, rest⟩, found, read⟩ := Option.bind_eq_some_iff.mp read
  have remaining := readNumber_clean clean found
  obtain ⟨⟨prefixLen, rest⟩, found, read⟩ := Option.bind_eq_some_iff.mp read
  have remaining := readNumber_clean remaining found
  dsimp only at read
  split at read
  case isTrue =>
    cases (of_refusal read).2
    exact setSafePath_getSafePath nofun nofun
  case isFalse =>
    obtain ⟨fits, read⟩ := of_refusal read
    obtain ⟨segments, parts, rfl⟩ := Option.map_eq_some_iff.mp read
    refine setSafePath_getSafePath (fun volume member => ?_)
      (readSegments_storable (fun zero => remaining (mem_of_mem_drop zero)) parts)
    obtain ⟨some, member⟩ := of_refusal member
    cases member
    exact storable_take some (readNumber_read found).1 fits remaining

theorem setSafePath_again_root : setSafePath (getSafePath unixRoot) = some unixRoot :=
  @setSafePath_again (wide "0 0") _ (by decide) rfl

/-- A path that is stored is the path that is read. -/
theorem obtained_stored {path : CServerPath} (obtained : Obtained path)
    (filled : path.empty = false) (clean : NulFree path) (short : ∀ data ∈ path.data,
      ∀ part ∈ data.pathPrefix.toList ++ data.segments, part.length ≤ 32767) :
    getSafePath path ≠ [] ∧ setSafePath (getSafePath path) = some path := by
  obtain ⟨_ | data, type⟩ := path
  · cases filled
  · obtain ⟨wellFormed, _⟩ := obtained.wellFormed data rfl
    have volume : ∀ volume ∈ data.pathPrefix, volume ≠ [] := by
      have good := wellFormed.volume
      rintro _ member rfl
      cases type <;> simp [GoodVolume, wide, Option.mem_def.mp member] at good
    refine ⟨by simp [getSafePath], setSafePath_getSafePath ?_ ?_⟩
    · exact fun name member => ⟨volume name member,
        short data rfl name (by simp [Option.mem_def.mp member]), (clean data rfl).1 name member⟩
    · exact fun segment member => ⟨(wellFormed.segments segment member).filled,
        short data rfl segment (by simp [member]), (clean data rfl).2 segment member⟩

theorem obtained_stored_home : setSafePath (getSafePath unixHome) = some unixHome := by
  refine (obtained_stored obtained_unixHome rfl ?_ ?_).2
  · rintro _ ⟨⟩
    exact ⟨nofun, by decide⟩
  · rintro _ ⟨⟩
    decide

end CServerPath

end FileZilla
