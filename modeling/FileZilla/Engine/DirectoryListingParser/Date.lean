import FileZilla.Engine.DirectoryListingParser.Entry

namespace FileZilla

def monthNames : List (WString × Nat) := [
  ("jan", 1), ("feb", 2), ("mar", 3), ("apr", 4), ("may", 5), ("jun", 6), ("june", 6),
   ("jul", 7), ("july", 7), ("aug", 8), ("sep", 9), ("sept", 9), ("oct", 10), ("nov", 11),
   ("dec", 12), ("1", 1), ("01", 1), ("2", 2), ("02", 2), ("3", 3), ("03", 3), ("4", 4),
   ("04", 4), ("5", 5), ("05", 5), ("6", 6), ("06", 6), ("7", 7), ("07", 7), ("8", 8),
   ("08", 8), ("9", 9), ("09", 9), ("10", 10), ("11", 11), ("12", 12), ("mrz", 3),
   ("m\u00e4r", 3), ("m\u00e4rz", 3), ("mai", 5), ("juni", 6), ("juli", 7), ("okt", 10),
   ("dez", 12), ("j\u00e4n", 1), ("janv", 1), ("f\u00e9b", 2), ("f\u00e9v", 2), ("fev", 2),
   ("f\u00e9vr", 2), ("fevr", 2), ("mars", 3), ("mrs", 3), ("avr", 4), ("avril", 4),
   ("juin", 6), ("juil", 7), ("jui", 7), ("ao\u00fb", 8), ("ao\u00fbt", 8), ("aout", 8),
   ("d\u00e9c", 12), ("dec", 12), ("gen", 1), ("mag", 5), ("giu", 6), ("lug", 7),
   ("ago", 8), ("set", 9), ("ott", 10), ("dic", 12), ("ene", 1), ("fbro", 2), ("mzo", 3),
   ("ab", 4), ("abr", 4), ("agto", 8), ("sbre", 9), ("obre", 10), ("nbre", 11),
   ("dbre", 12), ("sty", 1), ("lut", 2), ("kwi", 4), ("maj", 5), ("cze", 6), ("lip", 7),
   ("sie", 8), ("wrz", 9), ("pa\u009f", 10), ("pa\u00bc", 10), ("paz", 10),
   ("pa\u00c5\u00ba", 10), ("pa\u017a", 10), ("lis", 11), ("gru", 12),
   ("\u00ff\u00ed\u00e2", 1), ("\u00f4\u00e5\u00e2", 2), ("\u00ec\u00e0\u00f0", 3),
   ("\u00e0\u00ef\u00f0", 4), ("\u00ec\u00e0\u00e9", 5), ("\u00e8\u00fe\u00ed", 6),
   ("\u00e8\u00fe\u00eb", 7), ("\u00e0\u00e2\u00e3", 8), ("\u00f1\u00e5\u00ed", 9),
   ("\u00ee\u00ea\u00f2", 10), ("\u00ed\u00ee\u00ff", 11), ("\u00e4\u00e5\u00ea", 12),
   ("mrt", 3), ("mei", 5), ("out", 10), ("tammi", 1), ("helmi", 2), ("maalis", 3),
   ("huhti", 4), ("touko", 5), ("kes\u00e4", 6), ("hein\u00e4", 7), ("elo", 8),
   ("syys", 9), ("loka", 10), ("marras", 11), ("joulu", 12), ("avg", 8), ("ma\u00ed", 5),
   ("j\u00fan", 6), ("j\u00fal", 7), ("\u00e1g", 8), ("n\u00f3v", 11), ("des", 12),
   ("sau", 1), ("vas", 2), ("kov", 3), ("bal", 4), ("geg", 5), ("bir", 6), ("lie", 7),
   ("rgp", 8), ("rgs", 9), ("spa", 10), ("lap", 11), ("grd", 12), ("szept", 9)].map fun (name, month) => (wide name, month)

/-- A number below 100 in the format `%d` -/
def decimalText (number : Nat) : WString :=
  if number < 10 then [48 + number] else [48 + number / 10, 48 + number % 10]

/-- A number below 100 in the format `%02d` -/
def paddedText (number : Nat) : WString :=
  [48 + number / 10, 48 + number % 10]

def comboNames (name : WString) (month : Nat) : List (WString × Nat) :=
  [(name ++ paddedText month, month), (name ++ paddedText (month - 1), month),
   (name ++ decimalText (if month < 10 then month else month % 10), month),
   (name ++ decimalText (if month ≤ 10 then month - 1 else (month - 1) % 10), month)]

/-- The combinations are made in the order of the names, and the last one of several that
are equal counts. -/
def comboMonthNames : List (WString × Nat) :=
  ((monthNames.mergeSort fun left right => (compare left.1 right.1).isLE).flatMap
    fun (name, month) => comboNames name month).reverse

def getMonthFromName (name : WString) : Option Int :=
  let lower := strToLowerAscii name
  ((monthNames.lookup lower).or (comboMonthNames.lookup lower)).map Int.ofNat

/-- The fields that `ParseShortDate` has got so far -/
structure ShortDate where
  year : Option Int := none
  month : Option Int := none
  day : Option Int := none
  gotMonthName : Bool := false

namespace ShortDate

variable (token : CToken)

/-- The field before the first separator, which is at `pos` -/
def firstField (pos : Nat) (saneFieldOrder : Bool) : Option ShortDate :=
  let value := token.getNumberAt 0 pos
  if !token.isNumericAt 0 pos then
    -- monthname-dd-yy
    (getMonthFromName (token.take pos)).map fun month =>
      { month := some month, gotMonthName := true }
  else if pos = 4 then
    -- yyyy-mm-dd
    if value < 1900 ∨ 3000 < value then none else some { year := some value }
  else if pos ≤ 2 then
    if token[pos]? = some '.'.toNat then
      if value < 1 ∨ 31 < value then none else some { day := some value }
    else if saneFieldOrder then
      some { year := some (if value < 50 then value + 2000 else value + 1900) }
    else if value < 1 ∨ 31 < value then none
    else if 12 < value then some { day := some value }
    else some { month := some value }
  else none

def secondField (pos pos2 : Nat) (date : ShortDate) : Option ShortDate := do
  let numeric := token.isNumericAt (pos + 1) (pos2 - pos - 1)
  -- a month that is followed by a name was the day
  let date ←
    if !numeric && date.month.isSome then
      if date.gotMonthName || date.day.isSome then none
      else some { date with day := date.month, month := none }
    else some date
  if date.year.isSome || date.day.isSome then
    let month ← getMonthFromName ((token.drop (pos + 1)).take (pos2 - pos - 1))
    some { date with month := some month }
  else
    let value := token.getNumberAt (pos + 1) ((pos2 : Int) - pos - 1)
    if value < 1 ∨ 31 < value then none else some { date with day := some value }

def thirdField (pos2 : Nat) (date : ShortDate) : Option ShortDate :=
  let value := token.getNumberAt (pos2 + 1) ((token.length : Int) - pos2 - 1)
  if date.year.isSome then
    if value ≤ 0 ∨ 31 < value then none else some { date with day := some value }
  else if value < 0 ∨ 9999 < value then none
  else
    some { date with
      year := some (if value < 50 then value + 2000
        else if value < 1000 then value + 1900 else value) }

def parse (saneFieldOrder : Bool) : Option (Int × Int × Int) := do
  let pos ← token.find (wide "-./")
  if pos < 1 then none
  let date ← firstField token pos saneFieldOrder
  let pos2 ← token.find (wide "-./") (pos + 1)
  if pos2 - pos = 1 ∨ pos2 = token.length - 1 then none
  let date ← secondField token pos pos2 date
  let date ← thirdField token pos2 date
  some (← date.year, ← date.month, ← date.day)

end ShortDate

/-- Hour, minute and seconds of a token like 10:20PM. The seconds are -1 without any. -/
def parseClock (token : CToken) : Option (Int × Int × Int) := do
  let pos ← token.find [':'.toNat]
  if pos < 1 ∨ token.length - 1 ≤ pos then none
  let hour := token.getNumberAt 0 pos
  if hour < 0 ∨ 24 < hour then none
  let pos2 := token.find [':'.toNat] (pos + 1)
  let len : Int := pos2.elim (-1) fun pos2 => (pos2 : Int) - pos - 1
  if len = 0 then none
  let minute := token.getNumberAt (pos + 1) len
  if minute < 0 ∨ 59 < minute then none
  let seconds := pos2.elim (-1) fun pos2 => token.getNumberAt (pos2 + 1) (-1)
  if pos2.isSome ∧ (seconds < 0 ∨ 60 < seconds) then none
  if token.isRightNumeric then some (hour, minute, seconds)
  else
    -- 24 hour format
    let h := token[token.length - 2]?
    if h = some 'P'.toNat ∨ h = some 'p'.toNat then
      some (if hour < 12 then hour + 12 else hour, minute, seconds)
    else if h = some 'A'.toNat ∨ h = some 'a'.toNat then
      some (if hour = 12 then 0 else hour, minute, seconds)
    else none

/-- The digits of a size like 123.4M: whether they are fine, the number without the dot,
and how many characters there are from the dot on. -/
def sizeDigits : WString → Bool → Nat → Nat → Bool × Nat × Nat
  | [], _, size, dot => (true, size, dot)
  | char :: rest, isFirst, size, dot =>
    if isDigit char then
      if size > int64Max / 10 then (false, size, dot)
      else if int64Max - (char - 48) < size * 10 then (false, size * 10, dot)
      else sizeDigits rest false (size * 10 + (char - 48)) dot
    else if char = '.'.toNat then
      if isFirst || rest.isEmpty || dot != 0 then (false, size, dot)
      else sizeDigits rest false size (rest.length + 1)
    else (false, size, dot)

/-- The number of characters that hold the digits, and the unit after them, which is 0
without one. -/
def sizeUnit (token : CToken) : Option (Nat × WChar) :=
  match token.getLast? with
  | none => none
  | some last =>
    if last = 'B'.toNat ∨ last = 'b'.toNat then
      match token[token.length - 2]? with
      | none => none
      | some char =>
        if token.length < 2 then none
        else if isDigit char then some (token.length - 1, 0)
        else some (token.length - 2, char)
    else if isDigit last then some (token.length, 0)
    else if token.length = 1 then none
    else some (token.length - 1, last)

def sizeMultiplier (unit : WChar) (blocksize : Int) : Option Nat :=
  if (wide "kK").contains unit then some (2 ^ 10)
  else if (wide "mM").contains unit then some (2 ^ 20)
  else if (wide "gG").contains unit then some (2 ^ 30)
  else if (wide "tT").contains unit then some (2 ^ 40)
  else if (wide "bB").contains unit then some 0
  else if unit = 0 then some blocksize.toNat
  else none

def parseComplexFileSize (token : CToken) (blocksize : Int) : Bool × Option Int :=
  if token.isNumeric then
    let size := token.getNumber
    if 0 < blocksize then
      if size > int64Max / blocksize then (false, some size) else (true, some (size * blocksize))
    else (true, some size)
  else
    match sizeUnit token with
    | none => (false, none)
    | some (len, unit) =>
      match sizeDigits (token.take len) true 0 0 with
      | (false, size, _) => (false, some size)
      | (true, size, dot) =>
        match sizeMultiplier unit blocksize with
        | none => (false, some size)
        | some 0 => (true, some (size / 10 ^ (dot - 1) : Nat))
        | some mult =>
          if size > int64Max / mult then (false, some size)
          else (true, some (size * mult / 10 ^ (dot - 1) : Nat))

/-- `fz::to_integral` with -1 for what is not an `int` -/
def toIntegral (text : WString) : Int :=
  let sign : Int := if text.head? = some '-'.toNat then -1 else 1
  let digits := if text.head? = some '-'.toNat ∨ text.head? = some '+'.toNat then text.drop 1 else text
  if digits.isEmpty || !digits.all isDigit then -1
  else
    let value := sign * (digits.foldl (fun value char => value * 10 + (char - 48)) 0 : Nat)
    if toInt value = value then value else -1

namespace EntryParser

open Rejecting

variable {Time : Type} (context : ListingContext Time)

def parseShortDate (token : CToken) (saneFieldOrder : Bool := false) : EntryParser Time Unit :=
  match ShortDate.parse token saneFieldOrder with
  | none => failure
  | some (year, month, day) => setDate context year month day (-1) (-1)

def parseTime (token : CToken) : EntryParser Time Unit := do
  let time ← readTime
  match time, parseClock token with
  | some time, some (hour, minute, seconds) => do
      let (valid, time) := context.dates.imbueTime time hour minute seconds
      setTime (some time)
      require valid
  | _, _ => failure

/-- `ParseComplexFileSize` with the size of the entry -/
def parseEntrySize (token : CToken) (blocksize : Int := -1) : EntryParser Time Bool :=
  match parseComplexFileSize token blocksize with
  | (valid, none) => pure valid
  | (valid, some size) => do
      setSize size
      pure valid

section
variable (token : CToken)

instance (saneFieldOrder : Bool) :
    Settles ∅ (fun _ => {.time}) (parseShortDate context token saneFieldOrder) := by
  unfold parseShortDate
  split
  · exact .of .failure
  · infer_instance

instance (saneFieldOrder : Bool) :
    Writes {.time} (parseShortDate context token saneFieldOrder) := by
  unfold parseShortDate
  split
  · exact .failure
  · infer_instance

instance : Settles {.time} (fun _ => ∅) (parseTime context token) := by
  refine ⟨fun known => .step (decide_eq_true known) fun time => ?_⟩
  dsimp only
  split
  · exact .step rfl fun _ => .require _
  · exact .failure

instance : Writes {.time} (parseTime context token) := by
  refine .step (Finset.empty_subset _) fun time => ?_
  dsimp only
  split
  · exact .step (Finset.Subset.refl _) fun _ => .within (Finset.empty_subset _)
  · exact .failure

theorem parseComplexFileSize_none {token : CToken} {blocksize : Int}
    (unread : (parseComplexFileSize token blocksize).2 = none) :
    (parseComplexFileSize token blocksize).1 = false ∧ sizeUnit token = none := by
  unfold parseComplexFileSize at unread ⊢
  by_cases numeric : token.isNumeric = true
  · rw [if_pos numeric] at unread
    dsimp only at unread
    split at unread
    · split at unread <;> cases unread
    · cases unread
  · rw [if_neg numeric] at unread ⊢
    cases unit : sizeUnit token with
    | none => exact ⟨rfl, rfl⟩
    | some unit =>
      rw [unit] at unread
      dsimp only at unread
      split at unread
      · cases unread
      · split at unread
        · cases unread
        · cases unread
        · split at unread <;> cases unread

def readsSize (token : CToken) (blocksize : Int) : Bool :=
  (parseComplexFileSize token blocksize).2.isSome

instance (blocksize : Int) :
    Settles ∅ (fun valid => if valid || readsSize token blocksize then {.size} else ∅)
      (parseEntrySize token blocksize : EntryParser Time Bool) := by
  have unread := @parseComplexFileSize_none token blocksize
  unfold parseEntrySize readsSize
  refine ⟨fun _ => ?_⟩
  split
  case h_1 valid result =>
    rw [result] at unread
    cases (unread rfl).1
    exact .pure _ (by simp [result])
  case h_2 valid size result => exact .step rfl fun _ => .pure _ (by simp [result])

instance (blocksize : Int) :
    Writes {.size} (parseEntrySize token blocksize : EntryParser Time Bool) := by
  unfold parseEntrySize
  split
  · exact .pure _
  · exact .step (Finset.Subset.refl _) fun _ => .pure _

end

end EntryParser

end FileZilla
