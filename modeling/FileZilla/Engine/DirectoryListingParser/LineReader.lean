import FileZilla.Engine.DirectoryListing
import FileZilla.Engine.DirectoryListingParser.Token

namespace FileZilla

universe u

/-! How the parser cuts the bytes that arrive into lines, and what it keeps between
two calls. -/

inductive ListingEncoding
  | unknown
  | normal
  | ebcdic
  deriving DecidableEq

def ebcdicTable : List Char :=
  ("                " ++ "     \n         \n" ++ "     \n          " ++ "                " ++
   "           .<(+|" ++ "&         !$*); " ++ "-/        |,%_>?" ++ "         `:#@'=\"" ++
   " abcdefghi      " ++ " jklmnopqr      " ++ " ~stuvwxyz      " ++ "^         []    " ++
   "\x7bABCDEFGHI      " ++ "\x7dJKLMNOPQR      " ++ "\\ STUVWXYZ      " ++
   "0123456789      ").toList

def fromEbcdic (byte : UInt8) : UInt8 :=
  UInt8.ofNat (ebcdicTable.getD byte.toNat ' ').toNat

structure LineState (Time : Type u) where
  entries : List (CDirentry Time) := []
  fileListOnly : Bool := true
  fileList : List WString := []
  maybeMultilineVms : Bool := false
  truncated : Bool := false
  deriving DecidableEq

structure LineReader (Time : Type u) where
  inbuf : List UInt8 := []
  parseOffset : Nat := 0
  prevLine : WString := []
  lineState : LineState Time := {}

structure CDirectoryListingParser (Time : Type u) extends LineReader Time where
  listingEncoding : ListingEncoding := .unknown
  converted : Nat := 0

/-- What the loop over the lines needs of its surroundings: the conversion of the
control socket and the parser of one line, told whether the line is a concatenation. -/
structure LineHandling (Time : Type u) where
  convToLocal : List UInt8 → WString
  parseLine : CLine → Bool → LineState Time → Bool × LineState Time

variable {Time : Type u}

namespace LineReader

def isSkipped (byte : UInt8) : Bool :=
  byte == 13 || byte == 10 || byte == 32 || byte == 9 || byte == 0

def endsLine (byte : UInt8) : Bool :=
  byte == 0 || byte == 10 || byte == 13

variable (self : LineReader Time)

def trimLeadingWhitespace : LineReader Time :=
  if self.parseOffset = 0 then { self with inbuf := self.inbuf.dropWhile isSkipped } else self

def findLineEnd : LineReader Time :=
  { self with
    parseOffset := self.parseOffset +
      ((self.inbuf.drop self.parseOffset).takeWhile (!endsLine ·)).length }

/-- The head of the loop of `GetLine`. -/
def scan : LineReader Time :=
  self.trimLeadingWhitespace.findLineEnd

def consumeLine : LineReader Time :=
  { self with inbuf := self.inbuf.drop self.parseOffset, parseOffset := 0 }

def stripBom (text : WString) : WString :=
  if text.head? = some 0xfeff then text.drop 1 else text

def lineTooLong : Bool :=
  10000 < self.parseOffset

/-- `GetLine` has to wait for more bytes, or there are none. -/
def atEnd (breakAtEnd : Bool) : Bool :=
  self.inbuf.length ≤ self.parseOffset && (breakAtEnd || self.inbuf.isEmpty)

theorem scan_inbuf_length_le :
    self.scan.inbuf.length ≤ self.inbuf.length := by
  unfold scan findLineEnd trimLeadingWhitespace
  split
  · exact (List.dropWhile_sublist _).length_le
  · exact Nat.le_refl _

variable {self : LineReader Time}

theorem scan_parseOffset_pos (filled : self.scan.inbuf ≠ []) :
    0 < self.scan.parseOffset := by
  by_cases fresh : self.parseOffset = 0
  · have kept : self.scan.inbuf = self.inbuf.dropWhile isSkipped := by
      simp [scan, findLineEnd, trimLeadingWhitespace, fresh]
    rw [kept] at filled
    obtain ⟨byte, rest, found⟩ := List.exists_cons_of_ne_nil filled
    have shown : isSkipped byte = false := by
      have head := List.head_dropWhile_not isSkipped filled
      simpa [found] using head
    have inside : endsLine byte = false := by
      simp only [isSkipped, endsLine, Bool.or_eq_false_iff] at shown ⊢
      exact ⟨⟨shown.2, shown.1.1.1.2⟩, shown.1.1.1.1⟩
    simp [scan, findLineEnd, trimLeadingWhitespace, fresh, found, inside]
  · unfold scan findLineEnd trimLeadingWhitespace
    rw [if_neg fresh]
    exact Nat.lt_of_lt_of_le (Nat.pos_of_ne_zero fresh) (Nat.le_add_right _ _)

theorem consumeLine_length_lt {breakAtEnd : Bool} (found : self.scan.atEnd breakAtEnd = false) :
    self.scan.consumeLine.inbuf.length < self.inbuf.length := by
  have filled : self.scan.inbuf ≠ [] := by
    intro empty
    simp [atEnd, empty] at found
  have position := scan_parseOffset_pos filled
  have shrinks := self.scan_inbuf_length_le
  have size := List.length_pos_iff.mpr filled
  simp only [consumeLine, List.length_drop]
  omega

/-- The next line that is not empty. An empty line stands for none, because of an error
or as there is no complete one. -/
def getLine (handling : LineHandling Time) (breakAtEnd : Bool) (self : LineReader Time) :
    WString × Bool × LineReader Time :=
  if self.scan.lineTooLong then ([], true, self.scan)
  else if _atEnd : self.scan.atEnd breakAtEnd then ([], false, self.scan)
  else
    let rawLine := self.scan.inbuf.take self.scan.parseOffset
    let buffer := stripBom (handling.convToLocal rawLine)
    if buffer.isEmpty then getLine handling breakAtEnd self.scan.consumeLine
    else (buffer, false, self.scan.consumeLine)
termination_by self.inbuf.length
decreasing_by exact consumeLine_length_lt (by simpa using _atEnd)

theorem getLine_length_lt {handling : LineHandling Time} {breakAtEnd : Bool}
    (found : (getLine handling breakAtEnd self).1 ≠ []) :
    (getLine handling breakAtEnd self).2.2.inbuf.length < self.inbuf.length := by
  induction self using getLine.induct handling breakAtEnd with
  | case1 self tooLong => simp [getLine, tooLong] at found
  | case2 self fits atEnd => simp [getLine, fits, atEnd] at found
  | case3 self fits atEnd rawLine buffer empty ih =>
    have shorter := consumeLine_length_lt (by simpa using atEnd)
    have next : getLine handling breakAtEnd self =
        getLine handling breakAtEnd self.scan.consumeLine := by
      rw [getLine, if_neg fits, dif_neg atEnd]
      exact if_pos empty
    rw [next] at found ⊢
    exact Nat.lt_trans (ih found) shorter
  | case4 self fits atEnd rawLine buffer filled =>
    have next : getLine handling breakAtEnd self = (buffer, false, self.scan.consumeLine) := by
      rw [getLine, if_neg fits, dif_neg atEnd]
      exact if_neg filled
    rw [next]
    exact consumeLine_length_lt (by simpa using atEnd)

variable (handling : LineHandling Time)

/-- The body of the loop of `ParseData`. -/
def handleLine (rawLine : WString) (self : LineReader Time) :
    LineReader Time :=
  let line := CLine.ofText rawLine
  let (res, lineState) := handling.parseLine line false self.lineState
  if res then { self with prevLine := [], lineState }
  else if self.prevLine.isEmpty then { self with prevLine := rawLine, lineState }
  else
    let prevLine := self.prevLine ++ 32 :: rawLine
    let concatedLine : CLine := { text := prevLine, trailingWhitespace := line.trailingWhitespace }
    let (res, lineState) := handling.parseLine concatedLine true lineState
    if res then { self with prevLine := [], lineState }
    else { self with prevLine := rawLine, lineState }

theorem handleLine_eq (rawLine : WString)
    (self : LineReader Time) :
    handleLine handling rawLine self =
      { self with
        prevLine := (handleLine handling rawLine
          { prevLine := self.prevLine, lineState := self.lineState }).prevLine,
        lineState := (handleLine handling rawLine
          { prevLine := self.prevLine, lineState := self.lineState }).lineState } := by
  unfold handleLine
  dsimp only
  split
  · rfl
  · split
    · rfl
    · split <;> rfl

theorem handleLine_inbuf (rawLine : WString)
    (self : LineReader Time) : (handleLine handling rawLine self).inbuf = self.inbuf := by
  rw [handleLine_eq]

/-- The loop of `ParseData`, which tells whether a line was too long. -/
def parseLines (handling : LineHandling Time) (partialData : Bool) (self : LineReader Time) :
    Bool × LineReader Time :=
  let next := getLine handling partialData self
  if _found : next.1 = [] then (next.2.1, next.2.2)
  else parseLines handling partialData (handleLine handling next.1 next.2.2)
termination_by self.inbuf.length
decreasing_by
  rw [handleLine_inbuf]
  exact getLine_length_lt ‹_›

end LineReader

namespace CDirectoryListingParser

def withEncoding (listingEncoding : ListingEncoding) : CDirectoryListingParser Time :=
  { listingEncoding }

variable (self : CDirectoryListingParser Time)

def deduceEncoding : CDirectoryListingParser Time :=
  let count (byte : Nat) := (self.inbuf.take 50000).countP (·.toNat == byte)
  let total (first last : Nat) := ((List.range' first (last + 1 - first)).map count).sum
  let countNormal := total 48 57 + total 97 122 + total 65 90
  let countEbcdic := total 0x81 0x89 + total 0x91 0x99 + total 0xa2 0xa9 + total 0xc1 0xc9 +
    total 0xd1 0xd9 + total 0xe2 0xe9 + total 0xf0 0xf9
  if (count 0x1f ≠ 0 ∨ count 0x15 ≠ 0 ∨ count 0x25 ≠ 0) ∧ count 0x0a = 0 ∧ count 64 ≠ 0 ∧
      count 32 < count 64 ∧ countNormal < countEbcdic then
    { self with listingEncoding := .ebcdic }
  else { self with listingEncoding := .normal }

def convertEncoding : CDirectoryListingParser Time :=
  let self := if self.listingEncoding = .unknown then self.deduceEncoding else self
  if self.listingEncoding = .ebcdic then
    { self with
      inbuf := self.inbuf.take self.converted ++ (self.inbuf.drop self.converted).map fromEbcdic
      converted := self.inbuf.length }
  else self

variable (handling : LineHandling Time)

def parseData (partialData : Bool)
    (self : CDirectoryListingParser Time) : Bool × CDirectoryListingParser Time :=
  let self := self.convertEncoding
  let (error, reader) := LineReader.parseLines handling partialData self.toLineReader
  (!error,
    { self with toLineReader := reader, converted := min self.converted reader.inbuf.length })

def processAddedData (self : CDirectoryListingParser Time) :
    Bool × CDirectoryListingParser Time :=
  if self.inbuf.length < self.parseOffset then (false, self)
  -- not enough bytes to guess the encoding
  else if self.listingEncoding = .unknown ∧ self.inbuf.length < 512 then (true, self)
  else self.parseData handling true

/-- What the owner of the parser does with `GetInputBuffer` -/
def append (bytes : List UInt8) :
    CDirectoryListingParser Time :=
  { self with inbuf := self.inbuf ++ bytes }

def nameOnly (file : WString) : CDirentry Time :=
  { name := file }

def parse (path : CServerPath)
    (self : CDirectoryListingParser Time) : CDirectoryListing Time :=
  let (success, self) := self.parseData handling false
  if !success then { path, failed := true }
  else { path, entries := self.lineState.entries ++ self.lineState.fileList.map nameOnly }

end CDirectoryListingParser

end FileZilla
