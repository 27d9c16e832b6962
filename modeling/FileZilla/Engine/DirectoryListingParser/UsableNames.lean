import FileZilla.Engine.DirectoryListingParser.Names

namespace FileZilla

open List

variable {Time : Type}

def UsableName (name : WString) : Prop :=
  name ≠ [] ∧ name ≠ wide "." ∧ name ≠ wide ".."

instance (name : WString) : Decidable (UsableName name) :=
  inferInstanceAs (Decidable (_ ∧ _))

open LineState

namespace LineState

open EntryParser Rejecting

variable (context : ListingContext Time)

def answer (line : CLine) (state : LineState Time) :
    Option (ListingFormat × Bool × CDirentry Time) :=
  acceptedAlone (parserOf context state.maybeMultilineVms line) (formatsFor context.serverType)

/-- The format that accepts the line finds a name, a name of a directory is more than dots and
the version that is trimmed, and a line that counts as a file name is more than dots. -/
structure WellNamed (line : CLine) (concatenated : Bool) (state : LineState Time) : Prop where
  named : ∀ format entry, answer context line state = some (format, true, entry) →
    NamesFile context line format
  versioned : ∀ format entry, answer context line state = some (format, true, entry) →
    context.serverType = .vms → entry.isDir = true → trimVersion entry.name ≠ entry.name →
    UsableName (trimVersion entry.name)
  listed : answer context line state = none → concatenated = false → state.fileListOnly = true →
    line.getEndToken 0 ≠ wide "." ∧ line.getEndToken 0 ≠ wide ".."

structure UsableNames (state : LineState Time) : Prop where
  entries : ∀ entry ∈ state.entries, UsableName entry.name
  fileList : ∀ file ∈ state.fileList, UsableName file

variable {state : LineState Time}

theorem UsableNames.noFileList (usable : UsableNames state) :
    UsableNames state.noFileList where
  entries := usable.entries
  fileList := by simp [LineState.noFileList]

theorem UsableNames.addEntry {entry : CDirentry Time} (usable : UsableNames state)
    (named : entry.name ≠ []) (versioned : context.serverType = .vms → entry.isDir = true →
      trimVersion entry.name ≠ entry.name → UsableName (trimVersion entry.name)) :
    UsableNames (state.addEntry context entry) := by
  unfold LineState.addEntry
  dsimp only
  split
  · exact usable.noFileList
  case isFalse dots =>
    have original : UsableName entry.name := ⟨named, not_or.mp dots⟩
    split
    · refine ⟨fun other member => ?_, usable.noFileList.fileList⟩
      rcases mem_append.mp member with earlier | new
      · exact usable.entries other earlier
      · rw [mem_singleton.mp new]
        unfold finishEntry
        dsimp only
        split
        case isTrue trims =>
          by_cases changes : trimVersion entry.name = entry.name
          · rwa [changes]
          · exact versioned trims.1 trims.2 changes
        case isFalse => exact original
    · exact ⟨usable.entries, usable.noFileList.fileList⟩

theorem UsableNames.rejectLine {line : CLine} {concatenated : Bool} (usable : UsableNames state)
    (listed : concatenated = false → state.fileListOnly = true →
      line.getEndToken 0 ≠ wide "." ∧ line.getEndToken 0 ≠ wide "..") :
    UsableNames (state.rejectLine context.limit line concatenated) := by
  unfold LineState.rejectLine
  split
  · exact ⟨usable.entries, usable.fileList⟩
  case isFalse single =>
    dsimp only
    split
    · exact ⟨usable.entries, by simp⟩
    case isFalse token =>
      split
      case isTrue only =>
        have more := listed (by simpa using single) only
        split
        · refine ⟨usable.entries, fun file member => ?_⟩
          rcases mem_append.mp member with earlier | new
          · exact usable.fileList file earlier
          · rw [mem_singleton.mp new]
            exact ⟨by simpa using (not_or.mp token).1, more⟩
        · exact ⟨usable.entries, usable.fileList⟩
      case isFalse => exact ⟨usable.entries, usable.fileList⟩

theorem UsableNames.parseLine {line : CLine} {concatenated : Bool} (usable : UsableNames state)
    (wellNamed : WellNamed context line concatenated state) :
    UsableNames (state.parseLine context none line concatenated).2 := by
  have alike := fun format entry =>
    parserOf_alike context state.maybeMultilineVms line format entry {}
  unfold LineState.parseLine
  rw [tryFormats_eq _ alike]
  change UsableNames (storeResult context none line concatenated state
    ((answer context line state).map _)).2
  rcases accepted : answer context line state with _ | ⟨format, _ | _, alone⟩
  · exact usable.rejectLine context (wellNamed.listed accepted)
  · exact usable.noFileList
  · have acceptsNew := acceptedAlone_outcome _ accepted
    obtain ⟨stored, acceptsLeft⟩ : ∃ stored,
        (parserOf context state.maybeMultilineVms line format).outcome
          (leftover (parserOf context state.maybeMultilineVms line)
            (formatsFor context.serverType) {}) = (some true, stored) := by
      refine ⟨_, Prod.ext ?_ rfl⟩
      rw [alike format, acceptsNew]
    have agree := accepted_agree context acceptsLeft acceptsNew
    have sameName := agree .name (Finset.mem_compl.mpr (unwrittenFields_name context line format))
    have flags := agree .flags (Finset.mem_compl.mpr (unwrittenFields_flags context line format))
    have named := parserOf_named context (wellNamed.named format alone accepted)
      state.maybeMultilineVms _ _ _ acceptsLeft rfl
    have versioned := wellNamed.versioned format alone accepted
    rw [Option.map_some, acceptsLeft]
    refine usable.addEntry context named ?_
    change context.serverType = .vms → stored.isDir = true →
      trimVersion stored.name ≠ stored.name → UsableName (trimVersion stored.name)
    rw [sameName, flags.1]
    exact versioned

end LineState

namespace LineReader

/-- The calls of `ParseLine` for one raw line: the line, whether it is a concatenation, and
the state before the call. -/
def lineCalls (handling : LineHandling Time) (rawLine : WString) (self : LineReader Time) :
    List (CLine × Bool × LineState Time) :=
  let line := CLine.ofText rawLine
  let (res, lineState) := handling.parseLine line false self.lineState
  (line, false, self.lineState) ::
    if res || self.prevLine.isEmpty then []
    else [({ text := self.prevLine ++ 32 :: rawLine
             trailingWhitespace := line.trailingWhitespace }, true, lineState)]

/-- The calls of `ParseLine` in the loop of `ParseData`. -/
def parseCalls (handling : LineHandling Time) (partialData : Bool) (self : LineReader Time) :
    List (CLine × Bool × LineState Time) :=
  let next := getLine handling partialData self
  if _found : next.1 = [] then []
  else lineCalls handling next.1 next.2.2 ++
    parseCalls handling partialData (handleLine handling next.1 next.2.2)
termination_by self.inbuf.length
decreasing_by
  rw [handleLine_inbuf]
  exact getLine_length_lt ‹_›

def CallKeeps (handling : LineHandling Time) (inv : LineState Time → Prop)
    (call : CLine × Bool × LineState Time) : Prop :=
  inv call.2.2 → inv (handling.parseLine call.1 call.2.1 call.2.2).2

theorem getLine_lineState (handling : LineHandling Time) (breakAtEnd : Bool)
    (self : LineReader Time) :
    (getLine handling breakAtEnd self).2.2.lineState = self.lineState := by
  have scanned : self.scan.lineState = self.lineState := by
    unfold scan findLineEnd trimLeadingWhitespace
    split <;> rfl
  induction self using getLine.induct handling breakAtEnd with
  | case1 self tooLong => simp [getLine, tooLong, scanned]
  | case2 self fits atEnd => simp [getLine, fits, atEnd, scanned]
  | case3 self fits atEnd rawLine buffer empty ih =>
    rw [getLine, if_neg fits, dif_neg atEnd]
    dsimp only
    rw [if_pos empty, ih]
    · exact scanned
    · unfold scan findLineEnd trimLeadingWhitespace
      split <;> rfl
  | case4 self fits atEnd rawLine buffer filled =>
    rw [getLine, if_neg fits, dif_neg atEnd]
    dsimp only
    rw [if_neg filled]
    exact scanned

theorem handleLine_keeps {handling : LineHandling Time} {inv : LineState Time → Prop}
    {rawLine : WString} {self : LineReader Time}
    (keeps : ∀ call ∈ lineCalls handling rawLine self, CallKeeps handling inv call)
    (holds : inv self.lineState) : inv (handleLine handling rawLine self).lineState := by
  have first := keeps _ mem_cons_self holds
  unfold handleLine
  dsimp only
  split
  · exact first
  case isFalse rejected =>
    split
    · exact first
    case isFalse filled =>
      have second := keeps
        ({ text := self.prevLine ++ 32 :: rawLine
           trailingWhitespace := (CLine.ofText rawLine).trailingWhitespace }, true,
          (handling.parseLine (CLine.ofText rawLine) false self.lineState).2)
        (mem_cons_of_mem _ (by simp [rejected, filled])) first
      split
      · exact second
      · exact second

theorem parseLines_keeps {handling : LineHandling Time} {inv : LineState Time → Prop}
    {partialData : Bool} {self : LineReader Time}
    (keeps : ∀ call ∈ parseCalls handling partialData self, CallKeeps handling inv call)
    (holds : inv self.lineState) :
    inv (parseLines handling partialData self).2.lineState := by
  induction self using parseLines.induct handling partialData with
  | case1 self next found =>
    rw [parseLines, dif_pos found]
    exact (getLine_lineState handling partialData self).symm ▸ holds
  | case2 self next found ih =>
    rw [parseCalls, dif_neg found] at keeps
    rw [parseLines, dif_neg found]
    refine ih (fun call member => keeps call (mem_append_right _ member)) ?_
    refine handleLine_keeps (fun call member => keeps call (mem_append_left _ member)) ?_
    exact (getLine_lineState handling partialData self).symm ▸ holds

end LineReader

namespace CDirectoryListingParser

theorem convertEncoding_lineState (self : CDirectoryListingParser Time) :
    self.convertEncoding.lineState = self.lineState := by
  unfold convertEncoding deduceEncoding
  dsimp only
  split
  · split
    · split <;> rfl
    · split <;> rfl
  · split <;> rfl

open LineReader

/-- The calls of `ParseLine` while more bytes may follow -/
def processCalls (handling : LineHandling Time) (self : CDirectoryListingParser Time) :
    List (CLine × Bool × LineState Time) :=
  if self.inbuf.length < self.parseOffset then []
  else if self.listingEncoding = .unknown ∧ self.inbuf.length < 512 then []
  else parseCalls handling true self.convertEncoding.toLineReader

/-- The calls of `ParseLine` from the first chunk to the end of the listing -/
def listingCalls (handling : LineHandling Time) (self : CDirectoryListingParser Time) :
    List (List UInt8) → List (CLine × Bool × LineState Time)
  | [] => parseCalls handling false self.convertEncoding.toLineReader
  | chunk :: chunks =>
    (self.append chunk).processCalls handling ++
      listingCalls handling ((self.append chunk).processAddedData handling).2 chunks

section
variable {handling : LineHandling Time} {inv : LineState Time → Prop}

variable {self : CDirectoryListingParser Time}

theorem parseData_keeps {partialData : Bool}
    (keeps : ∀ call ∈ parseCalls handling partialData self.convertEncoding.toLineReader,
      CallKeeps handling inv call) (holds : inv self.lineState) :
    inv (self.parseData handling partialData).2.lineState :=
  parseLines_keeps keeps ((convertEncoding_lineState self).symm ▸ holds)

theorem processAddedData_keeps
    (keeps : ∀ call ∈ self.processCalls handling, CallKeeps handling inv call)
    (holds : inv self.lineState) : inv (self.processAddedData handling).2.lineState := by
  unfold processCalls at keeps
  unfold processAddedData
  split
  · exact holds
  case isFalse within =>
    rw [if_neg within] at keeps
    split
    · exact holds
    case isFalse enough =>
      rw [if_neg enough] at keeps
      exact parseData_keeps keeps holds

theorem parse_keeps (chunks : List (List UInt8))
    (keeps : ∀ call ∈ self.listingCalls handling chunks, CallKeeps handling inv call)
    (holds : inv self.lineState) :
    inv ((self.receive handling chunks).parseData handling false).2.lineState := by
  induction chunks generalizing self with
  | nil => exact parseData_keeps keeps holds
  | cons chunk chunks ih =>
    refine ih (fun call member => keeps call (mem_append_right _ member)) ?_
    exact processAddedData_keeps
      (fun call member => keeps call (mem_append_left _ member)) holds

end

def listingHandling (context : ListingContext Time) (convToLocal : List UInt8 → WString) :
    LineHandling Time where
  convToLocal := convToLocal
  parseLine line concatenated state := state.parseLine context none line concatenated

/-- When every line is well named, so is every entry of the listing. -/
theorem parse_usableNames (context : ListingContext Time) (convToLocal : List UInt8 → WString)
    (path : CServerPath) (encoding : ListingEncoding) (chunks : List (List UInt8))
    (wellNamed : ∀ call ∈ (withEncoding encoding).listingCalls
      (listingHandling context convToLocal) chunks,
      WellNamed context call.1 call.2.1 call.2.2) :
    ∀ entry ∈ (((withEncoding encoding).receive (listingHandling context convToLocal)
      chunks).parse (listingHandling context convToLocal) path).entries,
      UsableName entry.name := by
  have usable : UsableNames _ := parse_keeps chunks
    (fun call member holds => holds.parseLine context (wellNamed call member))
    ⟨by simp [withEncoding], by simp [withEncoding]⟩
  intro entry member
  unfold parse at member
  dsimp only at member
  split at member
  · cases member
  · rcases mem_append.mp member with stored | listed
    · exact usable.entries entry stored
    · obtain ⟨file, found, rfl⟩ := mem_map.mp listed
      exact usable.fileList file found

def latin (bytes : List UInt8) : WString :=
  bytes.map UInt8.toNat

def directoryChunks : List (List UInt8) :=
  ["dr-xr-xr-x 2 root other 512 Apr 8 1994 e", "tc\r\n"].map
    fun text => text.toList.map fun char => UInt8.ofNat char.toNat

theorem directoryChunks_usable :
    (((withEncoding .normal).receive (listingHandling unixContext latin)
      directoryChunks).parse (listingHandling unixContext latin)
        { data := none, type := .unix }).entries.length = 1 ∧
    ∀ entry ∈ (((withEncoding .normal).receive (listingHandling unixContext latin)
      directoryChunks).parse (listingHandling unixContext latin)
        { data := none, type := .unix }).entries, UsableName entry.name := by
  refine ⟨by decide +kernel, ?_⟩
  refine parse_usableNames unixContext latin _ .normal directoryChunks ?_
  have calls : (withEncoding .normal).listingCalls
      (listingHandling unixContext latin) directoryChunks =
      [(CLine.ofText (wide "dr-xr-xr-x 2 root other 512 Apr 8 1994 etc"), false, {})] := by
    decide +kernel
  have accepted : (answer unixContext
      (CLine.ofText (wide "dr-xr-xr-x 2 root other 512 Apr 8 1994 etc")) {}).map Prod.fst =
        some .unix := by
    decide +kernel
  have column : EntryParser.UnixNamesFile unixContext
      (CLine.ofText (wide "dr-xr-xr-x 2 root other 512 Apr 8 1994 etc")) true := by
    unfold EntryParser.UnixNamesFile
    decide +kernel
  intro call member
  rw [calls] at member
  cases mem_singleton.mp member
  refine ⟨fun format entry found => ?_, (fun _ _ _ vms => by cases vms), fun none => ?_⟩
  · rw [found] at accepted
    cases accepted
    exact column
  · rw [none] at accepted
    cases accepted

theorem parse_dots :
    ¬ ∀ entry ∈ (((withEncoding .normal).receive
      (listingHandling unixContext latin) [[46, 46, 10]]).parse
        (listingHandling unixContext latin) { data := none, type := .unix }).entries,
      UsableName entry.name := by
  decide +kernel

end CDirectoryListingParser

end FileZilla
