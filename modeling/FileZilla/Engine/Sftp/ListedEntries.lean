import FileZilla.Engine.DirectoryListingParser.UsableNames
import FileZilla.Engine.Sftp.List

namespace FileZilla

variable {Time : Type}

namespace CDirectoryListingParser

/-! A parser that is only given entries has nothing left to read when the listing is made. -/

structure Unfed (parser : CDirectoryListingParser Time) : Prop where
  inbuf : parser.inbuf = []
  parseOffset : parser.parseOffset = 0
  only : parser.lineState.OnlyLines

theorem unfed_withEncoding (encoding : ListingEncoding) :
    Unfed (withEncoding encoding : CDirectoryListingParser Time) :=
  ⟨rfl, rfl, rfl, rfl⟩

variable {parser : CDirectoryListingParser Time}

theorem Unfed.addLine (unfed : parser.Unfed) (context : ListingContext Time)
    (entry : ReportedEntry Time) :
    Unfed { parser with lineState := parser.lineState.addLine context entry } :=
  ⟨unfed.inbuf, unfed.parseOffset, LineState.addLine_onlyLines unfed.only entry⟩

open LineReader

theorem convertEncoding_of_empty (empty : parser.inbuf = []) :
    parser.convertEncoding.toLineReader = parser.toLineReader := by
  have deduced : parser.deduceEncoding.toLineReader = parser.toLineReader := by
    unfold deduceEncoding
    dsimp only
    split <;> rfl
  have converts : ∀ other : CDirectoryListingParser Time,
      other.toLineReader = parser.toLineReader → (if other.listingEncoding = .ebcdic then
          { other with
            inbuf := other.inbuf.take other.converted ++
              (other.inbuf.drop other.converted).map fromEbcdic
            converted := other.inbuf.length }
        else other).toLineReader = parser.toLineReader := by
    intro other same
    have none : other.inbuf = [] := (congrArg inbuf same).trans empty
    split
    case isTrue =>
      have kept : other.inbuf.take other.converted ++
          (other.inbuf.drop other.converted).map fromEbcdic = other.inbuf := by
        simp [none]
      rw [← same]
      exact congrArg (fun inbuf => ({ other.toLineReader with inbuf } : LineReader Time)) kept
    case isFalse => exact same
  unfold convertEncoding
  dsimp only
  split
  case isTrue => exact converts _ deduced
  case isFalse => exact converts _ rfl

theorem parseLines_of_empty (handling : LineHandling Time) {reader : LineReader Time}
    (empty : reader.inbuf = []) (fresh : reader.parseOffset = 0) :
    (parseLines handling false reader).1 = false ∧
      (parseLines handling false reader).2.lineState = reader.lineState := by
  have scanned : reader.scan = reader := by
    obtain ⟨inbuf, parseOffset, prevLine, lineState⟩ := reader
    cases empty
    cases fresh
    rfl
  have line : getLine handling false reader = ([], false, reader) := by
    rw [getLine, scanned]
    simp [lineTooLong, atEnd, empty, fresh]
  rw [parseLines]
  simp [line]

theorem Unfed.parse (unfed : parser.Unfed) (handling : LineHandling Time) (path : CServerPath) :
    parser.parse handling path = { path, entries := parser.lineState.entries } := by
  have reader := convertEncoding_of_empty unfed.inbuf
  obtain ⟨fine, lineState⟩ := parseLines_of_empty handling unfed.inbuf unfed.parseOffset
  unfold CDirectoryListingParser.parse parseData
  dsimp only
  rw [reader, fine, lineState]
  simp [unfed.only.fileList]

end CDirectoryListingParser

namespace Sftp.ListOperation

open CDirectoryListingParser LineState

section

variable {context : ListingContext Time} {handling : LineHandling Time}
  {self : CSftpListOpData Time}

structure Reading (context : ListingContext Time) (op : CSftpListOpData Time) : Prop where
  before : op.opState ≠ .list → op.reported = []
  unfed : ∀ parser, op.parser = some parser → parser.Unfed
  entries : ∀ parser, op.parser = some parser → op.reported.length ≤ context.limit →
    parser.lineState.entries = addedBy context op.reported
  stored : ∀ listing, op.stored = some listing → op.result.isSome = true ∧
    listing.path = op.path ∧ (op.reported.length ≤ context.limit →
      listing.entries = addedBy context op.reported)

theorem reading_start (path : CServerPath) (linkFlag : Bool) :
    Reading context (start path linkFlag : CSftpListOpData Time) where
  before := fun _ => rfl
  unfed := fun _ none => (by cases none)
  entries := fun _ none => (by cases none)
  stored := fun _ none => (by cases none)

theorem addedBy_length_le (context : ListingContext Time) (reported : List (ReportedEntry Time)) :
    (addedBy context reported).length ≤ reported.length :=
  List.length_filterMap_le _ _

theorem addedBy_append (context : ListingContext Time) (reported : List (ReportedEntry Time))
    (entry : ReportedEntry Time) :
    addedBy context (reported ++ [entry]) =
      addedBy context reported ++ (added context entry).toList := by
  unfold addedBy
  rw [List.filterMap_append]
  cases found : added context entry <;> simp [found]

theorem Reading.triggerReset (reading : Reading context self) (result : ListReply) :
    Reading context (self.triggerReset result) where
  __ := reading
  stored := fun listing stored => by
    obtain ⟨-, path, entries⟩ := reading.stored listing stored
    refine ⟨?_, path, entries⟩
    simp [CSftpListOpData.triggerReset]

theorem Reading.request (reading : Reading context self) (kind : ListRequest) :
    Reading context (self.request kind) :=
  ⟨reading.before, reading.unfed, reading.entries, reading.stored⟩

theorem Reading.early (reading : Reading context self) (running : self.result = none)
    (early : self.opState ≠ .list) {next : CSftpListOpData Time}
    (reported : next.reported = self.reported) (parser : next.parser = self.parser)
    (stored : next.stored = self.stored) : Reading context next where
  before := fun _ => reported.trans (reading.before early)
  unfed := fun found => parser ▸ reading.unfed found
  entries := fun found present limit => by
    rw [reported] at limit ⊢
    exact reading.entries found (parser ▸ present) limit
  stored := fun listing present => by
    have finished := (reading.stored listing (stored ▸ present)).1
    simp [running] at finished

theorem Reading.send (reading : Reading context self) (running : self.result = none)
    (inputs : SendInputs) : Reading context (self.send inputs) := by
  unfold CSftpListOpData.send
  split
  case isTrue => exact reading.triggerReset _
  case isFalse =>
    split
    case h_1 state =>
      have early : self.opState ≠ .list := by simp [state]
      split
      case isTrue => exact reading.early running early rfl rfl rfl
      case isFalse => exact reading.early running early rfl rfl rfl
    case h_2 state =>
      have early : self.opState ≠ .list := by simp [state]
      split
      case isTrue => exact reading.triggerReset _
      case isFalse => exact reading.early running early rfl rfl rfl
    case h_3 state =>
      have early : self.opState ≠ .list := by simp [state]
      split
      case isTrue => exact reading.triggerReset _
      case isFalse =>
        split
        case isTrue => exact reading.triggerReset _
        case isFalse =>
          split
          case isTrue => exact reading.early running early rfl rfl rfl
          case isFalse => exact reading.early running early rfl rfl rfl
    case h_4 state =>
      have early : self.opState ≠ .list := by simp [state]
      have none := reading.before early
      have parsing : Reading context { self with parser := some (.withEncoding .unknown) } := {
        before := fun _ => none
        unfed := fun _ present => Option.some.inj present ▸ unfed_withEncoding _
        entries := fun parser present _ => by
          cases present
          simp [none, addedBy, withEncoding]
        stored := reading.stored }
      dsimp only
      split
      case isTrue => exact parsing.triggerReset _
      case isFalse => exact parsing.early running early rfl rfl rfl
    case h_5 => exact reading.triggerReset _
    case h_6 => exact reading.triggerReset _

theorem Reading.processName (reading : Reading context self) (running : self.result = none)
    (entry : ReportedEntry Time) (more : Bool) :
    Reading context (self.processName context entry more) := by
  unfold CSftpListOpData.processName
  split
  case isTrue => exact reading.triggerReset _
  case isFalse listing =>
    have state : self.opState = .list := by simpa using listing
    have asked : Reading context (if more then self else self.request .readdir) := by
      split
      case isTrue => exact reading
      case isFalse => exact reading.request _
    have same : (if more then self else self.request .readdir).parser = self.parser ∧
        (if more then self else self.request .readdir).reported = self.reported ∧
          (if more then self else self.request .readdir).opState = .list ∧
            (if more then self else self.request .readdir).result = none := by
      split
      case isTrue => exact ⟨rfl, rfl, state, running⟩
      case isFalse => exact ⟨rfl, rfl, state, running⟩
    obtain ⟨parserSame, reportedSame, stateSame, runningSame⟩ := same
    dsimp only
    split
    case h_1 => exact asked.triggerReset _
    case h_2 parser present =>
      have unfed := asked.unfed parser present
      exact {
        before := fun other => absurd stateSame other
        unfed := fun _ next => Option.some.inj next ▸ unfed.addLine context entry
        entries := fun next found limit => by
          cases found
          simp only [List.length_append, List.length_singleton] at limit
          have read := asked.entries parser present (by omega)
          have room : parser.lineState.entries.length < context.limit := by
            rw [read]
            have fewer := addedBy_length_le context
              (if more then self else self.request .readdir).reported
            omega
          simp only [addedBy_append, addLine_entries unfed.only room, read]
        stored := fun found stored => by
          have finished := (asked.stored found stored).1
          simp [runningSame] at finished }

theorem Reading.processNames (reading : Reading context self) (running : self.result = none)
    (entries : List (Option (ReportedEntry Time))) :
    Reading context (self.processNames context entries) := by
  induction entries generalizing self with
  | nil => exact reading
  | cons item rest ih =>
    cases item with
    | none => exact ih reading running
    | some entry =>
      have next := reading.processName running entry (!rest.isEmpty)
      simp only [CSftpListOpData.processNames]
      split
      case isTrue => exact next
      case isFalse unfinished => exact ih next (by simpa using unfinished)

theorem Reading.finish (reading : Reading context self) :
    Reading context (self.finish handling) := by
  unfold CSftpListOpData.finish
  split
  case h_1 => exact reading.triggerReset _
  case h_2 parser present =>
    exact {
      __ := reading
      stored := fun listing stored => by
        cases stored
        rw [(reading.unfed parser present).parse]
        refine ⟨?_, rfl, reading.entries parser present⟩
        simp [CSftpListOpData.triggerReset] }

theorem Reading.process (reading : Reading context self) (running : self.result = none)
    (reply : Reply Time) : Reading context (self.process context handling reply) := by
  cases reply with
  | status code =>
    simp only [CSftpListOpData.process, CSftpListOpData.doProcessStatus]
    split
    case h_1 state => exact reading.early running (by simp [state]) rfl rfl rfl
    case h_2 state => exact reading.early running (by simp [state]) rfl rfl rfl
    case h_3 => exact reading.triggerReset _
    case h_4 =>
      split
      case isTrue => exact reading.finish
      case isFalse => exact reading.triggerReset _
    case h_5 => exact reading.triggerReset _
  | handle handle =>
    simp only [CSftpListOpData.process, CSftpListOpData.processHandle]
    split
    case isTrue state => exact reading.early running (by simp [state]) rfl rfl rfl
    case isFalse => exact reading.triggerReset _
  | realpath target =>
    simp only [CSftpListOpData.process, CSftpListOpData.processRealpath]
    split
    case isTrue => exact reading.triggerReset _
    case isFalse state =>
      split
      case isTrue => exact reading.triggerReset _
      case isFalse =>
        have early : self.opState = .realpath := by simpa using state
        exact reading.early running (by simp [early]) rfl rfl rfl
  | names entries => exact reading.processNames running entries
  | attributes isDirectory =>
    simp only [CSftpListOpData.process, CSftpListOpData.processAttributes]
    split
    case isTrue state => exact reading.early running (by simp [state]) rfl rfl rfl
    case isFalse => exact reading.triggerReset _
  | failure => exact reading.triggerReset _

theorem Reading.step {next : CSftpListOpData Time} {event : Event Time}
    (reading : Reading context self) (taken : step context handling self event = some next) :
    Reading context next := by
  obtain ⟨unfinished, taken⟩ := of_refusal taken
  have running : self.result = none := by simpa using unfinished
  cases event with
  | send inputs =>
    dsimp only at taken
    obtain ⟨-, rfl⟩ := some_of_guard taken
    exact reading.send running inputs
  | lockObtained =>
    dsimp only at taken
    obtain ⟨waits, rfl⟩ := some_of_guard taken
    exact reading.early running (by simp [waits.1]) rfl rfl rfl
  | reply reply =>
    dsimp only at taken
    split at taken
    case h_1 => contradiction
    case h_2 request pending queue =>
      obtain ⟨-, rfl⟩ := some_of_guard taken
      have answered : Reading context { self with pending } :=
        ⟨reading.before, reading.unfed, reading.entries, reading.stored⟩
      exact answered.process running reply
  | sftpDone =>
    cases taken
    exact reading.triggerReset _

theorem reading_of_run {path : CServerPath} {linkFlag : Bool}
    {trace : List (CSftpListOpData Time × Event Time)}
    (run : Run (step context handling) (start path linkFlag) trace self) :
    Reading context self :=
  Run.invariant (reading_start path linkFlag) (fun _ _ _ reading taken => reading.step taken) run

/-- As long as no long name gets in the way of the data reported with it -/
theorem listing_shows_what_was_reported (notVms : context.serverType ≠ .vms)
    {path : CServerPath} {linkFlag : Bool} {trace : List (CSftpListOpData Time × Event Time)}
    (run : Run (step context handling) (start path linkFlag) trace self)
    (limit : self.reported.length ≤ context.limit)
    (clear : ∀ entry ∈ self.reported, Clear context entry) :
    ∀ listing, self.stored = some listing → listing.path = self.path ∧
      List.Forall₂ (Shows context) (self.reported.filter (·.listed)) listing.entries := by
  intro listing stored
  obtain ⟨-, samePath, entries⟩ := (reading_of_run run).stored listing stored
  refine ⟨samePath, ?_⟩
  rw [entries limit]
  exact shows_addedBy notVms clear

end

def root : CServerPath where
  data := some { segments := [], pathPrefix := none }
  type := .unix

def readFile : ReportedEntry (Int × Int × Int) where
  name := wide "a"
  longname := wide "-rw-r--r-- 1 owner group 7 Jan 1 2000 a"
  modified := some (2024, 5, 4)
  size := some 5
  flags := some { isDir := false, isLink := false }

def listWith (entries : List (ReportedEntry (Int × Int × Int))) :
    List (Event (Int × Int × Int)) :=
  [.send {}, .send {}, .reply (.realpath root), .send {}, .send {},
    .reply (.attributes true), .reply (.handle "d"), .reply (.names (entries.map some)),
    .reply (.status .eof)]

theorem clear_of_fits {context : ListingContext Time} {entry : ReportedEntry Time}
    (named : entry.name ≠ []) (kept : (longnameAnswer context entry).map (·.2.1) = some true)
    (fits : entry.isDir = false ∧ ∀ size, entry.size = some size → size ≤ int64Max) :
    Clear context entry where
  unnamed := fun unnamed => absurd unnamed named
  kept := fun _ format parsed skipped => by
    rw [skipped] at kept
    simp at kept
  size := fun _ size reported => by
    have fit := fits.2 size reported
    unfold SizeKept
    split
    · exact .inr (.inl ⟨fits.1, fit⟩)
    · exact .inr fit

theorem clear_readFile : Clear unixContext readFile := by
  refine clear_of_fits (by decide) (by decide +kernel) ⟨rfl, fun size reported => ?_⟩
  have five : some 5 = some size := reported
  simp [← Option.some.inj five, int64Max]

theorem listing_shows_what_was_reported_readFile :
    ∃ trace self listing, Run (step unixContext (listingHandling unixContext latin))
        (start root false) trace self ∧
      self.result = some .ok ∧ self.stored = some listing ∧ self.reported = [readFile] ∧
        List.Forall₂ (Shows unixContext) [readFile] listing.entries := by
  have run := @execute_run _ _ (step unixContext (listingHandling unixContext latin))
    (start root false) _ (listWith [readFile]) _ rfl
  refine ⟨_, _, _, run, rfl, rfl, rfl, ?_⟩
  have shows := listing_shows_what_was_reported (by decide) run (by decide) (by
    intro entry member
    cases List.mem_singleton.mp member
    exact clear_readFile) _ rfl
  exact shows.2

def hiddenFile : ReportedEntry (Int × Int × Int) where
  name := wide "type=cdir"
  longname := wide "type=cdir"
  size := some 5
  flags := some { isDir := false, isLink := false }

theorem listing_hides_a_file :
    ∃ trace self listing, Run (step unixContext (listingHandling unixContext latin))
        (start root false) trace self ∧
      self.result = some .ok ∧ self.stored = some listing ∧ self.reported = [hiddenFile] ∧
        hiddenFile.listed = true ∧ listing.entries = [] := by
  have run := @execute_run _ _ (step unixContext (listingHandling unixContext latin))
    (start root false) _ (listWith [hiddenFile]) _ rfl
  refine ⟨_, _, _, run, rfl, rfl, rfl, by decide, ?_⟩
  obtain ⟨-, -, entries⟩ := (reading_of_run run).stored _ rfl
  rw [entries (by decide)]
  decide +kernel

end Sftp.ListOperation

end FileZilla
