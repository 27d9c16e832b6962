import FileZilla.Engine.DirectoryListingParser.LineReader

namespace FileZilla

open List

universe u

variable {Time : Type u}

open Nat

namespace LineReader

def append (self : LineReader Time) (bytes : List UInt8) : LineReader Time :=
  { self with inbuf := self.inbuf ++ bytes }

variable (self : LineReader Time) (bytes : List UInt8) (handling : LineHandling Time)

@[simp] theorem append_inbuf :
    (self.append bytes).inbuf = self.inbuf ++ bytes := rfl

@[simp] theorem append_parseOffset :
    (self.append bytes).parseOffset = self.parseOffset := rfl

theorem append_append (first second : List UInt8) :
    (self.append first).append second = self.append (first ++ second) := by
  simp [append, append_assoc]

def Within (self : LineReader Time) : Prop :=
  self.parseOffset ≤ self.inbuf.length

theorem scan_within {self : LineReader Time} (within : self.Within) : self.scan.Within := by
  unfold Within scan findLineEnd trimLeadingWhitespace at *
  split
  case isTrue fresh =>
    simp only [fresh, drop_zero, zero_add]
    exact (takeWhile_sublist _).length_le
  case isFalse =>
    have rest := ((self.inbuf.drop self.parseOffset).takeWhile_sublist (!endsLine ·)).length_le
    simp only [length_drop] at rest ⊢
    omega

theorem consumeLine_within : self.consumeLine.Within :=
  zero_le _

def processLine (handling : LineHandling Time) (self : LineReader Time) : LineReader Time :=
  let buffer := stripBom (handling.convToLocal (self.inbuf.take self.parseOffset))
  if buffer.isEmpty then self.consumeLine else handleLine handling buffer self.consumeLine

theorem processLine_within (self : LineReader Time) :
    (self.processLine handling).Within := by
  unfold processLine
  dsimp only
  split
  · exact self.consumeLine_within
  · rw [handleLine_eq]
    exact zero_le _

theorem processLine_inbuf (self : LineReader Time) :
    (self.processLine handling).inbuf = self.consumeLine.inbuf := by
  unfold processLine
  dsimp only
  split
  · rfl
  · rw [handleLine_inbuf]

theorem parseLines_eq (partialData : Bool) (self : LineReader Time) :
    parseLines handling partialData self =
      if self.scan.lineTooLong then (true, self.scan)
      else if self.scan.atEnd partialData then (false, self.scan)
      else parseLines handling partialData (self.scan.processLine handling) := by
  rw [parseLines, getLine]
  split
  case isTrue => rfl
  case isFalse =>
    split
    case isTrue => rfl
    case isFalse =>
      unfold processLine
      dsimp only
      split
      case isTrue => exact (parseLines.eq_1 handling partialData self.scan.consumeLine).symm
      case isFalse filled =>
        rw [dif_neg (by simpa using filled)]

theorem findLineEnd_append {self : LineReader Time} (within : self.Within) :
    (self.append bytes).findLineEnd =
      if self.findLineEnd.parseOffset < self.inbuf.length then self.findLineEnd.append bytes
      else (self.findLineEnd.append bytes).findLineEnd := by
  have split : (self.inbuf ++ bytes).drop self.parseOffset =
      self.inbuf.drop self.parseOffset ++ bytes := drop_append_of_le_length within
  have bound := ((self.inbuf.drop self.parseOffset).takeWhile_sublist (!endsLine ·)).length_le
  have size : (self.inbuf.drop self.parseOffset).length =
      self.inbuf.length - self.parseOffset := length_drop
  have room : self.parseOffset ≤ self.inbuf.length := within
  split
  case isTrue ended =>
    simp only [findLineEnd] at ended
    simp only [findLineEnd, append, split]
    rw [takeWhile_append, if_neg (by omega)]
  case isFalse reached =>
    simp only [findLineEnd] at reached
    have all : ((self.inbuf.drop self.parseOffset).takeWhile (!endsLine ·)).length =
        (self.inbuf.drop self.parseOffset).length := by omega
    have finish : self.parseOffset +
        ((self.inbuf.drop self.parseOffset).takeWhile (!endsLine ·)).length =
          self.inbuf.length := by omega
    simp only [findLineEnd, append, split, finish]
    rw [takeWhile_append, if_pos all, drop_left, length_append]
    congr 1
    omega

theorem trim_append :
    (self.append bytes).trimLeadingWhitespace =
      (self.trimLeadingWhitespace.append bytes).trimLeadingWhitespace := by
  unfold trimLeadingWhitespace
  by_cases fresh : self.parseOffset = 0
  · simp only [fresh, append, if_true]
    rw [dropWhile_append, dropWhile_append, dropWhile_idempotent]
  · simp [append, fresh]

theorem trim_append_of_filled {self : LineReader Time}
    (filled : self.trimLeadingWhitespace.inbuf ≠ []) :
    (self.append bytes).trimLeadingWhitespace = self.trimLeadingWhitespace.append bytes := by
  unfold trimLeadingWhitespace at *
  by_cases fresh : self.parseOffset = 0
  · simp only [fresh, if_true] at filled
    simp only [fresh, append, if_true]
    rw [dropWhile_append, if_neg (by simpa using filled)]
  · simp [append, fresh]

theorem trim_within {self : LineReader Time} (within : self.Within) :
    self.trimLeadingWhitespace.Within := by
  unfold trimLeadingWhitespace
  split
  case isTrue fresh => simp [Within, fresh]
  case isFalse => exact within

theorem scan_append_of_lt {self : LineReader Time}
    (within : self.Within) (ended : self.scan.parseOffset < self.scan.inbuf.length) :
    (self.append bytes).scan = self.scan.append bytes := by
  have filled : self.trimLeadingWhitespace.inbuf ≠ [] := by
    intro empty
    simp [scan, findLineEnd, empty] at ended
  unfold scan
  rw [trim_append_of_filled bytes filled, findLineEnd_append bytes (trim_within within)]
  exact if_pos ended

theorem scan_append_of_ge {self : LineReader Time}
    (within : self.Within) (reached : self.scan.inbuf.length ≤ self.scan.parseOffset) :
    (self.append bytes).scan = (self.scan.append bytes).scan := by
  by_cases empty : self.trimLeadingWhitespace.inbuf = []
  · have none : ((self.trimLeadingWhitespace.inbuf.drop
        self.trimLeadingWhitespace.parseOffset).takeWhile (!endsLine ·)).length = 0 := by
      simp [empty]
    have stopped : self.scan = self.trimLeadingWhitespace := by
      unfold scan findLineEnd
      rw [none]
      rfl
    rw [stopped]
    unfold scan
    rw [trim_append]
  · have position : self.scan.parseOffset ≠ 0 := ne_of_gt (scan_parseOffset_pos empty)
    have trimmed : (self.scan.append bytes).trimLeadingWhitespace = self.scan.append bytes :=
      if_neg position
    have resumed : (self.scan.append bytes).scan =
        (self.scan.append bytes).findLineEnd := congrArg findLineEnd trimmed
    rw [resumed]
    unfold scan
    rw [trim_append_of_filled bytes empty, findLineEnd_append bytes (trim_within within)]
    exact if_neg (not_lt.mpr reached)

theorem scan_parseOffset_le_append {self : LineReader Time} (within : self.Within) :
    self.scan.parseOffset ≤ (self.append bytes).scan.parseOffset := by
  by_cases ended : self.scan.parseOffset < self.scan.inbuf.length
  · rw [scan_append_of_lt bytes within ended]
    exact le_refl _
  · rw [scan_append_of_ge bytes within (not_lt.mp ended)]
    by_cases fresh : self.scan.parseOffset = 0
    · rw [fresh]
      exact zero_le _
    · have trimmed : (self.scan.append bytes).trimLeadingWhitespace = self.scan.append bytes :=
        if_neg fresh
      have resumed : (self.scan.append bytes).scan =
          (self.scan.append bytes).findLineEnd := congrArg findLineEnd trimmed
      rw [resumed]
      exact le_add_right _ _

theorem processLine_append {self : LineReader Time} (bytes : List UInt8) (within : self.Within) :
    (self.append bytes).processLine handling = (self.processLine handling).append bytes := by
  have room : self.parseOffset ≤ self.inbuf.length := within
  have consumed : (self.append bytes).consumeLine = self.consumeLine.append bytes := by
    simp only [consumeLine, append]
    rw [drop_append_of_le_length room]
  unfold processLine
  rw [consumed]
  simp only [append_inbuf, append_parseOffset, take_append_of_le_length room]
  split
  · rfl
  · rw [handleLine_eq handling _ (self.consumeLine.append bytes),
      handleLine_eq handling _ self.consumeLine]
    rfl

theorem parseLines_inbuf_length_le (partialData : Bool) (self : LineReader Time) :
    (parseLines handling partialData self).2.inbuf.length ≤ self.inbuf.length := by
  induction size : self.inbuf.length using Nat.strongRecOn generalizing self with
  | _ size ih =>
    subst size
    rw [parseLines_eq]
    split
    case isTrue => exact self.scan_inbuf_length_le
    case isFalse =>
      split
      case isTrue => exact self.scan_inbuf_length_le
      case isFalse found =>
        have shorter : (self.scan.processLine handling).inbuf.length <
            self.inbuf.length := by
          rw [processLine_inbuf]
          exact consumeLine_length_lt (Bool.eq_false_iff.mpr found)
        exact le_trans (ih _ shorter _ rfl) (le_of_lt shorter)

theorem parseLines_append {handling : LineHandling Time} {self : LineReader Time}
    (bytes : List UInt8) (partialData : Bool) (within : self.Within) :
    (parseLines handling true self).2.Within ∧
    ((parseLines handling true self).1 = true →
      10000 < (parseLines handling true self).2.parseOffset ∧
      (parseLines handling partialData (self.append bytes)).1 = true) ∧
    ((parseLines handling true self).1 = false →
      parseLines handling partialData (self.append bytes) =
        parseLines handling partialData ((parseLines handling true self).2.append bytes)) := by
  induction size : self.inbuf.length using Nat.strongRecOn generalizing self with
  | _ size ih =>
    subst size
    rw [parseLines_eq handling true self]
    split
    case isTrue tooLong =>
      have offset : 10000 < self.scan.parseOffset := by simpa [lineTooLong] using tooLong
      have later := scan_parseOffset_le_append bytes within
      refine ⟨scan_within within, fun _ => ⟨offset, ?_⟩, fun fine => by cases fine⟩
      rw [parseLines_eq, if_pos]
      simpa [lineTooLong] using lt_of_lt_of_le offset later
    case isFalse fits =>
      split
      case isTrue atEnd =>
        have reached : self.scan.inbuf.length ≤ self.scan.parseOffset := by
          simpa [LineReader.atEnd] using atEnd
        refine ⟨scan_within within, fun error => absurd error Bool.false_ne_true, fun _ => ?_⟩
        rw [parseLines_eq, scan_append_of_ge bytes within reached]
        exact (parseLines_eq handling partialData _).symm
      case isFalse found =>
        have ended : self.scan.parseOffset < self.scan.inbuf.length := by
          simpa [LineReader.atEnd] using found
        have shorter : (self.scan.processLine handling).inbuf.length <
            self.inbuf.length := by
          rw [processLine_inbuf]
          exact @consumeLine_length_lt _ _ true (by simpa using found)
        have next : parseLines handling partialData (self.append bytes) =
            parseLines handling partialData ((self.scan.processLine handling).append bytes) := by
          have tooLong : (self.scan.append bytes).lineTooLong = false :=
            Bool.eq_false_iff.mpr fits
          have inside : (self.scan.append bytes).atEnd partialData = false := by
            have room : ¬ self.scan.inbuf.length + bytes.length ≤ self.scan.parseOffset := by
              omega
            simp [LineReader.atEnd, room]
          rw [parseLines_eq, scan_append_of_lt bytes within ended, tooLong, inside,
            processLine_append handling bytes (scan_within within)]
          rfl
        rw [next]
        exact ih _ shorter (processLine_within handling _) rfl

theorem parseLines_append_of_tooLong {self : LineReader Time}
    (bytes : List UInt8) (partialData : Bool) (within : self.Within)
    (tooLong : 10000 < self.parseOffset) :
    (parseLines handling partialData (self.append bytes)).1 = true ∧
    (parseLines handling partialData (self.append bytes)).2.Within ∧
    10000 < (parseLines handling partialData (self.append bytes)).2.parseOffset := by
  have kept : (self.append bytes).trimLeadingWhitespace = self.append bytes :=
    if_neg (ne_of_gt (lt_trans (by decide) tooLong))
  have later : 10000 < (self.append bytes).scan.parseOffset := by
    rw [scan, kept]
    exact lt_of_lt_of_le tooLong (le_add_right _ _)
  have room : (self.append bytes).Within := by
    simp only [Within, append_inbuf, append_parseOffset, length_append]
    exact le_trans within (le_add_right _ _)
  rw [parseLines_eq, if_pos (by simpa [lineTooLong] using later)]
  exact ⟨rfl, scan_within room, later⟩

end LineReader

namespace CDirectoryListingParser

structure Ready (parser : CDirectoryListingParser Time) : Prop where
  known : parser.listingEncoding ≠ .unknown
  converted : parser.listingEncoding = .ebcdic → parser.converted = parser.inbuf.length
  within : parser.Within

def decode (encoding : ListingEncoding) (bytes : List UInt8) : List UInt8 :=
  if encoding = .ebcdic then bytes.map fromEbcdic else bytes

theorem decode_append (encoding : ListingEncoding) (first second : List UInt8) :
    decode encoding (first ++ second) = decode encoding first ++ decode encoding second := by
  unfold decode
  split
  · exact map_append
  · rfl

variable {self : CDirectoryListingParser Time} (handling : LineHandling Time)

theorem convertEncoding_append (ready : self.Ready) (bytes : List UInt8) :
    (self.append bytes).convertEncoding.toLineReader =
      self.toLineReader.append (decode self.listingEncoding bytes) ∧
    (self.append bytes).convertEncoding.listingEncoding = self.listingEncoding ∧
    (self.listingEncoding = .ebcdic → (self.append bytes).convertEncoding.converted =
        (self.append bytes).convertEncoding.inbuf.length) := by
  have known : (self.append bytes).listingEncoding ≠ .unknown := ready.known
  unfold convertEncoding
  rw [if_neg known]
  dsimp only
  split
  case isTrue ebcdic =>
    have ebcdic : self.listingEncoding = .ebcdic := ebcdic
    have converted := ready.converted ebcdic
    simp [append, LineReader.append, decode, ebcdic, converted]
  case isFalse normal =>
    have normal : self.listingEncoding ≠ .ebcdic := normal
    simp [append, LineReader.append, decode, normal]

theorem parseData_append {handling : LineHandling Time} {self : CDirectoryListingParser Time}
    (ready : self.Ready) (partialData : Bool) (bytes : List UInt8) :
    let lines := LineReader.parseLines handling partialData
      (self.toLineReader.append (decode self.listingEncoding bytes))
    let result := (self.append bytes).parseData handling partialData
    result.1 = !lines.1 ∧ result.2.toLineReader = lines.2 ∧
    result.2.listingEncoding = self.listingEncoding ∧ (lines.2.Within → result.2.Ready) := by
  obtain ⟨reader, encoding, converted⟩ := convertEncoding_append ready bytes
  have shrinks := LineReader.parseLines_inbuf_length_le handling partialData
    (self.append bytes).convertEncoding.toLineReader
  intro lines result
  have loop : LineReader.parseLines handling partialData
      (self.append bytes).convertEncoding.toLineReader = lines := by rw [reader]
  have kept : result.2.listingEncoding = self.listingEncoding := encoding
  have rest : result.2.toLineReader = lines.2 := congrArg Prod.snd loop
  have success : result.1 = !lines.1 :=
    congrArg (fun lines : Bool × LineReader Time => !lines.1) loop
  refine ⟨success, rest, kept, fun within => ⟨?_, fun ebcdic => ?_, ?_⟩⟩
  · rw [kept]
    exact ready.known
  · rw [kept] at ebcdic
    have clamped : result.2.converted =
        min (self.append bytes).convertEncoding.converted result.2.inbuf.length := rfl
    rw [clamped, converted ebcdic]
    exact min_eq_right shrinks
  · rw [rest]
    exact within

theorem processAddedData_append {handling : LineHandling Time}
    (ready : self.Ready) (bytes : List UInt8) :
    (self.append bytes).processAddedData handling =
      (self.append bytes).parseData handling true := by
  have within : ¬ (self.append bytes).inbuf.length < (self.append bytes).parseOffset := by
    have room : self.parseOffset ≤ self.inbuf.length := ready.within
    simp only [append, length_append]
    omega
  have known : ¬ ((self.append bytes).listingEncoding = .unknown ∧
      (self.append bytes).inbuf.length < 512) := fun guess => ready.known guess.1
  rw [processAddedData, if_neg within, if_neg known]

/-- How a parser that has received `bytes` in pieces relates to the one it was: either it
does with more bytes what the other does with all of them, or both have met a line that is
too long. -/
structure Received (handling : LineHandling Time) (first : CDirectoryListingParser Time)
    (bytes : List UInt8) (now : CDirectoryListingParser Time) : Prop where
  ready : now.Ready
  encoding : now.listingEncoding = first.listingEncoding
  progress :
    (∀ more, LineReader.parseLines handling false
        (now.toLineReader.append (decode first.listingEncoding more)) =
      LineReader.parseLines handling false
        (first.toLineReader.append (decode first.listingEncoding (bytes ++ more)))) ∨
    (10000 < now.parseOffset ∧ ∀ more, (LineReader.parseLines handling false
        (first.toLineReader.append (decode first.listingEncoding (bytes ++ more)))).1 = true)

/-- The bytes that `ProcessAddedData` is called for one after the other. -/
def receive (handling : LineHandling Time) (self : CDirectoryListingParser Time)
    (chunks : List (List UInt8)) : CDirectoryListingParser Time :=
  chunks.foldl (fun self chunk => ((self.append chunk).processAddedData handling).2) self

theorem Received.step {handling : LineHandling Time} {first now : CDirectoryListingParser Time}
    {bytes : List UInt8} (received : Received handling first bytes now) (chunk : List UInt8) :
    Received handling first (bytes ++ chunk)
      ((now.append chunk).processAddedData handling).2 := by
  obtain ⟨ready, encoding, progress⟩ := received
  rw [processAddedData_append ready]
  obtain ⟨-, reader, kept, next⟩ := @parseData_append Time handling now ready true chunk
  rw [encoding] at reader kept next
  have room : (now.toLineReader.append (decode first.listingEncoding chunk)).Within := by
    have within : now.parseOffset ≤ now.inbuf.length := ready.within
    simp only [LineReader.Within, LineReader.append_inbuf, LineReader.append_parseOffset,
      length_append]
    omega
  have offset := congrArg LineReader.parseOffset reader
  rcases progress with equal | ⟨tooLong, failed⟩
  · have split := fun more => @LineReader.parseLines_append Time handling _
      (decode first.listingEncoding more) false room
    refine ⟨next (split []).1, kept, ?_⟩
    have whole : ∀ more, LineReader.parseLines handling false
        ((now.toLineReader.append (decode first.listingEncoding chunk)).append
          (decode first.listingEncoding more)) =
        LineReader.parseLines handling false (first.toLineReader.append
            (decode first.listingEncoding (bytes ++ chunk ++ more))) := by
      intro more
      rw [LineReader.append_append, ← decode_append, equal, append_assoc]
    rw [reader]
    cases failure : (LineReader.parseLines handling true
      (now.toLineReader.append (decode first.listingEncoding chunk))).1 with
    | true =>
      refine .inr ⟨((split []).2.1 failure).1, fun more => ?_⟩
      rw [← whole]
      exact ((split more).2.1 failure).2
    | false =>
      refine .inl fun more => ?_
      rw [← whole]
      exact ((split more).2.2 failure).symm
  · obtain ⟨_, within, still⟩ := LineReader.parseLines_append_of_tooLong handling
      (decode first.listingEncoding chunk) true ready.within tooLong
    refine ⟨next within, kept, .inr ⟨?_, fun more => ?_⟩⟩
    · rw [offset]
      exact still
    · rw [append_assoc]
      exact failed _

theorem receive_received {first : CDirectoryListingParser Time}
    (ready : first.Ready) (chunks : List (List UInt8)) :
    Received handling first chunks.flatten (first.receive handling chunks) := by
  induction chunks using reverseRecOn with
  | nil =>
    exact ⟨ready, rfl, .inl fun more => rfl⟩
  | append_singleton chunks chunk ih =>
    have next := ih.step chunk
    simpa [receive, foldl_append] using next

theorem parse_append (path : CServerPath) (ready : self.Ready) (bytes : List UInt8) :
    (self.append bytes).parse handling path =
      let lines := LineReader.parseLines handling false
        (self.toLineReader.append (decode self.listingEncoding bytes))
      if lines.1 then { path, failed := true }
      else { path, entries := lines.2.lineState.entries ++
              lines.2.lineState.fileList.map nameOnly } := by
  obtain ⟨success, reader, -, -⟩ := @parseData_append Time handling self ready false bytes
  unfold parse
  dsimp only at *
  rw [success, reader, Bool.not_not]

theorem parse_receive_of_ready (path : CServerPath)
    {first : CDirectoryListingParser Time} (ready : first.Ready) (chunks : List (List UInt8)) :
    (first.receive handling chunks).parse handling path =
      (first.append chunks.flatten).parse handling path := by
  have received := receive_received handling ready chunks
  have whole := parse_append handling path ready chunks.flatten
  have rest := parse_append handling path received.ready []
  have nothing : (first.receive handling chunks).append [] =
      first.receive handling chunks := by simp [append]
  rw [nothing, received.encoding] at rest
  rw [rest, whole]
  rcases received.progress with equal | ⟨tooLong, failed⟩
  · rw [equal [], append_nil]
  · have stuck := LineReader.parseLines_append_of_tooLong handling
      (decode first.listingEncoding []) false received.ready.within tooLong
    have error := failed []
    rw [append_nil] at error
    simp only [stuck.1, error, if_true]

theorem withEncoding_ready {encoding : ListingEncoding} (known : encoding ≠ .unknown) :
    (withEncoding encoding : CDirectoryListingParser Time).Ready :=
  ⟨known, fun _ => rfl, le_refl 0⟩

/-- Parsing a listing as it arrives gives what parsing all of it at once gives. -/
theorem parse_receive (handling : LineHandling Time) (path : CServerPath)
    {encoding : ListingEncoding} (known : encoding ≠ .unknown) (chunks : List (List UInt8)) :
    ((withEncoding encoding).receive handling chunks).parse handling path =
      ((withEncoding encoding).append chunks.flatten).parse handling path :=
  parse_receive_of_ready handling path (withEncoding_ready known) chunks

def lineNames : LineHandling Unit where
  convToLocal bytes := bytes.map UInt8.toNat
  parseLine line _ state :=
    (true, { state with entries := state.entries ++ [nameOnly line.text] })

theorem parse_receive_ebcdic :
    let path : CServerPath := { data := none, type := .unix }
    ((withEncoding .ebcdic).receive lineNames [[0x81, 0x82], [], [0x15, 0x83]]).parse
        lineNames path =
      ((withEncoding .ebcdic).append [0x81, 0x82, 0x15, 0x83]).parse lineNames path :=
  parse_receive lineNames _ (by decide) [[0x81, 0x82], [], [0x15, 0x83]]

end CDirectoryListingParser

end FileZilla
