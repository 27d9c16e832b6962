import FileZilla.Engine.Ftp.Replies

namespace FileZilla

open List

namespace Ftp

variable {σ : Type}

open Receiver

/-- The runs that are followed by a line end, without the empty ones and up to the first run
that is too long, and whether there is one that is. -/
def referenceLines : List (List UInt8) → List (List UInt8) × Bool
  | [] => ([], false)
  | [run] => ([], decide (maxLength ≤ run.length))
  | run :: runs =>
    if maxLength ≤ run.length then ([], true)
    else
      let (lines, tooLong) := referenceLines runs
      (if run = [] then lines else run :: lines, tooLong)

/-- The line is not the last one of the reply that `first` opens. -/
def continues (first line : WString) : Bool :=
  line.take 4 ≠ first.take 3 ++ [32]

/-- The replies of lines of more than three characters, up to the first reply that has too many
lines, and whether there is one. -/
def referenceReplies : List WString → List Reply × Bool
  | [] => ([], false)
  | first :: lines =>
    if first[3]? = some '-'.toNat then
      let inside := lines.takeWhile (continues first)
      if maxLines < inside.length + 1 then ([], true)
      else
        match _rest : lines.dropWhile (continues first) with
        | [] => ([], false)
        | last :: later =>
          let (replies, tooMany) := referenceReplies later
          (⟨last, first :: inside⟩ :: replies, tooMany)
    else
      let (replies, tooMany) := referenceReplies lines
      (⟨first, []⟩ :: replies, tooMany)
termination_by lines => lines.length
decreasing_by
  · have suffix := (lines.dropWhile_sublist (continues first)).length_le
    rw [_rest] at suffix
    simp only [List.length_cons] at suffix ⊢
    omega
  · simp

def referenceOutcome (convToLocal : List UInt8 → WString) (bytes : List UInt8) :
    List Reply × Option CloseReason :=
  let (lines, tooLong) := referenceLines (bytes.splitOnP endsLine)
  let (replies, tooMany) :=
    referenceReplies ((lines.map convToLocal).filter fun line => 3 < line.length)
  (replies, if tooMany then some .tooManyLines else if tooLong then some .tooLongLine else none)

namespace Receiver

def feedByte (handling : ReplyHandling σ) (self : Receiver σ) (byte : UInt8) : Receiver σ :=
  if self.closed.isSome then self
  else if endsLine byte then
    if self.receiveBuffer = [] then self
    else { self with receiveBuffer := [] }.parseLine handling
      (handling.convToLocal self.receiveBuffer)
  else if self.receiveBuffer.length + 1 = maxLength then self.doClose .tooLongLine
  else { self with receiveBuffer := self.receiveBuffer ++ [byte] }

variable {self : Receiver σ}

theorem foldl_feedByte_closed (handling : ReplyHandling σ) (closed : self.closed.isSome = true)
    (bytes : List UInt8) :
    bytes.foldl (feedByte handling) self = self := by
  induction bytes with
  | nil => rfl
  | cons byte bytes ih =>
    rw [foldl_cons, feedByte, if_pos closed]
    exact ih

/-- The rest of the buffer stays as it is unless the connection gets closed. -/
def withBuffer (rest : List UInt8) (self : Receiver σ) : Receiver σ :=
  if self.closed.isSome then self else { self with receiveBuffer := rest }

theorem present_withBuffer (handling : ReplyHandling σ) (response : WString) (self : Receiver σ)
    (opened : self.closed = none) (rest : List UInt8) :
    { self with receiveBuffer := rest }.present handling response =
      (({ self with receiveBuffer := [] } : Receiver σ).present handling response).withBuffer
        rest := by
  unfold present
  dsimp only
  cases handling.parseResponse ⟨response, self.multilineResponseLines⟩ self.operations with
  | none => rfl
  | some operations => simp [withBuffer, opened]

theorem parseReplyLine_withBuffer (handling : ReplyHandling σ) (line : WString)
    (self : Receiver σ) (opened : self.closed = none) (rest : List UInt8) :
    { self with receiveBuffer := rest }.parseReplyLine handling line =
      (({ self with receiveBuffer := [] } : Receiver σ).parseReplyLine handling line).withBuffer
        rest := by
  unfold parseReplyLine
  dsimp only
  split
  · simp [withBuffer, opened]
  split
  · split
    · have presents := present_withBuffer handling line
        { self with multilineResponseCode := [] } opened rest
      dsimp only at presents
      rw [presents]
      unfold withBuffer
      dsimp only
      split <;> rfl
    · split
      · simp [withBuffer, opened]
      · rfl
  · split
    · simp [withBuffer, opened]
    · exact present_withBuffer handling line self opened rest

theorem parseLine_withBuffer (handling : ReplyHandling σ) (line : WString) (self : Receiver σ)
    (opened : self.closed = none) (rest : List UInt8) :
    { self with receiveBuffer := rest }.parseLine handling line =
      (({ self with receiveBuffer := [] } : Receiver σ).parseLine handling line).withBuffer
        rest := by
  unfold parseLine
  dsimp only
  cases handling.parseLine line self.operations with
  | none => rfl
  | some operations =>
    exact parseReplyLine_withBuffer handling line { self with operations } opened rest

/-- What `onRead` does after the loop over the buffer -/
def checkLength (self : Receiver σ) : Receiver σ :=
  if self.closed = none ∧ self.receiveBuffer.length = maxLength then self.doClose .tooLongLine
  else self

theorem checkLength_closed (closed : self.closed.isSome = true) :
    self.checkLength = self := by
  unfold checkLength
  rw [if_neg]
  rintro ⟨opened, _⟩
  rw [opened] at closed
  cases closed

theorem checkLength_short (short : self.receiveBuffer.length < maxLength) :
    self.checkLength = self := by
  unfold checkLength
  rw [if_neg]
  rintro ⟨_, full⟩
  omega

theorem scan_inside (handling : ReplyHandling σ) {byte : UInt8} {before rest : List UInt8}
    (whole : self.receiveBuffer = before ++ byte :: rest) :
    self.scan handling before.length =
      if endsLine byte then
        if before = [] then { self with receiveBuffer := rest }.scan handling 0
        else
          let parsed := { self with receiveBuffer := rest }.parseLine handling
            (handling.convToLocal before)
          if parsed.closed.isSome then parsed else parsed.scan handling 0
      else self.scan handling (before.length + 1) := by
  have inside : before.length < self.receiveBuffer.length := by simp [whole]
  have found : self.receiveBuffer[before.length] = byte := by simp [whole]
  rw [scan, dif_pos inside, found]
  by_cases ends : endsLine byte
  · rw [if_pos ends, if_pos ends]
    cases before with
    | nil => simp [whole]
    | cons first before =>
      have dropped : self.receiveBuffer.drop ((first :: before).length + 1) = rest := by
        simp [whole]
      have taken : self.receiveBuffer.take (first :: before).length = first :: before := by
        simp [whole]
      have some : (first :: before).length ≠ 0 := by simp
      rw [if_neg some, if_neg (cons_ne_nil _ _), dropped, taken]
  · rw [if_neg ends, if_neg ends]

theorem scan_end (handling : ReplyHandling σ) (self : Receiver σ) :
    self.scan handling self.receiveBuffer.length = self := by
  rw [scan, dif_neg (Nat.lt_irrefl _)]

theorem scan_eq_foldl (handling : ReplyHandling σ) (rest : List UInt8) (self : Receiver σ)
    (opened : self.closed = none) (short : self.receiveBuffer.length < maxLength)
    (fits : self.receiveBuffer.length + rest.length ≤ maxLength) :
    (({ self with receiveBuffer := self.receiveBuffer ++ rest } : Receiver σ).scan handling
      self.receiveBuffer.length).checkLength = rest.foldl (feedByte handling) self := by
  induction rest generalizing self with
  | nil =>
    rw [append_nil, scan_end, checkLength_short short]
    rfl
  | cons byte rest ih =>
    rw [scan_inside handling rfl, foldl_cons, feedByte]
    rw [length_cons] at fits
    rw [if_neg (by simp [opened] : ¬ self.closed.isSome = true)]
    by_cases ends : endsLine byte
    · rw [if_pos ends, if_pos ends]
      by_cases empty : self.receiveBuffer = []
      · rw [if_pos empty, if_pos empty]
        have next := ih self opened short (by omega)
        rw [empty] at next
        exact next
      · rw [if_neg empty, if_neg empty]
        have parses := parseLine_withBuffer handling (handling.convToLocal self.receiveBuffer)
          self opened rest
        rw [parses]
        have cleared := parseLine_receiveBuffer handling
          (handling.convToLocal self.receiveBuffer) { self with receiveBuffer := [] }
        generalize ({ self with receiveBuffer := [] } : Receiver σ).parseLine handling
          (handling.convToLocal self.receiveBuffer) = parsed at cleared ⊢
        have bare : parsed.receiveBuffer = [] := length_eq_zero_iff.mp (by simpa using cleared)
        unfold withBuffer
        by_cases closed : parsed.closed.isSome = true
        · rw [if_pos closed, if_pos closed, checkLength_closed closed,
            foldl_feedByte_closed handling closed]
        · rw [if_neg closed, if_neg closed]
          have next := ih parsed (by simpa using closed) (by rw [bare]; decide)
            (by rw [bare]; simp; omega)
          rw [bare] at next
          exact next
    · rw [if_neg ends, if_neg ends]
      have extended : self.receiveBuffer ++ byte :: rest =
          (self.receiveBuffer ++ [byte]) ++ rest := by simp
      split
      case isTrue full =>
        have nothing : rest = [] := length_eq_zero_iff.mp (by omega)
        subst nothing
        have last := scan_end handling
          ({ self with receiveBuffer := self.receiveBuffer ++ [byte] } : Receiver σ)
        rw [length_append, length_singleton] at last
        rw [last, foldl_nil]
        unfold checkLength
        rw [if_pos ⟨opened, by simpa using full⟩]
        rfl
      case isFalse more =>
        have next := ih { self with receiveBuffer := self.receiveBuffer ++ [byte] } opened
          (by simp; omega) (by simp; omega)
        rw [length_append, length_singleton] at next
        rw [extended]
        exact next

def Ready (self : Receiver σ) : Prop :=
  self.closed = none → self.receiveBuffer.length < maxLength

theorem feedByte_ready (handling : ReplyHandling σ) (ready : self.Ready) (byte : UInt8) :
    (self.feedByte handling byte).Ready := by
  unfold feedByte
  split
  · exact ready
  case isFalse opened =>
    have short := ready (by simpa using opened)
    split
    · split
      · exact ready
      · intro _
        have cleared := parseLine_receiveBuffer handling
          (handling.convToLocal self.receiveBuffer) { self with receiveBuffer := [] }
        exact Nat.lt_of_le_of_lt cleared (show 0 < maxLength by decide)
    · split
      · exact fun never => by cases never
      case isFalse more =>
        intro _
        rw [length_append, length_singleton]
        omega

theorem foldl_feedByte_ready (handling : ReplyHandling σ) (bytes : List UInt8)
    (ready : self.Ready) : (bytes.foldl (feedByte handling) self).Ready := by
  induction bytes generalizing self with
  | nil => exact ready
  | cons byte bytes ih => exact ih (feedByte_ready handling ready byte)

theorem onReceive_eq_foldl (handling : ReplyHandling σ) (arrived : List UInt8)
    (ready : self.Ready) :
    self.onReceive handling arrived = arrived.foldl (feedByte handling) self := by
  induction arrived, self using onReceive.induct handling with
  | case1 arrived self done =>
    rw [onReceive, if_pos done]
    rcases done with closed | nothing
    · rw [foldl_feedByte_closed handling closed]
    · rw [nothing]
      rfl
  | case2 arrived self more toRead full =>
    have opened : self.closed = none := by simpa using (not_or.mp more).1
    have short := ready opened
    have room : maxLength - self.receiveBuffer.length = 0 := full
    omega
  | case3 arrived self more toRead room ih =>
    have opened : self.closed = none := by simpa using (not_or.mp more).1
    have short := ready opened
    have read : self.onRead handling (arrived.take toRead) =
        (arrived.take toRead).foldl (feedByte handling) self := by
      refine scan_eq_foldl handling _ self opened short ?_
      have taken := length_take_le toRead arrived
      have bound : toRead = maxLength - self.receiveBuffer.length := rfl
      omega
    rw [onReceive, if_neg more]
    dsimp only
    rw [if_neg room, ih (by rw [read]; exact foldl_feedByte_ready handling _ ready), read,
      ← foldl_append, take_append_drop]

theorem receive_eq_foldl (handling : ReplyHandling σ) (chunks : List (List UInt8))
    (ready : self.Ready) :
    self.receive handling chunks = chunks.flatten.foldl (feedByte handling) self := by
  unfold receive
  induction chunks generalizing self with
  | nil => rfl
  | cons chunk chunks ih =>
    rw [foldl_cons, onReceive_eq_foldl handling chunk ready,
      ih (foldl_feedByte_ready handling chunk ready), flatten_cons, foldl_append]

/-- `ParseLine` for all lines until the connection gets closed -/
def feedLines (handling : ReplyHandling σ) (lines : List WString) (self : Receiver σ) :
    Receiver σ :=
  lines.foldl (fun self line => if self.closed.isSome then self else self.parseLine handling line)
    self

theorem feedLines_closed (handling : ReplyHandling σ) (closed : self.closed.isSome = true)
    (lines : List WString) :
    self.feedLines handling lines = self := by
  unfold feedLines
  induction lines with
  | nil => rfl
  | cons line lines ih =>
    rw [foldl_cons, if_pos closed]
    exact ih

theorem feedLines_cons (handling : ReplyHandling σ) (self : Receiver σ)
    (opened : self.closed = none) (line : WString) (lines : List WString) :
    self.feedLines handling (line :: lines) =
      (self.parseLine handling line).feedLines handling lines := by
  unfold feedLines
  rw [foldl_cons, if_neg (by simp [opened])]

end Receiver

theorem referenceLines_cons {run : List UInt8} {runs : List (List UInt8)} (more : runs ≠ [])
    (short : run.length < maxLength) :
    referenceLines (run :: runs) =
      (if run = [] then (referenceLines runs).1 else run :: (referenceLines runs).1,
        (referenceLines runs).2) := by
  cases runs with
  | nil => exact absurd rfl more
  | cons next runs =>
    rw [referenceLines, if_neg (Nat.not_le.mpr short)]
    simp

theorem referenceLines_long {run : List UInt8} (runs : List (List UInt8))
    (long : maxLength ≤ run.length) : referenceLines (run :: runs) = ([], true) := by
  cases runs with
  | nil => simp [referenceLines, long]
  | cons next runs =>
    rw [referenceLines, if_pos long]
    simp

namespace Receiver

def closedAfter (self : Receiver σ) (tooLong : Bool) : Option CloseReason :=
  if self.closed.isSome then self.closed else if tooLong then some .tooLongLine else none

theorem foldl_feedByte_lines (handling : ReplyHandling σ) (bytes : List UInt8)
    (self : Receiver σ) (opened : self.closed = none)
    (short : self.receiveBuffer.length < maxLength) :
    let fed := bytes.foldl (feedByte handling) self
    let lines := referenceLines (bytes.splitOnPPrepend endsLine self.receiveBuffer.reverse)
    let fedLines := ({ self with receiveBuffer := [] } : Receiver σ).feedLines handling
      (lines.1.map handling.convToLocal)
    fed.presented = fedLines.presented ∧ fed.closed = fedLines.closedAfter lines.2 := by
  induction bytes generalizing self with
  | nil =>
    have fits : ¬ maxLength ≤ self.receiveBuffer.length := Nat.not_le.mpr short
    simp [referenceLines, feedLines, closedAfter, opened, fits]
  | cons byte bytes ih =>
    dsimp only at ih ⊢
    rw [foldl_cons, feedByte, if_neg (by simp [opened] : ¬ self.closed.isSome = true),
      splitOnPPrepend_cons_eq_if, reverse_reverse]
    by_cases ends : endsLine byte
    · rw [if_pos ends, if_pos ends, referenceLines_cons (splitOnP_ne_nil _ _) short]
      dsimp only
      by_cases empty : self.receiveBuffer = []
      · rw [if_pos empty, if_pos empty]
        have next := ih self opened short
        rw [empty] at next
        exact next
      · rw [if_neg empty, if_neg empty, map_cons,
          feedLines_cons handling { self with receiveBuffer := [] } opened]
        have cleared := parseLine_receiveBuffer handling
          (handling.convToLocal self.receiveBuffer) { self with receiveBuffer := [] }
        generalize ({ self with receiveBuffer := [] } : Receiver σ).parseLine handling
          (handling.convToLocal self.receiveBuffer) = parsed at cleared ⊢
        have bare : parsed.receiveBuffer = [] :=
          length_eq_zero_iff.mp (by simpa using cleared)
        by_cases closed : parsed.closed.isSome = true
        · rw [foldl_feedByte_closed handling closed, feedLines_closed handling closed]
          exact ⟨rfl, by rw [closedAfter, if_pos closed]⟩
        · have next := ih parsed (by simpa using closed) (by rw [bare]; decide)
          have same : ({ parsed with receiveBuffer := [] } : Receiver σ) = parsed := by
            rw [← bare]
          rw [same, bare] at next
          exact next
    · rw [if_neg ends, if_neg ends]
      split
      case isTrue full =>
        obtain ⟨run, runs, split, long⟩ : ∃ run runs,
            bytes.splitOnPPrepend endsLine (byte :: self.receiveBuffer.reverse) =
              run :: runs ∧ maxLength ≤ run.length := by
          obtain ⟨run, runs, split⟩ :=
            exists_cons_of_ne_nil (splitOnP_ne_nil endsLine bytes)
          refine ⟨_, _, by rw [splitOnPPrepend_eq_modifyHead, split]; rfl, ?_⟩
          simp
          omega
        have closed : (self.doClose .tooLongLine).closed.isSome = true := rfl
        rw [split, referenceLines_long runs long, foldl_feedByte_closed handling closed]
        simp [feedLines, closedAfter, opened, doClose]
      case isFalse more =>
        have next := ih { self with receiveBuffer := self.receiveBuffer ++ [byte] } opened
          (by simp; omega)
        rw [reverse_append, reverse_singleton] at next
        exact next

end Receiver

/-- The part of the receiver that does not depend on the operations -/
structure Assembly where
  code : WString := []
  lines : List WString := []
  presented : List Reply := []
  tooMany : Bool := false

namespace Assembly

def addLine (self : Assembly) (line : WString) : Assembly :=
  if self.tooMany then self
  else if self.code ≠ [] then
    if line.take 4 = self.code then { presented := self.presented ++ [⟨line, self.lines⟩] }
    else if self.lines.length < maxLines then
      { self with lines := self.lines ++ [line] }
    else { presented := self.presented, tooMany := true }
  else if (line)[3]? = some '-'.toNat then
    { self with code := line.take 3 ++ [32], lines := self.lines ++ [line] }
  else { self with presented := self.presented ++ [⟨line, self.lines⟩] }

theorem foldl_tooMany {self : Assembly} (tooMany : self.tooMany = true) (lines : List WString) :
    lines.foldl addLine self = self := by
  induction lines with
  | nil => rfl
  | cons line lines ih =>
    rw [foldl_cons, addLine, if_pos tooMany]
    exact ih

theorem foldl_inside (first : WString) (presented : List Reply) (lines known : List WString)
    (fits : known.length ≤ maxLines) :
    lines.foldl addLine { code := first.take 3 ++ [32], lines := known, presented } =
      let inside := lines.takeWhile (continues first)
      if maxLines < known.length + inside.length then { presented, tooMany := true }
      else
        match lines.dropWhile (continues first) with
        | [] => { code := first.take 3 ++ [32], lines := known ++ inside, presented }
        | last :: later =>
          later.foldl addLine { presented := presented ++ [⟨last, known ++ inside⟩] } := by
  induction lines generalizing known with
  | nil => simp [Nat.not_lt.mpr fits]
  | cons line lines ih =>
    have opened : first.take 3 ++ [32] ≠ [] := by simp
    rw [foldl_cons]
    by_cases more : continues first line = true
    · have different : line.take 4 ≠ first.take 3 ++ [32] := by simpa [continues] using more
      rw [takeWhile_cons_of_pos more, dropWhile_cons_of_pos more]
      by_cases room : known.length < maxLines
      · have added : addLine { code := first.take 3 ++ [32], lines := known, presented } line =
            { code := first.take 3 ++ [32], lines := known ++ [line], presented } := by
          simp [addLine, opened, different, room]
        rw [added, ih (known ++ [line]) (by simp; omega)]
        simp [Nat.add_assoc, Nat.add_comm 1]
      · have added : addLine { code := first.take 3 ++ [32], lines := known, presented } line =
            { presented, tooMany := true } := by
          simp [addLine, opened, different, room]
        rw [added, foldl_tooMany rfl]
        dsimp only
        rw [if_pos (by rw [length_cons]; omega)]
    · have last : line.take 4 = first.take 3 ++ [32] := by simpa [continues] using more
      rw [takeWhile_cons_of_neg more, dropWhile_cons_of_neg more]
      have added : addLine { code := first.take 3 ++ [32], lines := known, presented } line =
          { presented := presented ++ [⟨line, known⟩] } := by
        simp [addLine, last]
      rw [added]
      simp [Nat.not_lt.mpr fits]

theorem foldl_addLine (lines : List WString) (presented : List Reply) :
    let assembled := lines.foldl addLine { presented }
    assembled.presented = presented ++ (referenceReplies lines).1 ∧
      assembled.tooMany = (referenceReplies lines).2 := by
  induction size : lines.length using Nat.strongRecOn generalizing lines presented with
  | ind size ih =>
    cases lines with
    | nil => simp [referenceReplies]
    | cons first lines =>
      rw [length_cons] at size
      dsimp only at ih ⊢
      rw [foldl_cons, referenceReplies]
      by_cases opens : first[3]? = some '-'.toNat
      · have added : addLine { presented } first =
            { code := first.take 3 ++ [32], lines := [first], presented } := by
          simp [addLine, opens]
        rw [if_pos opens, added, foldl_inside first presented lines [first] (by simp [maxLines])]
        dsimp only
        rw [length_singleton, Nat.add_comm 1]
        split
        · simp
        · cases rest : lines.dropWhile (continues first) with
          | nil => simp
          | cons last later =>
            have suffix := (lines.dropWhile_sublist (continues first)).length_le
            rw [rest, length_cons] at suffix
            have next := ih later.length (by omega) later
              (presented ++ [⟨last, [first] ++ lines.takeWhile (continues first)⟩]) rfl
            dsimp only at next ⊢
            rw [next.1, next.2]
            simp
      · have added : addLine { presented } first =
            { presented := presented ++ [⟨first, []⟩] } := by
          unfold addLine
          rw [if_neg Bool.false_ne_true, if_neg fun some => some rfl, if_neg opens]
        have next := ih lines.length (by omega) lines (presented ++ [⟨first, []⟩]) rfl
        dsimp only at next ⊢
        rw [if_neg opens, added, next.1, next.2]
        simp

end Assembly

/-- No line and no reply makes the operations close the connection. -/
structure ReplyHandling.NeverCloses (handling : ReplyHandling σ) : Prop where
  line : ∀ line operations, handling.parseLine line operations ≠ none
  response : ∀ reply operations, handling.parseResponse reply operations ≠ none

namespace Receiver

def assembly (self : Receiver σ) : Assembly where
  code := self.multilineResponseCode
  lines := self.multilineResponseLines
  presented := self.presented
  tooMany := self.closed.isSome

section
variable {handling : ReplyHandling σ} (neverCloses : handling.NeverCloses)
include neverCloses

theorem present_eq (response : WString) (self : Receiver σ) :
    ∃ operations, self.present handling response =
      { self with
        operations
        presented := self.presented ++ [⟨response, self.multilineResponseLines⟩] } := by
  unfold present
  dsimp only
  cases next : handling.parseResponse ⟨response, self.multilineResponseLines⟩ self.operations with
  | none => exact absurd next (neverCloses.response _ _)
  | some operations => exact ⟨operations, rfl⟩

theorem parseReplyLine_assembly (line : WString) (self : Receiver σ)
    (opened : self.closed = none) :
    (self.parseReplyLine handling line).assembly =
        (if 3 < line.length then self.assembly.addLine line else self.assembly) ∧
      ∀ reason ∈ (self.parseReplyLine handling line).closed, reason = .tooManyLines := by
  have never : ∀ reason ∈ self.closed, reason = .tooManyLines := by
    rw [opened]
    exact fun _ reason => by cases reason
  have running : ¬ self.assembly.tooMany = true := by simp [assembly, opened]
  unfold parseReplyLine
  by_cases short : line.length ≤ 3
  · rw [if_pos short, if_neg (Nat.not_lt.mpr short)]
    exact ⟨rfl, never⟩
  rw [if_neg short, if_pos (Nat.not_le.mp short), Assembly.addLine, if_neg running]
  by_cases inside : self.multilineResponseCode ≠ []
  · rw [if_pos inside, if_pos (show self.assembly.code ≠ [] from inside)]
    by_cases last : line.take 4 = self.multilineResponseCode
    · rw [if_pos last, if_pos (show line.take 4 = self.assembly.code from last)]
      obtain ⟨operations, presents⟩ :=
        present_eq neverCloses line { self with multilineResponseCode := [] }
      dsimp only
      rw [presents]
      exact ⟨by simp [assembly, opened], never⟩
    · rw [if_neg last, if_neg (show ¬ line.take 4 = self.assembly.code from last)]
      by_cases room : self.multilineResponseLines.length < maxLines
      · rw [if_pos room, if_pos (show self.assembly.lines.length < maxLines from room)]
        exact ⟨rfl, never⟩
      · rw [if_neg room, if_neg (show ¬ self.assembly.lines.length < maxLines from room)]
        exact ⟨rfl, fun _ reason => (Option.some.inj reason).symm⟩
  · rw [if_neg inside, if_neg (show ¬ self.assembly.code ≠ [] from inside)]
    by_cases opens : (line)[3]? = some '-'.toNat
    · rw [if_pos opens, if_pos opens]
      exact ⟨rfl, never⟩
    · rw [if_neg opens, if_neg opens]
      obtain ⟨operations, presents⟩ := present_eq neverCloses line self
      rw [presents]
      exact ⟨rfl, never⟩

theorem parseLine_assembly (line : WString) {self : Receiver σ} (opened : self.closed = none) :
    (self.parseLine handling line).assembly =
        (if 3 < line.length then self.assembly.addLine line else self.assembly) ∧
      ∀ reason ∈ (self.parseLine handling line).closed, reason = .tooManyLines := by
  unfold parseLine
  cases next : handling.parseLine line self.operations with
  | none => exact absurd next (neverCloses.line _ _)
  | some operations =>
    exact parseReplyLine_assembly neverCloses line { self with operations } opened

theorem feedLines_assembly (lines : List WString) (self : Receiver σ)
    (reasons : ∀ reason ∈ self.closed, reason = .tooManyLines) :
    (self.feedLines handling lines).assembly =
        (lines.filter fun line => 3 < line.length).foldl Assembly.addLine self.assembly ∧
      ∀ reason ∈ (self.feedLines handling lines).closed, reason = .tooManyLines := by
  induction lines generalizing self with
  | nil => exact ⟨rfl, reasons⟩
  | cons line lines ih =>
    by_cases closed : self.closed.isSome = true
    · rw [feedLines_closed handling closed,
        Assembly.foldl_tooMany (show self.assembly.tooMany = true from closed)]
      exact ⟨rfl, reasons⟩
    · have opened : self.closed = none := by simpa using closed
      obtain ⟨added, next⟩ := parseLine_assembly neverCloses line opened
      rw [feedLines_cons handling self opened]
      have rest := ih (self.parseLine handling line) next
      rw [added] at rest
      by_cases long : 3 < line.length
      · rw [if_pos long] at rest
        rw [filter_cons_of_pos (by simpa using long)]
        exact rest
      · rw [if_neg long] at rest
        rw [filter_cons_of_neg (by simpa using long)]
        exact rest

/-- The replies that the operations get, and the reason for closing the connection, are those
of the stream, however it is split over reads. -/
theorem receive_reference (operations : σ) (chunks : List (List UInt8)) :
    ((receive handling chunks { operations }).presented,
      (receive handling chunks { operations }).closed) =
      referenceOutcome handling.convToLocal chunks.flatten := by
  have opened : ({ operations } : Receiver σ).closed = none := rfl
  have room : ({ operations } : Receiver σ).receiveBuffer.length < maxLength :=
    show 0 < maxLength by decide
  obtain ⟨presented, closed⟩ := foldl_feedByte_lines handling chunks.flatten _ opened room
  rw [receive_eq_foldl handling chunks fun _ => room, presented, closed]
  unfold referenceOutcome
  rw [splitOnP_eq_splitOnPPrepend, reverse_nil]
  dsimp only
  obtain ⟨assembled, reasons⟩ := feedLines_assembly neverCloses
    ((referenceLines (chunks.flatten.splitOnPPrepend endsLine [])).1.map handling.convToLocal)
    { operations } fun _ reason => by cases reason
  have replies := Assembly.foldl_addLine
    (((referenceLines (chunks.flatten.splitOnPPrepend endsLine [])).1.map
      handling.convToLocal).filter fun line => 3 < line.length) []
  have start : ({ operations } : Receiver σ).assembly = { presented := [] } := rfl
  dsimp only at replies
  rw [start] at assembled
  rw [← assembled, nil_append] at replies
  refine Prod.ext replies.1 ?_
  dsimp only
  rw [← replies.2]
  unfold closedAfter
  generalize feedLines handling _ _ = fed at reasons ⊢
  cases reason : fed.closed with
  | none => simp [assembly, reason]
  | some why =>
    rw [reasons why reason]
    simp [assembly, reason]

end

def countReplies : ReplyHandling Nat where
  convToLocal bytes := bytes.map UInt8.toNat
  parseLine _ count := some count
  parseResponse _ count := some (count + 1)

theorem receive_reference_split :
    let chunks := ["220-a\r", "\nb\r\n2", "20", " c\r\n331 d\r"].map
      fun text => text.toList.map fun char => UInt8.ofNat char.toNat
    let received := receive countReplies chunks { operations := 0 }
    (received.presented, received.closed) =
      referenceOutcome countReplies.convToLocal chunks.flatten :=
  receive_reference ⟨fun _ _ => Option.some_ne_none _, fun _ _ => Option.some_ne_none _⟩ 0 _

end Receiver

end Ftp

end FileZilla
