import FileZilla.Engine.Ftp.LogonConsent
import FileZilla.Engine.Ftp.ReplyAssembly

namespace FileZilla

open List

namespace Ftp

open Receiver Option

open Iff (rfl)

namespace Receiver

variable {σ : Type}

/-- Operations that keep nothing -/
def silent (convToLocal : List UInt8 → WString) : ReplyHandling Unit where
  convToLocal := convToLocal
  parseLine _ _ := some ()
  parseResponse _ _ := some ()

theorem silent_neverCloses (convToLocal : List UInt8 → WString) :
    (silent convToLocal).NeverCloses where
  line _ _ := some_ne_none _
  response _ _ := some_ne_none _

def withOperations {τ : Type} (operations : τ) (self : Receiver σ) : Receiver τ :=
  { self with operations }

/-- The receiver does what one does whose operations keep nothing, or has closed the connection,
and the operations are as they were unless one of the new replies matters to them. -/
structure Follows (Idle : Reply → Prop) (known : List Reply) (operations : σ)
    (receiver : Receiver σ) (plain : Receiver Unit) : Prop where
  same : receiver.closed.isSome = true ∨ receiver = plain.withOperations receiver.operations
  grows : ∃ new, receiver.presented = known ++ new
  idle : ∀ new, receiver.presented = known ++ new → (∀ reply ∈ new, Idle reply) →
    receiver.closed = none → receiver.operations = operations

variable {handling : ReplyHandling σ} {Idle : Reply → Prop} {known : List Reply}
  {operations : σ} {self : Receiver σ} {plain : Receiver Unit}

namespace Follows

theorem step (follows : Follows Idle known operations self plain) {next : Receiver σ}
    {plainNext : Receiver Unit}
    (same : next.closed.isSome = true ∨ next = plainNext.withOperations next.operations)
    (presented : next.presented = self.presented)
    (opened : next.closed = none → self.closed = none)
    (kept : next.closed = none → self.operations = operations → next.operations = operations) :
    Follows Idle known operations next plainNext where
  same := same
  grows := presented ▸ follows.grows
  idle new whole harmless running :=
    kept running (follows.idle new (presented ▸ whole) harmless (opened running))

theorem ite {condition plainCondition : Prop} [Decidable condition] [Decidable plainCondition]
    (same : condition ↔ plainCondition) {yes no : Receiver σ} {plainYes plainNo : Receiver Unit}
    (positive : condition → Follows Idle known operations yes plainYes)
    (negative : ¬ condition → Follows Idle known operations no plainNo) :
    Follows Idle known operations (if condition then yes else no)
      (if plainCondition then plainYes else plainNo) := by
  rcases Classical.em condition with holds | fails
  · rw [if_pos holds, if_pos (same.mp holds)]
    exact positive holds
  · rw [if_neg fails, if_neg fun plain => fails (same.mpr plain)]
    exact negative fails

theorem present (follows : Follows Idle known operations self plain)
    (response : ∀ reply, Idle reply → handling.parseResponse reply operations = some operations)
    (opened : self.closed = none) (text : WString) :
    Follows Idle known operations (self.present handling text)
      (plain.present (silent handling.convToLocal) text) := by
  have same := follows.same.resolve_left (by simp [opened])
  obtain ⟨before, presented⟩ := follows.grows
  have grown : (self.present handling text).presented =
      known ++ (before ++ [⟨text, self.multilineResponseLines⟩]) := by
    unfold Receiver.present
    dsimp only
    split
    · change self.presented ++ _ = _
      rw [presented, append_assoc]
    · change self.presented ++ _ = _
      rw [presented, append_assoc]
  refine ⟨?_, ⟨_, grown⟩, fun new whole harmless running => ?_⟩
  · unfold Receiver.present
    dsimp only
    split
    case h_1 => exact .inl rfl
    case h_2 next _ =>
      refine .inr ?_
      rw [same]
      rfl
  · obtain rfl := append_cancel_left (whole.symm.trans grown)
    have idle := follows.idle before presented
      (fun reply member => harmless reply (mem_append_left _ member)) opened
    have last := response _ (harmless _ (mem_append_right _ (mem_singleton_self _)))
    unfold Receiver.present
    dsimp only
    rw [idle, last]

theorem parseReplyLine (follows : Follows Idle known operations self plain)
    (response : ∀ reply, Idle reply → handling.parseResponse reply operations = some operations)
    (opened : self.closed = none) (text : WString) :
    Follows Idle known operations (self.parseReplyLine handling text)
      (plain.parseReplyLine (silent handling.convToLocal) text) := by
  obtain ⟨current, rfl⟩ : ∃ current, self = plain.withOperations current :=
    ⟨_, follows.same.resolve_left (by simp [opened])⟩
  unfold parseReplyLine
  refine .ite rfl (fun _ => follows) fun _ => .ite rfl (fun _ => ?_) fun _ => ?_
  · refine .ite rfl (fun _ => ?_) fun _ => .ite rfl (fun _ => ?_) fun _ => ?_
    · have cleared : Follows Idle known operations
          (({ plain with multilineResponseCode := [] } : Receiver Unit).withOperations current)
          { plain with multilineResponseCode := [] } :=
        follows.step (.inr rfl) rfl (fun _ => opened) fun _ kept => kept
      have presented := cleared.present response opened text
      refine presented.step ?_ rfl (fun running => running) fun _ kept => kept
      exact presented.same.imp_right fun later =>
        congrArg (fun receiver => { receiver with multilineResponseLines := [] }) later
    · exact follows.step (.inr rfl) rfl (fun _ => opened) fun _ kept => kept
    · exact follows.step (.inl rfl) rfl (fun _ => opened) fun _ kept => kept
  · refine .ite rfl (fun _ => ?_) fun _ => follows.present response opened text
    exact follows.step (.inr rfl) rfl (fun _ => opened) fun _ kept => kept

theorem parseLine (follows : Follows Idle known operations self plain)
    (line : ∀ text, handling.parseLine text operations = some operations)
    (response : ∀ reply, Idle reply → handling.parseResponse reply operations = some operations)
    (opened : self.closed = none) (text : WString) :
    Follows Idle known operations (self.parseLine handling text)
      (plain.parseLine (silent handling.convToLocal) text) := by
  have same := follows.same.resolve_left (by simp [opened])
  have plainParsed : plain.parseLine (silent handling.convToLocal) text =
      plain.parseReplyLine (silent handling.convToLocal) text := rfl
  rw [plainParsed]
  unfold Receiver.parseLine
  cases parsed : handling.parseLine text self.operations with
  | none => exact ⟨.inl rfl, follows.grows, fun _ _ _ running => by cases running⟩
  | some next =>
    have kept : Follows Idle known operations { self with operations := next } plain := by
      refine follows.step (.inr ?_) rfl (fun _ => opened) fun _ kept => ?_
      · rw [same]
        rfl
      · rw [kept, line] at parsed
        exact (some.inj parsed).symm
    exact kept.parseReplyLine response opened text

theorem feedByte (follows : Follows Idle known operations self plain)
    (line : ∀ text, handling.parseLine text operations = some operations)
    (response : ∀ reply, Idle reply →
      handling.parseResponse reply operations = some operations) (byte : UInt8) :
    Follows Idle known operations (self.feedByte handling byte)
      (plain.feedByte (silent handling.convToLocal) byte) := by
  rcases Classical.em (self.closed.isSome = true) with closed | running
  · have stays : self.feedByte handling byte = self := if_pos closed
    rw [stays]
    exact ⟨.inl closed, follows.grows, follows.idle⟩
  · have opened : self.closed = none := by simpa using running
    obtain ⟨current, rfl⟩ : ∃ current, self = plain.withOperations current :=
      ⟨_, follows.same.resolve_left running⟩
    refine .ite rfl (fun closed => absurd closed running) fun _ => ?_
    refine .ite rfl (fun _ => ?_) fun _ => ?_
    · refine .ite rfl (fun _ => follows) fun _ => ?_
      have cleared : Follows Idle known operations
          (({ plain with receiveBuffer := [] } : Receiver Unit).withOperations current)
          { plain with receiveBuffer := [] } :=
        follows.step (.inr rfl) rfl (fun _ => opened) fun _ kept => kept
      exact cleared.parseLine line response opened _
    · refine .ite rfl (fun _ => ?_) fun _ => ?_
      · exact follows.step (.inl rfl) rfl (fun _ => opened) fun _ kept => kept
      · exact follows.step (.inr rfl) rfl (fun _ => opened) fun _ kept => kept

theorem foldl_feedByte (follows : Follows Idle known operations self plain)
    (line : ∀ text, handling.parseLine text operations = some operations)
    (response : ∀ reply, Idle reply →
      handling.parseResponse reply operations = some operations) (bytes : List UInt8) :
    Follows Idle known operations (bytes.foldl (Receiver.feedByte handling) self)
      (bytes.foldl (Receiver.feedByte (silent handling.convToLocal)) plain) := by
  induction bytes generalizing self plain with
  | nil => exact follows
  | cons byte bytes ih => exact ih (follows.feedByte line response byte)

end Follows

theorem foldl_feedByte_left (handling : ReplyHandling σ) (bytes : List UInt8)
    (self : Receiver σ) (short : self.receiveBuffer.length < maxLength)
    (opened : (bytes.foldl (feedByte handling) self).closed = none) :
    (bytes.splitOnPPrepend endsLine self.receiveBuffer.reverse).getLast? =
        some (bytes.foldl (feedByte handling) self).receiveBuffer ∧
      { bytes.foldl (feedByte handling) self with receiveBuffer := [] } =
        ({ self with receiveBuffer := [] } : Receiver σ).feedLines handling
          ((referenceLines (bytes.splitOnPPrepend endsLine self.receiveBuffer.reverse)).1.map
            handling.convToLocal) := by
  induction bytes generalizing self with
  | nil => simp [referenceLines, feedLines]
  | cons byte bytes ih =>
    rw [foldl_cons] at opened ⊢
    have running : self.closed = none := by
      cases closed : self.closed with
      | none => rfl
      | some reason =>
        have stays : (self.feedByte handling byte) = self := if_pos (by simp [closed])
        rw [stays, foldl_feedByte_closed handling (by simp [closed]), closed] at opened
        cases opened
    rw [splitOnPPrepend_cons_eq_if, reverse_reverse]
    rw [feedByte, if_neg (by simp [running] : ¬ self.closed.isSome = true)] at opened ⊢
    split
    case isTrue ends =>
      rw [if_pos ends] at opened
      rw [referenceLines_cons (splitOnP_ne_nil _ _) short,
        getLast?_cons_of_ne_nil (splitOnP_ne_nil _ _)]
      dsimp only
      split
      case isTrue empty =>
        rw [if_pos empty] at opened
        have next := ih self short opened
        rw [empty] at next
        exact next
      case isFalse filled =>
        rw [if_neg filled] at opened
        rw [map_cons,
          feedLines_cons handling { self with receiveBuffer := [] } running]
        have cleared := parseLine_receiveBuffer handling
          (handling.convToLocal self.receiveBuffer) { self with receiveBuffer := [] }
        generalize ({ self with receiveBuffer := [] } : Receiver σ).parseLine handling
          (handling.convToLocal self.receiveBuffer) = parsed at cleared opened ⊢
        have bare : parsed.receiveBuffer = [] :=
          length_eq_zero_iff.mp (by simpa using cleared)
        have next := ih parsed (by rw [bare]; decide) opened
        have same : ({ parsed with receiveBuffer := [] } : Receiver σ) = parsed := by
          rw [← bare]
        rw [same, bare] at next
        exact next
    case isFalse inside =>
      rw [if_neg inside] at opened
      split
      case isTrue full =>
        rw [if_pos full, foldl_feedByte_closed handling rfl] at opened
        cases opened
      case isFalse more =>
        rw [if_neg more] at opened
        have next := ih { self with receiveBuffer := self.receiveBuffer ++ [byte] }
          (by simp; omega) opened
        rw [reverse_append, reverse_singleton] at next
        exact next

def Tidy (self : Receiver σ) : Prop :=
  self.multilineResponseCode = [] → self.multilineResponseLines = []

theorem present_tidy (tidy : self.Tidy) (response : WString) :
    (self.present handling response).Tidy := by
  unfold present
  dsimp only
  split
  · exact fun _ => rfl
  · exact tidy

theorem parseReplyLine_tidy (tidy : self.Tidy) (line : WString) :
    (self.parseReplyLine handling line).Tidy := by
  unfold parseReplyLine
  split
  · exact tidy
  · split
    case isTrue open_ =>
      split
      · exact fun _ => rfl
      · split
        · exact fun none => absurd none open_
        · exact fun _ => rfl
    case isFalse =>
      split
      · exact fun none => absurd none (by simp)
      · exact present_tidy tidy line

theorem parseLine_tidy (tidy : self.Tidy) (line : WString) :
    (self.parseLine handling line).Tidy := by
  unfold parseLine
  split
  · exact fun _ => rfl
  case h_2 next _ =>
    have kept : ({ self with operations := next } : Receiver σ).Tidy := tidy
    exact parseReplyLine_tidy kept line

theorem feedByte_tidy (tidy : self.Tidy) (byte : UInt8) : (self.feedByte handling byte).Tidy := by
  unfold feedByte
  split
  · exact tidy
  · split
    · split
      · exact tidy
      · have kept : ({ self with receiveBuffer := [] } : Receiver σ).Tidy := tidy
        exact parseLine_tidy kept _
    · split
      · exact fun _ => rfl
      · exact tidy

theorem foldl_feedByte_tidy (handling : ReplyHandling σ) (tidy : self.Tidy)
    (bytes : List UInt8) : (bytes.foldl (feedByte handling) self).Tidy := by
  induction bytes generalizing self with
  | nil => exact tidy
  | cons byte bytes ih => exact ih (feedByte_tidy tidy byte)

end Receiver

theorem Assembly.foldl_known (known : List Reply) (lines : List WString) (self : Assembly) :
    lines.foldl addLine { self with presented := known ++ self.presented } =
      { lines.foldl addLine self with
        presented := known ++ (lines.foldl addLine self).presented } := by
  induction lines generalizing self with
  | nil => rfl
  | cons line lines ih =>
    have added : addLine { self with presented := known ++ self.presented } line =
        { self.addLine line with presented := known ++ (self.addLine line).presented } := by
      unfold addLine
      dsimp only
      split
      · rfl
      · split
        · split
          · simp
          · split <;> rfl
        · split
          · rfl
          · simp
    rw [foldl_cons, foldl_cons, added]
    exact ih (self.addLine line)

def replyLines (convToLocal : List UInt8 → WString) (bytes : List UInt8) : List WString :=
  ((referenceLines (bytes.splitOnP endsLine)).1.map convToLocal).filter
    fun line => 3 < line.length

def Breaks (convToLocal : List UInt8 → WString) (bytes : List UInt8) : Prop :=
  (referenceLines (bytes.splitOnP endsLine)).2 = true ∨
    (referenceReplies (replyLines convToLocal bytes)).2 = true

open Assembly

/-- Every line is terminated, every reply of several lines is complete, and no reply matters. -/
structure Ignored (convToLocal : List UInt8 → WString) (Idle : Reply → Prop)
    (bytes : List UInt8) : Prop where
  terminated : (bytes.splitOnP endsLine).getLast? = some []
  complete : ((replyLines convToLocal bytes).foldl addLine {}).code = []
  idle : ∀ reply ∈ (referenceReplies (replyLines convToLocal bytes)).1, Idle reply

attribute [ext] Receiver

namespace Receiver

variable {σ : Type} {handling : ReplyHandling σ} {Idle : Reply → Prop} {self : Receiver σ}

theorem feed_silent {convToLocal : List UInt8 → WString} {bytes : List UInt8}
    {plain : Receiver Unit} (opened : plain.closed = none) (empty : plain.receiveBuffer = [])
    (code : plain.multilineResponseCode = []) (tidy : plain.Tidy)
    (running : (bytes.foldl (feedByte (silent convToLocal)) plain).closed = none) :
    ¬ Breaks convToLocal bytes ∧
      (bytes.splitOnP endsLine).getLast? =
        some (bytes.foldl (feedByte (silent convToLocal)) plain).receiveBuffer ∧
      (bytes.foldl (feedByte (silent convToLocal)) plain).multilineResponseCode =
        ((replyLines convToLocal bytes).foldl addLine {}).code ∧
      (bytes.foldl (feedByte (silent convToLocal)) plain).presented =
        plain.presented ++ (referenceReplies (replyLines convToLocal bytes)).1 := by
  have short : plain.receiveBuffer.length < maxLength := by
    rw [empty]
    decide
  have whole : bytes.splitOnPPrepend endsLine plain.receiveBuffer.reverse =
      bytes.splitOnP endsLine := by
    rw [empty, reverse_nil, splitOnP_eq_splitOnPPrepend]
  have bare : ({ plain with receiveBuffer := [] } : Receiver Unit) = plain := by
    rw [← empty]
  obtain ⟨presented, closed⟩ := foldl_feedByte_lines (silent convToLocal) bytes plain opened short
  obtain ⟨buffer, lines⟩ := foldl_feedByte_left (silent convToLocal) bytes plain short running
  rw [whole, bare] at presented closed lines
  rw [whole] at buffer
  have known : plain.assembly =
      { ({} : Assembly) with presented := plain.presented ++ ({} : Assembly).presented } := by
    simp [assembly, code, tidy code, opened]
  obtain ⟨assembled, _⟩ := feedLines_assembly (silent_neverCloses convToLocal)
    ((referenceLines (bytes.splitOnP endsLine)).1.map convToLocal) plain (by
      rw [opened]
      intro _ reason
      contradiction)
  rw [known, foldl_known] at assembled
  obtain ⟨replies, tooMany⟩ := foldl_addLine (replyLines convToLocal bytes) []
  have same : (plain.feedLines (silent convToLocal)
      ((referenceLines (bytes.splitOnP endsLine)).1.map convToLocal)).assembly = _ := assembled
  have codes : (bytes.foldl (feedByte (silent convToLocal)) plain).multilineResponseCode =
      ((replyLines convToLocal bytes).foldl addLine {}).code :=
    (congrArg multilineResponseCode lines).trans (congrArg Assembly.code same)
  have presents : (bytes.foldl (feedByte (silent convToLocal)) plain).presented =
      plain.presented ++ ((replyLines convToLocal bytes).foldl addLine {}).presented :=
    presented.trans (congrArg Assembly.presented same)
  have stays : (plain.feedLines (silent convToLocal)
      ((referenceLines (bytes.splitOnP endsLine)).1.map convToLocal)).closed.isSome =
        ((replyLines convToLocal bytes).foldl addLine {}).tooMany :=
    congrArg Assembly.tooMany same
  refine ⟨?_, buffer, codes, by rw [presents, replies, nil_append]⟩
  rw [running] at closed
  unfold closedAfter at closed
  intro breaks
  split at closed
  case isTrue broken =>
    rw [← closed] at broken
    cases broken
  case isFalse unbroken =>
    split at closed
    case isTrue => cases closed
    case isFalse short =>
      rcases breaks with tooLong | many
      · exact short tooLong
      · exact unbroken (stays.trans (tooMany.trans many))

theorem feed_ignored
    (line : ∀ text, handling.parseLine text self.operations = some self.operations)
    (response : ∀ reply, Idle reply →
      handling.parseResponse reply self.operations = some self.operations)
    (opened : self.closed = none) (empty : self.receiveBuffer = [])
    (code : self.multilineResponseCode = []) (tidy : self.Tidy) {bytes : List UInt8}
    (ignored : Breaks handling.convToLocal bytes ∨ Ignored handling.convToLocal Idle bytes) :
    (bytes.foldl (feedByte handling) self).closed.isSome = true ∨
      bytes.foldl (feedByte handling) self =
        { self with presented := (bytes.foldl (feedByte handling) self).presented } := by
  have start : Follows Idle self.presented self.operations self (self.withOperations ()) :=
    ⟨.inr rfl, ⟨[], (append_nil _).symm⟩, fun _ _ _ _ => rfl⟩
  have follows := start.foldl_feedByte line response bytes
  refine Classical.or_iff_not_imp_left.mpr fun running => ?_
  have same := follows.same.resolve_left running
  have plainTidy : (self.withOperations ()).Tidy := tidy
  have tidied := foldl_feedByte_tidy (silent handling.convToLocal) plainTidy bytes
  have none : (bytes.foldl (feedByte (silent handling.convToLocal))
      (self.withOperations ())).closed = none := by
    have closed := congrArg closed same
    dsimp only [withOperations] at closed
    exact closed.symm.trans (by simpa using running)
  obtain ⟨unbroken, buffer, codes, presents⟩ :=
    @feed_silent handling.convToLocal bytes (self.withOperations ()) opened empty code plainTidy
      none
  have ignored := ignored.resolve_left unbroken
  rw [ignored.terminated] at buffer
  have operations : (bytes.foldl (feedByte handling) self).operations = self.operations := by
    refine follows.idle (referenceReplies (replyLines handling.convToLocal bytes)).1 ?_
      ignored.idle (by simpa using running)
    exact (congrArg presented same).trans presents
  rw [operations] at same
  rw [same]
  have noCode := codes.trans ignored.complete
  apply Receiver.ext
  · exact (some.inj buffer).symm.trans empty.symm
  · exact noCode.trans code.symm
  · exact (tidied noCode).trans (tidy code).symm
  · rfl
  · rfl
  · exact none.trans opened.symm

/-- The receivers only differ in what has been presented. -/
def Alike (self other : Receiver σ) : Prop :=
  self = { other with presented := self.presented }

namespace Alike

variable {other : Receiver σ}

theorem operations (alike : Alike self other) : self.operations = other.operations := by
  unfold Alike at alike
  rw [alike]

theorem symm (alike : Alike self other) : Alike other self := by
  unfold Alike
  rw [alike]

theorem trans (alike : Alike self other) {third : Receiver σ} (later : Alike other third) :
    Alike self third := by
  unfold Alike
  rw [alike, later]

theorem ite {condition otherCondition : Prop} [Decidable condition] [Decidable otherCondition]
    (same : condition ↔ otherCondition) {yes no otherYes otherNo : Receiver σ}
    (positive : Alike yes otherYes) (negative : Alike no otherNo) :
    Alike (if condition then yes else no) (if otherCondition then otherYes else otherNo) := by
  rcases Classical.em condition with holds | fails
  · rw [if_pos holds, if_pos (same.mp holds)]
    exact positive
  · rw [if_neg fails, if_neg fun holds => fails (same.mpr holds)]
    exact negative

theorem present (alike : Alike self other) (response : WString) :
    Alike (self.present handling response) (other.present handling response) := by
  obtain ⟨presented, rfl⟩ : ∃ presented, self = { other with presented } := ⟨_, alike⟩
  unfold present
  dsimp only
  split <;> rfl

theorem parseReplyLine (alike : Alike self other) (line : WString) :
    Alike (self.parseReplyLine handling line) (other.parseReplyLine handling line) := by
  obtain ⟨presented, rfl⟩ : ∃ presented, self = { other with presented } := ⟨_, alike⟩
  refine .ite rfl alike (.ite rfl (.ite rfl ?_ (.ite rfl rfl rfl))
    (.ite rfl rfl (alike.present line)))
  have cleared : Alike { other with multilineResponseCode := [], presented }
      { other with multilineResponseCode := [] } :=
    rfl
  exact congrArg (fun receiver => { receiver with multilineResponseLines := [] })
    (cleared.present line)

theorem parseLine (alike : Alike self other) (line : WString) :
    Alike (self.parseLine handling line) (other.parseLine handling line) := by
  obtain ⟨presented, rfl⟩ : ∃ presented, self = { other with presented } := ⟨_, alike⟩
  unfold parseLine
  dsimp only
  split
  · rfl
  case h_2 next _ =>
    have later : Alike { other with operations := next, presented }
        { other with operations := next } :=
      rfl
    exact later.parseReplyLine line

theorem feedByte (alike : Alike self other) (byte : UInt8) :
    Alike (self.feedByte handling byte) (other.feedByte handling byte) := by
  obtain ⟨presented, rfl⟩ : ∃ presented, self = { other with presented } := ⟨_, alike⟩
  have cleared : Alike { other with receiveBuffer := [], presented }
      { other with receiveBuffer := [] } :=
    rfl
  exact .ite rfl alike (.ite rfl (.ite rfl alike (cleared.parseLine _))
    (.ite rfl rfl rfl))

theorem foldl_feedByte (alike : Alike self other) (bytes : List UInt8) :
    Alike (bytes.foldl (Receiver.feedByte handling) self)
      (bytes.foldl (Receiver.feedByte handling) other) := by
  induction bytes generalizing self other with
  | nil => exact alike
  | cons byte bytes ih => exact ih (alike.feedByte byte)

end Alike

theorem onRead_eq_foldl (handling : ReplyHandling σ) {bytes : List UInt8}
    (opened : self.closed = none) (some : bytes ≠ [])
    (fits : self.receiveBuffer.length + bytes.length ≤ maxLength) :
    self.onRead handling bytes = bytes.foldl (feedByte handling) self := by
  have filled := length_pos_iff.mpr some
  exact scan_eq_foldl handling bytes self opened (by omega) fits

end Receiver

namespace LogonData

variable {environment : LogonEnvironment} {session : LogonSession} {self : LogonData}

/-- Nothing is collected for a challenge before the login. -/
def Unchallenged (data : LogonData) : Prop :=
  data.opState.late = false → data.challengeMode = .none

theorem advance_challenge (session : LogonSession) (states : List LogonState) :
    (self.advance environment session states).2.1.challengeMode = self.challengeMode ∧
      (self.advance environment session states).2.2.tls = session.tls := by
  induction states generalizing self session with
  | nil => exact ⟨rfl, rfl⟩
  | cons state later ih =>
    unfold advance
    dsimp only
    split
    case isTrue => exact ⟨rfl, rfl⟩
    case isFalse =>
      split
      case isTrue => exact ih session
      case isFalse =>
        split
        case h_1 =>
          split
          · exact ⟨rfl, rfl⟩
          · split
            · exact ih session
            · exact ih session
        case h_2 | h_3 | h_4 =>
          split
          · exact ⟨rfl, rfl⟩
          · exact ih session
        case h_5 =>
          split
          · exact ih session
          · split
            · exact ⟨rfl, rfl⟩
            · exact ih session
            · split
              · exact ⟨rfl, rfl⟩
              · exact ih _
        case h_6 => exact ⟨rfl, rfl⟩

theorem parseState_challenge (environment : LogonEnvironment) (response : WString)
    (session : LogonSession) (early : self.opState.late = false) :
    (self.parseState environment response session).2.1.challengeMode = self.challengeMode := by
  unfold parseState
  dsimp only
  split
  case h_1 => rfl
  case h_2 | h_3 =>
    unfold parseAuth
    dsimp only
    split
    · split
      · split <;> rfl
      · rfl
    · split <;> rfl
  case h_4 state | h_5 state | h_6 state | h_7 state | h_8 state =>
    exact absurd early (by rw [state]; decide)
  case h_9 => rfl

theorem parseResponse_unchallenged {protocol : ServerProtocol} {tls : Bool}
    (needs : Needs protocol tls self) (unchallenged : self.Unchallenged) (response : WString) :
    (self.parseResponse environment response session).2.1.Unchallenged := by
  intro early
  have kept := parseState_cases environment response session needs
  cases late : self.opState.late with
  | false =>
    have same := parseState_challenge environment response session late
    unfold parseResponse at early ⊢
    generalize self.parseState environment response session = triple at same early ⊢
    obtain ⟨result, data, after⟩ := triple
    cases result with
    | some => exact same.trans (unchallenged late)
    | none => exact (advance_challenge after _).1.trans (same.trans (unchallenged late))
  | true =>
    unfold parseResponse at early
    generalize self.parseState environment response session = triple at kept early
    cases kept with
    | stays result data after needs place =>
      dsimp only at early
      rw [place, late] at early
      cases early
    | secured result data after needs place layer asked =>
      rcases asked with state | state <;>
      · rw [state] at late
        cases late
    | refused data after needs asked =>
      rw [asked] at late
      cases late
    | advances data after needs place =>
      dsimp only at early
      rw [advance_late needs (by rw [place]; exact late)] at early
      cases early

theorem send_unchallenged (environment : LogonEnvironment) (session : LogonSession)
    (unchallenged : self.Unchallenged) : (self.send environment session).2.Unchallenged := by
  intro early
  have sends := send_cases environment session self
  cases late : self.opState.late with
  | true =>
    generalize self.send environment session = outcome at sends early
    cases sends with
    | result result data needed place | command command data needed place
        | request kind data needed place =>
        dsimp only at early
        rw [place, late] at early
        cases early
    | doConnect data needed first =>
      rw [first] at late
      cases late
    | asks data needed security | secured data needed security =>
      rw [security] at late
      cases late
  | false =>
    refine Eq.trans ?_ (unchallenged late)
    unfold send
    split
    case h_1 =>
      split
      · rfl
      · dsimp only
        split
        · split <;> rfl
        · split <;> split <;> rfl
    case h_5 =>
      dsimp only
      split <;> rfl
    case h_7 state | h_13 state =>
      exact absurd late (by rw [state]; decide)
    all_goals rfl

theorem parseResponse_secures {environment : LogonEnvironment} {session : LogonSession}
    {self : LogonData} {response : WString} (bare : session.tls = none)
    (secured : (self.parseResponse environment response session).2.2.tls ≠ none) :
    (self.parseResponse environment response session).1 = .disconnected ∨
      (self.parseResponse environment response session).1 = .wouldBlock ∧
        (self.parseResponse environment response session).2.1.opState = .authWait := by
  have auth (code : Nat) :
      ((self.parseAuth environment code session).1 = some .disconnected ∨
        ((self.parseAuth environment code session).1 = some .wouldBlock ∧
          (self.parseAuth environment code session).2.1.opState = .authWait)) ∨
        (self.parseAuth environment code session).2.2.tls = none := by
    unfold parseAuth
    dsimp only
    split
    · refine .inr ?_
      split
      · split <;> exact bare
      · exact bare
    · split
      · exact .inl (.inl rfl)
      · exact .inl (.inr ⟨rfl, rfl⟩)
  have parsed : ((self.parseState environment response session).1 = some .disconnected ∨
      ((self.parseState environment response session).1 = some .wouldBlock ∧
        (self.parseState environment response session).2.1.opState = .authWait)) ∨
      (self.parseState environment response session).2.2.tls = none := by
    unfold parseState
    dsimp only
    split
    case h_2 | h_3 => exact auth _
    case h_6 => exact .inr ((parseFeatReply_kept environment _ session).2.trans bare)
    case h_7 => exact .inr (by split <;> exact bare)
    all_goals exact .inr bare
  unfold parseResponse at secured ⊢
  generalize self.parseState environment response session = triple at parsed secured ⊢
  obtain ⟨result, data, after⟩ := triple
  cases result with
  | some result =>
    simp only [some.injEq] at parsed secured ⊢
    rcases parsed with (rfl | ⟨rfl, waits⟩) | none
    · exact .inl rfl
    · exact .inr ⟨rfl, waits⟩
    · exact absurd none secured
  | none =>
    dsimp only at parsed secured
    rw [(advance_challenge after _).2] at secured
    rcases parsed with (impossible | ⟨impossible, _⟩) | none
    · cases impossible
    · cases impossible
    · exact absurd none secured

end LogonData

namespace LogonSocket

open LogonData

variable {environment : LogonEnvironment} {self next : LogonSocket}

def Unchallenged (socket : LogonSocket) : Prop :=
  ∀ data, socket.logon = some data → data.Unchallenged

theorem unchallenged_of_ended (ended : self.logon = none) : self.Unchallenged :=
  fun _ same => absurd (ended.symm.trans same) (by simp)

open LogonSocket

theorem sendTurns_unchallenged {turns : Nat} (unchallenged : self.Unchallenged)
    (sent : self.sendTurns environment turns = some next) :
    next.Unchallenged ∧ (self.session.tls = none → next.session.tls = none) := by
  induction turns generalizing self with
  | zero =>
    cases sent
    exact ⟨unchallenged, id⟩
  | succ turns ih =>
    unfold sendTurns at sent
    split at sent
    case h_1 =>
      cases sent
      exact ⟨unchallenged, id⟩
    case h_2 data logon =>
      split at sent
      case isTrue =>
        cases sent
        exact ⟨unchallenged, id⟩
      case isFalse =>
        have kept := send_unchallenged environment self.session (unchallenged data logon)
        generalize data.send environment self.session = outcome at kept sent
        obtain ⟨sending, data⟩ := outcome
        have stays {socket : LogonSocket} (same : socket.logon = some data) :
            socket.Unchallenged := fun other is => by
          cases same.symm.trans is
          exact kept
        cases sending with
        | doConnect =>
          dsimp only at sent
          split at sent
          · cases sent
            exact ⟨stays rfl, fun _ => rfl⟩
          · cases sent
        | command command =>
          cases sent
          unfold sendCommand
          dsimp only
          split
          · exact ⟨unchallenged_of_ended rfl, id⟩
          · exact ⟨stays rfl, id⟩
        | request kind =>
          cases sent
          exact ⟨stays rfl, id⟩
        | result result =>
          cases result with
          | proceed =>
            have later : Unchallenged { self with logon := some data } := stays rfl
            have result := ih later sent
            exact result
          | wouldBlock =>
            cases sent
            exact ⟨stays rfl, id⟩
          | disconnected => cases sent
          | ok | error =>
            cases sent
            exact ⟨unchallenged_of_ended rfl, id⟩

theorem sendNextCommand_unchallenged (unchallenged : self.Unchallenged)
    (sent : self.sendNextCommand environment = some next) :
    next.Unchallenged ∧ (self.session.tls = none → next.session.tls = none) :=
  sendTurns_unchallenged unchallenged sent

variable {line : WString} {protocol : ServerProtocol} {socket before : Receiver LogonSocket}

theorem parseLine_unchallenged (unchallenged : self.Unchallenged)
    (parsed : self.parseLine line = some next) :
    next.Unchallenged ∧ next.session.tls = self.session.tls := by
  unfold parseLine at parsed
  split at parsed
  case h_1 =>
    cases parsed
    exact ⟨unchallenged, rfl⟩
  case h_2 data logon =>
    obtain ⟨⟨after, session⟩, outcome, rfl⟩ := map_eq_some_iff.mp parsed
    have kept : after.opState = data.opState ∧ after.challengeMode = data.challengeMode ∧
        session.tls = self.session.tls := by
      unfold LogonData.parseLine at outcome
      split at outcome
      · cases outcome
        exact ⟨rfl, rfl, rfl⟩
      · split at outcome
        · cases outcome
          exact ⟨rfl, rfl, rfl⟩
        · split at outcome
          · split at outcome
            · cases outcome
            · cases outcome
              exact ⟨rfl, rfl, rfl⟩
          · cases outcome
            exact ⟨rfl, rfl, rfl⟩
    obtain ⟨place, mode, tls⟩ := kept
    refine ⟨fun other same early => ?_, tls⟩
    cases same
    exact mode.trans (unchallenged data logon (place ▸ early))

theorem parseResponse_unchallenged {protocol : ServerProtocol} {reply : Reply}
    (safe : Protected protocol self) (unchallenged : self.Unchallenged)
    (parsed : self.parseResponse environment reply = some next) :
    next.Unchallenged ∧ (self.session.tls = none → next.session.tls ≠ none →
      ∃ data, next.logon = some data ∧ data.opState = .authWait) := by
  have quiet {socket : LogonSocket}
      (kept : socket.Unchallenged ∧ (self.session.tls = none → socket.session.tls = none)) :
      socket.Unchallenged ∧ (self.session.tls = none → socket.session.tls ≠ none →
        ∃ data, socket.logon = some data ∧ data.opState = .authWait) :=
    ⟨kept.1, fun bare secured => absurd (kept.2 bare) secured⟩
  unfold parseResponse at parsed
  dsimp only at parsed
  generalize (if reply.response.head? = some '1'.toNat then 0 else 1) = final at parsed
  split at parsed
  case isTrue =>
    cases parsed
    exact quiet ⟨unchallenged, id⟩
  case isFalse =>
    split at parsed
    case isTrue =>
      split at parsed
      case isTrue =>
        have before : Unchallenged
            { self with
              pendingReplies := self.pendingReplies - final
              repliesToSkip := self.repliesToSkip - final } :=
          unchallenged
        have kept := sendNextCommand_unchallenged before parsed
        exact quiet kept
      case isFalse =>
        cases parsed
        exact quiet ⟨unchallenged, id⟩
    case isFalse =>
      split at parsed
      case h_1 =>
        cases parsed
        exact quiet ⟨unchallenged, id⟩
      case h_2 data logon =>
        have kept := @LogonData.parseResponse_unchallenged environment self.session data _ _
          (safe.sound data logon).toNeeds (unchallenged data logon) reply.response
        have secures (bare : self.session.tls = none) :=
          @LogonData.parseResponse_secures environment self.session data reply.response bare
        generalize data.parseResponse environment reply.response self.session = outcome
          at kept secures parsed
        obtain ⟨result, after, session⟩ := outcome
        have stays : Unchallenged
            { self with
              logon := some after, session, given := self.given ++ [reply.response]
              pendingReplies := self.pendingReplies - final } := by
          intro other same
          cases same
          exact kept
        have bareAfter (decided : result ≠ .disconnected ∧ result ≠ .wouldBlock)
            (bare : self.session.tls = none) : session.tls = none := by
          refine Classical.byContradiction fun secured => ?_
          rcases secures bare secured with same | ⟨same, _⟩
          · exact decided.1 same
          · exact decided.2 same
        cases result with
        | ok =>
          cases parsed
          exact quiet ⟨unchallenged_of_ended rfl, bareAfter (by simp)⟩
        | proceed =>
          obtain ⟨later, tls⟩ := sendNextCommand_unchallenged stays parsed
          exact quiet ⟨later, fun bare => tls (bareAfter (by simp) bare)⟩
        | wouldBlock =>
          cases parsed
          refine ⟨stays, fun bare secured => ⟨after, rfl, ?_⟩⟩
          exact (secures bare secured).elim (fun impossible => by cases impossible)
            fun waits => waits.2
        | error | disconnected => cases parsed

theorem onConnect_unchallenged (unchallenged : self.Unchallenged)
    (connected : self.onConnect environment = some next) : next.Unchallenged := by
  unfold onConnect at connected
  dsimp only at connected
  split at connected
  case h_1 =>
    split at connected
    case isTrue =>
      obtain ⟨-, rfl⟩ := some_of_guard connected
      exact unchallenged
    case isFalse =>
      cases connected
      exact unchallenged
  case h_2 tls _ =>
    split at connected
    case isTrue =>
      have before : Unchallenged
          { self with
            session := { self.session with tls := some { tls with connecting := false } } } :=
        unchallenged
      exact (sendNextCommand_unchallenged before connected).1
    case isFalse =>
      cases connected
      exact unchallenged

theorem requestReply_unchallenged {reply : RequestReply} (unchallenged : self.Unchallenged)
    (answered : self.setAsyncRequestReply environment reply = some next) :
    next.Unchallenged := by
  have sends {socket : LogonSocket} (sent : socket.sendNextCommand environment = some next)
      (same : socket.logon = self.logon) : next.Unchallenged := by
    have before : socket.Unchallenged := fun data logon => unchallenged data (same ▸ logon)
    exact (sendNextCommand_unchallenged before sent).1
  have reset : self.resetOperation.Unchallenged := unchallenged_of_ended rfl
  unfold setAsyncRequestReply at answered
  split at answered
  case h_1 =>
    split at answered
    · exact sends answered rfl
    · cases answered
      exact reset
  case h_2 =>
    split at answered
    · cases answered
      exact reset
    · exact sends answered rfl
  case h_3 =>
    split at answered
    · cases answered
      exact reset
    · exact sends answered rfl
  case h_4 =>
    split at answered
    case isTrue =>
      cases answered
      exact unchallenged
    case isFalse =>
      obtain ⟨-, answered⟩ := of_refusal answered
      split at answered
      case h_1 =>
        cases answered
        exact unchallenged
      case h_2 data logon =>
        have kept : (data.tlsHandshakeFinished self.session).1.Unchallenged := by
          unfold tlsHandshakeFinished
          split
          · split <;> exact fun early => by cases early
          · exact unchallenged data logon
        cases answered
        intro other same
        rw [← some.inj same]
        exact kept

structure Settled (protocol : ServerProtocol) (receiver : Receiver LogonSocket) : Prop where
  safe : Protected protocol receiver.operations
  unchallenged : receiver.operations.Unchallenged
  tidy : receiver.Tidy

theorem act_settled {action : LogonSocket → Option LogonSocket}
    (settled : Settled protocol socket) (safe : Protected protocol (act action socket).operations)
    (kept : ∀ next, action socket.operations = some next → next.Unchallenged) :
    Settled protocol (act action socket) := by
  refine ⟨safe, ?_, ?_⟩
  · unfold act
    split
    case h_1 => exact settled.unchallenged
    case h_2 next acted => exact kept next acted
  · unfold act
    split
    · exact fun _ => rfl
    · exact settled.tidy

theorem onRead_settled (plain : environment.settings.server.protocol = protocol)
    (settled : Settled protocol socket) (bytes : List UInt8) :
    Protected protocol (socket.onRead (handling environment) bytes).operations ∧
      (socket.onRead (handling environment) bytes).operations.Unchallenged := by
  have line : ∀ text (socket next : LogonSocket),
      Protected protocol socket ∧ socket.Unchallenged →
      (handling environment).parseLine text socket = some next →
      Protected protocol next ∧ next.Unchallenged :=
    fun _ _ _ kept parsed =>
      ⟨parseLine_protected kept.1 parsed, (parseLine_unchallenged kept.2 parsed).1⟩
  have response : ∀ reply (socket next : LogonSocket),
      Protected protocol socket ∧ socket.Unchallenged →
      (handling environment).parseResponse reply socket = some next →
      Protected protocol next ∧ next.Unchallenged :=
    fun _ _ _ kept parsed =>
      ⟨parseResponse_protected plain kept.1 parsed,
        (parseResponse_unchallenged kept.1 kept.2 parsed).1⟩
  exact onRead_invariant line response ⟨settled.safe, settled.unchallenged⟩ bytes

theorem step_settled (plain : environment.settings.server.protocol = protocol)
    {next : Receiver LogonSocket} {event : LogonEvent}
    (settled : Settled protocol socket) (taken : step environment socket event = some next) :
    Settled protocol next := by
  have safe := step_protected plain settled.safe taken
  obtain ⟨running, taken⟩ := of_refusal taken
  have opened : socket.closed = none := by simpa using running
  cases event with
  | begin =>
    dsimp only at taken
    obtain ⟨-, rfl⟩ := some_of_guard taken
    exact act_settled settled safe fun next sent =>
      (sendNextCommand_unchallenged settled.unchallenged sent).1
  | connection =>
    dsimp only at taken
    obtain ⟨-, rfl⟩ := some_of_refusal taken
    exact act_settled settled safe fun next connected =>
      onConnect_unchallenged settled.unchallenged connected
  | read bytes =>
    dsimp only at taken
    obtain ⟨fits, rfl⟩ := some_of_guard taken
    refine ⟨safe, (onRead_settled plain settled bytes).2, ?_⟩
    rw [onRead_eq_foldl _ opened fits.2.1 fits.2.2]
    exact foldl_feedByte_tidy _ settled.tidy bytes
  | verifyCert alpn =>
    cases taken
    refine act_settled settled safe fun next same => ?_
    cases same
    unfold onVerifyCert
    split
    · exact settled.unchallenged
    · exact settled.unchallenged
  | requestReply reply =>
    dsimp only at taken
    obtain ⟨-, rfl⟩ := some_of_guard taken
    refine act_settled settled safe fun next answered => ?_
    have before : Unchallenged
        { socket.operations with pendingRequest := none } :=
      settled.unchallenged
    exact requestReply_unchallenged before answered
  | close =>
    cases taken
    exact ⟨safe, settled.unchallenged, fun _ => rfl⟩
  | capabilities capabilities =>
    cases taken
    refine act_settled settled safe fun next same => ?_
    cases same
    exact settled.unchallenged

theorem start_settled (environment : LogonEnvironment) (session : LogonSession) :
    Settled environment.settings.server.protocol (start environment session) where
  safe := start_protected session
  unchallenged data same _ := by
    cases same
    unfold create
    dsimp only
    split <;> split <;> first | rfl | (split <;> rfl)
  tidy _ := rfl

structure Upgrades (environment : LogonEnvironment) (before : Receiver LogonSocket)
    (bytes : List UInt8) : Prop where
  some : bytes ≠ []
  bare : before.operations.session.tls = none
  not_yet : ∀ count < bytes.length, 0 < count →
    (before.onRead (handling environment) (bytes.take count)).operations.session.tls = none
  layered : (before.onRead (handling environment) bytes).operations.session.tls ≠ none

/-- The bytes do not leave anything behind, and hold no reply that is given to the operation. -/
def Harmless (environment : LogonEnvironment) (pendingReplies : Nat) (bytes : List UInt8) :
    Prop :=
  Breaks environment.convToLocal bytes ∨
    Ignored environment.convToLocal
      (fun reply => pendingReplies = 0 ∧ reply.response.head? ≠ some '1'.toNat) bytes

/-- The reply has put the layer in place, and nothing of it is left. -/
def Secured (receiver : Receiver LogonSocket) : Prop :=
  receiver.receiveBuffer = [] ∧ receiver.multilineResponseCode = [] ∧
    ∃ data, receiver.operations.logon = some data ∧ data.opState = .authWait

theorem present_secures (self : Receiver LogonSocket)
    (safe : Protected protocol self.operations) (unchallenged : self.operations.Unchallenged)
    (bare : self.operations.session.tls = none) (buffer : self.receiveBuffer = [])
    (code : self.multilineResponseCode = []) {text : WString}
    (layered : (self.present (handling environment) text).operations.session.tls ≠ none) :
    Secured (self.present (handling environment) text) := by
  unfold present at layered ⊢
  dsimp only at layered ⊢
  split at layered
  case h_1 => exact absurd bare layered
  case h_2 next parsed =>
    exact ⟨buffer, code, (parseResponse_unchallenged safe unchallenged parsed).2 bare layered⟩

theorem parseReplyLine_secures (self : Receiver LogonSocket)
    (safe : Protected protocol self.operations) (unchallenged : self.operations.Unchallenged)
    (bare : self.operations.session.tls = none) (buffer : self.receiveBuffer = []) (layered :
      (self.parseReplyLine (handling environment) line).operations.session.tls ≠ none) :
    Secured (self.parseReplyLine (handling environment) line) := by
  unfold parseReplyLine at layered ⊢
  split at layered
  case isTrue => exact absurd bare layered
  case isFalse long =>
    rw [if_neg long]
    split at layered
    case isTrue inside =>
      rw [if_pos inside]
      split at layered
      case isTrue last =>
        rw [if_pos last]
        have cleared : Unchallenged
            ({ self with multilineResponseCode := [] } : Receiver LogonSocket).operations :=
          unchallenged
        obtain ⟨empty, none, waits⟩ :=
          present_secures { self with multilineResponseCode := [] }
            safe cleared bare buffer rfl layered
        exact ⟨empty, none, waits⟩
      case isFalse =>
        split at layered
        · exact absurd bare layered
        · exact absurd bare layered
    case isFalse outside =>
      rw [if_neg outside]
      split at layered
      case isTrue => exact absurd bare layered
      case isFalse single =>
        rw [if_neg single]
        exact present_secures self safe unchallenged bare buffer (not_not.mp outside) layered

theorem parseLine_secures (self : Receiver LogonSocket)
    (safe : Protected protocol self.operations) (unchallenged : self.operations.Unchallenged)
    (bare : self.operations.session.tls = none) (buffer : self.receiveBuffer = [])
    (layered : (self.parseLine (handling environment) line).operations.session.tls ≠ none) :
    Secured (self.parseLine (handling environment) line) := by
  unfold Receiver.parseLine at layered ⊢
  split at layered
  case h_1 => exact absurd bare layered
  case h_2 next parsed =>
    obtain ⟨kept, tls⟩ := parseLine_unchallenged unchallenged parsed
    exact parseReplyLine_secures { self with operations := next }
      (parseLine_protected safe parsed) kept (tls.trans bare) buffer layered

theorem feedByte_secures {receiver : Receiver LogonSocket}
    {byte : UInt8} (settled : Settled protocol receiver)
    (bare : receiver.operations.session.tls = none)
    (layered : (receiver.feedByte (handling environment) byte).operations.session.tls ≠ none) :
    Secured (receiver.feedByte (handling environment) byte) := by
  unfold feedByte at layered ⊢
  split at layered
  case isTrue => exact absurd bare layered
  case isFalse running =>
    rw [if_neg running]
    split at layered
    case isFalse inside =>
      split at layered
      · exact absurd bare layered
      · exact absurd bare layered
    case isTrue ends =>
      rw [if_pos ends]
      split at layered
      case isTrue => exact absurd bare layered
      case isFalse filled =>
        rw [if_neg filled]
        exact parseLine_secures { receiver with receiveBuffer := [] }
          settled.safe settled.unchallenged bare rfl layered

theorem parseLine_waiting {socket : LogonSocket} {data : LogonData}
    (logon : socket.logon = some data) (waits : data.opState = .authWait)
    (unchallenged : socket.Unchallenged) (line : WString) :
    (handling environment).parseLine line socket = some socket := by
  have bare : data.challengeMode = .none := unchallenged data logon (by rw [waits]; rfl)
  have same : data.parseLine line socket.session = some (data, socket.session) := by
    simp [LogonData.parseLine, bare, waits]
  change socket.parseLine line = some socket
  unfold parseLine
  rw [logon]
  dsimp only
  rw [same]
  cases socket
  cases logon
  rfl

theorem parseResponse_unexpected {socket : LogonSocket} {reply : Reply}
    (unexpected : socket.pendingReplies = 0 ∧ reply.response.head? ≠ some '1'.toNat) :
    (handling environment).parseResponse reply socket = some socket := by
  change socket.parseResponse environment reply = some socket
  unfold parseResponse
  dsimp only
  rw [if_neg unexpected.2, if_pos ⟨rfl, unexpected.1⟩]

theorem onRead_harmless (plain : environment.settings.server.protocol = protocol)
    {upto extra : List UInt8} (settled : Settled protocol before)
    (upgrades : Upgrades environment before upto) (opened : before.closed = none)
    (fits : before.receiveBuffer.length + (upto ++ extra).length ≤ maxLength)
    (harmless : Harmless environment
      (before.onRead (handling environment) upto).operations.pendingReplies extra) :
    (before.onRead (handling environment) (upto ++ extra)).closed.isSome = true ∨
      (before.onRead (handling environment) (upto ++ extra)).Alike
        (before.onRead (handling environment) upto) := by
  obtain ⟨earlier, byte, rfl⟩ : ∃ earlier byte, upto = earlier ++ [byte] := by
    rcases eq_nil_or_concat upto with none | ⟨earlier, byte, same⟩
    · exact absurd none upgrades.some
    · exact ⟨earlier, byte, same.trans (concat_eq_append ..)⟩
  simp only [length_append, length_singleton] at fits
  have read {bytes : List UInt8} (some : bytes ≠ [])
      (short : before.receiveBuffer.length + bytes.length ≤ maxLength) :=
    onRead_eq_foldl (handling environment) opened some short
  have before_last : Settled protocol
        (earlier.foldl (feedByte (handling environment)) before) ∧
      (earlier.foldl (feedByte (handling environment)) before).operations.session.tls =
        none := by
    rcases Classical.em (earlier = []) with rfl | some
    · exact ⟨settled, upgrades.bare⟩
    · have bare := upgrades.not_yet earlier.length (by simp) (length_pos_iff.mpr some)
      rw [take_left] at bare
      obtain ⟨safe, unchallenged⟩ := onRead_settled plain settled earlier
      rw [read some (by omega)] at bare safe unchallenged
      exact ⟨⟨safe, unchallenged, foldl_feedByte_tidy _ settled.tidy earlier⟩, bare⟩
  have layered := upgrades.layered
  have unchallenged := (onRead_settled plain settled (earlier ++ [byte])).2
  rw [read upgrades.some (by simp; omega), foldl_append, foldl_cons,
    foldl_nil] at harmless layered unchallenged
  rw [read upgrades.some (by simp; omega), read (by simp) (by simp; omega),
    foldl_append, foldl_append, foldl_cons, foldl_nil]
  generalize earlier.foldl (feedByte (handling environment)) before = receiver
    at harmless layered unchallenged before_last ⊢
  obtain ⟨settled, bare⟩ := before_last
  have secured := feedByte_secures settled bare layered
  have tidy : (receiver.feedByte (handling environment) byte).Tidy :=
    feedByte_tidy settled.tidy byte
  generalize receiver.feedByte (handling environment) byte = after
    at harmless unchallenged secured tidy ⊢
  cases closed : after.closed with
  | some reason =>
    rw [foldl_feedByte_closed (handling environment) (by simp [closed]) extra]
    exact .inl (by simp [closed])
  | none =>
    obtain ⟨buffer, code, data, logon, waits⟩ := secured
    have lost := feed_ignored (parseLine_waiting logon waits unchallenged)
      (fun reply unexpected => parseResponse_unexpected unexpected) closed buffer code tidy
      harmless
    refine lost.imp_right fun same => ?_
    exact same

theorem act_alike {action : LogonSocket → Option LogonSocket} {self other : Receiver LogonSocket}
    (alike : self.Alike other) : (act action self).Alike (act action other) := by
  obtain ⟨presented, rfl⟩ : ∃ presented, self = { other with presented } := ⟨_, alike⟩
  unfold act
  dsimp only
  split <;> rfl

theorem step_alike {self other next : Receiver LogonSocket} {event : LogonEvent}
    (alike : self.Alike other) (taken : step environment self event = some next) :
    ∃ otherNext, step environment other event = some otherNext ∧ next.Alike otherNext := by
  obtain ⟨presented, rfl⟩ : ∃ presented, self = { other with presented } := ⟨_, alike⟩
  unfold step at taken ⊢
  obtain ⟨running, taken⟩ := of_refusal taken
  rw [if_neg running]
  have opened : other.closed = none := by simpa using running
  cases event with
  | begin =>
    dsimp only at taken ⊢
    obtain ⟨first, rfl⟩ := some_of_guard taken
    exact ⟨_, if_pos first, act_alike alike⟩
  | connection =>
    dsimp only at taken ⊢
    obtain ⟨later, rfl⟩ := some_of_refusal taken
    exact ⟨_, if_neg later, act_alike alike⟩
  | read bytes =>
    dsimp only at taken ⊢
    obtain ⟨fits, rfl⟩ := some_of_guard taken
    refine ⟨_, if_pos fits, ?_⟩
    have read := onRead_eq_foldl (handling environment) opened fits.2.1 fits.2.2
    have like := onRead_eq_foldl (handling environment)
      (show ({ other with presented } : Receiver LogonSocket).closed = none from opened)
      fits.2.1 fits.2.2
    rw [read, like]
    exact alike.foldl_feedByte bytes
  | verifyCert alpn =>
    cases taken
    exact ⟨_, rfl, act_alike alike⟩
  | requestReply reply =>
    dsimp only at taken ⊢
    obtain ⟨asked, rfl⟩ := some_of_guard taken
    exact ⟨_, if_pos asked, act_alike alike⟩
  | close =>
    cases taken
    exact ⟨_, rfl, rfl⟩
  | capabilities capabilities =>
    cases taken
    exact ⟨_, rfl, act_alike alike⟩

theorem read_of_step {next : Receiver LogonSocket} {bytes : List UInt8}
    (taken : step environment before (.read bytes) = some next) :
    before.closed = none ∧ before.receiveBuffer.length + bytes.length ≤ maxLength ∧
      next = before.onRead (handling environment) bytes := by
  obtain ⟨running, taken⟩ := of_refusal taken
  dsimp only at taken
  obtain ⟨fits, taken⟩ := of_guard taken
  exact ⟨by simpa using running, fits.2.2, (some.inj taken).symm⟩

/-- Both runs take the same steps, with the same effect on what the operation keeps and on the
replies that it is given; unless one of them closes the connection. -/
def Unaffected (environment : LogonEnvironment) (one two : Receiver LogonSocket) : Prop :=
  one.closed.isSome = true ∨ two.closed.isSome = true ∨
    ∀ later final, Run (step environment) one later final →
      ∃ otherLater otherFinal, Run (step environment) two otherLater otherFinal ∧
        List.Forall₂ (fun taken other =>
          taken.1.operations = other.1.operations ∧ taken.2 = other.2) later otherLater ∧
        final.operations = otherFinal.operations ∧ final.closed = otherFinal.closed

theorem Upgrades.of_checks {bytes : List UInt8}
    (checked : bytes ≠ [] ∧ before.operations.session.tls.isNone = true ∧
      (∀ count < bytes.length, 0 < count → (before.onRead (handling environment)
        (bytes.take count)).operations.session.tls.isNone = true) ∧
      (before.onRead (handling environment) bytes).operations.session.tls.isSome = true) :
    Upgrades environment before bytes where
  some := checked.1
  bare := isNone_iff_eq_none.mp checked.2.1
  not_yet count inside filled := isNone_iff_eq_none.mp (checked.2.2.1 count inside filled)
  layered := isSome_iff_ne_none.mp checked.2.2.2

end LogonSocket

end Ftp

end FileZilla
