import FileZilla.Engine.Storj.Operations

namespace FileZilla.Storj

open List Quoting

section Encoding

variable {text : WString}

theorem utf8OfChar_quotationMark : utf8OfChar quotationMark = [34] := by decide

theorem toUtf8Bytes_doubled (unicode : text.all isScalar = true) :
    toUtf8Bytes (doubled quotationMark text) =
      doubled (34 : UInt8) (toUtf8Bytes text) := by
  have kept : (doubled quotationMark text).all isScalar = true := by
    rw [all_eq_true] at unicode ⊢
    exact fun char member => unicode char (mem_doubled.mp member)
  rw [toUtf8Bytes_of_unicode unicode, toUtf8Bytes_of_unicode kept]
  clear kept
  induction text with
  | nil => rfl
  | cons char text same =>
    rw [all_cons, Bool.and_eq_true] at unicode
    rw [flatMap_cons, doubled_append, ← same unicode.2]
    by_cases marked : char = quotationMark
    · subst marked
      rw [doubled_cons_mark, flatMap_cons, flatMap_cons,
        utf8OfChar_quotationMark]
      rfl
    · have unmarked : (34 : UInt8) ∉ utf8OfChar char := fun member =>
        marked ((mem_utf8OfChar unicode.1 (by decide)).mp member)
      rw [doubled_cons marked, flatMap_cons, doubled_of_not_mem unmarked]

theorem all_isScalar_quoteFilename :
    (quoteFilename text).all isScalar = text.all isScalar := by
  rw [Bool.eq_iff_iff, all_eq_true, all_eq_true]
  constructor
  · exact fun all char member => all char (mem_quoted.mpr (.inr member))
  · intro all char member
    rcases mem_quoted.mp member with rfl | member
    · decide
    · exact all char member

theorem toUtf8Bytes_quoteFilename (unicode : text.all isScalar = true) :
    toUtf8Bytes (quoteFilename text) = quoted (34 : UInt8) (toUtf8Bytes text) := by
  have kept : (doubled quotationMark text).all isScalar = true := by
    rw [all_eq_true] at unicode ⊢
    exact fun char member => unicode char (mem_doubled.mp member)
  have mark : [quotationMark].all isScalar = true := by decide
  have front : quoteFilename text =
      [quotationMark] ++ doubled quotationMark text ++ [quotationMark] := rfl
  have opened : ([quotationMark] ++ doubled quotationMark text).all isScalar = true := by
    rw [all_append, mark, kept]
    rfl
  rw [front, toUtf8Bytes_append opened mark, toUtf8Bytes_append mark kept,
    toUtf8Bytes_doubled unicode]
  rfl

theorem mem_quoteFilename {char : WChar} (different : char ≠ quotationMark) :
    char ∈ quoteFilename text ↔ char ∈ text := by
  rw [quoteFilename, mem_quoted]
  exact or_iff_right different

end Encoding

theorem sendCommand_cases (cmd : WString) :
    (sendCommand cmd).2 = [] ∧ (sendCommand cmd).1 &&& .error ≠ 0 ∨
      cmd.all isScalar = true ∧ newline ∉ cmd ∧ carriageReturn ∉ cmd ∧
        sendCommand cmd = (.wouldBlock, toUtf8Bytes cmd ++ [10]) := by
  unfold sendCommand
  split
  case isTrue => exact .inl ⟨rfl, by decide⟩
  case isFalse clean =>
    rw [not_or] at clean
    unfold addToStream
    have ending : [newline].all isScalar = true := by decide
    cases unicode : cmd.all isScalar with
    | false =>
      have empty : toUtf8Bytes (cmd ++ [newline]) = [] := by
        rw [toUtf8Bytes_eq_nil (by simp), all_append, unicode]
        rfl
      rw [empty]
      exact .inl ⟨rfl, by decide⟩
    | true =>
      have full : (toUtf8Bytes (cmd ++ [newline])).isEmpty = false := by
        rw [isEmpty_eq_false_iff, ne_eq, toUtf8Bytes_eq_nil (by simp), all_append,
          unicode, ending]
        decide
      refine .inr ⟨rfl, clean.1, clean.2, ?_⟩
      dsimp only
      rw [full, toUtf8Bytes_append unicode ending]
      rfl

/-- `SendCommand` writes one line, which quotes a name behind the command, or nothing. -/
theorem sendCommand_oneLine (cmd : WString) :
    OneLine (sendCommand cmd).2 none ∨
      (sendCommand cmd).2 = [] ∧ (sendCommand cmd).1 &&& .error ≠ 0 := by
  rcases sendCommand_cases cmd with failed | ⟨unicode, noNewline, noReturn, written⟩
  · exact .inr failed
  · rw [written]
    refine .inl ⟨_, rfl, ?_, ?_, fun _ absent => by cases absent⟩
    · rwa [mem_toUtf8Bytes unicode (by decide)]
    · rwa [mem_toUtf8Bytes unicode (by decide)]

theorem sendCommand_quoted {verb name : WString} (ascii : verb.all isScalar = true)
    (unmarked : quotationMark ∉ verb) :
    OneLine (sendCommand (verb ++ quoteFilename name)).2 (some [name]) ∨
      (sendCommand (verb ++ quoteFilename name)).2 = [] ∧
        (sendCommand (verb ++ quoteFilename name)).1 &&& .error ≠ 0 := by
  rcases sendCommand_cases (verb ++ quoteFilename name) with
    failed | ⟨unicode, noNewline, noReturn, written⟩
  · exact .inr failed
  · rw [written]
    refine .inl ⟨_, rfl, ?_, ?_, ?_⟩
    · rwa [mem_toUtf8Bytes unicode (by decide)]
    · rwa [mem_toUtf8Bytes unicode (by decide)]
    · rintro expected ⟨⟩
      rw [all_append, ascii, all_isScalar_quoteFilename, Bool.true_and] at unicode
      have quoted : (quoteFilename name).all isScalar = true := by
        rwa [all_isScalar_quoteFilename]
      have outside : (34 : UInt8) ∉ toUtf8Bytes verb := by
        rwa [mem_toUtf8Bytes ascii (by decide)]
      rw [toUtf8Bytes_append ascii quoted, toUtf8Bytes_quoteFilename unicode,
        quotedTexts_outside outside, quotedTexts_single]
      rfl

theorem mem_toString {number : Int} {char : Char} (member : char ∈ (toString number).toList) :
    char = '-' ∨ char.isDigit = true := by
  cases number with
  | ofNat number =>
    have text : (toString (Int.ofNat number)).toList = Nat.toDigits 10 number := Nat.toList_repr
    rw [text] at member
    exact .inr (Nat.isDigit_of_mem_toDigits (by decide) (by decide) member)
  | negSucc number =>
    have text : (toString (Int.negSucc number)).toList = '-' :: Nat.toDigits 10 (number + 1) := by
      change ("-" ++ Nat.repr (number + 1)).toList = _
      rw [String.toList_append, Nat.toList_repr]
      rfl
    rw [text] at member
    rcases mem_cons.mp member with sign | digit
    · exact .inl sign
    · exact .inr (Nat.isDigit_of_mem_toDigits (by decide) (by decide) digit)

/-- A byte that neither ends a line nor is a mark -/
def PlainByte (byte : UInt8) : Prop :=
  byte ≠ 10 ∧ byte ≠ 13 ∧ byte ≠ 34

theorem plainByte_toString {number : Int} {byte : UInt8}
    (member : byte ∈ asciiBytes (toString number)) : PlainByte byte := by
  obtain ⟨char, here, rfl⟩ := mem_map.mp member
  rcases mem_toString here with rfl | digit
  · exact ⟨by decide, by decide, by decide⟩
  · obtain ⟨low, high⟩ : 48 ≤ char.toNat ∧ char.toNat ≤ 57 := by
      simpa [Char.isDigit, UInt32.le_iff_toNat_le] using digit
    have value : (UInt8.ofNat char.toNat).toNat = char.toNat := by
      rw [UInt8.toNat_ofNat']
      omega
    refine ⟨fun same => ?_, fun same => ?_, fun same => ?_⟩
    all_goals
      rw [same] at value
      simp at value
      omega

theorem asciiBytes_append (front rest : String) :
    asciiBytes (front ++ rest) = asciiBytes front ++ asciiBytes rest := by
  simp [asciiBytes]

theorem memoryArguments_eq (env : SendEnvironment) :
    ∃ numbers : Bytes, memoryArguments env = 32 :: numbers ++ [10] ∧
      ∀ byte ∈ numbers, PlainByte byte := by
  refine ⟨asciiBytes (toString env.memoryHandle) ++ 32 ::
    (asciiBytes (toString env.memorySize) ++ 32 :: asciiBytes (toString env.offset)), ?_, ?_⟩
  · have space : asciiBytes " " = [32] := by decide
    rw [memoryArguments]
    simp only [asciiBytes_append, space]
    simp
  · intro byte member
    have space : PlainByte 32 := ⟨by decide, by decide, by decide⟩
    simp only [mem_append, mem_cons] at member
    rcases member with handle | rfl | size | rfl | offset
    · exact plainByte_toString handle
    · exact space
    · exact @plainByte_toString (env.memorySize : Int) byte size
    · exact space
    · exact @plainByte_toString (env.offset : Int) byte offset

def transferCommand (verb first second : WString) : WString :=
  verb ++ quoteFilename first ++ wide " " ++ quoteFilename second

section Transfers

variable {verb first second : WString} {numbers : Bytes}

theorem mem_transferCommand {char : WChar} (different : char ≠ quotationMark)
    (outside : char ∉ verb) (noSpace : char ≠ 32) :
    char ∈ transferCommand verb first second ↔ char ∈ first ∨ char ∈ second := by
  have space : char ∉ wide " " := by simpa [wide] using noSpace
  simp only [transferCommand, mem_append, mem_quoteFilename different, outside, space,
    false_or, or_false]

theorem all_isScalar_transferCommand (ascii : verb.all isScalar = true) :
    (transferCommand verb first second).all isScalar =
      (first.all isScalar && second.all isScalar) := by
  have space : (wide " ").all isScalar = true := by decide
  rw [transferCommand, all_append, all_append, all_append, ascii, space,
    all_isScalar_quoteFilename, all_isScalar_quoteFilename, Bool.true_and, Bool.and_true]

theorem quotedTexts_transferCommand (ascii : verb.all isScalar = true)
    (unmarked : quotationMark ∉ verb) (firstUnicode : first.all isScalar = true)
    (secondUnicode : second.all isScalar = true) (plain : ∀ byte ∈ numbers, PlainByte byte) :
    quotedTexts (34 : UInt8)
        (toUtf8Bytes (transferCommand verb first second) ++ 32 :: numbers) =
      [toUtf8Bytes first, toUtf8Bytes second] := by
  have space : (wide " ").all isScalar = true := by decide
  have firstQuoted : (quoteFilename first).all isScalar = true := by
    rwa [all_isScalar_quoteFilename]
  have secondQuoted : (quoteFilename second).all isScalar = true := by
    rwa [all_isScalar_quoteFilename]
  have front : (verb ++ quoteFilename first).all isScalar = true := by
    rw [all_append, ascii, firstQuoted]
    rfl
  have middle : (verb ++ quoteFilename first ++ wide " ").all isScalar = true := by
    rw [all_append, front, space]
    rfl
  have spaceBytes : toUtf8Bytes (wide " ") = [32] := by decide
  have outside : (34 : UInt8) ∉ toUtf8Bytes verb := by
    rwa [mem_toUtf8Bytes ascii (by decide)]
  have unquoted : (34 : UInt8) ∉ 32 :: numbers := by
    rw [mem_cons, not_or]
    exact ⟨by decide, fun member => (plain _ member).2.2 rfl⟩
  have unquotedSpace : (34 : UInt8) ∉ [(32 : UInt8)] := by decide
  rw [transferCommand, toUtf8Bytes_append middle secondQuoted, toUtf8Bytes_append front space,
    toUtf8Bytes_append ascii firstQuoted, toUtf8Bytes_quoteFilename firstUnicode,
    toUtf8Bytes_quoteFilename secondUnicode, spaceBytes, append_assoc, append_assoc,
    append_assoc, quotedTexts_outside outside,
    quotedTexts_quoted _ (by simp), quotedTexts_outside unquotedSpace,
    quotedTexts_quoted _ (by simp), quotedTexts_of_not_mem unquoted]

theorem transfer_oneLine_iff (ascii : verb.all isScalar = true) (unmarked : quotationMark ∉ verb)
    (noNewline : newline ∉ verb) (noReturn : carriageReturn ∉ verb)
    (plain : ∀ byte ∈ numbers, PlainByte byte) :
    OneLine ((addToStream (transferCommand verb first second)).2 ++ (32 :: numbers ++ [10]))
        (some [first, second]) ↔
      CleanName first ∧ CleanName second := by
  have breaks (byte : UInt8) (listed : byte = 10 ∨ byte = 13) : byte ∉ 32 :: numbers := by
    intro member
    rcases mem_cons.mp member with rfl | member
    · exact absurd listed (by decide)
    · rcases listed with rfl | rfl
      · exact (plain _ member).1 rfl
      · exact (plain _ member).2.1 rfl
  have written : (addToStream (transferCommand verb first second)).2 =
      toUtf8Bytes (transferCommand verb first second) := by
    unfold addToStream
    dsimp only
    split
    case isTrue empty => exact (isEmpty_iff.mp empty).symm
    case isFalse => rfl
  have newlines : newline ∈ transferCommand verb first second ↔
      newline ∈ first ∨ newline ∈ second :=
    mem_transferCommand (by decide) noNewline (by decide)
  have returns : carriageReturn ∈ transferCommand verb first second ↔
      carriageReturn ∈ first ∨ carriageReturn ∈ second :=
    mem_transferCommand (by decide) noReturn (by decide)
  rw [written]
  constructor
  · rintro ⟨line, ending, noLine, noCarriage, texts⟩
    rw [← append_assoc] at ending
    obtain rfl := (append_inj_left' ending rfl).symm
    cases both : (transferCommand verb first second).all isScalar with
    | false =>
      have nothing : toUtf8Bytes (transferCommand verb first second) = [] :=
        if_neg (Bool.eq_false_iff.mp both)
      have unquoted : (34 : UInt8) ∉ 32 :: numbers := by
        rw [mem_cons, not_or]
        exact ⟨by decide, fun member => (plain _ member).2.2 rfl⟩
      have read := texts _ rfl
      rw [nothing, nil_append, quotedTexts_of_not_mem unquoted] at read
      cases read
    | true =>
      have unicode := both
      rw [all_isScalar_transferCommand ascii, Bool.and_eq_true] at unicode
      rw [mem_append, not_or, mem_toUtf8Bytes both (by decide)] at noLine noCarriage
      have noNewlines := not_or.mp (newlines.not.mp noLine.1)
      have noReturns := not_or.mp (returns.not.mp noCarriage.1)
      exact ⟨⟨unicode.1, noNewlines.1, noReturns.1⟩, ⟨unicode.2, noNewlines.2, noReturns.2⟩⟩
  · rintro ⟨cleanFirst, cleanSecond⟩
    have both : (transferCommand verb first second).all isScalar = true := by
      rw [all_isScalar_transferCommand ascii, cleanFirst.unicode, cleanSecond.unicode]
      rfl
    refine ⟨toUtf8Bytes (transferCommand verb first second) ++ 32 :: numbers, ?_, ?_, ?_, ?_⟩
    · rw [append_assoc]
    · rw [mem_append, not_or, mem_toUtf8Bytes both (by decide)]
      exact ⟨newlines.not.mpr (not_or.mpr ⟨cleanFirst.newline, cleanSecond.newline⟩),
        breaks 10 (.inl rfl)⟩
    · rw [mem_append, not_or, mem_toUtf8Bytes both (by decide)]
      exact ⟨returns.not.mpr (not_or.mpr ⟨cleanFirst.carriageReturn, cleanSecond.carriageReturn⟩),
        breaks 13 (.inr rfl)⟩
    · rintro expected ⟨⟩
      exact quotedTexts_transferCommand ascii unmarked cleanFirst.unicode cleanSecond.unicode plain

end Transfers

namespace Operation

variable {self : Operation} {env : SendEnvironment}

theorem requestIsOneLine_of_due (due : self.requests = true)
    (line : OneLine (self.send env).written self.names ∨
      (self.send env).written = [] ∧ (self.send env).reply &&& .error ≠ 0) :
    self.RequestIsOneLine env := by
  unfold RequestIsOneLine
  rwa [if_pos due]

theorem requestIsOneLine_of_silent (silent : self.requests = false)
    (nothing : (self.send env).written = []) : self.RequestIsOneLine env := by
  unfold RequestIsOneLine
  rwa [if_neg (Bool.eq_false_iff.mp silent)]

open Operation

theorem connect_requestIsOneLine (data : ConnectOpData) :
    (connect data).RequestIsOneLine env := by
  obtain ⟨state, host, user, pass⟩ := data
  cases state with
  | init =>
    apply requestIsOneLine_of_silent rfl
    rw [send, ConnectOpData.send]
    cases env.bufferPool <;> cases env.spawned <;> cases env.threadStarted <;> rfl
  | host => exact requestIsOneLine_of_due rfl (sendCommand_oneLine _)
  | user => exact requestIsOneLine_of_due rfl (sendCommand_oneLine _)
  | pass =>
    apply requestIsOneLine_of_due rfl
    rw [send, ConnectOpData.send]
    cases pass with
    | nil =>
      have failed : (Reply.error ||| .disconnected) &&& .error ≠ 0 := by decide
      exact .inr ⟨rfl, failed⟩
    | cons => exact sendCommand_oneLine _

theorem list_requestIsOneLine (data : ListOpData) :
    (list data).RequestIsOneLine env := by
  obtain ⟨state, path⟩ := data
  cases state with
  | init =>
    apply requestIsOneLine_of_silent rfl
    rw [send, ListOpData.send]
    cases env.lockWaiting <;> rfl
  | waitlock =>
    apply requestIsOneLine_of_silent rfl
    rw [send, ListOpData.send]
    cases env.opLock <;> cases env.listingCached <;> rfl
  | list => exact requestIsOneLine_of_due rfl (sendCommand_quoted (by decide) (by decide))

theorem delete_requestIsOneLine (data : DeleteOpData) :
    (delete data).RequestIsOneLine env := by
  obtain ⟨state, path, files, deleteFailed⟩ := data
  cases state with
  | init =>
    apply requestIsOneLine_of_silent rfl
    rw [send, DeleteOpData.send]
    cases files <;> rfl
  | resolve => exact requestIsOneLine_of_silent rfl rfl
  | delete =>
    cases listed : files.getLast? with
    | none =>
      obtain rfl := getLast?_eq_none_iff.mp listed
      exact requestIsOneLine_of_silent rfl rfl
    | some file =>
      have due : (delete { opState := .delete, path, files, deleteFailed }).requests =
          true := by
        cases files with
        | nil => cases listed
        | cons => rfl
      apply requestIsOneLine_of_due due
      simp only [send, DeleteOpData.send, names, listed]
      exact sendCommand_quoted (by decide) (by decide)

theorem mkdir_requestIsOneLine (data : MkdirOpData) :
    (mkdir data).RequestIsOneLine env := by
  obtain ⟨state, path⟩ := data
  cases state with
  | init =>
    apply requestIsOneLine_of_silent rfl
    rw [send, MkdirOpData.send]
    dsimp only
    split <;> rfl
  | mkbucket => exact requestIsOneLine_of_due rfl (sendCommand_quoted (by decide) (by decide))
  | put => exact requestIsOneLine_of_due rfl (sendCommand_quoted (by decide) (by decide))

theorem removeDir_requestIsOneLine (data : RemoveDirOpData) :
    (removeDir data).RequestIsOneLine env := by
  obtain ⟨state, path⟩ := data
  cases state with
  | init =>
    apply requestIsOneLine_of_silent rfl
    rw [send, RemoveDirOpData.send]
    dsimp only
    split
    · rfl
    · split <;> rfl
  | rmbucket => exact requestIsOneLine_of_due rfl (sendCommand_quoted (by decide) (by decide))
  | rmdir => exact requestIsOneLine_of_due rfl (sendCommand_quoted (by decide) (by decide))

theorem transfer_silent {data : FileTransferOpData} (before : data.opState ≠ .transfer) :
    (transfer data).RequestIsOneLine env := by
  obtain ⟨state, download, remotePath, remoteFile, localName⟩ := data
  cases state with
  | init =>
    apply requestIsOneLine_of_silent rfl
    rw [send, FileTransferOpData.send]
    dsimp only
    split
    · rfl
    · split <;> rfl
  | checkfileexists =>
    apply requestIsOneLine_of_silent rfl
    rw [send, FileTransferOpData.send]
    dsimp only
    split <;> rfl
  | waitfileexists => exact requestIsOneLine_of_silent rfl rfl
  | delete => exact requestIsOneLine_of_silent rfl rfl
  | transfer => exact absurd rfl before

theorem transfer_requestIsOneLine_iff {data : FileTransferOpData}
    (transferring : data.opState = .transfer) (opened : env.opened = true) :
    (transfer data).RequestIsOneLine env ↔
      CleanName (data.remotePath.formatFilename data.remoteFile) ∧ CleanName data.localName := by
  obtain ⟨state, download, remotePath, remoteFile, localName⟩ := data
  cases transferring
  obtain ⟨numbers, arguments, plain⟩ := memoryArguments_eq env
  unfold RequestIsOneLine
  rw [if_pos (by rfl)]
  simp only [send, FileTransferOpData.send, opened, Bool.not_true, Bool.false_eq_true, if_false,
    arguments]
  have pending : Reply.wouldBlock &&& .error = 0 := by decide
  rw [or_iff_left fun failed => failed.2 pending]
  cases download with
  | true =>
    exact @transfer_oneLine_iff (wide "get ") (remotePath.formatFilename remoteFile) localName
      numbers (by decide) (by decide) (by decide) (by decide) plain
  | false =>
    rw [and_comm]
    exact @transfer_oneLine_iff (wide "put ") localName (remotePath.formatFilename remoteFile)
      numbers (by decide) (by decide) (by decide) (by decide) plain

theorem requestIsOneLine_iff (self : Operation) (env : SendEnvironment) :
    self.RequestIsOneLine env ↔ self.TransfersCleanNames env := by
  cases self with
  | connect data => exact iff_of_true (connect_requestIsOneLine data) fun _ other => by cases other
  | list data => exact iff_of_true (list_requestIsOneLine data) fun _ other => by cases other
  | delete data => exact iff_of_true (delete_requestIsOneLine data) fun _ other => by cases other
  | mkdir data => exact iff_of_true (mkdir_requestIsOneLine data) fun _ other => by cases other
  | removeDir data =>
    exact iff_of_true (removeDir_requestIsOneLine data) fun _ other => by cases other
  | transfer data =>
    by_cases due : data.opState = .transfer ∧ env.opened = true
    · rw [transfer_requestIsOneLine_iff due.1 due.2]
      constructor
      · rintro clean _ ⟨⟩ _ _
        exact clean
      · exact fun clean => clean data rfl due.1 due.2
    · refine iff_of_true ?_ fun _ same transferring opened => ?_
      · by_cases transferring : data.opState = .transfer
        · have closed : env.opened = false :=
            Bool.eq_false_iff.mpr fun opened => due ⟨transferring, opened⟩
          have due : (transfer data).requests = true := decide_eq_true transferring
          have failed : Reply.criticalError &&& .error ≠ 0 := by decide
          apply requestIsOneLine_of_due due
          rw [send, FileTransferOpData.send, transferring, closed]
          exact .inr ⟨rfl, failed⟩
        · exact transfer_silent transferring
      · cases same
        exact absurd ⟨transferring, opened⟩ due

def download (remoteFile : String) : Operation :=
  .transfer {
    opState := .transfer
    download := true
    remotePath := { data := some { segments := [wide "b"], pathPrefix := none }, type := .unix }
    remoteFile := wide remoteFile
    localName := wide "/x" }

/-- A name from a listing brings in a command of its own. -/
theorem download_injects : ¬(download "a\nrm \"/b/c\"").RequestIsOneLine {} := by
  rw [requestIsOneLine_iff]
  intro clean
  exact absurd (clean _ rfl rfl rfl).1.newline (by decide)

end Operation

end FileZilla.Storj
