import FileZilla.Engine.ServerPath

namespace FileZilla

open List

namespace Ftp

/-! The commands of the FTP operations and how `SendCommand` hands them to the socket. -/

inductive FtpCommand
  | authTls
  | authSsl
  | syst
  | user (name : WString)
  | pass (password : WString)
  | acct (account : WString)
  | loginSequence (command : WString)
  | feat
  | clnt
  | optsUtf8
  | pbsz
  | prot
  | postLogin (command : WString)
  | optsMlst (facts : WString)
  | pwd
  | cwd (path : CServerPath)
  | cdup
  | cwdSubdir (path : CServerPath) (subDir : WString)
  | mkdSegment (segment : WString)
  | mkdPath (path : CServerPath)
  | dele (path : CServerPath) (file : WString) (omitPath : Bool)
  | rmdSubdir (subDir : WString)
  | rmdPath (fullPath : CServerPath)
  | rnfr (path : CServerPath) (file : WString) (omitPath : Bool)
  | rnto (path : CServerPath) (file : WString) (omitPath : Bool)
  | siteChmod (permission : WString) (path : CServerPath) (file : WString) (omitPath : Bool)
  | size (path : CServerPath) (file : WString) (omitPath : Bool)
  | mdtm (path : CServerPath) (file : WString) (omitPath : Bool)
  | mfmt (time : WString) (path : CServerPath) (file : WString) (omitPath : Bool)
  | typeBinary
  | typeAscii
  | pasv
  | epsv
  | port (argument : WString)
  | eprt (argument : WString)
  | rest (resumeOffset : Int)
  | list
  | listHidden
  | mlsd
  | retr (path : CServerPath) (file : WString) (omitPath : Bool)
  | stor (path : CServerPath) (file : WString) (omitPath : Bool)
  | appe (path : CServerPath) (file : WString) (omitPath : Bool)
  | raw (command : WString)
  | noop
  deriving DecidableEq

def decimal : Int → WString
  | .ofNat number => wide number.repr
  | .negSucc number => wide "-" ++ wide (number + 1).repr

namespace FtpCommand

def text : FtpCommand → WString
  | authTls => wide "AUTH TLS"
  | authSsl => wide "AUTH SSL"
  | syst => wide "SYST"
  | user name => wide "USER " ++ name
  | pass password => wide "PASS " ++ password
  | acct account => wide "ACCT " ++ account
  | loginSequence command => command
  | feat => wide "FEAT"
  | clnt => wide "CLNT FileZilla"
  | optsUtf8 => wide "OPTS UTF8 ON"
  | pbsz => wide "PBSZ 0"
  | prot => wide "PROT P"
  | postLogin command => command
  | optsMlst facts => wide "OPTS MLST " ++ facts
  | pwd => wide "PWD"
  | cwd path => wide "CWD " ++ path.getPath
  | cdup => wide "CDUP"
  | cwdSubdir path subDir => wide "CWD " ++ path.formatSubdir subDir
  | mkdSegment segment => wide "MKD " ++ segment
  | mkdPath path => wide "MKD " ++ path.getPath
  | dele path file omitPath => wide "DELE " ++ path.formatFilename file omitPath
  | rmdSubdir subDir => wide "RMD " ++ subDir
  | rmdPath fullPath => wide "RMD " ++ fullPath.getPath
  | rnfr path file omitPath => wide "RNFR " ++ path.formatFilename file omitPath
  | rnto path file omitPath => wide "RNTO " ++ path.formatFilename file omitPath
  | siteChmod permission path file omitPath =>
    wide "SITE CHMOD " ++ permission ++ wide " " ++ path.formatFilename file omitPath
  | size path file omitPath => wide "SIZE " ++ path.formatFilename file omitPath
  | mdtm path file omitPath => wide "MDTM " ++ path.formatFilename file omitPath
  | mfmt time path file omitPath =>
    wide "MFMT " ++ time ++ path.formatFilename file omitPath
  | typeBinary => wide "TYPE I"
  | typeAscii => wide "TYPE A"
  | pasv => wide "PASV"
  | epsv => wide "EPSV"
  | port argument => wide "PORT " ++ argument
  | eprt argument => wide "EPRT " ++ argument
  | rest resumeOffset => wide "REST " ++ decimal resumeOffset
  | list => wide "LIST"
  | listHidden => wide "LIST -a"
  | mlsd => wide "MLSD"
  | retr path file omitPath => wide "RETR " ++ path.formatFilename file omitPath
  | stor path file omitPath => wide "STOR " ++ path.formatFilename file omitPath
  | appe path file omitPath => wide "APPE " ++ path.formatFilename file omitPath
  | raw command => command
  | noop => wide "NOOP"

def values : FtpCommand → List WString
  | user name => [name]
  | pass password => [password]
  | acct account => [account]
  | loginSequence command => [command]
  | postLogin command => [command]
  | optsMlst facts => [facts]
  | cwd path => [path.getPath]
  | cwdSubdir path subDir => [path.formatSubdir subDir]
  | mkdSegment segment => [segment]
  | mkdPath path => [path.getPath]
  | rmdSubdir subDir => [subDir]
  | rmdPath fullPath => [fullPath.getPath]
  | siteChmod permission path file omitPath => [permission, path.formatFilename file omitPath]
  | mfmt time path file omitPath => [time, path.formatFilename file omitPath]
  | dele path file omitPath => [path.formatFilename file omitPath]
  | rnfr path file omitPath => [path.formatFilename file omitPath]
  | rnto path file omitPath => [path.formatFilename file omitPath]
  | size path file omitPath => [path.formatFilename file omitPath]
  | mdtm path file omitPath => [path.formatFilename file omitPath]
  | retr path file omitPath => [path.formatFilename file omitPath]
  | stor path file omitPath => [path.formatFilename file omitPath]
  | appe path file omitPath => [path.formatFilename file omitPath]
  | port argument => [argument]
  | eprt argument => [argument]
  | raw command => [command]
  | _ => []

end FtpCommand

inductive SendResult
  | wouldBlock
  | error

/-- `handed` are the buffers that `CRealControlSocket::Send` was called with. -/
structure CommandSocket where
  pendingReplies : Nat := 0
  handed : List (List UInt8) := []

/-- `SendCommand`; what `Send` returns is never zero. -/
def CommandSocket.sendCommand (convToServer : WString → List UInt8) (command : WString)
    (self : CommandSocket) : SendResult × CommandSocket :=
  let buffer := convToServer command
  if buffer = [] then (.error, self)
  else
    (.wouldBlock,
      { pendingReplies := self.pendingReplies + 1
        handed := self.handed ++ [buffer ++ [13, 10]] })

/-- The bytes end in CR LF and contain no other CR or LF. -/
def OneLine (bytes : List UInt8) : Prop :=
  ∃ line, bytes = line ++ [13, 10] ∧ 13 ∉ line ∧ 10 ∉ line

/-- One call handed one line to the socket, or failed without handing over anything. -/
def SentOneLine (before : CommandSocket) (outcome : SendResult × CommandSocket) : Prop :=
  (∃ buffer, OneLine buffer ∧ outcome.2.handed = before.handed ++ [buffer]) ∨
    (outcome.1 = .error ∧ outcome.2 = before)

def Unbroken (text : WString) : Prop :=
  13 ∉ text ∧ 10 ∉ text

instance (text : WString) : Decidable (Unbroken text) :=
  inferInstanceAs (Decidable (_ ∧ _))

def KeepsLineBreaks (convToServer : WString → List UInt8) : Prop :=
  ∀ text, convToServer text ≠ [] →
    (13 ∈ convToServer text ↔ 13 ∈ text) ∧ (10 ∈ convToServer text ↔ 10 ∈ text)

theorem unbroken_append (left right : WString) :
    Unbroken (left ++ right) ↔ Unbroken left ∧ Unbroken right := by
  simp only [Unbroken, mem_append, not_or]
  tauto

theorem unbroken_repr (number : Nat) : Unbroken (wide number.repr) := by
  have digits : ∀ char ∈ wide number.repr, 48 ≤ char := by
    intro char member
    simp only [wide, Nat.toList_repr, mem_map] at member
    obtain ⟨digit, inside, rfl⟩ := member
    have isDigit := Nat.isDigit_of_mem_toDigits (by decide) (by decide) inside
    simp only [Char.isDigit, ge_iff_le, Bool.and_eq_true, decide_eq_true_eq] at isDigit
    exact isDigit.1
  constructor
  · intro member
    exact absurd (digits 13 member) (by decide)
  · intro member
    exact absurd (digits 10 member) (by decide)

theorem unbroken_decimal (number : Int) : Unbroken (decimal number) := by
  cases number with
  | ofNat number => exact unbroken_repr number
  | negSucc number => exact (unbroken_append _ _).mpr ⟨by decide, unbroken_repr _⟩

theorem FtpCommand.unbroken_text (command : FtpCommand) :
    Unbroken command.text ↔ ∀ value ∈ command.values, Unbroken value := by
  have literal : ∀ text : String, decide (Unbroken (wide text)) = true →
      ∀ value, Unbroken (wide text ++ value) ↔ Unbroken value := by
    intro text unbroken value
    rw [unbroken_append, and_iff_right (of_decide_eq_true unbroken)]
  cases command with
  | siteChmod permission path file omitPath =>
    simp only [text, values, append_assoc, forall_mem_cons, not_mem_nil,
      false_implies, implies_true, and_true]
    rw [literal _ rfl, unbroken_append, literal _ rfl]
  | mfmt time path file omitPath =>
    simp only [text, values, append_assoc, forall_mem_cons, not_mem_nil,
      false_implies, implies_true, and_true]
    rw [literal _ rfl, unbroken_append]
  | rest resumeOffset =>
    simp only [text, values, not_mem_nil, false_implies, implies_true, iff_true]
    rw [literal _ rfl]
    exact unbroken_decimal resumeOffset
  | loginSequence command | postLogin command | raw command =>
    simp only [text, values, forall_mem_cons, not_mem_nil, false_implies,
      implies_true, and_true]
  | _ =>
    simp only [text, values, forall_mem_cons, not_mem_nil, false_implies,
      implies_true, and_true, iff_true]
    first
      | exact literal _ rfl _
      | exact of_decide_eq_true rfl

theorem oneLine_converted {convToServer : WString → List UInt8}
    (keeps : KeepsLineBreaks convToServer) {command : WString}
    (converted : convToServer command ≠ []) :
    OneLine (convToServer command ++ [13, 10]) ↔ Unbroken command := by
  obtain ⟨returns, newlines⟩ := keeps command converted
  constructor
  · rintro ⟨line, whole, noReturn, noNewline⟩
    obtain rfl := append_cancel_right whole
    exact ⟨fun member => noReturn (returns.mpr member),
      fun member => noNewline (newlines.mpr member)⟩
  · rintro ⟨noReturn, noNewline⟩
    exact ⟨_, rfl, fun member => noReturn (returns.mp member),
      fun member => noNewline (newlines.mp member)⟩

/-- A call hands one line to the socket, or fails without sending, exactly where no value that
reaches the operation contains a line break or the command cannot be converted. -/
theorem sendCommand_oneLine_iff {convToServer : WString → List UInt8}
    (keeps : KeepsLineBreaks convToServer) (command : FtpCommand) (socket : CommandSocket) :
    SentOneLine socket (socket.sendCommand convToServer command.text) ↔
      (∀ value ∈ command.values, Unbroken value) ∨ convToServer command.text = [] := by
  rw [← command.unbroken_text]
  cases handed : decide (convToServer command.text = []) with
  | true =>
    have fails : convToServer command.text = [] := of_decide_eq_true handed
    have outcome : socket.sendCommand convToServer command.text = (.error, socket) := if_pos fails
    rw [outcome]
    exact ⟨fun _ => .inr fails, fun _ => .inr ⟨rfl, rfl⟩⟩
  | false =>
    have converted : convToServer command.text ≠ [] := of_decide_eq_false handed
    rw [or_iff_left converted, ← oneLine_converted keeps converted, SentOneLine,
      CommandSocket.sendCommand, if_neg converted]
    constructor
    · rintro (⟨buffer, line, same⟩ | ⟨failed, _⟩)
      · obtain rfl := singleton_inj.mp (append_cancel_left same)
        exact line
      · cases failed
    · intro line
      exact .inl ⟨_, line, rfl⟩

/-- The conversion of a text in ASCII, which fails on any other text -/
def toAscii (text : WString) : List UInt8 :=
  if ∀ char ∈ text, char < 128 then text.map Nat.toUInt8 else []

theorem toAscii_keepsLineBreaks : KeepsLineBreaks toAscii := by
  intro text converted
  have ascii : ∀ char ∈ text, char < 128 := by
    intro char member
    unfold toAscii at converted
    split at converted
    case isTrue all => exact all char member
    case isFalse => exact absurd rfl converted
  have same : ∀ byte : UInt8, byte.toNat < 128 → (byte ∈ toAscii text ↔ byte.toNat ∈ text) := by
    intro byte small
    rw [toAscii, if_pos ascii, mem_map]
    constructor
    · rintro ⟨char, member, rfl⟩
      have value : char.toUInt8.toNat = char := by
        have bound := ascii char member
        exact UInt8.toNat_ofNat_of_lt' (Nat.lt_trans bound (by decide))
      rw [value]
      exact member
    · intro member
      refine ⟨byte.toNat, member, ?_⟩
      simp only [Nat.toUInt8, UInt8.ofNat_toNat]
  exact ⟨same 13 (by decide), same 10 (by decide)⟩

theorem sendCommand_oneLine_dele :
    SentOneLine {} (CommandSocket.sendCommand toAscii
      (FtpCommand.text (.dele .none (wide "a.txt") true)) {}) :=
  (sendCommand_oneLine_iff toAscii_keepsLineBreaks _ _).mpr (.inl (by decide))

/-- Deleting a file whose name contains a line break hands over two lines in one call. -/
theorem dele_twoLines :
    ¬ ∀ (command : FtpCommand) (socket : CommandSocket),
      SentOneLine socket (socket.sendCommand toAscii command.text) := by
  intro holds
  have handed : (CommandSocket.sendCommand toAscii
      (FtpCommand.text (.dele .none (wide "a\nRMD b") true)) {}).2.handed =
        [toAscii (wide "DELE a\nRMD b") ++ [13, 10]] := by
    decide
  obtain ⟨buffer, ⟨line, rfl, _, noNewline⟩, same⟩ | ⟨_, kept⟩ :=
    holds (.dele .none (wide "a\nRMD b") true) {}
  · rw [handed] at same
    have whole := append_cancel_right (singleton_inj.mp same)
    rw [← whole] at noNewline
    exact noNewline (by decide)
  · rw [kept] at handed
    cases handed

end Ftp

end FileZilla
