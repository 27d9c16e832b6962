import FileZilla.CommonUi.Updater
import FileZilla.Pieces

namespace FileZilla

open List

namespace Updater

section Lines

variable {Time : Type} [LinearOrder Time] (env : UpdaterEnvironment Time)

def Admits (checkBeta : Int) (type : WString) : Prop :=
  (type = wide "nightly" → checkBeta = 2) ∧ (type = wide "beta" → checkBeta ≠ 0)

def Newer (type versionOrDate : WString) : Prop :=
  (type = wide "nightly" ∧ ∃ nightlyDate ∈ env.datetime versionOrDate,
      ∃ buildDate ∈ env.buildDate, buildDate < nightlyDate) ∨
    ((type = wide "release" ∨ type = wide "beta") ∧
      convertToVersionNumber env.fileZillaVersion < convertToVersionNumber versionOrDate)

/-- Whether a line, given by its tokens, offers a file with the content: it has its size and
its hash, and a signature over that hash, a zero byte and the version. -/
def Offers (checkBeta : Int) (content : List UInt8) : List WString → Prop
  | type :: versionOrDate :: _ :: sizestr :: hashAlgo :: hash :: signatures =>
    Newer env type versionOrDate ∧ Admits checkBeta type ∧
      toSize sizestr = content.length ∧ strToLowerAscii hashAlgo = wide "sha512" ∧
      strToLowerAscii hash = hexEncode (env.sha512 content) ∧
      ∃ token ∈ signatures, isSignature token = true ∧
        env.verify (env.sha512 content ++ 0 :: toUtf8Bytes versionOrDate)
          (rawSignature env token) = true
  | _ => False

instance (checkBeta : Int) (type : WString) : Decidable (Admits checkBeta type) :=
  inferInstanceAs (Decidable (_ ∧ _))

instance (type versionOrDate : WString) : Decidable (Newer env type versionOrDate) :=
  inferInstanceAs (Decidable (_ ∨ _))

instance (checkBeta : Int) (content : List UInt8) :
    (tokens : List WString) → Decidable (Offers env checkBeta content tokens)
  | _ :: _ :: _ :: _ :: _ :: _ :: _ => inferInstanceAs (Decidable (_ ∧ _))
  | [] => .isFalse id
  | [_] => .isFalse id
  | [_, _] => .isFalse id
  | [_, _, _] => .isFalse id
  | [_, _, _, _] => .isFalse id
  | [_, _, _, _, _] => .isFalse id

def AsciiSigned : List WString → Prop
  | _ :: versionOrDate :: _ :: _ :: _ :: hash :: signatures =>
    validSignature env (signedData hash versionOrDate) signatures = true →
      ∀ char ∈ versionOrDate, char < 128
  | _ => True

/-- No line with a valid signature has a version with a character that is not in ASCII. -/
def Unambiguous (text : WString) : Prop :=
  ∀ line ∈ lines text, AsciiSigned env (lineTokens line)

end Lines

section Parsing

variable {Time : Type} [LinearOrder Time] {env : UpdaterEnvironment Time} {text : WString}

def SignedLine (env : UpdaterEnvironment Time) (type : WString) (build : Build) :
    List WString → Prop
  | found :: versionOrDate :: _ :: sizestr :: hashAlgo :: hash :: signatures =>
    found = type ∧ isNewer env type versionOrDate = true ∧
      build.size = toInt64 (toSize sizestr) ∧ strToLowerAscii hashAlgo = wide "sha512" ∧
      build.hash = strToLowerAscii hash ∧
      validSignature env (signedData hash versionOrDate) signatures = true
  | _ => False

def FromLine (env : UpdaterEnvironment Time) (text type : WString) (build : Build) : Prop :=
  build.hash ≠ [] → ∃ line ∈ lines text, SignedLine env type build (lineTokens line)

structure Parsed (env : UpdaterEnvironment Time) (text : WString)
    (information : VersionInformation) : Prop where
  stable : FromLine env text (wide "release") information.stable
  beta : FromLine env text (wide "beta") information.beta
  nightly : FromLine env text (wide "nightly") information.nightly

theorem parseBuild_signed {type versionOrDate : WString} {more : List WString} {build : Build}
    (newer : isNewer env type versionOrDate = true)
    (parsed : parseBuild env versionOrDate more = some build) (hashed : build.hash ≠ []) :
    SignedLine env type build (type :: versionOrDate :: more) := by
  unfold parseBuild at parsed
  split at parsed
  case h_1 url sizestr hashAlgo hash signatures =>
    split at parsed
    case isTrue =>
      simp only [Option.ite_none_left_eq_some] at parsed
      obtain ⟨_, algorithm, _, signed, _, same⟩ := parsed
      have built := Option.some.inj same
      rw [not_not] at algorithm
      rw [Bool.not_eq_true', Bool.not_eq_false] at signed
      exact ⟨rfl, newer, by rw [← built], algorithm, by rw [← built], signed⟩
    case isFalse =>
      cases parsed
      exact absurd rfl hashed
  case h_2 =>
    cases parsed
    exact absurd rfl hashed

variable {information : VersionInformation}

theorem parseEol_parsed {tokens : List WString} (parsed : Parsed env text information) :
    Parsed env text (parseEol env tokens information) := by
  unfold parseEol
  split
  case h_1 => exact parsed
  case h_2 =>
    split
    case isTrue => exact ⟨parsed.stable, parsed.beta, parsed.nightly⟩
    case isFalse => exact parsed

theorem parseLine_parsed {line : WString} (member : line ∈ lines text)
    (parsed : Parsed env text information) :
    Parsed env text (parseLine env (lineTokens line) information) := by
  generalize same : lineTokens line = tokens
  unfold parseLine
  split
  case h_2 => exact parsed
  case h_1 type versionOrDate more =>
    split
    case isTrue => exact parseEol_parsed parsed
    case isFalse =>
      split
      case isTrue => exact parsed
      case isFalse newer =>
        rw [Bool.not_eq_true', Bool.not_eq_false] at newer
        split
        case h_1 => exact parsed
        case h_2 build built =>
          have signed (found : WString) (kind : type = found) :
              FromLine env text found build := by
            intro hashed
            refine ⟨line, member, ?_⟩
            rw [same, ← kind]
            exact parseBuild_signed newer built hashed
          split
          case isTrue kind =>
            exact ⟨parsed.stable, parsed.beta, signed _ kind.1⟩
          case isFalse =>
            split
            case isTrue kind => exact ⟨signed _ kind, parsed.beta, parsed.nightly⟩
            case isFalse =>
              split
              case isTrue kind =>
                exact ⟨parsed.stable, signed _ kind, parsed.nightly⟩
              case isFalse => exact parsed

theorem parseLines_parsed {rest : List WString} (members : ∀ line ∈ rest, line ∈ lines text)
    (parsed : Parsed env text information) :
    Parsed env text (parseLines env rest information) := by
  induction rest generalizing information with
  | nil => exact parsed
  | cons line rest ih =>
    rw [parseLines]
    split
    case isTrue => exact parsed
    case isFalse =>
      have first : line ∈ lines text := members line mem_cons_self
      exact ih (fun later member => members later (mem_cons_of_mem _ member))
        (parseLine_parsed first parsed)

def FromText (env : UpdaterEnvironment Time) (text : WString) (checkBeta : Int)
    (build : Build) : Prop :=
  build.hash ≠ [] → ∃ type, Admits checkBeta type ∧
    ∃ line ∈ lines text, SignedLine env type build (lineTokens line)

theorem FromLine.fromText {type : WString} {build : Build} {checkBeta : Int}
    (admitted : Admits checkBeta type) (from_line : FromLine env text type build) :
    FromText env text checkBeta build :=
  fun hashed => ⟨type, admitted, from_line hashed⟩

theorem selectAvailable_fromText (parsed : Parsed env text information) (checkBeta : Int) :
    FromText env text checkBeta (selectAvailable checkBeta information) := by
  unfold selectAvailable
  split
  case isTrue nightly =>
    exact parsed.nightly.fromText ⟨fun _ => nightly.2, fun other => absurd other (by decide)⟩
  case isFalse =>
    split
    case isTrue beta =>
      exact parsed.beta.fromText ⟨fun other => absurd other (by decide), fun _ => beta.2⟩
    case isFalse =>
      exact parsed.stable.fromText
        ⟨fun other => absurd other (by decide), fun other => absurd other (by decide)⟩

theorem parseData_fromText (self : Updater) :
    FromText env (parseData env self).rawVersionInformation (parseData env self).parsedWith
      (parseData env self).versionInformation.available := by
  have nothing : Parsed env self.rawVersionInformation {} :=
    ⟨fun hashed => absurd rfl hashed, fun hashed => absurd rfl hashed,
      fun hashed => absurd rfl hashed⟩
  exact selectAvailable_fromText (parseLines_parsed (fun _ member => member) nothing) _

end Parsing

section Offered

variable {Time : Type} [LinearOrder Time] {env : UpdaterEnvironment Time}

omit [LinearOrder Time] in
theorem validSignature_exists {data : List UInt8} {tokens : List WString}
    (valid : validSignature env data tokens = true) :
    ∃ token ∈ tokens, isSignature token = true ∧
      env.verify data (rawSignature env token) = true := by
  induction tokens using reverseRecOn with
  | nil => cases valid
  | append_singleton tokens token ih =>
    rw [validSignature, foldl_append, foldl_cons, foldl_nil] at valid
    split at valid
    case isTrue signature =>
      exact ⟨token, mem_append_right _ (mem_singleton_self _), signature, valid⟩
    case isFalse =>
      obtain ⟨earlier, member, verified⟩ := ih valid
      exact ⟨earlier, mem_append_left _ member, verified⟩

theorem isNewer_newer {type versionOrDate : WString}
    (newer : isNewer env type versionOrDate = true) : Newer env type versionOrDate := by
  unfold isNewer at newer
  unfold Newer
  split at newer
  case isTrue nightly =>
    split at newer
    case h_1 nightlyDate buildDate parsed built =>
      refine .inl ⟨nightly, nightlyDate, parsed, buildDate, built, ?_⟩
      simpa using newer
    case h_2 => cases newer
  case isFalse =>
    split at newer
    case isTrue kind => exact .inr ⟨kind, by simpa using newer⟩
    case isFalse => cases newer

theorem toSize_lt (text : WString) : toSize text < 2 ^ 64 := by
  unfold toSize
  extract_lets digits
  split
  case isTrue => exact Nat.two_pow_pos 64
  case isFalse =>
    split
    case isTrue small => exact small
    case isFalse => exact Nat.two_pow_pos 64

variable {text : WString}

theorem toSize_of_toInt64 {length : Nat} (same : (length : Int) = toInt64 (toSize text)) :
    toSize text = length := by
  have small := toSize_lt text
  unfold toInt64 at same
  rw [Int.bmod_def] at same
  split at same
  case isTrue => omega
  case isFalse => omega

theorem isScalar_ascii {char : WChar} (ascii : char < 128) : isScalar char = true := by
  unfold isScalar
  rw [Bool.or_eq_true, decide_eq_true_eq]
  exact .inl (Nat.lt_trans ascii (by decide))

theorem utf8OfChar_ascii {char : WChar} (ascii : char < 128) :
    utf8OfChar char = [UInt8.ofNat char] := by
  unfold utf8OfChar String.utf8EncodeChar
  dsimp only
  rw [toNat_charOfNat (isScalar_ascii ascii)]
  exact if_pos (Nat.le_of_lt_succ ascii)

theorem toUtf8Bytes_ascii (ascii : ∀ char ∈ text, char < 128) :
    toUtf8Bytes text = text.map UInt8.ofNat := by
  have scalar : text.all isScalar = true :=
    all_eq_true.mpr fun char member => isScalar_ascii (ascii char member)
  rw [toUtf8Bytes_of_unicode scalar]
  clear scalar
  induction text with
  | nil => rfl
  | cons char rest ih =>
    rw [flatMap_cons, utf8OfChar_ascii (ascii char mem_cons_self),
      ih fun later member => ascii later (mem_cons_of_mem _ member)]
    rfl

structure Matches (env : UpdaterEnvironment Time) (build : Build) (content : List UInt8) :
    Prop where
  size : (content.length : Int) = build.size
  hash : hexEncode (env.sha512 content) = build.hash
  hashed : build.hash ≠ []

theorem Matches.offers {checkBeta : Int} {build : Build} {content : List UInt8}
    (found : Matches env build content) (signed : FromText env text checkBeta build)
    (unambiguous : Unambiguous env text) :
    ∃ line ∈ lines text, Offers env checkBeta content (lineTokens line) := by
  obtain ⟨type, admitted, line, member, signedLine⟩ := signed found.hashed
  have ascii := unambiguous line member
  refine ⟨line, member, ?_⟩
  generalize lineTokens line = tokens at signedLine ascii
  match tokens, signedLine with
  | _ :: versionOrDate :: _ :: sizestr :: hashAlgo :: hash :: signatures, signedLine =>
    obtain ⟨rfl, newer, size, algorithm, lower, valid⟩ := signedLine
    have digest : strToLowerAscii hash = hexEncode (env.sha512 content) := by
      rw [found.hash, lower]
    obtain ⟨token, signature, marked, verified⟩ := validSignature_exists valid
    refine ⟨isNewer_newer newer, admitted, toSize_of_toInt64 (found.size.trans size),
      algorithm, digest, token, signature, marked, ?_⟩
    rw [signedData, hexDecode_of_lower digest, ← toUtf8Bytes_ascii (ascii valid)] at verified
    exact verified

omit [LinearOrder Time] in
theorem verifyChecksum_matches {files : Files} {readable : WString → Bool} {file : WString}
    {build : Build}
    (verified : verifyChecksum env files readable file build.size build.hash = true) :
    ∃ content, files.read env.linkDepth file = some content ∧ Matches env build content := by
  unfold verifyChecksum at verified
  split at verified
  case isTrue => cases verified
  case isFalse named =>
    rw [not_or] at named
    split at verified
    case h_1 => cases verified
    case h_2 content read =>
      simp only [Bool.and_eq_true, decide_eq_true_eq] at verified
      exact ⟨content, read, verified.1.1, verified.2, named.2⟩

end Offered

section Received

variable {Time : Type} [LinearOrder Time] {env : UpdaterEnvironment Time}

omit [LinearOrder Time] in
theorem unambiguous_of_ascii {text : WString} (ascii : ∀ char ∈ text, char < 128) :
    Unambiguous env text := by
  intro line member
  generalize same : lineTokens line = tokens
  unfold AsciiSigned
  split
  case h_1 versionOrDate _ _ _ hash signatures =>
    intro _ char inside
    have token : versionOrDate ∈ lineTokens line := by
      rw [same]
      exact mem_cons_of_mem _ mem_cons_self
    have part := (mem_filter.mp token).1
    exact ascii char (mem_of_mem_splitOnP member (mem_of_mem_splitOnP part inside))
  case h_2 => trivial

omit [LinearOrder Time] in
theorem unambiguous_nil : Unambiguous env [] :=
  unambiguous_of_ascii fun _ member => by cases member

omit [LinearOrder Time] in
theorem filterOutput_unambiguous {outputBuffer : List UInt8} {text : WString}
    (passed : filterOutput outputBuffer = some text) : Unambiguous env text := by
  obtain ⟨clean, rfl⟩ := some_of_guard passed
  apply unambiguous_of_ascii
  intro char member
  obtain ⟨byte, inside, rfl⟩ := mem_map.mp member
  have range := all_eq_true.mp clean byte inside
  simp only [decide_eq_true_eq] at range
  exact Nat.lt_succ_of_le range.2

end Received

end Updater

end FileZilla
