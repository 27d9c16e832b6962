import FileZilla.CommonUi.UpdaterSignatures

namespace FileZilla

open List Option Bool Function

namespace Updater

section Properties

variable {Time : Type} [LinearOrder Time] (env : UpdaterEnvironment Time)

/-- The file that is offered for installation had, when the update became ready, the content
that a line of the version text offers. -/
def ProperlySigned (self : Updater) : Prop :=
  downloadedFile self ≠ [] →
    ∃ moment ∈ self.ready, ∃ content ∈ moment.files.read env.linkDepth (downloadedFile self),
      ∃ line ∈ lines moment.text, Offers env moment.checkBeta content (lineTokens line)

def KeepsExisting (inputs : UpdaterInputs) (before after : Files) : Prop :=
  ∀ name node, before name = some node → after name = some node ∨
      (after name = none ∧ ∃ hash, name = tempFile inputs.tempDir hash)

def Event.KeepsExisting (before after : Files) : Event → Prop
  | .run _ inputs => Updater.KeepsExisting inputs before after
  | .operation _ _ _ inputs => Updater.KeepsExisting inputs before after
  | .reset => after = before
  | .optionsChanged _ => after = before
  | .filesChanged _ => True

/-- No temporary file of the updater is a symbolic link that is relative, unless it would be
moved within its directory. -/
def KeepsLinks (inputs : UpdaterInputs) (files : Files) : Prop :=
  inputs.tempDir = inputs.downloadDir ∨
    ∀ hash target, files (tempFile inputs.tempDir hash) = some (.link target) →
      isAbsolute target = true

def Event.Regular (self : Updater) : Event → Prop
  | .run _ inputs => Unambiguous env self.options.newVersion ∧ KeepsLinks inputs self.files
  | .operation _ _ _ inputs => KeepsLinks inputs self.files
  | _ => True

end Properties

section Files

variable {Time : Type} {env : UpdaterEnvironment Time} {inputs : UpdaterInputs} {files : Files}

theorem KeepsExisting.refl : KeepsExisting inputs files files :=
  fun _ _ found => .inl found

theorem keepsExisting_remove {before : Files} (kept : KeepsExisting inputs before files)
    (hash : WString) :
    KeepsExisting inputs before (files.remove (tempFile inputs.tempDir hash)) := by
  intro name node found
  by_cases temp : name = tempFile inputs.tempDir hash
  · exact .inr ⟨by rw [temp, Files.remove, update_self], hash, temp⟩
  · rw [Files.remove, update_of_ne temp]
    exact kept name node found

theorem keepsExisting_update {before : Files} (kept : KeepsExisting inputs before files)
    {dest : WString} (free : before dest = none) (node : Option FileNode) :
    KeepsExisting inputs before (Function.update files dest node) := by
  intro name kind found
  have apart : name ≠ dest := by
    rintro rfl
    rw [free] at found
    cases found
  rw [update_of_ne apart]
  exact kept name kind found

theorem renameFile_keeps {hash dest : WString} {outcome : Renaming} (free : files dest = none) :
    KeepsExisting inputs files
      (renameFile env outcome (tempFile inputs.tempDir hash) dest files).1 := by
  have added (node : Option FileNode) : KeepsExisting inputs files (update files dest node) :=
    keepsExisting_update .refl free node
  unfold renameFile
  split
  case h_1 => exact keepsExisting_remove (added _) hash
  case h_2 => exact keepsExisting_remove (added _) hash
  case h_3 => exact added _
  case h_4 => exact .refl

theorem intToHexChar_ne {digit : Nat} (small : digit < 16) :
    intToHexChar digit ≠ '/'.toNat := by
  revert digit
  decide

theorem hexEncode_flat (bytes : List UInt8) : '/'.toNat ∉ hexEncode bytes := by
  intro member
  obtain ⟨byte, _, inside⟩ := mem_flatMap.mp member
  have small := UInt8.toNat_lt byte
  rcases mem_pair.mp inside with same | same
  · exact intToHexChar_ne (by omega) same.symm
  · exact intToHexChar_ne (by omega) same.symm

theorem getFilename_flat (url : WString) : '/'.toNat ∉ getFilename url := by
  intro member
  have inside := (takeWhile_sublist _).subset member
  split at inside
  case isTrue =>
    have passed := mem_rtakeWhile_imp inside
    simp at passed
  case isFalse => cases inside

theorem toString_flat (number : Nat) : '/'.toNat ∉ wide (toString number) := by
  intro member
  obtain ⟨char, inside, same⟩ := mem_map.mp member
  have listed : char ∈ Nat.toDigits 10 number := by
    rw [← Nat.toList_repr]
    exact inside
  have digit : char.isDigit = true := Nat.isDigit_of_mem_toDigits (by decide) (by decide) listed
  have slash : char = '/' := Char.toNat_inj.mp same
  rw [slash] at digit
  cases digit

theorem alternative_flat {name : WString} (flat : '/'.toNat ∉ name) (number : Nat) :
    '/'.toNat ∉ alternative name number := by
  unfold alternative
  extract_lets suffix
  have suffixFlat : '/'.toNat ∉ suffix := by
    intro member
    rcases mem_append.mp member with member | member
    · rcases mem_append.mp member with member | member
      · exact absurd member (by decide)
      · exact toString_flat number member
    · exact absurd member (by decide)
  split
  case isTrue => exact flat
  case isFalse =>
    split
    case h_1 =>
      intro member
      exact (mem_append.mp member).elim flat suffixFlat
    case h_2 pos _ =>
      intro member
      rcases mem_append.mp member with member | member
      · rcases mem_append.mp member with member | member
        · exact flat (mem_of_mem_take member)
        · exact suffixFlat member
      · exact flat (mem_of_mem_drop member)

theorem tempName_flat {hash : WString} (flat : '/'.toNat ∉ hash) :
    '/'.toNat ∉ wide "fzupdate_" ++ hash.take 16 ++ wide ".tmp" := by
  intro member
  rcases mem_append.mp member with member | member
  · rcases mem_append.mp member with member | member
    · exact absurd member (by decide)
    · exact flat (mem_of_mem_take member)
  · exact absurd member (by decide)

theorem getLocalFile_found {self : Updater} {allowExisting : Bool}
    (named : getLocalFile env self inputs allowExisting ≠ []) :
    (∃ name, '/'.toNat ∉ name ∧
      getLocalFile env self inputs allowExisting = inputs.downloadDir ++ name) ∧
    (self.files (getLocalFile env self inputs allowExisting) = none ∨
      (allowExisting = true ∧
        verifyChecksum env self.files inputs.readable
          (getLocalFile env self inputs allowExisting) self.versionInformation.available.size
          self.versionInformation.available.hash = true)) := by
  unfold getLocalFile at named ⊢
  dsimp only at named ⊢
  split at named
  case isTrue => exact absurd rfl named
  case isFalse present =>
    rw [if_neg present]
    generalize search : find? _ _ = result at named ⊢
    cases result with
    | none => exact absurd rfl named
    | some name =>
      rw [getD_some]
      refine ⟨?_, ?_⟩
      · obtain ⟨number, _, rfl⟩ := mem_map.mp (mem_of_find?_eq_some search)
        exact ⟨_, alternative_flat (getFilename_flat _) number, rfl⟩
      · have fits := find?_some search
        simp only [not_eq_true', and_eq_false_iff, or_eq_false_iff,
          not_eq_false', isSome_eq_false_iff, isNone_iff_eq_none] at fits
        exact fits

end Files

section Outcomes

variable {Time : Type} [LinearOrder Time] {env : UpdaterEnvironment Time}
  {inputs : UpdaterInputs} {self : Updater}

structure Outcome (env : UpdaterEnvironment Time) (inputs : UpdaterInputs) (before : Updater)
    (result : Updater × UpdaterState) : Prop where
  information : result.1.versionInformation = before.versionInformation
  text : result.1.rawVersionInformation = before.rawVersionInformation
  parsedWith : result.1.parsedWith = before.parsedWith
  state : result.1.state = before.state
  kept : KeepsExisting inputs before.files result.1.files
  found : result.2 = .newversionReady → KeepsLinks inputs before.files →
    ∃ content ∈ result.1.files.read env.linkDepth result.1.localFile,
      Matches env before.versionInformation.available content

omit [LinearOrder Time] in
theorem Outcome.unchanged {s : UpdaterState} (unready : s ≠ .newversionReady) :
    Outcome env inputs self (self, s) where
  information := rfl
  text := rfl
  parsedWith := rfl
  state := rfl
  kept := .refl
  found := fun ready => absurd ready unready

omit [LinearOrder Time] in
theorem Outcome.removed {files : Files} {removed : Bool} {hash : WString} {s : UpdaterState}
    (unready : s ≠ .newversionReady) (kept : KeepsExisting inputs self.files files) :
    Outcome env inputs self
      (removeFile removed (tempFile inputs.tempDir hash) { self with files := files }, s) := by
  unfold removeFile
  split
  case isTrue =>
    exact ⟨rfl, rfl, rfl, rfl, keepsExisting_remove kept hash, fun ready => absurd ready unready⟩
  case isFalse => exact ⟨rfl, rfl, rfl, rfl, kept, fun ready => absurd ready unready⟩

omit [LinearOrder Time] in
theorem renameFile_read {hash name : WString} {files : Files} {outcome : Renaming}
    {content : List UInt8} (free : files (inputs.downloadDir ++ name) = none)
    (nameFlat : '/'.toNat ∉ name) (hashFlat : '/'.toNat ∉ hash)
    (read : files.read env.linkDepth (tempFile inputs.tempDir hash) = some content)
    (links : KeepsLinks inputs files)
    (done : (renameFile env outcome (tempFile inputs.tempDir hash)
      (inputs.downloadDir ++ name) files).2 = true) :
    (renameFile env outcome (tempFile inputs.tempDir hash)
      (inputs.downloadDir ++ name) files).1.read env.linkDepth (inputs.downloadDir ++ name) =
        some content := by
  unfold renameFile at done ⊢
  rw [read] at done ⊢
  cases outcome with
  | moved =>
    apply Files.read_move free read
    intro target link
    rcases links with same | absolute
    · rw [tempFile, append_assoc, append_assoc, same, ← append_assoc (wide _)]
      exact linkTarget_append nameFlat (tempName_flat hashFlat)
    · exact linkTarget_of_absolute (absolute hash target link)
  | copied =>
    have apart : inputs.downloadDir ++ name ≠ tempFile inputs.tempDir hash := by
      intro same
      rw [← same] at read
      exact Files.read_exists read free
    cases deep : env.linkDepth with
    | zero =>
      rw [deep, Files.read] at read
      contradiction
    | succ depth =>
      change (Files.remove (files.add _ _) _).read (depth + 1) _ = _
      rw [Files.read, Files.remove, update_of_ne apart, Files.add, update_self]
  | copiedOnly => contradiction
  | failed => contradiction

omit [LinearOrder Time] in
theorem getTempFile_named (named : getTempFile self inputs ≠ []) :
    getTempFile self inputs =
      tempFile inputs.tempDir self.versionInformation.available.hash := by
  unfold getTempFile at named ⊢
  dsimp only at named ⊢
  split at named
  case isTrue => exact absurd rfl named
  case isFalse present => rw [if_neg present]

omit [LinearOrder Time] in
theorem processFinishedDownload_outcome :
    Outcome env inputs self (processFinishedDownload env inputs self) := by
  unfold processFinishedDownload
  dsimp only
  split
  case isTrue => exact .unchanged (fun same => by cases same)
  case isFalse named =>
    rw [getTempFile_named named]
    split
    case isTrue => exact .removed (fun same => by cases same) .refl
    case isFalse verified =>
      rw [not_eq_true', not_eq_false] at verified
      obtain ⟨content, read, found⟩ := verifyChecksum_matches verified
      split
      case isTrue => exact .removed (fun same => by cases same) .refl
      case isFalse nonempty =>
        obtain ⟨⟨name, flat, place⟩, available⟩ := getLocalFile_found nonempty
        have free : self.files (getLocalFile env self inputs false) = none :=
          available.resolve_right fun existing => by cases existing.1
        rw [place] at free ⊢
        have kept : KeepsExisting inputs self.files (renameFile env inputs.renamed
            (tempFile inputs.tempDir self.versionInformation.available.hash)
            (inputs.downloadDir ++ name) self.files).1 := renameFile_keeps free
        have hashFlat : '/'.toNat ∉ self.versionInformation.available.hash := by
          rw [← found.hash]
          exact hexEncode_flat _
        have moved (links : KeepsLinks inputs self.files) (done : (renameFile env
            inputs.renamed (tempFile inputs.tempDir self.versionInformation.available.hash)
            (inputs.downloadDir ++ name) self.files).2 = true) :=
          renameFile_read free flat hashFlat read links done
        generalize renameFile env inputs.renamed _ _ self.files = result at kept moved ⊢
        obtain ⟨files, done⟩ := result
        cases done with
        | false => exact .removed (fun same => by cases same) kept
        | true =>
          dsimp only at kept moved ⊢
          rw [if_neg (by decide)]
          exact ⟨rfl, rfl, rfl, rfl, kept, fun _ links =>
            ⟨content, moved links rfl, found⟩⟩

omit [LinearOrder Time] in
theorem download_same (env : UpdaterEnvironment Time) (execute : UpdaterCommand → Executed)
    (url localFile : WString) (self : Updater) :
    ∃ offset commands, (download env execute url localFile self).1 =
      { self with resumeOffset := offset, pendingCommands := commands } := by
  unfold download
  split
  case isTrue => exact ⟨_, _, rfl⟩
  case isFalse =>
    split
    case isTrue => exact ⟨_, _, rfl⟩
    case isFalse => exact ⟨_, _, rfl⟩

theorem processFinishedData_outcome {execute : UpdaterCommand → Executed} {canDownload : Bool} :
    Outcome env inputs (parseData env self)
      (processFinishedData env inputs execute canDownload self) := by
  unfold processFinishedData
  dsimp only
  generalize parseData env self = parsed
  split
  case isTrue => exact .unchanged (fun same => by cases same)
  case isFalse =>
    split
    case isTrue => exact .unchanged (fun same => by cases same)
    case isFalse =>
      split
      case isFalse => exact .unchanged (fun same => by cases same)
      case isTrue =>
        split
        case isTrue existing =>
          obtain ⟨_, free | ⟨_, verified⟩⟩ := getLocalFile_found existing.1
          · rw [free] at existing
            cases existing.2
          · obtain ⟨content, read, found⟩ := verifyChecksum_matches verified
            exact ⟨rfl, rfl, rfl, rfl, .refl, fun _ _ => ⟨content, read, found⟩⟩
        case isFalse =>
          split
          case isTrue => exact .unchanged (fun same => by cases same)
          case isFalse =>
            split
            case isTrue => exact processFinishedDownload_outcome
            case isFalse =>
              split
              case isTrue => exact .unchanged (fun same => by cases same)
              case isFalse =>
                obtain ⟨offset, commands, same⟩ := download_same env execute
                  parsed.versionInformation.available.url (getTempFile parsed inputs) parsed
                generalize download env execute _ _ parsed = result at same ⊢
                obtain ⟨next, res⟩ := result
                dsimp only at same ⊢
                subst same
                split
                case isTrue =>
                  exact ⟨rfl, rfl, rfl, rfl, .refl, fun same => by cases same⟩
                case isFalse =>
                  exact ⟨rfl, rfl, rfl, rfl, .refl, fun same => by cases same⟩

end Outcomes

section Invariant

variable {Time : Type} [LinearOrder Time] {env : UpdaterEnvironment Time}
  {inputs : UpdaterInputs} {self : Updater}

structure Sourced (env : UpdaterEnvironment Time) (updater : Updater) : Prop where
  signed : FromText env updater.rawVersionInformation updater.parsedWith
    updater.versionInformation.available
  unambiguous : Unambiguous env updater.rawVersionInformation

structure Checked (env : UpdaterEnvironment Time) (updater : Updater) : Prop where
  signed : updater.state = .newversionReady →
    ∃ moment ∈ updater.ready, ∃ content ∈ moment.files.read env.linkDepth updater.localFile,
      ∃ line ∈ lines moment.text, Offers env moment.checkBeta content (lineTokens line)
  downloading : updater.state = .newversionDownloading → Sourced env updater

theorem Checked.of_other (unready : self.state ≠ .newversionReady)
    (still : self.state ≠ .newversionDownloading) : Checked env self where
  signed := fun ready => absurd ready unready
  downloading := fun downloading => absurd downloading still

theorem Checked.properlySigned (checked : Checked env self) : ProperlySigned env self := by
  intro named
  unfold downloadedFile at named ⊢
  split at named
  case isTrue ready =>
    rw [if_pos ready]
    exact checked.signed ready
  case isFalse => exact absurd rfl named

variable {s : UpdaterState}

theorem setState_state : (setState s self).state = s := by
  unfold setState
  split
  case isTrue => rfl
  case isFalse same => exact (not_not.mp same).symm

theorem setState_files : (setState s self).files = self.files := by
  unfold setState
  split
  case isTrue => rfl
  case isFalse => rfl

theorem setState_checked_of_other (unready : s ≠ .newversionReady)
    (still : s ≠ .newversionDownloading) : Checked env (setState s self) :=
  .of_other (by rw [setState_state]; exact unready) (by rw [setState_state]; exact still)

theorem setState_checked {before : Updater} {result : Updater × UpdaterState}
    (outcome : Outcome env inputs before result) (sourced : Sourced env before)
    (links : KeepsLinks inputs before.files) (unready : before.state ≠ .newversionReady) :
    Checked env (setState result.2 result.1) := by
  obtain ⟨next, s⟩ := result
  have nextSourced : Sourced env next := by
    refine ⟨?_, ?_⟩
    · rw [outcome.text, outcome.parsedWith, outcome.information]
      exact sourced.signed
    · rw [outcome.text]
      exact sourced.unambiguous
  by_cases ready : s = .newversionReady
  · obtain ⟨content, read, found⟩ := outcome.found ready links
    rw [← outcome.information] at found
    have offered := found.offers nextSourced.signed nextSourced.unambiguous
    have changed : s ≠ next.state := by
      rw [ready, outcome.state]
      exact unready.symm
    have moment : setState s next =
        { next with
          state := s
          pendingCommands := []
          ready := some ⟨next.rawVersionInformation, next.parsedWith, next.files⟩ } := by
      rw [setState, if_pos changed, ready]
      rfl
    refine ⟨fun _ => ?_, fun downloading => ?_⟩
    · rw [moment]
      exact ⟨_, rfl, content, read, offered⟩
    · rw [setState_state, ready] at downloading
      cases downloading
  · refine ⟨fun isReady => absurd (setState_state.symm.trans isReady) ready, fun _ => ?_⟩
    unfold setState
    split
    case isTrue => exact ⟨nextSourced.signed, nextSourced.unambiguous⟩
    case isFalse => exact nextSourced

theorem setState_options : (setState s self).options = self.options := by
  unfold setState
  split
  case isTrue => rfl
  case isFalse => rfl

theorem Checked.resumed (checked : Checked env self) (offset : Nat)
    (commands : List UpdaterCommand) :
    Checked env { self with resumeOffset := offset, pendingCommands := commands } where
  signed := checked.signed
  downloading := fun still =>
    ⟨(checked.downloading still).signed, (checked.downloading still).unambiguous⟩

omit [LinearOrder Time] in
theorem shouldCheck_some {manual : Bool} {result : Updater × UpdaterState}
    (stay : shouldCheck env manual inputs self s = some result) :
    result = (self, s) ∨ (result.2 = .newversionStale ∧ result.1.files = self.files) := by
  unfold shouldCheck at stay
  dsimp only at stay
  split at stay
  case isTrue =>
    obtain ⟨-, stay⟩ := of_refusal stay
    exact .inl (some.inj stay).symm
  case isFalse =>
    split at stay
    case isFalse => exact .inl (some.inj stay).symm
    case isTrue =>
      split at stay
      case isTrue =>
        obtain ⟨-, stay⟩ := of_refusal stay
        exact .inl (some.inj stay).symm
      case isFalse =>
        split at stay
        case isTrue =>
          cases stay
          exact .inr ⟨rfl, rfl⟩
        case isFalse => exact .inl (some.inj stay).symm

theorem request_same (execute : UpdaterCommand → Executed) (self : Updater) :
    ∃ commands, (request execute self).1 = { self with pendingCommands := commands } := by
  unfold request
  split
  case isTrue => exact ⟨_, rfl⟩
  case isFalse => exact ⟨_, rfl⟩

theorem loadLocalData_outcome (env : UpdaterEnvironment Time) (inputs : UpdaterInputs)
    (self : Updater) : ∃ text, (text = [] ∨ text = self.options.newVersion) ∧
      Outcome env inputs (parseData env { self with rawVersionInformation := text })
        (loadLocalData env inputs self) := by
  unfold loadLocalData
  extract_lets text
  refine ⟨text, ?_, processFinishedData_outcome⟩
  by_cases loaded : !inputs.longTimeAtLoad ∨ self.options.disableUpdateCheck ≠ 0
  · exact .inr (if_pos loaded)
  · exact .inl (if_neg loaded)

end Invariant

section Steps

variable {Time : Type} [LinearOrder Time] {env : UpdaterEnvironment Time}
  {inputs : UpdaterInputs} {self : Updater}

theorem onRun_step {manual : Bool} :
    KeepsExisting inputs self.files (onRun env manual inputs self).files ∧
      (Checked env self → Unambiguous env self.options.newVersion →
        KeepsLinks inputs self.files → Checked env (onRun env manual inputs self)) := by
  unfold onRun
  split
  case isTrue => exact ⟨.refl, fun checked _ _ => checked⟩
  case isFalse =>
    split
    case isTrue => exact ⟨.refl, fun checked _ _ => checked⟩
    case isFalse =>
      have checking : (setState .checking self).state = .checking := setState_state
      rw [← setState_files (s := .checking), ← setState_options (s := .checking)]
      generalize setState .checking self = start at checking ⊢
      obtain ⟨text, chosen, outcome⟩ := loadLocalData_outcome env inputs start
      have unready : (parseData env { start with rawVersionInformation := text }).state ≠
          .newversionReady := by
        change start.state ≠ _
        rw [checking]
        exact fun same => by cases same
      have sourced (unambiguous : Unambiguous env start.options.newVersion) :
          Sourced env (parseData env { start with rawVersionInformation := text }) := by
        refine ⟨parseData_fromText _, ?_⟩
        rcases chosen with rfl | rfl
        · exact unambiguous_nil
        · exact unambiguous
      generalize loadLocalData env inputs start = result at outcome ⊢
      obtain ⟨next, s⟩ := result
      have stillChecking : next.state = .checking := outcome.state.trans checking
      dsimp only
      cases check : shouldCheck env manual inputs next s with
      | some found =>
        obtain ⟨last, t⟩ := found
        rcases shouldCheck_some check with same | ⟨stale, files⟩
        · cases same
          refine ⟨?_, fun _ unambiguous links => ?_⟩
          · rw [setState_files]
            exact outcome.kept
          · exact setState_checked outcome (sourced unambiguous) links unready
        · dsimp only at stale files
          refine ⟨?_, fun _ _ _ => ?_⟩
          · rw [setState_files, files]
            exact outcome.kept
          · rw [stale]
            exact setState_checked_of_other (fun same => by cases same) (fun same => by cases same)
      | none =>
        obtain ⟨commands, same⟩ :=
          request_same inputs.executeAgain { next with localFile := [] }
        dsimp only
        generalize request inputs.executeAgain _ = answer at same ⊢
        obtain ⟨last, res⟩ := answer
        dsimp only at same ⊢
        subst same
        split
        case isTrue =>
          refine ⟨?_, fun _ _ _ => .of_other ?_ ?_⟩
          · rw [setState_files]
            exact outcome.kept
          · dsimp only
            rw [setState_state]
            exact fun same => by cases same
          · dsimp only
            rw [setState_state]
            exact fun same => by cases same
        case isFalse =>
          refine ⟨outcome.kept, fun _ _ _ => .of_other ?_ ?_⟩
          · dsimp only
            rw [stillChecking]
            exact fun same => by cases same
          · dsimp only
            rw [stillChecking]
            exact fun same => by cases same

theorem operationSucceeded_step {outputBuffer : List UInt8} (waiting : busy self = true) :
    KeepsExisting inputs self.files (operationSucceeded env inputs outputBuffer self).files ∧
      (Checked env self → KeepsLinks inputs self.files →
        Checked env (operationSucceeded env inputs outputBuffer self)) := by
  unfold operationSucceeded
  split
  case isTrue checking =>
    cases filtered : filterOutput outputBuffer with
    | none =>
      refine ⟨?_, fun _ _ => setState_checked_of_other (fun same => by cases same)
        (fun same => by cases same)⟩
      dsimp only
      rw [setState_files]
      exact .refl
    | some text =>
      have outcome : Outcome env inputs (parseData env { self with rawVersionInformation := text })
          (processFinishedData env inputs inputs.executeAgain true
            { self with rawVersionInformation := text }) := processFinishedData_outcome
      have unready : (parseData env { self with rawVersionInformation := text }).state ≠
          .newversionReady := by
        change self.state ≠ _
        rw [checking]
        exact fun same => by cases same
      have sourced : Sourced env (parseData env { self with rawVersionInformation := text }) :=
        ⟨parseData_fromText _, filterOutput_unambiguous filtered⟩
      refine ⟨?_, fun _ links => setState_checked outcome sourced links unready⟩
      dsimp only
      rw [setState_files]
      exact outcome.kept
  case isFalse still =>
    have downloading : self.state = .newversionDownloading := by
      simpa [busy, still] using waiting
    have outcome : Outcome env inputs self (processFinishedDownload env inputs self) :=
      processFinishedDownload_outcome
    refine ⟨?_, fun checked links =>
      setState_checked outcome (checked.downloading downloading) links ?_⟩
    · dsimp only
      rw [setState_files]
      exact outcome.kept
    · rw [downloading]
      exact fun same => by cases same

omit [LinearOrder Time] in
theorem retryDownload_same {next : Updater}
    (retried : (retryDownload env inputs self).1 = some next ∨
      (retryDownload env inputs self).2 = next) :
    ∃ offset commands,
      next = { self with resumeOffset := offset, pendingCommands := commands } := by
  unfold retryDownload at retried
  dsimp only at retried
  split at retried
  case isTrue =>
    split at retried
    case isTrue =>
      rcases retried with same | same
      · cases same
        exact ⟨_, _, rfl⟩
      · cases same
        exact ⟨_, _, rfl⟩
    case isFalse =>
      rcases retried with same | same
      · cases same
      · cases same
        exact ⟨_, _, rfl⟩
  case isFalse =>
    rcases retried with same | same
    · cases same
    · cases same
      exact ⟨_, _, rfl⟩

theorem operationFailed_step :
    (operationFailed env inputs self).files = self.files ∧
      (Checked env self → Checked env (operationFailed env inputs self)) := by
  unfold operationFailed
  split
  case h_1 next _ retried =>
    obtain ⟨offset, commands, rfl⟩ := retryDownload_same (.inl (congrArg Prod.fst retried))
    exact ⟨rfl, fun checked => checked.resumed offset commands⟩
  case h_2 next retried =>
    obtain ⟨offset, commands, rfl⟩ := retryDownload_same (.inr (congrArg Prod.snd retried))
    refine ⟨setState_files, fun _ => ?_⟩
    split
    case isTrue =>
      exact setState_checked_of_other (fun same => by cases same) (fun same => by cases same)
    case isFalse =>
      exact setState_checked_of_other (fun same => by cases same) (fun same => by cases same)

theorem processOperation_step {commandId : UpdaterCommand} {replyCode : Nat}
    {outputBuffer : List UInt8} :
    KeepsExisting inputs self.files
        (processOperation env commandId replyCode inputs outputBuffer self).files ∧
      (Checked env self → KeepsLinks inputs self.files →
        Checked env (processOperation env commandId replyCode inputs outputBuffer self)) := by
  have kept {next : Updater} (same : next.files = self.files) :
      KeepsExisting inputs self.files next.files := by
    rw [same]
    exact .refl
  unfold processOperation
  split
  case isTrue => exact ⟨.refl, fun checked _ => checked⟩
  case isFalse waiting =>
    rw [not_eq_true', not_eq_false] at waiting
    split
    case isTrue =>
      exact ⟨kept setState_files, fun _ _ =>
        setState_checked_of_other (fun same => by cases same) (fun same => by cases same)⟩
    case isFalse =>
      split
      case isTrue =>
        dsimp only [resumePending]
        obtain ⟨commands, res⟩ := continueDownload inputs.execute self.pendingCommands.tail
        have resumed (checked : Checked env self) := checked.resumed self.resumeOffset commands
        cases res with
        | wouldBlock => exact ⟨.refl, fun checked _ => resumed checked⟩
        | ok =>
          obtain ⟨same, sound⟩ := @operationSucceeded_step _ _ env inputs
            { self with pendingCommands := commands } outputBuffer waiting
          exact ⟨same, fun checked => sound (resumed checked)⟩
        | error =>
          obtain ⟨same, sound⟩ := @operationFailed_step _ _ env inputs
            { self with pendingCommands := commands }
          exact ⟨kept same, fun checked _ => sound (resumed checked)⟩
      case isFalse =>
        exact ⟨kept operationFailed_step.1, fun checked _ => operationFailed_step.2 checked⟩

theorem reset_files : (reset self).files = self.files := by
  unfold reset
  split
  case isTrue => rfl
  case isFalse => exact setState_files

theorem reset_checked (checked : Checked env self) : Checked env (reset self) := by
  unfold reset
  split
  case isTrue => exact checked
  case isFalse =>
    exact setState_checked_of_other (fun same => by cases same) (fun same => by cases same)

theorem handle_checked (checked : Checked env self) {event : Event}
    (regular : event.Regular env self) : Checked env (handle env self event) := by
  cases event with
  | run manual inputs => exact onRun_step.2 checked regular.1 regular.2
  | operation commandId replyCode outputBuffer inputs =>
    exact processOperation_step.2 checked regular
  | reset => exact reset_checked checked
  | optionsChanged options =>
    exact ⟨checked.signed, fun still =>
      ⟨(checked.downloading still).signed, (checked.downloading still).unambiguous⟩⟩
  | filesChanged files =>
    exact ⟨checked.signed, fun still =>
      ⟨(checked.downloading still).signed, (checked.downloading still).unambiguous⟩⟩

theorem handle_keeps (event : Event) :
    event.KeepsExisting self.files (handle env self event).files := by
  cases event with
  | run manual inputs =>
    obtain ⟨kept, _⟩ := @onRun_step _ _ env inputs self manual
    exact kept
  | operation commandId replyCode outputBuffer inputs =>
    obtain ⟨kept, _⟩ :=
      @processOperation_step _ _ env inputs self commandId replyCode outputBuffer
    exact kept
  | reset => exact reset_files
  | optionsChanged options => rfl
  | filesChanged files => trivial

end Steps

variable {Time : Type} [LinearOrder Time] {env : UpdaterEnvironment Time}

/-- Existing files are kept in every run. In runs that read no stored version text with a
signed version beyond ASCII and that move no relative link, the update that is offered was
signed for. -/
theorem offered_update_is_signed {options : UpdaterOptions} {files : Files}
    {trace : List (Updater × Event)} {state : Updater}
    (run : Run (step env) (initial options files) trace state) :
    ((∀ taken ∈ trace, taken.2.Regular env taken.1) → ProperlySigned env state) ∧
      ∀ event next, step env state event = some next →
        event.KeepsExisting state.files next.files := by
  refine ⟨fun regular => ?_, ?_⟩
  · have checked : Checked env state := by
      apply Run.invariant_of_forall _ _ run regular
      · exact .of_other (fun same => by cases same) (fun same => by cases same)
      · intro state event next checked regular taken
        cases taken
        exact handle_checked checked regular
    exact checked.properlySigned
  · intro event next taken
    cases taken
    exact handle_keeps event

/-! Updates that are offered without a signature: a stored text gives the signed version
another character with the same low byte, and a relative link is moved to another directory. -/

section Replayed

def installer : List UInt8 :=
  asciiBytes "MZ"

def installerHash : WString :=
  wide "bfcdcb26b6f0c288838da7b0d338c2af63798a2ece9dcd6bc07b7cadf44477e3" ++
    wide "d5cfbba5b72446c61a1ecf74a0bccc62894ea87a40730cd1d4c2a3e15a7bb55b"

def release (version : WString) : WString :=
  wide "release " ++ version ++ wide " https://d/a.exe 2 sha512 " ++ installerHash ++
    wide " sig:AAEC"

/-- A library for which one signature, over two versions of one file, is known -/
def signingEnvironment : UpdaterEnvironment Nat where
  fileZillaVersion := wide "3.66.5"
  buildType := wide "official"
  buildDate := none
  datetime := fun _ => none
  base64Decode := fun text => if text = asciiBytes "AAEC" then [0, 1, 2] else []
  verify := fun data signature =>
    signature = [0, 1, 2] ∧
      (data = hexDecode installerHash ++ 0 :: asciiBytes "3.10.0" ∨
        data = hexDecode installerHash ++ 0 :: asciiBytes "3.67.0")
  sha512 := fun content => if content = installer then hexDecode installerHash else []
  downloadable := fun _ => true
  eolData := none
  autoUpdateCheck := true
  linkDepth := 40

def startInputs : UpdaterInputs where
  downloadDir := wide "/d/"
  tempDir := wide "/tmp/"
  readable := fun _ => true
  execute := fun _ => .wouldBlock
  executeAgain := fun _ => .wouldBlock
  renamed := .moved
  removed := true
  longTimeAtLoad := false
  longTimeAtCheck := false
  oldBuild := false

def storedText (text : WString) : UpdaterOptions where
  newVersion := text
  checkBeta := 0
  updateCheck := 1
  disableUpdateCheck := 0

/-- `3.10.0` with U+012E for its second dot, which reads as 3.100 -/
def replayedVersion : WString :=
  wide "3.10" ++ [0x12e] ++ wide "0"

def downloaded : Files := fun name =>
  if name = wide "/d/a.exe" then some (.file installer) else none

def linked : Files := fun name =>
  if name = tempFile (wide "/tmp/") installerHash then some (.link (wide "other.exe"))
  else if name = wide "/tmp/other.exe" then some (.file installer)
  else if name = wide "/d/other.exe" then some (.file [0])
  else none

instance (self : Updater) : Decidable (ProperlySigned signingEnvironment self) :=
  inferInstanceAs (Decidable (_ → _))

theorem loaded (self : Updater) :
    step signingEnvironment self (.run false startInputs) =
      some (handle signingEnvironment self (.run false startInputs)) :=
  rfl

theorem unsigned_update_offered :
    (∃ trace state,
      Run (step signingEnvironment) (initial (storedText (release replayedVersion)) downloaded)
        trace state ∧ ¬ProperlySigned signingEnvironment state) ∧
    ∃ trace state,
      Run (step signingEnvironment) (initial (storedText (release (wide "3.67.0"))) linked)
        trace state ∧ ¬ProperlySigned signingEnvironment state := by
  refine ⟨⟨_, _, .cons (loaded _) .refl, ?_⟩, ⟨_, _, .cons (loaded _) .refl, ?_⟩⟩
  · decide +kernel
  · decide +kernel

theorem current_update_offered :
    let start := initial (storedText (release (wide "3.67.0"))) downloaded
    downloadedFile (handle signingEnvironment start (.run false startInputs)) = wide "/d/a.exe" ∧
      ProperlySigned signingEnvironment
        (handle signingEnvironment start (.run false startInputs)) := by
  have unambiguous : Unambiguous signingEnvironment (release (wide "3.67.0")) :=
    unambiguous_of_ascii (by decide +kernel)
  have links : KeepsLinks startInputs downloaded := by
    refine .inr fun hash target link => ?_
    obtain ⟨-, link⟩ := of_guard link
    exact nomatch some.inj link
  refine ⟨by decide +kernel, (offered_update_is_signed (Run.step .refl rfl)).1 ?_⟩
  intro taken member
  rw [nil_append, mem_singleton] at member
  rw [member]
  exact ⟨unambiguous, links⟩

end Replayed

end Updater

end FileZilla
