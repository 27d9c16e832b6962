import FileZilla.Engine.DirectoryListingParser.Leakage

namespace FileZilla

open List Option

namespace CLine

variable {line : CLine}

theorem fromToken_head {n : Nat} (filled : line.getToken n ≠ []) :
    ∃ char rest, line.fromToken n = char :: rest ∧ isBlank char = false := by
  unfold getToken at filled
  cases found : line.fromToken n with
  | nil => simp [found] at filled
  | cons char rest =>
    refine ⟨char, rest, rfl, ?_⟩
    cases blank : isBlank char with
    | false => rfl
    | true => simp [found, blank] at filled

def IsEndToken (line : CLine) (token : CToken) : Prop :=
  ∃ n, line.getEndToken? n = some token

theorem IsEndToken.head {token : CToken} (isEndToken : IsEndToken line token) :
    ∃ char rest, token = char :: rest ∧ isBlank char = false := by
  obtain ⟨n, found⟩ := isEndToken
  unfold getEndToken? at found
  split at found
  · cases found
  case isFalse filled =>
    cases found
    unfold getEndToken at filled ⊢
    split at filled
    · exact absurd rfl filled
    case isFalse present =>
      rw [if_neg present]
      have filledToken : line.getToken n ≠ [] := by simpa using present
      obtain ⟨char, rest, start, visible⟩ := fromToken_head filledToken
      rw [start] at filled ⊢
      cases room : (char :: rest).length - line.trailingWhitespace with
      | zero => exact absurd (by rw [room]; rfl) filled
      | succ count => exact ⟨char, rest.take count, rfl, visible⟩

theorem IsEndToken.ne_nil {token : CToken} (isEndToken : IsEndToken line token) :
    token ≠ [] := by
  obtain ⟨char, rest, rfl, _⟩ := isEndToken.head
  exact cons_ne_nil _ _

end CLine

theorem find_lt {token : CToken} {chars : WString} {start pos : Nat}
    (found : token.find chars start = some pos) : pos < token.length := by
  unfold CToken.find at found
  obtain ⟨index, position, rfl⟩ := map_eq_some_iff.mp found
  have within := (findIdx?_eq_some_iff_getElem.mp position).choose
  rw [length_drop] at within
  omega

namespace EntryParser

open Rejecting CLine

variable {Time : Type} {α β : Type} (context : ListingContext Time)

abbrev Named (parser : EntryParser Time α) : Prop :=
  Ensures (fun _ entry => entry.name ≠ []) parser

variable {name : WString}

theorem setName_named (filled : name ≠ []) :
    Named (setName name : EntryParser Time Unit) := by
  rintro record _ _ ⟨⟩
  exact filled

theorem Named.first {parser : EntryParser Time α} {next : α → EntryParser Time β}
    (named : Named parser) (rest : ∀ value, Keeps (mask {.name}) (next value)) :
    Named (parser >>= next) := by
  have keeps : ∀ value, Keeps CDirentry.name (next value) := by
    intro value record
    have kept := congrArg CDirentry.name (rest value record)
    simpa [mask] using kept
  exact Ensures.bind_keeps CDirentry.name (· ≠ []) named keeps

variable {line : CLine} {token : CToken}

theorem getToken_filled {n : Nat} (found : line.getToken? n = some token) : token ≠ [] := by
  unfold getToken? at found
  split at found
  · cases found
  case isFalse filled =>
    cases found
    simpa using filled

theorem unixDateAndName_ensures (line : CLine) (expectDate : Bool) (ownerGroup : WString)
    (index : Nat) :
    Ensures (fun result _ => ∀ found ∈ result, IsEndToken line found.2)
      (unixDateAndName context line expectDate ownerGroup index) := by
  refine .bind fun result => ?_
  cases result with
  | none => exact .pure fun _ _ found => by cases found
  | some index =>
    refine .ite (fun _ => .pure fun _ _ found => by cases found) fun filled => .pure ?_
    rintro _ _ ⟨⟩
    exact ⟨index + 1, by unfold getEndToken?; rw [if_neg filled]⟩

theorem unixAttempt_ensures (line : CLine) (expectDate : Bool) (startindex numOwnerGroup : Nat) :
    Ensures (fun result _ => ∀ found ∈ result, IsEndToken line found.2)
      (unixAttempt context line expectDate startindex numOwnerGroup) := by
  refine .bind fun ownerGroup => .bind fun sizeToken => .bind fun valid => ?_
  refine .ite (fun _ => unixDateAndName_ensures context line expectDate _ _) fun _ => ?_
  refine .ite (fun _ => ?_) fun _ => .pure fun _ _ found => by cases found
  exact .bind fun _ => unixDateAndName_ensures context line expectDate _ _

theorem unixColumns_ensures (line : CLine) (expectDate : Bool) (startindex numOwnerGroup : Nat) :
    Ensures (fun found _ => IsEndToken line found.2)
      (unixColumns context line expectDate startindex numOwnerGroup) := by
  induction numOwnerGroup with
  | zero =>
    refine .bind_value (unixAttempt_ensures context line expectDate startindex 0)
      fun result ⟨_, names⟩ => ?_
    cases result with
    | none => exact .failure
    | some columns => exact .pure fun _ => names columns rfl
  | succ numOwnerGroup ih =>
    refine .bind_value (unixAttempt_ensures context line expectDate startindex _)
      fun result ⟨_, names⟩ => ?_
    cases result with
    | none => exact ih
    | some columns => exact .pure fun _ => names columns rfl

theorem unixFields_ensures (line : CLine) (expectDate : Bool) (permissionToken : CToken) :
    Ensures (fun found _ => IsEndToken line found.2.2)
      (unixFields context line expectDate permissionToken) := by
  iterate 5 refine .bind fun _ => ?_
  exact .bind_value (unixColumns_ensures context line expectDate _ 3)
    fun columns ⟨_, names⟩ => .pure fun _ => names

def typeSuffixes : List WString := [wide "/", wide "|", wide "*"]

theorem withoutTypeSuffix_ne_nil (filled : token ≠ []) (more : token ∉ typeSuffixes) :
    withoutTypeSuffix token ≠ [] := by
  unfold withoutTypeSuffix
  split
  case isTrue suffix =>
    intro empty
    match token, filled, empty with
    | [char], _, _ =>
      refine more ?_
      simpa [containsAny, typeSuffixes, wide] using suffix
  case isFalse => exact filled

variable {char : WChar} {rest : WString}

theorem findText_head {pattern : WString} (different : pattern.head? ≠ some char)
    (nonempty : pattern ≠ []) :
    findText pattern (char :: rest) ≠ some 0 := by
  unfold findText
  split
  case isTrue matched =>
    cases pattern with
    | nil => exact absurd rfl nonempty
    | cons first _ =>
      simp only [isPrefixOf, Bool.and_eq_true, beq_iff_eq] at matched
      exact absurd (congrArg some matched.1) different
  case isFalse => simp

theorem linkParts_ne_nil {target : WString} (visible : isBlank char = false)
    (found : linkParts (char :: rest) = some (name, target)) : name ≠ [] := by
  unfold linkParts at found
  obtain ⟨pos, position, parts⟩ := map_eq_some_iff.mp found
  cases parts
  have later : pos ≠ 0 := by
    rintro rfl
    refine findText_head ?_ (by decide) position
    rintro ⟨⟩
    cases visible
  obtain ⟨before, rfl⟩ := Nat.exists_eq_succ_of_ne_zero later
  simp

theorem withoutTypeSuffix_prefix (token : CToken) :
    ∃ dropped, withoutTypeSuffix token ++ dropped = token := by
  unfold withoutTypeSuffix
  split
  · exact ⟨_, (List.dropLast_prefix token).choose_spec⟩
  · exact ⟨[], append_nil _⟩

theorem setUnixName_named (isEndToken : IsEndToken line token) (more : token ∉ typeSuffixes)
    (isLink : Bool) :
    Named (setUnixName isLink token : EntryParser Time Unit) := by
  have filled := withoutTypeSuffix_ne_nil isEndToken.ne_nil more
  unfold setUnixName
  dsimp only
  split
  case h_1 name target parts =>
    refine .bind fun _ => setName_named ?_
    obtain ⟨char, rest, start, visible⟩ := isEndToken.head
    obtain ⟨dropped, whole⟩ := withoutTypeSuffix_prefix token
    obtain ⟨first, others, shown⟩ := exists_cons_of_ne_nil filled
    rw [shown, start] at whole
    rw [shown] at parts
    have same : first = char := (cons.inj whole).1
    exact linkParts_ne_nil (same ▸ visible) parts
  case h_2 => exact setName_named filled

def UnixNamesFile (line : CLine) (expectDate : Bool) : Prop :=
  ∀ found ∈ ((unixFields context line expectDate (line.getToken 0)).outcome {}).1,
    found.2.2 ∉ typeSuffixes

theorem parseAsUnix_named {expectDate : Bool} (names : UnixNamesFile context line expectDate) :
    Named (parseAsUnix context line expectDate) := by
  refine .ofOption_bind fun permissionToken present => ?_
  cases getToken?_eq present
  have found : Ensures (fun found _ => IsEndToken line found.2.2 ∧
      found.2.2 ∉ typeSuffixes) (unixFields context line expectDate (line.getToken 0)) := by
    intro record found left accepts
    refine ⟨unixFields_ensures context line expectDate _ record found left accepts,
      names found ?_⟩
    rw [(Settles.determined (Finset.empty_subset ∅)).same {} record fun _ member =>
      absurd member (Finset.notMem_empty _), accepts]
    rfl
  refine .bind_value found fun (permissions, ownerGroup, nameToken) ⟨_, isEndToken, more⟩ => ?_
  refine (setUnixName_named isEndToken more _).first fun _ => ?_
  repeat refine .step rfl fun _ => ?_
  exact .last rfl

theorem isEndToken {n : Nat} (found : line.getEndToken? n = some token) : IsEndToken line token :=
  ⟨n, found⟩

theorem parseAsDos_named (line : CLine) : Named (parseAsDos context line) := by
  iterate 7 refine .bind fun _ => ?_
  refine .ofOption_bind fun token found => ?_
  refine (setName_named (isEndToken found).ne_nil).first fun _ => ?_
  repeat refine .step rfl fun _ => ?_
  exact .last rfl

theorem parseAsEplf_named (line : CLine) : Named (parseAsEplf context line) := by
  refine .bind fun token => .bind fun _ => ?_
  cases tab : token.find ['\t'.toNat] with
  | none => exact .failure
  | some pos =>
    refine .require_bind fun inside => ?_
    have named : token.drop (pos + 1) ≠ [] := by
      have within := find_lt tab
      intro empty
      have short := drop_eq_nil_iff.mp empty
      omega
    refine (setName_named named).first fun _ => ?_
    iterate 2 refine .step rfl fun _ => ?_
    refine .step (decide_eq_true ?_) fun permissions => ?_
    · unfold eplfTime
      split <;> decide
    repeat refine .step rfl fun _ => ?_
    exact .last rfl

def VmsNamesFile (line : CLine) : Prop :=
  ∀ pos ∈ (line.getToken 0).find [';'.toNat],
    unescape '^'.toNat (vmsName (line.getToken 0) pos) ≠ []

theorem vmsHead_named (names : VmsNamesFile line) :
    Named (vmsHead context line) := by
  refine .ofOption_bind fun token found => ?_
  cases getToken?_eq found
  cases version : (line.getToken 0).find [';'.toNat] with
  | none => exact .failure
  | some pos =>
    refine .bind fun _ => .bind fun _ => ?_
    refine (setName_named (names pos version)).first fun _ => ?_
    refine .step rfl fun (ownerGroup, index, token) => .step (decide_eq_true ?_) fun _ => ?_
    · unfold vmsSizeFields
      split <;> decide
    · exact .step rfl fun _ => .pure _

theorem parseAsVms_named (names : VmsNamesFile line) :
    Named (parseAsVms context line) := by
  refine (vmsHead_named context names).first fun (ownerGroup, gotSize, index) => ?_
  refine .ite (fun _ => .pure _) fun _ => ?_
  repeat refine .step rfl fun _ => ?_
  exact .last rfl

theorem numericalUnix_named (line : CLine) (firstToken token : CToken) :
    Named (numericalUnix context line firstToken token) := by
  iterate 8 refine .bind fun _ => ?_
  refine .ofOption_bind fun nameToken found => ?_
  refine (setName_named (isEndToken found).ne_nil).first fun _ => ?_
  repeat refine .step rfl fun _ => ?_
  exact .last rfl

theorem withoutDirMarker_ne_nil (visible : isBlank char = false)
    (more : strToLowerAscii (char :: rest) ≠ wide "<dir>")
    (found : withoutDirMarker (char :: rest) = some name) : name ≠ [] := by
  unfold withoutDirMarker at found
  split at found
  case isFalse => cases found
  case isTrue marked =>
    rintro rfl
    have spaces : ∀ other ∈ (char :: rest).take ((char :: rest).length - 5),
        (other == 32) = true := rdropWhile_eq_nil_iff.mp (some.inj found)
    cases before : (char :: rest).length - 5 with
    | zero =>
      rw [before] at marked
      exact more marked.2
    | succ count =>
      rw [before] at spaces
      have space := spaces char (by simp)
      simp [isBlank, beq_iff_eq.mp space] at visible

theorem os2Style_named (names : ∀ isDir, os2Attributes (line.tokensFrom 1) = some (0, isDir) →
      strToLowerAscii (line.getEndToken 3) ≠ wide "<dir>") :
    Named (os2Style context line) := by
  unfold os2Style
  cases attributes : os2Attributes (line.tokensFrom 1) with
  | none => exact .bind fun _ => .failure
  | some skipped =>
    obtain ⟨skippedCount, isDir⟩ := skipped
    iterate 5 refine .bind fun _ => ?_
    refine .ofOption_bind fun nameToken found => ?_
    obtain ⟨char, rest, start, visible⟩ := (isEndToken found).head
    split
    case h_1 name marker =>
      refine .bind fun _ => setName_named ?_
      rw [start] at marker
      refine withoutDirMarker_ne_nil visible ?_ marker
      rw [← start, getEndToken?_eq found]
      exact names isDir attributes
    case h_2 => exact setName_named (isEndToken found).ne_nil

theorem vshellStyle_named (month : Int) (names : line.getEndToken 5 ∉ [wide "/", wide "\\"]) :
    Named (vshellStyle context line month) := by
  iterate 8 refine .bind fun _ => ?_
  refine .ofOption_bind fun nameToken found => ?_
  have filled := (isEndToken found).ne_nil
  rw [← getEndToken?_eq found] at names
  refine .ite (fun separator => ?_) fun _ => setName_named filled
  refine .bind fun _ => setName_named fun empty => ?_
  match nameToken, filled, empty with
  | [char], _, _ =>
    refine names ?_
    simpa [containsAny, wide] using separator

def OtherNamesFile (line : CLine) : Prop :=
  match getMonthFromName (line.getToken 1) with
  | none => ∀ isDir, os2Attributes (line.tokensFrom 1) = some (0, isDir) →
      strToLowerAscii (line.getEndToken 3) ≠ wide "<dir>"
  | some _ => line.getEndToken 5 ∉ [wide "/", wide "\\"]

theorem parseOther_named (names : (line.getToken 1).isNumeric = false →
      OtherNamesFile line) (maybeMultilineVms : Bool) :
    Named (parseOther context line maybeMultilineVms) := by
  refine .bind fun firstToken => .bind fun _ => .ofOption_bind fun token found => ?_
  cases getToken?_eq found
  refine .bind fun _ => .ite (fun _ => numericalUnix_named context line _ _) fun text => ?_
  have names := names (by simpa using text)
  refine .bind fun _ => .bind fun _ => ?_
  have named : Named (otherFields context line (line.getToken 1)) := by
    unfold otherFields
    unfold OtherNamesFile at names
    cases month : getMonthFromName (line.getToken 1) with
    | none =>
      rw [month] at names
      exact os2Style_named context names
    | some number =>
      rw [month] at names
      exact vshellStyle_named context number names
  refine named.first fun _ => ?_
  repeat refine .step rfl fun _ => ?_
  exact .last rfl

theorem parseAsMlsd_ensures (line : CLine) :
    Ensures (fun stored entry => stored = true → entry.name ≠ []) (parseAsMlsd context line) := by
  refine .bind fun token => .bind fun _ => .bind fun _ => .bind fun _ => .bind fun _ => ?_
  refine .bind fun facts => ?_
  cases facts with
  | none => exact .pure fun _ stored => by cases stored
  | some facts =>
    refine .require_bind fun filled => ?_
    have named : Named (do
        setName (line.getEndTokenWithWhitespace 1)
        setOwnerGroup (mlsdOwnerGroup facts)
        setPermissions facts.permissions
        pure true : EntryParser Time Bool) := by
      refine (setName_named filled).first fun _ => ?_
      repeat refine .step rfl fun _ => ?_
      exact .pure _
    exact fun record value left accepts _ => named record value left accepts

theorem parseAsIbm_named (names : line.getEndToken 5 ≠ wide "/") :
    Named (parseAsIbm context line) := by
  iterate 9 refine .bind fun _ => ?_
  refine .ofOption_bind fun nameToken found => ?_
  have filled := (isEndToken found).ne_nil
  rw [← getEndToken?_eq found] at names
  have named : Named (setIbmName nameToken : EntryParser Time Unit) := by
    refine .ite (fun slash => ?_) fun _ => setName_named filled
    refine (setName_named fun empty => ?_).first fun _ => .last rfl
    match nameToken, filled, empty with
    | [char], _, _ => exact names (congrArg (fun char => [char]) (some.inj slash))
  refine named.first fun _ => ?_
  repeat refine .step rfl fun _ => ?_
  exact .last rfl

theorem parseAsWfFtp_named (line : CLine) : Named (parseAsWfFtp context line) := by
  refine .ofOption_bind fun nameToken found => ?_
  refine (setName_named (getToken_filled found)).first fun _ => ?_
  repeat refine .step rfl fun _ => ?_
  exact .last rfl

theorem mvsVsam_named (line : CLine) (token : CToken) :
    Named (mvsVsam line token : EntryParser Time Unit) := by
  refine .bind fun _ => .ofOption_bind fun nameToken found => ?_
  refine (setName_named (getToken_filled found)).first fun _ => ?_
  repeat refine .step rfl fun _ => ?_
  exact .last rfl

theorem mvsFields_named (line : CLine) : Named (mvsFields line : EntryParser Time Unit) := by
  iterate 3 refine .bind fun _ => ?_
  refine .bind fun index => .bind fun _ => ?_
  iterate 5 refine .bind fun _ => ?_
  refine .ofOption_bind fun nameToken found => ?_
  refine (setName_named (isEndToken found).ne_nil).first fun _ => ?_
  repeat refine .step rfl fun _ => ?_
  exact .last rfl

theorem parseAsIbmMvs_named (line : CLine) : Named (parseAsIbmMvs context line) := by
  refine .bind fun _ => .bind fun _ => .bind fun token => .bind fun _ => ?_
  refine .ite (fun _ => mvsFields_named line) fun _ => .bind fun dated => ?_
  cases dated with
  | some _ => exact mvsFields_named line
  | none => exact mvsVsam_named line token

theorem parseAsIbmMvsPds_named (line : CLine) : Named (parseAsIbmMvsPds context line) := by
  refine .ofOption_bind fun nameToken found => ?_
  refine (setName_named (getToken_filled found)).first fun _ => ?_
  repeat refine .step rfl fun _ => ?_
  exact .last rfl

theorem parseAsOs9_named (line : CLine) : Named (parseAsOs9 context line) := by
  refine .bind fun ownerGroupToken => ?_
  cases ownerGroupToken.find ['.'.toNat] with
  | none => exact .failure
  | some pos =>
    iterate 13 refine .bind fun _ => ?_
    refine .ofOption_bind fun nameToken found => ?_
    refine (setName_named (isEndToken found).ne_nil).first fun _ => ?_
    repeat refine .step rfl fun _ => ?_
    exact .last rfl

theorem parseAsIbmMvsMigrated_named (line : CLine) :
    Named (parseAsIbmMvsMigrated line : EntryParser Time Unit) := by
  refine .bind fun _ => .bind fun _ => .ofOption_bind fun nameToken found => ?_
  refine (setName_named (getToken_filled found)).first fun _ => ?_
  repeat refine .step rfl fun _ => ?_
  exact .last rfl

theorem parseAsIbmMvsPds2_named (line : CLine) :
    Named (parseAsIbmMvsPds2 line : EntryParser Time Unit) := by
  refine .ofOption_bind fun nameToken found => ?_
  refine (setName_named (getToken_filled found)).first fun _ => ?_
  iterate 4 refine .step rfl fun _ => ?_
  refine .ite (fun _ => .pure _) fun _ => ?_
  iterate 5 refine .step rfl fun _ => ?_
  exact .bind (.require _) fun _ => .require _

theorem parseAsIbmMvsTape_named (line : CLine) :
    Named (parseAsIbmMvsTape line : EntryParser Time Unit) := by
  iterate 3 refine .bind fun _ => ?_
  refine .ofOption_bind fun dsname found => ?_
  refine (setName_named (getToken_filled found)).first fun _ => ?_
  iterate 4 refine .step rfl fun _ => ?_
  exact .last rfl

theorem parseAsZvm_named (line : CLine) : Named (parseAsZvm context line) := by
  refine .bind fun nameToken => .bind fun _ => .bind fun extension => ?_
  refine (setName_named (by simp)).first fun _ => ?_
  repeat refine .step rfl fun _ => ?_
  exact .last rfl

theorem parseAsHpNonstop_named (line : CLine) : Named (parseAsHpNonstop context line) := by
  refine .ofOption_bind fun nameToken found => ?_
  refine (setName_named (getToken_filled found)).first fun _ => ?_
  repeat refine .step rfl fun _ => ?_
  exact .last rfl

def NamesFile (line : CLine) : ListingFormat → Prop
  | .unix => UnixNamesFile context line true
  | .unixDateless => UnixNamesFile context line false
  | .vms => VmsNamesFile line
  | .other => (line.getToken 1).isNumeric = false → OtherNamesFile line
  | .ibm => line.getEndToken 5 ≠ wide "/"
  | _ => True

theorem parserOf_named {format : ListingFormat} (names : NamesFile context line format)
    (maybeMultilineVms : Bool) :
    Ensures (fun stored entry => stored = true → entry.name ≠ [])
      (parserOf context maybeMultilineVms line format) := by
  have always : ∀ {parser : EntryParser Time Unit}, Named parser →
      Ensures (fun stored entry => stored = true → entry.name ≠ [])
        ((fun _ => true) <$> parser) :=
    fun named record value left accepts _ => named.map _ record value left accepts
  cases format with
  | mlsd => exact parseAsMlsd_ensures context line
  | zvm => exact always (parseAsZvm_named context line)
  | hpNonstop => exact always (parseAsHpNonstop_named context line)
  | unix => exact always (parseAsUnix_named context names)
  | dos => exact always (parseAsDos_named context line)
  | eplf => exact always (parseAsEplf_named context line)
  | vms => exact always (parseAsVms_named context names)
  | other => exact always (parseOther_named context names _)
  | ibm => exact always (parseAsIbm_named context names)
  | wfFtp => exact always (parseAsWfFtp_named context line)
  | mvs => exact always (parseAsIbmMvs_named context line)
  | mvsPds => exact always (parseAsIbmMvsPds_named context line)
  | os9 => exact always (parseAsOs9_named context line)
  | mvsMigrated => exact always (parseAsIbmMvsMigrated_named line)
  | mvsPds2 => exact always (parseAsIbmMvsPds2_named line)
  | mvsTape => exact always (parseAsIbmMvsTape_named line)
  | unixDateless => exact always (parseAsUnix_named context names)

end EntryParser

end FileZilla
