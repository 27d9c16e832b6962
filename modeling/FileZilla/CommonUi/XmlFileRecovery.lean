import FileZilla.CommonUi.XmlFile
import FileZilla.Text

namespace FileZilla

open List

namespace XmlFile

variable {Document : Type} {format : XmlFormat Document}

/-- The bytes are read as the document, and no part that a writer leaves of them is read as
another one. -/
structure Holds (format : XmlFormat Document) (bytes : List UInt8) (document : Document) :
    Prop where
  filled : bytes ≠ []
  parses : format.parse bytes = some document
  parts : ∀ part, part <+: bytes → format.parse part = none ∨ format.parse part = some document

def Readable (format : XmlFormat Document) : Prop :=
  ∀ document, Holds format (format.serialize document) document

variable {bytes : List UInt8} {document : Document}

theorem Holds.getXmlFile (holds : Holds format bytes document) :
    getXmlFile format (some bytes) = some document := by
  have filled : Files.hasSize (some bytes) = true := by
    simpa [Files.hasSize] using holds.filled
  rw [XmlFile.getXmlFile, if_pos filled]
  exact holds.parses

def Part (format : XmlFormat Document) (part : List UInt8) (document : Document) : Prop :=
  ∃ bytes, Holds format bytes document ∧ part <+: bytes

theorem Part.holds {part : List UInt8} {other : Document} (written : Part format part document)
    (loads : XmlFile.getXmlFile format (some part) = some other) :
    other = document ∧ Holds format part document := by
  obtain ⟨bytes, holds, whole⟩ := written
  obtain ⟨filled, loads⟩ := of_guard loads
  have parses : format.parse part = some other := loads
  have same : other = document := by
    rcases holds.parts part whole with unread | read
    · rw [unread] at parses
      cases parses
    · exact Option.some.inj (parses.symm.trans read)
  subst same
  refine ⟨rfl, ?_, parses, fun shorter first => holds.parts shorter (first.trans whole)⟩
  simpa [Files.hasSize] using filled

theorem changes_append (files : Files) (first second : List Change) :
    files.changes (first ++ second) = (files.changes first).changes second :=
  foldl_append

theorem take_append_cases (count : Nat) (first second : List Change) :
    (∃ fewer, (first ++ second).take count = first.take fewer) ∨
      ∃ fewer, (first ++ second).take count = first ++ second.take fewer := by
  rw [take_append]
  rcases Nat.le_total count first.length with inside | beyond
  · refine .inl ⟨count, ?_⟩
    rw [Nat.sub_eq_zero_of_le inside, take_zero, append_nil]
  · refine .inr ⟨count - first.length, ?_⟩
    rw [take_of_length_le beyond]

open Change

theorem changes_appends (files : Files) (name : FileName) (part bytes : List UInt8)
    (there : files.get name = some part) :
    files.changes (bytes.map (append name)) = files.set name (some (part ++ bytes)) := by
  induction bytes generalizing files part with
  | nil =>
    cases name <;> simpa [Files.changes, Files.set, Files.get, Files.ext_iff] using there
  | cons byte bytes ih =>
    have next : (files.change (.append name byte)).get name = some (part ++ [byte]) := by
      cases name <;> simp_all [Files.change, Files.set, Files.get]
    have rest := ih (files.change (.append name byte)) (part ++ [byte]) next
    rw [map_cons]
    change (files.change (.append name byte)).changes _ = _
    rw [rest]
    cases name <;> simp [Files.change, Files.set]

theorem write_cut (writing : Writing) (files : Files) (name : FileName) (bytes : List UInt8)
    (count : Nat) :
    files.changes ((writing.write name bytes).1.take count) = files ∨
      ∃ part, part <+: bytes ∧
        files.changes ((writing.write name bytes).1.take count) = files.set name (some part) := by
  cases count with
  | zero => exact .inl rfl
  | succ count =>
    have there : (files.set name (some [])).get name = some [] := by
      cases name <;> rfl
    have twice (part : List UInt8) :
        (files.set name (some [])).set name (some part) = files.set name (some part) := by
      cases name <;> rfl
    have cut (written : List UInt8) :
        files.changes ((.truncate name :: written.map (append name)).take (count + 1)) =
          files.set name (some (written.take count)) := by
      rw [take_succ_cons, ← map_take]
      change (files.set name (some [])).changes _ = _
      rw [changes_appends _ name [] _ there, nil_append, twice]
    refine .inr ?_
    unfold Writing.write
    cases writing.limit with
    | none => exact ⟨bytes.take count, take_prefix .., cut bytes⟩
    | some limit =>
      exact ⟨(bytes.take limit).take count,
        ( List.take_prefix ..).trans ( List.take_prefix ..), cut _⟩

theorem write_complete {writing : Writing} {name : FileName}
    (written : (writing.write name bytes).2 = true) (files : Files) :
    files.changes (writing.write name bytes).1 = files.set name (some bytes) := by
  have there : (files.set name (some [])).get name = some [] := by
    cases name <;> rfl
  have everything (all : List UInt8) (same : all = bytes) :
      files.changes (.truncate name :: all.map (append name)) =
        files.set name (some bytes) := by
    change (files.set name (some [])).changes _ = _
    rw [changes_appends _ name [] _ there, same]
    cases name <;> rfl
  unfold Writing.write at written ⊢
  rw [Bool.and_eq_true, decide_eq_true_eq] at written
  refine everything _ ?_
  cases limited : writing.limit with
  | none => rfl
  | some limit =>
    rw [limited] at written
    have long : min limit bytes.length = bytes.length := by
      simpa only [length_take] using written.1
    exact take_of_length_le (by omega)

variable {files : Files}

theorem copyFile_cut (copying : Copying) {source : FileName} (target : FileName)
    (there : files.get source = some bytes) (count : Nat) :
    files.changes ((copyFile copying source target files).1.take count) = files ∨
      ∃ part, part <+: bytes ∧ files.changes
        ((copyFile copying source target files).1.take count) = files.set target (some part) := by
  unfold copyFile
  rw [there]
  split
  case isTrue => exact .inl (by rw [take_nil]; rfl)
  case isFalse =>
    cases copying.opensSource with
    | true => exact write_cut copying.target files target bytes count
    | false =>
      cases count with
      | zero => exact .inl rfl
      | succ count =>
        refine .inr ⟨[], nil_prefix, ?_⟩
        dsimp only
        rw [take_succ_cons, take_nil]
        rfl

theorem copyFile_complete {copying : Copying} {source target : FileName}
    (there : files.get source = some bytes)
    (copied : (copyFile copying source target files).2 = true) :
    files.changes (copyFile copying source target files).1 = files.set target (some bytes) := by
  unfold copyFile at copied ⊢
  rw [there] at copied ⊢
  split at copied
  case isTrue => cases copied
  case isFalse opened =>
    rw [if_neg opened]
    cases readable : copying.opensSource with
    | true =>
      rw [readable] at copied
      exact write_complete copied files
    | false =>
      rw [readable] at copied
      cases copied

inductive Recoverable (format : XmlFormat Document) (saved unfinished : Document)
    (files : Files) : Prop
  | intact {bytes : List UInt8} (there : files.file = some bytes)
      (holds : Holds format bytes saved)
  | replaced {bytes : List UInt8} (there : files.file = some bytes)
      (holds : Holds format bytes unfinished)
  | backed {bytes : List UInt8} (there : files.backup = some bytes)
      (holds : Holds format bytes saved) (rest : ∀ part, files.file = some part →
        Part format part saved ∨ Part format part unfinished)

def Intact (format : XmlFormat Document) (saved : Document) (files : Files) : Prop :=
  ∃ bytes, files.file = some bytes ∧ Holds format bytes saved

variable {saved : Document}

theorem flushingXmlWriter_cut (writing : Writing) (files : Files) (bytes : List UInt8)
    (count : Nat) :
    files.changes ((flushingXmlWriter writing bytes).1.take count) = files ∨
      ∃ part, part <+: bytes ∧
        files.changes ((flushingXmlWriter writing bytes).1.take count) =
          { files with file := some part } := by
  unfold flushingXmlWriter
  split
  · exact write_cut writing files .file bytes count
  · exact .inl (by rw [take_nil]; rfl)

theorem flushingXmlWriter_complete {writing : Writing}
    (written : (flushingXmlWriter writing bytes).2 = true) (files : Files) :
    files.changes (flushingXmlWriter writing bytes).1 = { files with file := some bytes } := by
  unfold flushingXmlWriter at written ⊢
  split at written
  case isTrue opens =>
    rw [if_pos opens]
    exact write_complete written files
  case isFalse => cases written

theorem writing_recoverable {whole : List UInt8} {before after : Files}
    (holds : Holds format bytes saved) (readable : Holds format whole document)
    (backed : before.backup = some bytes) (there : before.file = some bytes)
    (cut : after = before ∨ ∃ part, part <+: whole ∧ after = { before with file := some part }) :
    after.backup = some bytes ∧ ∀ part, after.file = some part →
      Part format part saved ∨ Part format part document := by
  rcases cut with rfl | ⟨written, first, rfl⟩
  · refine ⟨backed, fun part same => .inl ⟨bytes, holds, ?_⟩⟩
    rw [there] at same
    cases same
    exact prefix_rfl
  · refine ⟨backed, fun part same => .inr ⟨whole, readable, ?_⟩⟩
    cases same
    exact first

/-- The changes of the tail of a `Save` that cannot write the file, however far they get -/
theorem rollback_cut (holds : Holds format bytes saved) (backed : files.backup = some bytes)
    (rest : ∀ part, files.file = some part →
      Part format part saved ∨ Part format part document) (count : Nat) :
    Recoverable format saved document
      (files.changes ([remove .file, restore].take count)) := by
  match count with
  | 0 => exact .backed backed holds rest
  | 1 => exact .backed backed holds fun part there => by cases there
  | count + 2 =>
    have everything : [remove .file, restore].take (count + 2) =
        [remove .file, restore] := by simp
    rw [everything]
    exact .intact backed holds

theorem save_cases (format : XmlFormat Document) (copying : Copying) (writing : Writing)
    (document : Document) (there : files.file = some bytes) :
    let backup := copyFile copying .file .backup files
    let output := flushingXmlWriter writing (format.serialize document)
    (backup.2 = false ∧ save format copying writing document files = (backup.1, false)) ∨
      (backup.2 = true ∧ output.2 = false ∧ save format copying writing document files =
        (backup.1 ++ output.1 ++ [.remove .file, .restore], false)) ∨
      (backup.2 = true ∧ output.2 = true ∧ save format copying writing document files =
        (backup.1 ++ output.1 ++ [.remove .backup], true)) := by
  intro backup output
  have exists_ : files.file.isSome = true := by rw [there]; rfl
  unfold save
  dsimp only
  rw [if_pos exists_]
  change (_ ∧ (if !backup.2 then backup else _) = _) ∨
    (_ ∧ _ ∧ (if !backup.2 then backup else _) = _) ∨
    (_ ∧ _ ∧ (if !backup.2 then backup else _) = _)
  cases copied : backup.2 with
  | false => exact .inl ⟨rfl, Prod.ext rfl copied⟩
  | true =>
    change _ ∨ (_ ∧ _ ∧ (if !output.2 then _ else _) = _) ∨
      (_ ∧ _ ∧ (if !output.2 then _ else _) = _)
    cases written : output.2 with
    | false => exact .inr (.inl ⟨rfl, rfl, rfl⟩)
    | true => exact .inr (.inr ⟨rfl, rfl, rfl⟩)

theorem save_cut (readable : Readable format) (copying : Copying) (writing : Writing)
    (document : Document) (intact : Intact format saved files) (count : Nat) :
    Recoverable format saved document
      (files.changes ((save format copying writing document files).1.take count)) := by
  obtain ⟨bytes, there, holds⟩ := intact
  have source : files.get .file = some bytes := there
  have untouched (count : Nat) : (files.changes
      ((copyFile copying .file .backup files).1.take count)).file = some bytes := by
    rcases copyFile_cut copying .backup source count with same | ⟨part, _, same⟩
    · rw [same, there]
    · rw [same]
      exact there
  have writes (fewer : Nat) := writing_recoverable holds (readable document)
    (show (files.set .backup (some bytes)).backup = some bytes from rfl)
    (show (files.set .backup (some bytes)).file = some bytes from there)
    (flushingXmlWriter_cut writing (files.set .backup (some bytes))
      (format.serialize document) fewer)
  have early (copied : (copyFile copying .file .backup files).2 = true) (fewer : Nat) :
      Recoverable format saved document (files.changes
        (((copyFile copying .file .backup files).1 ++
          (flushingXmlWriter writing (format.serialize document)).1).take fewer)) := by
    rcases take_append_cases fewer _ _ with ⟨fewer, cut⟩ | ⟨fewer, cut⟩
    · rw [cut]
      exact .intact (untouched fewer) holds
    · rw [cut, changes_append, copyFile_complete source copied]
      exact .backed (writes fewer).1 holds (writes fewer).2
  rcases save_cases format copying writing document there with
    ⟨_, same⟩ | ⟨copied, _, same⟩ | ⟨copied, written, same⟩
  · rw [same]
    exact .intact (untouched count) holds
  · rw [same]
    rcases take_append_cases count (_ ++ _) [.remove .file, .restore] with
      ⟨fewer, cut⟩ | ⟨last, cut⟩
    · rw [cut]
      exact early copied fewer
    · rw [cut, changes_append, changes_append, copyFile_complete source copied]
      have written := writes (flushingXmlWriter writing (format.serialize document)).1.length
      rw [take_length] at written
      exact rollback_cut holds written.1 written.2 last
  · rw [same]
    rcases take_append_cases count (_ ++ _) [.remove .backup] with
      ⟨fewer, cut⟩ | ⟨last, cut⟩
    · rw [cut]
      exact early copied fewer
    · rw [cut, changes_append, changes_append, copyFile_complete source copied,
        flushingXmlWriter_complete written]
      cases last with
      | zero => exact .replaced rfl (readable document)
      | succ last =>
        rw [take_succ_cons, take_nil]
        exact .replaced rfl (readable document)

theorem save_complete (readable : Readable format) (copying : Copying) (writing : Writing)
    (document : Document) (intact : Intact format saved files) :
    Intact format (if (save format copying writing document files).2 then document else saved)
      (files.changes (save format copying writing document files).1) := by
  obtain ⟨bytes, there, holds⟩ := intact
  have source : files.get .file = some bytes := there
  rcases save_cases format copying writing document there with
    ⟨_, same⟩ | ⟨copied, _, same⟩ | ⟨copied, written, same⟩
  · rw [same]
    refine ⟨bytes, ?_, holds⟩
    have cut := copyFile_cut copying .backup source
      (copyFile copying .file .backup files).1.length
    rw [take_length] at cut
    rcases cut with same | ⟨part, _, same⟩
    · rw [same, there]
    · rw [same]
      exact there
  · rw [same]
    refine ⟨bytes, ?_, holds⟩
    have cut := flushingXmlWriter_cut writing (files.set .backup (some bytes))
      (format.serialize document) (flushingXmlWriter writing (format.serialize document)).1.length
    rw [take_length] at cut
    rw [changes_append, changes_append, copyFile_complete source copied]
    rcases cut with same | ⟨part, _, same⟩
    · rw [same]
      rfl
    · rw [same]
      rfl
  · rw [same]
    refine ⟨format.serialize document, ?_, readable document⟩
    rw [changes_append, changes_append, copyFile_complete source copied,
      flushingXmlWriter_complete written]
    rfl

theorem load_file (loads : getXmlFile format files.file = some document) (overwriteInvalid : Bool)
    (copying : Copying) :
    load format overwriteInvalid copying files = ([], some document) := by
  unfold load
  rw [loads]

theorem load_backup (damaged : getXmlFile format files.file = none)
    (loads : getXmlFile format files.backup = some document) (overwriteInvalid : Bool)
    (copying : Copying) :
    let restoring := copyFile copying .backup .file files
    (restoring.2 = false ∧
        load format overwriteInvalid copying files = (restoring.1, none)) ∨
      (restoring.2 = true ∧ load format overwriteInvalid copying files =
        (restoring.1 ++ [.remove .backup], some document)) := by
  intro restoring
  unfold load
  rw [damaged, loads]
  change (_ ∧ (if !restoring.2 then _ else _) = _) ∨ (_ ∧ (if !restoring.2 then _ else _) = _)
  cases restored : restoring.2 with
  | false => exact .inl ⟨rfl, rfl⟩
  | true => exact .inr ⟨rfl, rfl⟩

variable {unfinished : Document}

theorem Recoverable.reads (recoverable : Recoverable format saved unfinished files)
    (loads : getXmlFile format files.file = some document) :
    (document = saved ∨ document = unfinished) ∧ Intact format document files := by
  cases recoverable with
  | intact there holds =>
    rw [there, holds.getXmlFile] at loads
    cases loads
    exact ⟨.inl rfl, _, there, holds⟩
  | replaced there holds =>
    rw [there, holds.getXmlFile] at loads
    cases loads
    exact ⟨.inr rfl, _, there, holds⟩
  | backed _ _ rest =>
    cases there : files.file with
    | none =>
      rw [there] at loads
      cases loads
    | some part =>
      rw [there] at loads
      rcases rest part there with left | left
      · obtain ⟨rfl, holds⟩ := left.holds loads
        exact ⟨.inl rfl, part, there, holds⟩
      · obtain ⟨rfl, holds⟩ := left.holds loads
        exact ⟨.inr rfl, part, there, holds⟩

theorem Recoverable.damaged (recoverable : Recoverable format saved unfinished files)
    (damaged : getXmlFile format files.file = none) :
    ∃ bytes, files.backup = some bytes ∧ Holds format bytes saved ∧
      ∀ part, files.file = some part → Part format part saved ∨ Part format part unfinished := by
  cases recoverable with
  | intact there holds | replaced there holds =>
    rw [there, holds.getXmlFile] at damaged
    cases damaged
  | backed there holds rest => exact ⟨_, there, holds, rest⟩

theorem load_cut (recoverable : Recoverable format saved unfinished files)
    (overwriteInvalid : Bool) (copying : Copying) (count : Nat) :
    Recoverable format saved unfinished
      (files.changes ((load format overwriteInvalid copying files).1.take count)) := by
  cases loads : getXmlFile format files.file with
  | some document =>
    rw [load_file loads, take_nil]
    exact recoverable
  | none =>
    obtain ⟨bytes, there, holds, rest⟩ := recoverable.damaged loads
    have source : files.get .backup = some bytes := there
    have backup : getXmlFile format files.backup = some saved := by
      rw [there, holds.getXmlFile]
    have early (fewer : Nat) : Recoverable format saved unfinished
        (files.changes ((copyFile copying .backup .file files).1.take fewer)) := by
      rcases copyFile_cut copying .file source fewer with same | ⟨part, first, same⟩
      · rw [same]
        exact recoverable
      · rw [same]
        refine .backed there holds fun left same => .inl ⟨bytes, holds, ?_⟩
        cases same
        exact first
    rcases load_backup loads backup overwriteInvalid copying with
      ⟨_, same⟩ | ⟨restored, same⟩
    · rw [same]
      exact early count
    · rw [same]
      rcases take_append_cases count _ [.remove .backup] with ⟨fewer, cut⟩ | ⟨last, cut⟩
      · rw [cut]
        exact early fewer
      · rw [cut, changes_append, copyFile_complete source restored]
        cases last with
        | zero => exact .intact rfl holds
        | succ last =>
          rw [take_succ_cons, take_nil]
          exact .intact rfl holds

theorem load_complete (recoverable : Recoverable format saved unfinished files)
    {overwriteInvalid : Bool} {copying : Copying}
    (loaded : (load format overwriteInvalid copying files).2 = some document) :
    (document = saved ∨ document = unfinished) ∧
      Intact format document (files.changes (load format overwriteInvalid copying files).1) := by
  cases loads : getXmlFile format files.file with
  | some other =>
    rw [load_file loads] at loaded ⊢
    cases loaded
    exact recoverable.reads loads
  | none =>
    obtain ⟨bytes, there, holds, rest⟩ := recoverable.damaged loads
    have backup : getXmlFile format files.backup = some saved := by
      rw [there, holds.getXmlFile]
    rcases load_backup loads backup overwriteInvalid copying with
      ⟨_, same⟩ | ⟨restored, same⟩
    · rw [same] at loaded
      cases loaded
    · rw [same] at loaded ⊢
      cases loaded
      refine ⟨.inl rfl, bytes, ?_, holds⟩
      rw [changes_append,
        copyFile_complete (show files.get .backup = some bytes from there) restored]
      rfl

theorem load_intact (intact : Intact format saved files) (overwriteInvalid : Bool)
    (copying : Copying) :
    load format overwriteInvalid copying files = ([], some saved) := by
  obtain ⟨bytes, there, holds⟩ := intact
  exact load_file (by rw [there, holds.getXmlFile]) overwriteInvalid copying

def Sound (format : XmlFormat Document) (settings : Settings Document) : Prop :=
  match settings.interrupted with
  | none => Intact format settings.saved settings.files
  | some unfinished => Recoverable format settings.saved unfinished settings.files

theorem step_sound (readable : Readable format) {settings next : Settings Document}
    {call : Call Document} (sound : Sound format settings)
    (taken : step format settings call = some next) : Sound format next := by
  unfold Sound at sound
  cases call with
  | save copying writing document =>
    unfold step at taken
    cases interrupted : settings.interrupted with
    | some _ =>
      rw [interrupted] at taken
      cases taken
    | none =>
      rw [interrupted] at taken sound
      cases taken
      exact save_complete readable copying writing document sound
  | killedSave copying writing document changes =>
    unfold step at taken
    cases interrupted : settings.interrupted with
    | some _ =>
      rw [interrupted] at taken
      cases taken
    | none =>
      rw [interrupted] at taken sound
      cases taken
      exact save_cut readable copying writing document sound changes
  | load overwriteInvalid copying =>
    cases interrupted : settings.interrupted with
    | none =>
      rw [interrupted] at sound
      unfold step at taken
      dsimp only at taken
      rw [load_intact sound] at taken
      cases taken
      exact sound
    | some unfinished =>
      rw [interrupted] at sound
      have failed := load_cut sound overwriteInvalid copying
        (load format overwriteInvalid copying settings.files).1.length
      rw [take_length] at failed
      unfold step at taken
      dsimp only at taken
      split at taken
      case h_1 =>
        cases taken
        unfold Sound
        dsimp only
        rw [interrupted]
        exact failed
      case h_2 document loaded =>
        cases taken
        exact (load_complete sound loaded).2
  | killedLoad overwriteInvalid copying changes =>
    cases taken
    unfold Sound
    dsimp only
    cases interrupted : settings.interrupted with
    | none =>
      rw [interrupted] at sound
      rw [load_intact sound, take_nil]
      exact sound
    | some unfinished =>
      rw [interrupted] at sound
      exact load_cut sound overwriteInvalid copying changes

theorem start_sound (holds : Holds format bytes document) : Sound format (start bytes document) :=
  ⟨bytes, rfl, holds⟩

def twoDocuments : XmlFormat Bool :=
  let serialize (full : Bool) : List UInt8 :=
    asciiBytes (if full then "<FileZilla3>1</FileZilla3>" else "<FileZilla3/>")
  { serialize
    parse := fun bytes =>
      if bytes = serialize true then some true
      else if bytes = serialize false then some false
      else none
    emptyDocument := false }

theorem twoDocuments_readable : Readable twoDocuments := fun document => by
  have parts : ∀ document, ∀ count ≤ (twoDocuments.serialize document).length,
      twoDocuments.parse ((twoDocuments.serialize document).take count) = none ∨
        twoDocuments.parse ((twoDocuments.serialize document).take count) = some document := by
    decide +kernel
  refine ⟨by cases document <;> decide, by cases document <;> decide +kernel, ?_⟩
  intro part first
  rw [prefix_iff_eq_take.mp first]
  exact parts document part.length first.length_le

end XmlFile

end FileZilla
