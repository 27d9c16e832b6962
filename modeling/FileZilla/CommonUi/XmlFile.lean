import FileZilla.Runs

namespace FileZilla

/-! Settings files: `CXmlFile`. A file is accompanied by its backup while it is being saved. -/

namespace XmlFile

structure XmlFormat (Document : Type) where
  serialize : Document → List UInt8
  parse : List UInt8 → Option Document
  emptyDocument : Document

inductive FileName
  | file
  | backup

@[ext]
structure Files where
  file : Option (List UInt8)
  backup : Option (List UInt8)

namespace Files

def get (files : Files) : FileName → Option (List UInt8)
  | .file => files.file
  | .backup => files.backup

def set (files : Files) (name : FileName) (bytes : Option (List UInt8)) : Files :=
  match name with
  | .file => { files with file := bytes }
  | .backup => { files with backup := bytes }

/-- `get_size` of a file that is not there is negative. -/
def hasSize (bytes : Option (List UInt8)) : Bool :=
  bytes.any fun bytes => !bytes.isEmpty

end Files

inductive Change
  | truncate (name : FileName)
  | append (name : FileName) (byte : UInt8)
  | remove (name : FileName)
  | restore

def Files.change (files : Files) : Change → Files
  | .truncate name => files.set name (some [])
  | .append name byte => files.set name ((files.get name).map fun bytes => bytes ++ [byte])
  | .remove name => files.set name none
  | .restore => { file := files.backup, backup := none }

def Files.changes (files : Files) (changes : List Change) : Files :=
  changes.foldl Files.change files

/-- How writing to a file ends: it is not opened, or nothing can be written after some bytes, or
it cannot be synchronized. -/
structure Writing where
  opens : Bool := true
  limit : Option Nat := none
  syncs : Bool := true

def Writing.write (writing : Writing) (name : FileName) (bytes : List UInt8) :
    List Change × Bool :=
  let written := match writing.limit with
    | none => bytes
    | some limit => bytes.take limit
  (.truncate name :: written.map (Change.append name),
    decide (written.length = bytes.length) && writing.syncs)

structure Copying where
  opensSource : Bool := true
  target : Writing := {}

/-- `copy_file`, which overwrites and synchronizes. Both files are opened before either of them
is looked at; a source that cannot be read to its end is like a target that cannot be written
to its end. -/
def copyFile (copying : Copying) (source target : FileName) (files : Files) :
    List Change × Bool :=
  if !copying.target.opens then ([], false)
  else
    match files.get source, copying.opensSource with
    | some bytes, true => copying.target.write target bytes
    | _, _ => ([.truncate target], false)

variable {Document : Type} (format : XmlFormat Document)

def getXmlFile (bytes : Option (List UInt8)) : Option Document :=
  if Files.hasSize bytes then bytes.bind format.parse else none

def flushingXmlWriter (writing : Writing) (bytes : List UInt8) : List Change × Bool :=
  if writing.opens then writing.write .file bytes else ([], false)

def save (copying : Copying) (writing : Writing) (document : Document) (files : Files) :
    List Change × Bool :=
  let output := flushingXmlWriter writing (format.serialize document)
  if files.file.isSome then
    let backup := copyFile copying .file .backup files
    if !backup.2 then backup
    else if !output.2 then (backup.1 ++ output.1 ++ [.remove .file, .restore], false)
    else (backup.1 ++ output.1 ++ [.remove .backup], true)
  else if !output.2 then (output.1 ++ [.remove .file], false)
  else output

/-- `Load`; none if it reports an error. -/
def load (overwriteInvalid : Bool) (copying : Copying) (files : Files) :
    List Change × Option Document :=
  match getXmlFile format files.file with
  | some document => ([], some document)
  | none =>
    match getXmlFile format files.backup with
    | none =>
      if overwriteInvalid || !Files.hasSize files.file && !Files.hasSize files.backup then
        ([], some format.emptyDocument)
      else ([], none)
    | some document =>
      let restoring := copyFile copying .backup .file files
      if !restoring.2 then (restoring.1, none)
      else (restoring.1 ++ [.remove .backup], some document)

/-- The files, the document of the last `Save` that returned true, and that of a `Save` that has
been interrupted since. A `Load` that succeeds decides between the two. -/
structure Settings (Document : Type) where
  files : Files
  saved : Document
  interrupted : Option Document := none

inductive Call (Document : Type)
  | save (copying : Copying) (writing : Writing) (document : Document)
  | killedSave (copying : Copying) (writing : Writing) (document : Document) (changes : Nat)
  | load (overwriteInvalid : Bool) (copying : Copying)
  | killedLoad (overwriteInvalid : Bool) (copying : Copying) (changes : Nat)

/-- Once a `Save` has been interrupted, there is nothing to save before a `Load` has succeeded. -/
def step (settings : Settings Document) (call : Call Document) : Option (Settings Document) :=
  match call with
  | .save copying writing document =>
    if settings.interrupted.isSome then none
    else
      let saving := save format copying writing document settings.files
      some { settings with
        files := settings.files.changes saving.1
        saved := if saving.2 then document else settings.saved }
  | .killedSave copying writing document changes =>
    if settings.interrupted.isSome then none
    else
      let saving := save format copying writing document settings.files
      some { settings with
        files := settings.files.changes (saving.1.take changes)
        interrupted := some document }
  | .load overwriteInvalid copying =>
    let loading := load format overwriteInvalid copying settings.files
    let files := settings.files.changes loading.1
    match loading.2 with
    | none => some { settings with files }
    | some document => some { files, saved := document }
  | .killedLoad overwriteInvalid copying changes =>
    let loading := load format overwriteInvalid copying settings.files
    some { settings with files := settings.files.changes (loading.1.take changes) }

def start (bytes : List UInt8) (document : Document) : Settings Document :=
  { files := { file := some bytes, backup := none }, saved := document }

end XmlFile

end FileZilla
