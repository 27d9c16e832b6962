import FileZilla.Engine.DirectoryListingParser.Chunks
import FileZilla.Engine.DirectoryListingParser.HostFormats

namespace FileZilla

inductive ListingFormat
  | zvm
  | hpNonstop
  | mlsd
  | unix
  | dos
  | eplf
  | vms
  | other
  | ibm
  | wfFtp
  | mvs
  | mvsPds
  | os9
  | mvsMigrated
  | mvsPds2
  | mvsTape
  | unixDateless
  deriving DecidableEq

variable {Time : Type}

namespace EntryParser

def parserOf (context : ListingContext Time) (maybeMultilineVms : Bool) (line : CLine) :
    ListingFormat → EntryParser Time Bool
  | .zvm => (fun _ => true) <$> parseAsZvm context line
  | .hpNonstop => (fun _ => true) <$> parseAsHpNonstop context line
  | .mlsd => parseAsMlsd context line
  | .unix => (fun _ => true) <$> parseAsUnix context line true
  | .dos => (fun _ => true) <$> parseAsDos context line
  | .eplf => (fun _ => true) <$> parseAsEplf context line
  | .vms => (fun _ => true) <$> parseAsVms context line
  | .other => (fun _ => true) <$> parseOther context line maybeMultilineVms
  | .ibm => (fun _ => true) <$> parseAsIbm context line
  | .wfFtp => (fun _ => true) <$> parseAsWfFtp context line
  | .mvs => (fun _ => true) <$> parseAsIbmMvs context line
  | .mvsPds => (fun _ => true) <$> parseAsIbmMvsPds context line
  | .os9 => (fun _ => true) <$> parseAsOs9 context line
  | .mvsMigrated => (fun _ => true) <$> parseAsIbmMvsMigrated line
  | .mvsPds2 => (fun _ => true) <$> parseAsIbmMvsPds2 line
  | .mvsTape => (fun _ => true) <$> parseAsIbmMvsTape line
  | .unixDateless => (fun _ => true) <$> parseAsUnix context line false

def formatsFor (serverType : ServerType) : List ListingFormat :=
  (match serverType with
    | .zvm => [.zvm]
    | .hpnonstop => [.hpNonstop]
    | _ => []) ++
  [.mlsd, .unix, .dos, .eplf, .vms, .other, .ibm, .wfFtp, .mvs, .mvsPds, .os9] ++
  (if serverType = .mvs then [.mvsMigrated, .mvsPds2, .mvsTape] else []) ++ [.unixDateless]

def tryFormats (parser : ListingFormat → EntryParser Time Bool) :
    List ListingFormat → CDirentry Time → Option (ListingFormat × Bool × CDirentry Time)
  | [], _ => none
  | format :: formats, entry =>
    match (parser format).outcome entry with
    | (some result, entry) => some (format, result, entry)
    | (none, entry) => tryFormats parser formats entry

end EntryParser

namespace LineState

/-- A line that no format accepts may be a file name. -/
def rejectLine (limit : Nat) (line : CLine) (concatenated : Bool) (self : LineState Time) :
    LineState Time :=
  if concatenated then { self with maybeMultilineVms := false }
  else
    let token := line.getEndToken 0
    if token.isEmpty ∨ token.contains 32 then
      { self with maybeMultilineVms := false, fileList := [], fileListOnly := false }
    else
      let self := { self with maybeMultilineVms := token.contains ';'.toNat }
      if self.fileListOnly then
        if self.fileList.length < limit then { self with fileList := self.fileList ++ [token] }
        else { self with truncated := true }
      else self

/-- What every line does that is understood. -/
def noFileList (self : LineState Time) : LineState Time :=
  { self with maybeMultilineVms := false, fileList := [], fileListOnly := false }

def overrideEntry (override : CDirentry Time) (entry : CDirentry Time) : CDirentry Time :=
  { entry with
    name := if override.name.isEmpty then entry.name else override.name
    time := override.time.or entry.time
    size := if !entry.isDir && override.size != -1 then override.size else entry.size }

def trimVersion (name : WString) : WString :=
  let versionLength := (name.rtakeWhile (· != ';'.toNat)).length
  if versionLength + 1 < name.length then name.take (name.length - (versionLength + 1)) else name

variable (context : ListingContext Time)

def finishEntry (entry : CDirentry Time) : CDirentry Time :=
  let name :=
    if context.serverType = .vms ∧ entry.isDir = true then trimVersion entry.name
    else entry.name
  let time :=
    if context.serverTimezoneOffset = 0 then entry.time
    else entry.time.map (context.dates.add · (context.serverTimezoneOffset * 60000))
  { entry with name, time }

def addEntry (entry : CDirentry Time) (self : LineState Time) :
    LineState Time :=
  let self := self.noFileList
  if entry.name = wide "." ∨ entry.name = wide ".." then self
  else if self.entries.length < context.limit then
    { self with entries := self.entries ++ [finishEntry context entry] }
  else { self with truncated := true }

def storeResult (override : Option (CDirentry Time))
    (line : CLine) (concatenated : Bool) (self : LineState Time) :
    Option (ListingFormat × Bool × CDirentry Time) → Bool × LineState Time
  | some (_, true, entry) =>
    (true, self.addEntry context (override.elim entry (overrideEntry · entry)))
  | some (_, false, _) => (true, self.noFileList)
  | none =>
    let self := self.rejectLine context.limit line concatenated
    match override with
    | none => (false, self)
    | some override =>
      if override.name.isEmpty then (false, self)
      else (true, self.addEntry context override)

def parseLine (override : Option (CDirentry Time))
    (line : CLine) (concatenated : Bool) (self : LineState Time) : Bool × LineState Time :=
  self.storeResult context override line concatenated
    (EntryParser.tryFormats (EntryParser.parserOf context self.maybeMultilineVms line)
      (EntryParser.formatsFor context.serverType) {})

end LineState

end FileZilla
