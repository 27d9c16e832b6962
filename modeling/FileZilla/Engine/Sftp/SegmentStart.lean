import FileZilla.Engine.Sftp.Segments
import Mathlib.Data.List.SplitOn

namespace FileZilla.Sftp

/-! How a segmented download starts: the split of the file, the manifest of an
earlier attempt and the parts it left. -/

def maxSegmentCount : Nat := 8

structure SegmentOptions where
  segments : Nat
  minSize : Nat
  segments_pos : 0 < segments
  segments_le : segments ≤ 8
  minSize_pos : 0 < minSize
  minSize_le : minSize ≤ 1048576

def shrinkCount (total minSize : Nat) : Nat → Nat
  | 0 => 0
  | count + 1 =>
    if 1 < count + 1 ∧ total < (count + 1) * minSize then
      shrinkCount total minSize count
    else
      count + 1

/-- A `localFileSize` of `none` says that there is no local file. -/
def segmentCount (options : SegmentOptions) (download resume : Bool)
    (remoteFileSize : Int) (localFileSize : Option Nat) : Nat :=
  if !download || resume || remoteFileSize ≤ 0 || localFileSize.isSome then
    1
  else if options.segments < 2 then
    1
  else
    shrinkCount remoteFileSize.toNat (options.minSize * 1024 * 1024) options.segments

/-- `uint64_t` value that stands for no size. -/
def nosize : Nat := 2 ^ 64 - 1

def accumulateDigits (max : Nat) : Nat → List Char → Option Nat
  | value, [] => some value
  | value, char :: rest =>
    if char < '0' ∨ '9' < char then
      none
    else if value > max / 10 then
      none
    else if max - value * 10 < char.toNat - '0'.toNat then
      none
    else
      accumulateDigits max (value * 10 + (char.toNat - '0'.toNat)) rest

/-- `fz::to_integral` for an unsigned type with the given maximum. -/
def toIntegral (max : Nat) : List Char → Option Nat
  | [] => none
  | '-' :: _ => none
  | '+' :: [] => none
  | '+' :: rest => accumulateDigits max 0 rest
  | text => accumulateDigits max 0 text

/-- `fz::strtokenizer` without empty tokens. -/
def tokens (delimiters text : List Char) : List (List Char) :=
  (text.splitOnP (delimiters.contains ·)).filter fun token => !token.isEmpty

def parsePair (line : List Char) : Option (Nat × Nat) :=
  match (tokens [' '] line).map (toIntegral nosize) with
  | [some first, some second] =>
    if first ≠ nosize ∧ second ≠ nosize then
      some (first, second)
    else
      none
  | _ => none

def segmentLength (total count index : Nat) : Nat :=
  total / count + if index < total % count then 1 else 0

def segmentOffset (total count : Nat) : Nat → Nat
  | 0 => 0
  | index + 1 => segmentOffset total count index + segmentLength total count index

def segmentRanges (total count : Nat) : List (Nat × Nat) :=
  (List.range count).map fun index =>
    (segmentOffset total count index, segmentLength total count index)

def readSegmentManifest (total count : Nat) (manifest : Option String) : Bool :=
  match manifest with
  | none => false
  | some text =>
    if text.length = 0 ∨ 64 * 1024 < text.length then
      false
    else
      match tokens ['\r', '\n'] text.toList with
      | title :: counts :: ranges =>
        title == "fzseg1".toList && parsePair counts == some (total, count) &&
          ranges.map parsePair == (segmentRanges total count).map some
      | _ => false

def writeSegmentManifest (total count : Nat) : String :=
  "fzseg1\n" ++ toString total ++ " " ++ toString count ++ "\n" ++
    String.join ((segmentRanges total count).map fun range =>
      toString range.1 ++ " " ++ toString range.2 ++ "\n")

structure Disk where
  manifest : Option String := none
  parts : Nat → Option Bytes := fun _ => none

def Disk.partSize (disk : Disk) (index : Nat) : Nat :=
  match disk.parts index with
  | none => 0
  | some content => content.length

structure StartEnv extends SegmentEnv where
  encodable : Bool := true
  writeManifest : Bool := true

namespace SegmentedDownload

variable {count : Nat}

def resumedSize (total count : Nat) (disk : Disk) (index : Nat) : Nat :=
  if readSegmentManifest total count disk.manifest &&
      (List.range (index + 1)).all fun earlier =>
        decide (disk.partSize earlier ≤ segmentLength total count earlier) then
    disk.partSize index
  else
    0

def resumeValid (total count : Nat) (disk : Disk) : Bool :=
  readSegmentManifest total count disk.manifest && (List.range count).all fun index =>
      decide (disk.partSize index ≤ segmentLength total count index)

def initialSegment (total count : Nat) (disk : Disk) (index : Nat) :
    SegmentHandler where
  offset := segmentOffset total count index
  length := segmentLength total count index
  partSize := resumedSize total count disk index
  received := resumedSize total count disk index
  requestOffset := segmentOffset total count index + resumedSize total count disk index
  done := decide (resumedSize total count disk index ≥ segmentLength total count index)

def openSegment (op : SegmentedDownload count) (index : Fin count) :
    SegmentedDownload count :=
  if (op.segments index).done then
    op
  else
    op.updateSftp none fun sftp => sftp.request (some index) .open

def startSegmented (count total : Nat) (disk : Disk)
    (sftp : Client (Fin count)) (env : StartEnv) : SegmentedDownload count :=
  let op : SegmentedDownload count := {
    remoteFileSize := total
    segments := fun index => initialSegment total count disk index
    endpoints := fun channel =>
      if channel = none then { sftp := sftp } else {}
    parts := disk.parts
    manifest := disk.manifest }
  if !env.encodable then
    op.triggerReset .error
  else
    let valid := resumeValid total count disk
    let op := if valid then op else op.deleteSegmentFiles maxSegmentCount
    if !valid && !env.writeManifest then
      op.triggerReset .writeFailed
    else
      let op := { op with
        manifest :=
          if valid then op.manifest
          else some (writeSegmentManifest total count)
        segmentsDone :=
          ((List.finRange count).filter fun index => (op.segments index).done).length
        opState := .segmented }
      if op.segmentsDone = count then
        op.startConcat env.toSegmentEnv
      else
        ((List.finRange count).foldl openSegment op).startNextSegmentConnection

end SegmentedDownload

end FileZilla.Sftp
