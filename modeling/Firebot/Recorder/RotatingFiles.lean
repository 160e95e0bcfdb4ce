import Mathlib.Data.List.Sort
import Mathlib.Data.String.Basic
import Firebot.Lib.Table
import Firebot.Recorder.EventRecorder

/-!
# The files of a rotating writer

`_RotatingWriter` with the directory it writes to. `write` rotates first where it has to: the active file is closed
and renamed, opened again, and `_prune` deletes old rotated files. The counter `_size` is set to the file's size
when the file is opened, and grows by the length of the line, in characters.

What a call is given says which calls of the system raise an `OSError`, what the clock reads, and what `strftime`
makes of it. The model keeps the lines that were written, the files that were rotated, and how often the old ones
were looked for. A line is a text that has an encoding.
-/

namespace Firebot.Recorder

/-- A directory: the bytes of its files. -/
abbrev Directory := Table String ByteArray

/-- `prefix`. -/
def Kind.stem : Kind → String
  | .events => "events"
  | .telemetry => "telemetry"

/-- `active_name`. -/
def Kind.activeName (kind : Kind) : String := kind.stem ++ ".jsonl"

/-- The settings of a `_RotatingWriter`. -/
structure LogSettings where
  kind : Kind
  keep : Int
  config : Config

/-- What the system does in one call; of a line that cannot be written, some bytes may have come to the file. -/
structure Calls where
  now : Time
  stamp : String
  renameFails : Bool
  openFails : Bool
  sizeFails : Bool
  listFails : Bool
  removeFails : String → Bool
  writeFails : Option Nat

/-- A `_RotatingWriter` and its directory; what was written, what was rotated, and how often. -/
structure Log where
  writer : RotatingWriter
  directory : Directory
  written : List String
  archived : List (String × ByteArray)
  rotations : Nat

/-- What is done with a writer. -/
inductive LogEvent where
  | open (calls : Calls)
  | write (line : String) (calls : Calls)
  | close

variable (settings : LogSettings) (calls : Calls)

/-! ## Retention -/

/-- `max(int(keep), 1)`. -/
def LogSettings.keepCount : Nat := (max settings.keep 1).toNat

/-- `max(int(max_bytes), 1)`. -/
def LogSettings.maxBytes : Int := max settings.config.maxBytes 1

/-- `n.startswith(self.prefix + "-") and n.endswith(".jsonl")`. -/
def Kind.isRotated (kind : Kind) (name : String) : Bool :=
  (kind.stem ++ "-").toList.isPrefixOf name.toList && ".jsonl".toList.isSuffixOf name.toList

/-- The rotated files, sorted by name. -/
def rotatedNames (kind : Kind) (directory : Directory) : List String :=
  (directory.keys.filter kind.isRotated).insertionSort (· ≤ ·)

/-- `names[:excess]`: a negative bound is counted from the end. -/
def sliceTo (names : List String) (excess : Int) : List String :=
  names.take (if 0 ≤ excess then excess else names.length + excess).toNat

/-- `os.remove`, where it does not raise. -/
def removeFile (directory : Directory) (name : String) : Directory :=
  if calls.removeFails name then directory else directory.erase name

/-- `_prune`. -/
def prune (directory : Directory) : Directory :=
  if calls.listFails then directory
  else
    let names := rotatedNames settings.kind directory
    let excess : Int := names.length - settings.keepCount
    (sliceTo names excess).foldl (removeFile calls) directory

/-! ## Rotation -/

/-- The name of the rotated file. -/
def rotatedName : String := settings.kind.stem ++ "-" ++ calls.stamp ++ ".jsonl"

namespace Log

variable (l : Log)

/-- The bytes of the active file. -/
def active : ByteArray := (l.directory.lookup settings.kind.activeName).getD .empty

/-- `close`. -/
def close : Log := { l with writer := l.writer.closed }

/-- `open`, and whether it raises. -/
def openFile : Log × Bool :=
  if calls.openFails then (l, true)
  else
    let directory :=
      match l.directory.lookup settings.kind.activeName with
      | some _ => l.directory
      | none => l.directory.insert settings.kind.activeName .empty
    let size : Int := if calls.sizeFails then 0 else (l.active settings).size
    ({ l with writer := ⟨true, calls.now, size⟩, directory }, false)

/-- `os.rename`, where it does not raise; a file of the new name is replaced. -/
def rename : Log :=
  match calls.renameFails, l.directory.lookup settings.kind.activeName with
  | false, some bytes =>
    let name := rotatedName settings calls
    { l with
      directory := (l.directory.erase settings.kind.activeName).insert name bytes
      archived := l.archived ++ [(name, bytes)] }
  | _, _ => l

/-- `_rotate`, and whether it raises. -/
def rotate : Log × Bool :=
  match (l.close.rename settings calls).openFile settings calls with
  | (reopened, true) => (reopened, true)
  | (reopened, false) =>
    ({ reopened with directory := prune settings calls reopened.directory, rotations := reopened.rotations + 1 }, false)

/-- `self._fh.write(line)` and `self._fh.flush()`, and whether they raise. -/
def append (line : String) : Log × Bool :=
  match calls.writeFails with
  | some n =>
    ({ l with directory := l.directory.modify settings.kind.activeName (· ++ line.toUTF8.extract 0 n) }, true)
  | none =>
    ({ l with
      directory := l.directory.modify settings.kind.activeName (· ++ line.toUTF8)
      writer := { l.writer with size := l.writer.size + line.length }
      written := l.written ++ [line] }, false)

/-- `write`, and whether it raises. -/
def write (line : String) : Log × Bool :=
  if !l.writer.isOpen then (l, false)
  else if l.writer.needsRotate settings.config calls.now then
    match l.rotate settings calls with
    | (rotated, true) => (rotated, true)
    | (rotated, false) => rotated.append settings calls line
  else l.append settings calls line

/-- What is done. -/
def step : LogEvent → Log
  | .open calls => (l.openFile settings calls).1
  | .write line calls => (l.write settings calls line).1
  | .close => l.close

/-- A writer that has been constructed, for a directory with any files. -/
def initial (directory : Directory) : Log where
  writer := ⟨false, 0, 0⟩
  directory
  written := []
  archived := directory.rows.filter fun row => settings.kind.isRotated row.1
  rotations := 0

end Log

end Firebot.Recorder
