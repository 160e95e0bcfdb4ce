import Firebot.Lib.Run
import Firebot.Recorder.Retention

/-!
# How large the active file becomes

The counter that is compared with `max_bytes` grows by characters, the file by bytes. **Where the counter has
reached `max_bytes` whenever the file has, the file is never larger than `max_bytes` and the largest line, or
than it was at the start** (`active_bounded`). So it is where every line has as many bytes as characters.
Otherwise the file grows on until the counter has caught up.
-/

namespace Firebot.Recorder

open Runs

/-- The bytes of the largest line. -/
def largest (lines : List String) : Nat := (lines.map String.utf8ByteSize).foldr max 0

/-- No call of the system raises an `OSError`. -/
def Calls.NoError (calls : Calls) : Prop :=
  calls.renameFails = false ∧ calls.openFails = false ∧ calls.sizeFails = false ∧ calls.listFails = false ∧
    (∀ name, calls.removeFails name = false) ∧ calls.writeFails = none

/-- Nothing fails in what is done. -/
def LogEvent.NoError : LogEvent → Prop
  | .open calls | .write _ calls => calls.NoError
  | .close => True

/-- A line that is written has as many bytes as characters. -/
def LogEvent.Ascii : LogEvent → Prop
  | .write line _ => line.utf8ByteSize = line.length
  | .open _ | .close => True

/-- No line is larger than the largest. -/
theorem le_largest {line : String} {lines : List String} (mem : line ∈ lines) : line.utf8ByteSize ≤ largest lines := by
  induction lines with
  | nil => exact absurd mem List.not_mem_nil
  | cons first lines ih =>
    show _ ≤ max first.utf8ByteSize (largest lines)
    rcases List.mem_cons.mp mem with rfl | later
    · exact Nat.le_max_left ..
    · exact (ih later).trans (Nat.le_max_right ..)

/-- The bytes of a line are those of its text. -/
theorem size_toUTF8 (line : String) : line.toUTF8.size = line.utf8ByteSize := String.size_toByteArray

namespace Log

variable (settings : LogSettings)

/-- A line is added to a file that is smaller than `max_bytes`, or the file is rotated first. -/
def RotatesInTime (l : Log) : LogEvent → Prop
  | .write _ calls =>
    l.writer.isOpen = true → l.writer.needsRotate settings.config calls.now = false →
      ((l.active settings).size : Int) < settings.maxBytes
  | .open _ | .close => True

/-- The bound: the size at the start, or `max_bytes` and the largest line. -/
def Bounded (start : Nat) (l : Log) : Prop :=
  ((l.active settings).size : Int) ≤ max (start : Int) (settings.maxBytes + largest l.written)

/-- The counter is the size of the file that is open. -/
def Counts (l : Log) : Prop :=
  l.writer.isOpen = true → ∃ bytes, l.directory.lookup settings.kind.activeName = some bytes ∧ l.writer.size = bytes.size

variable {settings} {calls : Calls} {l : Log} {line : String} {start : Nat}

/-- The active file is the one under its name. -/
theorem active_of_lookup {bytes : ByteArray} (found : l.directory.lookup settings.kind.activeName = some bytes) :
    l.active settings = bytes := by
  unfold active
  rw [found, Option.getD_some]

/-- An opened file is what was there, or empty. -/
theorem lookup_openFile (ok : calls.NoError) :
    (l.openFile settings calls).1.directory.lookup settings.kind.activeName = some (l.active settings) := by
  unfold openFile active
  rw [ok.2.1, if_neg Bool.false_ne_true]
  dsimp only
  split
  · next bytes found => rw [found, Option.getD_some]
  · next missing => rw [missing, Option.getD_none, AList.lookup_insert]

/-- Opening the file writes nothing. -/
theorem written_openFile : (l.openFile settings calls).1.written = l.written := by
  unfold openFile
  split <;> rfl

/-- A file that opens is counted from its size. -/
theorem writer_openFile (ok : calls.NoError) :
    (l.openFile settings calls).1.writer = ⟨true, calls.now, (l.active settings).size⟩ := by
  unfold openFile
  rw [ok.2.1, if_neg Bool.false_ne_true, ok.2.2.1]
  rfl

/-- The active file is no rotated one. -/
theorem lookup_prune_activeName (directory : Directory) :
    (Recorder.prune settings calls directory).lookup settings.kind.activeName =
      directory.lookup settings.kind.activeName := by
  rw [lookup_prune]
  refine if_neg fun gone => ?_
  have listed : settings.kind.activeName ∈ rotatedNames settings.kind directory := by
    have mem := gone.1
    unfold toRemove sliceTo at mem
    split at mem
    · exact absurd mem List.not_mem_nil
    · exact List.mem_of_mem_take mem
  exact ne_activeName (mem_rotatedNames.mp listed).2 rfl

/-- After a rotation the active file is empty. -/
theorem rotate_spec (ok : calls.NoError) : (l.rotate settings calls).2 = false ∧
    (l.rotate settings calls).1.directory.lookup settings.kind.activeName = some .empty ∧
      (l.rotate settings calls).1.written = l.written ∧ (l.rotate settings calls).1.writer = ⟨true, calls.now, 0⟩ := by
  have moved : (l.close.rename settings calls).active settings = .empty := by
    unfold active rename
    rw [ok.1]
    split
    · show (AList.lookup _ (AList.insert _ _ _)).getD _ = _
      rw [AList.lookup_insert_ne (ne_activeName (isRotated_rotatedName settings calls)).symm, AList.lookup_erase,
        Option.getD_none]
    · next other =>
      cases found : l.close.directory.lookup settings.kind.activeName with
      | none => rfl
      | some bytes => exact absurd found (other bytes rfl)
  have same : (l.close.rename settings calls).written = l.written := by
    unfold rename
    split <;> rfl
  rw [rotate_eq ok.2.1]
  refine ⟨rfl, ?_, ?_, ?_⟩
  · show AList.lookup _ (Recorder.prune settings calls _) = _
    rw [lookup_prune_activeName, lookup_openFile ok, moved]
  · exact written_openFile.trans same
  · show (openFile _ _ _).1.writer = _
    rw [writer_openFile ok, moved]
    rfl

/-- What a line adds to the active file. -/
theorem append_spec (ok : calls.NoError) :
    (l.append settings calls line).1.directory =
        l.directory.modify settings.kind.activeName (· ++ line.toUTF8) ∧
      (l.append settings calls line).1.writer = { l.writer with size := l.writer.size + line.length } ∧
        (l.append settings calls line).1.written = l.written ++ [line] := by
  unfold append
  rw [ok.2.2.2.2.2]
  exact ⟨rfl, rfl, rfl⟩

/-- A line adds its own bytes at most. -/
theorem size_append (ok : calls.NoError) : ((l.append settings calls line).1.active settings).size ≤
    (l.active settings).size + line.utf8ByteSize := by
  unfold active
  rw [(append_spec ok).1, Table.lookup_modify_self]
  cases l.directory.lookup settings.kind.activeName with
  | none => exact Nat.zero_le _
  | some bytes =>
    show (bytes ++ line.toUTF8).size ≤ bytes.size + _
    rw [ByteArray.size_append, size_toUTF8]

/-- A line that comes to a file smaller than `max_bytes`. -/
theorem bounded_append (ok : calls.NoError) (small : ((l.active settings).size : Int) < settings.maxBytes) :
    (l.append settings calls line).1.Bounded settings start := by
  have grown := @size_append settings calls l line ok
  have covered : line.utf8ByteSize ≤ largest (l.append settings calls line).1.written := by
    rw [(append_spec ok).2.2]
    exact le_largest (List.mem_append_right _ List.mem_cons_self)
  unfold Bounded
  omega

/-- A step in time keeps the file within its bound. -/
theorem Bounded.step (h : l.Bounded settings start) (event : LogEvent) (ok : event.NoError)
    (in_time : l.RotatesInTime settings event) : (l.step settings event).Bounded settings start := by
  cases event with
  | «open» calls =>
    have same : (l.openFile settings calls).1.active settings = l.active settings :=
      active_of_lookup (lookup_openFile ok)
    unfold Bounded at h ⊢
    show (((l.openFile settings calls).1.active settings).size : Int) ≤ max _ (_ + (largest (openFile _ _ _).1.written : Int))
    rw [same, written_openFile]
    exact h
  | close => exact h
  | write line calls =>
    show (l.write settings calls line).1.Bounded settings start
    unfold write
    split
    · exact h
    · next is_open =>
      split
      · obtain ⟨quiet, found, _, _⟩ := rotate_spec (l := l) ok
        split
        · next rotated raised =>
          rw [raised] at quiet
          cases quiet
        · next rotated came =>
          rw [came] at found
          refine bounded_append ok ?_
          rw [active_of_lookup found]
          exact lt_of_lt_of_le Int.zero_lt_one (le_max_right _ _)
      · next early => exact bounded_append ok (in_time (by simpa using is_open) (by simpa using early))

/-- A line with as many bytes as characters is counted in full. -/
theorem Counts.append (h : l.Counts settings) (ok : calls.NoError) (ascii : line.utf8ByteSize = line.length) :
    (l.append settings calls line).1.Counts settings := by
  obtain ⟨directory, writer, _⟩ := @append_spec settings calls l line ok
  intro is_open
  rw [writer] at is_open ⊢
  obtain ⟨bytes, found, size⟩ := h is_open
  refine ⟨bytes ++ line.toUTF8, ?_, ?_⟩
  · rw [directory, Table.lookup_modify_self, found]
    rfl
  · show l.writer.size + (line.length : Int) = _
    rw [ByteArray.size_append, size_toUTF8, size, ascii]
    rfl

/-- A step with such lines keeps the counter at the size of the file. -/
theorem Counts.step (h : l.Counts settings) (event : LogEvent) (ok : event.NoError) (ascii : event.Ascii) :
    (l.step settings event).Counts settings := by
  cases event with
  | «open» calls =>
    intro _
    refine ⟨_, lookup_openFile ok, ?_⟩
    show (openFile _ _ _).1.writer.size = _
    rw [writer_openFile ok]
  | close =>
    intro is_open
    cases is_open
  | write line calls =>
    show (l.write settings calls line).1.Counts settings
    unfold write
    split
    · exact h
    · split
      · obtain ⟨quiet, found, _, writer⟩ := rotate_spec (l := l) ok
        split
        · next rotated raised =>
          rw [raised] at quiet
          cases quiet
        · next rotated came =>
          rw [came] at found writer
          refine Counts.append (fun _ => ⟨.empty, found, ?_⟩) ok ascii
          rw [writer]
          rfl
      · exact h.append ok ascii

/-- Where the counter is right, a file that has reached `max_bytes` is rotated. -/
theorem Counts.rotatesInTime (h : l.Counts settings) (event : LogEvent) : l.RotatesInTime settings event := by
  cases event with
  | «open» calls => trivial
  | close => trivial
  | write line calls =>
    intro is_open early
    obtain ⟨bytes, found, size⟩ := h is_open
    unfold RotatingWriter.needsRotate at early
    rw [Bool.or_eq_false_iff, decide_eq_false_iff_not, not_le, size] at early
    rw [active_of_lookup found]
    exact early.1

end Log

/-- Where the active file is rotated in time, its size is bounded; and it is rotated in time where every line has as
many bytes as characters. -/
theorem active_bounded (settings : LogSettings) (directory : Directory) (events : List LogEvent) :
    (Meets (Log.step settings) (fun l e => e.NoError ∧ l.RotatesInTime settings e) (.initial settings directory) events →
      (run (Log.step settings) (.initial settings directory) events).Bounded settings
        ((Log.initial settings directory).active settings).size) ∧
      (Meets (Log.step settings) (fun _ e => e.NoError ∧ e.Ascii) (.initial settings directory) events →
        Meets (Log.step settings) (Log.RotatesInTime settings) (.initial settings directory) events) := by
  constructor
  · intro met
    refine invariant (I := Log.Bounded settings _) (fun l e h ok => h.step e ok.1 ok.2) ?_ met
    exact le_max_left _ _
  · intro met
    refine meets_of_invariant (I := Log.Counts settings) (fun l e h ok => h.step e ok.1 ok.2)
      (fun l e h => h.rotatesInTime e) ?_ met
    intro is_open
    cases is_open

/-- A writer whose files may have 20 bytes. -/
def twentyBytes : LogSettings := ⟨.events, 3, ⟨1, 20, 0, 0, false⟩⟩

/-- A line of 22 characters, each of them one byte. -/
def fire : String := "\x7b\"m\": \"fire fire fi\"\x7d\n"

/-- The line three times. -/
def threeLines : List LogEvent :=
  [.open (quietAt "20260101-000000-000000"), .write fire (quietAt "20260101-000000-000000"),
    .write fire (quietAt "20260102-000000-000000"), .write fire (quietAt "20260103-000000-000000")]

/-- The file is rotated for the second line and for the third, and has never more than one of them. -/
theorem active_bounded_threeLines :
    (run (Log.step twentyBytes) (.initial twentyBytes ∅) threeLines).Bounded twentyBytes 0 ∧
      (run (Log.step twentyBytes) (.initial twentyBytes ∅) threeLines).rotations = 2 := by
  have ascii : Meets (Log.step twentyBytes) (fun _ e => e.NoError ∧ e.Ascii) (.initial twentyBytes ∅) threeLines := by
    have fine (stamp : String) : (quietAt stamp).NoError := ⟨rfl, rfl, rfl, rfl, fun _ => rfl, rfl⟩
    have one : fire.utf8ByteSize = fire.length := by decide +kernel
    exact ⟨⟨fine _, trivial⟩, ⟨fine _, one⟩, ⟨fine _, one⟩, ⟨fine _, one⟩, trivial⟩
  have in_time := (active_bounded twentyBytes ∅ threeLines).2 ascii
  have quiet : Meets (Log.step twentyBytes) (fun _ e => e.NoError) (.initial twentyBytes ∅) threeLines :=
    (meets_and_iff.mp ascii).1
  exact ⟨(active_bounded twentyBytes ∅ threeLines).1 (meets_and_iff.mpr ⟨quiet, in_time⟩), by decide +kernel⟩

/-- A line of 14 characters, in 22 bytes. -/
def fourFires : String := "\x7b\"m\": \"火火火火\"\x7d\n"

/-- Two lines of 22 bytes in an empty file: the second is written to it although it has more than 20 bytes. -/
theorem two_lines_unrotated :
    Meets (Log.step twentyBytes) (fun _ e => e.NoError) (.initial twentyBytes ∅)
        [.open noError, .write fourFires noError, .write fourFires noError] ∧
      ¬ (run (Log.step twentyBytes) (.initial twentyBytes ∅)
        [.open noError, .write fourFires noError, .write fourFires noError]).Bounded twentyBytes 0 := by
  have fine : noError.NoError := ⟨rfl, rfl, rfl, rfl, fun _ => rfl, rfl⟩
  refine ⟨⟨fine, fine, fine, trivial⟩, ?_⟩
  unfold Log.Bounded
  decide +kernel

end Firebot.Recorder
