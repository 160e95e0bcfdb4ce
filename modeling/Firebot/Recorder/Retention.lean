import Firebot.Lib.Newest
import Firebot.Lib.Run
import Firebot.Recorder.RotatingFiles

/-!
# Which rotated files are kept

`_prune` is to leave the newest `keep` files. It deletes `names[:excess]`, where `excess` is negative while
there are fewer: the bound is then counted from the end of the list, and once there are more than half of `keep`
the oldest are deleted although there is room (`prune_exact_iff`). **Where the number of files is at most half
of `keep`, or at least `keep`, what is left after any number of rotations is the newest of all files that were
ever rotated** (`rotated_retained_iff`). Nothing is said of files that somebody else puts into the directory.
-/

namespace Firebot.Recorder

open Newest Runs

variable (settings : LogSettings) (calls : Calls)

/-! ## One call of `_prune` -/

/-- The rotated files of a directory. -/
def rotatedSet (kind : Kind) (directory : Directory) : Finset String := (rotatedNames kind directory).toFinset

/-- A rotated file is removed exactly if `keep` rotated files with larger names remain. -/
def Retains (before after : Directory) : Prop :=
  ∀ name ∈ rotatedSet settings.kind before,
    name ∉ rotatedSet settings.kind after ↔ settings.keepCount ≤ (greater (rotatedSet settings.kind after) name).card

/-- The number of rotated files is not between the half of `keep` and `keep`, and what is to be removed can be. Of
the other cases those are right in which nothing that would be removed can be. -/
def PruneExact (directory : Directory) : Prop :=
  let names := rotatedNames settings.kind directory
  if calls.listFails then names.length ≤ settings.keepCount
  else
    (∀ name ∈ names.take (names.length - settings.keepCount), calls.removeFails name = false) ∧
      (names.length < settings.keepCount →
        ∀ name ∈ names.take (2 * names.length - settings.keepCount), calls.removeFails name = true)

instance PruneExact.decidable (directory : Directory) : Decidable (PruneExact settings calls directory) :=
  inferInstanceAs (Decidable (if calls.listFails then _ else _))

/-- The names for which `os.remove` is called. -/
def toRemove (directory : Directory) : List String :=
  if calls.listFails then []
  else
    sliceTo (rotatedNames settings.kind directory)
      ((rotatedNames settings.kind directory).length - settings.keepCount : Int)

variable {kind : Kind} {directory : Directory} {name : String}

/-- The rotated files are those with such a name. -/
theorem mem_rotatedNames : name ∈ rotatedNames kind directory ↔ directory.lookup name ≠ none ∧ kind.isRotated name = true := by
  unfold rotatedNames
  rw [List.mem_insertionSort, List.mem_filter, ← AList.mem_keys, ← AList.lookup_isSome, Option.isSome_iff_ne_none]

theorem mem_rotatedSet : name ∈ rotatedSet kind directory ↔ directory.lookup name ≠ none ∧ kind.isRotated name = true := by
  unfold rotatedSet
  rw [List.mem_toFinset, mem_rotatedNames]

/-- They are listed in order, each once. -/
theorem rotatedNames_pairwise : (rotatedNames kind directory).Pairwise (· < ·) := by
  have sorted : (rotatedNames kind directory).Pairwise (· ≤ ·) := List.pairwise_insertionSort (· ≤ ·) _
  have distinct : (rotatedNames kind directory).Nodup :=
    (List.perm_insertionSort (· ≤ ·) _).nodup_iff.mpr (directory.nodupKeys.filter _)
  exact sorted.imp₂ (fun _ _ le ne => lt_of_le_of_ne le ne) distinct

/-- A removal that does not raise takes the one file away. -/
theorem lookup_removeFile (first : String) : (removeFile calls directory first).lookup name =
    if name = first ∧ calls.removeFails name = false then none else directory.lookup name := by
  unfold removeFile
  by_cases same : name = first
  · rw [← same]
    cases fails : calls.removeFails name with
    | true => simp
    | false => simp [AList.lookup_erase]
  · rw [if_neg (c := name = first ∧ _) fun h => same h.1]
    split
    · rfl
    · exact AList.lookup_erase_ne same

/-- The removals take away what can be removed. -/
theorem lookup_foldl_removeFile (names : List String) : (names.foldl (removeFile calls) directory).lookup name =
    if name ∈ names ∧ calls.removeFails name = false then none else directory.lookup name := by
  induction names generalizing directory with
  | nil => simp
  | cons first names ih =>
    rw [List.foldl_cons, ih, lookup_removeFile]
    by_cases can : calls.removeFails name = false
    · by_cases same : name = first
      · simp [same, same ▸ can]
      · simp [can, same]
    · simp [can]

/-- `_prune` is the removal of what is to be removed. -/
theorem prune_eq : prune settings calls directory = (toRemove settings calls directory).foldl (removeFile calls) directory := by
  unfold prune toRemove
  split
  · rfl
  · rfl

/-- What `_prune` leaves of a file. -/
theorem lookup_prune : (prune settings calls directory).lookup name =
    if name ∈ toRemove settings calls directory ∧ calls.removeFails name = false then none
    else directory.lookup name := by
  rw [prune_eq, lookup_foldl_removeFile]

/-- What `_prune` leaves of the rotated files. -/
theorem mem_rotatedSet_prune : name ∈ rotatedSet settings.kind (prune settings calls directory) ↔
    name ∈ rotatedSet settings.kind directory ∧
      ¬ (name ∈ toRemove settings calls directory ∧ calls.removeFails name = false) := by
  rw [mem_rotatedSet, mem_rotatedSet, lookup_prune]
  split
  · next gone => simp [gone]
  · next stays => simp [stays]

/-- What is to be removed, in numbers. -/
theorem toRemove_eq (listed : calls.listFails = false) : toRemove settings calls directory =
    (rotatedNames settings.kind directory).take
      (if (rotatedNames settings.kind directory).length < settings.keepCount then
        2 * (rotatedNames settings.kind directory).length - settings.keepCount
      else (rotatedNames settings.kind directory).length - settings.keepCount) := by
  unfold toRemove sliceTo
  rw [if_neg (by rw [listed]; exact Bool.false_ne_true)]
  refine congrArg (List.take · _) ?_
  split <;> split <;> omega

/-- The right files are removed exactly if nothing is miscounted. -/
theorem removed_iff : (∀ name ∈ rotatedNames settings.kind directory,
      (name ∈ toRemove settings calls directory ∧ calls.removeFails name = false) ↔
        name ∈ (rotatedNames settings.kind directory).take
          ((rotatedNames settings.kind directory).length - settings.keepCount)) ↔
    PruneExact settings calls directory := by
  unfold PruneExact
  cases listed : calls.listFails with
  | true =>
    have nothing : toRemove settings calls directory = [] := if_pos listed
    rw [if_pos rfl, nothing]
    constructor
    · intro same
      by_contra many
      have first : (rotatedNames settings.kind directory).take
          ((rotatedNames settings.kind directory).length - settings.keepCount) ≠ [] := by
        intro empty
        rw [List.take_eq_nil_iff] at empty
        rcases empty with none_ | empty
        · omega
        · rw [empty] at many
          exact many (Nat.zero_le _)
      obtain ⟨name, mem⟩ := List.exists_mem_of_ne_nil _ first
      exact absurd ((same name (List.mem_of_mem_take mem)).mpr mem).1 List.not_mem_nil
    · intro few name _
      rw [Nat.sub_eq_zero_of_le few, List.take_zero]
      exact iff_of_false (fun h => List.not_mem_nil h.1) List.not_mem_nil
  | false =>
    rw [if_neg Bool.false_ne_true, toRemove_eq settings calls listed]
    split
    · next few =>
      rw [Nat.sub_eq_zero_of_le few.le, List.take_zero]
      constructor
      · intro same
        refine ⟨fun name mem => absurd mem List.not_mem_nil, fun _ name mem => ?_⟩
        have kept := mt (same name (List.mem_of_mem_take mem)).mp List.not_mem_nil
        exact Bool.not_eq_false _ |>.mp fun can => kept ⟨mem, can⟩
      · intro ⟨_, fails⟩ name _
        refine iff_of_false (fun h => ?_) List.not_mem_nil
        rw [fails few name h.1] at h
        exact Bool.noConfusion h.2
    · next many =>
      constructor
      · intro same
        exact ⟨fun name mem => ((same name (List.mem_of_mem_take mem)).mpr mem).2, fun few => absurd few many⟩
      · intro ⟨can, _⟩ name _
        exact ⟨fun h => h.1, fun mem => ⟨mem, can name mem⟩⟩

/-- What `_prune` leaves is the newest of what there was exactly if nothing is miscounted. -/
theorem rotatedSet_prune_iff : rotatedSet settings.kind (prune settings calls directory) =
    newest settings.keepCount (rotatedSet settings.kind directory) ↔ PruneExact settings calls directory := by
  rw [← removed_iff, Finset.ext_iff]
  have place : ∀ name ∈ rotatedNames settings.kind directory,
      name ∈ newest settings.keepCount (rotatedSet settings.kind directory) ↔
        ¬ name ∈ (rotatedNames settings.kind directory).take
          ((rotatedNames settings.kind directory).length - settings.keepCount) := by
    intro name mem
    rw [mem_newest, mem_take_sorted rotatedNames_pairwise mem, not_le]
    exact and_iff_right (List.mem_toFinset.mpr mem)
  constructor
  · intro same name mem
    have both := same name
    rw [mem_rotatedSet_prune, place name mem] at both
    exact not_iff_not.mp ((and_iff_right (List.mem_toFinset.mpr mem)).symm.trans both)
  · intro same name
    by_cases mem : name ∈ rotatedNames settings.kind directory
    · rw [mem_rotatedSet_prune, place name mem, ← same name mem]
      exact and_iff_right (List.mem_toFinset.mpr mem)
    · have absent : name ∉ rotatedSet settings.kind directory := fun mem' => mem (List.mem_toFinset.mp mem')
      exact iff_of_false (fun h => absent ((mem_rotatedSet_prune settings calls).mp h).1) fun h => absent (newest_subset h)

/-- The law of retention for one call, exactly. -/
theorem retains_prune_iff : Retains settings directory (prune settings calls directory) ↔
    PruneExact settings calls directory := by
  rw [← rotatedSet_prune_iff]
  refine (eq_newest_iff fun name mem => ?_).symm
  exact ((mem_rotatedSet_prune settings calls).mp mem).1

/-! ## Runs -/

/-- The active file is no rotated one. -/
theorem isRotated_activeName (kind : Kind) : kind.isRotated kind.activeName = false := by
  cases kind <;> decide +kernel

/-- A file is rotated to the name of a rotated one. -/
theorem isRotated_rotatedName : settings.kind.isRotated (rotatedName settings calls) = true := by
  unfold Kind.isRotated rotatedName
  rw [Bool.and_eq_true, List.isPrefixOf_iff_prefix, List.isSuffixOf_iff_suffix]
  constructor
  · refine ⟨calls.stamp.toList ++ ".jsonl".toList, ?_⟩
    simp only [String.toList_append, List.append_assoc]
  · refine ⟨(settings.kind.stem ++ "-" ++ calls.stamp).toList, ?_⟩
    rw [← String.toList_append]

namespace Log

/-- The names of all files that were ever rotated. -/
def names (l : Log) : Finset String := (l.archived.map Prod.fst).toFinset

/-- The rotated files of the directory are those that were rotated with a name of a set. -/
def Holds (l : Log) (kept : Finset String) : Prop :=
  ∀ name bytes, settings.kind.isRotated name = true →
    (l.directory.lookup name = some bytes ↔ (name, bytes) ∈ l.archived ∧ name ∈ kept)

/-- Before the first rotation all rotated files are there, and then the newest. -/
def kept (l : Log) : Finset String := if l.rotations = 0 then l.names else newest settings.keepCount l.names

/-- The directory holds what is to be kept of the files that were rotated. -/
structure Archive (l : Log) : Prop where
  rotated : ∀ row ∈ l.archived, settings.kind.isRotated row.1 = true
  distinct : (l.archived.map Prod.fst).Nodup
  holds : l.Holds settings (l.kept settings)

/-- After any number of rotations the newest files exist, as many as there is room for, and no other one does. -/
structure Retained (l : Log) : Prop where
  exist : ∀ row ∈ l.archived, row.1 ∈ newest settings.keepCount l.names → l.directory.lookup row.1 = some row.2
  gone : ∀ name, settings.kind.isRotated name = true → name ∉ newest settings.keepCount l.names →
    l.directory.lookup name = none
  count : (newest settings.keepCount l.names).card = min settings.keepCount l.archived.length

/-- Where a write rotates: the active file is opened again, the name of the rotated file is a new one, and nothing is
miscounted. -/
def RotatesWell (l : Log) : LogEvent → Prop
  | .write _ calls =>
    l.writer.isOpen = true → l.writer.needsRotate settings.config calls.now = true →
      calls.openFails = false ∧ ((l.close.rename settings calls).archived.map Prod.fst).Nodup ∧
        PruneExact settings calls ((l.close.rename settings calls).openFile settings calls).1.directory
  | .open _ | .close => True

instance RotatesWell.decidable (l : Log) : ∀ event, Decidable (l.RotatesWell settings event)
  | .write _ calls => inferInstanceAs (Decidable (_ → _ → calls.openFails = false ∧ _ ∧ _))
  | .open _ | .close => inferInstanceAs (Decidable True)

/-- Nothing is done to the rotated files. -/
structure SameRotated (l l' : Log) : Prop where
  directory : ∀ name, settings.kind.isRotated name = true → l'.directory.lookup name = l.directory.lookup name
  archived : l'.archived = l.archived
  rotations : l'.rotations = l.rotations

variable {settings calls} {l l' : Log} {kept : Finset String}

/-- What leaves the rotated files alone leaves them as they are to be. -/
theorem SameRotated.holds (same : SameRotated settings l l') (h : l.Holds settings kept) : l'.Holds settings kept := by
  intro name bytes rotated
  rw [same.directory name rotated, same.archived]
  exact h name bytes rotated

/-- And the archive. -/
theorem SameRotated.archive (same : SameRotated settings l l') (h : l.Archive settings) : l'.Archive settings where
  rotated := same.archived ▸ h.rotated
  distinct := same.archived ▸ h.distinct
  holds := by
    have equal : l'.kept settings = l.kept settings := by
      unfold Log.kept Log.names
      rw [same.archived, same.rotations]
    rw [equal]
    exact same.holds h.holds

/-- A rotated file is not the active one. -/
theorem ne_activeName {name : String} (rotated : settings.kind.isRotated name = true) : name ≠ settings.kind.activeName := by
  rintro rfl
  rw [isRotated_activeName] at rotated
  cases rotated

theorem sameRotated_close : SameRotated settings l l.close := ⟨fun _ _ => rfl, rfl, rfl⟩

/-- Opening leaves the rotated files alone. -/
theorem sameRotated_openFile : SameRotated settings l (l.openFile settings calls).1 := by
  unfold openFile
  split
  · exact ⟨fun _ _ => rfl, rfl, rfl⟩
  · refine ⟨fun name rotated => ?_, rfl, rfl⟩
    dsimp only
    split
    · rfl
    · exact AList.lookup_insert_ne (ne_activeName rotated)

/-- So does a line. -/
theorem sameRotated_append (line : String) : SameRotated settings l (l.append settings calls line).1 := by
  unfold append
  split
  · exact ⟨fun name rotated => Table.lookup_modify_of_ne (ne_activeName rotated) _ _, rfl, rfl⟩
  · exact ⟨fun name rotated => Table.lookup_modify_of_ne (ne_activeName rotated) _ _, rfl, rfl⟩

/-- The rename fails, or the active file has the new name. -/
theorem rename_cases : l.rename settings calls = l ∨
    ∃ bytes, l.rename settings calls =
      { l with
        directory := (l.directory.erase settings.kind.activeName).insert (rotatedName settings calls) bytes
        archived := l.archived ++ [(rotatedName settings calls, bytes)] } := by
  unfold rename
  split
  · next bytes _ _ => exact .inr ⟨bytes, rfl⟩
  · exact .inl rfl

/-- The active file becomes one of the rotated files. -/
theorem holds_rename (h : l.Holds settings kept) (sub : kept ⊆ l.names)
    (distinct : ((l.rename settings calls).archived.map Prod.fst).Nodup) :
    ∃ kept', (l.rename settings calls).Holds settings kept' ∧ kept' ⊆ (l.rename settings calls).names ∧
      (kept' = kept ∧ (l.rename settings calls).names = l.names ∨
        ∃ name, kept' = insert name kept ∧ (l.rename settings calls).names = insert name l.names) := by
  rcases @rename_cases settings calls l with same | ⟨bytes, moved⟩
  · rw [same]
    exact ⟨kept, h, sub, .inl ⟨rfl, rfl⟩⟩
  · rw [moved] at distinct ⊢
    let name := rotatedName settings calls
    have rotated : settings.kind.isRotated name = true := isRotated_rotatedName settings calls
    have fresh : name ∉ l.archived.map Prod.fst := by
      rw [List.map_append, List.nodup_append] at distinct
      exact fun mem => distinct.2.2 name mem name List.mem_cons_self rfl
    have grown : (l.archived ++ [(name, bytes)]).map Prod.fst = l.archived.map Prod.fst ++ [name] := List.map_append
    have names' : ((l.archived ++ [(name, bytes)]).map Prod.fst).toFinset = insert name l.names := by
      rw [grown]
      ext other
      rw [List.mem_toFinset, List.mem_append, List.mem_singleton, Finset.mem_insert, Log.names, List.mem_toFinset,
        or_comm]
    refine ⟨insert name kept, fun other content rotated' => ?_, ?_, .inr ⟨name, rfl, names'⟩⟩
    · show ((l.directory.erase _).insert name bytes).lookup other = some content ↔
        (other, content) ∈ l.archived ++ [(name, bytes)] ∧ _
      rw [List.mem_append, List.mem_singleton, Prod.mk.injEq, Finset.mem_insert]
      by_cases same : other = name
      · rw [same, AList.lookup_insert]
        constructor
        · intro found
          exact ⟨.inr ⟨rfl, (Option.some.inj found).symm⟩, .inl rfl⟩
        · rintro ⟨old | ⟨_, new⟩, _⟩
          · exact absurd (List.mem_map.mpr ⟨_, old, rfl⟩) fresh
          · rw [new]
      · rw [AList.lookup_insert_ne same, AList.lookup_erase_ne (ne_activeName rotated'), h other content rotated']
        exact ⟨fun ⟨mem, inside⟩ => ⟨.inl mem, .inr inside⟩, fun ⟨mem, inside⟩ =>
          ⟨mem.resolve_right fun h => same h.1, inside.resolve_left same⟩⟩
    · show _ ⊆ ((l.archived ++ [(name, bytes)]).map Prod.fst).toFinset
      rw [names']
      exact Finset.insert_subset_insert name sub

/-- The rotated files are the kept ones. -/
theorem Holds.rotatedSet_eq (h : l.Holds settings kept) (sub : kept ⊆ l.names)
    (rotated : ∀ row ∈ l.archived, settings.kind.isRotated row.1 = true) :
    rotatedSet settings.kind l.directory = kept := by
  ext name
  rw [mem_rotatedSet]
  constructor
  · rintro ⟨found, rotated'⟩
    obtain ⟨bytes, found'⟩ := Option.ne_none_iff_exists'.mp found
    exact ((h name bytes rotated').mp found').2
  · intro inside
    obtain ⟨⟨_, bytes⟩, mem, rfl⟩ := List.mem_map.mp (List.mem_toFinset.mp (sub inside))
    rw [(h _ bytes (rotated _ mem)).mpr ⟨mem, inside⟩]
    exact ⟨Option.some_ne_none bytes, rotated _ mem⟩

/-- The right files are removed, and the newest are left. -/
theorem Holds.prune (h : l.Holds settings kept) (sub : kept ⊆ l.names)
    (rotated : ∀ row ∈ l.archived, settings.kind.isRotated row.1 = true)
    (exact_ : PruneExact settings calls l.directory) :
    Holds settings { l with directory := Recorder.prune settings calls l.directory } (newest settings.keepCount kept) := by
  have left_ := (rotatedSet_prune_iff settings calls).mpr exact_
  rw [h.rotatedSet_eq sub rotated] at left_
  intro name bytes rotated'
  show (Recorder.prune settings calls l.directory).lookup name = some bytes ↔ _
  have remains : name ∈ newest settings.keepCount kept ↔
      (Recorder.prune settings calls l.directory).lookup name ≠ none := by
    rw [← left_, mem_rotatedSet]
    exact and_iff_left rotated'
  rw [remains, lookup_prune]
  split
  · exact iff_of_false (fun found => Option.some_ne_none _ found.symm) fun h => h.2 rfl
  · rw [h name bytes rotated']
    constructor
    · intro ⟨mem, inside⟩
      refine ⟨mem, ?_⟩
      rw [(h name bytes rotated').mpr ⟨mem, inside⟩]
      exact Option.some_ne_none bytes
    · intro ⟨mem, found⟩
      obtain ⟨bytes', found'⟩ := Option.ne_none_iff_exists'.mp found
      exact ⟨mem, ((h name bytes' rotated').mp found').2⟩

/-- Only files that were rotated are kept. -/
theorem kept_subset : l.kept settings ⊆ l.names := by
  unfold Log.kept
  split
  · exact subset_rfl
  · exact newest_subset

/-- A renamed file is a rotated one. -/
theorem rotated_rename (h : ∀ row ∈ l.archived, settings.kind.isRotated row.1 = true) :
    ∀ row ∈ (l.rename settings calls).archived, settings.kind.isRotated row.1 = true := by
  rcases @rename_cases settings calls l with same | ⟨bytes, moved⟩
  · rw [same]
    exact h
  · rw [moved]
    intro row mem
    rcases List.mem_append.mp mem with old | new
    · exact h row old
    · rw [List.mem_singleton.mp new]
      exact isRotated_rotatedName settings calls

/-- `open` raises as the call does. -/
theorem openFile_snd : (l.openFile settings calls).2 = calls.openFails := by
  unfold openFile
  cases calls.openFails <;> rfl

/-- A rotation whose `open` does not raise. -/
theorem rotate_eq (opens : calls.openFails = false) : l.rotate settings calls =
    ({ ((l.close.rename settings calls).openFile settings calls).1 with
      directory := Recorder.prune settings calls ((l.close.rename settings calls).openFile settings calls).1.directory
      rotations := ((l.close.rename settings calls).openFile settings calls).1.rotations + 1 }, false) := by
  have fine : ((l.close.rename settings calls).openFile settings calls).2 = false := openFile_snd.trans opens
  unfold rotate
  split
  · next reopened opened =>
    rw [opened] at fine
    cases fine
  · next reopened opened => rw [opened]

/-- A rotation in which nothing is miscounted leaves the newest of all files. -/
theorem Archive.rotate (h : l.Archive settings) (opens : calls.openFails = false)
    (distinct : ((l.close.rename settings calls).archived.map Prod.fst).Nodup)
    (exact_ : PruneExact settings calls ((l.close.rename settings calls).openFile settings calls).1.directory) :
    (l.rotate settings calls).1.Archive settings := by
  rw [rotate_eq opens]
  let renamed := l.close.rename settings calls
  obtain ⟨kept', holds, sub, grown⟩ := holds_rename (sameRotated_close.holds h.holds) kept_subset distinct
  have same : SameRotated settings renamed (renamed.openFile settings calls).1 := sameRotated_openFile
  have rotated : ∀ row ∈ renamed.archived, settings.kind.isRotated row.1 = true :=
    rotated_rename (l := l.close) h.rotated
  refine ⟨same.archived ▸ rotated, same.archived ▸ distinct, ?_⟩
  have names_ : (renamed.openFile settings calls).1.names = renamed.names := by
    unfold Log.names
    rw [same.archived]
  have all : newest settings.keepCount kept' = newest settings.keepCount renamed.names := by
    rcases grown with ⟨rfl, equal⟩ | ⟨name, rfl, equal⟩
    · rw [equal]
      unfold Log.kept
      split
      · rfl
      · exact newest_newest
    · rw [equal]
      unfold Log.kept
      split
      · rfl
      · exact newest_insert_newest
  have left_ := (same.holds holds).prune (names_ ▸ sub) (same.archived ▸ rotated) exact_
  rw [all, ← names_] at left_
  exact left_

/-- At the start all rotated files are kept. -/
theorem archive_initial (directory : Directory) : (initial settings directory).Archive settings where
  rotated row mem := (List.mem_filter.mp mem).2
  distinct := by
    have keys : directory.rows.map Prod.fst = directory.keys := by
      unfold Table.rows AList.keys List.keys
      rw [List.map_map]
      rfl
    have all : (directory.rows.map Prod.fst).Nodup := keys ▸ directory.nodupKeys
    exact all.sublist (List.filter_sublist.map _)
  holds name bytes rotated := by
    show directory.lookup name = some bytes ↔
      (name, bytes) ∈ directory.rows.filter (fun row => settings.kind.isRotated row.1) ∧ name ∈ names _
    rw [List.mem_filter, Table.mem_rows]
    constructor
    · intro found
      refine ⟨⟨found, rotated⟩, List.mem_toFinset.mpr (List.mem_map.mpr ⟨(name, bytes), ?_, rfl⟩)⟩
      exact List.mem_filter.mpr ⟨Table.mem_rows.mpr found, rotated⟩
    · exact fun h => h.1.1

/-- A step in which nothing is miscounted keeps the archive. -/
theorem Archive.step (h : l.Archive settings) (event : LogEvent) (well : l.RotatesWell settings event) :
    (l.step settings event).Archive settings := by
  cases event with
  | «open» calls => exact sameRotated_openFile.archive h
  | close => exact sameRotated_close.archive h
  | write line calls =>
    show (l.write settings calls line).1.Archive settings
    unfold write
    split
    · exact h
    · next is_open =>
      split
      · next due =>
        obtain ⟨opens, distinct, exact_⟩ := well (by simpa using is_open) due
        have rotated := h.rotate opens distinct exact_
        rw [rotate_eq opens] at rotated ⊢
        exact (sameRotated_append line).archive rotated
      · exact (sameRotated_append line).archive h

/-- After a rotation the archive is the newest files. -/
theorem Archive.retained (h : l.Archive settings) (some_ : l.rotations ≠ 0) : l.Retained settings := by
  have kept_ : l.kept settings = newest settings.keepCount l.names := if_neg some_
  refine ⟨fun row mem inside => ?_, fun name rotated outside => ?_, ?_⟩
  · exact (h.holds _ _ (h.rotated row mem)).mpr ⟨mem, kept_ ▸ inside⟩
  · by_contra found
    obtain ⟨bytes, found'⟩ := Option.ne_none_iff_exists'.mp found
    exact outside (kept_ ▸ ((h.holds name bytes rotated).mp found').2)
  · rw [card_newest, Log.names, List.toFinset_card_of_nodup h.distinct, List.length_map]

end Log

/-- A file is removed exactly if `keep` newer ones remain, exactly where nothing is miscounted; and in every run in
which nothing is, after any number of rotations the newest of all rotated files are there. -/
theorem rotated_retained_iff :
    (∀ calls directory, Retains settings directory (prune settings calls directory) ↔
      PruneExact settings calls directory) ∧
      ∀ directory events, Meets (Log.step settings) (Log.RotatesWell settings) (.initial settings directory) events →
        (run (Log.step settings) (.initial settings directory) events).rotations ≠ 0 →
          (run (Log.step settings) (.initial settings directory) events).Retained settings := by
  refine ⟨fun calls directory => retains_prune_iff settings calls, fun directory events well some_ => ?_⟩
  have archive := invariant (I := Log.Archive settings) (fun l e h ok => h.step e ok) (Log.archive_initial directory) well
  exact archive.retained some_

/-- Nothing fails at this time. -/
def quietAt (stamp : String) : Calls := ⟨0, stamp, false, false, false, false, fun _ => false, none⟩

/-- A writer that is to keep two files, and rotates for every line. -/
def keepTwo : LogSettings := ⟨.events, 2, ⟨1, 1, 0, 0, false⟩⟩

/-- Four lines, so that three files are rotated. -/
def fourLines : List LogEvent :=
  [.open (quietAt "20260101-000000-000000"), .write "1\n" (quietAt "20260101-000000-000000"),
    .write "2\n" (quietAt "20260102-000000-000000"), .write "3\n" (quietAt "20260103-000000-000000"),
    .write "4\n" (quietAt "20260104-000000-000000")]

/-- Two of the three are there, and the oldest one is deleted. -/
theorem rotated_retained_fourLines : (run (Log.step keepTwo) (.initial keepTwo ∅) fourLines).Retained keepTwo ∧
    (run (Log.step keepTwo) (.initial keepTwo ∅) fourLines).rotations = 3 ∧
      rotatedNames .events (run (Log.step keepTwo) (.initial keepTwo ∅) fourLines).directory =
        ["events-20260103-000000-000000.jsonl", "events-20260104-000000-000000.jsonl"] := by
  have well : Meets (Log.step keepTwo) (Log.RotatesWell keepTwo) (.initial keepTwo ∅) fourLines := by decide +kernel
  have rotations : (run (Log.step keepTwo) (.initial keepTwo ∅) fourLines).rotations = 3 := by decide +kernel
  refine ⟨(rotated_retained_iff keepTwo).2 ∅ fourLines well ?_, rotations, by decide +kernel⟩
  rw [rotations]
  decide

/-- A writer that is to keep three files. -/
def keepThree : LogSettings := ⟨.events, 3, ⟨1, 1, 0, 0, false⟩⟩

/-- Nothing fails. -/
def noError : Calls := quietAt "20260101-000000-000000"

/-- Two rotated files, where three may be kept: the older one is deleted. -/
theorem second_file_removed : ∃ directory : Directory,
    rotatedNames .events directory = ["events-20260101-000000-000000.jsonl", "events-20260102-000000-000000.jsonl"] ∧
      rotatedNames .events (prune keepThree noError directory) = ["events-20260102-000000-000000.jsonl"] ∧
        ¬ Retains keepThree directory (prune keepThree noError directory) := by
  let directory : Directory := AList.insert "events-20260101-000000-000000.jsonl" .empty
    (AList.insert "events-20260102-000000-000000.jsonl" .empty ∅)
  have before : rotatedNames .events directory =
      ["events-20260101-000000-000000.jsonl", "events-20260102-000000-000000.jsonl"] := by decide +kernel
  have after : rotatedNames .events (prune keepThree noError directory) = ["events-20260102-000000-000000.jsonl"] := by
    decide +kernel
  refine ⟨directory, before, after, fun retains => ?_⟩
  have first : "events-20260101-000000-000000.jsonl" ∈ rotatedSet .events directory := by
    rw [rotatedSet, before]
    decide
  have gone : "events-20260101-000000-000000.jsonl" ∉ rotatedSet .events (prune keepThree noError directory) := by
    rw [rotatedSet, after]
    decide
  have many := (retains _ first).mp gone
  have one : (rotatedSet .events (prune keepThree noError directory)).card = 1 := by
    rw [rotatedSet, after]
    rfl
  have few : 3 ≤ 1 := many.trans ((Finset.card_filter_le _ _).trans one.le)
  exact absurd few (by decide)

end Firebot.Recorder
