import Firebot.Trace.Sanitizing

/-!
# Which records are delivered

A call that is to emit hands one record to the recorder where nothing raises before it. The journal comes first, and
so an object that `json.dumps` cannot write keeps the record from the recorder (`disconnect_lost`).

What is written and handed over is always a record with allowed keys only, and without values under secret keys.
The numbers differ as long as no field takes the place of `event_seq`. **In a run every call hands over one
record if it is to, and else none, exactly if every call that is to comes to the recorder**
(`trace_delivers_iff`). Nothing is said of what the recorder does with it.
-/

namespace Firebot.Trace

open Dict Runs

variable {ω : Type} (lib : Library ω)

/-! ## Arguments and records -/

/-- `sanitize` comes through the arguments. -/
def SanitizableFields : Nat → Fields ω → Prop
  | 0, _ => False
  | room + 1, fields => ∀ field ∈ fields, isSecretKey lib field.1 = true ∨ Sanitizable lib room field.2

/-- `json.dumps` can write the allowed arguments. -/
def SerializableFields : Nat → String → Fields ω → Prop
  | 0, _, _ => False
  | room + 1, event, fields => ∀ field, LastOf fields field → isAllowed event field.1 = true →
    isSecretKey lib field.1 = false → Serializable lib room field.2

/-- A record has only keys that its event allows, and no value under a secret key. -/
structure SafeRecord (event : String) (record : Record ω) : Prop where
  allowed : ∀ field ∈ record, isAllowed event field.1 = true
  secrets : NoSecret lib (.dict record)

/-- `event_seq` of a record. -/
def number (record : Record ω) : Option (Clean ω) := record.lookup (.chars "event_seq")

/-! ## Calls -/

/-- The arguments of a call. -/
def Call.fields : Call ω → Fields ω
  | .emit _ _ _ _ fields | .transition _ _ _ _ _ _ fields => fields

/-- The event of a call. -/
def Call.event : Call ω → String
  | .emit _ event .. | .transition _ _ _ event .. => event

namespace FieldTrace

variable (trace : FieldTrace ω)

/-- A call is to hand a record to the recorder. -/
def isDue : Call ω → Bool
  | .emit _ event _ importance _ => trace.shouldPersist (importanceOf event importance)
  | .transition _ key newValue event _ importance _ =>
    trace.shouldPersist (importanceOf event importance) &&
      match trace.last.lookup key with
      | none => true
      | some old => lib.differs old newValue = some true

/-- A call hands over one record if it is to, else none. -/
def Delivers (call : Call ω) : Prop :=
  ∃ records, (trace.step lib call).handed = trace.handed ++ records ∧
    records.length = (trace.isDue lib call).toNat

/-- There is a recorder, and nothing raises before it. -/
structure Comes (now : Moment) (event : String) (imp : Importance) (fields : Fields ω) : Prop where
  recorder : trace.hasRecorder = true
  sanitizable : SanitizableFields lib now.sanitizeRoom fields
  serializable : trace.shouldJournal imp = true → SerializableFields lib now.encoderRoom event fields

/-- Where a call is to hand over a record, it comes to the recorder. -/
def Fits : Call ω → Prop
  | .emit now event _ importance fields =>
    trace.shouldPersist (importanceOf event importance) = true →
      trace.Comes lib now event (importanceOf event importance) fields
  | .transition now key newValue event _ importance fields =>
    trace.shouldPersist (importanceOf event importance) = true →
      match trace.last.lookup key with
      | none => trace.Comes lib now event (importanceOf event importance) fields
      | some old => lib.differs old newValue = some true →
        .chars "previous" ∉ fields.map Prod.fst ∧
          trace.Comes lib now event (importanceOf event importance) ((.chars "previous", old) :: fields)

/-- What a call hands over and writes is safe. -/
def Discreet (event : String) (after : FieldTrace ω) : Prop :=
  ∃ records lines, after.handed = trace.handed ++ records ∧ after.journal = trace.journal ++ lines ∧
    (∀ entry ∈ records, SafeRecord lib event entry.1) ∧
    ∀ line ∈ lines, ∃ record, SafeRecord lib event record ∧ line = lib.render record

/-- The records that were handed over have numbers that were given, each its own. -/
structure Numbered : Prop where
  distinct : (trace.handed.map fun entry => number entry.1).Nodup
  given : ∀ entry ∈ trace.handed, ∃ n ≤ trace.seq, number entry.1 = some (.int n)

/-- What `emit` does: nothing, or it takes a number and something raises, or it writes and hands over a record. -/
inductive Emitted (now : Moment) (event : String) (imp : Importance) (fields : Fields ω) : FieldTrace ω → Prop where
  | silent (persists : trace.shouldPersist imp = false) : Emitted now event imp fields trace
  | raised (fails : ¬ (SanitizableFields lib now.sanitizeRoom fields ∧
      (trace.shouldJournal imp = true → SerializableFields lib now.encoderRoom event fields))) :
    Emitted now event imp fields trace.numbered
  | done (record : Record ω) (lines : List String) (sanitizable : SanitizableFields lib now.sanitizeRoom fields)
      (serializable : trace.shouldJournal imp = true → SerializableFields lib now.encoderRoom event fields)
      (safe : SafeRecord lib event record)
      (own : .chars "event_seq" ∉ fields.map Prod.fst → number record = some (.int trace.numbered.seq))
      (rendered : ∀ line ∈ lines, line = lib.render record) :
    Emitted now event imp fields ((trace.written lines).persistRecord imp record)

/-- A value is kept. -/
def kept (key : String) (newValue : Raw ω) : FieldTrace ω := { trace with last := assign key newValue trace.last }

/-- What `transition` does: nothing, or it keeps the value and raises, or it keeps the value and emits. -/
inductive Moved (now : Moment) (key : String) (newValue : Raw ω) (event : String) (imp : Importance)
    (fields : Fields ω) : FieldTrace ω → Prop where
  | same (quiet : trace.shouldPersist imp = true →
      ∃ old, trace.last.lookup key = some old ∧ lib.differs old newValue ≠ some true) :
    Moved now key newValue event imp fields trace
  | twice (old : Raw ω) (found : trace.last.lookup key = some old) (changed : lib.differs old newValue = some true)
      (named : .chars "previous" ∈ fields.map Prod.fst) :
    Moved now key newValue event imp fields (trace.kept key newValue)
  | first (after : FieldTrace ω) (found : trace.last.lookup key = none)
      (emitted : (trace.kept key newValue).Emitted lib now event imp fields after) :
    Moved now key newValue event imp fields after
  | changed (after : FieldTrace ω) (old : Raw ω) (found : trace.last.lookup key = some old)
      (changed : lib.differs old newValue = some true) (once : .chars "previous" ∉ fields.map Prod.fst)
      (emitted : (trace.kept key newValue).Emitted lib now event imp ((.chars "previous", old) :: fields) after) :
    Moved now key newValue event imp fields after

end FieldTrace

/-! ## Records -/

variable {lib} {trace : FieldTrace ω} {now : Moment} {event level : String} {fields : Fields ω} {clean : Record ω}
  {field : JsonText × Clean ω}

/-- The fields come through exactly if they can be sanitized. -/
theorem sanitizeFields_isSome_iff (room : Nat) :
    (sanitizeFields lib room fields).isSome = true ↔ SanitizableFields lib room fields := by
  cases room with
  | zero => exact iff_of_false Bool.false_ne_true id
  | succ room =>
    unfold sanitizeFields SanitizableFields
    rw [sanitizeItems_isSome_iff]
    refine forall₂_congr fun field _ => ?_
    rw [sanitize_isSome_iff]
    constructor
    · rintro ⟨key, named, shown⟩
      cases named
      exact shown
    · exact fun shown => ⟨field.1, rfl, shown⟩

theorem texted_some : texted some fields = fields := List.filterMap_some

/-- The names of the base are its own keys. -/
theorem baseRecord_keys : (trace.baseRecord now event level).map Prod.fst = baseKeys.map JsonText.chars := rfl

/-- The base record names no key twice. -/
theorem baseRecord_nodup : ((trace.baseRecord now event level).map Prod.fst).Nodup := by
  rw [baseRecord_keys]
  decide +kernel

/-- What a record has: fields of the event that the whitelist lets through, and the base. -/
theorem mem_record (distinct : (clean.map Prod.fst).Nodup) : field ∈ trace.record now event level clean ↔
    isAllowed event field.1 = true ∧
      (field ∈ clean ∨ field ∈ trace.baseRecord now event level ∧ field.1 ∉ clean.map Prod.fst) := by
  unfold FieldTrace.record applyKeyWhitelist
  rw [List.mem_filter, mem_update baseRecord_nodup, lastOf_iff distinct, and_comm]

/-- A record names no key twice. -/
theorem record_nodup : ((trace.record now event level clean).map Prod.fst).Nodup :=
  (nodup_update baseRecord_nodup).sublist (List.filter_sublist.map Prod.fst)

/-- The base keys are always let through. -/
theorem isAllowed_of_mem {name : String} (mem : name ∈ baseKeys) : isAllowed event name = true := by
  unfold isAllowed allowedKeys
  exact List.any_eq_true.mpr
    ⟨name, List.mem_append_left _ (List.mem_append_left _ mem), decide_eq_true rfl⟩

/-- The base has no secret keys. -/
theorem isSecretKey_baseKeys {name : String} (mem : name ∈ baseKeys) : isSecretKey lib name = false := by
  have small : ∀ name ∈ baseKeys, name.toList.all (fun c => c.isLower || c = '_') = true ∧
      (secretKeyParts.any fun part => contains part name) = false := by decide +kernel
  unfold isSecretKey
  rw [lib.lower_ascii name (small name mem).1]
  exact (small name mem).2

/-- The base record has the base keys only. -/
theorem baseRecord_key (mem : field ∈ trace.baseRecord now event level) : ∃ name ∈ baseKeys, field.1 = .chars name := by
  have key : field.1 ∈ baseKeys.map JsonText.chars := baseRecord_keys ▸ List.mem_map_of_mem mem
  obtain ⟨name, inside, same⟩ := List.mem_map.mp key
  exact ⟨name, inside, same.symm⟩

/-- The values of the base are numbers and texts. -/
theorem baseRecord_simple (mem : field ∈ trace.baseRecord now event level) :
    (∃ n, field.2 = .int n) ∨ (∃ q, field.2 = .float q) ∨ ∃ s, field.2 = .str s := by
  simp only [FieldTrace.baseRecord, List.mem_cons, List.not_mem_nil, or_false] at mem
  rcases mem with rfl | rfl | rfl | rfl | rfl | rfl | rfl | rfl <;> simp

theorem sanitizeFields_spec {room : Nat} (done : sanitizeFields lib room fields = some clean) :
    ∃ inner, room = inner + 1 ∧ sanitizeItems lib some (sanitize lib inner) fields = some clean := by
  cases room with
  | zero => cases done
  | succ inner => exact ⟨inner, rfl, done⟩

/-- A record is safe. -/
theorem safe_record (done : sanitizeFields lib now.sanitizeRoom fields = some clean) :
    SafeRecord lib event (trace.record now event level clean) := by
  obtain ⟨room, _, done⟩ := sanitizeFields_spec done
  obtain ⟨distinct, _, _⟩ := sanitizeItems_spec done
  obtain ⟨replaced, inner⟩ : (∀ field ∈ clean, isSecretKey lib field.1 = true → field.2 = redacted) ∧
      ∀ field ∈ clean, NoSecret lib field.2 := by
    cases noSecret_items done fun _ _ computed => noSecret_sanitize computed with
    | dict replaced inner => exact ⟨replaced, inner⟩
  refine ⟨fun field mem => ((mem_record distinct).mp mem).1, .dict (fun field mem secret => ?_) fun field mem => ?_⟩
  · obtain ⟨_, mem | ⟨mem, _⟩⟩ := (mem_record distinct).mp mem
    · exact replaced field mem secret
    · obtain ⟨name, inside, same⟩ := baseRecord_key mem
      rw [same, isSecretKey_baseKeys inside] at secret
      cases secret
  · obtain ⟨_, mem | ⟨mem, _⟩⟩ := (mem_record distinct).mp mem
    · exact inner field mem
    · obtain ⟨n, simple⟩ | ⟨q, simple⟩ | ⟨s, simple⟩ := baseRecord_simple mem
      · exact simple ▸ .int n
      · exact simple ▸ .float q
      · exact simple ▸ .str s

/-- A record can be written exactly if the allowed arguments can. -/
theorem dumps_isSome_iff (done : sanitizeFields lib now.sanitizeRoom fields = some clean) :
    (dumps lib now.encoderRoom (trace.record now event level clean)).isSome = true ↔
      SerializableFields lib now.encoderRoom event fields := by
  obtain ⟨room, _, done⟩ := sanitizeFields_spec done
  obtain ⟨distinct, from_raw, into⟩ := sanitizeItems_spec done
  rw [texted_some] at from_raw into
  have is_some : (dumps lib now.encoderRoom (trace.record now event level clean)).isSome = true ↔
      writable lib now.encoderRoom (.dict (trace.record now event level clean)) = true := by
    unfold dumps
    split <;> simp [*]
  rw [is_some]
  cases now.encoderRoom with
  | zero => exact iff_of_false Bool.false_ne_true id
  | succ encoderRoom =>
    unfold writable SerializableFields
    rw [List.all_eq_true]
    constructor
    · intro can raw last allowed shown
      obtain ⟨field, inside, same, computed⟩ := into raw last
      rw [if_neg (by rw [shown]; exact Bool.false_ne_true)] at computed
      refine (writable_iff computed).mp (can field ((mem_record distinct).mpr ⟨?_, .inl inside⟩))
      exact same ▸ allowed
    · intro can field mem
      obtain ⟨allowed, mem | ⟨mem, _⟩⟩ := (mem_record distinct).mp mem
      · obtain ⟨raw, last, same, computed⟩ := from_raw field mem
        split at computed
        · rw [← Option.some.inj computed]
          cases encoderRoom <;> rfl
        · next shown =>
          exact (writable_iff computed).mpr (can raw last (same ▸ allowed) (eq_false_of_ne_true shown))
      · obtain ⟨n, simple⟩ | ⟨q, simple⟩ | ⟨s, simple⟩ := baseRecord_simple mem <;>
          rw [simple] <;> cases encoderRoom <;> rfl

/-- The number of a record, where no argument takes its place. -/
theorem number_record (done : sanitizeFields lib now.sanitizeRoom fields = some clean)
    (free : .chars "event_seq" ∉ fields.map Prod.fst) :
    number (trace.record now event level clean) = some (.int trace.seq) := by
  obtain ⟨room, _, done⟩ := sanitizeFields_spec done
  obtain ⟨distinct, from_raw, _⟩ := sanitizeItems_spec done
  rw [texted_some] at from_raw
  refine lookup_of_mem record_nodup ((mem_record distinct).mpr ⟨isAllowed_of_mem (by decide), .inr ⟨?_, ?_⟩⟩)
  · simp [FieldTrace.baseRecord]
  · intro mem
    obtain ⟨field, inside, named⟩ := List.mem_map.mp mem
    obtain ⟨raw, ⟨before, after, split, _⟩, same, _⟩ := from_raw field inside
    refine free (List.mem_map.mpr ⟨raw, ?_, same.trans named⟩)
    rw [split]
    exact List.mem_append_right _ List.mem_cons_self

/-! ## `emit` -/

variable {importance : Option Importance} {imp : Importance}

/-- A line that is written is the record's. -/
theorem dumps_eq_some {room : Nat} {record : Record ω} {line : String} (written : dumps lib room record = some line) :
    line = lib.render record := by
  unfold dumps at written
  split at written
  · exact (Option.some.inj written).symm
  · cases written

/-- What `emit` leaves, in one of its ways. -/
theorem emit_spec (trace : FieldTrace ω) (importance : Option Importance) :
    trace.Emitted lib now event (FieldTrace.importanceOf event importance) fields
      (trace.emit lib now event level importance fields) := by
  unfold FieldTrace.emit
  simp only
  generalize FieldTrace.importanceOf event importance = imp
  cases asked : (trace.shouldJournal imp || trace.shouldPersist imp) with
  | false => exact .silent (Bool.or_eq_false_iff.mp asked).2
  | true =>
    rw [if_neg (by decide)]
    cases done : sanitizeFields lib now.sanitizeRoom fields with
    | none =>
      refine .raised fun fine => ?_
      have some_ := (sanitizeFields_isSome_iff now.sanitizeRoom).mpr fine.1
      rw [done] at some_
      cases some_
    | some clean =>
      have sanitizable : SanitizableFields lib now.sanitizeRoom fields := by
        rw [← sanitizeFields_isSome_iff, done]
        rfl
      have safe : SafeRecord lib event (trace.numbered.record now event level clean) := safe_record done
      have own : .chars "event_seq" ∉ fields.map Prod.fst →
          number (trace.numbered.record now event level clean) = some (.int trace.numbered.seq) := number_record done
      cases journal : trace.shouldJournal imp with
      | false =>
        have done : trace.Emitted lib now event imp fields
            ((trace.written []).persistRecord imp (trace.numbered.record now event level clean)) := by
          refine .done _ [] sanitizable (fun asked => ?_) safe own (List.forall_mem_nil _)
          rw [journal] at asked
          cases asked
        have same : trace.written [] = trace.numbered := by
          unfold FieldTrace.written
          rw [List.append_nil]
          rfl
        rw [same] at done
        exact done
      | true =>
        have can : (dumps lib now.encoderRoom (trace.numbered.record now event level clean)).isSome = true ↔
            SerializableFields lib now.encoderRoom event fields := dumps_isSome_iff done
        simp only [if_true]
        cases written : dumps lib now.encoderRoom (trace.numbered.record now event level clean) with
        | none =>
          refine .raised fun fine => ?_
          rw [written] at can
          cases can.mpr (fine.2 journal)
        | some line =>
          rw [written] at can
          refine .done _ [line] sanitizable (fun _ => can.mp rfl) safe own fun other mem => ?_
          rw [List.mem_singleton.mp mem]
          exact dumps_eq_some written

/-! ## What a call does -/

variable {after : FieldTrace ω} {call : Call ω}

variable {record : Record ω} {lines : List String}

/-- The recorder is handed the record exactly if it should be. -/
theorem handed_written : ((trace.written lines).persistRecord imp record).handed =
    trace.handed ++ (if trace.shouldPersist imp && trace.hasRecorder then [(record, imp)] else []) := by
  have same : ((trace.written lines).shouldPersist imp && (trace.written lines).hasRecorder) =
      (trace.shouldPersist imp && trace.hasRecorder) := rfl
  unfold FieldTrace.persistRecord
  rw [same]
  cases trace.shouldPersist imp && trace.hasRecorder with
  | true => rfl
  | false => exact (List.append_nil _).symm

/-- The journal has the line. -/
theorem journal_written : ((trace.written lines).persistRecord imp record).journal = trace.journal ++ lines := by
  unfold FieldTrace.persistRecord
  split <;> rfl

/-- The number is used up. -/
theorem seq_written : ((trace.written lines).persistRecord imp record).seq = trace.seq + 1 := by
  unfold FieldTrace.persistRecord
  split <;> rfl

/-- `emit` hands over one record exactly if nothing raises and there is a recorder. -/
theorem FieldTrace.Emitted.delivers_iff (h : trace.Emitted lib now event imp fields after) :
    (∃ records, after.handed = trace.handed ++ records ∧
        records.length = (trace.shouldPersist imp).toNat) ↔
      (trace.shouldPersist imp = true → trace.Comes lib now event imp fields) := by
  cases h with
  | silent persists =>
    rw [persists]
    exact iff_of_true ⟨[], (List.append_nil _).symm, rfl⟩ fun h => nomatch h
  | raised fails =>
    constructor
    · rintro ⟨records, same, count⟩ due
      rw [due] at count
      have none_ : records = [] := List.append_right_eq_self.mp same.symm
      rw [none_] at count
      cases count
    · intro comes
      have off : trace.shouldPersist imp = false := eq_false_of_ne_true fun due =>
        fails ⟨(comes due).sanitizable, (comes due).serializable⟩
      rw [off]
      exact ⟨[], (List.append_nil _).symm, rfl⟩
  | done record lines sanitizable serializable safe own rendered =>
    rw [handed_written]
    constructor
    · rintro ⟨records, same, count⟩ due
      have given := List.append_cancel_left same
      rw [← given, due, Bool.true_and] at count
      refine ⟨?_, sanitizable, serializable⟩
      by_contra missing
      rw [if_neg missing] at count
      cases count
    · intro comes
      refine ⟨_, rfl, ?_⟩
      cases due : trace.shouldPersist imp with
      | false => rfl
      | true =>
        rw [(comes due).recorder]
        rfl

/-- A trace that does nothing is discreet. -/
theorem FieldTrace.Discreet.refl (trace : FieldTrace ω) : trace.Discreet lib event trace :=
  ⟨[], [], (List.append_nil _).symm, (List.append_nil _).symm, List.forall_mem_nil _, List.forall_mem_nil _⟩

/-- `emit` is discreet. -/
theorem FieldTrace.Emitted.discreet (h : trace.Emitted lib now event imp fields after) :
    trace.Discreet lib event after := by
  cases h with
  | silent _ => exact .refl trace
  | raised _ => exact .refl trace
  | done record lines sanitizable serializable safe own rendered =>
    refine ⟨_, lines, handed_written, journal_written, fun entry mem => ?_, fun line mem => ?_⟩
    · split at mem
      · rw [List.mem_singleton.mp mem]
        exact safe
      · cases mem
    · exact ⟨record, safe, rendered line mem⟩

/-- A record gets a number that none has. -/
theorem FieldTrace.Emitted.numbered_of (h : trace.Emitted lib now event imp fields after)
    (free : .chars "event_seq" ∉ fields.map Prod.fst) (was : trace.Numbered) : after.Numbered := by
  have later : ∀ entry ∈ trace.handed, ∃ n ≤ trace.seq + 1, number entry.1 = some (.int n) := by
    intro entry mem
    obtain ⟨n, le, its⟩ := was.given entry mem
    exact ⟨n, le.trans (Nat.le_succ _), its⟩
  cases h with
  | silent _ => exact was
  | raised _ => exact ⟨was.distinct, later⟩
  | done record lines sanitizable serializable safe own rendered =>
    have fresh : number record ∉ trace.handed.map fun entry => number entry.1 := by
      intro mem
      obtain ⟨entry, inside, same⟩ := List.mem_map.mp mem
      obtain ⟨n, le, its⟩ := was.given entry inside
      rw [its, own free] at same
      injection same with same
      injection same with same
      have above : (n : Int) = trace.seq + 1 := same
      omega
    constructor
    · rw [handed_written, List.map_append]
      split
      · exact List.nodup_append_comm.mp (List.nodup_cons.mpr ⟨fresh, was.distinct⟩)
      · rw [List.map_nil, List.append_nil]
        exact was.distinct
    · rw [handed_written, seq_written]
      intro entry mem
      rcases List.mem_append.mp mem with mem | mem
      · exact later entry mem
      · split at mem
        · rw [List.mem_singleton.mp mem]
          exact ⟨_, le_rfl, own free⟩
        · cases mem

/-! ## `transition` -/

variable {key : String} {newValue : Raw ω}

/-- What `transition` leaves, in one of its ways. -/
theorem transition_spec (trace : FieldTrace ω) (importance : Option Importance) :
    trace.Moved lib now key newValue event (FieldTrace.importanceOf event importance) fields
      (trace.transition lib now key newValue event level importance fields) := by
  unfold FieldTrace.transition
  simp only
  generalize FieldTrace.importanceOf event importance = imp
  cases asked : (trace.shouldJournal imp || trace.shouldPersist imp) with
  | false =>
    refine .same fun due => ?_
    rw [(Bool.or_eq_false_iff.mp asked).2] at due
    cases due
  | true =>
    rw [if_neg (by decide)]
    cases found : trace.last.lookup key with
    | none => exact .first _ found (emit_spec _ (some imp))
    | some old =>
      have quiet (equal : lib.differs old newValue ≠ some true) : trace.shouldPersist imp = true →
          ∃ old, trace.last.lookup key = some old ∧ lib.differs old newValue ≠ some true :=
        fun _ => ⟨old, found, equal⟩
      dsimp only
      cases changed : lib.differs old newValue with
      | none => exact .same (quiet (changed ▸ fun h => nomatch h))
      | some differs =>
        cases differs with
        | false => exact .same (quiet (changed ▸ fun h => nomatch h))
        | true =>
          have named : (fields.any fun field => field.1 = .chars "previous") = true ↔
              .chars "previous" ∈ fields.map Prod.fst := by
            simp [List.any_eq_true, List.mem_map]
          dsimp only
          split
          · next twice => exact .twice old found changed (named.mp twice)
          · next once => exact .changed _ old found changed (fun mem => once (named.mpr mem)) (emit_spec _ (some imp))

/-! ## Calls -/

/-- `transition` delivers exactly if it comes to the recorder. -/
theorem FieldTrace.Moved.delivers_iff (h : trace.Moved lib now key newValue event imp fields after) :
    (∃ records, after.handed = trace.handed ++ records ∧
        records.length = (trace.shouldPersist imp &&
          match trace.last.lookup key with
          | none => true
          | some old => decide (lib.differs old newValue = some true)).toNat) ↔
      (trace.shouldPersist imp = true →
        match trace.last.lookup key with
        | none => trace.Comes lib now event imp fields
        | some old => lib.differs old newValue = some true →
          .chars "previous" ∉ fields.map Prod.fst ∧ trace.Comes lib now event imp ((.chars "previous", old) :: fields)) := by
  cases h with
  | same quiet =>
    cases due : trace.shouldPersist imp with
    | false => exact iff_of_true ⟨[], (List.append_nil _).symm, rfl⟩ fun h => nomatch h
    | true =>
      obtain ⟨old, found, equal⟩ := quiet due
      rw [found]
      dsimp only
      rw [decide_eq_false equal]
      exact iff_of_true ⟨[], (List.append_nil _).symm, rfl⟩ fun _ changed => absurd changed equal
  | twice old found changed named =>
    rw [found]
    dsimp only
    rw [decide_eq_true changed, Bool.and_true]
    cases due : trace.shouldPersist imp with
    | false => exact iff_of_true ⟨[], (List.append_nil _).symm, rfl⟩ fun h => nomatch h
    | true =>
      refine iff_of_false ?_ fun h => (h rfl changed).1 named
      rintro ⟨records, same, count⟩
      have none_ : records = [] := List.append_right_eq_self.mp same.symm
      rw [none_] at count
      cases count
  | first _ found emitted =>
    rw [found]
    dsimp only
    rw [Bool.and_true]
    refine emitted.delivers_iff.trans (imp_congr_right fun _ => ⟨fun h => ⟨h.1, h.2, h.3⟩, fun h => ⟨h.1, h.2, h.3⟩⟩)
  | changed _ old found changed once emitted =>
    rw [found]
    dsimp only
    rw [decide_eq_true changed, Bool.and_true]
    refine emitted.delivers_iff.trans (imp_congr_right fun _ => ⟨fun h _ => ⟨once, h.1, h.2, h.3⟩, fun h => ?_⟩)
    obtain ⟨_, comes⟩ := h changed
    exact ⟨comes.1, comes.2, comes.3⟩

/-- `transition` is discreet. -/
theorem FieldTrace.Moved.discreet (h : trace.Moved lib now key newValue event imp fields after) :
    trace.Discreet lib event after := by
  cases h with
  | same _ => exact .refl trace
  | twice => exact FieldTrace.Discreet.refl trace
  | first _ _ emitted => exact emitted.discreet
  | changed _ _ _ _ _ emitted => exact emitted.discreet

/-- And keeps the numbers, without a field of that name. -/
theorem FieldTrace.Moved.numbered_of (h : trace.Moved lib now key newValue event imp fields after)
    (free : .chars "event_seq" ∉ fields.map Prod.fst) (was : trace.Numbered) : after.Numbered := by
  have kept : (trace.kept key newValue).Numbered := ⟨was.distinct, was.given⟩
  cases h with
  | same _ => exact was
  | twice => exact kept
  | first _ _ emitted => exact emitted.numbered_of free kept
  | changed _ _ _ _ _ emitted =>
    refine emitted.numbered_of (fun mem => ?_) kept
    rcases List.mem_cons.mp mem with same | mem
    · injection same with same
      exact absurd same (by decide)
    · exact free mem

/-- A call delivers what it is to exactly if it comes to the recorder. -/
theorem delivers_iff (trace : FieldTrace ω) (call : Call ω) : trace.Delivers lib call ↔ trace.Fits lib call := by
  cases call with
  | emit now event level importance fields => exact (emit_spec trace importance).delivers_iff
  | transition now key newValue event level importance fields => exact (transition_spec trace importance).delivers_iff

/-- Every call is discreet. -/
theorem discreet_step (trace : FieldTrace ω) (call : Call ω) : trace.Discreet lib call.event (trace.step lib call) := by
  cases call with
  | emit now event level importance fields => exact (emit_spec trace importance).discreet
  | transition now key newValue event level importance fields => exact (transition_spec trace importance).discreet

/-- Every call without a field of that name keeps the numbers. -/
theorem numbered_step (trace : FieldTrace ω) (call : Call ω) (was : trace.Numbered)
    (free : .chars "event_seq" ∉ call.fields.map Prod.fst) : (trace.step lib call).Numbered := by
  cases call with
  | emit now event level importance fields => exact (emit_spec trace importance).numbered_of free was
  | transition now key newValue event level importance fields =>
    exact (transition_spec trace importance).numbered_of free was

/-! ## Runs -/

/-- In a run every call hands over one record if it is to, and else none, exactly if every call that is to comes to
the recorder; the numbers differ where no argument takes the place of `event_seq`; and what is handed over and written
has only allowed keys and no value under a secret key. -/
theorem trace_delivers_iff (lib : Library ω) (enabled telemetryLogEnabled : Bool) (vehicleId bootId : String)
    (hasRecorder : Bool) (calls : List (Call ω)) :
    let start : FieldTrace ω := .initial enabled telemetryLogEnabled vehicleId bootId hasRecorder
    (Meets (FieldTrace.step lib) (FieldTrace.Delivers lib) start calls ↔
      Meets (FieldTrace.step lib) (FieldTrace.Fits lib) start calls) ∧
    (Meets (FieldTrace.step lib) (fun _ call => .chars "event_seq" ∉ call.fields.map Prod.fst) start calls →
      ((run (FieldTrace.step lib) start calls).handed.map fun entry => number entry.1).Nodup) ∧
    Meets (FieldTrace.step lib) (fun trace call => trace.Discreet lib call.event (trace.step lib call)) start calls := by
  intro start
  refine ⟨?_, fun met => ?_, ?_⟩
  · exact meets_congr (I := fun _ => True) (fun _ _ _ => trivial) (fun trace call _ => delivers_iff trace call) trivial calls
  · have fresh : start.Numbered := ⟨List.nodup_nil, List.forall_mem_nil _⟩
    exact (invariant (fun trace call was free => numbered_step trace call was free) fresh met).distinct
  · rw [meets_iff]
    intro before call after _
    exact discreet_step _ call

/-- `ReasonCode`, which `json.dumps` cannot write. -/
inductive ReasonCode where
  | reasonCode

/-- What is called of Python, with texts in lower case. -/
def plainLibrary : Library ReasonCode where
  str _ := some (.chars "ReasonCode")
  lower s := s
  serializes _ := false
  render _ := ""
  differs _ _ := some true
  lower_ascii _ _ := rfl

/-- What `_on_disconnect` emits. -/
def disconnect : Call ReasonCode :=
  .emit ⟨"2026-01-01T00:00:00.000Z", 0, 100, 100⟩ "mqtt.disconnected" "warn" none [(.chars "rc", .other .reasonCode)]

/-- A disconnect is critical, and no record of it comes to the recorder. -/
theorem disconnect_lost :
    (FieldTrace.initial false true "R1" "boot" true).isDue plainLibrary disconnect = true ∧
      (run (FieldTrace.step plainLibrary) (.initial false true "R1" "boot" true) [disconnect]).handed.length = 0 ∧
      ¬ Meets (FieldTrace.step plainLibrary) (FieldTrace.Delivers plainLibrary) (.initial false true "R1" "boot" true)
        [disconnect] := by
  have due : (FieldTrace.initial false true "R1" "boot" true).isDue plainLibrary disconnect = true := by decide +kernel
  have none_ : (FieldTrace.step plainLibrary (.initial false true "R1" "boot" true) disconnect).handed.length = 0 := by
    decide +kernel
  refine ⟨due, none_, fun met => ?_⟩
  obtain ⟨records, handed, count⟩ := met.1
  have length := congrArg List.length handed
  rw [none_, List.length_append, count, due] at length
  exact absurd length (Nat.succ_ne_zero _).symm

end Firebot.Trace
