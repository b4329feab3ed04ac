import RationalSimplex.Fault.Message
import RationalSimplex.Proofs.Json.RoundTrip
import RationalSimplex.Proofs.Success
import RationalSimplex.Trace

/-!
# Traces read back

A record is read back with its fractions, relations and statuses as texts and
its tuples as lists.  Its line has no line break inside and is not blank, so
that the lines of a trace are those of its records.  Where a record cannot be
written, the trace ends with the record before it.
-/

namespace RationalSimplex

/-! ## Lines -/

namespace Trace

variable {before characters rest : List Char} {documents : List JsonValue}

/-- A line is split off in front of its line break. -/
theorem splitLines_append (visible : JsonValue.Visible characters) :
    splitLines before (characters ++ '\n' :: rest) =
      (before.reverse ++ characters) :: splitLines [] rest := by
  induction characters generalizing before with
  | nil =>
      rw [List.nil_append, splitLines.eq_3 _ _ _ (by simp),
        if_pos (.inl rfl), List.append_nil]
  | cons character characters induction =>
      obtain ⟨head, tail⟩ := List.forall_mem_cons.mp visible
      have noFeed : character ≠ '\n' := by
        rintro rfl
        exact absurd head (by decide)
      have noReturn : character ≠ '\r' := by
        rintro rfl
        exact absurd head (by decide)
      rw [List.cons_append, splitLines.eq_3 _ _ _ fun _ same _ => noReturn same,
        if_neg (by simp [noFeed, noReturn]), induction tail,
        List.reverse_cons, List.append_assoc, List.singleton_append]

/-- Every document has a line of its own. -/
@[simp] theorem splitLines_flatMap_line
    (plain : ∀ document ∈ documents, document.Plain) :
    splitLines [] (documents.flatMap line) =
      documents.map JsonValue.write := by
  induction documents with
  | nil => rfl
  | cons document documents induction =>
      obtain ⟨head, tail⟩ := List.forall_mem_cons.mp plain
      rw [List.flatMap_cons, line, List.append_assoc, List.singleton_append,
        splitLines_append head.visible_write, induction tail,
        List.reverse_nil, List.nil_append, List.map_cons]

/-- No line is blank, and each is read as its document. -/
@[simp]
theorem readLines_write (plain : ∀ document ∈ documents, document.Plain) :
    readLines (documents.map JsonValue.write) = .ok documents := by
  induction documents with
  | nil => rfl
  | cons document documents induction =>
      obtain ⟨head, tail⟩ := List.forall_mem_cons.mp plain
      rw [List.map_cons, readLines, if_neg head.not_all_isBlank,
        head.read?_write]
      simp only [induction tail]
      rfl

theorem read_lines (plain : ∀ document ∈ documents, document.Plain) :
    read (documents.flatMap line) = .ok documents := by
  rw [read, splitLines_flatMap_line plain, readLines_write plain]

end Trace

/-! ## Values -/

/-- The value can stand in a trace: it has no doubles, arrays and sets, and no
mapping has a key twice. -/
inductive Value.Traceable : Value → Prop where
  | null : Traceable .null
  | boolean {truth : Bool} : Traceable (.boolean truth)
  | integer {number : Int} : Traceable (.integer number)
  | text {characters : String} : Traceable (.text characters)
  | fraction {number : Rat} : Traceable (.fraction number)
  | relation {sign : Relation} : Traceable (.relation sign)
  | status {result : Status} : Traceable (.status result)
  | list {items : List Value} :
      (∀ item ∈ items, Traceable item) → Traceable (.list items)
  | tuple {items : List Value} :
      (∀ item ∈ items, Traceable item) → Traceable (.tuple items)
  | mapping {entries : List (String × Value)} :
      (entries.map Prod.fst).Nodup → (∀ entry ∈ entries, Traceable entry.2) →
      Traceable (.mapping entries)

/-- There is a set somewhere in the value. -/
inductive Value.HasSet : Value → Prop where
  | set {items : List Value} : HasSet (.set items)
  | list {items : List Value} {item : Value} :
      item ∈ items → HasSet item → HasSet (.list items)
  | tuple {items : List Value} {item : Value} :
      item ∈ items → HasSet item → HasSet (.tuple items)
  | mapping {entries : List (String × Value)} {entry : String × Value} :
      entry ∈ entries → HasSet entry.2 → HasSet (.mapping entries)

mutual

/-- The value as it is read back: fractions, relations and statuses have become
texts, and tuples lists. -/
def Value.normal : Value → Value
  | .fraction number => .text (fractionText number)
  | .relation sign => .text sign.symbol
  | .status result => .text result.word
  | .list items => .list (normalItems items)
  | .tuple items => .list (normalItems items)
  | .mapping entries => .mapping (normalEntries entries)
  | other => other

def normalItems : List Value → List Value
  | [] => []
  | item :: items => item.normal :: normalItems items

def normalEntries : List (String × Value) → List (String × Value)
  | [] => []
  | (key, item) :: entries => (key, item.normal) :: normalEntries entries

end

/-- The document is what is written for the value and read back. -/
structure Value.Recorded (value : Value) (document : JsonValue) : Prop where
  toJson_eq : value.toJson = .ok document
  plain : document.Plain
  ofJson_eq : Value.ofJson document = value.normal

section Values

variable {items : List Value} {entries : List (String × Value)} {value : Value}
  {fault : TraceFault}

theorem exists_itemsToJson
    (recorded : ∀ item ∈ items, ∃ document, item.Recorded document) :
    ∃ documents, itemsToJson items = .ok documents ∧
      (∀ document ∈ documents, document.Plain) ∧
      itemsOfJson documents = normalItems items := by
  induction items with
  | nil => exact ⟨[], rfl, List.forall_mem_nil _, rfl⟩
  | cons item items induction =>
      obtain ⟨⟨document, head⟩, tail⟩ := List.forall_mem_cons.mp recorded
      obtain ⟨documents, written, plain, same⟩ := induction tail
      refine ⟨document :: documents, ?_,
        List.forall_mem_cons.mpr ⟨head.plain, plain⟩, ?_⟩
      · rw [itemsToJson, head.toJson_eq, written]
        rfl
      · rw [itemsOfJson, normalItems, head.ofJson_eq, same]

theorem exists_entriesToJson
    (recorded : ∀ entry ∈ entries, ∃ document, entry.2.Recorded document) :
    ∃ documents, entriesToJson entries = .ok documents ∧
      (∀ entry ∈ documents, entry.2.Plain) ∧
      documents.map Prod.fst = entries.map Prod.fst ∧
      entriesOfJson documents = normalEntries entries := by
  induction entries with
  | nil => exact ⟨[], rfl, List.forall_mem_nil _, rfl, rfl⟩
  | cons entry entries induction =>
      obtain ⟨⟨document, head⟩, tail⟩ := List.forall_mem_cons.mp recorded
      obtain ⟨documents, written, plain, keys, same⟩ := induction tail
      refine ⟨(entry.1, document) :: documents, ?_,
        List.forall_mem_cons.mpr ⟨head.plain, plain⟩, ?_, ?_⟩
      · rw [entriesToJson, head.toJson_eq, written]
        rfl
      · rw [List.map_cons, List.map_cons, keys]
      · rw [entriesOfJson, normalEntries, head.ofJson_eq, same]

/-- A value that can stand in a trace has a document that is read back as its
normal form. -/
theorem Value.Traceable.exists_recorded (traceable : value.Traceable) :
    ∃ document, value.Recorded document := by
  induction traceable with
  | null => exact ⟨_, rfl, .null, rfl⟩
  | boolean => exact ⟨_, rfl, .boolean, rfl⟩
  | integer => exact ⟨_, rfl, .integer, rfl⟩
  | text => exact ⟨_, rfl, .text, rfl⟩
  | fraction => exact ⟨_, rfl, .text, rfl⟩
  | relation => exact ⟨_, rfl, .text, rfl⟩
  | status => exact ⟨_, rfl, .text, rfl⟩
  | list _ induction =>
      obtain ⟨documents, written, plain, same⟩ := exists_itemsToJson induction
      refine ⟨.list documents, ?_, .list plain, ?_⟩
      · rw [Value.toJson, written]
        rfl
      · simp only [Value.ofJson, Value.normal, same]
  | tuple _ induction =>
      obtain ⟨documents, written, plain, same⟩ := exists_itemsToJson induction
      refine ⟨.list documents, ?_, .list plain, ?_⟩
      · rw [Value.toJson, written]
        rfl
      · simp only [Value.ofJson, Value.normal, same]
  | mapping distinct _ induction =>
      obtain ⟨documents, written, plain, keys, same⟩ :=
        exists_entriesToJson induction
      refine ⟨.object documents, ?_, .object (by rwa [keys]) plain, ?_⟩
      · rw [Value.toJson, written]
        rfl
      · simp only [Value.ofJson, Value.normal, same]

/-! The fault of a part is the fault of the whole. -/

mutual

/-- Only the kind of a value keeps it from being written. -/
theorem Value.kind_of_toJson : ∀ {value : Value} {fault : TraceFault},
    value.toJson = .error fault → fault.kind = .wrongKind
  | .list items, fault, failed => by
      rw [Value.toJson, bind_eq_error_iff] at failed
      rcases failed with part | ⟨_, _, written⟩
      · exact kind_of_itemsToJson part
      · cases written
  | .tuple items, fault, failed => by
      rw [Value.toJson, bind_eq_error_iff] at failed
      rcases failed with part | ⟨_, _, written⟩
      · exact kind_of_itemsToJson part
      · cases written
  | .mapping entries, fault, failed => by
      rw [Value.toJson, bind_eq_error_iff] at failed
      rcases failed with part | ⟨_, _, written⟩
      · exact kind_of_entriesToJson part
      · cases written
  | .set _, _, failed => by
      cases failed
      rfl

theorem kind_of_itemsToJson : ∀ {items : List Value} {fault : TraceFault},
    itemsToJson items = .error fault → fault.kind = .wrongKind
  | item :: items, fault, failed => by
      rw [itemsToJson, bind_eq_error_iff] at failed
      rcases failed with head | ⟨_, _, rest⟩
      · exact Value.kind_of_toJson head
      · rcases bind_eq_error_iff.mp rest with tail | ⟨_, _, written⟩
        · exact kind_of_itemsToJson tail
        · cases written

theorem kind_of_entriesToJson :
    ∀ {entries : List (String × Value)} {fault : TraceFault},
      entriesToJson entries = .error fault → fault.kind = .wrongKind
  | (key, item) :: entries, fault, failed => by
      rw [entriesToJson, bind_eq_error_iff] at failed
      rcases failed with head | ⟨_, _, rest⟩
      · exact Value.kind_of_toJson head
      · rcases bind_eq_error_iff.mp rest with tail | ⟨_, _, written⟩
        · exact kind_of_entriesToJson tail
        · cases written

end

theorem itemsToJson_eq_mapM (items : List Value) :
    itemsToJson items = items.mapM Value.toJson := by
  induction items with
  | nil => rfl
  | cons item items induction =>
      rw [itemsToJson, induction, List.mapM_cons]

/-- The document of an entry, with its key. -/
def keyedToJson (entry : String × Value) :
    Except TraceFault (String × JsonValue) := do
  let document ← entry.2.toJson
  return (entry.1, document)

theorem entriesToJson_eq_mapM (entries : List (String × Value)) :
    entriesToJson entries = entries.mapM keyedToJson := by
  induction entries with
  | nil => rfl
  | cons entry entries induction =>
      rw [entriesToJson, induction, List.mapM_cons]
      simp only [keyedToJson, bind_assoc, pure_bind]

/-- A value with a set in it cannot be written. -/
theorem Value.HasSet.toJson_eq_error (hasSet : value.HasSet) :
    ∃ fault, value.toJson = .error fault := by
  induction hasSet with
  | set => exact ⟨.unserialisable .set, by rw [Value.toJson]⟩
  | list member _ failed =>
      obtain ⟨fault, part⟩ := mapM_eq_error member failed
      rw [Value.toJson, itemsToJson_eq_mapM, part]
      exact ⟨fault, rfl⟩
  | tuple member _ failed =>
      obtain ⟨fault, part⟩ := mapM_eq_error member failed
      rw [Value.toJson, itemsToJson_eq_mapM, part]
      exact ⟨fault, rfl⟩
  | @mapping entries entry member _ failed =>
      have entryFailed : ∃ fault, keyedToJson entry = .error fault := by
        obtain ⟨fault, failed⟩ := failed
        exact ⟨fault, bind_eq_error_iff.mpr (.inl failed)⟩
      obtain ⟨fault, part⟩ := mapM_eq_error member entryFailed
      rw [Value.toJson, entriesToJson_eq_mapM, part]
      exact ⟨fault, rfl⟩

end Values

/-! ## Records -/

namespace Trace

variable {records : List Value}

/-- The lines of records that can be written come before those of the later
records. -/
theorem exists_write_append (traceable : ∀ record ∈ records, record.Traceable) :
    ∃ documents : List JsonValue,
      (∀ document ∈ documents, document.Plain) ∧
      documents.map Value.ofJson = records.map Value.normal ∧
      ∀ later, write (records ++ later) =
        ⟨documents.flatMap line ++ (write later).characters,
          (write later).result.map (· + records.length)⟩ := by
  induction records with
  | nil =>
      refine ⟨[], List.forall_mem_nil _, rfl, fun later => ?_⟩
      rw [List.nil_append]
      cases write later with
      | mk characters result => cases result <;> rfl
  | cons record records induction =>
      obtain ⟨head, tail⟩ := List.forall_mem_cons.mp traceable
      obtain ⟨document, recorded⟩ := head.exists_recorded
      obtain ⟨documents, plain, same, written⟩ := induction tail
      refine ⟨document :: documents,
        List.forall_mem_cons.mpr ⟨recorded.plain, plain⟩, ?_, fun later => ?_⟩
      · rw [List.map_cons, List.map_cons, recorded.ofJson_eq, same]
      · rw [List.cons_append, write, recorded.toJson_eq]
        simp only [written, List.flatMap_cons, List.append_assoc]
        cases (write later).result <;> rfl

/-- Records that are written have a line each and are read back in order, and
their fractions from their texts.  A record that cannot be written fails with
the kind of its value, and the records before it are read back. -/
theorem read_write (traceable : ∀ record ∈ records, record.Traceable) :
    ((write records).result = .ok records.length ∧
      ∃ documents, read (write records).characters = .ok documents ∧
        documents.map Value.ofJson = records.map Value.normal ∧
        splitLines [] (write records).characters =
          documents.map JsonValue.write) ∧
    (∀ number, Value.readRat (Value.normal (.fraction number)) = .ok number) ∧
    ∀ unwritten later, Value.HasSet unwritten →
      ∃ fault documents,
        (write (records ++ unwritten :: later)).result = .error fault ∧
          fault.kind = .wrongKind ∧
        read (write (records ++ unwritten :: later)).characters =
          .ok documents ∧
        documents.map Value.ofJson = records.map Value.normal := by
  obtain ⟨documents, plain, same, written⟩ := exists_write_append traceable
  have readBack : read (documents.flatMap line) = .ok documents :=
    read_lines plain
  refine ⟨?_, fun number => Value.readRat_fractionText number, ?_⟩
  · have all := written []
    rw [List.append_nil] at all
    rw [all]
    refine ⟨?_, documents, ?_, same, ?_⟩
    · simp [write, Except.map]
    · simpa [write] using readBack
    · simpa [write] using splitLines_flatMap_line plain
  · intro unwritten later hasSet
    obtain ⟨fault, failed⟩ := hasSet.toJson_eq_error
    have stopped : write (unwritten :: later) = ⟨[], .error fault⟩ := by
      rw [write, failed]
    rw [written, stopped, List.append_nil]
    exact ⟨fault, documents, rfl, Value.kind_of_toJson failed, readBack, same⟩

/-- A record with every kind of value, and texts that need escapes. -/
def manifold : Value :=
  .mapping [("\"plan\"", .tuple [.fraction (-3 / 4), .fraction 2]),
    ("note\r\n", .text "tab\tbell\x07line\u2028\\"),
    ("rows", .list [.mapping [("sign", .relation .le)], .integer (-120)]),
    ("status", .status .optimal), ("done", .boolean true), ("next", .null)]

/-- The same record as it is read back. -/
def manifoldRead : Value :=
  .mapping [("\"plan\"", .list [.text "-3/4", .text "2"]),
    ("note\r\n", .text "tab\tbell\x07line\u2028\\"),
    ("rows", .list [.mapping [("sign", .text "<=")], .integer (-120)]),
    ("status", .text "optimal"), ("done", .boolean true), ("next", .null)]

theorem traceable_manifold : manifold.Traceable := by
  have plan : (Value.tuple [.fraction (-3 / 4), .fraction 2]).Traceable :=
    .tuple (by simp [Value.Traceable.fraction])
  have row : (Value.mapping [("sign", .relation .le)]).Traceable :=
    .mapping (by decide) (by simp [Value.Traceable.relation])
  have rows : (Value.list
      [.mapping [("sign", .relation .le)], .integer (-120)]).Traceable :=
    .list (by simp [row, Value.Traceable.integer])
  refine .mapping (by decide) ?_
  simp only [List.forall_mem_cons]
  exact ⟨plan, .text, rows, .status, .boolean, .null, by simp⟩

theorem normal_manifold : manifold.normal = manifoldRead := by
  have first : fractionText (-3 / 4) = "-3/4" := by decide +kernel
  have second : fractionText 2 = "2" := by decide +kernel
  simp only [manifold, manifoldRead, Value.normal, normalEntries, normalItems,
    first, second, Relation.symbol, Status.word]

/-- The record is read back, and also when a record with a set follows. -/
theorem read_write_manifold :
    ((write [manifold]).result = .ok 1 ∧
      ∃ documents, read (write [manifold]).characters = .ok documents ∧
        documents.map Value.ofJson = [manifoldRead]) ∧
    ∃ fault documents,
      (write [manifold, .list [.set []], manifold]).result = .error fault ∧
        fault.kind = .wrongKind ∧
      read (write [manifold, .list [.set []], manifold]).characters =
        .ok documents ∧
      documents.map Value.ofJson = [manifoldRead] := by
  have traceable : ∀ record ∈ [manifold], record.Traceable := by
    simpa using traceable_manifold
  have hasSet : Value.HasSet (.list [.set []]) :=
    .list (List.mem_singleton_self _) .set
  obtain ⟨⟨counted, documents, readBack, same, _⟩, _, stops⟩ :=
    read_write traceable
  have stopped := stops _ [manifold] hasSet
  rw [List.map_singleton, normal_manifold] at same stopped
  exact ⟨⟨counted, documents, readBack, same⟩, stopped⟩

end Trace

end RationalSimplex
