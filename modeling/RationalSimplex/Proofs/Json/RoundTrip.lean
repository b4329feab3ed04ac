import RationalSimplex.Proofs.Json.Parts
import RationalSimplex.Proofs.Text.Trimming

/-!
# Documents read back

A document without doubles is read back from its characters when no object has
a key twice.  The bound of the reader is the length of the text, which is never
less than the depth of the document.
-/

namespace RationalSimplex.JsonValue

/-- The document has no doubles, and no object has a key twice. -/
inductive Plain : JsonValue → Prop where
  | null : Plain .null
  | boolean {truth : Bool} : Plain (.boolean truth)
  | integer {number : Int} : Plain (.integer number)
  | text {characters : String} : Plain (.text characters)
  | list {items : List JsonValue} :
      (∀ item ∈ items, Plain item) → Plain (.list items)
  | object {entries : List (String × JsonValue)} :
      (entries.map Prod.fst).Nodup → (∀ entry ∈ entries, Plain entry.2) →
      Plain (.object entries)

variable {document item : JsonValue} {items : List JsonValue}
  {entries : List (String × JsonValue)} {key : String} {first : Char}
  {rest : List Char} {bound : Nat}

/-! ## The first character -/

/-- The first characters of documents that start with no digit. -/
def openings : List Char :=
  ['n', 't', 'f', '"', '[', '\x7b', '-']

/-- A document starts with an opening or with a digit. -/
def Opens (first : Char) : Prop :=
  first ∈ openings ∨ first.isDigit

theorem Plain.exists_cons (plain : document.Plain) :
    ∃ first more, document.write = first :: more ∧ Opens first := by
  cases plain with
  | null => exact ⟨_, _, rfl, .inl (by decide)⟩
  | @boolean truth =>
      cases truth with
      | false => exact ⟨_, _, rfl, .inl (by decide)⟩
      | true => exact ⟨_, _, rfl, .inl (by decide)⟩
  | @integer number =>
      obtain ⟨first, more, same, opens⟩ := exists_toString_cons number
      refine ⟨first, more, same, ?_⟩
      rcases opens with rfl | ascii
      · exact .inl (by decide)
      · exact .inr ascii
  | text => exact ⟨_, _, rfl, .inl (by decide)⟩
  | @list items _ =>
      cases items with
      | nil => exact ⟨_, _, rfl, .inl (by decide)⟩
      | cons item items => exact ⟨_, _, rfl, .inl (by decide)⟩
  | @object entries _ _ =>
      cases entries with
      | nil => exact ⟨_, _, rfl, .inl (by decide)⟩
      | cons entry entries =>
          exact ⟨_, _, rfl, .inl (by decide)⟩

theorem Opens.not_isBlank (opens : Opens first) : ¬Text.isBlank first := by
  have openingsSolid : openings.all fun opening => !Text.isBlank opening := by
    decide
  rcases opens with listed | ascii
  · simpa using List.all_eq_true.mp openingsSolid first listed
  · exact Text.not_isBlank_of_isDigit
      (Numeral.isDigit_iff.mpr ⟨_, Numeral.digitValue?_of_isDigit ascii⟩)

theorem Opens.ne_bracket (opens : Opens first) : first ≠ ']' := by
  rintro rfl
  rcases opens with listed | ascii
  · exact absurd listed (by decide)
  · cases ascii

theorem isBlank_of_isSpace (space : isSpace first) : Text.isBlank first := by
  simp only [isSpace, Bool.or_eq_true, beq_iff_eq] at space
  rcases space with ((rfl | rfl) | rfl) | rfl <;> decide

theorem skipSpace_cons (solid : ¬Text.isBlank first) :
    skipSpace (first :: rest) = first :: rest :=
  List.dropWhile_cons_of_neg fun space => solid (isBlank_of_isSpace space)

@[simp] theorem Plain.skipSpace_write_append (plain : document.Plain)
    (rest : List Char) :
    skipSpace (document.write ++ rest) = document.write ++ rest := by
  obtain ⟨first, more, same, opens⟩ := plain.exists_cons
  rw [same]
  exact skipSpace_cons opens.not_isBlank

/-! ## Items and entries -/

/-- The document is read back when the bound is no less than its length. -/
def ReadsBack (document : JsonValue) : Prop :=
  ∀ {bound : Nat} {rest : List Char}, document.write.length ≤ bound →
    StopsNumber rest →
      readValue? bound (document.write ++ rest) = some (document, rest)

theorem stopsNumber_cons (notDigit : ¬first.isDigit)
    (noMark : first ∉ ['.', 'e', 'E']) : StopsNumber (first :: rest) := by
  intro character isFirst
  rw [← Option.some.inj isFirst]
  exact ⟨notDigit, noMark⟩

theorem Plain.skipSpace_blank_write (plain : document.Plain)
    (rest : List Char) :
    skipSpace (' ' :: (document.write ++ rest)) = document.write ++ rest :=
  plain.skipSpace_write_append rest

theorem skipSpace_blank_writeText (characters rest : List Char) :
    skipSpace (' ' :: (writeText characters ++ rest)) =
      writeText characters ++ rest := by
  rw [writeText_append]
  rfl

/-- An item in front of the closing bracket is the last one. -/
theorem ReadsBack.readItems?_last (reads : item.ReadsBack)
    (short : item.write.length ≤ bound) :
    readItems? (bound + 1) (item.write ++ ']' :: rest) =
      some ([item], rest) := by
  rw [readItems?, reads short (stopsNumber_cons (by decide) (by decide))]
  rfl

/-- Behind a comma there are more items. -/
theorem ReadsBack.readItems?_more (reads : item.ReadsBack)
    (short : item.write.length ≤ bound) :
    readItems? (bound + 1) (item.write ++ ',' :: rest) =
      (readItems? bound (skipSpace rest)).map fun read =>
        (item :: read.1, read.2) := by
  rw [readItems?, reads short (stopsNumber_cons (by decide) (by decide))]
  rfl

theorem readItems?_write (plain : ∀ other ∈ item :: items, other.Plain)
    (reads : ∀ other ∈ item :: items, other.ReadsBack)
    (enough : item.write.length + (writeItems items).length ≤ bound) :
    readItems? bound (item.write ++ (writeItems items ++ rest)) =
      some (item :: items, rest) := by
  induction items generalizing item bound with
  | nil =>
      have itemReads : item.ReadsBack := reads item List.mem_cons_self
      rw [writeItems] at enough ⊢
      obtain ⟨bound, rfl⟩ :=
        Nat.exists_eq_add_of_le' (Nat.le_of_add_left_le enough)
      exact itemReads.readItems?_last (Nat.le_of_succ_le_succ enough)
  | cons next items induction =>
      have itemReads : item.ReadsBack := reads item List.mem_cons_self
      have nextPlain : next.Plain :=
        plain next (List.mem_cons_of_mem _ List.mem_cons_self)
      rw [writeItems] at enough ⊢
      simp only [List.length_cons, List.length_append] at enough
      obtain ⟨bound, rfl⟩ := Nat.exists_eq_add_of_le' (by omega : 1 ≤ bound)
      have others := induction
        (fun other member => plain other (List.mem_cons_of_mem _ member))
        (fun other member => reads other (List.mem_cons_of_mem _ member))
        (by omega : next.write.length + (writeItems items).length ≤ bound)
      simp only [List.cons_append, List.append_assoc]
      rw [itemReads.readItems?_more (by omega), nextPlain.skipSpace_blank_write,
        others]
      rfl

/-- A new key comes behind the others. -/
theorem putEntry_of_not_mem (absent : key ∉ entries.map Prod.fst)
    (item : JsonValue) :
    putEntry key item entries = entries ++ [(key, item)] := by
  induction entries with
  | nil => rfl
  | cons entry entries induction =>
      rw [List.map_cons, List.mem_cons, not_or] at absent
      rw [putEntry, if_neg (Ne.symm absent.1), induction absent.2,
        List.cons_append]

/-- What is read behind an entry. -/
def readBehind? (bound : Nat) (entries : List (String × JsonValue))
    (characters : List Char) :
    Option (List (String × JsonValue) × List Char) :=
  match skipSpace characters with
  | '\x7d' :: rest => some (entries, rest)
  | ',' :: rest => readEntries? bound entries (skipSpace rest)
  | _ => none

/-- An entry is added to those that were read before. -/
theorem ReadsBack.readEntries?_eq (reads : item.ReadsBack)
    (plain : item.Plain) (absent : key ∉ entries.map Prod.fst)
    (short : item.write.length ≤ bound) (stops : StopsNumber rest) :
    readEntries? (bound + 1) entries
        (writeText key.toList ++ ':' :: ' ' :: (item.write ++ rest)) =
      readBehind? bound (entries ++ [(key, item)]) rest := by
  rw [writeText_append, readEntries?, readText?_length]
  dsimp only
  rw [skipSpace_cons (by decide)]
  simp only [plain.skipSpace_blank_write, reads short stops,
    String.ofList_toList, putEntry_of_not_mem absent]
  rfl

theorem not_mem_of_nodup {before : List (String × JsonValue)}
    (distinct : ((before ++ (key, item) :: entries).map Prod.fst).Nodup) :
    key ∉ before.map Prod.fst := by
  rw [List.map_append, List.nodup_append] at distinct
  intro listed
  exact distinct.2.2 key listed key List.mem_cons_self rfl

theorem readEntries?_write {before : List (String × JsonValue)}
    (distinct : ((before ++ (key, item) :: entries).map Prod.fst).Nodup)
    (plain : ∀ other ∈ (key, item) :: entries, other.2.Plain)
    (reads : ∀ other ∈ (key, item) :: entries, other.2.ReadsBack)
    (enough : item.write.length + (writeEntries entries).length ≤ bound) :
    readEntries? bound before (writeText key.toList ++
        ':' :: ' ' :: (item.write ++ (writeEntries entries ++ rest))) =
      some (before ++ (key, item) :: entries, rest) := by
  have absent := not_mem_of_nodup distinct
  induction entries generalizing key item before bound with
  | nil =>
      have itemReads : item.ReadsBack := reads (key, item) List.mem_cons_self
      have itemPlain : item.Plain := plain (key, item) List.mem_cons_self
      rw [writeEntries] at enough ⊢
      obtain ⟨bound, rfl⟩ :=
        Nat.exists_eq_add_of_le' (Nat.le_of_add_left_le enough)
      exact itemReads.readEntries?_eq itemPlain absent
        (Nat.le_of_succ_le_succ enough)
        (stopsNumber_cons (by decide) (by decide))
  | cons next entries induction =>
      obtain ⟨nextKey, nextItem⟩ := next
      have itemReads : item.ReadsBack := reads (key, item) List.mem_cons_self
      have itemPlain : item.Plain := plain (key, item) List.mem_cons_self
      rw [writeEntries] at enough ⊢
      simp only [List.length_cons, List.length_append] at enough
      obtain ⟨bound, rfl⟩ := Nat.exists_eq_add_of_le' (by omega : 1 ≤ bound)
      -- The entry moves over to those that were read before, and all keys
      -- together stay the same.
      have distinctBehind : (((before ++ [(key, item)]) ++
          (nextKey, nextItem) :: entries).map Prod.fst).Nodup := by
        simpa using distinct
      have others := induction distinctBehind
        (fun other member => plain other (List.mem_cons_of_mem _ member))
        (fun other member => reads other (List.mem_cons_of_mem _ member))
        (by omega :
          nextItem.write.length + (writeEntries entries).length ≤ bound)
        (not_mem_of_nodup distinctBehind)
      simp only [List.cons_append, List.append_assoc]
      rw [itemReads.readEntries?_eq itemPlain absent (by omega)
        (stopsNumber_cons (by decide) (by decide))]
      change readEntries? bound _ (skipSpace (' ' :: _)) = _
      rw [skipSpace_blank_writeText, others, List.append_assoc,
        List.singleton_append]

/-! ## Documents -/

theorem Plain.readsBack_of_succ (plain : document.Plain)
    (reads : ∀ {bound : Nat} {rest : List Char},
      document.write.length ≤ bound + 1 → StopsNumber rest →
        readValue? (bound + 1) (document.write ++ rest) =
          some (document, rest)) : document.ReadsBack := by
  intro bound rest enough stops
  obtain ⟨first, more, same, _⟩ := plain.exists_cons
  have some : 1 ≤ bound := by
    rw [same, List.length_cons] at enough
    omega
  obtain ⟨bound, rfl⟩ := Nat.exists_eq_add_of_le' some
  exact reads enough stops

/-- The first characters of documents that are no numbers. -/
def letters : List Char :=
  ['n', 't', 'f', 'N', 'I', '"', '[', '\x7b']

/-- A minus and a digit start numbers only. -/
theorem readValue?_number (starts : first = '-' ∨ first.isDigit) :
    readValue? (bound + 1) (first :: rest) = readNumber? (first :: rest) := by
  have noDigits : letters.all fun letter => !letter.isDigit := by
    decide
  have different : ∀ letter ∈ letters, first ≠ letter := by
    rintro letter listed rfl
    rcases starts with rfl | ascii
    · exact absurd listed (by decide)
    · have noDigit := List.all_eq_true.mp noDigits first listed
      simp [ascii] at noDigit
  apply readValue?.eq_10 <;> intro others same <;>
    exact absurd (List.cons.inj same).1 (different _ (by decide))

/-- A document is read back when nothing behind it could continue a number. -/
theorem Plain.readsBack (plain : document.Plain) : document.ReadsBack := by
  induction plain with
  | null =>
      apply Plain.readsBack_of_succ .null
      intro bound rest _ _
      rfl
  | @boolean truth =>
      apply Plain.readsBack_of_succ .boolean
      intro bound rest _ _
      cases truth with
      | false => rfl
      | true => rfl
  | @integer number =>
      apply Plain.readsBack_of_succ .integer
      intro bound rest _ stops
      have read := readNumber?_toString number stops
      obtain ⟨first, more, same, starts⟩ := exists_toString_cons number
      rw [write]
      rw [same] at read ⊢
      exact (readValue?_number starts).trans read
  | @text characters =>
      apply Plain.readsBack_of_succ .text
      intro bound rest _ _
      rw [write, writeText_append, readValue?, readText?_length]
      simp only [Option.map_some, String.ofList_toList]
  | @list items plain induction =>
      apply Plain.readsBack_of_succ (.list plain)
      intro bound rest enough _
      cases items with
      | nil => rfl
      | cons item items =>
          rw [write] at enough ⊢
          simp only [List.length_cons, List.length_append] at enough
          have read : readItems? bound
              (item.write ++ (writeItems items ++ rest)) =
                some (item :: items, rest) :=
            readItems?_write plain induction (by omega)
          rw [List.cons_append, List.append_assoc, readValue?,
            (plain item List.mem_cons_self).skipSpace_write_append]
          obtain ⟨first, more, same, opens⟩ :=
            (plain item List.mem_cons_self).exists_cons
          -- No item begins like the end of an empty list.
          split
          · next others equal =>
              rw [same] at equal
              exact absurd (List.cons.inj equal).1 opens.ne_bracket
          · rw [read]
            rfl
  | @object entries distinct plain induction =>
      apply Plain.readsBack_of_succ (.object distinct plain)
      intro bound rest enough _
      cases entries with
      | nil => rfl
      | cons entry entries =>
          obtain ⟨key, item⟩ := entry
          rw [write] at enough ⊢
          simp only [List.length_cons, List.length_append] at enough
          have read : readEntries? bound [] (writeText key.toList ++
              ':' :: ' ' :: (item.write ++ (writeEntries entries ++ rest))) =
                some ((key, item) :: entries, rest) :=
            readEntries?_write distinct plain induction (by omega)
          simp only [List.cons_append, List.append_assoc, readValue?]
          rw [writeText_append] at read ⊢
          rw [skipSpace_cons (by decide)]
          change (readEntries? bound [] _).map _ = _
          rw [read]
          rfl

/-- A whole text with one document. -/
theorem Plain.read?_write (plain : document.Plain) :
    read? document.write = some document := by
  have skipped := plain.skipSpace_write_append []
  have read : readValue? (2 * document.write.length + 2)
      (document.write ++ []) = some (document, []) :=
    plain.readsBack (by omega) stopsNumber_nil
  rw [List.append_nil] at skipped read
  rw [read?, skipped, read]
  rfl

/-! ## What a line needs -/

theorem visible_writeItems (visible : ∀ item ∈ items, Visible item.write) :
    Visible (writeItems items) := by
  induction items with
  | nil => exact visible_nil.cons (by decide)
  | cons item items induction =>
      obtain ⟨head, tail⟩ := List.forall_mem_cons.mp visible
      rw [writeItems]
      exact ((head.append (induction tail)).cons (by decide)).cons (by decide)

theorem visible_writeEntry (key : String) {characters : List Char}
    (visible : Visible characters) :
    Visible (writeText key.toList ++ ':' :: ' ' :: characters) :=
  (visible_writeText _).append
    ((visible.cons (by decide)).cons (by decide))

theorem visible_writeEntries
    (visible : ∀ entry ∈ entries, Visible entry.2.write) :
    Visible (writeEntries entries) := by
  induction entries with
  | nil => exact visible_nil.cons (by decide)
  | cons entry entries induction =>
      obtain ⟨head, tail⟩ := List.forall_mem_cons.mp visible
      rw [writeEntries]
      have written := visible_writeEntry entry.1 (head.append (induction tail))
      exact (written.cons (by decide)).cons (by decide)

theorem Plain.visible_write (plain : document.Plain) :
    Visible document.write := by
  induction plain with
  | null =>
      rw [write]
      exact visible_of_all (by decide)
  | @boolean truth =>
      rw [write]
      cases truth <;> exact visible_of_all (by decide)
  | integer =>
      rw [write]
      exact visible_toString _
  | text =>
      rw [write]
      exact visible_writeText _
  | @list items _ induction =>
      cases items with
      | nil =>
          rw [write]
          exact visible_of_all (by decide)
      | cons item items =>
          obtain ⟨head, tail⟩ := List.forall_mem_cons.mp induction
          rw [write]
          exact (head.append (visible_writeItems tail)).cons (by decide)
  | @object entries _ _ induction =>
      cases entries with
      | nil =>
          rw [write]
          exact visible_of_all (by decide)
      | cons entry entries =>
          obtain ⟨head, tail⟩ := List.forall_mem_cons.mp induction
          rw [write]
          have written := visible_writeEntry entry.1
            (head.append (visible_writeEntries tail))
          exact written.cons (by decide)

/-- Something other than a blank stands in front. -/
theorem Plain.not_all_isBlank (plain : document.Plain) :
    ¬document.write.all Text.isBlank := by
  obtain ⟨first, more, same, opens⟩ := plain.exists_cons
  rw [same, List.all_cons, Bool.and_eq_true, not_and]
  exact fun blank => absurd blank opens.not_isBlank

end RationalSimplex.JsonValue
