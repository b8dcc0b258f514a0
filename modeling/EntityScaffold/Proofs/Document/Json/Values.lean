import Mathlib.Data.List.Induction
import Mathlib.Data.List.Nodup
import EntityScaffold.Proofs.Document.Json.Texts
import EntityScaffold.Proofs.Schema.Fields
import EntityScaffold.Proofs.Text.Join
/-!
# Reading what was printed

A value that is made of null, truth values and texts is printed as a text that is read back as the same value
(`read_print`), its entries in their order, provided that no mapping has a key twice and that lists and mappings are
not nested more deeply than a reader goes.  Numbers and dates are left out, because not all of them come back: a date
is printed as a text.

The printer lays a value out over lines, and the reader does not look at lines.  What joins the two is that a printed
value begins with a character that is neither a blank nor a closing bracket (`begins_printAt`), so that the reader,
which skips blanks between any two tokens, always stops where the value begins.
-/

namespace EntityScaffold.Document

/-- A value of null, truth values and texts, with no key twice, whose lists and mappings are nested `depth` times at
most. -/
inductive Value.IsPlain : (depth : Nat) → Value → Prop
  | null (depth : Nat) : IsPlain depth .null
  | bool (depth : Nat) (b : Bool) : IsPlain depth (.bool b)
  | text (depth : Nat) (s : String) : IsPlain depth (.text s)
  | list {depth : Nat} {items : List Value} (items_plain : ∀ v ∈ items, IsPlain depth v) :
      IsPlain (depth + 1) (.list items)
  | mapping {depth : Nat} {entries : List (Scalar × Value)} (keys : ∀ entry ∈ entries, ∃ key, entry.1 = .text key)
      (nodup : (entries.map (·.1)).Nodup) (values : ∀ entry ∈ entries, IsPlain depth entry.2) :
      IsPlain (depth + 1) (.mapping entries)

/-! ## Mappings -/

section Mappings

variable {key : Scalar} {value : Value} {entries : List (Scalar × Value)}

/-- A new key comes last. -/
lemma put_of_forall (h : ∀ entry ∈ entries, entry.1.sameKey key = false) (value : Value) :
    put key value entries = entries ++ [(key, value)] := by
  induction entries with
  | nil => rfl
  | cons entry rest ih =>
    obtain ⟨hentry, hrest⟩ := List.forall_mem_cons.1 h
    rw [put, hentry, ih hrest]
    rfl

/-- Entries under texts, no two of them the same, are the mapping that they write. -/
lemma putAll_eq_self (hkeys : ∀ entry ∈ entries, ∃ key, entry.1 = .text key)
    (hnodup : (entries.map (·.1)).Nodup) : putAll entries = entries := by
  induction entries using List.reverseRecOn with
  | nil => rfl
  | append_singleton entries entry ih =>
    obtain ⟨hkeys, hentry⟩ := List.forall_mem_append.1 hkeys
    obtain ⟨key, hkey⟩ := hentry entry (List.mem_singleton_self _)
    rw [List.map_append, List.map_singleton, List.nodup_append] at hnodup
    obtain ⟨hnodup, -, hnew⟩ := hnodup
    have hother : ∀ other ∈ entries, other.1.sameKey entry.1 = false := by
      intro other hmem
      rw [hkey, Bool.eq_false_iff, Ne, sameKey_text_iff, ← hkey]
      exact hnew _ (List.mem_map.2 ⟨other, hmem, rfl⟩) _ (List.mem_singleton_self _)
    have hconcat : putAll (entries ++ [entry]) = put entry.1 entry.2 (putAll entries) := by
      rw [putAll, List.foldl_append]
      rfl
    rw [hconcat, ih hkeys hnodup, put_of_forall hother]

end Mappings

namespace Json

variable {nesting depth level : Nat} {v : Value} {items : List Value} {entries : List (Scalar × Value)}

/-! ## Blanks -/

lemma skip_cons_of_isSpace {c : Char} (h : isSpace c = true) (cs : List Char) : skip (c :: cs) = skip cs :=
  List.dropWhile_cons_of_pos h

lemma skip_cons_of_not {c : Char} (h : isSpace c = false) (cs : List Char) : skip (c :: cs) = c :: cs :=
  List.dropWhile_cons_of_neg (by simp [h])

/-- The start of a line is skipped. -/
lemma skip_indent (level : Nat) (cs : List Char) : skip ((indent level).toList ++ cs) = skip cs := by
  rw [indent, String.toList_ofList]
  induction 2 * level with
  | zero => rfl
  | succ n ih =>
    rw [List.replicate_succ, List.cons_append, skip_cons_of_isSpace rfl]
    exact ih

/-- A line break is skipped, and the start of the next line with it. -/
lemma skip_newline (level : Nat) (cs : List Char) : skip ('\n' :: ((indent level).toList ++ cs)) = skip cs := by
  rw [skip_cons_of_isSpace rfl, skip_indent]

/-! ## Printed values -/

lemma printItems_eq_map (level : Nat) (items : List Value) : printItems level items = items.map (printAt level) := by
  induction items with
  | nil => rfl
  | cons v rest ih => rw [printItems, ih, List.map_cons]

/-- The text of an entry. -/
def printEntry (level : Nat) (entry : Scalar × Value) : String := printKey entry.1 ++ ": " ++ printAt level entry.2

lemma printEntries_eq_map (level : Nat) (entries : List (Scalar × Value)) :
    printEntries level entries = entries.map (printEntry level) := by
  induction entries with
  | nil => rfl
  | cons entry rest ih =>
    rw [printEntries, ih, List.map_cons]
    rfl

lemma printAt_list (level : Nat) (items : List Value) :
    printAt level (.list items) = block level (.singleton '[') (.singleton ']') (items.map (printAt (level + 1))) := by
  rw [printAt, printItems_eq_map]
  rfl

lemma printAt_mapping (level : Nat) (entries : List (Scalar × Value)) :
    printAt level (.mapping entries) =
      block level (.singleton '\x7b') (.singleton '\x7d') (entries.map (printEntry (level + 1))) := by
  rw [printAt, printEntries_eq_map]
  rfl

lemma printEntry_toList (level : Nat) (key : String) (v : Value) :
    (printEntry level (.text key, v)).toList =
      '"' :: (key.toList.flatMap printChar ++ '"' :: ':' :: ' ' :: (printAt level v).toList) := by
  simp [printEntry, printKey, printText_toList]

/-- The lines of the parts of a block. -/
def partLines (level : Nat) (parts : List String) : List Char :=
  (Text.join ",\n" (parts.map (indent level ++ ·))).toList

lemma partLines_singleton (level : Nat) (part : String) :
    partLines level [part] = (indent level).toList ++ part.toList := String.toList_append

lemma partLines_cons_cons (level : Nat) (first second : String) (more : List String) :
    partLines level (first :: second :: more) =
      (indent level).toList ++ (first.toList ++ ',' :: '\n' :: partLines level (second :: more)) := by
  simp [partLines, Text.join_cons_cons]

/-- The characters of a block with parts. -/
lemma block_toList (level : Nat) (opening closing : Char) {parts : List String} (h : parts ≠ []) :
    (block level (.singleton opening) (.singleton closing) parts).toList =
      opening :: '\n' :: (partLines (level + 1) parts ++ '\n' :: ((indent level).toList ++ [closing])) := by
  obtain ⟨part, more, rfl⟩ := List.exists_cons_of_ne_nil h
  simp [block, partLines]

/-- A text begins with a character that is neither a blank nor the closing bracket of a block. -/
def Begins (closing : Char) (part : String) : Prop :=
  ∃ c cs, part.toList = c :: cs ∧ isSpace c = false ∧ c ≠ closing

lemma Begins.skip {closing : Char} {part : String} (h : Begins closing part) (rest : List Char) :
    Json.skip (part.toList ++ rest) = part.toList ++ rest := by
  obtain ⟨c, cs, heq, hspace, -⟩ := h
  rw [heq, List.cons_append, skip_cons_of_not hspace]

lemma begins_block (level : Nat) (opening closing : Char) (parts : List String)
    (h : isSpace opening = false) {c : Char} (hc : opening ≠ c) :
    Begins c (block level (.singleton opening) (.singleton closing) parts) := by
  by_cases hparts : parts = []
  · rw [hparts]
    exact ⟨opening, [closing], by simp [block], h, hc⟩
  · exact ⟨opening, _, block_toList level opening closing hparts, h, hc⟩

theorem begins_printAt (h : v.IsPlain nesting) (level : Nat) : Begins ']' (printAt level v) := by
  cases h with
  | null => exact ⟨'n', ['u', 'l', 'l'], by simp [printAt, printScalar], rfl, by decide⟩
  | bool _ b =>
    cases b with
    | false => exact ⟨'f', ['a', 'l', 's', 'e'], by simp [printAt, printScalar], rfl, by decide⟩
    | true => exact ⟨'t', ['r', 'u', 'e'], by simp [printAt, printScalar], rfl, by decide⟩
  | text _ s => exact ⟨'"', _, printText_toList s, rfl, by decide⟩
  | list =>
    rw [printAt_list]
    exact begins_block level '[' ']' _ rfl (by decide)
  | mapping =>
    rw [printAt_mapping]
    exact begins_block level '\x7b' '\x7d' _ rfl (by decide)

/-! ## Reading the parts of a block -/

section Parts

variable {α : Type} {read : (fuel : Nat) → List Char → Except Fault (List α × List Char)} {print : α → String}
  {closing : Char} {a : α} {parts : List α} {fuel : Nat}

/-- A reader of the parts of a block reads a part as it is printed, before the end of the block or a comma. -/
structure ReadsPart (read : (fuel : Nat) → List Char → Except Fault (List α × List Char)) (print : α → String)
    (closing : Char) (a : α) : Prop where
  begins : Begins closing (print a)
  last : ∀ fuel cs rest, 3 * (print a).toList.length ≤ fuel → skip cs = closing :: rest →
    read (fuel + 1) ((print a).toList ++ cs) = .ok ([a], rest)
  next : ∀ fuel cs more rest, 3 * (print a).toList.length ≤ fuel → read fuel (skip cs) = .ok (more, rest) →
    read (fuel + 1) ((print a).toList ++ ',' :: cs) = .ok (a :: more, rest)

/-- Parts are read one after another, over the lines on which they stand. -/
lemma read_partLines (hclosing : isSpace closing = false) (hne : parts ≠ [])
    (hparts : ∀ a ∈ parts, ReadsPart read print closing a) (level below : Nat) (rest : List Char)
    (hfuel : 3 * (partLines level (parts.map print)).length < fuel) :
    read fuel (skip (partLines level (parts.map print) ++ '\n' :: ((indent below).toList ++ closing :: rest))) =
      .ok (parts, rest) := by
  induction parts generalizing fuel with
  | nil => exact absurd rfl hne
  | cons a parts ih =>
    obtain ⟨ha, hparts⟩ := List.forall_mem_cons.1 hparts
    obtain ⟨fuel, rfl⟩ := Nat.exists_eq_succ_of_ne_zero (Nat.ne_zero_of_lt hfuel)
    cases parts with
    | nil =>
      rw [List.map_singleton, partLines_singleton] at hfuel ⊢
      rw [List.length_append] at hfuel
      rw [List.append_assoc, skip_indent, ha.begins.skip]
      exact ha.last fuel _ rest (by omega) (by rw [skip_newline, skip_cons_of_not hclosing])
    | cons b parts =>
      rw [List.map_cons, List.map_cons, partLines_cons_cons] at hfuel ⊢
      simp only [List.length_append, List.length_cons] at hfuel
      rw [List.append_assoc, skip_indent, List.append_assoc, ha.begins.skip, List.cons_append, List.cons_append]
      refine ha.next fuel _ (b :: parts) rest (by omega) ?_
      rw [skip_cons_of_isSpace rfl]
      exact ih (List.cons_ne_nil b parts) hparts (by rw [List.map_cons]; omega)

/-- The first part comes after nothing but blanks. -/
lemma exists_skip_partLines_eq_cons {part : String} (h : Begins closing part) (level : Nat) (more : List String)
    (rest : List Char) : ∃ c cs, skip (partLines level (part :: more) ++ rest) = c :: cs ∧ c ≠ closing := by
  obtain ⟨c, cs, heq, hspace, hc⟩ := h
  cases more with
  | nil =>
    rw [partLines_singleton, List.append_assoc, skip_indent, heq, List.cons_append, skip_cons_of_not hspace]
    exact ⟨c, _, rfl, hc⟩
  | cons second more =>
    rw [partLines_cons_cons, List.append_assoc, skip_indent, heq, List.append_assoc, List.cons_append,
      skip_cons_of_not hspace]
    exact ⟨c, _, rfl, hc⟩

/-- The parts of a block are read after its opening bracket, where no closing bracket stands. -/
lemma exists_read_block (hclosing : isSpace closing = false) (hne : parts ≠ [])
    (hparts : ∀ a ∈ parts, ReadsPart read print closing a) (level : Nat) (opening : Char) (rest : List Char)
    (hfuel : 3 * (block level (.singleton opening) (.singleton closing) (parts.map print)).toList.length ≤ fuel + 2) :
    ∃ inner c cs,
      (block level (.singleton opening) (.singleton closing) (parts.map print)).toList ++ rest = opening :: inner ∧
        skip inner = c :: cs ∧ c ≠ closing ∧ read fuel (c :: cs) = .ok (parts, rest) := by
  obtain ⟨a, more, rfl⟩ := List.exists_cons_of_ne_nil hne
  rw [block_toList level opening closing (by simp)] at hfuel ⊢
  simp only [List.length_append, List.length_cons] at hfuel
  have hread : read fuel (skip (partLines (level + 1) ((a :: more).map print) ++
      '\n' :: ((indent level).toList ++ closing :: rest))) = .ok (a :: more, rest) :=
    read_partLines hclosing hne hparts (level + 1) level rest (by omega)
  obtain ⟨c, cs, hcs, hc⟩ := exists_skip_partLines_eq_cons (hparts a List.mem_cons_self).begins (level + 1)
    (more.map print) ('\n' :: ((indent level).toList ++ closing :: rest))
  refine ⟨_, c, cs, List.cons_append, ?_, hc, ?_⟩
  · rw [List.cons_append, skip_cons_of_isSpace rfl, ← hcs]
    simp
  · rw [← hcs]
    exact hread

end Parts

/-! ## Values -/

/-- The text of a value is read as the value, whatever comes after it.  A reader takes at most three steps for a
character: as the first of a part, of the value of that part, and of a block. -/
def ReadsBack (depth level : Nat) (v : Value) : Prop :=
  ∀ fuel rest, 3 * (printAt level v).toList.length ≤ fuel →
    readValue fuel depth ((printAt level v).toList ++ rest) = .ok (v, rest)

lemma exists_fuel_eq {closing : Char} {part : String} (h : Begins closing part) {fuel : Nat}
    (hfuel : 3 * part.toList.length ≤ fuel) : ∃ n, fuel = n + 2 := by
  obtain ⟨c, cs, heq, -⟩ := h
  rw [heq, List.length_cons] at hfuel
  exact ⟨fuel - 2, by omega⟩

lemma readsBack_scalar {s : Scalar} (h : (Value.scalar s).IsPlain nesting) : ReadsBack depth level (.scalar s) := by
  intro fuel rest hfuel
  obtain ⟨fuel, rfl⟩ := exists_fuel_eq (begins_printAt h level) hfuel
  cases h with
  | null => simp [printAt, printScalar, readValue, readPlain, readWord, words]
  | bool _ b => cases b <;> simp [printAt, printScalar, readValue, readPlain, readWord, words]
  | text _ s =>
    show readValue (fuel + 2) depth ((printText s).toList ++ rest) = _
    rw [printText_toList, List.cons_append, List.append_assoc, List.singleton_append, readValue, readString_flatMap]
    rfl

lemma readsPart_item (h : v.IsPlain nesting) (hread : ReadsBack depth level v) :
    ReadsPart (readItems · depth) (printAt level) ']' v where
  begins := begins_printAt h level
  last fuel cs rest hfuel hskip := by
    simp only [readItems, hread fuel cs hfuel, bind, Except.bind, hskip]
    rfl
  next fuel cs more rest hfuel hmore := by
    simp only [readItems, hread fuel _ hfuel, bind, Except.bind, skip_cons_of_not (c := ',') rfl, hmore]
    rfl

/-- A list of such values is read back. -/
lemma readsBack_list (hplain : ∀ v ∈ items, v.IsPlain nesting)
    (hreads : ∀ v ∈ items, ReadsBack depth (level + 1) v) : ReadsBack (depth + 1) level (.list items) := by
  intro fuel rest hfuel
  obtain ⟨fuel, rfl⟩ := exists_fuel_eq (begins_printAt (.list hplain) level) hfuel
  by_cases hne : items = []
  · subst hne
    simp [printAt, printItems, block, readValue, skip, isSpace, readList]
  · rw [printAt_list] at hfuel ⊢
    obtain ⟨inner, c, cs, htext, hskip, hc, hread⟩ := exists_read_block rfl hne
      (fun v hv => readsPart_item (hplain v hv) (hreads v hv)) level '[' rest hfuel
    rw [htext, readValue, hskip, readList, hread]
    · rfl
    · simpa using hc

lemma readsPart_entry {key : String} (h : v.IsPlain nesting) (hread : ReadsBack depth level v) :
    ReadsPart (readEntries · depth) (printEntry level) '\x7d' (.text key, v) where
  begins := ⟨'"', _, printEntry_toList level key v, rfl, by decide⟩
  last fuel cs rest hfuel hskip := by
    rw [printEntry_toList] at hfuel ⊢
    simp only [List.length_append, List.length_cons] at hfuel
    rw [List.cons_append, List.append_assoc, readEntries]
    simp only [List.cons_append, readString_flatMap, bind, Except.bind, skip_cons_of_not (c := ':') rfl,
      skip_cons_of_isSpace (c := ' ') rfl, (begins_printAt h level).skip, hread fuel cs (by omega), hskip]
    rfl
  next fuel cs more rest hfuel hmore := by
    rw [printEntry_toList] at hfuel ⊢
    simp only [List.length_append, List.length_cons] at hfuel
    rw [List.cons_append, List.append_assoc, readEntries]
    simp only [List.cons_append, readString_flatMap, bind, Except.bind, skip_cons_of_not (c := ':') rfl,
      skip_cons_of_isSpace (c := ' ') rfl, (begins_printAt h level).skip, hread fuel _ (by omega),
      skip_cons_of_not (c := ',') rfl, hmore]
    rfl

/-- A mapping to such values is read back, its entries in their order. -/
lemma readsBack_mapping (hkeys : ∀ entry ∈ entries, ∃ key, entry.1 = .text key)
    (hnodup : (entries.map (·.1)).Nodup) (hplain : ∀ entry ∈ entries, entry.2.IsPlain nesting)
    (hreads : ∀ entry ∈ entries, ReadsBack depth (level + 1) entry.2) :
    ReadsBack (depth + 1) level (.mapping entries) := by
  intro fuel rest hfuel
  obtain ⟨fuel, rfl⟩ := exists_fuel_eq (begins_printAt (.mapping hkeys hnodup hplain) level) hfuel
  by_cases hne : entries = []
  · subst hne
    simp [printAt, printEntries, block, readValue, skip, isSpace, readObject]
  · have hparts : ∀ entry ∈ entries, ReadsPart (readEntries · depth) (printEntry (level + 1)) '\x7d' entry := by
      rintro ⟨k, v⟩ hmem
      obtain ⟨key, rfl⟩ := hkeys _ hmem
      exact readsPart_entry (hplain (.text key, v) hmem) (hreads (.text key, v) hmem)
    rw [printAt_mapping] at hfuel ⊢
    obtain ⟨inner, c, cs, htext, hskip, hc, hread⟩ := exists_read_block rfl hne hparts level '\x7b' rest hfuel
    rw [htext, readValue, hskip, readObject, hread]
    · simp only [Except.map, putAll_eq_self hkeys hnodup]
    · simpa using hc

/-- A plain value is read back, by a reader that goes at least as deep as it is nested. -/
lemma readsBack (h : v.IsPlain nesting) (level : Nat) (hdepth : nesting ≤ depth) : ReadsBack depth level v := by
  induction h generalizing depth level with
  | null nesting => exact readsBack_scalar (.null nesting)
  | bool nesting b => exact readsBack_scalar (.bool nesting b)
  | text nesting s => exact readsBack_scalar (.text nesting s)
  | list hitems ih =>
    obtain ⟨depth, rfl⟩ := Nat.exists_eq_succ_of_ne_zero (Nat.ne_zero_of_lt hdepth)
    exact readsBack_list hitems fun v hv => ih v hv (level + 1) (Nat.le_of_succ_le_succ hdepth)
  | mapping hkeys hnodup hvalues ih =>
    obtain ⟨depth, rfl⟩ := Nat.exists_eq_succ_of_ne_zero (Nat.ne_zero_of_lt hdepth)
    exact readsBack_mapping hkeys hnodup hvalues fun entry hmem =>
      ih entry hmem (level + 1) (Nat.le_of_succ_le_succ hdepth)

/-- What was printed is read as the value that it was printed from. -/
theorem read_print (h : v.IsPlain nesting) (hdepth : nesting ≤ mostNested) : read (print v) = .ok v := by
  have hskip : skip (print v).toList = (print v).toList := by
    simpa [print] using (begins_printAt h 0).skip []
  have hread : readValue (3 * (print v).toList.length + 3) mostNested (print v).toList = .ok (v, []) := by
    simpa [print] using readsBack h 0 hdepth (3 * (print v).toList.length + 3) [] (by rw [print]; omega)
  rw [read, hskip, hread]
  rfl

end Json

end EntityScaffold.Document
