import EntityScaffold.Proofs.Naming.Words
import EntityScaffold.Proofs.Record.Acceptance
import EntityScaffold.Proofs.Text.Join
/-!
# Blanks in lists of fields

The fields to look up by may be written with blanks around them, and with items between the commas that are nothing
but blanks (`PaddedItem`).  Such items are dropped, whatever their blanks are, but of the blanks around a name only
the spaces are taken away: a tab or the end of a line stays at the name (`fieldNames_written`).  The names of a list
are therefore read as they are exactly if all that is put around them are spaces.

A name to which a blank sticks is no identifier, so it is not the name of a property, and a list with such a name is
never accepted (`padding_is_harmless_iff`).  What is between two commas without a name in it makes no difference.
-/

namespace EntityScaffold

open Document Text

/-- An item of a list that is written with commas: blanks only, or a name with blanks around it. -/
inductive PaddedItem where
  | void (blanks : String) (hblanks : isBlankText blanks = true)
  | field (before name after : String) (hbefore : isBlankText before = true) (hname : isIdentifier name = true)
      (hafter : isBlankText after = true)

namespace PaddedItem

/-- An item as it is written. -/
def text : PaddedItem → String
  | void blanks _ => blanks
  | field before name after .. => before ++ name ++ after

/-- The name in an item. -/
def name? : PaddedItem → Option String
  | void .. => none
  | field _ name .. => some name

/-- What is read of an item: the name, with the blanks around it that are no spaces. -/
def read? : PaddedItem → Option String
  | void .. => none
  | field before name after .. => some (withoutSpaces before ++ name ++ withoutSpaces after)

/-- There are only spaces around the name. -/
def IsPlain : PaddedItem → Prop
  | void .. => True
  | field before _ after .. => ∀ c ∈ (before ++ after).toList, c = ' '

/-- A list as it is written. -/
def written (items : List PaddedItem) : String := join "," (items.map text)

/-- The names in a list. -/
def names (items : List PaddedItem) : List String := items.filterMap name?

variable {s name : String} {item : PaddedItem} {items : List PaddedItem}

/-! ## Spaces -/

lemma withoutSpaces_append (s t : String) : withoutSpaces (s ++ t) = withoutSpaces s ++ withoutSpaces t := by
  rw [← String.toList_inj]
  simp [withoutSpaces]

lemma withoutSpaces_eq_empty_iff : withoutSpaces s = "" ↔ ∀ c ∈ s.toList, c = ' ' := by
  rw [← String.toList_inj, withoutSpaces, toList_through]
  simp

/-! ## Characters of items -/

lemma notMem_of_isBlankText {c : Char} (h : isBlankText s = true) (hc : isBlank c = false) : c ∉ s.toList := by
  intro hmem
  rw [isBlankText, List.all_eq_true] at h
  rw [h c hmem] at hc
  cases hc

lemma notMem_of_isIdentifier {c : Char} (h : isIdentifier s = true) (hc : isIdentifierChar c = false) :
    c ∉ s.toList := by
  intro hmem
  rw [isIdentifierChar_of_isIdentifier h c hmem] at hc
  cases hc

lemma comma_notMem_text (item : PaddedItem) : ',' ∉ item.text.toList := by
  have hblank : isBlank ',' = false := by decide
  cases item with
  | void blanks hblanks => exact notMem_of_isBlankText hblanks hblank
  | field before name after hbefore hname hafter =>
    rw [text, String.toList_append, String.toList_append, List.mem_append, List.mem_append, not_or, not_or]
    exact ⟨⟨notMem_of_isBlankText hbefore hblank, notMem_of_isIdentifier hname (by decide)⟩,
      notMem_of_isBlankText hafter hblank⟩

/-- A text with a name in it is more than blanks. -/
lemma isBlankText_field (before after : String) (hname : isIdentifier name = true) :
    isBlankText (before ++ name ++ after) = false := by
  obtain ⟨c, hc⟩ := List.exists_mem_of_ne_nil name.toList (by simpa using ne_empty_of_isIdentifier hname)
  refine List.all_eq_false.2 ⟨c, by simp [hc], ?_⟩
  simp [Naming.isBlank_of_isIdentifierChar (isIdentifierChar_of_isIdentifier hname c hc)]

/-! ## Reading -/

lemma normalItems_cons (s : String) (rest : List String) :
    normalItems (s :: rest) = if isBlankText s then normalItems rest else withoutSpaces s :: normalItems rest := by
  cases hblank : isBlankText s <;> simp [normalItems, hblank]

/-- Items are read one by one, and those without a name are dropped. -/
lemma normalItems_map_text (items : List PaddedItem) : normalItems (items.map text) = items.filterMap read? := by
  induction items with
  | nil => rfl
  | cons item items ih =>
    rw [List.map_cons, normalItems_cons, ih]
    cases item with
    | void blanks hblanks =>
      rw [text, if_pos hblanks]
      rfl
    | field before name after hbefore hname hafter =>
      have hspace : ' ' ∉ name.toList := notMem_of_isIdentifier hname (by decide)
      rw [text, isBlankText_field before after hname, if_neg (by decide), withoutSpaces_append,
        withoutSpaces_append, withoutSpaces_eq_self hspace]
      rfl

theorem fieldNames_written (items : List PaddedItem) :
    fieldNames (.text (written items)) = .ok (items.filterMap read?) := by
  cases items with
  | nil => decide
  | cons item items =>
    have hcommas : ∀ part ∈ (item :: items).map text, ',' ∉ part.toList :=
      List.forall_mem_map.2 fun item _ => comma_notMem_text item
    have hpieces : pieces ',' (written (item :: items)) = (item :: items).map text :=
      pieces_join (List.cons_ne_nil _ _) hcommas
    rw [fieldNames, hpieces, normalItems_map_text]

/-- The blanks around a name are taken away exactly if they are spaces. -/
lemma read?_eq_name?_iff (item : PaddedItem) : item.read? = item.name? ↔ item.IsPlain := by
  cases item with
  | void blanks hblanks => exact iff_of_true rfl trivial
  | field before name after hbefore hname hafter =>
    rw [read?, name?, IsPlain, Option.some.injEq, String.toList_append, List.forall_mem_append,
      ← withoutSpaces_eq_empty_iff, ← withoutSpaces_eq_empty_iff]
    constructor
    · intro h
      -- the name is as long as the name with what is left around it
      have hlength := congrArg String.length h
      rw [String.length_append, String.length_append] at hlength
      rw [← String.length_eq_zero_iff, ← String.length_eq_zero_iff]
      omega
    · rintro ⟨hbefore, hafter⟩
      rw [hbefore, hafter]
      simp

lemma filterMap_read?_eq_names_iff : items.filterMap read? = names items ↔ ∀ item ∈ items, item.IsPlain := by
  induction items with
  | nil => exact iff_of_true rfl (List.forall_mem_nil _)
  | cons item items ih =>
    rw [List.forall_mem_cons, ← ih, ← read?_eq_name?_iff, names, names]
    cases item with
    | void blanks hblanks => exact (and_iff_right rfl).symm
    | field before name after hbefore hname hafter =>
      rw [read?, name?, Option.some.injEq]
      exact List.cons_eq_cons

/-- A name to which a blank sticks is no identifier. -/
lemma isPlain_of_isIdentifier (h : ∀ name ∈ item.read?, isIdentifier name = true) : item.IsPlain := by
  cases item with
  | void blanks hblanks => trivial
  | field before name after hbefore hname hafter =>
    have hread : isIdentifier (withoutSpaces before ++ name ++ withoutSpaces after) = true := h _ rfl
    rw [IsPlain, String.toList_append]
    have hall : ∀ c ∈ before.toList ++ after.toList, isBlank c = true := by
      rw [isBlankText, List.all_eq_true] at hbefore hafter
      exact List.forall_mem_append.2 ⟨hbefore, hafter⟩
    intro c hc
    by_contra hne
    have hmem : c ∈ (withoutSpaces before ++ name ++ withoutSpaces after).toList := by
      rcases List.mem_append.1 hc with hc | hc <;> simp [withoutSpaces, hc, hne]
    have hblank := Naming.isBlank_of_isIdentifierChar (isIdentifierChar_of_isIdentifier hread c hmem)
    rw [hall c hc] at hblank
    cases hblank

/-! ## Names without blanks -/

lemma isIdentifier_of_mem_names (h : name ∈ names items) : isIdentifier name = true := by
  obtain ⟨item, -, hitem⟩ := List.mem_filterMap.1 h
  cases item with
  | void blanks hblanks => cases hitem
  | field before name' after hbefore hname hafter =>
    obtain rfl := Option.some.inj hitem
    exact hname

/-- The names of a list on their own are read as they are. -/
lemma normalItems_join_names (items : List PaddedItem) :
    normalItems (pieces ',' (join "," (names items))) = names items := by
  by_cases hnames : names items = []
  · rw [hnames]
    decide
  · have hcommas : ∀ name ∈ names items, ',' ∉ name.toList := fun name hname =>
      notMem_of_isIdentifier (isIdentifier_of_mem_names hname) (by decide)
    have hpieces : pieces ',' (join "," (names items)) = names items := pieces_join hnames hcommas
    rw [hpieces]
    refine normalItems_eq_self fun name hname => ?_
    have hidentifier := isIdentifier_of_mem_names hname
    refine ⟨?_, notMem_of_isIdentifier hidentifier (by decide)⟩
    simpa using isBlankText_field "" "" hidentifier

end PaddedItem

/-! ## Acceptance -/

/-- A proposal with a text for one of its lookups. -/
def Proposal.lookingUp (p : Proposal) (lookup : Lookup) (fields : String) : Proposal :=
  match lookup with
  | .single => { p with getBy := .text fields }
  | .multi => { p with getAllBy := .text fields }

namespace PaddedItem

open Proposal

variable {p : Proposal} {lookup : Lookup} {config : Config} {items : List PaddedItem}

lemma normalItems_written (items : List PaddedItem) :
    normalItems (pieces ',' (written items)) = items.filterMap read? :=
  Except.ok.inj (fieldNames_written items)

/-- Of a text for a lookup only the names in it count. -/
lemma isConsistent_lookingUp_congr {fields fields' : String}
    (h : normalItems (pieces ',' fields) = normalItems (pieces ',' fields')) :
    (p.lookingUp lookup fields).IsConsistent config ↔ (p.lookingUp lookup fields').IsConsistent config := by
  rw [isConsistent_iff, isConsistent_iff]
  cases lookup <;> simp only [lookingUp, Listing.names, h]

/-- The names of a lookup are names of properties, so they are identifiers. -/
lemma isIdentifier_of_isConsistent {fields name : String} (h : (p.lookingUp lookup fields).IsConsistent config)
    (hname : name ∈ normalItems (pieces ',' fields)) : isIdentifier name = true := by
  have hmem : name ∈ p.properties.map (·.name) := by
    cases lookup with
    | single => exact h.getBy name hname
    | multi => exact h.getAllBy name hname
  obtain ⟨q, hq, rfl⟩ := List.mem_map.1 hmem
  cases lookup <;> exact h.identifiers q hq

/-- The names of a list are read as they are exactly if there are only spaces around them, and a lookup with a list
is accepted exactly if moreover it is accepted with the names alone. -/
theorem padding_is_harmless_iff (items : List PaddedItem) :
    (fieldNames (.text (written items)) = .ok (names items) ↔ ∀ item ∈ items, item.IsPlain) ∧
      ∀ (p : Proposal) (lookup : Lookup) (config : Config),
        (∃ r, (p.lookingUp lookup (written items)).toDraft.assemble config = .ok r) ↔
          (∀ item ∈ items, item.IsPlain) ∧
            ∃ r, (p.lookingUp lookup (join "," (names items))).toDraft.assemble config = .ok r := by
  refine ⟨by rw [fieldNames_written, Except.ok.injEq, filterMap_read?_eq_names_iff], ?_⟩
  intro p lookup config
  rw [exists_assemble_iff, exists_assemble_iff]
  have hsame (hplain : ∀ item ∈ items, item.IsPlain) :
      (p.lookingUp lookup (written items)).IsConsistent config ↔
        (p.lookingUp lookup (join "," (names items))).IsConsistent config := by
    apply isConsistent_lookingUp_congr
    rw [normalItems_written, normalItems_join_names, filterMap_read?_eq_names_iff.2 hplain]
  constructor
  · intro h
    have hplain : ∀ item ∈ items, item.IsPlain := by
      intro item hitem
      refine isPlain_of_isIdentifier fun name hname => ?_
      refine isIdentifier_of_isConsistent h ?_
      rw [normalItems_written]
      exact List.mem_filterMap.2 ⟨item, hitem, hname⟩
    exact ⟨hplain, (hsame hplain).1 h⟩
  · rintro ⟨hplain, h⟩
    exact (hsame hplain).2 h

/-- A list in two columns, with a tab between them. -/
def columns : List PaddedItem :=
  [field "" "email" "" (by decide) (by decide) (by decide), void " \n" (by decide),
    field "\t" "slug" " " (by decide) (by decide) (by decide)]

/-- The tab stays at the name, and the list is not accepted although its names are. -/
theorem tab_is_not_taken_away :
    written columns = "email, \n,\tslug " ∧ names columns = ["email", "slug"] ∧
      fieldNames (.text (written columns)) = .ok ["email", "\tslug"] ∧
      fieldNames (.text (written columns)) ≠ .ok (names columns) ∧
      (∃ r, (Proposal.ofAccount.lookingUp .single (join "," (names columns))).toDraft.assemble {} = .ok r) ∧
        ¬ ∃ r, (Proposal.ofAccount.lookingUp .single (written columns)).toDraft.assemble {} = .ok r := by
  have hread : fieldNames (.text (written columns)) = .ok ["email", "\tslug"] := by decide
  have hnames : (Proposal.ofAccount.lookingUp .single (join "," (names columns))).IsConsistent {} :=
    ⟨by decide, by decide, by decide, by decide, by decide, fun _ => by decide, by
      rintro names ⟨⟩ name hname
      exact ⟨"Gedmo\\Timestampable\\Traits\\TimestampableEntity", by revert name; decide⟩⟩
  refine ⟨by decide, by decide, hread, ?_, exists_assemble_iff.2 hnames, ?_⟩
  · rw [hread]
    decide
  · rw [exists_assemble_iff]
    intro h
    exact absurd (h.getBy "\tslug" (by decide)) (by decide)

end PaddedItem

end EntityScaffold
