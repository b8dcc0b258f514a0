import EntityScaffold.Proofs.Naming.Words
import EntityScaffold.Proofs.Text.Characters
import EntityScaffold.Proofs.Text.Join
import EntityScaffold.Proofs.Text.Lines
/-!
# Texts without line breaks

A text without a line break stays so when something is cut out of it, and when it is written between other such
texts.  Everything that is made of the names, types and defaults of a unit on the way to its file is of one of
these two kinds; identifiers and numbers have no line breaks to begin with.
-/

namespace EntityScaffold

open Text

namespace Text

variable {s t : String} {cs : List Char}

@[simp] lemma isOneLine_append : IsOneLine (s ++ t) ↔ IsOneLine s ∧ IsOneLine t := by
  simp only [IsOneLine, String.toList_append, List.forall_mem_append]

lemma IsOneLine.ite {c : Prop} [Decidable c] (hs : IsOneLine s) (ht : IsOneLine t) :
    IsOneLine (if c then s else t) := by
  split
  · exact hs
  · exact ht

lemma IsSolid.append_left (hs : IsOneLine s) (ht : IsSolid t) : IsSolid (s ++ t) := by
  obtain ⟨ht, c, hc, hblank⟩ := ht
  refine ⟨isOneLine_append.2 ⟨hs, ht⟩, c, ?_, hblank⟩
  rw [String.toList_append]
  exact List.mem_append_right _ hc

lemma IsSolid.append_right (hs : IsSolid s) (ht : IsOneLine t) : IsSolid (s ++ t) := by
  obtain ⟨hs, c, hc, hblank⟩ := hs
  refine ⟨isOneLine_append.2 ⟨hs, ht⟩, c, ?_, hblank⟩
  rw [String.toList_append]
  exact List.mem_append_left _ hc

lemma IsOneLine.of_subset (ht : IsOneLine t) (h : s.toList ⊆ t.toList) : IsOneLine s := fun c hc => ht c (h hc)

lemma IsOneLine.of_hasIdentifierChars (h : HasIdentifierChars s) : IsOneLine s := fun c hc =>
  ⟨ne_of_isIdentifierChar (h c hc) (by decide), ne_of_isIdentifierChar (h c hc) (by decide)⟩

lemma IsOneLine.of_isIdentifier (h : isIdentifier s = true) : IsOneLine s :=
  .of_hasIdentifierChars (.of_isIdentifier h)

lemma IsOneLine.join {sep : String} {items : List String} (hsep : IsOneLine sep)
    (h : ∀ item ∈ items, IsOneLine item) : IsOneLine (join sep items) := by
  intro c hc
  obtain hc | ⟨item, hitem, hc⟩ := mem_join hc
  · exact hsep c hc
  · exact h item hitem c hc

/-! ## Numbers -/

lemma IsOneLine.toString_int (n : Int) : IsOneLine (toString n) := by
  cases n with
  | ofNat n => exact .of_hasIdentifierChars (.toString_nat n)
  | negSucc n => exact isOneLine_append.2 ⟨by decide, .of_hasIdentifierChars (.toString_nat (n + 1))⟩

/-! ## Parts of a text -/

lemma IsOneLine.bare (h : IsOneLine s) : IsOneLine (ClassName.bare s) := h.of_subset (bare_subset s)

/-- The last piece, or nothing. -/
theorem IsOneLine.lastPiece (h : IsOneLine s) (sep : Char) : IsOneLine ((Text.pieces sep s).getLastD "") :=
  h.of_subset (lastPiece_subset sep s)

lemma IsOneLine.shortName (h : IsOneLine s) : IsOneLine (ClassName.shortName s) := h.of_subset (shortName_subset s)

end Text

namespace Source

variable {entry : String}

lemma Import.isOneLine_printed (h : IsOneLine entry) : IsOneLine (Import.printed entry) :=
  h.of_subset (Import.printed_subset entry)

end Source

lemma Literal.isOneLine_print {value : String} (h : IsOneLine value) (type : Option String) :
    IsOneLine (print value type) := by
  have hown : ∀ c ∈ ownChars, c ≠ '\n' ∧ c ≠ '\r' := by decide
  exact fun c hc => (mem_print hc).elim (hown c) (h c)

end EntityScaffold
