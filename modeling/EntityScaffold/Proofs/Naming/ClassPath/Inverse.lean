import EntityScaffold.Proofs.Naming.ClassPath
/-!
# Classes of paths

Of the name of a class in a namespace only the first segment is missing in the path of its file.  The other segments
are the names below the directory of the application, one after another, and the extension is what stands at the last
of them behind the short name (`path?_of_isNested`).  So the class is read off the path, when the first segment, the
directory and the extension are known (`ofPath`), whether the extension is empty or has dots in it; and two classes
with the same first segment have the same file only if they are the same but for the backslashes around them.

A name of one segment is left out: the class `User` has the same file as `App\User`.
-/

namespace EntityScaffold.ClassName

open Text

/-- A class in a namespace, all of whose segments are identifiers. -/
structure IsNested (name : String) : Prop where
  two_le_length : 2 ≤ (segments name).length
  isIdentifier : ∀ segment ∈ segments name, isIdentifier segment = true

/-- The segment of a class name that stands for the directory of the application. -/
def firstSegment (name : String) : String := (segments name).headD ""

/-- A file name without an ending that it has. -/
def withoutEnding (ending file : String) : String :=
  String.ofList (file.toList.take (file.toList.length - ending.toList.length))

/-- The class with a first segment whose file has a path. -/
def ofPath (first : String) (appDir : Path) (extension : String) (p : Path) : String :=
  let below := p.components.drop appDir.components.length
  join "\\" (first :: (below.dropLast ++ [withoutEnding extension (below.getLastD "")]))

variable {name other first extension : String} {appDir : Path}

lemma withoutEnding_append (file ending : String) : withoutEnding ending (file ++ ending) = file := by
  rw [withoutEnding, String.toList_append, List.length_append, Nat.add_sub_cancel, List.take_left, String.ofList_toList]

/-- The segments of a class in a namespace. -/
lemma IsNested.exists_segments (h : IsNested name) :
    ∃ middle short, segments name = firstSegment name :: (middle ++ [short]) := by
  have htwo := h.two_le_length
  rw [firstSegment]
  cases hsegments : segments name with
  | nil => simp [hsegments] at htwo
  | cons first rest =>
    rcases List.eq_nil_or_concat rest with rfl | ⟨middle, short, rfl⟩
    · simp [hsegments] at htwo
    · exact ⟨middle, short, by rw [List.concat_eq_append]; rfl⟩

/-- None of them is empty. -/
theorem IsNested.properSegments_eq (h : IsNested name) : properSegments name = segments name :=
  List.filter_eq_self.2 fun segment hsegment =>
    bne_iff_ne.2 (ne_empty_of_isIdentifier (h.isIdentifier segment hsegment))

/-- The segments but the first one are the names below the directory. -/
theorem path?_of_isNested (h : IsNested name) (hextension : '/' ∉ extension.toList) (appDir : Path) :
    ∃ middle short, segments name = firstSegment name :: (middle ++ [short]) ∧
      path? name appDir extension =
        some ⟨appDir.root, appDir.components ++ (middle ++ [short ++ extension])⟩ := by
  obtain ⟨middle, short, hsegments⟩ := h.exists_segments
  have hidentifiers : ∀ segment ∈ middle ++ [short], isIdentifier segment = true := fun segment hsegment =>
    h.isIdentifier segment (by rw [hsegments]; exact List.mem_cons_of_mem _ hsegment)
  obtain ⟨hmiddle, hshort⟩ := List.forall_mem_append.1 hidentifiers
  have hplace : placeBelow? name = some (middle, short) := by
    have hproper : properSegments name = (firstSegment name :: middle) ++ [short] := by
      rw [h.properSegments_eq, hsegments, List.cons_append]
    exact placeBelow?_eq hproper
  have hfile := Path.ofString_append_of_not_mem (hshort short (List.mem_singleton_self short)) hextension
  refine ⟨middle, short, hsegments, ?_⟩
  rw [path?, hplace, Option.map_some]
  simp only [List.foldl_append, Path.foldl_append_ofString hmiddle]
  simp [hfile, Path.append]

/-- The class is read off the path of its file. -/
lemma exists_path?_of_isNested (h : IsNested name) (hextension : '/' ∉ extension.toList) (appDir : Path) :
    ∃ p, path? name appDir extension = some p ∧ ofPath (firstSegment name) appDir extension p = bare name := by
  obtain ⟨middle, short, hsegments, hpath⟩ := path?_of_isNested h hextension appDir
  refine ⟨_, hpath, ?_⟩
  have hjoin : join "\\" (segments name) = bare name := join_pieces (bare name)
  rw [ofPath, List.drop_left, List.dropLast_concat, List.getLastD_concat, withoutEnding_append, ← hsegments, hjoin]

/-- Every class in a namespace has a file, whose path leads back to the class; and classes with the same first segment
have the same file exactly if they are the same but for the backslashes around them. -/
theorem files_lead_back_to_classes (appDir : Path) (extension : String) (hextension : '/' ∉ extension.toList) :
    (∀ name, IsNested name →
      ∃ p, path? name appDir extension = some p ∧ ofPath (firstSegment name) appDir extension p = bare name) ∧
    ∀ name other, IsNested name → IsNested other → firstSegment name = firstSegment other →
      (path? name appDir extension = path? other appDir extension ↔ bare name = bare other) := by
  refine ⟨fun name h => exists_path?_of_isNested h hextension appDir, ?_⟩
  intro name other hname hother hfirst
  constructor
  · intro heq
    obtain ⟨p, hp, hback⟩ := exists_path?_of_isNested hname hextension appDir
    obtain ⟨q, hq, hback'⟩ := exists_path?_of_isNested hother hextension appDir
    obtain rfl : p = q := by
      rw [hp, hq] at heq
      exact Option.some.inj heq
    rw [← hback, ← hback', hfirst]
  · intro hbare
    rw [← path?_bare, hbare, path?_bare]

/-- Two classes of users, one of them with backslashes around it, under an extension with a dot in it. -/
theorem user_is_led_back_to :
    path? "\\App\\Model\\User\\" (.ofString "./src//app/") ".inc.php" =
        some ⟨.relative, ["src", "app", "Model", "User.inc.php"]⟩ ∧
      ofPath "App" (.ofString "./src//app/") ".inc.php" ⟨.relative, ["src", "app", "Model", "User.inc.php"]⟩ =
        "App\\Model\\User" ∧
      path? "\\App\\Model\\User\\" (.ofString "./src//app/") ".inc.php" ≠
        path? "App\\User" (.ofString "./src//app/") ".inc.php" := by
  have huser : IsNested "\\App\\Model\\User\\" := ⟨by decide, by decide⟩
  have hother : IsNested "App\\User" := ⟨by decide, by decide⟩
  obtain ⟨hback, hsame⟩ := files_lead_back_to_classes (.ofString "./src//app/") ".inc.php" (by decide)
  have hpath : path? "\\App\\Model\\User\\" (.ofString "./src//app/") ".inc.php" =
      some ⟨.relative, ["src", "app", "Model", "User.inc.php"]⟩ := by decide
  obtain ⟨p, hp, hclass⟩ := hback _ huser
  obtain rfl := Option.some.inj (hpath.symm.trans hp)
  refine ⟨hpath, hclass, fun heq => ?_⟩
  exact absurd ((hsame _ _ huser hother (by decide)).1 heq) (by decide)

end EntityScaffold.ClassName
