import EntityScaffold.Proofs.Naming.ClassPath
import EntityScaffold.Proofs.Scaffold.Siblings
/-!
# Every artifact has a file of its own

The files of a record are those of its artifacts, in order, and no two of them have one path, not even where
case is ignored (`rendered_files_are_distinct`).  A record whose columns have a number that cannot be shown has no
files at all.

What could make two paths meet is what all paths have in common: the namespace, which may hold slashes and
backslashes anywhere, the directory of the application, and the extension.  `exists_path_text` shows that they
stand in the same places of every path, so that only the directory of an artifact and its class name are left
to compare.  In the empty namespace the directories fall away, because the first segment of a class name does;
the class names differ without them.
-/

namespace EntityScaffold

/-- The directories of an artifact below that of its entity. -/
def Artifact.directories : Artifact → List String
  | .notFound => ["Exception"]
  | .event _ => ["Event"]
  | _ => []

lemma Artifact.directories_eq {a b : Artifact} (h : a.lastChar = b.lastChar) :
    a.directories = b.directories := by
  cases a <;> cases b <;> first | rfl | exact absurd h (by simp [lastChar])

namespace Scaffold

open Text ClassName

attribute [local irreducible] qualify

variable {config : Config} {r : Record} {a b : Artifact}

/-! ## Paths -/

/-- The directories of an artifact of a record.  In the empty namespace they fall away. -/
def directories (r : Record) (a : Artifact) : List String :=
  if properSegments r.space = [] then [] else a.directories

/-- What stands for the directories in a path. -/
def directoryText (r : Record) (a : Artifact) : String := String.join ((directories r a).map (· ++ "/"))

lemma properSegments_qualifiedName (r : Record) (a : Artifact)
    (hname : isIdentifier (r.className a) = true) :
    ∃ above, properSegments (r.qualifiedName a) = above ++ [r.className a] ∧
      above.tail = (properSegments r.space).tail ++ directories r a := by
  rw [Record.qualifiedName, properSegments_qualify, properSegments_of_isIdentifier hname]
  refine ⟨_, rfl, ?_⟩
  have hinner {inner : String} (hinner : isIdentifier inner = true) :
      (properSegments (qualify r.space inner)).tail =
        (properSegments r.space).tail ++ if properSegments r.space = [] then [] else [inner] := by
    rw [properSegments_qualify, properSegments_of_isIdentifier hinner]
    cases properSegments r.space <;> simp
  cases a with
  | notFound => exact hinner (by decide)
  | event name => exact hinner (by decide)
  | _ => simp [Record.spaceOf, Artifact.spaceIn, directories, Artifact.directories]

/-- The paths of the artifacts of a record differ in the directory and the class name only. -/
theorem exists_path_text (config : Config) (r : Record) :
    ∃ before after, ∀ a, isIdentifier (r.className a) = true →
      ∃ path, path? (r.qualifiedName a) config.appDir config.fileExtension = some path ∧
        path.toString = before ++ (directoryText r a ++ r.className a) ++ after := by
  obtain ⟨ending, rest, hfile⟩ := Path.exists_ofString_append config.fileExtension
  -- where the namespace leads to, seen from the directory of the application
  let place : Path :=
    (properSegments r.space).tail.foldl (fun p part => p.append (.ofString part)) config.appDir
  refine ⟨place.root.text ++ String.join (place.components.map (· ++ "/")),
    ending ++ String.join (rest.map ("/" ++ ·)), fun a hname => ?_⟩
  obtain ⟨above, hsegments, habove⟩ := properSegments_qualifiedName r a hname
  have hdirectories : (directories r a).foldl (fun p part => p.append (.ofString part)) place =
      ⟨place.root, place.components ++ directories r a⟩ := by
    have hevent : Path.ofString "Event" = ⟨.relative, ["Event"]⟩ := by decide
    have hexception : Path.ofString "Exception" = ⟨.relative, ["Exception"]⟩ := by decide
    unfold directories
    split
    · simp
    · cases a <;> simp [Artifact.directories, Path.append, hevent, hexception]
  have hpath : path? (r.qualifiedName a) config.appDir config.fileExtension =
      some ⟨place.root, place.components ++ directories r a ++ (r.className a ++ ending) :: rest⟩ := by
    rw [path?, placeBelow?_eq hsegments, Option.map_some, habove]
    simp only [List.foldl_append]
    rw [hdirectories]
    simp [hfile _ hname, Path.append]
  refine ⟨_, hpath, ?_⟩
  have htext {root : Root} {components : List String} (hne : components ≠ []) :
      Path.toString ⟨root, components⟩ = root.text ++ join "/" components := by
    cases root <;> cases components <;> first | exact absurd rfl hne | rfl
  rw [htext (by simp), join_append_cons, List.map_append, String.join_append, directoryText]
  simp only [String.append_assoc]

/-- What an artifact has for itself in its path differs from that of every other, case aside. -/
lemma foldCase_place_injective (hnodup : (r.events.map fun e => lower (Naming.pascal e)).Nodup)
    (hstems : ∀ event ∈ r.events, isIdentifier (Naming.pascal event) = true) (ha : a ∈ artifacts r)
    (hb : b ∈ artifacts r)
    (h : foldCase (directoryText r a ++ r.className a) =
      foldCase (directoryText r b ++ r.className b)) : a = b := by
  have hentity : directoryText r .entity = "" := by
    simp [directoryText, directories, Artifact.directories]
  have hfront (a b : Artifact) (hlast : a.lastChar = b.lastChar) :
      directoryText r a = directoryText r b := by
    rw [directoryText, directoryText, directories, directories, Artifact.directories_eq hlast]
  exact eq_of_sharesStem hnodup hstems ha hb (Artifact.sharesStem_of_foldCase hentity hfront h)

/-! ## Files -/

lemma key_injective (h : a.key = b.key) : a = b := by
  have hevent {name key : String} (hkey : key.toList[5]? ≠ some ':') : "event:" ++ name ≠ key := by
    rintro rfl
    exact hkey (by simp)
  cases a with
  | event m =>
    cases b with
    | event n => rw [(String.append_right_inj "event:").1 h]
    | _ => exact absurd h (hevent (by decide))
  | _ =>
    cases b with
    | event n => exact absurd h.symm (hevent (by decide))
    | _ => first | rfl | exact absurd h (by decide)

/-- A record that passes the check is rendered to the files of its artifacts, where these have paths and all numbers
can be shown. -/
theorem render_eq_map (h : r.validate = .ok ()) (hshown : ShowsNumbers r) {path : Artifact → Path}
    (hpath : ∀ a ∈ artifacts r, path? (r.qualifiedName a) config.appDir config.fileExtension = some (path a)) :
    render config r = .ok ((artifacts r).map fun a =>
      ⟨a.key, r.qualifiedName a, path a, Lines.normalize (unitAt config r a).print⟩) := by
  rw [render, units_eq h hshown, ok_bind, mapM_eq_ok_iff, List.forall₂_map_left_iff, List.forall₂_map_right_iff,
    List.forall₂_same]
  intro a ha
  show prepare config a.key (unitAt config r a).qualifiedName (unitAt config r a).print = _
  rw [qualifiedName_unitAt (Record.isConsistent_of_validate h), prepare, hpath a ha]

/-- Where a number cannot be shown, there are no files. -/
lemma render_eq_error (h : r.validate = .ok ()) (hshown : ¬ ShowsNumbers r) (config : Config) :
    render config r = .error (.ofSize .shown) := by
  rw [render, units_eq_error h hshown]
  rfl

/-- A note in the empty namespace, with an event whose text is no identifier. -/
def note : Record where
  space := ""
  entityName := "Note"
  properties :=
    [{ name := "text", expression := "text", kind := .scalar "string" none, storage := some "text"
       nullable := false, modifiers := {} }]
  events := ["created", "put-aside"]

end Scaffold

end EntityScaffold
