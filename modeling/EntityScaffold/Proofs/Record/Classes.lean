import EntityScaffold.Proofs.Naming.ClassName
import EntityScaffold.Proofs.Text.Case
import EntityScaffold.Record
/-!
# The classes of a record have different names

Every class name of a record is its entity name between a sub-namespace (`Artifact.place`) and an ending, so
two of them can be compared without a look at the entity name, which may be anything.  Classes of one
namespace have different endings; in different namespaces either the last character differs or one name is
longer.  Only events with one stem have one class.

The last characters are small letters, so the same comparison goes through without regard to case, and then
with anything in front of the names that the last character determines (`sharesStem_of_foldCase`).
-/

namespace EntityScaffold

open ClassName

/-! ## Parts of class names -/

namespace Artifact

/-- The namespace of an artifact inside that of its entity. -/
def place : Artifact → String
  | .notFound => "Exception\\"
  | .event _ => "Event\\"
  | _ => ""

/-- The last character of the ending of an artifact. -/
def lastChar : Artifact → Option Char
  | .entity => none
  | .data => some 'a'
  | .factory | .repository | .dataFactory => some 'y'
  | .facade => some 'e'
  | .notFound => some 'n'
  | .event _ => some 't'

lemma getLast?_ending (a : Artifact) : a.ending.toList.getLast? = a.lastChar := by
  cases a with
  | event name => simp [ending, lastChar]
  | _ => rfl

/-- Only the class of the entity is called like the entity. -/
lemma ending_ne_empty {a : Artifact} (h : a ≠ .entity) : a.ending ≠ "" := by
  cases a with
  | entity => exact absurd rfl h
  | event name => exact fun hempty => absurd (String.append_eq_empty_iff.1 hempty).2 (by decide)
  | _ => decide

/-- Where two artifacts of an entity have one class name, they are the same, or events with one stem. -/
inductive SharesClass : Artifact → Artifact → Prop
  | same (a : Artifact) : SharesClass a a
  | event {m n : String} (h : Naming.pascal m = Naming.pascal n) : SharesClass (.event m) (.event n)

variable {a b : Artifact} {entityName : String}

/-- In one namespace, endings tell artifacts apart. -/
lemma sharesClass_of_ending (hplace : a.place = b.place) (h : a.ending = b.ending) :
    SharesClass a b := by
  cases a with
  | event m =>
    cases b with
    | event n => exact .event ((String.append_left_inj "Event").1 h)
    | _ => simp [place] at hplace
  | _ =>
    cases b with
    | event n => simp [place] at hplace
    | _ => first | exact .same _ | simp [ending] at h

/-- An artifact that is not the entity gives its class name a last character of its own. -/
lemma lastChar_eq_of_className (ha : a ≠ .entity) (hb : b ≠ .entity)
    (h : a.place ++ (entityName ++ a.ending) = b.place ++ (entityName ++ b.ending)) :
    a.lastChar = b.lastChar := by
  have hsome {c : Artifact} (hc : c ≠ .entity) : ∃ last, c.lastChar = some last := by
    cases c <;> first | exact ⟨_, rfl⟩ | exact absurd rfl hc
  have hlast {c : Artifact} (hc : c ≠ .entity) :
      (c.place ++ (entityName ++ c.ending)).toList.getLast? = c.lastChar := by
    obtain ⟨last, hc⟩ := hsome hc
    simp [List.getLast?_append, getLast?_ending, hc]
  rw [← hlast ha, ← hlast hb, h]

lemma place_eq_empty_of_className (h : a.place ++ (entityName ++ a.ending) = entityName) :
    a.place = "" := by
  have hlength := congrArg String.length h
  simp only [String.length_append] at hlength
  rw [← String.length_eq_zero_iff]
  omega

/-- Class names are equal in one namespace only. -/
lemma place_eq_of_className (h : a.place ++ (entityName ++ a.ending) =
    b.place ++ (entityName ++ b.ending)) : a.place = b.place := by
  by_cases ha : a = .entity
  · subst ha
    have hb : b.place ++ (entityName ++ b.ending) = entityName := by
      rw [← h]
      simp [place, ending]
    rw [place_eq_empty_of_className hb]
    rfl
  · by_cases hb : b = .entity
    · subst hb
      have ha : a.place ++ (entityName ++ a.ending) = entityName := by
        rw [h]
        simp [place, ending]
      rw [place_eq_empty_of_className ha]
      rfl
    · have hlast := lastChar_eq_of_className ha hb h
      cases a <;> cases b <;> first | rfl | simp [lastChar] at hlast

lemma sharesClass_of_className (h : a.place ++ (entityName ++ a.ending) =
    b.place ++ (entityName ++ b.ending)) : SharesClass a b := by
  have hplace := place_eq_of_className h
  rw [hplace] at h
  exact sharesClass_of_ending hplace
    ((String.append_right_inj _).1 ((String.append_right_inj _).1 h))

end Artifact

/-! ## Class names without regard to case -/

namespace Artifact

open Text

/-- Where the class names of two artifacts of an entity differ by case at most, they are the same artifact,
or events whose stems differ by case at most. -/
inductive SharesStem : Artifact → Artifact → Prop
  | same (a : Artifact) : SharesStem a a
  | event {m n : String} (h : foldCase (Naming.pascal m) = foldCase (Naming.pascal n)) :
    SharesStem (.event m) (.event n)

variable {a b : Artifact} {entityName : String} {front : Artifact → String}

lemma getLast?_foldCase_ending (a : Artifact) : (foldCase a.ending).toList.getLast? = a.lastChar := by
  have hsmall : a.lastChar.map asciiLower = a.lastChar := by
    cases a <;> rfl
  rw [foldCase, toList_through, List.getLast?_map, getLast?_ending, hsmall]

/-- Where last characters agree, endings tell artifacts apart, without regard to case as well. -/
lemma sharesStem_of_ending (hlast : a.lastChar = b.lastChar)
    (h : foldCase a.ending = foldCase b.ending) : SharesStem a b := by
  cases a with
  | event m =>
    cases b with
    | event n =>
      refine .event ((String.append_left_inj (foldCase "Event")).1 ?_)
      simpa only [ending, foldCase_append] using h
    | _ => simp [lastChar] at hlast
  | _ =>
    cases b with
    | event n => simp [lastChar] at hlast
    | _ => first | exact .same _ | exact absurd hlast (by decide) | exact absurd h (by decide)

/-- Whatever is put in front of the class names, as long as the last character determines it and the name of
the entity has nothing in front. -/
theorem sharesStem_of_foldCase (hentity : front .entity = "")
    (hfront : ∀ a b : Artifact, a.lastChar = b.lastChar → front a = front b)
    (h : foldCase (front a ++ (entityName ++ a.ending)) =
      foldCase (front b ++ (entityName ++ b.ending))) : SharesStem a b := by
  have hending {c : Artifact} (hc : c ≠ .entity) : 0 < c.ending.length :=
    Nat.pos_of_ne_zero fun hzero => ending_ne_empty hc (String.length_eq_zero_iff.1 hzero)
  have hempty : "".length = 0 := rfl
  have hplain : Artifact.entity.ending.length = 0 := rfl
  have hlength := congrArg String.length h
  simp only [length_foldCase, String.length_append] at hlength
  have hlast {c : Artifact} (hc : c ≠ .entity) :
      (foldCase (front c ++ (entityName ++ c.ending))).toList.getLast? = c.lastChar := by
    have hne : c.lastChar ≠ none := by
      cases c <;> first | exact absurd rfl hc | simp [lastChar]
    obtain ⟨last, hc⟩ := Option.ne_none_iff_exists'.1 hne
    simp only [foldCase_append, String.toList_append, List.getLast?_append, getLast?_foldCase_ending, hc,
      Option.some_or]
  by_cases ha : a = .entity
  · by_cases hb : b = .entity
    · rw [ha, hb]
      exact .same _
    · have hpositive := hending hb
      rw [ha, hentity, hplain, hempty] at hlength
      omega
  · by_cases hb : b = .entity
    · have hpositive := hending ha
      rw [hb, hentity, hplain, hempty] at hlength
      omega
    · have hchar : a.lastChar = b.lastChar := by rw [← hlast ha, ← hlast hb, h]
      rw [hfront a b hchar] at h
      simp only [foldCase_append] at h
      exact sharesStem_of_ending hchar ((String.append_right_inj _).1 ((String.append_right_inj _).1 h))

/-- What the class names of all artifacts of one kind end with. -/
def tail : Artifact → String
  | .entity => ""
  | .data => "Data"
  | .factory | .dataFactory => "Factory"
  | .repository => "Repository"
  | .facade => "Facade"
  | .notFound => "Exception"
  | .event _ => "Event"

lemma exists_ending (a : Artifact) : ∃ front, a.ending = front ++ a.tail := by
  cases a with
  | event name => exact ⟨Naming.pascal name, rfl⟩
  | dataFactory => exact ⟨"Data", rfl⟩
  | notFound => exact ⟨"NotFound", rfl⟩
  | _ => exact ⟨"", rfl⟩

/-- A name that is a class name of an artifact but for case ends like one. -/
theorem tail_suffix {name : String} (h : foldCase name = foldCase (entityName ++ a.ending)) :
    (foldCase a.tail).toList <:+ (foldCase name).toList := by
  obtain ⟨front, hending⟩ := a.exists_ending
  rw [h, hending, ← String.append_assoc, foldCase_append, String.toList_append]
  exact List.suffix_append _ _

end Artifact

/-! ## Qualified names -/

namespace Record

-- Names of classes are compared by the laws of `qualify`, and never by what a namespace reduces to.
attribute [local irreducible] qualify

variable {r : Record} {a b : Artifact}

lemma qualifiedName_eq (r : Record) (a : Artifact) :
    r.qualifiedName a = qualify r.space (a.place ++ (r.entityName ++ a.ending)) := by
  have hinner {inner : String} (hfirst : ∀ h : inner.toList ≠ [], inner.toList.head h ≠ '\\')
      (hlast : ∀ h : inner.toList ≠ [], inner.toList.getLast h ≠ '\\') (hne : inner ≠ "") :
      qualify (qualify r.space inner) (r.className a) =
        qualify r.space (inner ++ "\\" ++ (r.entityName ++ a.ending)) :=
    qualify_qualify (bare_qualify hfirst hlast hne) hne _
  cases a with
  | notFound => exact hinner (by decide) (by decide) (by decide)
  | event name => exact hinner (by decide) (by decide) (by decide)
  | _ => simp [qualifiedName, spaceOf, Artifact.spaceIn, className, Artifact.place]

/-- A class outside the namespace of its entity has a name. -/
theorem qualifiedName_ne_empty (h : a.place ≠ "") : r.qualifiedName a ≠ "" := by
  have hname : a.place ++ (r.entityName ++ a.ending) ≠ "" := by
    intro hempty
    exact h (String.append_eq_empty_iff.1 hempty).1
  rw [qualifiedName_eq]
  exact qualify_ne_empty hname

/-- Classes of artifacts have different names, but for events with one stem. -/
lemma sharesClass_of_qualifiedName (h : r.qualifiedName a = r.qualifiedName b) :
    a.SharesClass b := by
  rw [qualifiedName_eq, qualifiedName_eq] at h
  exact Artifact.sharesClass_of_className (qualify_injective h)

end Record

end EntityScaffold
