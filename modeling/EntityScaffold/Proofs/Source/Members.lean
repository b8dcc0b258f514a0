import Mathlib.Data.List.Nodup
import EntityScaffold.Proofs.Source.Layout
import EntityScaffold.Proofs.Text.Fragments
/-!
# What is printed around a member

The text of a unit is cut in three at the default of a member: what is printed before it, the default as it stands, and
what is printed from the semicolon on (`print_eq_around`).  The text is brought into normal form as a whole, and the
default shares its first line with the name of the member and its last one with the semicolon.  So each of the three
has its normal form for itself, if the default begins and ends with something that can be seen
(`normalize_print_eq_around`), and what becomes of the default depends on nothing else in the unit.
-/

namespace EntityScaffold.SourceUnit

open Source Text

variable {u : SourceUnit} {m : Member} {earlier later : List Member} {literal : String}

/-- The line of a member up to its default. -/
def memberStart (u : SourceUnit) (m : Member) : String :=
  margin ++ m.visibility.keyword ++ " " ++ (if hasType m.type then u.printType m.type m.nullable ++ " " else "") ++
    ("$" ++ m.name ++ " = ")

/-- The text of a unit before the default of a member, which stands behind the earlier members. -/
def textBefore (u : SourceUnit) (earlier : List Member) (m : Member) : String :=
  textOf (u.topLines ++ "" :: (commentsBefore u.declaration.comments "" ++ [u.header, "\x7b"] ++
    ((if u.declaration.traits.isEmpty then [] else [u.traitLines]) ++ earlier.map u.memberLines).flatMap (· ++ [""]) ++
      commentsBefore m.comments margin)) ++ u.memberStart m

/-- The text of a unit behind the line of a member, which stands before the later members. -/
def textAfter (u : SourceUnit) (later : List Member) : String :=
  textOf ((later.map u.memberLines ++ u.declaration.methods.map u.methodLines).flatMap ("" :: ·) ++ ["\x7d"])

/-- A text stands in the place of the default of a member, in the text of a unit that has been brought into normal
form. -/
def IsInitialiser (u : SourceUnit) (name text content : String) : Prop :=
  ∃ earlier m later, u.declaration.members = earlier ++ m :: later ∧ m.name = name ∧
    content = Lines.settled (u.textBefore earlier m) ++ text ++ Lines.normalize (";\n" ++ u.textAfter later)

/-! ## Printing -/

lemma separate_append_cons (before after : List (List String)) (block : List String) :
    separate (before ++ block :: after) = before.flatMap (· ++ [""]) ++ (block ++ after.flatMap ("" :: ·)) := by
  induction before with
  | nil =>
    induction after generalizing block with
    | nil => simp [separate]
    | cons next more ih =>
      have hnext : separate (next :: more) = next ++ more.flatMap ("" :: ·) := ih next
      rw [List.nil_append, separate, hnext]
      · simp
      · exact nofun
  | cons first rest ih =>
    obtain ⟨next, more, hmore⟩ := List.exists_cons_of_ne_nil (l := rest ++ block :: after) (by simp)
    rw [List.cons_append, hmore, separate, ← hmore, ih]
    · simp
    · exact nofun

/-- Around the default of a member a unit prints what is before and what is behind it. -/
theorem print_eq_around (hmembers : u.declaration.members = earlier ++ m :: later)
    (hdefault : m.default = some literal) :
    u.print = u.textBefore earlier m ++ (literal ++ (";\n" ++ u.textAfter later)) := by
  have hline : u.memberLines m = commentsBefore m.comments margin ++ [u.memberStart m ++ literal ++ ";"] := by
    rw [memberLines, hdefault]
    simp [memberStart, defaultPart, String.append_assoc]
  have hblocks : u.blocks = (if u.declaration.traits.isEmpty then [] else [u.traitLines]) ++
      earlier.map u.memberLines ++
        u.memberLines m :: (later.map u.memberLines ++ u.declaration.methods.map u.methodLines) := by
    rw [blocks, hmembers]
    simp
  have hend : ";\n" = ";" ++ "\n" := rfl
  have hprint : u.print = textOf u.lines := rfl
  rw [hprint, lines_eq, classLines, hblocks, separate_append_cons, hline, textBefore, textAfter, hend]
  simp only [List.append_assoc, List.cons_append, List.nil_append, List.flatMap_append, textOf_append, textOf_cons,
    String.append_assoc]

/-- The line of a member up to its default ends with the name of the member. -/
lemma exists_textBefore (u : SourceUnit) (earlier : List Member) (m : Member) :
    ∃ front, u.textBefore earlier m = front ++ ("$" ++ m.name ++ " = ") := by
  rw [textBefore, memberStart, ← String.append_assoc]
  exact ⟨_, rfl⟩

lemma isSolid_ofName (h : IsOneLine m.name) : IsSolid ("$" ++ m.name ++ " = ") :=
  .append_right (.append_right (by decide) h) (by decide)

/-- In the normal form of a unit, too, the name of a member stands before its default. -/
lemma exists_settled_textBefore (h : IsOneLine m.name) (u : SourceUnit) (earlier : List Member) :
    ∃ start, Lines.settled (u.textBefore earlier m) = start ++ ("$" ++ m.name ++ " = ") := by
  obtain ⟨front, hfront⟩ := exists_textBefore u earlier m
  rw [hfront]
  exact Lines.exists_settled_append (isSolid_ofName h) front

/-- ... and the semicolon stands behind it. -/
lemma exists_normalize_semicolon (s : String) : ∃ rest, Lines.normalize (";\n" ++ s) = ";\n" ++ rest := by
  have hchars (s : String) : (";\n" ++ s).toList = ';' :: '\n' :: s.toList := String.toList_append
  let rest := Lines.print (Lines.squeezeFrom false (Lines.cut s.toList))
  refine ⟨String.ofList rest, ?_⟩
  rw [← String.toList_inj, Lines.normalize, toList_through, hchars, hchars, String.toList_ofList (l := rest)]
  exact Lines.print_cons_eq [';'] _

/-- What is printed before a default, the default and what is printed behind it have their normal forms one after the
other. -/
theorem normalize_print_eq_around (hmembers : u.declaration.members = earlier ++ m :: later)
    (hdefault : m.default = some literal) (hname : IsOneLine m.name) (hbegins : Lines.BeginsFull literal.toList)
    (hends : Lines.EndsFull literal.toList) :
    Lines.normalize u.print = Lines.settled (u.textBefore earlier m) ++ Lines.settled literal ++
      Lines.normalize (";\n" ++ u.textAfter later) := by
  have hsemicolon : Lines.BeginsFull (";\n" ++ u.textAfter later).toList := by
    rw [String.toList_append]
    exact Lines.beginsFull_cons (by decide) _
  have hwhole : Lines.BeginsFull (literal ++ (";\n" ++ u.textAfter later)).toList := by
    rw [String.toList_append]
    refine hbegins.append_right ?_
    rw [String.toList_append]
    exact nofun
  obtain ⟨front, hfront⟩ := exists_textBefore u earlier m
  have hbefore : Lines.EndsFull (u.textBefore earlier m).toList := by
    rw [hfront, String.toList_append]
    refine (Lines.endsFull_of_isSolid (isSolid_ofName hname)).append_left ?_ _
    rw [String.toList_append, String.toList_append]
    exact nofun
  rw [print_eq_around hmembers hdefault, Lines.normalize_append hbefore hwhole,
    Lines.normalize_append hends hsemicolon, String.append_assoc]

/-- In a class whose members have different names there is one place for the default of a member, and one text in
it. -/
lemma isInitialiser_iff {initialiser content : String} (hnodup : (u.declaration.members.map (·.name)).Nodup)
    (hmembers : u.declaration.members = earlier ++ m :: later)
    (hcontent : content = Lines.settled (u.textBefore earlier m) ++ initialiser ++
      Lines.normalize (";\n" ++ u.textAfter later)) (text : String) :
    u.IsInitialiser m.name text content ↔ text = initialiser := by
  constructor
  · rintro ⟨earlier', m', later', hmembers', hname, hcontent'⟩
    have hmem {front back : List Member} {m : Member} (h : u.declaration.members = front ++ m :: back) :
        m ∈ u.declaration.members := h ▸ List.mem_append_right front List.mem_cons_self
    -- Members have distinct names, so they can be split at this one in one way, and then both ends cancel.
    obtain rfl : m' = m := List.inj_on_of_nodup_map hnodup (hmem hmembers') (hmem hmembers) hname
    have hdistinct := List.nodup_middle.1 (hmembers ▸ hnodup.of_map)
    obtain ⟨hearlier, hlater⟩ := not_or.1 (List.mem_append.not.1 (List.nodup_cons.1 hdistinct).1)
    obtain ⟨rfl, -, rfl⟩ := (List.append_cons_inj_of_notMem hearlier hlater).1 (hmembers.symm.trans hmembers')
    rw [hcontent] at hcontent'
    exact ((String.append_right_inj _).1 ((String.append_left_inj _).1 hcontent')).symm
  · rintro rfl
    exact ⟨earlier, m, later, hmembers, rfl, hcontent⟩

end EntityScaffold.SourceUnit
