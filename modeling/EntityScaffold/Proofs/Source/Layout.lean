import EntityScaffold.Proofs.Source.Import
import EntityScaffold.Proofs.Text.OneLine
import EntityScaffold.Source.Printer
/-!
# Units print to normal texts

The lines of a printed unit are put together from groups of lines that are tidy on their own: the imports, a
comment block with what it belongs to, the members with an empty line between them.  What can spoil this comes
from the unit: a line break in one of its texts, or a method body with an empty line too many.  A unit without
either is `SourceUnit.IsTidy`, and its text is in normal form (`SourceUnit.IsTidy.printsNormally`).
-/

namespace EntityScaffold

open Text Source

namespace Source

/-! ## Texts of a unit -/

namespace Expr

mutual

/-- The texts from which an expression is written. -/
def texts : Expr → List String
  | .var name => [name]
  | .member object name => object.texts ++ [name]
  | .item array key => array.texts ++ [key]
  | .call object method args => object.texts ++ method :: textsOfArgs args
  | .staticCall className method => [className, method]
  | .create className args => className :: textsOfArgs args
  | .classOf className => [className]
  | .orElse value fallback => value.texts ++ [fallback]
  | .text content => [content]

/-- The texts from which the arguments of a call are written. -/
def textsOfArgs : List Expr → List String
  | [] => []
  | e :: rest => e.texts ++ textsOfArgs rest

end

/-- The texts of an expression have no line breaks. -/
def IsOneLine (e : Expr) : Prop := ∀ s ∈ e.texts, Text.IsOneLine s

/-- The texts of arguments have no line breaks. -/
def AreOneLine (args : List Expr) : Prop := ∀ s ∈ textsOfArgs args, Text.IsOneLine s

section

variable {object value e : Expr} {args : List Expr} {name key method fallback content : String}

@[simp] lemma isOneLine_var : (var name).IsOneLine ↔ Text.IsOneLine name := List.forall_mem_singleton

@[simp] lemma isOneLine_member :
    (member object name).IsOneLine ↔ object.IsOneLine ∧ Text.IsOneLine name := by
  simp only [IsOneLine, texts, List.forall_mem_append, List.forall_mem_singleton]

@[simp] lemma isOneLine_item : (item object key).IsOneLine ↔ object.IsOneLine ∧ Text.IsOneLine key := by
  simp only [IsOneLine, texts, List.forall_mem_append, List.forall_mem_singleton]

@[simp] lemma isOneLine_call : (call object method args).IsOneLine ↔
    object.IsOneLine ∧ Text.IsOneLine method ∧ AreOneLine args := by
  simp only [IsOneLine, AreOneLine, texts, List.forall_mem_append, List.forall_mem_cons]

@[simp] lemma isOneLine_staticCall :
    (staticCall name method).IsOneLine ↔ Text.IsOneLine name ∧ Text.IsOneLine method := by
  simp [IsOneLine, texts]

@[simp] lemma isOneLine_create :
    (create name args).IsOneLine ↔ Text.IsOneLine name ∧ AreOneLine args := by
  simp only [IsOneLine, AreOneLine, texts, List.forall_mem_cons]

@[simp] lemma isOneLine_classOf : (classOf name).IsOneLine ↔ Text.IsOneLine name := List.forall_mem_singleton

@[simp] lemma isOneLine_orElse :
    (orElse value fallback).IsOneLine ↔ value.IsOneLine ∧ Text.IsOneLine fallback := by
  simp only [IsOneLine, texts, List.forall_mem_append, List.forall_mem_singleton]

@[simp] lemma isOneLine_text : (text content).IsOneLine ↔ Text.IsOneLine content := List.forall_mem_singleton

@[simp] lemma areOneLine_nil : AreOneLine [] := nofun

@[simp] lemma areOneLine_cons : AreOneLine (e :: args) ↔ e.IsOneLine ∧ AreOneLine args := by
  simp only [IsOneLine, AreOneLine, textsOfArgs, List.forall_mem_append]

end

mutual

lemma isOneLine_print (e : Expr) (h : e.IsOneLine) : Text.IsOneLine e.print := by
  cases e with
  | var name => simp_all +decide [print]
  | member object name =>
    rw [isOneLine_member] at h
    have hobject := isOneLine_print object h.1
    simp_all +decide [print]
  | item array key =>
    rw [isOneLine_item] at h
    have harray := isOneLine_print array h.1
    simp_all +decide [print]
  | call object method args =>
    rw [isOneLine_call] at h
    have hobject := isOneLine_print object h.1
    have hargs := isOneLine_printArgs args h.2.2
    simp_all +decide [print]
  | staticCall className method => simp_all +decide [print]
  | create className args =>
    rw [isOneLine_create] at h
    have hargs := isOneLine_printArgs args h.2
    simp_all +decide [print]
  | classOf className => simp_all +decide [print]
  | orElse value fallback =>
    rw [isOneLine_orElse] at h
    have hvalue := isOneLine_print value h.1
    simp_all +decide [print]
  | text content => simp_all +decide [print]

lemma isOneLine_printArgs (args : List Expr) (h : AreOneLine args) : Text.IsOneLine (printArgs args) := by
  cases args with
  | nil => exact nofun
  | cons e rest =>
    rw [areOneLine_cons] at h
    have he := isOneLine_print e h.1
    have hrest := isOneLine_printArgs rest h.2
    cases rest with
    | nil => exact he
    | cons second rest => simp_all +decide [printArgs]

end

end Expr

namespace Statement

/-- The lines of a statement are spoilt by nothing: something is written for it, and without a line break. -/
def IsTidy : Statement → Prop
  | .assign target value => target.IsOneLine ∧ value.IsOneLine
  | .run e | .give e => e.IsOneLine
  | .note className variableName => IsOneLine className ∧ IsOneLine variableName
  | .find into finder column parameter =>
    (∀ variableName ∈ into, IsOneLine variableName) ∧ IsOneLine finder ∧ IsOneLine column ∧ IsOneLine parameter
  | .throwIfNull variableName exceptionClass => IsOneLine variableName ∧ IsOneLine exceptionClass
  | .blank => False
  | .line text => IsSolid text

end Statement

def Parameter.texts (p : Parameter) : List String := p.name :: (p.type.toList ++ p.default.toList)

def Member.texts (m : Member) : List String :=
  m.name :: (m.type.toList ++ m.default.toList ++ m.comments)

/-- The texts of a method but for its body. -/
def Method.texts (m : Method) : List String :=
  m.name :: (m.parameters.flatMap Parameter.texts ++ m.returnType.toList ++ m.comments)

/-- The lines of a method are spoilt by nothing; its body may be empty. -/
structure Method.IsTidy (m : Method) : Prop where
  oneLine : ∀ s ∈ m.texts, IsOneLine s
  spaced : m.body = [] ∨ IsSpaced .blank Statement.IsTidy m.body

lemma Method.IsTidy.of_parts {m : Method} (hname : IsOneLine m.name)
    (hparameters : ∀ p ∈ m.parameters, ∀ s ∈ p.texts, IsOneLine s)
    (htype : ∀ s ∈ m.returnType.toList, IsOneLine s) (hcomments : ∀ line ∈ m.comments, IsOneLine line)
    (hspaced : m.body = [] ∨ IsSpaced .blank Statement.IsTidy m.body) : m.IsTidy := by
  refine ⟨?_, hspaced⟩
  simp only [Method.texts, List.forall_mem_cons, List.forall_mem_append, List.forall_mem_flatMap]
  exact ⟨hname, ⟨hparameters, htype⟩, hcomments⟩

/-- A body without empty lines. -/
lemma spaced_of_forall {body : List Statement} (h : ∀ s ∈ body, s.IsTidy) :
    body = [] ∨ IsSpaced .blank Statement.IsTidy body := by
  by_cases hbody : body = []
  · exact .inl hbody
  · exact .inr (.of_forall hbody h)

end Source

namespace SourceUnit

variable {u : SourceUnit} {lines : List String}

/-- The lines of a unit are spoilt by nothing. -/
structure IsTidy (u : SourceUnit) : Prop where
  space : IsOneLine u.space
  uses : ∀ entry ∈ u.uses, IsOneLine entry
  name : IsOneLine u.declaration.name
  parent : ∀ type ∈ u.declaration.parent.toList, IsOneLine type
  interfaces : ∀ type ∈ u.declaration.interfaces, IsOneLine type
  traits : ∀ type ∈ u.declaration.traits, IsOneLine type
  comments : ∀ line ∈ u.declaration.comments, IsOneLine line
  members : ∀ m ∈ u.declaration.members, ∀ s ∈ m.texts, IsOneLine s
  methods : ∀ m ∈ u.declaration.methods, m.IsTidy

/-- The text of a unit is in blank-line normal form, with the usual opening, and a brace at its end. -/
structure PrintsNormally (u : SourceUnit) : Prop where
  normal : Lines.normalize u.print = u.print
  opening : ∃ rest, u.print = "<?php\n\ndeclare(strict_types=1);\n\nnamespace " ++ rest
  closing : ∃ before, u.print = before ++ "\x7d\n"
  loneGaps : Lines.HasLoneGaps u.print

/-! ## Parts of lines -/

lemma isOneLine_printType {type : Option String} (huses : ∀ entry ∈ u.uses, IsOneLine entry)
    (htype : ∀ s ∈ type.toList, IsOneLine s) (nullable : Bool) : IsOneLine (u.printType type nullable) := by
  have hown : ∀ c ∈ typeChars, c ≠ '\n' ∧ c ≠ '\r' := by decide
  intro c hc
  obtain hc | ⟨entry, hentry, hc⟩ | ⟨t, ht, hc⟩ := mem_printType hc
  · exact hown c hc
  · exact huses entry hentry c hc
  · exact htype t (Option.mem_toList.2 ht) c hc

lemma isOneLine_importLines (huses : ∀ entry ∈ u.uses, IsOneLine entry) :
    ∀ line ∈ u.importLines, IsOneLine line := by
  intro line hline
  obtain ⟨entry, hentry, -, rfl⟩ := mem_importLines_iff.1 hline
  exact Import.isOneLine_printed (huses entry hentry)

lemma isOneLine_keyword (v : Visibility) : IsOneLine v.keyword := by
  cases v <;> decide

lemma isOneLine_defaultPart {default : Option String} (h : ∀ s ∈ default.toList, IsOneLine s) :
    IsOneLine (defaultPart default) := by
  cases default with
  | none => exact nofun
  | some value => exact isOneLine_append.2 ⟨by decide, h value List.mem_cons_self⟩

/-! ## Groups of lines -/

lemma isSolid_commentLine {line : String} {margin : String} (hmargin : IsOneLine margin)
    (hline : IsOneLine line) : IsSolid (trimEnd (margin ++ " * " ++ line)) := by
  have hwhole : IsOneLine (margin ++ " * " ++ line) := by
    simp only [isOneLine_append]
    exact ⟨⟨hmargin, by decide⟩, hline⟩
  have hstar : '*' ∈ (margin ++ " * " ++ line).toList := by simp
  refine ⟨hwhole.of_subset ?_, '*', ?_, by decide⟩
  · rw [trimEnd, toList_through]
    exact dropEndWhile_subset isBlank _
  · rw [trimEnd, toList_through]
    exact mem_dropEndWhile hstar (by decide)

/-- A comment block stands right before the lines it belongs to. -/
lemma isTidy_commentsBefore_append {comments : List String} {margin : String} (hmargin : IsOneLine margin)
    (hcomments : ∀ line ∈ comments, IsOneLine line) (hlines : Text.IsTidy lines) :
    Text.IsTidy (commentsBefore comments margin ++ lines) := by
  by_cases hempty : comments.isEmpty = true
  · rw [commentsBefore, if_pos hempty]
    exact hlines
  · rw [commentsBefore, if_neg hempty]
    refine .append (.of_forall (List.cons_ne_nil _ _) ?_) hlines
    simp only [commentLines, List.cons_append, List.forall_mem_cons, List.forall_mem_append,
      List.forall_mem_map]
    exact ⟨.append_left hmargin (by decide), fun line hline => isSolid_commentLine hmargin (hcomments line hline),
      .append_left hmargin (by decide), nofun⟩

lemma isTidy_separate {blocks : List (List String)} (hne : blocks ≠ [])
    (h : ∀ block ∈ blocks, Text.IsTidy block) : Text.IsTidy (separate blocks) := by
  induction blocks with
  | nil => exact absurd rfl hne
  | cons block rest ih =>
    obtain ⟨hblock, hrest⟩ := List.forall_mem_cons.1 h
    cases rest with
    | nil => exact hblock
    | cons second rest => exact hblock.append_gap (ih (List.cons_ne_nil second rest) hrest)

/-! ## Bodies of methods -/

lemma isSolid_bodyLine {line : String} (h : IsSolid line) : IsSolid (bodyLine line) := by
  obtain ⟨c, hc, hblank⟩ := h.2
  have hwritten : isBlankText line = false := List.all_eq_false.2 ⟨c, hc, by simp [hblank]⟩
  rw [bodyLine, hwritten]
  exact .append_left (by decide) h

lemma isTidy_statement {s : Statement} (hs : s.IsTidy) : Text.IsTidy (s.lines.map bodyLine) := by
  have hlast : IsSolid ";" := by decide
  have hone {line : String} (hline : IsSolid line) : Text.IsTidy [bodyLine line] := .last (isSolid_bodyLine hline)
  cases s with
  | assign target value =>
    refine hone (.append_left ?_ hlast)
    simp only [isOneLine_append]
    exact ⟨⟨Expr.isOneLine_print target hs.1, by decide⟩, Expr.isOneLine_print value hs.2⟩
  | run e => exact hone (.append_left (Expr.isOneLine_print e hs) hlast)
  | give e =>
    exact hone (.append_left (isOneLine_append.2 ⟨by decide, Expr.isOneLine_print e hs⟩) hlast)
  | note className variableName =>
    refine hone (.append_left ?_ (by decide))
    simp only [isOneLine_append]
    exact ⟨⟨⟨by decide, hs.1⟩, by decide⟩, hs.2⟩
  | find into finder column parameter =>
    obtain ⟨hinto, hfinder, hcolumn, hparameter⟩ := hs
    have hcriterion : IsSolid ("\t'" ++ column ++ "' => $" ++ parameter ++ ",") := by
      refine .append_left ?_ (by decide)
      simp only [isOneLine_append]
      exact ⟨⟨⟨by decide, hcolumn⟩, by decide⟩, hparameter⟩
    have hlines {receiver : String} (hreceiver : IsOneLine receiver) :
        Text.IsTidy [bodyLine (receiver ++ "$this->getRepository()->" ++ finder ++ "(["),
          bodyLine ("\t'" ++ column ++ "' => $" ++ parameter ++ ","), bodyLine "]);"] := by
      have hquery : IsSolid (receiver ++ "$this->getRepository()->" ++ finder ++ "([") := by
        refine .append_left ?_ (by decide)
        simp only [isOneLine_append]
        exact ⟨⟨hreceiver, by decide⟩, hfinder⟩
      exact .next (isSolid_bodyLine hquery) (.next (isSolid_bodyLine hcriterion) (hone (by decide)))
    cases into with
    | none => exact hlines (by decide)
    | some variableName =>
      refine hlines ?_
      simp only [isOneLine_append]
      exact ⟨⟨by decide, hinto variableName rfl⟩, by decide⟩
  | throwIfNull variableName exceptionClass =>
    have hcondition : IsSolid ("if ($" ++ variableName ++ " === null) \x7b") :=
      .append_left (isOneLine_append.2 ⟨by decide, hs.1⟩) (by decide)
    have hthrow : IsSolid ("\tthrow new " ++ exceptionClass ++ "();") :=
      .append_left (isOneLine_append.2 ⟨by decide, hs.2⟩) (by decide)
    exact .next (isSolid_bodyLine hcondition) (.next (isSolid_bodyLine hthrow) (hone (by decide)))
  | blank => exact absurd hs id
  | line text => exact hone hs

lemma isTidy_body {body : List Statement} (h : IsSpaced .blank Statement.IsTidy body) :
    Text.IsTidy ((bodyLines body).map bodyLine) := by
  rw [bodyLines, List.map_flatMap]
  exact h.flatMap rfl fun s _ hs => isTidy_statement hs

/-! ## Members of a class -/

variable (huses : ∀ entry ∈ u.uses, IsOneLine entry)

include huses

lemma isOneLine_printParameter {p : Parameter} (h : ∀ s ∈ p.texts, IsOneLine s) :
    IsOneLine (u.printParameter p) := by
  simp only [Parameter.texts, List.forall_mem_cons, List.forall_mem_append] at h
  obtain ⟨hname, htype, hdefault⟩ := h
  have hpromoted : IsOneLine (p.promoted.elim "" (·.keyword ++ " ")) := by
    cases p.promoted with
    | none => decide
    | some visibility => exact isOneLine_append.2 ⟨isOneLine_keyword visibility, by decide⟩
  simp only [printParameter, isOneLine_append]
  exact ⟨⟨⟨⟨hpromoted, .ite (isOneLine_append.2 ⟨isOneLine_printType huses htype _, by decide⟩) (by decide)⟩,
    by decide⟩, hname⟩, isOneLine_defaultPart hdefault⟩

lemma isTidy_memberLines {m : Member} (h : ∀ s ∈ m.texts, IsOneLine s) : Text.IsTidy (u.memberLines m) := by
  simp only [Member.texts, List.forall_mem_cons, List.forall_mem_append] at h
  obtain ⟨hname, ⟨htype, hdefault⟩, hcomments⟩ := h
  refine isTidy_commentsBefore_append (by decide) hcomments (.last (.append_left ?_ (by decide)))
  simp only [isOneLine_append]
  exact ⟨⟨⟨⟨⟨⟨by decide, isOneLine_keyword _⟩, by decide⟩,
    .ite (isOneLine_append.2 ⟨isOneLine_printType huses htype _, by decide⟩) (by decide)⟩,
    by decide⟩, hname⟩, isOneLine_defaultPart hdefault⟩

lemma isTidy_methodLines {m : Method} (h : m.IsTidy) : Text.IsTidy (u.methodLines m) := by
  have htexts := h.oneLine
  simp only [Method.texts, List.forall_mem_cons, List.forall_mem_append] at htexts
  obtain ⟨hname, ⟨hparameters, htype⟩, hcomments⟩ := htexts
  have hparameter : ∀ p ∈ m.parameters, IsOneLine (u.printParameter p) := fun p hp =>
    isOneLine_printParameter huses fun s hs => hparameters s (List.mem_flatMap.2 ⟨p, hp, hs⟩)
  have hopening : IsSolid (margin ++ m.visibility.keyword ++ (if m.isStatic then " static" else "") ++
      " function " ++ m.name ++ "(") := by
    refine .append_left ?_ (by decide)
    simp only [isOneLine_append]
    exact ⟨⟨⟨⟨by decide, isOneLine_keyword _⟩, .ite (by decide) (by decide)⟩, by decide⟩, hname⟩
  have hresult : IsOneLine (if hasType m.returnType then ": " ++ u.printType m.returnType m.returnNullable
      else "") :=
    .ite (isOneLine_append.2 ⟨by decide, isOneLine_printType huses htype _⟩) (by decide)
  have hhead : Text.IsTidy (u.methodHead m) := by
    simp only [methodHead]
    split
    · refine .of_forall (List.cons_ne_nil _ _) ?_
      simp only [List.cons_append, List.forall_mem_cons, List.forall_mem_append, List.forall_mem_map]
      exact ⟨hopening, fun p hp => .append_left (isOneLine_append.2 ⟨by decide, hparameter p hp⟩) (by decide),
        .append_left (isOneLine_append.2 ⟨by decide, hresult⟩) (by decide), List.forall_mem_nil _⟩
    · have hlist : IsOneLine (join ", " (m.parameters.map u.printParameter)) :=
        .join (by decide) (List.forall_mem_map.2 hparameter)
      exact .next (((hopening.append_right hlist).append_right (by decide)).append_right hresult)
        (.last (by decide))
  have hclosing : Text.IsTidy [margin ++ "\x7d"] := .last (by decide)
  rw [methodLines, List.append_assoc, List.append_assoc]
  refine isTidy_commentsBefore_append (by decide) hcomments (hhead.append ?_)
  obtain hnone | hspaced := h.spaced
  · rw [hnone]
    exact hclosing
  · exact (isTidy_body hspaced).append hclosing

omit huses

/-! ## The file -/

lemma isTidy_blocks (h : u.IsTidy) : ∀ block ∈ u.blocks, Text.IsTidy block := by
  simp only [blocks, List.forall_mem_append, List.forall_mem_map]
  refine ⟨⟨?_, fun m hm => isTidy_memberLines h.uses (h.members m hm)⟩,
    fun m hm => isTidy_methodLines h.uses (h.methods m hm)⟩
  split
  · exact nofun
  · next hnone =>
    refine List.forall_mem_singleton.2 (.of_forall (by simpa [traitLines] using hnone) ?_)
    rw [traitLines, List.forall_mem_map]
    intro t ht
    have htype : ∀ s ∈ (some t).toList, IsOneLine s := List.forall_mem_singleton.2 (h.traits t ht)
    have htrait : IsOneLine (u.printType (some t) false) := isOneLine_printType h.uses htype false
    refine .append_left ?_ (by decide)
    simp only [isOneLine_append]
    exact ⟨⟨by decide, by decide⟩, htrait⟩

lemma isSolid_header (h : u.IsTidy) : IsSolid u.header := by
  have hmodifier : IsOneLine (if u.declaration.isAbstract then "abstract " else
      if u.declaration.isFinal then "final " else "") := .ite (by decide) (.ite (by decide) (by decide))
  have hlist : IsOneLine (join ", " (u.declaration.interfaces.map fun i => u.printType (some i) false)) := by
    refine .join (by decide) (List.forall_mem_map.2 fun i hi => ?_)
    have htype : ∀ s ∈ (some i).toList, IsOneLine s := List.forall_mem_singleton.2 (h.interfaces i hi)
    exact isOneLine_printType h.uses htype false
  have hclass : IsSolid "class " := by decide
  exact (((IsSolid.append_left hmodifier hclass).append_right h.name).append_right
    (.ite (isOneLine_append.2 ⟨by decide, isOneLine_printType h.uses h.parent false⟩) (by decide))).append_right
    (.ite (by decide) (isOneLine_append.2 ⟨by decide, hlist⟩))

/-- The lines before the class. -/
def topLines (u : SourceUnit) : List String :=
  ["<?php", "", "declare(strict_types=1);", "", "namespace " ++ u.space ++ ";"] ++
    if u.importLines.isEmpty then [] else "" :: u.importLines.map fun entry => "use " ++ entry ++ ";"

/-- The lines of the class. -/
def classLines (u : SourceUnit) : List String :=
  commentsBefore u.declaration.comments "" ++ ([u.header, "\x7b"] ++ separate u.blocks ++ ["\x7d"])

lemma lines_eq (u : SourceUnit) : u.lines = u.topLines ++ "" :: u.classLines := by
  simp [lines, topLines, classLines]

lemma isTidy_topLines (h : u.IsTidy) : Text.IsTidy u.topLines := by
  have hnamespace : IsSolid ("namespace " ++ u.space ++ ";") :=
    .append_left (isOneLine_append.2 ⟨by decide, h.space⟩) (by decide)
  have hopening : Text.IsTidy ["<?php", "", "declare(strict_types=1);", "", "namespace " ++ u.space ++ ";"] :=
    .gap (by decide) (.gap (by decide) (.last hnamespace))
  rw [topLines]
  split
  · rwa [List.append_nil]
  · next hnone =>
    refine hopening.append_gap (.of_forall (by simpa using hnone) (List.forall_mem_map.2 fun entry hentry => ?_))
    exact .append_left (isOneLine_append.2 ⟨by decide, isOneLine_importLines h.uses entry hentry⟩) (by decide)

lemma isTidy_classLines (h : u.IsTidy) : Text.IsTidy u.classLines := by
  have hclosing : Text.IsTidy ["\x7d"] := .last (by decide)
  refine isTidy_commentsBefore_append (by decide) h.comments (.next (isSolid_header h) (.next (by decide) ?_))
  by_cases hblocks : u.blocks = []
  · rw [hblocks]
    exact hclosing
  · exact (isTidy_separate hblocks (isTidy_blocks h)).append hclosing

/-- A tidy unit prints to a text in normal form. -/
theorem IsTidy.printsNormally (h : u.IsTidy) : u.PrintsNormally := by
  have hprint : u.print = textOf (u.topLines ++ "" :: u.classLines) := congrArg textOf u.lines_eq
  have hlines : Text.IsTidy (u.topLines ++ "" :: u.classLines) :=
    (isTidy_topLines h).append_gap (isTidy_classLines h)
  obtain ⟨rest, htop⟩ : ∃ rest, u.topLines ++ "" :: u.classLines =
      ["<?php", "", "declare(strict_types=1);", ""] ++ ("namespace " ++ u.space ++ ";") :: rest :=
    ⟨_, rfl⟩
  obtain ⟨before, hclass⟩ : ∃ before, u.topLines ++ "" :: u.classLines = before ++ ["\x7d"] := by
    refine ⟨u.topLines ++ "" :: (commentsBefore u.declaration.comments "" ++
      ([u.header, "\x7b"] ++ separate u.blocks)), ?_⟩
    simp [classLines]
  refine ⟨?_, ?_, ?_, ?_⟩
  · rw [hprint]
    exact Lines.normalize_textOf hlines
  · refine ⟨u.space ++ ";" ++ "\n" ++ textOf rest, ?_⟩
    rw [hprint, htop, textOf_append, textOf_cons]
    simp [textOf, ← String.append_assoc]
  · refine ⟨textOf before, ?_⟩
    rw [hprint, hclass, textOf_append]
    rfl
  · rw [hprint]
    exact Lines.hasLoneGaps_textOf hlines

end SourceUnit

end EntityScaffold
