import EntityScaffold.Proofs.Source.Layout
import EntityScaffold.Proofs.Source.Linkage
import EntityScaffold.Proofs.Text.Brackets
/-!
# Units print to balanced texts

What the printer writes by itself is balanced, with the pairs of brackets on one line, as those of an expression, or
on several, as the braces of a class.  So a printed unit is balanced if the texts from the unit are
(`SourceUnit.HasBalancedTexts.isBalanced_print`).  Names of classes must have no brackets at all, since the printer
cuts them up.
-/

namespace EntityScaffold

open Text Source

namespace Source

/-! ## Texts of a unit -/

/-- The texts from which a statement is written. -/
def Statement.texts : Statement → List String
  | .assign target value => target.texts ++ value.texts
  | .run e | .give e => e.texts
  | .note className variableName => [className, variableName]
  | .find into finder column parameter => into.toList ++ [finder, column, parameter]
  | .throwIfNull variableName exceptionClass => [variableName, exceptionClass]
  | .blank => []
  | .line text => [text]

/-- The texts of a parameter but for its type. -/
def Parameter.words (p : Parameter) : List String := p.name :: p.default.toList

/-- The texts of a data member but for its type and comments. -/
def Member.words (m : Member) : List String := m.name :: m.default.toList

/-- The texts of a method but for its types and comments. -/
def Method.words (m : Method) : List String :=
  m.name :: (m.parameters.flatMap Parameter.words ++ m.body.flatMap Statement.texts)

end Source

namespace SourceUnit

/-- The texts of a unit but for those that name classes and namespaces, and the comments. -/
def words (u : SourceUnit) : List String :=
  u.declaration.name ::
    (u.declaration.members.flatMap Member.words ++ u.declaration.methods.flatMap Method.words)

/-- The comments of a unit. -/
def comments (u : SourceUnit) : List String :=
  u.declaration.comments ++ u.declaration.members.flatMap (·.comments) ++
    u.declaration.methods.flatMap (·.comments)

/-- The texts of a unit are balanced, and those that name classes have no brackets. -/
structure HasBalancedTexts (u : SourceUnit) : Prop where
  space : HasNoBrackets u.space
  references : ∀ name ∈ u.references, HasNoBrackets name
  words : ∀ word ∈ u.words, IsBalanced word
  comments : ∀ comment ∈ u.comments, IsBalanced comment

end SourceUnit

/-! ## Expressions and statements -/

namespace Source

namespace Expr

mutual

theorem isBalanced_print (e : Expr) (h : ∀ s ∈ e.texts, IsBalanced s) : IsBalanced e.print := by
  cases e with
  | var name =>
    have hmark : IsBalanced "$" := by decide
    exact hmark.append (h name List.mem_cons_self)
  | member object name =>
    obtain ⟨hobject, hname⟩ := List.forall_mem_append.1 h
    exact ((isBalanced_print object hobject).append (by decide)).append (hname name List.mem_cons_self)
  | item array key =>
    obtain ⟨harray, hkey⟩ := List.forall_mem_append.1 h
    exact (isBalanced_print array harray).enclose (by decide) (hkey key List.mem_cons_self)
  | call object method args =>
    obtain ⟨hobject, hrest⟩ := List.forall_mem_append.1 h
    obtain ⟨hmethod, hargs⟩ := List.forall_mem_cons.1 hrest
    have hcallee : IsBalanced (object.print ++ "->" ++ method) :=
      ((isBalanced_print object hobject).append (by decide)).append hmethod
    exact hcallee.enclose (by decide) (isBalanced_printArgs args hargs)
  | staticCall className method =>
    obtain ⟨hclass, hrest⟩ := List.forall_mem_cons.1 h
    have hmethod : IsBalanced method := hrest method List.mem_cons_self
    exact ((hclass.append (by decide)).append hmethod).append (by decide)
  | create className args =>
    obtain ⟨hclass, hargs⟩ := List.forall_mem_cons.1 h
    have hnew : IsBalanced "new " := by decide
    exact (hnew.append hclass).enclose (by decide) (isBalanced_printArgs args hargs)
  | classOf className => exact (h className List.mem_cons_self).append (by decide)
  | orElse value fallback =>
    obtain ⟨hvalue, hfallback⟩ := List.forall_mem_append.1 h
    exact ((isBalanced_print value hvalue).append (by decide)).append (hfallback fallback List.mem_cons_self)
  | text content =>
    have hquote : IsBalanced "'" := by decide
    exact (hquote.append (h content List.mem_cons_self)).append hquote

lemma isBalanced_printArgs (args : List Expr) (h : ∀ s ∈ textsOfArgs args, IsBalanced s) :
    IsBalanced (printArgs args) := by
  cases args with
  | nil => rfl
  | cons e rest =>
    obtain ⟨he, hrest⟩ := List.forall_mem_append.1 h
    have hfirst := isBalanced_print e he
    have hmore := isBalanced_printArgs rest hrest
    cases rest with
    | nil => exact hfirst
    | cons second rest => exact (hfirst.append (by decide)).append hmore

end

end Expr

lemma Statement.areBalanced_lines (s : Statement) (h : ∀ text ∈ s.texts, IsBalanced text) : AreBalanced s.lines := by
  have hreturn : IsBalanced "return " := by decide
  cases s with
  | assign target value =>
    obtain ⟨htarget, hvalue⟩ := List.forall_mem_append.1 h
    have hsides : IsBalanced (target.print ++ " = " ++ value.print) :=
      ((target.isBalanced_print htarget).append (by decide)).append (value.isBalanced_print hvalue)
    exact areBalanced_singleton_iff.2 (hsides.append (by decide))
  | run e => exact areBalanced_singleton_iff.2 ((e.isBalanced_print h).append (by decide))
  | give e => exact areBalanced_singleton_iff.2 ((hreturn.append (e.isBalanced_print h)).append (by decide))
  | note className variableName =>
    simp only [texts, List.forall_mem_cons] at h
    obtain ⟨hclass, hvariable, -⟩ := h
    have hopening : IsBalanced "/** @var " := by decide
    have hline : IsBalanced ("/** @var " ++ className ++ " $" ++ variableName ++ " */") :=
      (((hopening.append hclass).append (by decide)).append hvariable).append (by decide)
    exact areBalanced_singleton_iff.2 hline
  | find into finder column parameter =>
    simp only [texts, List.forall_mem_append, List.forall_mem_cons, Option.mem_toList] at h
    obtain ⟨hinto, hfinder, hcolumn, hparameter, -⟩ := h
    have hmark : IsBalanced "\t'" := by decide
    have hcriterion : IsBalanced ("\t'" ++ column ++ "' => $" ++ parameter ++ ",") :=
      (((hmark.append hcolumn).append (by decide)).append hparameter).append (by decide)
    have hquery {receiver : String} (hreceiver : IsBalanced receiver) :
        AreBalanced [receiver ++ "$this->getRepository()->" ++ finder ++ "([",
          "\t'" ++ column ++ "' => $" ++ parameter ++ ",", "]);"] := by
      have hends : IsBalanced (receiver ++ "$this->getRepository()->" ++ finder ++ "([" ++ "]);") :=
        ((hreceiver.append (by decide)).append hfinder).append_pair (by decide)
      have hlines := AreBalanced.enclose hends (areBalanced_singleton_iff.2 hcriterion)
      exact hlines
    cases into with
    | none => exact hquery hreturn
    | some variableName =>
      have hdollar : IsBalanced "$" := by decide
      exact hquery ((hdollar.append (hinto variableName rfl)).append (by decide))
  | throwIfNull variableName exceptionClass =>
    simp only [texts, List.forall_mem_cons] at h
    obtain ⟨hvariable, hclass, -⟩ := h
    have hnew : IsBalanced "\tthrow new " := by decide
    have hthrow : IsBalanced ("\tthrow new " ++ exceptionClass ++ "();") := (hnew.append hclass).append (by decide)
    have hcondition : IsBalanced ("if ($" ++ variableName ++ " === null) \x7b" ++ "\x7d") := by
      have hclosing : IsBalanced ("if ($" ++ (" === null) \x7b" ++ "\x7d")) := by decide
      rw [String.append_assoc]
      exact hclosing.insert hvariable
    have hlines := AreBalanced.enclose hcondition (areBalanced_singleton_iff.2 hthrow)
    exact hlines
  | blank => rfl
  | line text => exact areBalanced_singleton_iff.2 (h text List.mem_cons_self)

end Source

namespace SourceUnit

variable {u : SourceUnit} {s : String}

/-! ## Parts of lines -/

lemma isBracket_of_isBlank {c : Char} (h : isBlank c = true) : isBracket c = false := by
  have hbrackets : ∀ c ∈ ['(', '[', '\x7b', ')', ']', '\x7d'], isBlank c = false := by decide
  refine eq_false_of_ne_true fun hbracket => ?_
  have hblank := hbrackets c (isBracket_iff.1 hbracket)
  rw [h] at hblank
  cases hblank

lemma brackets_trimEnd (s : String) : brackets (trimEnd s) = brackets s := by
  have hdropped : ∀ c ∈ s.toList.rtakeWhile isBlank, ¬ isBracket c = true := fun c hc =>
    ne_true_of_eq_false (isBracket_of_isBlank (List.mem_rtakeWhile_imp hc))
  have hsplit := congrArg (List.filter isBracket) (List.rdropWhile_append_rtakeWhile (p := isBlank) (l := s.toList))
  rw [List.filter_append, List.filter_eq_nil_iff.2 hdropped, List.append_nil] at hsplit
  rw [brackets, trimEnd, toList_through, dropEndWhile_eq_rdropWhile, hsplit, brackets]

lemma brackets_bodyLine (line : String) : brackets (bodyLine line) = brackets line := by
  rw [bodyLine]
  split
  · next hblank =>
    have hnone : HasNoBrackets line := fun c hc => isBracket_of_isBlank (List.all_eq_true.1 hblank c hc)
    rw [brackets_eq_nil_iff.2 hnone]
    rfl
  · rw [brackets_append, brackets_append]
    rfl

lemma isBalanced_keyword (v : Visibility) : IsBalanced v.keyword := by
  cases v <;> decide

lemma isBalanced_defaultPart {default : Option String} (h : ∀ s ∈ default.toList, IsBalanced s) :
    IsBalanced (defaultPart default) := by
  have hmark : IsBalanced " = " := by decide
  cases default with
  | none => rfl
  | some value => exact hmark.append (h value List.mem_cons_self)

lemma areBalanced_commentsBefore {comments : List String} {margin : String} (hmargin : IsBalanced margin)
    (hcomments : ∀ line ∈ comments, IsBalanced line) : AreBalanced (commentsBefore comments margin) := by
  rw [commentsBefore]
  split
  · rfl
  · refine .of_forall ?_
    simp only [commentLines, List.cons_append, List.forall_mem_cons, List.forall_mem_append, List.forall_mem_map]
    refine ⟨hmargin.append (by decide), fun line hline => ?_, hmargin.append (by decide), List.forall_mem_nil _⟩
    rw [isBalanced_iff, brackets_trimEnd, ← isBalanced_iff]
    exact (hmargin.append (by decide)).append (hcomments line hline)

lemma areBalanced_separate {blocks : List (List String)} (h : ∀ block ∈ blocks, AreBalanced block) :
    AreBalanced (separate blocks) := by
  have hempty : AreBalanced [""] := by rfl
  induction blocks with
  | nil => rfl
  | cons block rest ih =>
    obtain ⟨hblock, hrest⟩ := List.forall_mem_cons.1 h
    cases rest with
    | nil => exact hblock
    | cons second rest => exact hblock.append (hempty.append (ih hrest))

/-! ## The parts of a unit -/

lemma hasNoBrackets_printType {type : Option String} (huses : ∀ entry ∈ u.uses, HasNoBrackets entry)
    (htype : ∀ t ∈ type, HasNoBrackets t) (nullable : Bool) : HasNoBrackets (u.printType type nullable) := by
  have hown : ∀ c ∈ typeChars, isBracket c = false := by decide
  intro c hc
  obtain hc | ⟨entry, hentry, hc⟩ | ⟨t, ht, hc⟩ := mem_printType hc
  · exact hown c hc
  · exact huses entry hentry c hc
  · exact htype t ht c hc

/-- A signature over several lines, with the brace that closes the body. -/
lemma areBalanced_rows {opening result : String} {rows : List String} (hopening : IsBalanced opening)
    (hresult : IsBalanced result) (hrows : ∀ row ∈ rows, IsBalanced row) :
    AreBalanced ((opening ++ "(") :: rows ++ [margin ++ ")" ++ result ++ " \x7b"] ++ [margin ++ "\x7d"]) := by
  have hparens : IsBalanced ("(" ++ (margin ++ ")")) := by decide
  have hbraces : IsBalanced (" \x7b" ++ (margin ++ "\x7d")) := by decide
  have htext : IsBalanced (opening ++ "(" ++ (margin ++ ")" ++ result ++ " \x7b") ++ (margin ++ "\x7d")) := by
    simpa only [String.append_assoc] using ((hopening.append hparens).append hresult).append hbraces
  have hends : AreBalanced ([opening ++ "("] ++ [margin ++ ")" ++ result ++ " \x7b", margin ++ "\x7d"]) :=
    areBalanced_cons_cons_iff.2 (areBalanced_cons_cons_iff.2 (areBalanced_singleton_iff.2 htext))
  rw [List.append_assoc]
  exact .insert [opening ++ "("] hends (.of_forall hrows)

section

variable (huses : ∀ entry ∈ u.uses, HasNoBrackets entry)

include huses

lemma isBalanced_printType {type : Option String} (htype : ∀ t ∈ type, HasNoBrackets t) (nullable : Bool) :
    IsBalanced (u.printType type nullable) := .of_hasNoBrackets (hasNoBrackets_printType huses htype nullable)

lemma isBalanced_printParameter {p : Parameter} (htype : ∀ t ∈ p.type, HasNoBrackets t)
    (hwords : ∀ word ∈ p.words, IsBalanced word) : IsBalanced (u.printParameter p) := by
  obtain ⟨hname, hdefault⟩ := List.forall_mem_cons.1 hwords
  have hpromoted : IsBalanced (p.promoted.elim "" (·.keyword ++ " ")) := by
    cases p.promoted with
    | none => rfl
    | some visibility => exact (isBalanced_keyword visibility).append (by decide)
  have htypePart : IsBalanced (if hasType p.type then u.printType p.type p.nullable ++ " " else "") :=
    .ite ((isBalanced_printType huses htype p.nullable).append (by decide)) rfl
  exact (((hpromoted.append htypePart).append (by decide)).append hname).append (isBalanced_defaultPart hdefault)

lemma areBalanced_memberLines {m : Member} (htype : ∀ t ∈ m.type, HasNoBrackets t)
    (hwords : ∀ word ∈ m.words, IsBalanced word) (hcomments : ∀ comment ∈ m.comments, IsBalanced comment) :
    AreBalanced (u.memberLines m) := by
  obtain ⟨hname, hdefault⟩ := List.forall_mem_cons.1 hwords
  have hmargin : IsBalanced margin := by decide
  have htypePart : IsBalanced (if hasType m.type then u.printType m.type m.nullable ++ " " else "") :=
    .ite ((isBalanced_printType huses htype m.nullable).append (by decide)) rfl
  have hvisibility : IsBalanced (margin ++ m.visibility.keyword ++ " ") :=
    (hmargin.append (isBalanced_keyword m.visibility)).append (by decide)
  refine (areBalanced_commentsBefore hmargin hcomments).append (areBalanced_singleton_iff.2 ?_)
  exact ((((hvisibility.append htypePart).append (by decide)).append hname).append
    (isBalanced_defaultPart hdefault)).append (by decide)

/-- The head of a method, with the brace that closes its body. -/
lemma areBalanced_methodHead {m : Method} (hparameters : ∀ p ∈ m.parameters, IsBalanced (u.printParameter p))
    (hresult : ∀ t ∈ m.returnType, HasNoBrackets t) (hname : IsBalanced m.name) :
    AreBalanced (u.methodHead m ++ [margin ++ "\x7d"]) := by
  have hmargin : IsBalanced margin := by decide
  have hstatic : IsBalanced (if m.isStatic then " static" else "") := .ite (by decide) rfl
  have hopening : IsBalanced (margin ++ m.visibility.keyword ++ (if m.isStatic then " static" else "") ++
      " function " ++ m.name) :=
    (((hmargin.append (isBalanced_keyword m.visibility)).append hstatic).append (by decide)).append hname
  have hresultPart : IsBalanced (if hasType m.returnType then ": " ++ u.printType m.returnType m.returnNullable
      else "") := by
    have hcolon : IsBalanced ": " := by decide
    exact .ite (hcolon.append (isBalanced_printType huses hresult m.returnNullable)) rfl
  simp only [methodHead]
  split
  · have hrows : ∀ row ∈ m.parameters.map fun p => margin ++ margin ++ u.printParameter p ++ ",", IsBalanced row := by
      have hmargins : IsBalanced (margin ++ margin) := by decide
      exact List.forall_mem_map.2 fun p hp => (hmargins.append (hparameters p hp)).append (by decide)
    exact areBalanced_rows hopening hresultPart hrows
  · have hlist : IsBalanced (join ", " (m.parameters.map u.printParameter)) :=
      .join (by decide) (List.forall_mem_map.2 hparameters)
    have hbraces : AreBalanced [margin ++ "\x7b", margin ++ "\x7d"] :=
      areBalanced_cons_cons_iff.2 (areBalanced_singleton_iff.2 (by decide))
    have hsignature := hopening.enclose (show IsBalanced ("(" ++ ")") by decide) hlist
    have hlines := (areBalanced_singleton_iff.2 (hsignature.append hresultPart)).append hbraces
    exact hlines

lemma areBalanced_methodLines {m : Method} (htypes : ∀ p ∈ m.parameters, ∀ t ∈ p.type, HasNoBrackets t)
    (hresult : ∀ t ∈ m.returnType, HasNoBrackets t) (hwords : ∀ word ∈ m.words, IsBalanced word)
    (hcomments : ∀ comment ∈ m.comments, IsBalanced comment) : AreBalanced (u.methodLines m) := by
  simp only [Method.words, List.forall_mem_cons, List.forall_mem_append, List.forall_mem_flatMap] at hwords
  obtain ⟨hname, hparameterWords, htexts⟩ := hwords
  have hbody : AreBalanced ((bodyLines m.body).map bodyLine) :=
    .map brackets_bodyLine (.flatMap fun s hs => s.areBalanced_lines (htexts s hs))
  have hends : AreBalanced (u.methodHead m ++ [margin ++ "\x7d"]) :=
    areBalanced_methodHead huses
      (fun p hp => isBalanced_printParameter huses (htypes p hp) (hparameterWords p hp)) hresult hname
  rw [methodLines, List.append_assoc, List.append_assoc, ← List.append_assoc (u.methodHead m)]
  exact (areBalanced_commentsBefore (by decide) hcomments).append (.insert _ hends hbody)

end

/-! ## The file -/

namespace HasBalancedTexts

variable (h : u.HasBalancedTexts)

include h

lemma uses : ∀ entry ∈ u.uses, HasNoBrackets entry := fun entry hentry =>
  h.references entry (by simp [SourceUnit.references, hentry])

lemma areBalanced_blocks : ∀ block ∈ u.blocks, AreBalanced block := by
  have hreferences := h.references
  have hwords := h.words
  have hcomments := h.comments
  simp only [SourceUnit.references, SourceUnit.words, SourceUnit.comments, List.forall_mem_cons,
    List.forall_mem_append, List.forall_mem_flatMap, List.forall_mem_filterMap, Option.mem_toList]
    at hreferences hwords hcomments
  obtain ⟨⟨⟨-, htraits⟩, hmemberTypes⟩, hmethodTypes⟩ := hreferences
  obtain ⟨-, hmemberWords, hmethodWords⟩ := hwords
  obtain ⟨⟨-, hmemberComments⟩, hmethodComments⟩ := hcomments
  have htrait : AreBalanced u.traitLines := by
    have huse : IsBalanced (margin ++ "use ") := by decide
    refine .of_forall (List.forall_mem_map.2 fun t ht => ?_)
    have htype : ∀ s ∈ some t, HasNoBrackets s := fun s hs => htraits s (Option.some.inj hs ▸ ht)
    exact (huse.append (isBalanced_printType h.uses htype false)).append (by decide)
  simp only [blocks, List.forall_mem_append, List.forall_mem_map]
  refine ⟨⟨?_, fun m hm => ?_⟩, fun m hm => ?_⟩
  · split
    · exact List.forall_mem_nil _
    · exact List.forall_mem_singleton.2 htrait
  · exact areBalanced_memberLines h.uses (hmemberTypes m hm) (hmemberWords m hm) (hmemberComments m hm)
  · exact areBalanced_methodLines h.uses (hmethodTypes m hm).1 (hmethodTypes m hm).2 (hmethodWords m hm)
      (hmethodComments m hm)

lemma isBalanced_header : IsBalanced u.header := by
  have hname : IsBalanced u.declaration.name := h.words _ List.mem_cons_self
  have hparent : ∀ t ∈ u.declaration.parent, HasNoBrackets t := fun t ht =>
    h.references t (by simp [SourceUnit.references, Option.mem_def.1 ht])
  have hinterface : ∀ i ∈ u.declaration.interfaces, ∀ t ∈ some i, HasNoBrackets t := fun i hi t ht =>
    h.references t (by simp [SourceUnit.references, ← Option.some.inj ht, hi])
  have hmodifier : IsBalanced (if u.declaration.isAbstract then "abstract " else
      if u.declaration.isFinal then "final " else "") := .ite (by decide) (.ite (by decide) rfl)
  have hextends : IsBalanced (if hasType u.declaration.parent then
      " extends " ++ u.printType u.declaration.parent false else "") := by
    have hkeyword : IsBalanced " extends " := by decide
    exact .ite (hkeyword.append (isBalanced_printType h.uses hparent false)) rfl
  have himplements : IsBalanced (if u.declaration.interfaces.isEmpty then "" else
      " implements " ++ join ", " (u.declaration.interfaces.map fun i => u.printType (some i) false)) := by
    have hkeyword : IsBalanced " implements " := by decide
    have hlist : IsBalanced (join ", " (u.declaration.interfaces.map fun i => u.printType (some i) false)) :=
      .join (by decide) (List.forall_mem_map.2 fun i hi => isBalanced_printType h.uses (hinterface i hi) false)
    exact .ite rfl (hkeyword.append hlist)
  exact (((hmodifier.append (by decide)).append hname).append hextends).append himplements

lemma areBalanced_topLines : AreBalanced u.topLines := by
  have hnamespace : IsBalanced ("namespace " ++ u.space ++ ";") := by
    have hkeyword : IsBalanced "namespace " := by decide
    exact (hkeyword.append (.of_hasNoBrackets h.space)).append (by decide)
  have himports : ∀ line ∈ u.importLines.map fun entry => "use " ++ entry ++ ";", IsBalanced line := by
    have hkeyword : IsBalanced "use " := by decide
    refine List.forall_mem_map.2 fun line hline => ?_
    obtain ⟨entry, hentry, -, rfl⟩ := mem_importLines_iff.1 hline
    have hprinted : HasNoBrackets (Import.printed entry) :=
      (h.uses entry hentry).of_subset (Import.printed_subset entry)
    exact (hkeyword.append (.of_hasNoBrackets hprinted)).append (by decide)
  refine .of_forall (List.forall_mem_append.2 ⟨?_, ?_⟩)
  · simp only [List.forall_mem_cons]
    exact ⟨by decide, rfl, by decide, rfl, hnamespace, List.forall_mem_nil _⟩
  · split
    · exact List.forall_mem_nil _
    · exact List.forall_mem_cons.2 ⟨rfl, himports⟩

lemma areBalanced_classLines : AreBalanced u.classLines := by
  have hcomments : ∀ line ∈ u.declaration.comments, IsBalanced line := fun line hline =>
    h.comments line (List.mem_append_left _ (List.mem_append_left _ hline))
  have hbody : AreBalanced ("\x7b" :: separate u.blocks ++ ["\x7d"]) :=
    .enclose (by decide) (areBalanced_separate h.areBalanced_blocks)
  have hmargin : IsBalanced "" := rfl
  exact (areBalanced_commentsBefore hmargin hcomments).append
    ((areBalanced_singleton_iff.2 h.isBalanced_header).append hbody)

/-- A unit with balanced texts prints to a balanced text. -/
theorem isBalanced_print : IsBalanced u.print := by
  have hprint : u.print = textOf (u.topLines ++ ([""] ++ u.classLines)) := congrArg textOf u.lines_eq
  rw [hprint]
  exact h.areBalanced_topLines.append (.append (areBalanced_singleton_iff.2 rfl) h.areBalanced_classLines)

end HasBalancedTexts

end SourceUnit

end EntityScaffold
