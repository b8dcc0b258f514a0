import EntityScaffold.Proofs.Text.NormalForm
/-!
# Normal forms of fragments

A text is brought into normal form as a whole, and yet one wants to know what becomes of a part of it.  Where two parts
meet on a line, and both have something on it, no gap reaches from one into the other: the lines before are squeezed as
if nothing followed, and those behind as if nothing were before (`normalize_append`).  What is left of the part in
front is its normal form without the line feed at the end, which is called settled here, and a settled text is one
whose lines are spaced and end in line feeds (`settled_eq_self_iff`).
-/

namespace EntityScaffold.Text.Lines

variable {c : Char} {line cs before after : List Char} {lines rest : List (List Char)} {s t : String}

/-- A line that is not blank. -/
abbrev IsFull (line : List Char) : Prop := isBlankLine line = false

/-- A text with something on its first line. -/
def BeginsFull (cs : List Char) : Prop := ∃ line rest, cut cs = line :: rest ∧ IsFull line

/-- A text with something on its last line. -/
def EndsFull (cs : List Char) : Prop := ∃ lines line, cut cs = lines ++ [line] ∧ IsFull line

/-- A text in normal form, without the line feed at its end. -/
def settled (s : String) : String := through List.dropLast (normalize s)

/-! ## Full lines -/

lemma isFull_iff : IsFull line ↔ ∃ c ∈ line, c ≠ ' ' ∧ c ≠ '\t' := by
  simp [IsFull, isBlankLine]

lemma isFull_append_left (h : IsFull line) (more : List Char) : IsFull (line ++ more) := by
  obtain ⟨c, hc, hne⟩ := isFull_iff.1 h
  exact isFull_iff.2 ⟨c, List.mem_append_left more hc, hne⟩

lemma isFull_append_right (h : IsFull line) (front : List Char) : IsFull (front ++ line) := by
  obtain ⟨c, hc, hne⟩ := isFull_iff.1 h
  exact isFull_iff.2 ⟨c, List.mem_append_right front hc, hne⟩

lemma isFull_of_isBlank_eq_false (hmem : c ∈ line) (hc : isBlank c = false) : IsFull line := by
  refine isFull_iff.2 ⟨c, hmem, ?_, ?_⟩
  · rintro rfl
    exact absurd hc (by decide)
  · rintro rfl
    exact absurd hc (by decide)

/-! ## Cutting parts -/

lemma cut_cons (hc : c ≠ '\n' ∧ c ≠ '\r') (cs : List Char) : cut (c :: cs) = (cut cs).modifyHead (c :: ·) := by
  rw [cut]
  · exact fun _ hreturn => absurd hreturn hc.2
  · exact hc.2
  · exact hc.1

lemma cut_of_oneLine (h : ∀ c ∈ cs, c ≠ '\n' ∧ c ≠ '\r') : cut cs = [cs] := by
  induction cs with
  | nil => rfl
  | cons c cs ih =>
    obtain ⟨hc, hcs⟩ := List.forall_mem_cons.1 h
    rw [cut_cons hc, ih hcs]
    rfl

/-- A line that is ended is one of those before the last. -/
lemma cut_eq_of_cons_eq (h : [] :: cut cs = lines ++ [line]) :
    ∃ more, lines = [] :: more ∧ cut cs = more ++ [line] := by
  cases lines with
  | nil => exact absurd (List.cons.inj h).2 (cut_ne_nil cs)
  | cons first more => exact ⟨more, by rw [(List.cons.inj h).1], (List.cons.inj h).2⟩

lemma modifyHead_nil_append (lines : List (List Char)) : lines.modifyHead ([] ++ ·) = lines := by
  cases lines with
  | nil => rfl
  | cons line rest => rfl

/-- The line on which two parts meet is the last of the one and the first of the other, unless their meeting joins a
carriage return and a line feed. -/
lemma cut_append (hafter : after.head? ≠ some '\n') (hcut : cut before = lines ++ [line]) :
    cut (before ++ after) = lines ++ (cut after).modifyHead (line ++ ·) := by
  induction before using cut.induct generalizing lines line with
  | case1 =>
    obtain ⟨rfl, rfl⟩ : lines = [] ∧ line = [] := by
      cases lines with
      | nil => exact ⟨rfl, (List.cons.inj hcut).1.symm⟩
      | cons first more => simp [cut] at hcut
    exact (modifyHead_nil_append _).symm
  | case2 rest ih | case4 rest ih =>
    obtain ⟨more, rfl, hmore⟩ := cut_eq_of_cons_eq hcut
    exact congrArg ([] :: ·) (ih hmore)
  | case3 rest hfeed ih =>
    -- A return at the end of the part in front is a line end of its own only because no line feed follows.
    have hended : [] :: cut rest = lines ++ [line] := by
      rw [← hcut, cut]
      exact hfeed
    obtain ⟨more, rfl, hmore⟩ := cut_eq_of_cons_eq hended
    have hnext : cut ('\r' :: (rest ++ after)) = [] :: cut (rest ++ after) := by
      rw [cut]
      intro tail htail
      cases rest with
      | nil => exact hafter (by rw [← List.nil_append after, htail]; rfl)
      | cons d rest => exact hfeed rest (by rw [(List.cons.inj htail).1])
    rw [List.cons_append, hnext, ih hmore]
    rfl
  | case5 c rest _ hreturn hfeed ih =>
    obtain ⟨first, others, hfirst⟩ := List.exists_cons_of_ne_nil (cut_ne_nil rest)
    rw [cut_cons ⟨hfeed, hreturn⟩, hfirst, List.modifyHead_cons] at hcut
    rw [List.cons_append, cut_cons ⟨hfeed, hreturn⟩]
    cases lines with
    | nil =>
      obtain ⟨rfl, rfl⟩ := List.cons.inj hcut
      have halone : cut rest = [] ++ [first] := hfirst
      rw [ih halone, List.nil_append, List.nil_append, List.modifyHead_modifyHead]
      rfl
    | cons next more =>
      obtain ⟨rfl, rfl⟩ := List.cons.inj hcut
      have hmany : cut rest = first :: more ++ [line] := hfirst
      rw [ih hmany]
      rfl

/-! ## Squeezing parts -/

/-- What is kept of the lines before one that is not blank does not depend on that line, nor on what follows it. -/
lemma exists_squeezeFrom_append (lines : List (List Char)) (gap : Bool) :
    ∃ kept, ∀ line rest, IsFull line →
      squeezeFrom gap (lines ++ line :: rest) = kept ++ line :: squeezeFrom false rest := by
  induction lines generalizing gap with
  | nil =>
    cases gap with
    | false => exact ⟨[], fun line rest h => squeezeFrom_false_of_notBlank h rest⟩
    | true => exact ⟨[[]], fun line rest h => squeezeFrom_true_of_notBlank h rest⟩
  | cons first lines ih =>
    cases hfirst : isBlankLine first with
    | true =>
      obtain ⟨kept, hkept⟩ := ih true
      refine ⟨kept, fun line rest h => ?_⟩
      rw [List.cons_append, squeezeFrom, if_pos hfirst, hkept line rest h]
    | false =>
      obtain ⟨kept, hkept⟩ := ih false
      cases gap with
      | false =>
        refine ⟨first :: kept, fun line rest h => ?_⟩
        rw [List.cons_append, squeezeFrom_false_of_notBlank hfirst, hkept line rest h, List.cons_append]
      | true =>
        refine ⟨[] :: first :: kept, fun line rest h => ?_⟩
        rw [List.cons_append, squeezeFrom_true_of_notBlank hfirst, hkept line rest h, List.cons_append,
          List.cons_append]

lemma exists_squeeze_append (lines : List (List Char)) :
    ∃ kept, ∀ line rest, IsFull line → squeeze (lines ++ line :: rest) = kept ++ line :: squeezeFrom false rest := by
  induction lines with
  | nil =>
    refine ⟨[], fun line rest h => ?_⟩
    rw [List.nil_append, squeeze, List.dropWhile_cons_of_neg (Bool.eq_false_iff.1 h), squeezeFrom_false_of_notBlank h]
    rfl
  | cons first lines ih =>
    cases hfirst : isBlankLine first with
    | true =>
      obtain ⟨kept, hkept⟩ := ih
      refine ⟨kept, fun line rest h => ?_⟩
      rw [List.cons_append, squeeze, List.dropWhile_cons_of_pos hfirst]
      exact hkept line rest h
    | false =>
      obtain ⟨kept, hkept⟩ := exists_squeezeFrom_append (first :: lines) false
      refine ⟨kept, fun line rest h => ?_⟩
      rw [squeeze, List.cons_append, List.dropWhile_cons_of_neg (Bool.eq_false_iff.1 hfirst)]
      exact hkept line rest h

/-! ## Texts that meet on a line -/

lemma toList_settled (s : String) : (settled s).toList = (print (squeeze (cut s.toList))).dropLast := by
  rw [settled, toList_through, normalize, toList_through]

lemma print_append (lines rest : List (List Char)) : print (lines ++ rest) = print lines ++ print rest :=
  List.flatMap_append

lemma print_cons_eq (line : List Char) (rest : List (List Char)) :
    print (line :: rest) = line ++ '\n' :: print rest := by
  simp [print]

/-- Two parts that meet on a line, with something on it from both of them, have their normal forms one after the
other. -/
theorem normalize_append (hs : EndsFull s.toList) (ht : BeginsFull t.toList) :
    normalize (s ++ t) = settled s ++ normalize t := by
  obtain ⟨lines, line, hlines, hline⟩ := hs
  obtain ⟨first, rest, hrest, hfirst⟩ := ht
  have hmeet : t.toList.head? ≠ some '\n' := by
    intro hhead
    obtain ⟨more, hmore⟩ := List.head?_eq_some_iff.1 hhead
    rw [hmore, cut] at hrest
    rw [← (List.cons.inj hrest).1] at hfirst
    cases hfirst
  have hcut : cut (s ++ t).toList = lines ++ (line ++ first) :: rest := by
    rw [String.toList_append, cut_append hmeet hlines, hrest]
    rfl
  obtain ⟨kept, hkept⟩ := exists_squeeze_append lines
  have hwhole := hkept (line ++ first) rest (isFull_append_left hline first)
  have hfront := hkept line [] hline
  have hback : squeeze (first :: rest) = first :: squeezeFrom false rest := by
    rw [squeeze, List.dropWhile_cons_of_neg (Bool.eq_false_iff.1 hfirst), squeezeFrom_false_of_notBlank hfirst]
  rw [← String.toList_inj, String.toList_append, toList_settled, normalize, toList_through, normalize, toList_through,
    hcut, hwhole, hlines, hfront, hrest, hback, print_append, print_append, print_cons_eq, print_cons_eq, print_cons_eq]
  simp [print, squeezeFrom]

lemma EndsFull.append_left (h : EndsFull cs) (hafter : cs.head? ≠ some '\n') (before : List Char) :
    EndsFull (before ++ cs) := by
  obtain ⟨lines, line, hlines, hline⟩ := h
  obtain ⟨ended, last, hlast⟩ : ∃ ended last, cut before = ended ++ [last] :=
    (List.eq_nil_or_concat' (cut before)).resolve_left (cut_ne_nil before)
  rw [EndsFull, cut_append hafter hlast, hlines]
  cases lines with
  | nil => exact ⟨ended, last ++ line, rfl, isFull_append_right hline last⟩
  | cons first more => exact ⟨ended ++ (last ++ first) :: more, line, by simp, hline⟩

lemma BeginsFull.append_right (h : BeginsFull cs) (hafter : after.head? ≠ some '\n') : BeginsFull (cs ++ after) := by
  obtain ⟨line, rest, hrest, hline⟩ := h
  obtain ⟨first, more, hmore⟩ := List.exists_cons_of_ne_nil (cut_ne_nil after)
  rcases List.eq_nil_or_concat' rest with rfl | ⟨lines, last, rfl⟩
  · have halone : cut cs = [] ++ [line] := hrest
    rw [BeginsFull, cut_append hafter halone, hmore]
    exact ⟨line ++ first, more, rfl, isFull_append_left hline first⟩
  · have hmany : cut cs = line :: lines ++ [last] := hrest
    rw [BeginsFull, cut_append hafter hmany]
    exact ⟨line, _, rfl, hline⟩

lemma ne_break_of_isBlank_eq_false (hc : isBlank c = false) : c ≠ '\n' ∧ c ≠ '\r' := by
  constructor
  · rintro rfl
    exact absurd hc (by decide)
  · rintro rfl
    exact absurd hc (by decide)

/-- A text that begins with a visible character has it on its first line. -/
theorem beginsFull_cons (hc : isBlank c = false) (cs : List Char) : BeginsFull (c :: cs) := by
  obtain ⟨first, rest, hfirst⟩ := List.exists_cons_of_ne_nil (cut_ne_nil cs)
  refine ⟨c :: first, rest, ?_, isFull_of_isBlank_eq_false List.mem_cons_self hc⟩
  rw [cut_cons (ne_break_of_isBlank_eq_false hc), hfirst]
  rfl

/-- A line with something on it ends as it begins. -/
theorem endsFull_of_isSolid (h : IsSolid s) : EndsFull s.toList := by
  obtain ⟨hline, c, hc, hblank⟩ := h
  exact ⟨[], s.toList, cut_of_oneLine hline, isFull_of_isBlank_eq_false hc hblank⟩

/-! ## Settled texts -/

lemma dropLast_print (lines : List (List Char)) : (print lines).dropLast = ['\n'].intercalate lines := by
  cases lines with
  | nil => rfl
  | cons line rest => rw [print_cons, List.dropLast_concat, intercalate_cons]

lemma cut_intercalate (hne : lines ≠ []) (h : ∀ line ∈ lines, ∀ c ∈ line, c ≠ '\n' ∧ c ≠ '\r') :
    cut (['\n'].intercalate lines) = lines := by
  induction lines with
  | nil => exact absurd rfl hne
  | cons line rest ih =>
    obtain ⟨hline, hrest⟩ := List.forall_mem_cons.1 h
    cases rest with
    | nil =>
      rw [List.intercalate_singleton]
      exact cut_of_oneLine hline
    | cons next more =>
      have hfirst : ['\n'].intercalate (line :: next :: more) = line ++ '\n' :: ['\n'].intercalate (next :: more) := by
        simp
      rw [hfirst, cut_append_cons hline, ih (List.cons_ne_nil next more) hrest]

lemma mem_intercalate_feed (h : c ∈ ['\n'].intercalate lines) : c = '\n' ∨ ∃ line ∈ lines, c ∈ line := by
  rw [← dropLast_print] at h
  obtain ⟨line, hline, hc⟩ := List.mem_flatMap.1 ((List.dropLast_subset _) h)
  rcases List.mem_append.1 hc with hc | hc
  · exact .inr ⟨line, hline, hc⟩
  · exact .inl (List.mem_singleton.1 hc)

/-- Without carriage returns a text is its lines with line feeds between them. -/
lemma intercalate_cut (h : '\r' ∉ cs) : ['\n'].intercalate (cut cs) = cs := by
  have hjoined : joinReturns cs = cs := by
    induction cs with
    | nil => rfl
    | cons c cs ih =>
      obtain ⟨hc, hcs⟩ := List.ne_and_not_mem_of_not_mem_cons h
      rw [joinReturns, ih hcs]
      exact fun _ hreturn => absurd hreturn.symm hc
  have hkept : ∀ c ∈ cs, (if c = '\r' then '\n' else c) = c := by
    intro c hc
    rw [if_neg]
    rintro rfl
    exact h hc
  rw [← feedReturns_joinReturns, hjoined, feedReturns, List.map_congr_left hkept, List.map_id']

lemma squeeze_of_isSpaced (h : IsSpaced [] IsFull lines) : squeeze lines = lines := by
  have hkept : squeezeFrom false lines = lines := by
    induction h with
    | last h => exact squeezeFrom_false_of_notBlank h []
    | next h _ ih => rw [squeezeFrom_false_of_notBlank h, ih]
    | @gap line rest h hrest ih =>
      obtain ⟨next, more, rfl, hnext⟩ := hrest.exists_cons
      have hpassed : squeezeFrom false ([] :: next :: more) = squeezeFrom true (next :: more) := rfl
      rw [squeezeFrom_false_of_notBlank h, hpassed, squeezeFrom_true_of_notBlank hnext,
        ← squeezeFrom_false_of_notBlank hnext, ih]
  obtain ⟨line, rest, rfl, hline⟩ := h.exists_cons
  rw [squeeze, List.dropWhile_cons_of_neg (Bool.eq_false_iff.1 hline), hkept]

lemma isSpaced_spaced {blocks : List Block} (hne : blocks ≠ []) (h : ∀ b ∈ blocks, b.IsProper) :
    IsSpaced [] IsFull (spaced blocks) := by
  induction blocks with
  | nil => exact absurd rfl hne
  | cons b rest ih =>
    obtain ⟨⟨hline, -⟩, hrest⟩ := List.forall_mem_cons.1 h
    cases rest with
    | nil => exact .last hline
    | cons next more =>
      have hspaced := ih (List.cons_ne_nil next more) hrest
      rw [spaced]
      split
      · exact .next hline hspaced
      · exact .gap hline hspaced

/-- A text is settled if its lines end in line feeds, none of them is blank but for empty ones, and of these there is
at most one between two others. -/
theorem settled_eq_self_iff (hne : s ≠ "") :
    settled s = s ↔ '\r' ∉ s.toList ∧ IsSpaced [] IsFull (cut s.toList) := by
  rw [← String.toList_inj, toList_settled, dropLast_print]
  constructor
  · intro hsettled
    obtain ⟨front, blocks, h⟩ := exists_isLaidOut (cut s.toList)
    rw [squeeze_of_isLaidOut h] at hsettled
    have hblocks : blocks ≠ [] := by
      rintro rfl
      exact hne (String.toList_eq_nil_iff.1 hsettled.symm)
    have hspaced := isSpaced_spaced hblocks h.proper
    have hlines : ∀ line ∈ spaced blocks, ∀ c ∈ line, c ≠ '\n' ∧ c ≠ '\r' :=
      squeeze_of_isLaidOut h ▸ forall_mem_squeeze_cut s.toList
    obtain ⟨line, more, hcons, -⟩ := hspaced.exists_cons
    rw [← hsettled, cut_intercalate (hcons ▸ List.cons_ne_nil line more) hlines]
    refine ⟨fun hmem => ?_, hspaced⟩
    obtain hfeed | ⟨line, hline, hmem⟩ := mem_intercalate_feed hmem
    · exact absurd hfeed (by decide)
    · exact (hlines line hline _ hmem).2 rfl
  · rintro ⟨hreturn, hspaced⟩
    rw [squeeze_of_isSpaced hspaced, intercalate_cut hreturn]

/-- What stands at the end of a text, on one line, stands at the end of its settled form. -/
lemma exists_settled_append (h : IsSolid t) (s : String) : ∃ start, settled (s ++ t) = start ++ t := by
  obtain ⟨ended, last, hlast⟩ := (List.eq_nil_or_concat' (cut s.toList)).resolve_left (cut_ne_nil s.toList)
  obtain ⟨hline, c, hc, hblank⟩ := h
  have hmeet : t.toList.head? ≠ some '\n' := fun hhead => (hline '\n' (List.mem_of_head? hhead)).1 rfl
  have hcut : cut (s ++ t).toList = ended ++ [last ++ t.toList] := by
    rw [String.toList_append, cut_append hmeet hlast, cut_of_oneLine hline]
    rfl
  obtain ⟨kept, hkept⟩ := exists_squeeze_append ended
  have hfull : IsFull (last ++ t.toList) := isFull_append_right (isFull_of_isBlank_eq_false hc hblank) last
  refine ⟨String.ofList (print kept ++ last), ?_⟩
  rw [← String.toList_inj, toList_settled, hcut, hkept _ [] hfull, print_append, print_cons_eq, String.toList_append,
    String.toList_ofList]
  simp [print, squeezeFrom]

end EntityScaffold.Text.Lines
