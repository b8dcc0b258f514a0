import EntityScaffold.Proofs.Text.Lines
import EntityScaffold.Proofs.Text.Strip
/-!
# The normal form in passes

A text can be brought into blank-line normal form by passes over its characters, each of which repairs one thing:
line ends, blanks on blank lines, what stands before the first line, runs of line feeds, and the end (`passes`).  The
passes get into each other's way, since a line of blanks ends a run of line feeds for one pass and is part of it for
the next, and so their order matters.

`normalize_eq_passes` shows that nothing is left out.  What each pass does to the lines of a text is said on its own,
and the last two are taken together: however many line feeds have been passed, up to two, the passes write what is
written for lines behind a gap or not (`dropEndWhile_shortenRuns`).
-/

namespace EntityScaffold.Text.Lines

/-! ## The passes -/

/-- A carriage return with a line feed becomes a line feed. -/
def joinReturns : List Char → List Char
  | [] => []
  | '\r' :: '\n' :: rest => '\n' :: joinReturns rest
  | c :: rest => c :: joinReturns rest

/-- A carriage return becomes a line feed. -/
def feedReturns (cs : List Char) : List Char := cs.map fun c => if c = '\r' then '\n' else c

/-- A line without what is on it, if that is blank. -/
def clearLine (line : List Char) : List Char := if isBlankLine line then [] else line

/-- Lines of blanks become empty. -/
def clearBlankLines (cs : List Char) : List Char := ['\n'].intercalate ((cs.splitOn '\n').map clearLine)

/-- Drop the lines of blanks that a text begins with, each with its line feed; `passed` are the blanks of the line
that is looked at. -/
def dropBlankLines (passed : List Char) : List Char → List Char
  | [] => passed
  | c :: rest =>
    if c = '\n' then dropBlankLines [] rest
    else if c = ' ' ∨ c = '\t' then dropBlankLines (passed ++ [c]) rest
    else passed ++ c :: rest

/-- Keep two line feeds of each longer run; `run` counts those that are kept so far. -/
def shortenRuns (run : Nat) : List Char → List Char
  | [] => []
  | c :: rest =>
    if c = '\n' then
      if run < 2 then c :: shortenRuns (run + 1) rest else shortenRuns run rest
    else c :: shortenRuns 0 rest

/-- End a text with a line feed, if there is one. -/
def endLine (cs : List Char) : List Char := if cs = [] then [] else cs ++ ['\n']

/-- A text after all passes. -/
def passes (cs : List Char) : List Char :=
  let cs := clearBlankLines (feedReturns (joinReturns cs))
  endLine (dropEndWhile (· == '\n') (shortenRuns 0 (dropBlankLines [] cs)))

/-! ## Lines behind others -/

variable {line cs rest : List Char} {lines : List (List Char)} {passed : List Char}

/-- Lines as they stand behind another. -/
def following (lines : List (List Char)) : List Char := lines.flatMap ('\n' :: ·)

lemma intercalate_cons (line : List Char) (lines : List (List Char)) :
    ['\n'].intercalate (line :: lines) = line ++ following lines := by
  induction lines generalizing line with
  | nil => simp [following]
  | cons next lines ih =>
    rw [List.intercalate_cons_cons, ih next]
    simp [following]

lemma print_cons (line : List Char) (lines : List (List Char)) :
    print (line :: lines) = line ++ following lines ++ ['\n'] := by
  induction lines generalizing line with
  | nil => simp [print, following]
  | cons next lines ih =>
    have hprint : print (line :: next :: lines) = line ++ ['\n'] ++ print (next :: lines) := List.flatMap_cons
    rw [hprint, ih next]
    simp [following]

/-! ## Line ends -/

lemma intercalate_nil_cons (hne : lines ≠ []) :
    ['\n'].intercalate ([] :: lines) = '\n' :: ['\n'].intercalate lines := by
  obtain ⟨line, more, rfl⟩ := List.exists_cons_of_ne_nil hne
  rfl

lemma intercalate_modifyHead (c : Char) (hne : lines ≠ []) :
    ['\n'].intercalate (lines.modifyHead (c :: ·)) = c :: ['\n'].intercalate lines := by
  obtain ⟨line, more, rfl⟩ := List.exists_cons_of_ne_nil hne
  rw [List.modifyHead_cons, intercalate_cons, intercalate_cons]
  rfl

/-- After the passes over line ends, the line feeds stand where the lines of the text end. -/
lemma feedReturns_joinReturns (cs : List Char) : feedReturns (joinReturns cs) = ['\n'].intercalate (cut cs) := by
  induction cs using cut.induct with
  | case1 => rfl
  | case2 rest ih =>
    rw [cut, intercalate_nil_cons (cut_ne_nil rest), ← ih]
    rfl
  | case3 rest hfeed ih =>
    rw [cut, intercalate_nil_cons (cut_ne_nil rest), ← ih, joinReturns]
    · rfl
    · exact fun more _ hrest => hfeed more hrest
    · exact hfeed
  | case4 rest ih =>
    rw [cut, intercalate_nil_cons (cut_ne_nil rest), ← ih]
    rfl
  | case5 c rest hboth hreturn hfeed ih =>
    rw [cut, intercalate_modifyHead c (cut_ne_nil rest), ← ih, joinReturns, feedReturns, List.map_cons, if_neg hreturn]
    · rfl
    all_goals assumption

lemma forall_mem_cut (cs : List Char) : ∀ line ∈ cut cs, ∀ c ∈ line, c ≠ '\n' ∧ c ≠ '\r' := by
  induction cs using cut.induct with
  | case1 => simp [cut]
  | case2 rest ih | case4 rest ih =>
    rw [cut]
    exact List.forall_mem_cons.2 ⟨List.forall_mem_nil _, ih⟩
  | case3 rest hfeed ih =>
    rw [cut]
    · exact List.forall_mem_cons.2 ⟨List.forall_mem_nil _, ih⟩
    · exact hfeed
  | case5 c rest hboth hreturn hfeed ih =>
    obtain ⟨line, more, hlines⟩ := List.exists_cons_of_ne_nil (cut_ne_nil rest)
    rw [hlines] at ih
    obtain ⟨hline, hmore⟩ := List.forall_mem_cons.1 ih
    rw [cut, hlines, List.modifyHead_cons]
    · exact List.forall_mem_cons.2 ⟨List.forall_mem_cons.2 ⟨⟨hfeed, hreturn⟩, hline⟩, hmore⟩
    all_goals assumption

/-! ## Blank lines -/

lemma clearBlankLines_intercalate (hne : lines ≠ []) (h : ∀ line ∈ lines, '\n' ∉ line) :
    clearBlankLines (['\n'].intercalate lines) = ['\n'].intercalate (lines.map clearLine) := by
  rw [clearBlankLines, List.splitOn_intercalate '\n' h hne]

/-- A line that is not blank is not dropped. -/
lemma dropBlankLines_append (hline : isBlankLine line = false) (hfeed : '\n' ∉ line) (passed rest : List Char) :
    dropBlankLines passed (line ++ rest) = passed ++ (line ++ rest) := by
  induction line generalizing passed with
  | nil => cases hline
  | cons c line ih =>
    obtain ⟨hc, hmore⟩ := List.ne_and_not_mem_of_not_mem_cons hfeed
    rw [List.cons_append, dropBlankLines, if_neg hc.symm]
    split_ifs with hblank
    · have hline' : isBlankLine line = false := by
        rcases hblank with rfl | rfl
        · exact hline
        · exact hline
      rw [ih hline' hmore, List.append_assoc]
      rfl
    · rfl

lemma dropBlankLines_intercalate (h : ∀ line ∈ lines, '\n' ∉ line) :
    dropBlankLines [] (['\n'].intercalate (lines.map clearLine)) =
      ['\n'].intercalate ((lines.dropWhile isBlankLine).map clearLine) := by
  induction lines with
  | nil => rfl
  | cons line lines ih =>
    obtain ⟨hline, hlines⟩ := List.forall_mem_cons.1 h
    by_cases hblank : isBlankLine line = true
    · rw [List.dropWhile_cons_of_pos hblank, ← ih hlines, List.map_cons, clearLine, if_pos hblank]
      cases lines with
      | nil => rfl
      | cons next more => rfl
    · rw [List.dropWhile_cons_of_neg hblank, List.map_cons, clearLine, if_neg hblank, intercalate_cons,
        dropBlankLines_append (Bool.eq_false_iff.2 hblank) hline]
      rfl

/-! ## Runs of line feeds -/

lemma shortenRuns_append (hne : line ≠ []) (hfeed : '\n' ∉ line) (run : Nat) (rest : List Char) :
    shortenRuns run (line ++ rest) = line ++ shortenRuns 0 rest := by
  induction line generalizing run with
  | nil => exact absurd rfl hne
  | cons c line ih =>
    obtain ⟨hc, hmore⟩ := List.ne_and_not_mem_of_not_mem_cons hfeed
    rw [List.cons_append, shortenRuns, if_neg hc.symm]
    cases line with
    | nil => rfl
    | cons d line => rw [ih (List.cons_ne_nil d line) hmore]; rfl

/-- What is before a character that is kept is kept. -/
lemma dropEndWhile_append_cons {p : Char → Bool} {c : Char} (hc : ¬ p c = true) (before rest : List Char) :
    dropEndWhile p (before ++ c :: rest) = before ++ c :: dropEndWhile p rest := by
  have hreverse : (before ++ c :: rest).reverse = rest.reverse ++ c :: before.reverse := by simp
  rw [dropEndWhile, hreverse, List.dropWhile_append, dropEndWhile]
  split_ifs with hrest
  · simp [List.isEmpty_iff.1 hrest, List.dropWhile_cons_of_neg hc]
  · simp

lemma dropEndWhile_append (hne : line ≠ []) (hfeed : '\n' ∉ line) (before rest : List Char) :
    dropEndWhile (· == '\n') (before ++ (line ++ rest)) = before ++ (line ++ dropEndWhile (· == '\n') rest) := by
  obtain ⟨init, c, rfl⟩ := (List.eq_nil_or_concat' line).resolve_left hne
  have hc : ¬ (c == '\n') = true := by
    rw [beq_iff_eq]
    rintro rfl
    exact hfeed (List.mem_append_right init List.mem_cons_self)
  have hkept := dropEndWhile_append_cons (p := (· == '\n')) hc (before ++ init) rest
  simpa only [List.append_assoc, List.singleton_append] using hkept

/-- One line feed more is passed, or it is one too many. -/
lemma replicate_shortenRuns {run : Nat} (hrun : run ≤ 2) (rest : List Char) :
    List.replicate run '\n' ++ shortenRuns run ('\n' :: rest) =
      List.replicate (min (run + 1) 2) '\n' ++ shortenRuns (min (run + 1) 2) rest := by
  rw [shortenRuns, if_pos rfl]
  split_ifs with h
  · rw [Nat.min_eq_left h, List.replicate_succ', List.append_assoc]
    rfl
  · obtain rfl : run = 2 := by omega
    rfl

/-- Line feeds that have been passed, at most two of them, and the lines behind them: the passes over runs and over
the end write what is left of the lines, where a line feed that has been passed is a gap. -/
theorem dropEndWhile_shortenRuns (h : ∀ line ∈ lines, '\n' ∉ line) {run : Nat} (hrun : run ≤ 2) :
    dropEndWhile (· == '\n') (List.replicate run '\n' ++ shortenRuns run (following (lines.map clearLine))) =
      following (squeezeFrom (run != 0) lines) := by
  induction lines generalizing run with
  | nil =>
    have hfeeds : ∀ c ∈ List.replicate run '\n', (c == '\n') = true := by simp
    rw [following, List.map_nil, List.flatMap_nil, shortenRuns, List.append_nil, squeezeFrom,
      dropEndWhile_eq_rdropWhile, List.rdropWhile_eq_nil_iff.2 hfeeds]
    rfl
  | cons line lines ih =>
    obtain ⟨hline, hlines⟩ := List.forall_mem_cons.1 h
    have hfollowing (first : List Char) (more : List (List Char)) :
        following (first :: more) = '\n' :: (first ++ following more) := rfl
    rw [List.map_cons, hfollowing, replicate_shortenRuns hrun, squeezeFrom]
    by_cases hblank : isBlankLine line = true
    · have hpassed : (min (run + 1) 2 != 0) = true := by simp
      rw [clearLine, if_pos hblank, if_pos hblank, List.nil_append, ih hlines (Nat.min_le_right _ _), hpassed]
    · have hne : line ≠ [] := by
        rintro rfl
        exact hblank rfl
      have hrest := ih hlines (Nat.zero_le 2)
      rw [List.replicate_zero, List.nil_append] at hrest
      rw [clearLine, if_neg hblank, if_neg hblank, shortenRuns_append hne hline, dropEndWhile_append hne hline, hrest]
      obtain rfl | hpassed : run = 0 ∨ run ≠ 0 := Nat.eq_zero_or_pos run |>.imp_right Nat.ne_of_gt
      · rfl
      · have htwo : min (run + 1) 2 = 2 := by omega
        rw [htwo, if_pos (bne_iff_ne.2 hpassed)]
        rfl

/-! ## All passes -/

lemma print_squeeze_cut (cs : List Char) : print (squeeze (cut cs)) = passes cs := by
  have hfeed : ∀ line ∈ cut cs, '\n' ∉ line := fun line hline hmem => (forall_mem_cut cs line hline '\n' hmem).1 rfl
  rw [passes, feedReturns_joinReturns, clearBlankLines_intercalate (cut_ne_nil cs) hfeed,
    dropBlankLines_intercalate hfeed, squeeze]
  cases hlines : (cut cs).dropWhile isBlankLine with
  | nil => rfl
  | cons line lines =>
    have hsub : line :: lines ⊆ cut cs := hlines ▸ (List.dropWhile_sublist isBlankLine).subset
    have hline : '\n' ∉ line := hfeed line (hsub List.mem_cons_self)
    have hrest : ∀ line ∈ lines, '\n' ∉ line := fun line h => hfeed line (hsub (List.mem_cons_of_mem _ h))
    have hblank : ¬ isBlankLine line = true := by
      have hfirst := List.head?_dropWhile_not isBlankLine (cut cs)
      rw [hlines] at hfirst
      exact Bool.eq_false_iff.1 hfirst
    have hne : line ≠ [] := by
      rintro rfl
      exact hblank rfl
    have hruns : dropEndWhile (· == '\n') (shortenRuns 0 (following (lines.map clearLine))) =
        following (squeezeFrom false lines) := dropEndWhile_shortenRuns hrest (Nat.zero_le 2)
    have hkept := dropEndWhile_append hne hline [] (shortenRuns 0 (following (lines.map clearLine)))
    have hend : line ++ following (squeezeFrom false lines) ≠ [] := List.append_ne_nil_of_left_ne_nil hne _
    rw [List.nil_append, List.nil_append, hruns] at hkept
    rw [squeezeFrom, if_neg hblank, if_neg Bool.false_ne_true, print_cons, List.map_cons, clearLine, if_neg hblank,
      intercalate_cons, shortenRuns_append hne hline, hkept, endLine, if_neg hend]

/-- The passes bring a text into normal form. -/
theorem normalize_eq_passes (s : String) : normalize s = through passes s :=
  congrArg String.ofList (print_squeeze_cut s.toList)

end EntityScaffold.Text.Lines
