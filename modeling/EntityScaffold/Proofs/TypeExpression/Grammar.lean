import EntityScaffold.Proofs.TypeExpression.Names
import EntityScaffold.Proofs.TypeExpression.Reading
/-!
# The grammar of type expressions

Which words make a type expression, said without the order in which they are looked at (`IsExpression`): the first is
a base behind an optional mark, with a length or a precision and a scale behind a bar, and those that follow begin
with two hyphens.  Every number in the first word is named along, for that is what reading adds to the grammar: an
expression is read exactly if none of its numbers has more digits than are read (`exists_ofWords_iff`).

Each part of the reader has one lemma that says when it succeeds, and with what; the lemma for the whole is put
together from these, so that it gives the parts of what is read as well (`ofWords_eq_ok_iff`).
-/

namespace EntityScaffold

open Text

/-! ## Cutting at the first separator -/

namespace Text

variable {sep : Char} {cs before after : List Char}

lemma cutAt?_append_cons (h : sep ∉ before) : cutAt? sep (before ++ sep :: after) = some (before, after) := by
  have hbefore : ∀ c ∈ before, (c != sep) = true := fun c hc => bne_iff_ne.2 fun heq => h (heq ▸ hc)
  rw [cutAt?, List.dropWhile_append_of_pos hbefore, List.takeWhile_append_of_pos hbefore,
    List.dropWhile_cons_of_neg (by simp), List.takeWhile_cons_of_neg (by simp), List.append_nil]

/-- A text without the separator is not cut, and every other one is cut where it stands first. -/
lemma cutAt?_cases (sep : Char) (cs : List Char) :
    (sep ∉ cs ∧ cutAt? sep cs = none) ∨
      ∃ before after, cs = before ++ sep :: after ∧ sep ∉ before ∧ cutAt? sep cs = some (before, after) := by
  by_cases h : sep ∈ cs
  · obtain ⟨before, after, rfl, hbefore⟩ := List.eq_append_cons_of_mem h
    exact .inr ⟨before, after, rfl, hbefore, cutAt?_append_cons hbefore⟩
  · have hdrop : cs.dropWhile (· != sep) = [] :=
      List.dropWhile_eq_nil_iff.2 fun c hc => bne_iff_ne.2 fun heq => h (heq ▸ hc)
    exact .inl ⟨h, by rw [cutAt?, hdrop]⟩

end Text

namespace TypeExpression

open ClassName Decimal

variable {cs word suffix : List Char} {words numbers : List (List Char)} {base : String} {m : Modifiers}
  {recognized : List String} {nullable : Bool} {t : TypeExpression}

/-! ## The grammar -/

/-- One or more digits. -/
def IsDigits (cs : List Char) : Prop := cs ≠ [] ∧ ∀ c ∈ cs, isDigit c = true

/-- Identifiers with backslashes between them, and perhaps one before. -/
def IsBase (base : String) : Prop := IsName base ∨ ∃ name, base = "\\" ++ name ∧ IsName name

/-- What stands behind the base, with the numbers that are written in it and with what it says. -/
inductive IsModifier : List Char → List (List Char) → Modifiers → Prop
  | none : IsModifier [] [] {}
  | length {n : List Char} (hn : IsDigits n) : IsModifier ('|' :: n) [n] { length := some (natOfDigits n) }
  | precision {p s : List Char} (hp : IsDigits p) (hs : IsDigits s) :
      IsModifier ('|' :: (p ++ ',' :: s)) [p, s]
        { precision := some (natOfDigits p), scale := some (natOfDigits s) }

/-- The first word of a type expression, with its parts. -/
def IsHead (word : List Char) (numbers : List (List Char)) (nullable : Bool) (base : String) (m : Modifiers) : Prop :=
  ∃ suffix, word = (if nullable then ['?'] else []) ++ (base.toList ++ suffix) ∧ IsBase base ∧
    IsModifier suffix numbers m

/-- The words of a type expression, with the numbers that are written in them. -/
def IsExpression (words numbers : List (List Char)) : Prop :=
  ∃ head flags nullable base m, words = head :: flags ∧ IsHead head numbers nullable base m ∧
    ∀ flag ∈ flags, ['-', '-'] <+: flag

/-- Numbers that do not have too many digits. -/
def AreShort (numbers : List (List Char)) : Prop := ∀ n ∈ numbers, n.length ≤ mostDigits

/-! ## Numbers -/

lemma isNumber_iff : isNumber cs = true ↔ IsDigits cs := by
  simp [isNumber, IsDigits]

lemma number_eq_ok_iff {n : Int} : number cs = .ok n ↔ n = natOfDigits cs ∧ cs.length ≤ mostDigits := by
  unfold number sizeFault?
  split_ifs with h
  · simp [h]
  · simp [Nat.not_lt.1 h, eq_comm]

/-! ## Parts of the first word -/

lemma all_isIdentifierChars_iff (name : String) :
    (name.toList.splitOnP (· == '\\')).all isIdentifierChars = true ↔ IsName name := by
  simp [IsName, pieces, piecesBy, isIdentifier]

lemma isClassName_iff : isClassName base.toList = true ↔ IsBase base := by
  unfold isClassName
  by_cases hfirst : base.toList.head? = some '\\'
  · obtain ⟨rest, hchars⟩ : ∃ rest, base.toList = '\\' :: rest := List.head?_eq_some_iff.1 hfirst
    obtain rfl : base = "\\" ++ String.ofList rest := by simp [← String.toList_inj, hchars]
    have hnot : ¬ IsName ("\\" ++ String.ofList rest) := by
      intro h
      obtain ⟨c, cs, hcons, hc⟩ := h.isProper.exists_cons
      rw [hchars] at hcons
      exact hc (List.cons.inj hcons).1.symm
    have hrest := all_isIdentifierChars_iff (String.ofList rest)
    rw [String.toList_ofList] at hrest
    simp [hchars, hrest, IsBase, hnot, String.append_right_inj]
  · have hnot : ¬ ∃ name, base = "\\" ++ name ∧ IsName name := by
      rintro ⟨name, rfl, -⟩
      exact hfirst (by simp)
    simp only [beq_iff_eq, hfirst, if_false, all_isIdentifierChars_iff, IsBase, hnot, or_false]

lemma IsBase.exists_cons (h : IsBase base) : ∃ c cs, base.toList = c :: cs ∧ c ≠ '?' := by
  rcases h with h | ⟨name, rfl, -⟩
  · obtain ⟨c, cs, hbase, -⟩ := h.isProper.exists_cons
    exact ⟨c, cs, hbase, h.ne (hbase ▸ List.mem_cons_self) (by decide) (by decide)⟩
  · exact ⟨'\\', name.toList, by simp, by decide⟩

/-- No base begins with a mark. -/
lemma IsBase.append_ne (h : IsBase base) (suffix rest : List Char) : base.toList ++ suffix ≠ '?' :: rest := by
  obtain ⟨c, cs, hchars, hc⟩ := h.exists_cons
  simp [hchars, hc]

/-- There is no character in a base that is neither a backslash nor one of an identifier. -/
lemma IsBase.notMem (h : IsBase base) {c : Char} (hc : isIdentifierChar c = false) (hslash : c ≠ '\\') :
    c ∉ base.toList := by
  rcases h with h | ⟨name, rfl, h⟩
  · exact fun hmem => h.ne hmem hc hslash rfl
  · rw [String.toList_append, List.mem_append, not_or]
    exact ⟨fun hmem => hslash (List.mem_singleton.1 hmem), fun hmem => h.ne hmem hc hslash rfl⟩

lemma readBase_eq_ok_iff : readBase cs = .ok base ↔ cs = base.toList ∧ IsBase base := by
  have hne : IsBase base → cs = base.toList → cs ≠ [] := by
    rintro h rfl
    obtain ⟨c, rest, hchars, -⟩ := h.exists_cons
    simp [hchars]
  unfold readBase
  split_ifs with hempty hname
  · exact ⟨nofun, fun ⟨hcs, h⟩ => absurd (List.isEmpty_iff.1 hempty) (hne h hcs)⟩
  · rw [Except.ok.injEq, ← isClassName_iff]
    constructor
    · rintro rfl
      rw [String.toList_ofList]
      exact ⟨rfl, hname⟩
    · rintro ⟨rfl, -⟩
      exact String.ofList_toList
  · exact ⟨nofun, fun ⟨hcs, h⟩ => absurd (isClassName_iff.2 h) (hcs ▸ hname)⟩

lemma IsDigits.notMem {c : Char} (h : IsDigits cs) (hc : isDigit c = false) : c ∉ cs := by
  intro hmem
  rw [h.2 c hmem] at hc
  cases hc

/-- A precision and a scale are not taken for a length, and are cut where they meet. -/
lemma IsDigits.isNumber_pair {p : List Char} (h : IsDigits p) (s : List Char) :
    isNumber (p ++ ',' :: s) = false ∧ cutAt? ',' (p ++ ',' :: s) = some (p, s) := by
  have hcomma : isDigit ',' = false := by decide
  refine ⟨?_, cutAt?_append_cons (h.notMem hcomma)⟩
  rw [Bool.eq_false_iff, ne_eq, isNumber_iff]
  exact fun hpair => hpair.notMem hcomma (List.mem_append_right p List.mem_cons_self)

lemma readModifier_eq_ok_iff :
    readModifier cs = .ok m ↔ ∃ numbers, IsModifier ('|' :: cs) numbers m ∧ AreShort numbers := by
  constructor
  · intro h
    unfold readModifier at h
    split_ifs at h with hlength
    · obtain ⟨n, hn, hpure⟩ := bind_eq_ok_iff.1 h
      cases hpure
      obtain ⟨rfl, hshort⟩ := number_eq_ok_iff.1 hn
      exact ⟨_, .length (isNumber_iff.1 hlength), List.forall_mem_singleton.2 hshort⟩
    · rcases cutAt?_cases ',' cs with ⟨-, hcut⟩ | ⟨p, s, rfl, -, hcut⟩
      · rw [hcut] at h
        cases h
      · simp only [hcut] at h
        split_ifs at h with hboth
        obtain ⟨hpdigits, hsdigits⟩ := Bool.and_eq_true_iff.1 hboth
        obtain ⟨n, hn, h⟩ := bind_eq_ok_iff.1 h
        obtain ⟨k, hk, hpure⟩ := bind_eq_ok_iff.1 h
        cases hpure
        obtain ⟨rfl, hp⟩ := number_eq_ok_iff.1 hn
        obtain ⟨rfl, hs⟩ := number_eq_ok_iff.1 hk
        refine ⟨_, .precision (isNumber_iff.1 hpdigits) (isNumber_iff.1 hsdigits), ?_⟩
        exact List.forall_mem_cons.2 ⟨hp, List.forall_mem_singleton.2 hs⟩
  · rintro ⟨numbers, hm, hshort⟩
    have hnumber : ∀ n ∈ numbers, number n = .ok (natOfDigits n) := fun n hn =>
      number_eq_ok_iff.2 ⟨rfl, hshort n hn⟩
    cases hm with
    | length hn =>
      have hok := hnumber cs (List.mem_singleton_self cs)
      simp [readModifier, isNumber_iff.2 hn, hok]
    | @precision p s hp hs =>
      obtain ⟨hnot, hcut⟩ := hp.isNumber_pair s
      have hp' := hnumber p List.mem_cons_self
      have hs' := hnumber s (List.mem_cons_of_mem p (List.mem_singleton_self s))
      simp [readModifier, hnot, hcut, isNumber_iff.2 hp, isNumber_iff.2 hs, hp', hs']

/-- Where there is a modifier, a word is cut before it: there is no bar in a base, so the first one is that of the
modifier. -/
lemma cutAt?_of_isModifier (hm : IsModifier suffix numbers m) (hbase : IsBase base) :
    (suffix = [] ∧ numbers = [] ∧ m = {} ∧ cutAt? '|' base.toList = none) ∨
      ∃ cs, suffix = '|' :: cs ∧ cutAt? '|' (base.toList ++ suffix) = some (base.toList, cs) := by
  have hbar : '|' ∉ base.toList := hbase.notMem (by decide) (by decide)
  cases hm with
  | none =>
    rcases cutAt?_cases '|' base.toList with ⟨-, hnone⟩ | ⟨before, after, heq, -, -⟩
    · exact .inl ⟨rfl, rfl, rfl, hnone⟩
    · exact absurd (heq ▸ by simp) hbar
  | length hn => exact .inr ⟨_, rfl, cutAt?_append_cons hbar⟩
  | precision hp hs => exact .inr ⟨_, rfl, cutAt?_append_cons hbar⟩

lemma readHead_eq_ok_iff : readHead cs = .ok (base, m) ↔
    ∃ suffix numbers, cs = base.toList ++ suffix ∧ IsBase base ∧ IsModifier suffix numbers m ∧ AreShort numbers := by
  constructor
  · intro h
    unfold readHead at h
    rcases cutAt?_cases '|' cs with ⟨-, hcut⟩ | ⟨before, after, rfl, -, hcut⟩
    · rw [hcut] at h
      obtain ⟨base', hread, hpure⟩ := bind_eq_ok_iff.1 h
      cases hpure
      obtain ⟨rfl, hbase⟩ := readBase_eq_ok_iff.1 hread
      exact ⟨[], [], (List.append_nil _).symm, hbase, .none, nofun⟩
    · rw [hcut] at h
      obtain ⟨m', hm, h⟩ := bind_eq_ok_iff.1 h
      obtain ⟨base', hread, hpure⟩ := bind_eq_ok_iff.1 h
      cases hpure
      obtain ⟨rfl, hbase⟩ := readBase_eq_ok_iff.1 hread
      obtain ⟨numbers, hm, hshort⟩ := readModifier_eq_ok_iff.1 hm
      exact ⟨_, numbers, rfl, hbase, hm, hshort⟩
  · rintro ⟨suffix, numbers, rfl, hbase, hm, hshort⟩
    have hread : readBase base.toList = .ok base := readBase_eq_ok_iff.2 ⟨rfl, hbase⟩
    rcases cutAt?_of_isModifier hm hbase with ⟨rfl, rfl, rfl, hcut⟩ | ⟨cs, rfl, hcut⟩
    · simp [readHead, hcut, hread]
    · have hmodifier : readModifier cs = .ok m := readModifier_eq_ok_iff.2 ⟨numbers, hm, hshort⟩
      simp [readHead, hcut, hmodifier, hread]

/-! ## Whole expressions -/

/-- The mark is read off; there is one if what is behind it does not begin with another. -/
lemma readNullable_eq_iff (hcs : ∀ rest, cs ≠ '?' :: rest) :
    readNullable word = (nullable, cs) ↔ word = (if nullable then ['?'] else []) ++ cs := by
  unfold readNullable
  split
  · next rest =>
    cases nullable with
    | false => simpa using (hcs rest).symm
    | true => simp
  · next hword =>
    cases nullable with
    | false => simp
    | true => simpa using hword cs

theorem ofWords_eq_ok_iff : ofWords recognized words = .ok t ↔
    ∃ head rest numbers m, words = head :: rest ∧ IsHead head numbers t.nullable t.base m ∧ AreShort numbers ∧
      readFlags recognized [] rest = .ok t.modifiers.flags ∧ t.modifiers = { m with flags := t.modifiers.flags } := by
  constructor
  · intro h
    cases words with
    | nil => cases h
    | cons head rest =>
      obtain ⟨flags, hflags, h⟩ := bind_eq_ok_iff.1 h
      obtain ⟨⟨base, m⟩, hhead, hpure⟩ := bind_eq_ok_iff.1 h
      cases hpure
      obtain ⟨suffix, numbers, hcs, hbase, hm, hshort⟩ := readHead_eq_ok_iff.1 hhead
      have hword := (readNullable_eq_iff (hbase.append_ne suffix)).1 (Prod.ext rfl hcs)
      exact ⟨head, rest, numbers, m, rfl, ⟨suffix, hword, hbase, hm⟩, hshort, hflags, rfl⟩
  · rintro ⟨head, rest, numbers, m, rfl, ⟨suffix, hword, hbase, hm⟩, hshort, hflags, ht⟩
    have hnullable := (readNullable_eq_iff (hbase.append_ne suffix)).2 hword
    have hhead := readHead_eq_ok_iff.2 ⟨suffix, numbers, rfl, hbase, hm, hshort⟩
    simp only [ofWords, hflags, ok_bind, hnullable, hhead, ← ht]
    rfl

/-- The words that are read are those of the expressions without too long a number. -/
theorem exists_ofWords_iff (recognized : List String) (words : List (List Char)) :
    (∃ t, ofWords recognized words = .ok t) ↔ ∃ numbers, IsExpression words numbers ∧ AreShort numbers := by
  constructor
  · rintro ⟨t, ht⟩
    obtain ⟨head, rest, numbers, m, rfl, hhead, hshort, hflags, -⟩ := ofWords_eq_ok_iff.1 ht
    refine ⟨numbers, ⟨head, rest, t.nullable, t.base, m, rfl, hhead, ?_⟩, hshort⟩
    rcases readFlags_cases recognized [] rest with ⟨-, -, hrest⟩ | ⟨word, herror, -⟩
    · exact hrest
    · rw [herror] at hflags
      cases hflags
  · rintro ⟨numbers, ⟨head, rest, nullable, base, m, rfl, hhead, hrest⟩, hshort⟩
    rcases readFlags_cases recognized [] rest with ⟨flags, hflags, -⟩ | ⟨-, -, hnot⟩
    · exact ⟨⟨nullable, base, { m with flags := flags }⟩,
        ofWords_eq_ok_iff.2 ⟨head, rest, numbers, m, rfl, hhead, hshort, hflags, rfl⟩⟩
    · exact absurd hrest hnot

/-- The numbers of a modifier are those that are looked at. -/
lemma IsModifier.modifierNumbers_eq (h : IsModifier ('|' :: cs) numbers m) : modifierNumbers cs = numbers := by
  cases h with
  | length hn => simp [modifierNumbers, isNumber_iff.2 hn]
  | @precision p s hp hs =>
    obtain ⟨hnot, hcut⟩ := hp.isNumber_pair s
    simp [modifierNumbers, hnot, hcut, isNumber_iff.2 hp, isNumber_iff.2 hs]

/-- An expression has a number that is too long exactly if one of its numbers is. -/
lemma IsExpression.hasLongNumber_iff (h : IsExpression words numbers) : HasLongNumber words ↔ ¬ AreShort numbers := by
  obtain ⟨head, flags, nullable, base, m, rfl, ⟨suffix, hword, hbase, hm⟩, hflags⟩ := h
  have hrest : (readNullable head).2 = base.toList ++ suffix :=
    congrArg Prod.snd ((readNullable_eq_iff (hbase.append_ne suffix)).2 hword)
  have hlong : HasLongNumber (head :: flags) ↔ ∃ before modifier, cutAt? '|' (base.toList ++ suffix) =
      some (before, modifier) ∧ ∃ digits ∈ modifierNumbers modifier, mostDigits < digits.length := by
    rw [← hrest]
    constructor
    · rintro ⟨_, _, before, modifier, heq, -, hcut, hdigits⟩
      cases heq
      exact ⟨before, modifier, hcut, hdigits⟩
    · rintro ⟨before, modifier, hcut, hdigits⟩
      exact ⟨head, flags, before, modifier, rfl, hflags, hcut, hdigits⟩
  rw [hlong]
  rcases cutAt?_of_isModifier hm hbase with ⟨rfl, rfl, rfl, hcut⟩ | ⟨cs, rfl, hcut⟩
  · simp [hcut, AreShort]
  · simp [hcut, hm.modifierNumbers_eq, AreShort]

end TypeExpression

end EntityScaffold
