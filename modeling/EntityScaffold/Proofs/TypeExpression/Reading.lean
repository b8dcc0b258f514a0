import EntityScaffold.Proofs.Resolver
import EntityScaffold.TypeExpression.Outcome
/-!
# When a type expression cannot be read

Reading a type expression is meant to end in an outcome or in a rejection, and there are two kinds of text for
which it ends in neither: one with a number of more digits than are read (`TypeExpression.HasLongNumber`), and
one whose base names a class that cannot be looked for (`Resolver.GetsStuck`).  `TypeReader.CannotRead` says
this of a text; by `read_of_cannotRead` such a text is never turned down, and by `read_error` every other one that
is not read is.  The numbers that are read can be shown again (`isShowable_of_read`).
-/

namespace EntityScaffold

open Decimal Text

namespace TypeExpression

variable {cs : List Char} {words : List (List Char)} {recognized : List String} {fault : TypeFault}

/-! ## Numbers that are too long -/

/-- The numbers of a modifier: a length, or a precision and a scale.  A modifier that is anything else has
none. -/
def modifierNumbers (cs : List Char) : List (List Char) :=
  if isNumber cs then [cs]
  else
    match cutAt? ',' cs with
    | some (precision, scale) =>
      if isNumber precision && isNumber scale then [precision, scale] else []
    | none => []

/-- A type expression with flags only after its first word, and a number in that which is too long.  Nothing
is asked of the base, which is looked at last. -/
def HasLongNumber (words : List (List Char)) : Prop :=
  ∃ head flags base modifier, words = head :: flags ∧ (∀ word ∈ flags, ['-', '-'] <+: word) ∧
    cutAt? '|' (readNullable head).2 = some (base, modifier) ∧
    ∃ digits ∈ modifierNumbers modifier, mostDigits < digits.length

lemma number_eq_error_iff :
    number cs = .error fault ↔ mostDigits < cs.length ∧ fault = .number (.written cs.length) := by
  unfold number sizeFault?
  split_ifs with h
  · simp [h, eq_comm]
  · simp [h]

/-- A digit text is read as a number, or it is too long. -/
lemma number_cases (cs : List Char) :
    (∃ n, number cs = .ok n ∧ ¬ mostDigits < cs.length) ∨
      ∃ size, number cs = .error (.number size) ∧ mostDigits < cs.length := by
  cases h : number cs with
  | ok n =>
    refine Or.inl ⟨n, rfl, fun hlong => ?_⟩
    rw [number_eq_error_iff.2 ⟨hlong, rfl⟩] at h
    cases h
  | error fault =>
    obtain ⟨hlong, rfl⟩ := number_eq_error_iff.1 h
    exact Or.inr ⟨_, rfl, hlong⟩

lemma readModifier_eq_number_iff : (∃ size, readModifier cs = .error (.number size)) ↔
    ∃ digits ∈ modifierNumbers cs, mostDigits < digits.length := by
  unfold readModifier modifierNumbers
  by_cases hlength : isNumber cs = true
  · rcases number_cases cs with ⟨n, hn, hshort⟩ | ⟨size, hsize, hlong⟩
    · simp [hlength, hn, Nat.not_lt.1 hshort]
    · simp [hlength, hsize, hlong]
  · cases hcut : cutAt? ',' cs with
    | none => simp [hlength]
    | some pair =>
      obtain ⟨p, s⟩ := pair
      by_cases hboth : (isNumber p && isNumber s) = true
      · rcases number_cases p with ⟨n, hn, hshort⟩ | ⟨size, hsize, hlong⟩
        · rcases number_cases s with ⟨m, hm, hshort'⟩ | ⟨size, hsize, hlong⟩
          · simp [hlength, hboth, hn, hm, hshort, hshort']
          · simp [hlength, hboth, hn, hsize, hlong]
        · simp [hlength, hboth, hsize, hlong]
      · simp [hlength, hboth]

/-! ## Numbers that are read -/

lemma digitValue?_lt {c : Char} {d : Nat} (h : digitValue? c = some d) : d < 10 := by
  unfold digitValue? at h
  split_ifs at h with hascii hdigit
  · have hlast : c.toNat ≤ 57 := (Bool.and_eq_true_iff.1 hdigit).2 |> of_decide_eq_true
    cases h
    omega
  · obtain ⟨first, hfirst, rfl⟩ := Option.map_eq_some_iff.1 h
    have hrange := List.find?_some hfirst
    simp only [Bool.and_eq_true, decide_eq_true_iff] at hrange
    omega

lemma foldl_digits_lt {ds : List Nat} (h : ∀ d ∈ ds, d < 10) (n : Nat) :
    ds.foldl (fun n d => 10 * n + d) n < (n + 1) * Nat.pow 10 ds.length := by
  induction ds generalizing n with
  | nil => exact Nat.lt_of_lt_of_eq n.lt_succ_self (Nat.mul_one _).symm
  | cons d rest ih =>
    obtain ⟨hd, hrest⟩ := List.forall_mem_cons.1 h
    calc rest.foldl (fun n d => 10 * n + d) (10 * n + d)
        < (10 * n + d + 1) * Nat.pow 10 rest.length := ih hrest _
      _ ≤ (n + 1) * 10 * Nat.pow 10 rest.length := Nat.mul_le_mul_right _ (by omega)
      _ = (n + 1) * (Nat.pow 10 rest.length * 10) := by rw [Nat.mul_assoc, Nat.mul_comm 10]

/-- As many digits as a number has, so large it is at most. -/
lemma natOfDigits_lt (cs : List Char) : natOfDigits cs < Nat.pow 10 cs.length := by
  have hdigits : ∀ d ∈ cs.filterMap digitValue?, d < 10 := by
    intro d hd
    obtain ⟨c, -, hc⟩ := List.mem_filterMap.1 hd
    exact digitValue?_lt hc
  calc natOfDigits cs < (0 + 1) * Nat.pow 10 (cs.filterMap digitValue?).length := foldl_digits_lt hdigits 0
    _ = Nat.pow 10 (cs.filterMap digitValue?).length := by rw [Nat.zero_add, Nat.one_mul]
    _ ≤ Nat.pow 10 cs.length := Nat.pow_le_pow_right (by decide) (List.length_filterMap_le _ _)

/-- A number that was read can be shown. -/
lemma isShowable_of_number {n : Int} (h : number cs = .ok n) : isShowable n = true := by
  unfold number sizeFault? at h
  split_ifs at h with hlong
  cases h
  -- The greatest size is only compared; its value would make the power a number to compute.
  unfold isShowable
  generalize mostDigits = most at hlong ⊢
  exact decide_eq_true ((natOfDigits_lt cs).trans_le (Nat.pow_le_pow_right (by decide) (Nat.not_lt.1 hlong)))

lemma isShowable_of_readModifier {m : Modifiers} (h : readModifier cs = .ok m) : m.isShowable = true := by
  unfold readModifier at h
  split_ifs at h with hlength
  · obtain ⟨n, hn, h⟩ := bind_eq_ok_iff.1 h
    cases h
    simp [Modifiers.isShowable, Modifiers.numbers, isShowable_of_number hn]
  · split at h
    · split_ifs at h with hboth
      obtain ⟨precision, hprecision, h⟩ := bind_eq_ok_iff.1 h
      obtain ⟨scale, hscale, h⟩ := bind_eq_ok_iff.1 h
      cases h
      simp [Modifiers.isShowable, Modifiers.numbers, isShowable_of_number hprecision, isShowable_of_number hscale]
    · cases h

lemma isShowable_of_readHead {base : String} {m : Modifiers} (h : readHead cs = .ok (base, m)) :
    m.isShowable = true := by
  unfold readHead at h
  split at h
  · obtain ⟨m', hm, h⟩ := bind_eq_ok_iff.1 h
    obtain ⟨base', -, h⟩ := bind_eq_ok_iff.1 h
    cases h
    exact isShowable_of_readModifier hm
  · obtain ⟨base', -, h⟩ := bind_eq_ok_iff.1 h
    cases h
    rfl

/-- The numbers of a type expression that was read can be shown. -/
theorem isShowable_of_read {token : Option String} {t : TypeExpression} (h : read recognized token = .ok t) :
    t.modifiers.isShowable = true := by
  unfold read at h
  split at h
  · next t' ht =>
    cases h
    unfold split ofWords at ht
    split at ht
    · cases ht
    · obtain ⟨flags, -, ht⟩ := bind_eq_ok_iff.1 ht
      obtain ⟨⟨base, m⟩, hhead, ht⟩ := bind_eq_ok_iff.1 ht
      cases ht
      have hshown : m.isShowable = true := isShowable_of_readHead hhead
      exact hshown
  · cases h
  · cases h

/-! ## The order of reading -/

lemma readFlag_cases (word : List Char) :
    (∃ flag, readFlag word = .ok flag ∧ ['-', '-'] <+: word) ∨
      readFlag word = .error (.strayWord (String.ofList word)) ∧ ¬ ['-', '-'] <+: word := by
  unfold readFlag
  split
  · next flag => exact Or.inl ⟨_, rfl, flag, rfl⟩
  · next hword =>
    refine Or.inr ⟨rfl, ?_⟩
    rintro ⟨flag, rfl⟩
    exact hword flag rfl

/-- The flags so far and one more, if it is recognized and not among them. -/
def addFlag (recognized seen : List String) (flag : String) : List String :=
  if recognized.contains flag && !seen.contains flag then seen ++ [flag] else seen

lemma addFlag_of_new {seen : List String} {flag : String} (hflag : flag ∈ recognized) (hnew : flag ∉ seen) :
    addFlag recognized seen flag = seen ++ [flag] := by
  simp [addFlag, hflag, hnew]

lemma addFlag_eq_self {seen : List String} {flag : String} (h : flag ∉ recognized ∨ flag ∈ seen) :
    addFlag recognized seen flag = seen := by
  rcases h with h | h <;> simp [addFlag, h]

lemma mem_addFlag_self {flag : String} (hflag : flag ∈ recognized) (seen : List String) :
    flag ∈ addFlag recognized seen flag := by
  by_cases hseen : flag ∈ seen
  · rwa [addFlag_eq_self (.inr hseen)]
  · rw [addFlag_of_new hflag hseen]
    exact List.mem_concat_self

lemma subset_addFlag (recognized seen : List String) (flag : String) : seen ⊆ addFlag recognized seen flag := by
  unfold addFlag
  split
  · exact List.subset_append_left seen [flag]
  · exact List.Subset.refl seen

lemma readFlags_cons (recognized seen : List String) (word : List Char) (rest : List (List Char)) :
    readFlags recognized seen (word :: rest) =
      readFlag word >>= fun flag => readFlags recognized (addFlag recognized seen flag) rest := rfl

/-- Flags are read where all words are flags, and otherwise one of the words is at fault. -/
lemma readFlags_cases (recognized seen : List String) (words : List (List Char)) :
    (∃ flags, readFlags recognized seen words = .ok flags ∧ ∀ word ∈ words, ['-', '-'] <+: word) ∨
      ∃ word, readFlags recognized seen words = .error (.strayWord word) ∧
        ¬ ∀ word ∈ words, ['-', '-'] <+: word := by
  induction words generalizing seen with
  | nil => exact Or.inl ⟨seen, rfl, nofun⟩
  | cons word rest ih =>
    rw [readFlags_cons]
    rcases readFlag_cases word with ⟨flag, hflag, hword⟩ | ⟨hflag, hword⟩
    · rw [hflag]
      rcases ih (addFlag recognized seen flag) with ⟨flags, hflags, hrest⟩ | ⟨stray, hstray, hrest⟩
      · exact Or.inl ⟨flags, hflags, List.forall_mem_cons.2 ⟨hword, hrest⟩⟩
      · exact Or.inr ⟨stray, hstray, fun hall => hrest (List.forall_mem_cons.1 hall).2⟩
    · rw [hflag]
      exact Or.inr ⟨_, rfl, fun hall => hword (List.forall_mem_cons.1 hall).1⟩

lemma readBase_ne_number {size : SizeFault} : readBase cs ≠ .error (.number size) := by
  unfold readBase
  split_ifs <;> simp

lemma readHead_eq_number_iff : (∃ size, readHead cs = .error (.number size)) ↔
    ∃ base modifier, cutAt? '|' cs = some (base, modifier) ∧
      ∃ digits ∈ modifierNumbers modifier, mostDigits < digits.length := by
  unfold readHead
  cases hcut : cutAt? '|' cs with
  | none => simp only [bind_eq_error_iff, readBase_ne_number, pure_ne_error]; simp
  | some pair =>
    obtain ⟨base, modifier⟩ := pair
    simp only [bind_eq_error_iff, readBase_ne_number, pure_ne_error, and_false, exists_false,
      or_false, readModifier_eq_number_iff]
    simp

/-- A number is what a type expression fails for exactly when it has one that is too long. -/
lemma ofWords_eq_number_iff :
    (∃ size, ofWords recognized words = .error (.number size)) ↔ HasLongNumber words := by
  cases words with
  | nil => simp [ofWords, HasLongNumber]
  | cons head rest =>
    have hlong : HasLongNumber (head :: rest) ↔ (∀ word ∈ rest, ['-', '-'] <+: word) ∧
        ∃ size, readHead (readNullable head).2 = .error (.number size) := by
      simp [HasLongNumber, readHead_eq_number_iff]
    rw [hlong]
    simp only [ofWords]
    rcases readFlags_cases recognized [] rest with ⟨flags, hflags, hrest⟩ | ⟨stray, hstray, hrest⟩
    · rw [hflags]
      simp only [ok_bind, bind_eq_error_iff, pure_ne_error]
      simpa using fun _ _ => hrest
    · rw [hstray]
      simp [hrest]

end TypeExpression

/-! ## Readers -/

namespace TypeReader

variable {reader : TypeReader} {token : String} {f : Failure}

/-- A text that a reader neither reads nor turns down: a number in it is too long, or its base is the name of
an entity whose class cannot be looked for. -/
def CannotRead (reader : TypeReader) (token : String) : Prop :=
  TypeExpression.HasLongNumber (wordsOf token.toList) ∨
    ∃ t fault, TypeExpression.split reader.recognizedFlags token = .ok t ∧ primitive? t.base = none ∧
      reader.resolver.GetsStuck t.base fault

/-- The base of a type expression fails for an entity whose class cannot be looked for, and otherwise is
turned down. -/
lemma sense_error {text : Option String} {base : String} (h : reader.sense text base = .error f) :
    (primitive? base = none ∧ ∃ fault, reader.resolver.GetsStuck base fault) ∨
      f = .rejected (.typeExpression text (.unknownName base)) := by
  unfold sense at h
  split at h
  · cases h
  · next hprimitive =>
    rcases bind_eq_error_iff.1 h with h | ⟨found, -, h⟩
    · obtain ⟨fault, -, hstuck⟩ := Resolver.resolve_eq_error_iff.1 h
      exact Or.inl ⟨hprimitive, fault, hstuck⟩
    · split at h
      · cases h
      · cases h
        exact Or.inr rfl

/-- The form of a text fails for a number that is too long, and otherwise the text is turned down. -/
lemma read_form_error (h : TypeExpression.read reader.recognizedFlags (some token) = .error f) :
    TypeExpression.HasLongNumber (wordsOf token.toList) ∨
      ∃ fault, f = .rejected (.typeExpression (some token) fault) := by
  unfold TypeExpression.read at h
  rw [Option.getD_some] at h
  split at h
  · cases h
  · next size hsize => exact Or.inl (TypeExpression.ofWords_eq_number_iff.1 ⟨size, hsize⟩)
  · next fault _ _ =>
    cases h
    exact Or.inr ⟨fault, rfl⟩

/-- A text that cannot be read fails for its size or for a path that hides what it leads to. -/
theorem read_of_cannotRead (h : reader.CannotRead token) :
    (∃ size, reader.read token = .error (.ofSize size)) ∨
      ∃ fault, fault.Hides ∧ reader.read token = .error (.file fault) := by
  unfold TypeReader.read readToken TypeExpression.read
  rw [Option.getD_some]
  rcases h with hlong | ⟨t, fault, hsplit, hprimitive, hstuck⟩
  · obtain ⟨size, hsize⟩ := TypeExpression.ofWords_eq_number_iff.2 hlong
    refine Or.inl ⟨size, ?_⟩
    rw [TypeExpression.split, hsize]
    rfl
  · refine Or.inr ⟨fault, hstuck.hides, ?_⟩
    rw [hsplit, ok_bind, sense, hprimitive]
    rw [Resolver.resolve_eq_error_iff.2 ⟨fault, rfl, hstuck⟩]
    rfl

/-- Every other text that is not read is turned down, and the rejection shows it. -/
theorem read_error (h : reader.read token = .error f) (hread : ¬ reader.CannotRead token) :
    ∃ fault, f = .rejected (.typeExpression (some token) fault) := by
  rcases bind_eq_error_iff.1 h with h | ⟨t, ht, h⟩
  · rcases read_form_error h with hlong | hfault
    · exact absurd (Or.inl hlong) hread
    · exact hfault
  · have hsplit : TypeExpression.split reader.recognizedFlags token = .ok t := by
      unfold TypeExpression.read at ht
      split at ht
      · next t' hsplit =>
        cases ht
        exact hsplit
      · cases ht
      · cases ht
    rcases bind_eq_error_iff.1 h with h | ⟨sense, -, h⟩
    · rcases sense_error h with ⟨hprimitive, fault, hstuck⟩ | rfl
      · exact absurd (Or.inr ⟨t, fault, hsplit, hprimitive, hstuck⟩) hread
      · exact ⟨_, rfl⟩
    · cases h

end TypeReader

end EntityScaffold
