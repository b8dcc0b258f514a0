import Mathlib.Tactic.SplitIfs
import EntityScaffold.Document.Json.Printer
import EntityScaffold.Document.Json.Reader
/-!
# Texts in JSON

A printed text is read back as itself, whatever characters it has.  Each character is printed by itself and takes one
step of the reader (`readChars_printChar`): a short escape, a code, or the character as it stands.  The quote ends a
text because it is printed nowhere else without a backslash.
-/

namespace EntityScaffold.Document.Json

variable {c : Char} {rest : List Char} {fuel : Nat}

/-- The code of a control character is read back. -/
lemma readCode_hexDigits (rest : List Char) : ∀ n < 0x20, readCode (Text.hexDigits 4 n ++ rest) = some (n, rest) := by
  have hdigits : ∀ n < 0x20, (Text.hexDigits 4 n).map hexValue? = [some 0, some 0, some (n / 16), some (n % 16)] := by
    decide
  intro n hn
  have h := hdigits n hn
  simp only [Text.hexDigits, List.map_cons, List.map_nil, List.cons.injEq, and_true] at h
  obtain ⟨ha, hb, hc, hd⟩ := h
  have hn : ((0 * 16 + 0) * 16 + n / 16) * 16 + n % 16 = n := by omega
  simp only [Text.hexDigits, List.cons_append, List.nil_append, readCode, ha, hb, hc, hd, Option.bind_eq_bind,
    Option.bind_some, hn]
  rfl

/-- The escape of a control character is read back. -/
lemma readEscape_code (h : c.toNat < 0x20) (rest : List Char) :
    readEscape ('u' :: Text.hexDigits 4 c.toNat ++ rest) = .ok (c, rest) := by
  have hhigh : (0xD800 ≤ c.toNat && c.toNat < 0xDC00) = false := by simp; omega
  have hlow : (0xDC00 ≤ c.toNat && c.toNat < 0xE000) = false := by simp; omega
  rw [List.cons_append, readEscape, readCode_hexDigits rest _ h]
  simp only [charOf, hhigh, hlow, Char.ofNat_toNat]
  rfl

/-- An escape takes one step. -/
lemma readChars_escape {cs : List Char} (h : readEscape cs = .ok (c, rest)) (fuel : Nat) :
    readChars (fuel + 1) ('\\' :: cs) = (readChars fuel rest).map fun (more, rest) => (c :: more, rest) := by
  rw [readChars, h]
  simp only [bind, Except.bind]
  cases readChars fuel rest <;> rfl

/-- A printed character takes one step. -/
theorem readChars_printChar (c : Char) (fuel : Nat) (rest : List Char) :
    readChars (fuel + 1) (printChar c ++ rest) = (readChars fuel rest).map fun (more, rest) => (c :: more, rest) := by
  unfold printChar
  split_ifs with hquote hbackslash hfeed hreturn htab hback hform hcontrol
  · rw [beq_iff_eq.1 hquote]
    exact readChars_escape rfl fuel
  · rw [beq_iff_eq.1 hbackslash]
    exact readChars_escape rfl fuel
  · rw [beq_iff_eq.1 hfeed]
    exact readChars_escape rfl fuel
  · rw [beq_iff_eq.1 hreturn]
    exact readChars_escape rfl fuel
  · rw [beq_iff_eq.1 htab]
    exact readChars_escape rfl fuel
  · rw [beq_iff_eq.1 hback]
    exact readChars_escape rfl fuel
  · rw [beq_iff_eq.1 hform]
    exact readChars_escape rfl fuel
  · exact readChars_escape (readEscape_code hcontrol rest) fuel
  · rw [List.singleton_append, readChars]
    · rw [if_neg hcontrol]
      cases readChars fuel rest <;> rfl
    · simpa using hquote
    · simpa using hbackslash

/-- The characters of a printed text are read up to the quote after them. -/
lemma readChars_flatMap {cs : List Char} (h : cs.length < fuel) (rest : List Char) :
    readChars fuel (cs.flatMap printChar ++ '"' :: rest) = .ok (cs, rest) := by
  induction cs generalizing fuel with
  | nil =>
    obtain ⟨fuel, rfl⟩ := Nat.exists_eq_succ_of_ne_zero (Nat.ne_zero_of_lt h)
    rfl
  | cons c cs ih =>
    obtain ⟨fuel, rfl⟩ := Nat.exists_eq_succ_of_ne_zero (Nat.ne_zero_of_lt h)
    rw [List.flatMap_cons, List.append_assoc, readChars_printChar, ih (Nat.lt_of_succ_lt_succ h)]
    rfl

lemma printChar_ne_nil (c : Char) : printChar c ≠ [] := by
  unfold printChar
  split_ifs <;> exact List.cons_ne_nil _ _

lemma length_le_length_flatMap (cs : List Char) : cs.length ≤ (cs.flatMap printChar).length := by
  induction cs with
  | nil => exact Nat.le_refl 0
  | cons c cs ih =>
    have hc : 0 < (printChar c).length := List.length_pos_iff.2 (printChar_ne_nil c)
    rw [List.flatMap_cons, List.length_append, List.length_cons]
    omega

lemma printText_toList (s : String) : (printText s).toList = '"' :: (s.toList.flatMap printChar ++ ['"']) := by
  simp [printText]

/-- A printed text is read back, after its opening quote. -/
lemma readString_flatMap (s : String) (rest : List Char) :
    readString (s.toList.flatMap printChar ++ '"' :: rest) = .ok (s, rest) := by
  have hfuel : s.toList.length < (s.toList.flatMap printChar ++ '"' :: rest).length + 1 := by
    have hlength := length_le_length_flatMap s.toList
    rw [List.length_append]
    omega
  rw [readString, readChars_flatMap hfuel]
  simp only [Except.map, String.ofList_toList]

end EntityScaffold.Document.Json
