import Mathlib.Data.List.Basic
import EntityScaffold.Artifact.Mapping
import EntityScaffold.Proofs.Naming.Words
import EntityScaffold.Proofs.Property
import EntityScaffold.Proofs.Text.Join
import EntityScaffold.Proofs.TypeExpression.Printing
/-!
# Columns as they are written

The annotation of a scalar property says what its column is like: its type, and then, where there is something to say,
its length, precision and scale, that its values are distinct, and that they may be missing.  Nothing tells how many
arguments there are, and each is known by its name alone.  They can be told apart because no two of them have the same
name and no value has a comma in it.

`Column.read` takes an annotation apart again.  It knows nothing of properties, and gives back all six values
(`read_column`), so that two properties share an annotation exactly if they agree on them.  The type is printed between
its quotes as it stands, and here it matters that a property was built from a type expression: the column types of the
primitive types have no commas, a property that is built without a column type is no scalar, and numbers that were read
are never too long to be written.
-/

namespace EntityScaffold

open Artifact Text

/-- What is said of the column of a scalar property. -/
structure Column where
  storage : Option String
  length : Option Int
  precision : Option Int
  scale : Option Int
  unique : Bool
  nullable : Bool
  deriving DecidableEq, Repr

namespace Column

variable {p : Property} {name : String}

/-- The column of a property. -/
def ofProperty (p : Property) : Column :=
  ⟨p.storage, p.modifiers.length, p.modifiers.precision, p.modifiers.scale, p.modifiers.unique, p.nullable⟩

/-! ## Reading annotations -/

/-- What stands between two texts. -/
def between? (before after s : String) : Option String :=
  ((s.toList.dropPrefix? before.toList).bind (·.dropSuffix? after.toList)).map String.ofList

/-- Read an argument: its name goes up to the first equals sign, without the blanks in front. -/
def readArg (arg : String) : Option (String × String) :=
  (cutAt? '=' (arg.toList.dropWhile (· == ' '))).map fun (name, value) => (String.ofList name, String.ofList value)

/-- Read the arguments of an annotation. -/
def readArgs (name comment : String) : Option (List (String × String)) :=
  (between? ("@ORM\\" ++ name ++ "(") ")" comment).map fun args => (pieces ',' args).filterMap readArg

/-- Read a number in decimal. -/
def readInt (s : String) : Int :=
  match s.toList with
  | '-' :: digits => -natOfDigits digits
  | digits => natOfDigits digits

/-- Read the annotation of a column. -/
def read (comment : String) : Option Column :=
  (readArgs "Column" comment).map fun args =>
    { storage := (args.lookup "type").bind (between? "\"" "\"")
      length := (args.lookup "length").map readInt
      precision := (args.lookup "precision").map readInt
      scale := (args.lookup "scale").map readInt
      unique := args.lookup "unique" == some "true"
      nullable := args.lookup "nullable" == some "true" }

/-! ## Numbers -/

lemma readInt_toString (n : Int) : readInt (toString n) = n := by
  cases n with
  | ofNat n =>
    have hchars : (toString (Int.ofNat n)).toList = TypeExpression.digitsOf n := TypeExpression.toList_toString n
    unfold readInt
    split
    · next digits hminus =>
      -- a number without a sign begins with a digit
      rw [hchars] at hminus
      have hdigit := TypeExpression.isDigit_of_mem_digitsOf (n := n) (hminus ▸ List.mem_cons_self)
      exact absurd hdigit.1 (by decide)
    · rw [hchars, TypeExpression.natOfDigits_digitsOf]
      rfl
  | negSucc n =>
    have hchars : (toString (Int.negSucc n)).toList = '-' :: TypeExpression.digitsOf (n + 1) := by
      show ("-" ++ toString (n + 1)).toList = _
      rw [String.toList_append, ← TypeExpression.toList_toString]
      rfl
    rw [readInt, hchars, Int.negSucc_eq]
    show -(natOfDigits (TypeExpression.digitsOf (n + 1)) : Int) = _
    rw [TypeExpression.natOfDigits_digitsOf, Int.natCast_succ]

/-! ## Arguments -/

/-- An argument with its name. -/
def printArg (arg : String × String) : String := arg.1 ++ "=" ++ arg.2

/-- The arguments that are there. -/
def present (args : List (String × Option String)) : List (String × String) :=
  args.flatMap fun (name, value) => (value.map (name, ·)).toList

/-- An argument whose name ends at the first equals sign, and that has no comma in it. -/
structure IsReadable (arg : String × String) : Prop where
  name : ∀ c ∈ arg.1.toList, c ≠ '=' ∧ c ≠ ',' ∧ c ≠ ' '
  value : ',' ∉ arg.2.toList

lemma IsReadable.comma_notMem {arg : String × String} (h : IsReadable arg) : ',' ∉ (printArg arg).toList := by
  rw [printArg, String.toList_append, String.toList_append, List.mem_append, List.mem_append, not_or, not_or]
  exact ⟨⟨fun hmem => (h.name ',' hmem).2.1 rfl, by decide⟩, h.value⟩

/-- An argument is read, with a blank before it or without one. -/
lemma readArg_printArg {arg : String × String} (h : IsReadable arg) :
    readArg (printArg arg) = some arg ∧ readArg (" " ++ printArg arg) = some arg := by
  have hchars : (printArg arg).toList = arg.1.toList ++ '=' :: arg.2.toList := by simp [printArg]
  have hdrop : (printArg arg).toList.dropWhile (· == ' ') = (printArg arg).toList := by
    rw [hchars]
    cases hname : arg.1.toList with
    | nil => exact List.dropWhile_cons_of_neg (by decide)
    | cons c rest =>
      have hc : c ≠ ' ' := (h.name c (hname ▸ List.mem_cons_self)).2.2
      exact List.dropWhile_cons_of_neg (by simpa using hc)
  have hcut : cutAt? '=' (printArg arg).toList = some (arg.1.toList, arg.2.toList) := by
    rw [hchars]
    exact cutAt?_append_cons fun hmem => (h.name '=' hmem).1 rfl
  have hread : readArg (printArg arg) = some arg := by
    rw [readArg, hdrop, hcut, Option.map_some]
    exact congrArg some (Prod.ext String.ofList_toList String.ofList_toList)
  refine ⟨hread, ?_⟩
  have hskip : (" " ++ printArg arg).toList.dropWhile (· == ' ') =
      (printArg arg).toList.dropWhile (· == ' ') := by
    rw [String.toList_append]
    exact List.dropWhile_cons_of_pos (by decide)
  rw [readArg, hskip, ← readArg, hread]

lemma between?_append (before s after : String) : between? before after (before ++ s ++ after) = some s := by
  have hprefix : (before ++ s ++ after).toList.dropPrefix? before.toList = some (s.toList ++ after.toList) := by
    rw [String.toList_append, String.toList_append, List.append_assoc]
    exact List.dropPrefix?_append_of_beq _ (beq_self_eq_true _)
  have hsuffix : (s.toList ++ after.toList).dropSuffix? after.toList = some s.toList :=
    List.dropSuffix?_eq_some_iff.2 ⟨after.toList, rfl, beq_self_eq_true _⟩
  rw [between?, hprefix, Option.bind_some, hsuffix, Option.map_some, String.ofList_toList]

/-- The arguments of an annotation are read, if there are some. -/
lemma readArgs_directive (name : String) {args : List (String × String)} (hne : args ≠ [])
    (hargs : ∀ arg ∈ args, IsReadable arg) :
    readArgs name (Mapping.directive name (args.map printArg)) = some args := by
  obtain ⟨first, more, rfl⟩ := List.exists_cons_of_ne_nil hne
  obtain ⟨hfirst, hmore⟩ := List.forall_mem_cons.1 hargs
  have hcommas : ∀ item ∈ printArg first :: (more.map printArg).map (" " ++ ·), ',' ∉ item.toList := by
    rw [List.forall_mem_cons, List.forall_mem_map, List.forall_mem_map]
    refine ⟨hfirst.comma_notMem, fun arg harg => ?_⟩
    rw [String.toList_append, List.mem_append, not_or]
    exact ⟨by decide, (hmore arg harg).comma_notMem⟩
  have hpieces : pieces ',' (join ", " ((first :: more).map printArg)) =
      printArg first :: (more.map printArg).map (" " ++ ·) := by
    rw [List.map_cons, join_comma_blank]
    exact pieces_join (List.cons_ne_nil _ _) hcommas
  have hrest : ((more.map printArg).map (" " ++ ·)).filterMap readArg = more := by
    rw [List.filterMap_map, List.filterMap_map]
    calc
      more.filterMap ((readArg ∘ (" " ++ ·)) ∘ printArg) = more.filterMap some :=
        List.filterMap_congr fun arg harg => (readArg_printArg (hmore arg harg)).2
      _ = more := List.filterMap_some
  rw [readArgs, Mapping.directive, between?_append, Option.map_some, hpieces,
    List.filterMap_cons_some (readArg_printArg hfirst).1, hrest]

lemma mem_of_mem_present {args : List (String × Option String)} {arg : String × String}
    (h : arg ∈ present args) : (arg.1, some arg.2) ∈ args := by
  obtain ⟨⟨name, value⟩, hmem, harg⟩ := List.mem_flatMap.1 h
  rw [Option.mem_toList] at harg
  obtain ⟨v, rfl, rfl⟩ := Option.map_eq_some_iff.1 harg
  exact hmem

/-- The names of arguments are all different, so each is found if it is there. -/
lemma lookup_present {args : List (String × Option String)} {value : Option String}
    (hnodup : (args.map (·.1)).Nodup) (hmem : (name, value) ∈ args) : (present args).lookup name = value := by
  induction args with
  | nil => cases hmem
  | cons arg rest ih =>
    obtain ⟨hnew, hrest⟩ := List.nodup_cons.1 hnodup
    -- what is missing here is not found further behind under the same name
    have hnone : name = arg.1 → (present rest).lookup name = none := by
      rintro rfl
      rw [List.lookup_eq_none_iff]
      intro other hother
      refine bne_iff_ne.2 fun heq => hnew ?_
      exact List.mem_map.2 ⟨_, mem_of_mem_present hother, heq.symm⟩
    rw [present, List.flatMap_cons, List.lookup_append, ← present]
    rcases List.mem_cons.1 hmem with rfl | hmem
    · cases value with
      | none => simpa using hnone rfl
      | some v => simp
    · have hother : (name == arg.1) = false := by
        refine beq_false_of_ne fun heq => hnew ?_
        exact List.mem_map.2 ⟨_, hmem, heq⟩
      cases harg : arg.2 with
      | none => simpa [harg] using ih hrest hmem
      | some v => simpa [harg, List.lookup_cons, hother] using ih hrest hmem

/-! ## The arguments of a column -/

/-- The value of an argument that is only there if it is true. -/
def flag (b : Bool) : Option String := if b then some "true" else none

lemma flag_beq (b : Bool) : (flag b == some "true") = b := by
  cases b <;> decide

/-- The arguments of a column, with those that are missing. -/
def args (c : Column) : List (String × Option String) :=
  [("type", some (Mapping.inQuotes (c.storage.getD "None"))), ("length", c.length.map toString),
    ("precision", c.precision.map toString), ("scale", c.scale.map toString), ("unique", flag c.unique),
    ("nullable", flag c.nullable)]

lemma columnArgs_eq (p : Property) : Mapping.columnArgs p = (present (ofProperty p).args).map printArg := by
  have hflag (f : String → String) (b : Bool) :
      ((flag b).map f).toList = if b then [f "true"] else [] := by
    cases b <;> rfl
  simp [Mapping.columnArgs, present, args, ofProperty, hflag, printArg, ← Option.toList_map, Function.comp_def]

lemma isReadable_args (hstorage : p.storage = some name) (hname : ',' ∉ name.toList) :
    ∀ arg ∈ present (ofProperty p).args, IsReadable arg := by
  have hnames : ∀ label ∈ (ofProperty p).args.map (·.1), ∀ c ∈ label.toList, c ≠ '=' ∧ c ≠ ',' ∧ c ≠ ' ' := by
    show ∀ label ∈ ["type", "length", "precision", "scale", "unique", "nullable"], _
    decide
  have hvalues : ∀ arg ∈ (ofProperty p).args, ∀ value ∈ arg.2, ',' ∉ value.toList := by
    have hquoted : ',' ∉ (Mapping.inQuotes name).toList := by simp [Mapping.inQuotes, hname]
    have hnumber (n : Option Int) : ∀ value ∈ n.map toString, ',' ∉ value.toList := by
      intro value hvalue
      obtain ⟨n, -, rfl⟩ := Option.map_eq_some_iff.1 hvalue
      exact HasIdentifierChars.notMem_toString_int (by decide) (by decide) n
    have hflag (b : Bool) : ∀ value ∈ flag b, ',' ∉ value.toList := by
      cases b <;> simp [flag]
    simp only [args, List.forall_mem_cons, ofProperty, hstorage]
    exact ⟨by simpa using hquoted, hnumber _, hnumber _, hnumber _, hflag _, hflag _, List.forall_mem_nil _⟩
  intro arg harg
  have hmem := mem_of_mem_present harg
  exact ⟨hnames arg.1 (List.mem_map_of_mem hmem), hvalues _ hmem _ rfl⟩

/-- A column is read off the annotation in which it is written. -/
theorem read_column (hstorage : p.storage = some name) (hname : ',' ∉ name.toList) :
    read (Mapping.columnText p) = some (ofProperty p) := by
  have hne : present (ofProperty p).args ≠ [] := List.cons_ne_nil _ _
  have hnodup : ((ofProperty p).args.map (·.1)).Nodup := by
    show ["type", "length", "precision", "scale", "unique", "nullable"].Nodup
    decide
  have hfind {label : String} {value : Option String} (i : Nat) (hi : (ofProperty p).args[i]? = some (label, value)) :
      (present (ofProperty p).args).lookup label = value :=
    lookup_present hnodup (List.mem_of_getElem? hi)
  have htype := hfind 0 rfl
  have hlength := hfind 1 rfl
  have hprecision := hfind 2 rfl
  have hscale := hfind 3 rfl
  have hunique := hfind 4 rfl
  have hnullable := hfind 5 rfl
  have hargs := readArgs_directive "Column" hne (isReadable_args hstorage hname)
  rw [← columnArgs_eq, ← Mapping.columnText] at hargs
  have hnumber (n : Option Int) : (n.map toString).map readInt = n := by
    rw [Option.map_map, Function.comp_def]
    simp only [readInt_toString, Option.map_id']
  have hquoted : between? "\"" "\"" (Mapping.inQuotes name) = some name := between?_append _ _ _
  rw [read, hargs, Option.map_some, htype, hlength, hprecision, hscale, hunique, hnullable, hnumber, hnumber,
    hnumber, flag_beq, flag_beq]
  simp [ofProperty, hstorage, hquoted]

/-! ## Built properties -/

/-- A scalar property that was built has the column type of a primitive type, in which there is no comma. -/
lemma exists_storage (hbuilt : p.IsBuilt) (hscalar : p.relation? = none) :
    ∃ name, p.storage = some name ∧ ',' ∉ name.toList := by
  obtain ⟨-, ⟨keyword, primitive, default, hprimitive, -, hstorage⟩ | ⟨relation, hkind, -⟩⟩ := hbuilt.cases
  · have hcommas : ∀ entry ∈ primitives, ',' ∉ entry.2.storage.toList := by decide
    exact ⟨_, hstorage, hcommas _ hprimitive⟩
  · rw [Property.relation?, hkind] at hscalar
    cases hscalar

/-- The annotation of a scalar property that was built from a type expression can be read back, and so two such
properties have the same annotation exactly if they agree in the type of the column, in its length, precision and
scale, in whether its values are distinct and in whether they can be missing. -/
theorem columns_are_read_back (p q : Property) (hp : p.IsBuilt) (hpscalar : p.relation? = none) (hq : q.IsBuilt)
    (hqscalar : q.relation? = none) :
    (∃ text, Mapping.column p = .ok text ∧ read text = some (ofProperty p)) ∧
      (Mapping.column p = Mapping.column q ↔ ofProperty p = ofProperty q) := by
  obtain ⟨name, hpstorage, hpname⟩ := exists_storage hp hpscalar
  obtain ⟨name', hqstorage, hqname⟩ := exists_storage hq hqscalar
  have hpread := read_column hpstorage hpname
  have hqread := read_column hqstorage hqname
  rw [Mapping.column_eq_ok hp.isShowable, Mapping.column_eq_ok hq.isShowable]
  refine ⟨⟨_, rfl, hpread⟩, fun hsame => ?_, fun hagree => ?_⟩
  · rw [Except.ok.inj hsame, hqread, Option.some.injEq] at hpread
    exact hpread.symm
  · rw [Mapping.columnText, Mapping.columnText, columnArgs_eq, columnArgs_eq, hagree]

/-- A price of at most ten digits. -/
def price : Property where
  name := "price"
  expression := "decimal|10,2 --unique"
  kind := .scalar "string" none
  storage := some "decimal"
  nullable := false
  modifiers := { precision := some 10, scale := some 2, flags := ["unique"] }

/-- A rate, which may be missing, with a default. -/
def rate : Property where
  name := "rate"
  expression := "?Decimal|010,2 --UNIQUE --index"
  kind := .scalar "string" (some "1.00")
  storage := some "decimal"
  nullable := true
  modifiers := { precision := some 10, scale := some 2, flags := ["unique"] }

theorem price_is_not_written_like_rate :
    (price.IsBuilt ∧ price.relation? = none) ∧ (rate.IsBuilt ∧ rate.relation? = none) ∧
      read "@ORM\\Column(type=\"decimal\", precision=10, scale=2, unique=true)" = some (ofProperty price) ∧
        Mapping.column price ≠ Mapping.column rate := by
  let reader : TypeReader := ⟨.make ["App\\Model"] [] none ".php" (.empty []), ["unique"]⟩
  have hprice : price.IsBuilt :=
    ⟨reader, "decimal|10,2 --unique", ⟨.scalar ⟨"string", "decimal"⟩, false, price.modifiers⟩, none, none,
      by decide, by decide⟩
  have hrate : rate.IsBuilt :=
    ⟨reader, "?Decimal|010,2 --UNIQUE --index", ⟨.scalar ⟨"string", "decimal"⟩, true, rate.modifiers⟩, none,
      some "1.00", by decide, by decide⟩
  obtain ⟨⟨text, htext, hread⟩, hsame⟩ := columns_are_read_back price rate hprice rfl hrate rfl
  have hprint : Mapping.columnText price = "@ORM\\Column(type=\"decimal\", precision=10, scale=2, unique=true)" := by
    decide
  rw [Mapping.column_eq_ok hprice.isShowable, hprint] at htext
  obtain rfl := Except.ok.inj htext
  exact ⟨⟨hprice, rfl⟩, ⟨hrate, rfl⟩, hread, mt hsame.1 (by decide)⟩

end Column

end EntityScaffold
