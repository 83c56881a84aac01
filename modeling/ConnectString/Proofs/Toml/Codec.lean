/-
  ConnectString.Proofs.Toml.Codec — what is assumed of a codec for TOML, and that the standard one keeps to it.

  Documents are `Plain` here: their tables have paths and rows of bare names, and no name stands twice on one level.
  `Codec.Lawful` is what the documentation of TOML and of its printers promises about these:
  - a document can be written if its whole numbers fit 64 bits with a sign;
  - what is written has a header for each table and a line `name = value` for each row;
  - a text in that form is read as a table that `Holds` the document. It may remember of its tables what it likes.

  Main statement: the reader and the printer that the program runs with are lawful (`lawful_standard`).
-/

import ConnectString.Proofs.Toml.Lines
import ConnectString.Toml.Standard

namespace ConnectString.Toml

/-! ## Plain documents -/

theorem bare_iff {name : Text} : (!name.isEmpty && name.all isBareKey) = true ↔ Bare name := by
  rw [Bool.and_eq_true, List.all_eq_true, Bool.not_eq_true', List.isEmpty_eq_false_iff]
  exact ⟨fun h => ⟨h.1, h.2⟩, fun h => ⟨h.ne_nil, h.bare⟩⟩

instance : DecidablePred Bare := fun _ => decidable_of_iff _ bare_iff

structure Section.Plain (s : Section) : Prop where
  path_ne_nil : s.path ≠ []
  length_path : s.path.length ≤ nestingLimit
  bare_path : ∀ name ∈ s.path, Bare name
  rows_ne_nil : s.rows ≠ []
  bare_rows : ∀ name ∈ s.rows.map Prod.fst, Bare name
  distinct : (s.rows.map Prod.fst).Nodup

/-- Each table of a plain document stands below a name of its own. -/
structure Document.Plain (d : Document) : Prop where
  sections : ∀ s ∈ d, s.Plain
  distinct : (d.map fun s => s.path.head?).Nodup

/-- Whether a table is plain does not depend on the items in its rows. -/
theorem Section.plain_of_names {s : Section} {names : List Text} (hnames : s.rows.map Prod.fst = names)
    (h : s.path ≠ [] ∧ s.path.length ≤ nestingLimit ∧ (∀ name ∈ s.path, Bare name) ∧ names ≠ [] ∧
      (∀ name ∈ names, Bare name) ∧ names.Nodup) : s.Plain := by
  subst hnames
  obtain ⟨hpath, hlength, hbare, hrows, hnames, hdistinct⟩ := h
  exact ⟨hpath, hlength, hbare, by simpa using hrows, hnames, hdistinct⟩

/-! ## What a table holds -/

/-- A table of the given rows stands at the end of a path, and nothing else on the way. -/
inductive Nests (rows : List (Text × Item)) : List Text → Value → Prop
  | here (o : Origin) : Nests rows [] (.table o (rows.map fun row => (row.1, row.2.value)))
  | under (o : Origin) {k : Text} {path : List Text} {v : Value} (h : Nests rows path v) :
      Nests rows (k :: path) (.table o [(k, v)])

def Entries.HoldsSection (entry : Text × Value) (s : Section) : Prop :=
  ∃ path, s.path = entry.1 :: path ∧ Nests s.rows path entry.2

/-- A table has an entry for each table of a document, in the same order, and no others. -/
def Entries.Holds (es : Entries) (d : Document) : Prop := List.Forall₂ HoldsSection es d

structure Codec.Lawful (codec : Codec) : Prop where
  writes_iff : ∀ d : Document, d.Plain → ((∃ t, codec.write d = some t) ↔ d.fits = true)
  text_of_write : ∀ (d : Document) (t : Text), d.Plain → codec.write d = some t → t = d.text
  reads : ∀ d : Document, d.Plain → d.fits = true → ∃ es, codec.read d.text = some es ∧ es.Holds d

/-! ## The characters of a document -/

def isPlainChar (c : Char) : Bool := isBareKey c || "[.]= \n".toList.contains c

theorem isPlainChar_of_isBareKey {c : Char} (h : isBareKey c = true) : isPlainChar c = true := by
  simp [isPlainChar, h]

theorem isPlainChar_of_mem_item {i : Item} {c : Char} (h : c ∈ i.text) : isPlainChar c = true := by
  cases i with
  | boolean b =>
    have hall : (Item.boolean b).text.all isPlainChar = true := by cases b <;> decide
    exact List.all_eq_true.mp hall c h
  | integer n =>
    have hdigit := digits_write n c h
    apply isPlainChar_of_isBareKey
    simp only [Decimal.isDigit, Bool.and_eq_true, decide_eq_true_eq] at hdigit
    have hchar : c.isDigit = true := by
      simp only [Char.isDigit, Bool.and_eq_true, decide_eq_true_eq, UInt32.le_iff_toNat_le]
      exact hdigit
    simp [isBareKey, Char.isAlphanum, hchar]

/-- What stands between two pieces, or in one of them. -/
theorem forall_mem_intercalate {p : Char → Prop} {separator : Text} {pieces : List Text} (hsep : ∀ c ∈ separator, p c)
    (hpieces : ∀ piece ∈ pieces, ∀ c ∈ piece, p c) : ∀ c ∈ List.intercalate separator pieces, p c := by
  induction pieces with
  | nil => simp
  | cons piece pieces ih =>
    obtain ⟨hpiece, hrest⟩ := List.forall_mem_cons.mp hpieces
    cases pieces with
    | nil => simpa using hpiece
    | cons next pieces =>
      rw [List.intercalate_cons_cons, List.forall_mem_append, List.forall_mem_append]
      exact ⟨⟨hpiece, hsep⟩, ih hrest⟩

theorem isPlainChar_of_mem_row {row : Text × Item} (h : Bare row.1) : ∀ c ∈ rowText row, isPlainChar c = true := by
  have hequals : " = ".toList.all isPlainChar = true := by decide
  simp only [rowText, List.forall_mem_append, List.forall_mem_singleton]
  exact ⟨⟨⟨fun c hc => isPlainChar_of_isBareKey (h.bare c hc), List.all_eq_true.mp hequals⟩,
    fun c => isPlainChar_of_mem_item⟩, by decide⟩

theorem isPlainChar_of_mem_section {s : Section} (h : s.Plain) : ∀ c ∈ s.text, isPlainChar c = true := by
  have hend : "]\n".toList.all isPlainChar = true := by decide
  simp only [Section.text, List.forall_mem_append, List.forall_mem_cons, List.forall_mem_flatMap]
  refine ⟨⟨⟨by decide, ?path⟩, List.all_eq_true.mp hend⟩, ?rows⟩
  case path =>
    exact forall_mem_intercalate (List.forall_mem_singleton.mpr (by decide)) fun name hname c hc =>
      isPlainChar_of_isBareKey ((h.bare_path name hname).bare c hc)
  case rows => exact fun row hrow => isPlainChar_of_mem_row (h.bare_rows _ (List.mem_map_of_mem hrow))

theorem isPlainChar_of_mem_text {d : Document} (h : d.Plain) : ∀ c ∈ d.text, isPlainChar c = true := by
  apply forall_mem_intercalate (p := fun c => isPlainChar c = true) (List.forall_mem_singleton.mpr (by decide))
  rw [List.forall_mem_map]
  exact fun s hs => isPlainChar_of_mem_section (h.sections s hs)

/-! ## The lines of a document -/

def Section.statements (s : Section) : List Statement :=
  .header false s.path :: s.rows.map fun row => .assign [row.1] row.2.value

theorem lines_rows {rows : List (Text × Item)} (hbare : ∀ name ∈ rows.map Prod.fst, Bare name)
    (hfits : ∀ row ∈ rows, row.2.fits = true) {t : Text} {ss : List Statement} (h : Lines t ss) :
    Lines (rows.flatMap rowText ++ t) ((rows.map fun row => Statement.assign [row.1] row.2.value) ++ ss) := by
  induction rows with
  | nil => exact h
  | cons row rows ih =>
    obtain ⟨hname, hnames⟩ := List.forall_mem_cons.mp hbare
    obtain ⟨hrow, hrows⟩ := List.forall_mem_cons.mp hfits
    have hline := Lines.line (isLine_assign hname (readAs_item hrow)) (ih hnames hrows)
    rw [List.flatMap_cons, rowText, List.append_assoc, List.append_assoc]
    exact hline

theorem lines_section {s : Section} (hs : s.Plain) (hfits : ∀ row ∈ s.rows, row.2.fits = true) {t : Text}
    {ss : List Statement} (h : Lines t ss) : Lines (s.text ++ t) (s.statements ++ ss) := by
  have hheader := Lines.line (isLine_header hs.path_ne_nil hs.bare_path hs.length_path)
    (lines_rows hs.bare_rows hfits h)
  have htext : s.text ++ t =
      '[' :: List.intercalate ['.'] s.path ++ [']'] ++ '\n' :: (s.rows.flatMap rowText ++ t) := by
    simp [Section.text]
  rw [htext]
  exact hheader

theorem lines_text {d : Document} (hd : ∀ s ∈ d, s.Plain) (hfits : ∀ s ∈ d, ∀ row ∈ s.rows, row.2.fits = true) :
    Lines d.text (d.flatMap Section.statements) := by
  induction d with
  | nil => exact .nil
  | cons s d ih =>
    obtain ⟨hs, hrest⟩ := List.forall_mem_cons.mp hd
    obtain ⟨hfit, hfits⟩ := List.forall_mem_cons.mp hfits
    have hlines := ih hrest hfits
    cases d with
    | nil =>
      have hone := lines_section hs hfit .nil
      simpa [Document.text] using hone
    | cons next d =>
      rw [Document.text, List.map_cons, List.map_cons, List.intercalate_cons_cons, List.append_assoc,
        List.flatMap_cons]
      exact lines_section hs hfit (.blank hlines)

/-! ## The table that the lines make -/

namespace Entries

theorem get?_eq_none {es : Entries} {k : Text} (h : k ∉ es.map Prod.fst) : get? es k = none := by
  rw [get?, Option.map_eq_none_iff, List.find?_eq_none]
  intro e he
  rw [beq_iff_eq]
  rintro rfl
  exact h (List.mem_map_of_mem he)

theorem putAll_fresh (es : Entries) (rows : List (Text × Value)) (h : ((es ++ rows).map Prod.fst).Nodup) :
    putAll es (rows.map fun row => ([row.1], row.2)) = some (es ++ rows) := by
  induction rows generalizing es with
  | nil =>
    rw [List.append_nil]
    rfl
  | cons row rows ih =>
    have hfresh : row.1 ∉ es.map Prod.fst := by
      rw [List.map_append, List.nodup_append] at h
      exact fun hmem => h.2.2 _ hmem _ (List.mem_map_of_mem List.mem_cons_self) rfl
    have hput : put es [row.1] row.2 = some (es ++ [row]) := by
      simp [put, assign, get?_eq_none hfresh]
    rw [List.append_cons] at h ⊢
    rw [List.map_cons, putAll, hput]
    exact ih _ h

/-- A header whose first name is not there yet makes one entry: the table of its rows, at the end of its path. -/
theorem inside_open? {rows : List (Text × Item)} (hrows : (rows.map Prod.fst).Nodup) {k : Text} {path : List Text}
    {name : Text} (hname : (k :: path).getLast? = some name) (es : Entries) (hfresh : k ∉ es.map Prod.fst) :
    ∃ v, Nests rows path v ∧
      inside (open? name (rows.map fun row => ([row.1], row.2.value))) (k :: path).dropLast es =
        some (es ++ [(k, v)]) := by
  induction path generalizing k es with
  | nil =>
    obtain rfl : k = name := Option.some.inj hname
    have hput := putAll_fresh [] (rows.map fun row => (row.1, row.2.value))
      (by simpa [Function.comp_def] using hrows)
    rw [List.map_map] at hput
    refine ⟨_, .here .header, ?_⟩
    show open? k _ es = _
    rw [open?, get?_eq_none hfresh]
    simp only [Function.comp_def] at hput
    rw [hput]
    rfl
  | cons next path ih =>
    -- nothing stands on the way yet, so each name on it leads into a new table that holds the rest and no more
    obtain ⟨v, hv, hinside⟩ := ih (k := next) hname [] List.not_mem_nil
    refine ⟨_, .under .implied hv, ?_⟩
    rw [List.dropLast_cons_cons, inside, get?_eq_none hfresh]
    simp only [hinside]
    rfl

theorem openAll?_assigns (es : Entries) (rows : List (Text × Item)) (ss : List Statement) :
    openAll? es ((rows.map fun row => .assign [row.1] row.2.value) ++ ss) = openAll? es ss := by
  induction rows with
  | nil => rfl
  | cons row rows ih => exact ih

theorem leadingPairs_assigns (rows : List (Text × Item)) {ss : List Statement} (h : leadingPairs ss = []) :
    leadingPairs ((rows.map fun row => .assign [row.1] row.2.value) ++ ss) =
      rows.map fun row => ([row.1], row.2.value) := by
  induction rows with
  | nil => exact h
  | cons row rows ih =>
    rw [List.map_cons, List.map_cons, List.cons_append, leadingPairs, ih]

theorem leadingPairs_sections (d : Document) : leadingPairs (d.flatMap Section.statements) = [] := by
  cases d with
  | nil => rfl
  | cons s d => rfl

/-- Tables below names of their own are opened one behind the other. -/
theorem openAll?_sections {d : Document} (hd : ∀ s ∈ d, s.Plain) (es : Entries)
    (hdistinct : (es.map (fun e => some e.1) ++ d.map fun s => s.path.head?).Nodup) :
    ∃ added, openAll? es (d.flatMap Section.statements) = some (es ++ added) ∧ Holds added d := by
  induction d generalizing es with
  | nil =>
    refine ⟨[], ?_, .nil⟩
    rw [List.append_nil]
    rfl
  | cons s d ih =>
    obtain ⟨hs, hrest⟩ := List.forall_mem_cons.mp hd
    obtain ⟨k, path, hpath⟩ := List.exists_cons_of_ne_nil hs.path_ne_nil
    obtain ⟨name, hname⟩ : ∃ name, (k :: path).getLast? = some name := ⟨_, List.getLast?_cons⟩
    rw [List.map_cons, hpath, List.head?_cons] at hdistinct
    have hfresh : k ∉ es.map Prod.fst := by
      intro hmem
      obtain ⟨e, he, rfl⟩ := List.mem_map.mp hmem
      exact (List.nodup_append.mp hdistinct).2.2 _ (List.mem_map_of_mem he) _ List.mem_cons_self rfl
    -- the names of the tables are distinct, so the next one is fresh again behind this one
    obtain ⟨v, hv, hinside⟩ := inside_open? hs.distinct hname es hfresh
    obtain ⟨added, hopen, hholds⟩ := ih hrest (es ++ [(k, v)]) (by simpa using hdistinct)
    refine ⟨(k, v) :: added, ?_, .cons ⟨path, hpath, hv⟩ hholds⟩
    rw [List.flatMap_cons, Section.statements, List.cons_append, openAll?, hpath, hname,
      leadingPairs_assigns _ (leadingPairs_sections d)]
    simp only [Bool.false_eq_true, if_false, hinside, openAll?_assigns, hopen]
    rw [List.append_assoc, List.singleton_append]

end Entries

/-! ## The standard codec -/

theorem forall_fits {d : Document} (h : d.fits = true) : ∀ s ∈ d, ∀ row ∈ s.rows, row.2.fits = true := by
  simpa [Document.fits, List.all_eq_true] using h

theorem parse?_text {d : Document} (hd : d.Plain) (hfits : d.fits = true) :
    ∃ es, parse? d.text = some es ∧ es.Holds d := by
  have hmark : '\ufeff' ∉ d.text := fun hmem => absurd (isPlainChar_of_mem_text hd _ hmem) (by decide)
  obtain ⟨es, hopen, hholds⟩ := Entries.openAll?_sections hd.sections [] hd.distinct
  refine ⟨es, ?_, hholds⟩
  rw [parse?_of_lines (lines_text hd.sections (forall_fits hfits)) hmark, Entries.ofStatements?,
    Entries.leadingPairs_sections]
  exact hopen

theorem lawful_standard : standard.Lawful where
  writes_iff d _ := by
    rw [standard]
    simp
  text_of_write d t _ h := by
    simp only [standard, Option.ite_none_right_eq_some, Option.some.injEq] at h
    exact h.2.symm
  reads d hd hfits := parse?_text hd hfits

end ConnectString.Toml
