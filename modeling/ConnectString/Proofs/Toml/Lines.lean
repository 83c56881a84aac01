/-
  ConnectString.Proofs.Toml.Lines — TOML documents of plain lines: headers of bare names, and single names with values.

  `IsLine` says which statement a line holds, whatever follows behind its end, and `Lines` which statements a text of
  such lines and empty ones holds. The reader of statements finds just these (`statements?_of_lines`), so the table of
  the text is the one that they make (`parse?_of_lines`). A header in brackets is such a line (`isLine_header`), and so
  is a bare name with a value behind it (`isLine_assign`).
-/

import ConnectString.Proofs.Text.Search
import ConnectString.Proofs.Toml.Scalar

namespace ConnectString.Toml

/-- A line, without its end, and the statement that it holds. -/
structure IsLine (t : Text) (s : Statement) : Prop where
  ne_nil : t ≠ []
  starts : ∀ c ∈ t.head?, isSpace c = false ∧ isBareLine [c] = false
  read : ∀ rest, statement? (t ++ '\n' :: rest) = some (s, '\n' :: rest)

/-- A text of lines, and the statements that they hold, in order. -/
inductive Lines : Text → List Statement → Prop
  | nil : Lines [] []
  | blank {t : Text} {ss : List Statement} (hrest : Lines t ss) : Lines ('\n' :: t) ss
  | line {l t : Text} {s : Statement} {ss : List Statement} (h : IsLine l s) (hrest : Lines t ss) :
      Lines (l ++ '\n' :: t) (s :: ss)

/-- A key without quotes. -/
structure Bare (name : Text) : Prop where
  ne_nil : name ≠ []
  bare : ∀ c ∈ name, isBareKey c = true

/-! ## Documents -/

theorem skipSpaces_of_head {t : Text} (h : ∀ c ∈ t.head?, isSpace c = false) : skipSpaces t = t := by
  cases t with
  | nil => rfl
  | cons c t => exact List.dropWhile_cons_of_neg (by simp [h c rfl])

/-- A line takes one step, whatever its length. -/
theorem statements?_line {l : Text} {s : Statement} (h : IsLine l s) (fuel : Nat) (rest : Text) :
    statements? (fuel + 1) (l ++ '\n' :: rest) = (statements? fuel rest).map (s :: ·) := by
  obtain ⟨c, r, rfl⟩ := List.exists_cons_of_ne_nil h.ne_nil
  obtain ⟨hspace, hbare⟩ := h.starts c rfl
  have hskip : skipSpaces (c :: r ++ '\n' :: rest) = c :: r ++ '\n' :: rest :=
    skipSpaces_of_head (by simp [hspace])
  have hline : isBareLine (c :: r ++ '\n' :: rest) = false := hbare
  have hend : endOfLine? ('\n' :: rest) = some rest := rfl
  have hread := h.read rest
  rw [List.cons_append] at hskip hline hread ⊢
  simp only [statements?, hskip, hline, hread, hend]
  rfl

theorem statements?_of_lines {t : Text} {ss : List Statement} (h : Lines t ss) :
    ∀ fuel, t.length < fuel → statements? fuel t = some ss := by
  induction h with
  | nil =>
    intro fuel hfuel
    cases fuel with
    | zero => cases hfuel
    | succ fuel => rfl
  | @blank t ss _ ih =>
    intro fuel hfuel
    cases fuel with
    | zero => cases hfuel
    | succ fuel =>
      rw [List.length_cons] at hfuel
      exact ih fuel (by omega)
  | @line l t s ss h _ ih =>
    intro fuel hfuel
    cases fuel with
    | zero => cases hfuel
    | succ fuel =>
      rw [List.length_append, List.length_cons] at hfuel
      rw [statements?_line h, ih fuel (by omega)]
      rfl

/-- A text of lines is read to its end, unless a byte order mark stands in it. -/
theorem parse?_of_lines {t : Text} {ss : List Statement} (h : Lines t ss) (hmark : '\ufeff' ∉ t) :
    parse? t = Entries.ofStatements? ss := by
  have hskip : skipMark t = t := by
    cases t with
    | nil => rfl
    | cons c t =>
      rw [skipMark]
      intro r he
      exact hmark ((List.cons.inj he).1 ▸ List.mem_cons_self)
  rw [parse?, hskip, statements?_of_lines h _ (Nat.lt_succ_self _)]

/-! ## Keys -/

theorem noSpace_of_isBareKey {c : Char} (hc : isBareKey c = true) : isSpace c = false := by
  simp [isSpace, ne_of_kind hc (d := ' ') rfl, ne_of_kind hc (d := '\t') rfl]

variable {name : Text}

theorem skipSpaces_bare (h : Bare name) (rest : Text) : skipSpaces (name ++ rest) = name ++ rest := by
  obtain ⟨c, r, rfl⟩ := List.exists_cons_of_ne_nil h.ne_nil
  exact skipSpaces_of_head (by simp [noSpace_of_isBareKey (h.bare c List.mem_cons_self)])

theorem keyPart?_bare (h : Bare name) {c : Char} (hc : isBareKey c = false) (rest : Text) :
    keyPart? (name ++ c :: rest) = some (name, c :: rest) := by
  have hcut := Text.cut_append_cons h.bare hc rest
  obtain ⟨d, r, rfl⟩ := List.exists_cons_of_ne_nil h.ne_nil
  have hd := h.bare d List.mem_cons_self
  rw [keyPart?, hcut.1, hcut.2]
  · rfl
  · exact fun t he => cons_ne_of_kind hd rfl _ _ he
  · exact fun t he => cons_ne_of_kind hd rfl _ _ he

/-- The last part of a key. -/
theorem key?_last (h : Bare name) (parts : Nat) {c d : Char} {rest r : Text} (hc : isBareKey c = false)
    (hskip : skipSpaces (c :: rest) = d :: r) (hd : d ≠ '.') :
    key? (parts + 1) (name ++ c :: rest) = some ([name], d :: r) := by
  simp only [key?, skipSpaces_bare h, keyPart?_bare h hc, hskip]
  split
  · rename_i he
    exact absurd (List.cons.inj he).1 hd
  · rfl

/-- A part of a key before a dot. -/
theorem key?_dot (h : Bare name) (parts : Nat) (rest : Text) :
    key? (parts + 1) (name ++ '.' :: rest) = (key? parts rest).map fun (ks, r) => (name :: ks, r) := by
  have hskip : skipSpaces ('.' :: rest) = '.' :: rest := rfl
  simp only [key?, skipSpaces_bare h, keyPart?_bare h (c := '.') rfl, hskip]

/-- Names with dots between them are a key. -/
theorem key?_intercalate {names : List Text} (hne : names ≠ []) (h : ∀ name ∈ names, Bare name) {parts : Nat}
    (hparts : names.length ≤ parts) (rest : Text) :
    key? parts (List.intercalate ['.'] names ++ ']' :: rest) = some (names, ']' :: rest) := by
  induction names generalizing parts with
  | nil => exact absurd rfl hne
  | cons name names ih =>
    obtain ⟨parts, rfl⟩ : ∃ n, parts = n + 1 := ⟨parts - 1, by rw [List.length_cons] at hparts; omega⟩
    obtain ⟨hname, hnames⟩ := List.forall_mem_cons.mp h
    cases names with
    | nil =>
      rw [List.intercalate_singleton]
      exact key?_last hname parts rfl rfl (by decide)
    | cons next names =>
      rw [List.length_cons] at hparts
      rw [List.intercalate_cons_cons, List.append_assoc, List.append_assoc, List.singleton_append,
        key?_dot hname, ih (List.cons_ne_nil _ _) hnames (by omega)]
      rfl

/-! ## Lines -/

/-- A header names a table by a row of bare names. -/
theorem isLine_header {names : List Text} (hne : names ≠ []) (h : ∀ name ∈ names, Bare name)
    (hparts : names.length ≤ nestingLimit) :
    IsLine ('[' :: List.intercalate ['.'] names ++ [']']) (.header false names) := by
  have hkey := key?_intercalate hne h hparts
  refine ⟨List.cons_ne_nil _ _, by simpa using (by decide : isSpace '[' = false ∧ isBareLine ['['] = false), ?_⟩
  intro rest
  rw [List.append_assoc, List.singleton_append, List.cons_append, statement?, hkey]
  · rfl
  · -- a second bracket begins no key
    intro t he
    have hnone : key? nestingLimit ('[' :: t) = none := rfl
    rw [← he, hkey] at hnone
    cases hnone

/-- A bare name, an equals sign and a value. -/
theorem isLine_assign {text : Text} {v : Value} (h : Bare name) (hv : ReadAs text v) :
    IsLine (name ++ " = ".toList ++ text) (.assign [name] v) := by
  obtain ⟨c, r, hname⟩ := List.exists_cons_of_ne_nil h.ne_nil
  have hc : isBareKey c = true := h.bare c (hname ▸ List.mem_cons_self)
  constructor
  case ne_nil => simp [hname]
  case starts =>
    intro d hd
    obtain rfl : c = d := by simpa [hname] using hd
    simp [isBareLine, noSpace_of_isBareKey hc, ne_of_kind hc (d := '#') rfl, ne_of_kind hc (d := '\n') rfl,
      ne_of_kind hc (d := '\r') rfl]
  case read =>
    intro rest
    have hcut : name ++ " = ".toList ++ text ++ '\n' :: rest = name ++ ' ' :: '=' :: ' ' :: (text ++ '\n' :: rest) := by
      simp
    have hkey : key? nestingLimit (name ++ ' ' :: '=' :: ' ' :: (text ++ '\n' :: rest)) =
        some ([name], '=' :: ' ' :: (text ++ '\n' :: rest)) := key?_last h 78 rfl rfl (by decide)
    have hskip : skipSpaces (' ' :: (text ++ '\n' :: rest)) = text ++ '\n' :: rest := by
      show skipSpaces (text ++ '\n' :: rest) = _
      apply skipSpaces_of_head
      cases text with
      | nil => simpa using (by decide : isSpace '\n' = false)
      | cons d text => simpa using hv.noSpace
    rw [hcut, statement?]
    · simp only [pair?, hkey, hskip, hv.read, Option.map_some]
    · intro t he
      rw [hname] at he
      exact cons_ne_of_kind hc rfl _ _ he
    · intro t he
      rw [hname] at he
      exact cons_ne_of_kind hc rfl _ _ he

end ConnectString.Toml
