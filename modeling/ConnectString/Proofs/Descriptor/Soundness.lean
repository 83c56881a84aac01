/-
  ConnectString.Proofs.Descriptor.Soundness — what the reader reads, the grammar derives.

  `Taken` says for each state of the reader which texts can have led to it: the text falls into the openings of the
  branches that are open, their children so far (`Enclosed`), and the part of a node that the reader stands in. One
  character keeps this (`taken_step`), and so does a whole run (`denotes_of_run`).

  Main statement: the reader accepts exactly the texts of the grammar and reads the denoted tree, of which there is
  no more than one (`parse_eq_ok_iff_denotes`).
-/

import ConnectString.Proofs.Descriptor.Completeness

namespace ConnectString.Descriptor

variable {limit : Nat}

/-- The text is what the open branches have taken in: blanks, their openings, and the children read so far. -/
inductive Enclosed (limit : Nat) : List Frame → Text → Prop where
  | root {gap : Text} (hgap : AsciiBlanks gap) : Enclosed limit [] gap
  | branch {outer : List Frame} {a key gap b : Text} {children : List Tree} (houter : Enclosed limit outer a)
      (hopen : Opens limit (outer.length + 1) key gap) (hbelow : Nodes limit (outer.length + 2) b children.reverse) :
      Enclosed limit (⟨Text.trim key, children⟩ :: outer) (a ++ opening key gap ++ b)

/-- The text can have led the reader to the state. -/
inductive Taken (limit : Nat) : State → Text → Prop where
  | before {a : Text} (ha : AsciiBlanks a) : Taken limit .before a
  | key {outer : List Frame} {a read : Text} {start : Nat} (ha : Enclosed limit outer a)
      (hdepth : outer.length + 1 ≤ limit) (hread : Plain read) :
      Taken limit (.key outer start read) (a ++ '(' :: read.reverse)
  | value {outer : List Frame} {a key gap : Text} (ha : Enclosed limit outer a)
      (hopen : Opens limit (outer.length + 1) key gap) :
      Taken limit (.value outer (Text.trim key)) (a ++ opening key gap)
  | text {outer : List Frame} {a key gap read : Text} {nested : Nat} (ha : Enclosed limit outer a)
      (hopen : Opens limit (outer.length + 1) key gap) (hne : read ≠ []) (hstart : StartsValue read.reverse)
      (hcount : Text.openAfter 0 read.reverse = some nested)
      (hdepth : outer.length + 1 + Text.nesting read.reverse ≤ limit) :
      Taken limit (.text outer (Text.trim key) read nested) (a ++ opening key gap ++ read.reverse)
  | between {outer : List Frame} {inner : Frame} {a : Text} (ha : Enclosed limit (inner :: outer) a)
      (hne : inner.children ≠ []) : Taken limit (.between outer inner) a
  | done {a : Text} {t : Tree} (ha : Denotes limit a t) : Taken limit (.done t) a

/-! ## Open branches -/

/-- A node that has been read to its end is a child of the branch around it, or the root. -/
theorem taken_close {outer : List Frame} {a n : Text} {t : Tree} (ha : Enclosed limit outer a)
    (hn : Node limit (outer.length + 1) n t) : Taken limit (State.close outer t) (a ++ n) := by
  cases ha with
  | root hgap => exact .done ⟨a, n, [], hgap, hn, asciiBlanks_nil, (List.append_nil _).symm⟩
  | @branch outer a key gap b children houter hopen hbelow =>
    refine .between ?_ (List.cons_ne_nil t children)
    have hrow : Nodes limit (outer.length + 2) (b ++ n) (t :: children).reverse := by
      rw [List.reverse_cons]
      simpa using hbelow.append (.singleton hn asciiBlanks_nil)
    rw [List.append_assoc]
    exact .branch houter hopen hrow

theorem enclosed_append_blank {outer : List Frame} {inner : Frame} {a : Text} {c : Char}
    (ha : Enclosed limit (inner :: outer) a) (hne : inner.children ≠ []) (hc : isAsciiBlank c = true) :
    Enclosed limit (inner :: outer) (a ++ [c]) := by
  cases ha with
  | branch houter hopen hbelow =>
    rw [List.append_assoc]
    exact .branch houter hopen (hbelow.append_blanks (by simpa using hne) (asciiBlanks_singleton hc))

/-- The branch that closes is a node with the children read in it. -/
theorem taken_close_branch {outer : List Frame} {inner : Frame} {a : Text} (ha : Enclosed limit (inner :: outer) a)
    (hne : inner.children ≠ []) :
    Taken limit (State.close outer (.branch inner.key inner.children.reverse)) (a ++ [')']) := by
  cases ha with
  | branch houter hopen hbelow =>
    rw [List.append_assoc, List.append_assoc, ← List.append_assoc (opening _ _)]
    exact taken_close houter (.branch hopen hbelow (by simpa using hne))

theorem taken_openNode {position : Nat} {outer : List Frame} {a : Text} {s : State} (ha : Enclosed limit outer a)
    (hs : State.openNode limit position outer = .ok s) : Taken limit s (a ++ ['(']) := by
  unfold State.openNode at hs
  split at hs
  · cases hs
  · cases hs
    exact .key ha (Nat.not_lt.mp ‹_›) (fun _ h => absurd h List.not_mem_nil)

/-! ## Values -/

theorem startsValue_of_append {s u : Text} (h : StartsValue (s ++ u)) : StartsValue s := by
  intro c hc
  refine h c ?_
  rw [List.head?_append, hc, Option.some_or]

theorem startsValue_append {s : Text} (h : StartsValue s) (hne : s ≠ []) (u : Text) : StartsValue (s ++ u) := by
  intro c hc
  rw [List.head?_append_of_ne_nil s hne] at hc
  exact h c hc

theorem node_leafOrEmpty {depth : Nat} {key gap read : Text} (hopen : Opens limit depth key gap)
    (hval : Value limit depth read.reverse) :
    Node limit depth (opening key gap ++ read.reverse ++ [')']) (State.leafOrEmpty (Text.trim key) read) := by
  rw [← List.reverse_reverse read]
  by_cases hne : Text.trim read.reverse = []
  · rw [State.leafOrEmpty_of_nil hne, List.reverse_reverse]
    exact .empty hopen hval hne
  · rw [State.leafOrEmpty_of_ne hne, List.reverse_reverse]
    exact .leaf hopen hval hne

/-- One more character of a value: it goes on, or its node closes. -/
theorem taken_stepText {outer : List Frame} {a key gap read : Text} {nested : Nat} {c : Char} {s : State}
    (ha : Enclosed limit outer a) (hopen : Opens limit (outer.length + 1) key gap)
    (hstart : StartsValue (read.reverse ++ [c])) (hcount : Text.openAfter 0 read.reverse = some nested)
    (hdepth : outer.length + 1 + Text.nesting read.reverse ≤ limit)
    (hs : State.stepText limit outer (Text.trim key) read nested c = .ok s) :
    Taken limit s (a ++ opening key gap ++ read.reverse ++ [c]) := by
  -- What goes on is a text again, where `m` parentheses are open.
  have goOn : ∀ m, Text.openAfter 0 (read.reverse ++ [c]) = some m → outer.length + 1 + m ≤ limit →
      Taken limit (.text outer (Text.trim key) (c :: read) m) (a ++ opening key gap ++ read.reverse ++ [c]) := by
    intro m hm hlim
    have hnest : Text.nesting (read.reverse ++ [c]) ≤ limit - (outer.length + 1) :=
      Text.nesting_concat_le (by omega) hm (by omega)
    have := hopen.shallow
    rw [List.append_assoc, ← List.reverse_cons] at *
    exact .text ha hopen (List.cons_ne_nil c read) hstart hm (by omega)
  have hlevel : nested ≤ Text.nesting read.reverse := by
    have hc := (Text.openAfter_eq_some_iff.mp hcount).2
    have hp := Text.nesting_le_iff.mp (Nat.le_refl (Text.nesting read.reverse)) read.reverse (List.prefix_refl _)
    omega
  by_cases ho : c = '('
  · subst ho
    rw [State.stepText.eq_def, if_pos rfl] at hs
    split at hs
    · cases hs
    · cases hs
      exact goOn (nested + 1) (by rw [Text.openAfter_append, hcount]; simp) (by omega)
  by_cases hc : c = ')'
  · subst hc
    rcases nested with _ | n
    · rw [State.stepText_close_zero] at hs
      cases hs
      rw [List.append_assoc, List.append_assoc, ← List.append_assoc (opening _ _)]
      refine taken_close ha (node_leafOrEmpty hopen ⟨startsValue_of_append hstart, ?_, hdepth⟩)
      exact Text.balanced_iff.mpr hcount
    · rw [State.stepText_close_succ] at hs
      cases hs
      exact goOn n (by rw [Text.openAfter_append, hcount]; simp) (by omega)
  · rw [State.stepText_plain ⟨ho, hc⟩] at hs
    cases hs
    exact goOn nested (by rw [Text.openAfter_append, hcount]; simp [Text.openAfter_plain ⟨ho, hc⟩]) (by omega)

/-! ## Steps and runs -/

/-- One more character of a key: it goes on, or its value is awaited. -/
theorem taken_stepKey {position start : Nat} {outer : List Frame} {a read : Text} {c : Char} {s : State}
    (ha : Enclosed limit outer a) (hdepth : outer.length + 1 ≤ limit) (hread : Plain read)
    (hs : (State.key outer start read).step limit position c = .ok s) :
    Taken limit s (a ++ '(' :: read.reverse ++ [c]) := by
  rw [List.append_assoc, List.cons_append]
  by_cases he : c = '='
  · subst he
    by_cases hk : Text.trim read.reverse = []
    · simp [State.step, hk] at hs
    · rw [State.step_key_equals hk] at hs
      cases hs
      have hopen : Opens limit (outer.length + 1) read.reverse [] :=
        ⟨hdepth, fun d hd => hread d (List.mem_reverse.mp hd), hk, asciiBlanks_nil⟩
      exact .value ha hopen
  · simp only [State.step, if_neg he] at hs
    split at hs
    · cases hs
    · rename_i hparen
      cases hs
      have hc : c ≠ '(' ∧ c ≠ ')' ∧ c ≠ '=' := ⟨fun h => hparen (.inl h), fun h => hparen (.inr h), he⟩
      rw [← List.reverse_cons]
      exact .key ha hdepth (List.forall_mem_cons.mpr ⟨hc, hread⟩)

/-- The first character behind the equals sign, or a blank before it. -/
theorem taken_stepValue {position : Nat} {outer : List Frame} {a key gap : Text} {c : Char} {s : State}
    (ha : Enclosed limit outer a) (hopen : Opens limit (outer.length + 1) key gap)
    (hs : (State.value outer (Text.trim key)).step limit position c = .ok s) :
    Taken limit s (a ++ opening key gap ++ [c]) := by
  simp only [State.step] at hs
  split at hs
  · cases hs
    have hopen' : Opens limit (outer.length + 1) key (gap ++ [c]) :=
      ⟨hopen.shallow, hopen.plain, hopen.named, asciiBlanks_append hopen.blank (asciiBlanks_singleton ‹_›)⟩
    simpa [opening] using Taken.value ha hopen'
  · rename_i hblank
    rw [← List.append_nil (a ++ opening key gap)]
    split at hs
    · subst c
      exact taken_openNode (.branch ha hopen .nil) hs
    · rename_i hparen
      have hstart : StartsValue (([] : Text).reverse ++ [c]) := by
        intro d hd
        cases hd
        exact ⟨hparen, by simpa using hblank⟩
      exact taken_stepText ha hopen hstart rfl (by simpa using hopen.shallow) hs

/-- One character that the reader takes in is taken in. -/
theorem taken_step {position : Nat} {c : Char} {s s' : State} {a : Text} (h : Taken limit s a)
    (hs : s.step limit position c = .ok s') : Taken limit s' (a ++ [c]) := by
  cases h with
  | before ha =>
    simp only [State.step] at hs
    split at hs
    · cases hs
      exact .before (asciiBlanks_append ha (asciiBlanks_singleton ‹_›))
    · split at hs
      · subst c
        exact taken_openNode (.root ha) hs
      · cases hs
  | key ha hdepth hread => exact taken_stepKey ha hdepth hread hs
  | value ha hopen => exact taken_stepValue ha hopen hs
  | text ha hopen hne hstart hcount hdepth =>
    exact taken_stepText ha hopen (startsValue_append hstart (by simpa using hne) _) hcount hdepth hs
  | between ha hne =>
    simp only [State.step] at hs
    split at hs
    · cases hs
      exact .between (enclosed_append_blank ha hne ‹_›) hne
    · split at hs
      · subst c
        exact taken_openNode ha hs
      · split at hs
        · cases hs
          subst c
          exact taken_close_branch ha hne
        · cases hs
  | done ha =>
    simp only [State.step] at hs
    split at hs
    · cases hs
      obtain ⟨before, n, after, hbefore, hnode, hafter, rfl⟩ := ha
      exact .done ⟨before, n, after ++ [c], hbefore, hnode, asciiBlanks_append hafter (asciiBlanks_singleton ‹_›),
        List.append_assoc _ _ _⟩
    · cases hs

/-- A run that ends well has taken in a text of the grammar. -/
theorem denotes_of_run {rest : Text} {position : Nat} {s : State} {a : Text} {t : Tree} (h : Taken limit s a)
    (hr : s.run limit position rest = .ok t) : Denotes limit (a ++ rest) t := by
  induction rest generalizing position s a with
  | nil =>
    rw [List.append_nil]
    cases h with
    | done ha => cases hr; exact ha
    | _ => cases hr
  | cons c rest ih =>
    rw [State.run] at hr
    split at hr
    · rename_i s' hs
      rw [← List.singleton_append, ← List.append_assoc]
      exact ih (taken_step h hs) hr
    · cases hr

/-- What is read is what the text denotes. -/
theorem denotes_of_parse {text : Text} {t : Tree} (h : parse limit text = .ok t) :
    Denotes (effectiveLimit limit) text t := by
  unfold parse at h
  split at h
  · cases h
  · exact denotes_of_run (.before asciiBlanks_nil) h

/-- The reader accepts exactly the texts of the grammar that nest no deeper than the limit, which is 256 where more is
    asked for. No text denotes two trees. -/
theorem parse_eq_ok_iff_denotes (limit : Nat) (text : Text) :
    (∀ t, parse limit text = .ok t ↔ Denotes (min limit 256) text t) ∧
      ∀ t t', Denotes (min limit 256) text t → Denotes (min limit 256) text t' → t = t' := by
  rw [← effectiveLimit_eq]
  refine ⟨fun t => ⟨denotes_of_parse, parse_of_denotes⟩, fun t t' h h' => ?_⟩
  have heq := (parse_of_denotes h).symm.trans (parse_of_denotes h')
  exact Except.ok.inj heq

end ConnectString.Descriptor
