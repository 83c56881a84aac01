/-
  ConnectString.Proofs.Descriptor.Completeness — what the grammar derives, the reader reads.

  A run takes one part of the grammar after the other: blanks leave a state as it is (`run_asciiBlanks`), an opening
  leads to where a value is awaited (`run_opening`), a value closes its node (`run_value`). By induction on the tree, a
  node closes in the branches around it whatever follows it (`run_node`), so that a text which denotes a tree is read
  as that tree (`parse_of_denotes`).
-/

import ConnectString.Descriptor.Reader
import ConnectString.Proofs.Descriptor.Grammar

namespace ConnectString.Descriptor

namespace State

variable {limit position : Nat} {outer : List Frame} {key gap rest : Text}

theorem run_of_step {s s' : State} {c : Char} (h : s.step limit position c = .ok s') (rest : Text) :
    run limit position s (c :: rest) = run limit (position + c.utf8Size) s' rest := by
  simp only [run, h]

/-! ## Blanks -/

/-- ASCII blanks change nothing in this state. -/
def SkipsBlanks (s : State) : Prop :=
  ∀ (limit position : Nat) (c : Char), isAsciiBlank c = true → s.step limit position c = .ok s

theorem skipsBlanks_before : SkipsBlanks before := fun _ _ _ h => if_pos h
theorem skipsBlanks_value (outer : List Frame) (key : Text) : SkipsBlanks (value outer key) := fun _ _ _ h => if_pos h
theorem skipsBlanks_between (outer : List Frame) (f : Frame) : SkipsBlanks (between outer f) := fun _ _ _ h => if_pos h
theorem skipsBlanks_done (t : Tree) : SkipsBlanks (done t) := fun _ _ _ h => if_pos h

theorem run_asciiBlanks {s : State} (hs : SkipsBlanks s) (hgap : AsciiBlanks gap) (rest : Text) :
    run limit position s (gap ++ rest) = run limit (position + Text.byteLength gap) s rest := by
  induction gap generalizing position with
  | nil => rfl
  | cons c gap ih =>
    rw [List.cons_append, run_of_step (hs limit position c (hgap c List.mem_cons_self)),
      ih fun d hd => hgap d (List.mem_cons_of_mem c hd), Text.byteLength_cons, Nat.add_assoc]

/-! ## Openings -/

/-- A node that starts in this state stands inside the branches `outer`. -/
def Admits (outer : List Frame) (s : State) : Prop :=
  ∀ limit position : Nat, s.step limit position '(' = openNode limit position outer

theorem admits_before : Admits [] before := fun _ _ => rfl
theorem admits_value (outer : List Frame) (key : Text) : Admits (⟨key, []⟩ :: outer) (value outer key) := fun _ _ => rfl
theorem admits_between (outer : List Frame) (f : Frame) : Admits (f :: outer) (between outer f) := fun _ _ => rfl

theorem step_key_plain {start : Nat} {read : Text} {c : Char} (h : c ≠ '(' ∧ c ≠ ')' ∧ c ≠ '=') :
    (State.key outer start read).step limit position c = .ok (.key outer start (c :: read)) := by
  simp [step, h.1, h.2.1, h.2.2]

theorem step_key_equals {start : Nat} {read : Text} (h : Text.trim read.reverse ≠ []) :
    (State.key outer start read).step limit position '=' = .ok (.value outer (Text.trim read.reverse)) := by
  rcases hk : Text.trim read.reverse with _ | ⟨c, k⟩
  · exact absurd hk h
  · simp [step, hk]

theorem run_key {start : Nat} {read : Text} (h : Plain key) (rest : Text) :
    run limit position (.key outer start read) (key ++ rest) =
      run limit (position + Text.byteLength key) (.key outer start (key.reverse ++ read)) rest := by
  induction key generalizing position read with
  | nil => rfl
  | cons c key ih =>
    rw [List.cons_append, run_of_step (step_key_plain (h c List.mem_cons_self)),
      ih fun d hd => h d (List.mem_cons_of_mem c hd), Text.byteLength_cons, Nat.add_assoc, List.reverse_cons,
      List.append_assoc, List.singleton_append]

theorem run_opening {s : State} (hs : Admits outer s) (h : Opens limit (outer.length + 1) key gap) (rest : Text) :
    run limit position s (opening key gap ++ rest) =
      run limit (position + Text.byteLength (opening key gap)) (.value outer (Text.trim key)) rest := by
  have hopen : s.step limit position '(' = .ok (.key outer (position + 1) []) := by
    rw [hs, openNode, if_neg (Nat.not_lt.mpr h.shallow)]
  have hnamed : Text.trim (key.reverse ++ []).reverse ≠ [] := by simpa using h.named
  simp only [opening, List.cons_append, List.append_assoc]
  rw [run_of_step hopen, run_key h.plain, run_of_step (step_key_equals hnamed),
    run_asciiBlanks (skipsBlanks_value _ _) h.blank]
  simp [Nat.add_assoc]

/-! ## Values -/

/-- Where a value starts, awaiting it and reading it come to the same. -/
theorem step_value_eq_text {c : Char} (h : c ≠ '(' ∧ isAsciiBlank c = false) :
    (State.value outer key).step limit position c = (State.text outer key [] 0).step limit position c := by
  simp [step, h.1, h.2]

theorem stepText_open {read : Text} {nested : Nat} (h : outer.length + 1 + (nested + 1) ≤ limit) :
    stepText limit outer key read nested '(' = .ok (.text outer key ('(' :: read) (nested + 1)) := by
  rw [stepText.eq_def, if_pos rfl, if_neg (Nat.not_lt.mpr h)]

theorem stepText_close_zero {read : Text} :
    stepText limit outer key read 0 ')' = .ok (close outer (leafOrEmpty key read)) := rfl

theorem stepText_close_succ {read : Text} {nested : Nat} :
    stepText limit outer key read (nested + 1) ')' = .ok (.text outer key (')' :: read) nested) := rfl

theorem stepText_plain {read : Text} {nested : Nat} {c : Char} (h : c ≠ '(' ∧ c ≠ ')') :
    stepText limit outer key read nested c = .ok (.text outer key (c :: read) nested) := by
  rw [stepText.eq_def, if_neg h.1, if_neg h.2]

/-- A text keeps count of its own parentheses, as long as it does not nest too deep. -/
theorem run_text {s read : Text} {n m : Nat} (hn : Text.openAfter n s = some m)
    (hd : outer.length + 1 + n + Text.nesting s ≤ limit) (rest : Text) :
    run limit position (.text outer key read n) (s ++ rest) =
      run limit (position + Text.byteLength s) (.text outer key (s.reverse ++ read) m) rest := by
  induction s generalizing position read n with
  | nil =>
    rw [Text.openAfter_nil, Option.some.injEq] at hn
    rw [hn]
    rfl
  | cons c s ih =>
    have hstep : ∃ n', (State.text outer key read n).step limit position c = .ok (.text outer key (c :: read) n') ∧
        Text.openAfter n' s = some m ∧ outer.length + 1 + n' + Text.nesting s ≤ limit := by
      by_cases ho : c = '('
      · subst ho
        rw [Text.openAfter_open] at hn
        rw [Text.nesting_open] at hd
        exact ⟨n + 1, stepText_open (by omega), hn, by omega⟩
      by_cases hc : c = ')'
      · subst hc
        rw [Text.nesting_close] at hd
        rcases n with _ | n
        · simp at hn
        · rw [Text.openAfter_close_succ] at hn
          exact ⟨n, stepText_close_succ, hn, by omega⟩
      · rw [Text.openAfter_plain ⟨ho, hc⟩] at hn
        rw [Text.nesting_plain ⟨ho, hc⟩] at hd
        exact ⟨n, stepText_plain ⟨ho, hc⟩, hn, hd⟩
    obtain ⟨n', hs, hn', hd'⟩ := hstep
    rw [List.cons_append, run_of_step hs, ih hn' hd', Text.byteLength_cons, Nat.add_assoc, List.reverse_cons,
      List.append_assoc, List.singleton_append]

theorem run_value {s : Text} (h : Value limit (outer.length + 1) s) (rest : Text) :
    run limit position (.value outer key) (s ++ ')' :: rest) =
      run limit (position + Text.byteLength (s ++ [')'])) (close outer (leafOrEmpty key s.reverse)) rest := by
  have hlast : (State.text outer key (s.reverse ++ []) 0).step limit (position + Text.byteLength s) ')' =
      .ok (close outer (leafOrEmpty key s.reverse)) := by
    rw [List.append_nil]
    exact stepText_close_zero
  have hfirst : run limit position (.value outer key) (s ++ ')' :: rest) =
      run limit position (.text outer key [] 0) (s ++ ')' :: rest) := by
    rcases s with _ | ⟨c, s⟩
    · rfl
    · simp only [List.cons_append, run, step_value_eq_text (h.start c rfl)]
  rw [hfirst, run_text (Text.balanced_iff.mp h.balanced) (by simpa using h.shallow), run_of_step hlast,
    Text.byteLength_append, Nat.add_assoc]
  rfl

theorem leafOrEmpty_of_ne {s : Text} (h : Text.trim s ≠ []) : leafOrEmpty key s.reverse = .leaf key (Text.trim s) := by
  rw [leafOrEmpty, List.reverse_reverse]
  split
  · contradiction
  · rfl

theorem leafOrEmpty_of_nil {s : Text} (h : Text.trim s = []) : leafOrEmpty key s.reverse = .branch key [] := by
  rw [leafOrEmpty, List.reverse_reverse, h]

/-! ## Nodes -/

/-- A node with a value in it is read up to its closing parenthesis. -/
theorem run_opening_value {s : State} {v : Text} (hs : Admits outer s) (hopen : Opens limit (outer.length + 1) key gap)
    (hval : Value limit (outer.length + 1) v) (rest : Text) :
    run limit position s (opening key gap ++ v ++ [')'] ++ rest) =
      run limit (position + Text.byteLength (opening key gap ++ v ++ [')']))
        (close outer (leafOrEmpty (Text.trim key) v.reverse)) rest := by
  rw [List.append_assoc, List.append_assoc, run_opening hs hopen, List.singleton_append, run_value hval]
  simp only [Text.byteLength_append, Nat.add_assoc]

mutual

/-- A node closes in the branches that it starts in, whatever follows. -/
theorem run_node : ∀ (t : Tree) {position : Nat} {outer : List Frame} {s : State} {a : Text}, Admits outer s →
    Node limit (outer.length + 1) a t → ∀ rest : Text,
    run limit position s (a ++ rest) = run limit (position + Text.byteLength a) (close outer t) rest
  | .leaf _ _, _, _, _, _, hs, .leaf hopen hval hne, rest => by
    rw [run_opening_value hs hopen hval, leafOrEmpty_of_ne hne]
  | .branch _ _, _, _, _, _, hs, .empty hopen hval hnil, rest => by
    rw [run_opening_value hs hopen hval, leafOrEmpty_of_nil hnil]
  | .branch _ (t :: ts), _, _, _, _, hs, .branch hopen (.cons hnode hgap hrest) _, rest => by
    simp only [List.append_assoc]
    rw [run_opening hs hopen, run_node t (admits_value _ _) hnode, close,
      run_asciiBlanks (skipsBlanks_between _ _) hgap, run_nodes ts hrest, List.singleton_append, run_of_step rfl]
    simp [Nat.add_assoc]

/-- A row of nodes adds to the branch that it stands in. -/
theorem run_nodes : ∀ (ts : List Tree) {position : Nat} {outer : List Frame} {f : Frame} {b : Text},
    Nodes limit (outer.length + 2) b ts → ∀ rest : Text,
    run limit position (.between outer f) (b ++ rest) =
      run limit (position + Text.byteLength b) (.between outer { f with children := ts.reverse ++ f.children }) rest
  | [], _, _, _, _, .nil, _ => rfl
  | t :: ts, _, outer, f, _, .cons hnode hgap hrest, rest => by
    simp only [List.append_assoc]
    rw [run_node t (admits_between outer f) hnode, close, run_asciiBlanks (skipsBlanks_between _ _) hgap,
      run_nodes ts hrest]
    simp [Nat.add_assoc]

end

end State

/-- A text that denotes a tree is read as that tree. -/
theorem parse_of_denotes {limit : Nat} {text : Text} {t : Tree} (h : Denotes (effectiveLimit limit) text t) :
    parse limit text = .ok t := by
  have hpos : effectiveLimit limit ≠ 0 := by
    have := (readable_of_denotes h).fits
    have := t.weight_pos
    omega
  obtain ⟨before, a, after, hbefore, hnode, hafter, rfl⟩ := h
  rw [parse, if_neg hpos, List.append_assoc, State.run_asciiBlanks State.skipsBlanks_before hbefore,
    State.run_node t State.admits_before hnode, State.close, ← List.append_nil after,
    State.run_asciiBlanks (State.skipsBlanks_done t) hafter]
  rfl

end ConnectString.Descriptor
