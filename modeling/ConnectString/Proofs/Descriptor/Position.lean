/-
  ConnectString.Proofs.Descriptor.Position — the place that an error is reported at.

  A run that fails has taken in a part of the text, and stops at the character behind that part or at the end
  (`exists_stop_of_run_error`). What it has taken in so far can always be completed: `completion` closes whatever is
  open, and the reader accepts it (`run_completion`). What one character can do is said once (`makes_step`): an error is
  reported where the run stops, but for a key without a name, which is reported where it began (`step_unbalanced`).

  Main statement: the position of an error lies between two characters, what comes before it can be completed, and no
  text that goes on with the character there is read any better (`parse_unbalanced`).
-/

import ConnectString.Proofs.Descriptor.Limit

namespace ConnectString.Descriptor

namespace State

variable {limit position : Nat} {s : State}

def advance (limit position : Nat) : State → Text → Except Failure State
  | s, [] => .ok s
  | s, c :: rest =>
    match s.step limit position c with
    | .ok s' => advance limit (position + c.utf8Size) s' rest
    | .error e => .error e

/-- Where a run fails: the rest of the text starts with a character that the state cannot take in, or there is no
    rest. -/
inductive Stops (limit position : Nat) (s : State) : Text → Failure → Prop where
  | atEnd {e : Failure} (h : s.finish position = .error e) : Stops limit position s [] e
  | atChar {c : Char} {rest : Text} {e : Failure} (h : s.step limit position c = .error e) :
      Stops limit position s (c :: rest) e

/-! ## Parts of a run -/

theorem advance_cons {s' : State} {c : Char} (h : s.step limit position c = .ok s') (rest : Text) :
    s.advance limit position (c :: rest) = s'.advance limit (position + c.utf8Size) rest := by
  simp only [advance, h]

theorem run_append_of_advance {s' : State} {a : Text} (h : s.advance limit position a = .ok s') (rest : Text) :
    s.run limit position (a ++ rest) = s'.run limit (position + Text.byteLength a) rest := by
  induction a generalizing s position with
  | nil =>
    cases h
    rfl
  | cons c a ih =>
    rw [advance] at h
    split at h
    · rename_i m hm
      rw [List.cons_append, run_of_step hm, ih h, Text.byteLength_cons, Nat.add_assoc]
    · cases h

theorem advance_append_of_advance {m : State} {a : Text} (h : s.advance limit position a = .ok m) (b : Text) :
    s.advance limit position (a ++ b) = m.advance limit (position + Text.byteLength a) b := by
  induction a generalizing s position with
  | nil =>
    cases h
    rfl
  | cons c a ih =>
    rw [advance] at h
    split at h
    · rename_i m' hm
      rw [List.cons_append, advance_cons hm, ih h, Text.byteLength_cons, Nat.add_assoc]
    · cases h

theorem exists_advance_of_append {s' : State} {a b : Text} (h : s.advance limit position (a ++ b) = .ok s') :
    ∃ m, s.advance limit position a = .ok m := by
  induction a generalizing s position with
  | nil => exact ⟨s, rfl⟩
  | cons c a ih =>
    rw [List.cons_append, advance] at h
    split at h
    · rename_i m hm
      rw [advance_cons hm]
      exact ih h
    · cases h

/-- A run that fails takes in a part of the text, and stops behind it. -/
theorem exists_stop_of_run_error {text : Text} {e : Failure} (h : s.run limit position text = .error e) :
    ∃ a r s', text = a ++ r ∧ s.advance limit position a = .ok s' ∧
      Stops limit (position + Text.byteLength a) s' r e := by
  induction text generalizing s position with
  | nil => exact ⟨[], [], s, rfl, rfl, .atEnd h⟩
  | cons c text ih =>
    rw [run] at h
    split at h
    · rename_i m hm
      obtain ⟨a, r, s', rfl, hadvance, hstop⟩ := ih h
      refine ⟨c :: a, r, s', rfl, ?_, ?_⟩
      · rw [advance_cons hm]
        exact hadvance
      · rw [Text.byteLength_cons, ← Nat.add_assoc]
        exact hstop
    · rename_i e' he
      cases h
      exact ⟨[], c :: text, s, rfl, rfl, .atChar he⟩

/-- What holds before the first character and is kept by each one holds of every part of a text that is taken in. -/
theorem advance_induction {P : Text → State → Prop} (start : P [] .before)
    (next : ∀ {a s c s'}, P a s → s.step limit (Text.byteLength a) c = .ok s' → P (a ++ [c]) s') {a : Text}
    (h : State.before.advance limit 0 a = .ok s) : P a s := by
  induction a using List.reverseRecOn generalizing s with
  | nil =>
    cases h
    exact start
  | append_singleton a c ih =>
    obtain ⟨m, hm⟩ := exists_advance_of_append h
    rw [advance_append_of_advance hm, Nat.zero_add, advance] at h
    split at h
    · rename_i s' hs
      cases h
      exact next (ih hm) hs
    · cases h

/-- What is taken in stays within the limit. -/
theorem opened_le_of_advance {a : Text} (h : State.before.advance limit 0 a = .ok s) : s.opened ≤ limit := by
  refine advance_induction (P := fun _ s => s.opened ≤ limit) (Nat.zero_le limit) ?_ h
  intro a s c s' hfit hs
  have hturn := turn_step (Text.byteLength a) c hfit
  rw [hs] at hturn
  cases hturn with
  | on hcount hfit' => exact hfit'

/-! ## Completions -/

/-- The shortest way from a state to the end of a descriptor. -/
def completion : State → Text
  | before => "(K=)".toList
  | key outer _ _ => "K=)".toList ++ List.replicate outer.length ')'
  | value outer _ | between outer _ => ')' :: List.replicate outer.length ')'
  | text outer _ _ nested => List.replicate nested ')' ++ ')' :: List.replicate outer.length ')'
  | done _ => []

theorem run_close (outer : List Frame) (t : Tree) (position : Nat) :
    ∃ root, (close outer t).run limit position (List.replicate outer.length ')') = .ok root := by
  induction outer generalizing t position with
  | nil => exact ⟨t, rfl⟩
  | cons f outer ih => exact ih _ (position + ')'.utf8Size)

/-- Closing a value closes its own parentheses first, and then its node. -/
theorem run_text_closes (outer : List Frame) (key read : Text) (nested position : Nat) :
    ∃ root, (State.text outer key read nested).run limit position
      (List.replicate nested ')' ++ ')' :: List.replicate outer.length ')') = .ok root := by
  induction nested generalizing read position with
  | zero => exact run_close outer (leafOrEmpty key read) (position + ')'.utf8Size)
  | succ n ih => exact ih (')' :: read) (position + ')'.utf8Size)

/-- Every state leads to the end of a descriptor. -/
theorem run_completion (hlimit : 0 < limit) (s : State) (position : Nat) :
    ∃ root, s.run limit position s.completion = .ok root := by
  cases s with
  | before =>
    have hopen : State.before.step limit position '(' = .ok (.key [] (position + 1) []) := by
      show openNode limit position [] = _
      exact if_neg (Nat.not_lt.mpr hlimit)
    refine ⟨.branch ['K'] [], ?_⟩
    show State.before.run limit position ('(' :: "K=)".toList) = _
    rw [run_of_step hopen]
    rfl
  | key outer start read =>
    obtain ⟨r, hr⟩ := Text.exists_trim_concat (by decide : isBlank 'K' = false) read.reverse
    have hnamed : Text.trim ('K' :: read).reverse ≠ [] := by
      rw [List.reverse_cons, hr]
      exact List.concat_ne_nil 'K' r
    show ∃ root, (State.key outer start read).run limit position ('K' :: '=' :: ')' :: _) = .ok root
    rw [run_of_step (step_key_plain (by decide)), run_of_step (step_key_equals hnamed)]
    exact run_close outer (leafOrEmpty _ []) _
  | value outer key => exact run_close outer (leafOrEmpty key []) (position + ')'.utf8Size)
  | text outer key read nested => exact run_text_closes outer key read nested position
  | between outer inner => exact run_close outer _ (position + ')'.utf8Size)
  | done root => exact ⟨root, rfl⟩

/-- What a run has taken in can be completed. -/
theorem exists_completion {a : Text} (hlimit : 0 < limit) (h : State.before.advance limit 0 a = .ok s) :
    ∃ suffix root, State.before.run limit 0 (a ++ suffix) = .ok root := by
  obtain ⟨root, hroot⟩ := run_completion hlimit s (0 + Text.byteLength a)
  exact ⟨s.completion, root, (run_append_of_advance h _).trans hroot⟩

/-! ## One character -/

inductive Makes (limit position : Nat) : State → Char → Except Failure State → Prop where
  | skip {s : State} {c : Char} (hs : ∀ outer start read, s ≠ key outer start read) :
      Makes limit position s c (.ok s)
  | opens (s : State) (outer : List Frame) : Makes limit position s '(' (openNode limit position outer)
  | wrong (s : State) (c : Char) {detail : String} (h : detail ≠ "empty key") :
      Makes limit position s c (.error (.unbalanced position detail))
  | unnamed {outer : List Frame} {start : Nat} {read : Text} (h : Text.trim read.reverse = []) :
      Makes limit position (key outer start read) '=' (.error (.unbalanced start "empty key"))
  | named (outer : List Frame) (start : Nat) (read k : Text) :
      Makes limit position (key outer start read) '=' (.ok (value outer k))
  | inKey {outer : List Frame} {start : Nat} {read : Text} {c : Char} (hc : c ≠ '(' ∧ c ≠ ')' ∧ c ≠ '=') :
      Makes limit position (key outer start read) c (.ok (key outer start (c :: read)))
  | inText (s : State) (outer : List Frame) (k read : Text) (nested : Nat) (c : Char) :
      Makes limit position s c (stepText limit outer k read nested c)
  | closes (outer : List Frame) (inner : Frame) (root : Tree) :
      Makes limit position (between outer inner) ')' (.ok (close outer root))

theorem makes_step (limit position : Nat) (s : State) (c : Char) :
    Makes limit position s c (s.step limit position c) := by
  cases s with
  | before =>
    simp only [step]
    split
    · exact .skip (by simp)
    split
    · subst c
      exact .opens _ []
    · exact .wrong _ c (by decide)
  | key outer start read =>
    simp only [step]
    split
    · subst c
      split
      · exact .unnamed ‹_›
      · exact .named outer start read _
    rename_i hequals
    split
    · exact .wrong _ c (by decide)
    · rename_i hparen
      exact .inKey ⟨fun he => hparen (.inl he), fun he => hparen (.inr he), hequals⟩
  | value outer k =>
    simp only [step]
    split
    · exact .skip (by simp)
    split
    · subst c
      exact .opens _ _
    · exact .inText _ outer k [] 0 c
  | text outer k read nested => exact .inText _ outer k read nested c
  | between outer inner =>
    simp only [step]
    split
    · exact .skip (by simp)
    split
    · subst c
      exact .opens _ _
    split
    · subst c
      exact .closes outer inner _
    · exact .wrong _ c (by decide)
  | done root =>
    simp only [step]
    split
    · exact .skip (by simp)
    · exact .wrong _ c (by decide)

theorem openNode_cases (limit position : Nat) (outer : List Frame) :
    openNode limit position outer = .error (.nestingTooDeep limit) ∨
      openNode limit position outer = .ok (key outer (position + 1) []) := by
  unfold openNode
  split
  · exact .inl rfl
  · exact .inr rfl

/-- A character of a text leaves the reader in the text, or closes its node, or goes beyond the limit. -/
theorem stepText_cases (limit : Nat) (outer : List Frame) (k read : Text) (nested : Nat) (c : Char) :
    stepText limit outer k read nested c = .error (.nestingTooDeep limit) ∨
      (∃ n, stepText limit outer k read nested c = .ok (text outer k (c :: read) n)) ∨
      ∃ root, stepText limit outer k read nested c = .ok (close outer root) := by
  unfold stepText
  split
  · split
    · exact .inl rfl
    · exact .inr (.inl ⟨nested + 1, rfl⟩)
  split
  · rcases nested with _ | n
    · exact .inr (.inr ⟨_, rfl⟩)
    · exact .inr (.inl ⟨n, rfl⟩)
  · exact .inr (.inl ⟨nested, rfl⟩)

/-! ## Errors -/

/-- An unbalanced descriptor is reported at the character that brings it out, or, where that is the equals sign behind
    a key without a name, at the start of the key. -/
theorem step_unbalanced {c : Char} {p : Nat} {detail : String}
    (h : s.step limit position c = .error (.unbalanced p detail)) :
    (p = position ∧ detail ≠ "empty key") ∨
      ∃ outer read, s = .key outer p read ∧ c = '=' ∧ Text.trim read.reverse = [] ∧ detail = "empty key" := by
  have hmakes := makes_step limit position s c
  rw [h] at hmakes
  generalize ho : Except.error (Failure.unbalanced p detail) = o at hmakes
  cases hmakes with
  | skip | named | inKey | closes => cases ho
  | wrong _ _ hd =>
    cases ho
    exact .inl ⟨rfl, hd⟩
  | unnamed hempty =>
    cases ho
    exact .inr ⟨_, _, rfl, rfl, hempty, rfl⟩
  | opens _ outer =>
    rcases openNode_cases limit position outer with hdeep | hopen
    · cases ho.trans hdeep
    · cases ho.trans hopen
  | inText _ outer k read nested =>
    rcases stepText_cases limit outer k read nested c with hdeep | ⟨n, hin⟩ | ⟨root, hclose⟩
    · cases ho.trans hdeep
    · cases ho.trans hin
    · cases ho.trans hclose

/-- The end of the text is reported where it is. -/
theorem finish_error {e : Failure} (h : s.finish position = .error e) :
    ∃ detail, e = .unbalanced position detail ∧ detail ≠ "empty key" := by
  cases s with
  | done root => cases h
  | _ =>
    cases h
    exact ⟨_, rfl, by decide⟩

/-- Reading fails in no other way than by parentheses that do not match and by their depth. -/
theorem stops_cases {text : Text} {e : Failure} (hfit : s.opened ≤ limit) (h : Stops limit position s text e) :
    (∃ p detail, e = .unbalanced p detail) ∨ e = .nestingTooDeep limit := by
  cases h with
  | atEnd hend =>
    obtain ⟨detail, rfl, -⟩ := finish_error hend
    exact .inl ⟨position, detail, rfl⟩
  | @atChar c rest e hchar =>
    have hturn := turn_step position c hfit
    rw [hchar] at hturn
    cases hturn with
    | deep => exact .inr rfl
    | wrong p detail => exact .inl ⟨p, detail, rfl⟩

/-- A key is the end of what was taken in, from the byte offset on that it keeps. -/
def KeepsStart (a : Text) : State → Prop
  | key _ start read => Plain read ∧ ∃ b, a = b ++ read.reverse ∧ Text.byteLength b = start
  | _ => True

theorem keepsStart_close (a : Text) (outer : List Frame) (root : Tree) : KeepsStart a (close outer root) := by
  cases outer <;> trivial

theorem keepsStart_step {a : Text} {c : Char} {s' : State} (hs : KeepsStart a s)
    (h : s.step limit (Text.byteLength a) c = .ok s') : KeepsStart (a ++ [c]) s' := by
  have hmakes := makes_step limit (Text.byteLength a) s c
  rw [h] at hmakes
  generalize ho : Except.ok s' = o at hmakes
  cases hmakes with
  | wrong | unnamed => cases ho
  | named =>
    cases ho
    trivial
  | skip hnokey =>
    cases ho
    cases s with
    | key outer start read => exact absurd rfl (hnokey outer start read)
    | _ => trivial
  | closes outer inner root =>
    cases ho
    exact keepsStart_close _ outer root
  | opens _ outer =>
    rcases openNode_cases limit (Text.byteLength a) outer with hdeep | hopen
    · cases ho.trans hdeep
    · cases ho.trans hopen
      refine ⟨fun _ hc => absurd hc List.not_mem_nil, a ++ ['('], by simp, ?_⟩
      rw [Text.byteLength_append]
      rfl
  | inText _ outer k read nested =>
    rcases stepText_cases limit outer k read nested c with hdeep | ⟨n, hin⟩ | ⟨root, hclose⟩
    · cases ho.trans hdeep
    · cases ho.trans hin
      trivial
    · cases ho.trans hclose
      exact keepsStart_close _ outer root
  | @inKey outer start read c hc =>
    cases ho
    obtain ⟨hplain, b, rfl, hb⟩ := hs
    refine ⟨List.forall_mem_cons.mpr ⟨hc, hplain⟩, b, ?_, hb⟩
    rw [List.reverse_cons, List.append_assoc]

end State

theorem parse_error_cases {limit : Nat} {text : Text} {e : Failure} (h : parse limit text = .error e) :
    (∃ p detail, e = .unbalanced p detail) ∨ e = .nestingTooDeep (effectiveLimit limit) := by
  unfold parse at h
  split at h
  · rename_i hzero
    cases h
    exact .inr (by rw [hzero])
  · obtain ⟨a, r, s, -, hadvance, hstop⟩ := State.exists_stop_of_run_error h
    exact State.stops_cases (State.opened_le_of_advance hadvance) hstop

/-! ## Positions -/

/-- What the position of an error says about the text. It lies between two characters, or at the end, and what comes
    before it can be completed. No text that goes on with the character at the position is read any better; where the
    error is a key without a name, no text that goes on up to the equals sign behind that key. -/
def PointsAt (limit : Nat) (text : Text) (position : Nat) (detail : String) : Prop :=
  position ≤ Text.byteLength text ∧
    ∃ a r, text = a ++ r ∧ Text.byteLength a = position ∧
      (∃ suffix root, parse limit (a ++ suffix) = .ok root) ∧
      (detail ≠ "empty key" → ∀ c r', r = c :: r' →
        ∀ other, parse limit (a ++ c :: other) = .error (.unbalanced position detail)) ∧
      (detail = "empty key" → ∃ k r', r = k ++ '=' :: r' ∧ '=' ∉ k ∧
        ∀ other, parse limit (a ++ k ++ '=' :: other) = .error (.unbalanced position detail))

/-- The error of a run points at its position. -/
theorem parse_unbalanced {limit : Nat} {text : Text} {position : Nat} {detail : String}
    (h : parse limit text = .error (.unbalanced position detail)) : PointsAt limit text position detail := by
  unfold parse at h
  split at h
  · cases h
  rename_i hzero
  have hparse : ∀ t, parse limit t = State.before.run (effectiveLimit limit) 0 t := fun t => if_neg hzero
  obtain ⟨a, r, s, rfl, hadvance, hstop⟩ := State.exists_stop_of_run_error h
  have hcomplete : ∀ {b : Text} {m : State}, State.before.advance (effectiveLimit limit) 0 b = .ok m →
      ∃ suffix root, parse limit (b ++ suffix) = .ok root := by
    intro b m hm
    simp only [hparse]
    exact State.exists_completion (Nat.pos_of_ne_zero hzero) hm
  -- Whatever stands behind the character that a state cannot take in, the run fails there.
  have hfails : ∀ {c : Char} {e : Failure}, s.step (effectiveLimit limit) (0 + Text.byteLength a) c = .error e →
      ∀ other, parse limit (a ++ c :: other) = .error e := by
    intro c e hc other
    rw [hparse, State.run_append_of_advance hadvance]
    simp only [State.run, hc]
  cases hstop with
  | atEnd hend =>
    obtain ⟨d, he, hd⟩ := State.finish_error hend
    cases he
    refine ⟨by simp, a, [], rfl, (Nat.zero_add _).symm, hcomplete hadvance, ?_, fun he => absurd he hd⟩
    intro _ c r' hr
    cases hr
  | @atChar c rest _ hchar =>
    rcases State.step_unbalanced hchar with ⟨rfl, hd⟩ | ⟨outer, read, rfl, rfl, hempty, rfl⟩
    · refine ⟨by simp, a, c :: rest, rfl, (Nat.zero_add _).symm, hcomplete hadvance, ?_, fun he => absurd he hd⟩
      intro _ c' r' hr other
      cases hr
      exact hfails hchar other
    · obtain ⟨hplain, b, rfl, rfl⟩ := State.advance_induction (P := State.KeepsStart) trivial State.keepsStart_step hadvance
      obtain ⟨m, hm⟩ := State.exists_advance_of_append hadvance
      refine ⟨by simp, b, read.reverse ++ '=' :: rest, by simp, rfl, hcomplete hm, fun hne => absurd rfl hne, ?_⟩
      intro _
      exact ⟨read.reverse, rest, rfl, fun hmem => (hplain '=' (List.mem_reverse.mp hmem)).2.2 rfl, hfails hchar⟩

/-- A key of two blanks, one of them of two bytes, inside a branch whose key holds a letter of two bytes: the error
    stands where the blank key began. -/
theorem parse_unbalanced_blank_key :
    parse 64 "(Ä=(  =x))".toList = .error (.unbalanced 5 "empty key") ∧
      PointsAt 64 "(Ä=(  =x))".toList 5 "empty key" :=
  ⟨by rfl, parse_unbalanced (by rfl)⟩

end ConnectString.Descriptor
