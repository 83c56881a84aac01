/-
  ConnectString.Proofs.Descriptor.Limit — what the limit on the nesting of a descriptor does to reading it.

  The parentheses that a reader has open are those of the text that it has taken in, those of nodes and those inside
  a value alike. One character opens or closes one of them within the limit, or goes beyond the limit, or is wrong
  where it stands (`turn_step`). So a text that is read to its end nests within the limit (`nesting_le_of_run_ok`),
  and one that is given up as too deep does not (`lt_nesting_of_run_tooDeep`). Under a wider limit a reader does the
  same, up to where the narrower one cuts it off (`cutOff_run`).

  Main statement: limits differ only in the texts that they cut off, and they cut off by the nesting of the text alone
  (`parse_limit`).
-/

import ConnectString.Proofs.Descriptor.Soundness

namespace ConnectString

/-- Reading one character moves how many parentheses are open, and leaves how many will be at most. -/
theorem Text.nesting_cons_le_iff {c : Char} {n m limit : Nat} (h : openAfter n [c] = some m) (hn : n ≤ limit)
    (hm : m ≤ limit) (t : Text) : n + nesting (c :: t) ≤ limit ↔ m + nesting t ≤ limit := by
  by_cases ho : c = '('
  · subst ho
    obtain rfl : n + 1 = m := by simpa using h
    rw [nesting_open]
    omega
  by_cases hc : c = ')'
  · subst hc
    rcases n with _ | n
    · simp at h
    · obtain rfl : n = m := by simpa using h
      rw [nesting_close]
      omega
  · obtain rfl : n = m := by simpa [openAfter_plain ⟨ho, hc⟩] using h
    rw [nesting_plain ⟨ho, hc⟩]

namespace Descriptor

/-- What comes of it under a limit, against what comes of it under a wider one: the same, unless the limit cuts it
    off. -/
def CutOff {α : Type} (limit : Nat) (narrow wide : Except Failure α) : Prop :=
  narrow = .error (.nestingTooDeep limit) ∨ narrow = wide

namespace State

variable {limit limit' position : Nat} {outer : List Frame} {s : State} {c : Char}

def opened : State → Nat
  | before | done _ => 0
  | key outer _ _ | value outer _ | between outer _ => outer.length + 1
  | text outer _ _ nested => outer.length + 1 + nested

inductive Turn (limit : Nat) (s : State) (c : Char) : Except Failure State → Prop where
  | on {s' : State} (hcount : Text.openAfter s.opened [c] = some s'.opened) (hfit : s'.opened ≤ limit) :
      Turn limit s c (.ok s')
  | deep (hopen : c = '(') (hfull : limit < s.opened + 1) : Turn limit s c (.error (.nestingTooDeep limit))
  | wrong (position : Nat) (detail : String) : Turn limit s c (.error (.unbalanced position detail))

/-! ## One character -/

theorem opened_close (outer : List Frame) (t : Tree) : (close outer t).opened = outer.length := by
  cases outer <;> rfl

theorem turn_openNode (position : Nat) (hs : s.opened = outer.length) :
    Turn limit s '(' (openNode limit position outer) := by
  unfold openNode
  split
  · exact .deep rfl (by omega)
  · refine .on ?_ (Nat.not_lt.mp ‹_›)
    rw [Text.openAfter_open, hs]
    rfl

theorem turn_stepText (key read : Text) (c : Char) {nested : Nat} (hs : s.opened = outer.length + 1 + nested)
    (hfit : s.opened ≤ limit) : Turn limit s c (stepText limit outer key read nested c) := by
  unfold stepText
  split
  · subst c
    split
    · exact .deep rfl (by omega)
    · refine .on ?_ (Nat.not_lt.mp ‹_›)
      rw [Text.openAfter_open, Text.openAfter_nil, hs]
      rfl
  · rename_i hopen
    split
    · subst c
      rcases nested with _ | n
      · have hclose := opened_close outer (leafOrEmpty key read)
        refine .on ?_ (by omega)
        rw [hs, Text.openAfter_close_succ, Text.openAfter_nil, hclose]
      · refine .on ?_ (by show outer.length + 1 + n ≤ limit; omega)
        rw [hs, ← Nat.add_assoc, Text.openAfter_close_succ]
        rfl
    · rename_i hclose
      refine .on ?_ (by show outer.length + 1 + nested ≤ limit; omega)
      rw [Text.openAfter_plain ⟨hopen, hclose⟩, hs]
      rfl

/-- A character that is no parenthesis leaves open what is open. -/
theorem turn_plain {s' : State} (hc : c ≠ '(' ∧ c ≠ ')') (hs : s'.opened = s.opened) (hfit : s.opened ≤ limit) :
    Turn limit s c (.ok s') := by
  refine .on ?_ (by omega)
  rw [Text.openAfter_plain hc, hs, Text.openAfter_nil]

theorem turn_step (position : Nat) (c : Char) (hfit : s.opened ≤ limit) :
    Turn limit s c (s.step limit position c) := by
  cases s with
  | before =>
    simp only [step]
    split
    · exact turn_plain (ne_paren_of_isBlank (isBlank_of_isAsciiBlank ‹_›)) rfl hfit
    split
    · subst c
      exact turn_openNode position rfl
    · exact .wrong _ _
  | key outer start read =>
    simp only [step]
    split
    · subst c
      split
      · exact .wrong _ _
      · exact turn_plain (by decide) rfl hfit
    split
    · exact .wrong _ _
    · rename_i hparen
      exact turn_plain (not_or.mp hparen) rfl hfit
  | value outer key =>
    simp only [step]
    split
    · exact turn_plain (ne_paren_of_isBlank (isBlank_of_isAsciiBlank ‹_›)) rfl hfit
    split
    · subst c
      exact turn_openNode position rfl
    · exact turn_stepText key [] c rfl hfit
  | text outer key read nested => exact turn_stepText key read c rfl hfit
  | between outer inner =>
    simp only [step]
    split
    · exact turn_plain (ne_paren_of_isBlank (isBlank_of_isAsciiBlank ‹_›)) rfl hfit
    split
    · subst c
      exact turn_openNode position rfl
    split
    · subst c
      have hclose := opened_close outer (.branch inner.key inner.children.reverse)
      refine .on ?_ (by rw [hclose]; exact Nat.le_of_succ_le hfit)
      rw [hclose]
      simp [opened]
    · exact .wrong _ _
  | done root =>
    simp only [step]
    split
    · exact turn_plain (ne_paren_of_isBlank (isBlank_of_isAsciiBlank ‹_›)) rfl hfit
    · exact .wrong _ _

/-! ## Runs -/

/-- What the end of a text means has nothing to do with the limit. -/
theorem finish_ne_tooDeep (position k : Nat) (s : State) : s.finish position ≠ .error (.nestingTooDeep k) := by
  cases s <;> exact fun h => by cases h

/-- A text that is read to its end nests within the limit. -/
theorem nesting_le_of_run_ok {text : Text} {t : Tree} (hfit : s.opened ≤ limit)
    (h : s.run limit position text = .ok t) : s.opened + Text.nesting text ≤ limit := by
  induction text generalizing s position with
  | nil => simpa using hfit
  | cons c text ih =>
    have hturn := turn_step position c hfit
    rw [run] at h
    split at h
    · rename_i s' hs
      rw [hs] at hturn
      cases hturn with
      | on hcount hfit' => exact (Text.nesting_cons_le_iff hcount hfit hfit' text).mpr (ih hfit' h)
    · cases h

/-- A text that is given up as too deep goes beyond the limit, which is the one that is reported. -/
theorem lt_nesting_of_run_tooDeep {text : Text} {k : Nat} (hfit : s.opened ≤ limit)
    (h : s.run limit position text = .error (.nestingTooDeep k)) :
    k = limit ∧ limit < s.opened + Text.nesting text := by
  induction text generalizing s position with
  | nil => exact absurd h (finish_ne_tooDeep position k s)
  | cons c text ih =>
    have hturn := turn_step position c hfit
    rw [run] at h
    split at h
    · rename_i s' hs
      rw [hs] at hturn
      cases hturn with
      | on hcount hfit' =>
        obtain ⟨hk, hlt⟩ := ih hfit' h
        have hiff := Text.nesting_cons_le_iff hcount hfit hfit' text
        exact ⟨hk, by omega⟩
    · rename_i e he
      cases h
      rw [he] at hturn
      cases hturn with
      | deep hopen hfull =>
        subst hopen
        rw [Text.nesting_open]
        exact ⟨rfl, by omega⟩

/-! ## Two limits -/

theorem cutOff_openNode (h : limit ≤ limit') (position : Nat) (outer : List Frame) :
    CutOff limit (openNode limit position outer) (openNode limit' position outer) := by
  unfold openNode
  by_cases hfull : limit < outer.length + 1
  · exact .inl (if_pos hfull)
  · rw [if_neg hfull, if_neg (by omega)]
    exact .inr rfl

theorem cutOff_stepText (h : limit ≤ limit') (outer : List Frame) (key read : Text) (nested : Nat) (c : Char) :
    CutOff limit (stepText limit outer key read nested c) (stepText limit' outer key read nested c) := by
  unfold stepText
  by_cases hopen : c = '('
  · rw [if_pos hopen, if_pos hopen]
    by_cases hfull : limit < outer.length + 1 + (nested + 1)
    · exact .inl (if_pos hfull)
    · rw [if_neg hfull, if_neg (by omega)]
      exact .inr rfl
  · rw [if_neg hopen, if_neg hopen]
    exact .inr rfl

theorem cutOff_step (h : limit ≤ limit') (position : Nat) (c : Char) (s : State) :
    CutOff limit (s.step limit position c) (s.step limit' position c) := by
  cases s with
  | before =>
    simp only [step]
    split
    · exact .inr rfl
    split
    · exact cutOff_openNode h position []
    · exact .inr rfl
  | key outer start read => exact .inr rfl
  | value outer key =>
    simp only [step]
    split
    · exact .inr rfl
    split
    · exact cutOff_openNode h position _
    · exact cutOff_stepText h outer key [] 0 c
  | text outer key read nested => exact cutOff_stepText h outer key read nested c
  | between outer inner =>
    simp only [step]
    split
    · exact .inr rfl
    split
    · exact cutOff_openNode h position _
    · exact .inr rfl
  | done root => exact .inr rfl

theorem cutOff_run (h : limit ≤ limit') (text : Text) (position : Nat) (s : State) :
    CutOff limit (s.run limit position text) (s.run limit' position text) := by
  induction text generalizing position s with
  | nil => exact .inr rfl
  | cons c text ih =>
    rw [run, run]
    rcases cutOff_step h position c s with hdeep | hsame
    · rw [hdeep]
      exact .inl rfl
    · rw [hsame]
      split
      · exact ih _ _
      · exact .inr rfl

end State

/-! ## Reading under a limit -/

theorem effectiveLimit_mono {m m' : Nat} (h : m ≤ m') : effectiveLimit m ≤ effectiveLimit m' := by
  unfold effectiveLimit
  omega

theorem nesting_le_of_parse_ok {m : Nat} {text : Text} {t : Tree} (h : parse m text = .ok t) :
    Text.nesting text ≤ effectiveLimit m := by
  unfold parse at h
  split at h
  · cases h
  · simpa [State.opened] using State.nesting_le_of_run_ok (Nat.zero_le _) h

theorem nesting_pos_of_parse_ok {m : Nat} {text : Text} {t : Tree} (h : parse m text = .ok t) :
    0 < Text.nesting text := by
  obtain ⟨before, a, after, hbefore, hnode, -, rfl⟩ := denotes_of_parse h
  obtain ⟨r, rfl⟩ := hnode.exists_between
  have hblank : Text.NoParens before := fun c hc => ne_paren_of_isBlank (isBlank_of_isAsciiBlank (hbefore c hc))
  rw [List.append_assoc, Text.nesting_noParens_append hblank]
  simp

theorem limit_of_parse_tooDeep {m k : Nat} {text : Text} (h : parse m text = .error (.nestingTooDeep k)) :
    k = effectiveLimit m ∧ (0 < effectiveLimit m → effectiveLimit m < Text.nesting text) := by
  unfold parse at h
  split at h
  · rename_i hzero
    cases h
    exact ⟨hzero.symm, fun hpos => by omega⟩
  · obtain ⟨hk, hlt⟩ := State.lt_nesting_of_run_tooDeep (Nat.zero_le _) h
    exact ⟨hk, fun _ => by simpa [State.opened] using hlt⟩

/-- A text is read the same under a wider limit, unless the narrower one cuts it off. -/
theorem cutOff_parse {m m' : Nat} (h : m ≤ m') (text : Text) :
    CutOff (effectiveLimit m) (parse m text) (parse m' text) := by
  have hle := effectiveLimit_mono h
  unfold parse
  by_cases hzero : effectiveLimit m = 0
  · rw [if_pos hzero, hzero]
    exact .inl rfl
  · rw [if_neg hzero, if_neg (by omega)]
    exact State.cutOff_run hle text 0 .before

/-- What is read under a limit is read under every wider one. -/
theorem parse_ok_mono {m m' : Nat} {text : Text} {t : Tree} (h : m ≤ m') (ht : parse m text = .ok t) :
    parse m' text = .ok t := by
  rcases cutOff_parse h text with hdeep | hsame
  · rw [hdeep] at ht
    cases ht
  · rw [← hsame, ht]

/-- Limits only cut off. What is not too deep for one is the same for every wider one. What a wider limit reads, a
    narrower one reads when every prefix of the text leaves no more parentheses open than it allows, and gives up as
    too deep otherwise. No limit allows more than 256. What it allows is what is reported, and it is reported only
    where a prefix goes beyond it. -/
theorem parse_limit {m m' : Nat} (h : m ≤ m') (text : Text) :
    ((∀ k, parse m text ≠ .error (.nestingTooDeep k)) → parse m' text = parse m text) ∧
      (∀ t, parse m' text = .ok t →
        ((∀ p, p <+: text → p.count '(' ≤ p.count ')' + min m 256) → parse m text = .ok t) ∧
        (¬(∀ p, p <+: text → p.count '(' ≤ p.count ')' + min m 256) →
          parse m text = .error (.nestingTooDeep (min m 256)))) ∧
      ∀ n k, parse n text = .error (.nestingTooDeep k) → k = min n 256 ∧
        (1 ≤ min n 256 → ∃ p, p <+: text ∧ p.count ')' + min n 256 < p.count '(') := by
  simp only [← effectiveLimit_eq]
  refine ⟨fun hfree => ?_, fun t ht => ⟨fun hwithin => ?_, fun hbeyond => ?_⟩, fun n k hdeep => ?_⟩
  · rcases cutOff_parse h text with hdeep | hsame
    · exact absurd hdeep (hfree _)
    · exact hsame.symm
  · rcases cutOff_parse h text with hdeep | hsame
    · have hnest := Text.nesting_le_iff.mpr hwithin
      have hpos := nesting_pos_of_parse_ok ht
      have hlt := (limit_of_parse_tooDeep hdeep).2 (by omega)
      omega
    · rw [hsame, ht]
  · rcases cutOff_parse h text with hdeep | hsame
    · exact hdeep
    · rw [ht] at hsame
      exact absurd (Text.nesting_le_iff.mp (nesting_le_of_parse_ok hsame)) hbeyond
  · obtain ⟨hk, hlt⟩ := limit_of_parse_tooDeep hdeep
    refine ⟨hk, fun hpos => ?_⟩
    have hnot := mt Text.nesting_le_iff.mpr (Nat.not_le.mpr (hlt hpos))
    push Not at hnot
    exact hnot

/-- A parenthesis inside a value counts like that of a node, and is the one that is too deep for two. For a limit of
    300, it is the parenthesis number 257. -/
theorem parse_limit_value :
    let deep := (List.replicate 257 "(A=".toList).flatten
    2 ≤ 64 ∧ parse 64 "(A=(B=c(d)))".toList = .ok (.branch ['A'] [.leaf ['B'] "c(d)".toList]) ∧
      parse 2 "(A=(B=c(d)))".toList = .error (.nestingTooDeep 2) ∧
      300 ≤ 400 ∧ parse 300 deep = .error (.nestingTooDeep 256) ∧
      ∃ p, p <+: deep ∧ p.count ')' + 256 < p.count '(' := by
  intro deep
  have hwide : parse 64 "(A=(B=c(d)))".toList = .ok (.branch ['A'] [.leaf ['B'] "c(d)".toList]) := by rfl
  have hbeyond : ¬∀ p, p <+: "(A=(B=c(d)))".toList → p.count '(' ≤ p.count ')' + 2 :=
    fun h => absurd (h "(A=(B=c(".toList ⟨"d)))".toList, rfl⟩) (by decide)
  have hdeep : parse 300 deep = .error (.nestingTooDeep 256) := by decide +kernel
  refine ⟨by decide, hwide, ?_, by decide, hdeep, ?_⟩
  · exact ((parse_limit (by decide) "(A=(B=c(d)))".toList).2.1 _ hwide).2 hbeyond
  · exact ((parse_limit (by decide : 300 ≤ 400) deep).2.2 300 256 hdeep).2 (by decide)

end Descriptor

end ConnectString
