/-
  ConnectString.Proofs.Window.Moves — what a move does to the characters under a window.

  A move looks for a place in what a window shows: the first or the last of its kind. `Skips` says which place that is
  where what goes up to it is left behind, and `Absent` what it means that there is none. `Moves` says what becomes of
  the three parts of a split; it speaks of characters and of nothing else.

  Main statement: a split always has one such move, and it is the one that is computed (`moves_iff`). So the window of
  a split moves with it (`window_move`).
-/

import ConnectString.Proofs.Window.Split
import ConnectString.Window.Session

namespace ConnectString

open Window (Move)

namespace Split

def move (s : Split) : Move → Split
  | .pastFirst delimiter => s.pastFirst delimiter
  | .pastLiteral literal => s.pastLiteral literal
  | .upToAny delimiters => s.upToAny delimiters
  | .pastLastAny delimiters => s.pastLastAny delimiters
  | .pastLastBefore delimiter barrier => s.pastLastBefore delimiter barrier
  | .onward => s.onward

theorem window_move (s : Split) (m : Move) : s.window.move m = .ok (s.move m).window := by
  cases m with
  | pastFirst delimiter => exact window_pastFirst s delimiter
  | pastLiteral literal => exact window_pastLiteral s literal
  | upToAny delimiters => exact window_upToAny s delimiters
  | pastLastAny delimiters => exact window_pastLastAny s delimiters
  | pastLastBefore delimiter barrier => exact window_pastLastBefore s delimiter barrier
  | onward => exact congrArg Except.ok (window_onward s)

/-! ## Moves in characters -/

/-- The first part is what comes before the first `barrier` of a text, or all of a text without one. -/
structure Fenced (barrier : Char) (head tail : Text) : Prop where
  free : barrier ∉ head
  fence : ∀ c ∈ tail.head?, c = barrier

/-- What the move looks for ends where `a` ends, and what it leaves to be shown is `b`. -/
inductive Skips : Move → Text → Text → Prop where
  | pastFirst {delimiter : Char} {a b : Text} (hfirst : delimiter ∉ a) :
      Skips (.pastFirst delimiter) (a ++ [delimiter]) b
  | pastLiteral {literal a b : Text} (hfirst : Text.IsFirst literal a b) :
      Skips (.pastLiteral literal) (a ++ literal) b
  | pastLastAny {delimiters : List Char} {a b : Text} {c : Char} (hc : c ∈ delimiters)
      (hlast : ∀ d ∈ b, d ∉ delimiters) : Skips (.pastLastAny delimiters) (a ++ [c]) b
  | pastLastBefore {delimiter barrier : Char} {a b tail : Text} (hlast : delimiter ∉ b)
      (hfenced : Fenced barrier (a ++ delimiter :: b) tail) :
      Skips (.pastLastBefore delimiter barrier) (a ++ [delimiter]) (b ++ tail)

/-- What the move looks for does not stand where it looks. -/
def Absent : Move → Text → Prop
  | .pastFirst delimiter, v => delimiter ∉ v
  | .pastLiteral literal, v => ¬literal <:+: v
  | .upToAny delimiters, v | .pastLastAny delimiters, v => ∀ c ∈ v, c ∉ delimiters
  | .pastLastBefore delimiter barrier, v =>
    ∃ head tail, v = head ++ tail ∧ delimiter ∉ head ∧ Fenced barrier head tail
  | .onward, _ => False

inductive Moves : Move → Split → Split → Prop where
  | skip {m : Move} {c a b r : Text} (h : Skips m a b) : Moves m ⟨c, a ++ b, r⟩ ⟨c ++ a, b, r⟩
  | upToAny {delimiters : List Char} {c a b r : Text} {d : Char} (hfirst : ∀ e ∈ a, e ∉ delimiters)
      (hd : d ∈ delimiters) : Moves (.upToAny delimiters) ⟨c, a ++ d :: b, r⟩ ⟨c, a, d :: b ++ r⟩
  | onward {c v r : Text} : Moves .onward ⟨c, v, r⟩ ⟨c ++ v, r, []⟩
  /-- What does not find its place changes nothing. -/
  | absent {m : Move} {s : Split} (h : Absent m s.value) : Moves m s s

variable {m : Move} {s s' : Split}

/-! ## The move that is computed -/

theorem not_contains_iff {delimiters : List Char} {c : Char} : (!delimiters.contains c) = true ↔ c ∉ delimiters := by
  simp

theorem Fenced.cut {barrier : Char} {head tail : Text} (h : Fenced barrier head tail) :
    (head ++ tail).takeWhile (· != barrier) = head ∧ (head ++ tail).dropWhile (· != barrier) = tail :=
  Text.cut_append (Text.bne_of_not_mem h.free) fun c hc => by simpa using h.fence c hc

theorem exists_fenced (barrier : Char) (v : Text) : ∃ head tail, v = head ++ tail ∧ Fenced barrier head tail := by
  refine ⟨v.takeWhile (· != barrier), v.dropWhile (· != barrier), List.takeWhile_append_dropWhile.symm,
    Text.not_mem_takeWhile_bne v barrier, ?_⟩
  intro c hc
  simpa using Text.head?_dropWhile_not (· != barrier) v c hc

theorem move_of_skips {a b : Text} (h : Skips m a b) (c r : Text) :
    (Split.mk c (a ++ b) r).move m = ⟨c ++ a, b, r⟩ := by
  cases h with
  | @pastFirst delimiter a b hfirst =>
    show (Split.mk c (a ++ [delimiter] ++ b) r).pastLiteral [delimiter] = _
    rw [← List.append_cons, pastLiteral, Text.cutBehind?_singleton hfirst]
  | @pastLiteral literal a b hfirst =>
    show (Split.mk c (a ++ literal ++ b) r).pastLiteral literal = _
    rw [pastLiteral, Text.cutBehind?_of_isFirst hfirst]
  | @pastLastAny delimiters a b d hd hlast =>
    obtain ⟨htake, hdrop⟩ := @Text.rcut_append_cons (!delimiters.contains ·) b
      (fun e he => not_contains_iff.mpr (hlast e he)) d (by simpa using hd) a
    show (Split.mk c (a ++ [d] ++ b) r).pastLastAny delimiters = _
    rw [← List.append_cons, pastLastAny, htake, hdrop]
  | @pastLastBefore delimiter barrier a b tail hlast hfenced =>
    obtain ⟨hhead, htail⟩ := hfenced.cut
    obtain ⟨htake, hdrop⟩ :=
      Text.rcut_append_cons (Text.bne_of_not_mem hlast) (bne_self_eq_false' delimiter) a
    have hv : a ++ [delimiter] ++ (b ++ tail) = a ++ delimiter :: b ++ tail := by simp
    show (Split.mk c (a ++ [delimiter] ++ (b ++ tail)) r).pastLastBefore delimiter barrier = _
    rw [hv, pastLastBefore, hhead, htail, htake, hdrop]

theorem move_of_absent (h : Absent m s.value) : s.move m = s := by
  obtain ⟨c, v, r⟩ := s
  cases m with
  | pastFirst delimiter =>
    show (Split.mk c v r).pastLiteral [delimiter] = _
    rw [pastLiteral, Text.cutBehind?_singleton_eq_none h]
  | pastLiteral literal =>
    show (Split.mk c v r).pastLiteral literal = _
    rw [pastLiteral, Text.cutBehind?_eq_none h]
  | upToAny delimiters =>
    obtain ⟨htake, hdrop⟩ := @Text.cut_all (!delimiters.contains ·) v fun d hd => not_contains_iff.mpr (h d hd)
    show (Split.mk c v r).upToAny delimiters = _
    rw [upToAny, htake, hdrop, List.nil_append]
  | pastLastAny delimiters =>
    obtain ⟨htake, hdrop⟩ := @Text.rcut_all (!delimiters.contains ·) v fun d hd => not_contains_iff.mpr (h d hd)
    show (Split.mk c v r).pastLastAny delimiters = _
    rw [pastLastAny, htake, hdrop, List.append_nil]
  | pastLastBefore delimiter barrier =>
    obtain ⟨head, tail, rfl, hfree, hfenced⟩ := h
    obtain ⟨hhead, htail⟩ := hfenced.cut
    obtain ⟨htake, hdrop⟩ := Text.rcut_all (Text.bne_of_not_mem hfree)
    show (Split.mk c (head ++ tail) r).pastLastBefore delimiter barrier = _
    rw [pastLastBefore, hhead, htail, htake, hdrop, List.append_nil]
  | onward => exact h.elim

theorem Moves.eq_move (h : Moves m s s') : s' = s.move m := by
  cases h with
  | skip h => exact (move_of_skips h _ _).symm
  | @upToAny delimiters c a b r d hfirst hd =>
    obtain ⟨htake, hdrop⟩ := @Text.cut_append_cons (!delimiters.contains ·) a
      (fun e he => not_contains_iff.mpr (hfirst e he)) d (by simpa using hd) b
    show _ = (Split.mk c (a ++ d :: b) r).upToAny delimiters
    rw [Split.upToAny, htake, hdrop]
  | onward => rfl
  | absent h => exact (move_of_absent h).symm

/-! ## There is always a move -/

theorem exists_moves (m : Move) (s : Split) : ∃ s', Moves m s s' := by
  obtain ⟨c, v, r⟩ := s
  -- What is looked for has a first and a last occurrence where it occurs; else the move is absent.
  cases m with
  | pastFirst delimiter =>
    by_cases hmem : delimiter ∈ v
    · obtain ⟨a, b, rfl, hfirst⟩ := List.eq_append_cons_of_mem hmem
      rw [List.append_cons]
      exact ⟨_, .skip (.pastFirst hfirst)⟩
    · exact ⟨_, .absent hmem⟩
  | pastLiteral literal =>
    by_cases hmem : literal <:+: v
    · obtain ⟨a, b, rfl, hfirst⟩ := Text.exists_isFirst hmem
      exact ⟨_, .skip (.pastLiteral hfirst)⟩
    · exact ⟨_, .absent hmem⟩
  | upToAny delimiters =>
    rcases hfind : v.find? delimiters.contains with _ | d
    · exact ⟨_, .absent fun e he => by simpa using List.find?_eq_none.mp hfind e he⟩
    · obtain ⟨hd, a, b, rfl, hfirst⟩ := List.find?_eq_some_iff_append.mp hfind
      exact ⟨_, .upToAny (fun e he => not_contains_iff.mp (hfirst e he)) (List.contains_iff_mem.mp hd)⟩
  | pastLastAny delimiters =>
    rcases Text.last_cases delimiters.contains v with hnone | ⟨a, d, b, rfl, hlast, hd⟩
    · exact ⟨_, .absent fun e he => by simpa using hnone e he⟩
    · rw [List.append_cons]
      exact ⟨_, .skip (.pastLastAny (List.contains_iff_mem.mp hd) fun e he => by simpa using hlast e he)⟩
  | pastLastBefore delimiter barrier =>
    obtain ⟨head, tail, rfl, hfenced⟩ := exists_fenced barrier v
    rcases Text.last_cases (· == delimiter) head with hnone | ⟨a, d, b, rfl, hlast, hd⟩
    · have hfree : delimiter ∉ head := fun hmem => by simpa using hnone delimiter hmem
      exact ⟨_, .absent ⟨head, tail, rfl, hfree, hfenced⟩⟩
    · obtain rfl : d = delimiter := beq_iff_eq.mp hd
      have hfree : d ∉ b := fun hmem => by simpa using hlast d hmem
      have hv : a ++ d :: b ++ tail = a ++ [d] ++ (b ++ tail) := by simp
      rw [hv]
      exact ⟨_, .skip (.pastLastBefore hfree hfenced)⟩
  | onward => exact ⟨_, .onward⟩

theorem moves_move (m : Move) (s : Split) : Moves m s (s.move m) := by
  obtain ⟨s', h⟩ := exists_moves m s
  exact h.eq_move ▸ h

/-- A split has one move of a kind, and it is the one that is computed. -/
theorem moves_iff : Moves m s s' ↔ s' = s.move m := by
  constructor
  · exact Moves.eq_move
  · rintro rfl
    exact moves_move m s

/-! ## What a move keeps -/

theorem Moves.text_eq (h : Moves m s s') : s'.window.text = s.window.text := by
  cases h <;> simp [window]

/-- Nothing that was left behind comes back. -/
theorem Moves.isPrefix_consumed (h : Moves m s s') : s.consumed <+: s'.consumed := by
  cases h with
  | skip | onward => exact List.prefix_append _ _
  | upToAny | absent => exact List.prefix_rfl

end Split

end ConnectString
