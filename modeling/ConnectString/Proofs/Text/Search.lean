/-
  ConnectString.Proofs.Text.Search — the byte offsets that a search answers with, as places between characters.

  An offset that is found is the byte length of what comes before the match, so it is where the text falls into two
  parts (`cut_of_indexOf?_eq_some`, `cut_of_lastIndexOf?_eq_some`, `indexOfLiteral?_eq`). The piece between two such
  offsets is the text between them (`slice?_append`). A literal is cut off behind its first occurrence
  (`cutBehind?_of_isFirst`), which it has wherever it occurs at all (`exists_isFirst`).
-/

import Mathlib.Data.List.DropRight
import Mathlib.Data.List.Infix
import ConnectString.Text

namespace ConnectString.Text

theorem slice?_append (a m b : Text) : slice? (a ++ m ++ b) (byteLength a) (byteLength a + byteLength m) = some m := by
  rw [slice?, if_pos (Nat.le_add_right _ _), List.append_assoc, splitBytes?_append, Nat.add_sub_cancel_left]
  simp [splitBytes?_append]

theorem slice_append (a m b : Text) : slice (a ++ m ++ b) (byteLength a) (byteLength a + byteLength m) = .ok m := by
  rw [slice, slice?_append]

/-- The part in front of a cut. -/
theorem slice_front (a b : Text) : slice (a ++ b) 0 (byteLength a) = .ok a := by
  simpa using slice_append [] a b

/-- The part behind a cut. -/
theorem slice_behind (a b : Text) : slice (a ++ b) (byteLength a) (byteLength (a ++ b)) = .ok b := by
  simpa using slice_append a b []

/-! ## Single characters -/

variable {p : Char → Bool}

theorem indexOf?_eq_none_iff {t : Text} : indexOf? p t = none ↔ ∀ c ∈ t, p c = false := by
  induction t with
  | nil => simp [indexOf?]
  | cons c t ih =>
    unfold indexOf?
    rw [List.forall_mem_cons]
    split
    · simp [*]
    · rw [Option.map_eq_none_iff, ih]
      simp [*]

theorem lastIndexOf?_eq_none_iff {t : Text} : lastIndexOf? p t = none ↔ ∀ c ∈ t, p c = false := by
  induction t with
  | nil => simp [lastIndexOf?]
  | cons c t ih =>
    unfold lastIndexOf?
    rw [List.forall_mem_cons]
    split
    · rename_i i hi
      rw [hi] at ih
      simp only [reduceCtorEq, false_iff] at ih ⊢
      exact fun h => ih h.2
    · rename_i hn
      have hall := ih.mp hn
      cases hc : p c with
      | true => simp
      | false => exact ⟨fun _ => ⟨rfl, hall⟩, fun _ => rfl⟩

/-- The offset found is that of the last character that passes. -/
theorem lastIndexOf?_eq_some {t : Text} {i : Nat} (h : lastIndexOf? p t = some i) :
    ∃ a c r, t = a ++ c :: r ∧ (∀ d ∈ r, p d = false) ∧ p c = true ∧ i = byteLength a := by
  induction t generalizing i with
  | nil => cases h
  | cons c t ih =>
    unfold lastIndexOf? at h
    split at h
    · rename_i j hj
      cases h
      obtain ⟨a, d, r, rfl, hr, hd, rfl⟩ := ih hj
      exact ⟨c :: a, d, r, rfl, hr, hd, by rw [byteLength_cons, Nat.add_comm]⟩
    · rename_i hn
      split at h
      · cases h
        exact ⟨[], c, t, rfl, lastIndexOf?_eq_none_iff.mp hn, ‹_›, rfl⟩
      · cases h

/-! ## Cuts -/

theorem bne_of_not_mem {t : Text} {c : Char} (h : c ∉ t) : ∀ d ∈ t, (d != c) = true := by
  intro d hd
  exact bne_iff_ne.mpr fun he => h (he ▸ hd)

/-- Where everything passes up to a character that does not, the text is cut in front of that character. -/
theorem cut_append_cons {a : Text} (ha : ∀ d ∈ a, p d = true) {c : Char} (hc : p c = false) (r : Text) :
    (a ++ c :: r).takeWhile p = a ∧ (a ++ c :: r).dropWhile p = c :: r := by
  have hstop : ¬p c = true := by simp [hc]
  constructor
  · rw [List.takeWhile_append_of_pos ha, List.takeWhile_cons_of_neg hstop, List.append_nil]
  · rw [List.dropWhile_append_of_pos ha, List.dropWhile_cons_of_neg hstop]

/-- Where everything passes, the cut leaves the text whole. -/
theorem cut_all {t : Text} (h : ∀ d ∈ t, p d = true) : t.takeWhile p = t ∧ t.dropWhile p = [] :=
  ⟨List.takeWhile_eq_self_iff.mpr h, List.dropWhile_eq_nil_iff.mpr h⟩

/-- Where what follows does not pass, the cut takes what passes before it. -/
theorem cut_append {a r : Text} (ha : ∀ d ∈ a, p d = true) (hr : ∀ d ∈ r.head?, p d = false) :
    (a ++ r).takeWhile p = a ∧ (a ++ r).dropWhile p = r := by
  cases r with
  | nil =>
    rw [List.append_nil]
    exact cut_all ha
  | cons c r => exact cut_append_cons ha (hr c rfl) r

/-- What is left behind a cut does not start with a character that passes. -/
theorem head?_dropWhile_not (p : Char → Bool) (t : Text) : ∀ d ∈ (t.dropWhile p).head?, p d = false := by
  intro d hd
  have hhead := List.head?_dropWhile_not p t
  rw [Option.mem_def.mp hd] at hhead
  exact hhead

/-- The cut before the first of a character. -/
theorem cut_before {a : Text} {c : Char} (ha : c ∉ a) (r : Text) :
    (a ++ c :: r).takeWhile (· != c) = a ∧ (a ++ c :: r).dropWhile (· != c) = c :: r :=
  cut_append_cons (bne_of_not_mem ha) (bne_self_eq_false' c) r

theorem not_mem_takeWhile_bne (t : Text) (c : Char) : c ∉ t.takeWhile (· != c) := by
  intro hmem
  simpa using List.mem_takeWhile_imp hmem

/-- A text falls into what comes before the first of a character, and the rest from there on. -/
theorem takeWhile_append_cons {t : Text} {c : Char} (h : c ∈ t) :
    t.takeWhile (· != c) ++ c :: (t.dropWhile (· != c)).tail = t := by
  obtain ⟨a, r, rfl, ha⟩ := List.eq_append_cons_of_mem h
  have hcut := cut_before ha r
  rw [hcut.1, hcut.2]
  rfl

/-- A character that fails the test ends what is taken from behind. -/
theorem rtakeWhile_append_cons (a r : Text) {c : Char} (hc : p c = false) :
    (a ++ c :: r).rtakeWhile p = r.rtakeWhile p := by
  have hrev : (a ++ c :: r).reverse = r.reverse ++ c :: a.reverse := by simp
  have htake : ∀ b : Text, (b ++ c :: a.reverse).takeWhile p = b.takeWhile p := by
    intro b
    induction b with
    | nil => simp [hc]
    | cons d b ih => rw [List.cons_append, List.takeWhile_cons, List.takeWhile_cons, ih]
  unfold List.rtakeWhile
  rw [hrev, htake]

/-- Where everything passes behind a character that does not, the text is cut behind that character. -/
theorem rcut_append_cons {r : Text} (hr : ∀ d ∈ r, p d = true) {c : Char} (hc : p c = false) (a : Text) :
    (a ++ c :: r).rtakeWhile p = r ∧ (a ++ c :: r).rdropWhile p = a ++ [c] := by
  have htake : (a ++ c :: r).rtakeWhile p = r := by
    rw [rtakeWhile_append_cons a r hc]
    exact List.rtakeWhile_eq_self_iff.mpr hr
  have hboth : (a ++ c :: r).rdropWhile p ++ (a ++ c :: r).rtakeWhile p = a ++ c :: r :=
    List.rdropWhile_append_rtakeWhile
  rw [htake] at hboth
  exact ⟨htake, List.append_cancel_right (hboth.trans (List.append_cons a c r))⟩

/-- Where everything passes, the cut from behind leaves the text whole. -/
theorem rcut_all {t : Text} (h : ∀ d ∈ t, p d = true) : t.rtakeWhile p = t ∧ t.rdropWhile p = [] :=
  ⟨List.rtakeWhile_eq_self_iff.mpr h, List.rdropWhile_eq_nil_iff.mpr h⟩

/-- Where no character passes, the cut before the first one that does leaves the text whole. -/
theorem cut_of_indexOf?_eq_none {t : Text} (h : indexOf? p t = none) :
    t.takeWhile (!p ·) = t ∧ t.dropWhile (!p ·) = [] := by
  have hall : ∀ c ∈ t, (!p c) = true := by simpa using indexOf?_eq_none_iff.mp h
  exact ⟨List.takeWhile_eq_self_iff.mpr hall, List.dropWhile_eq_nil_iff.mpr hall⟩

/-- The offset found is where the text is cut before the first character that passes. -/
theorem cut_of_indexOf?_eq_some {t : Text} {i : Nat} (h : indexOf? p t = some i) :
    i = byteLength (t.takeWhile (!p ·)) := by
  induction t generalizing i with
  | nil => cases h
  | cons c t ih =>
    unfold indexOf? at h
    split at h
    · cases h
      simp [*]
    · rename_i hc
      obtain ⟨j, hj, rfl⟩ := Option.map_eq_some_iff.mp h
      rw [List.takeWhile_cons_of_pos (by simpa using hc), byteLength_cons, ih hj, Nat.add_comm]

/-- Where no character passes, the cut behind the last one that does leaves the text whole. -/
theorem cut_of_lastIndexOf?_eq_none {t : Text} (h : lastIndexOf? p t = none) :
    t.rtakeWhile (!p ·) = t ∧ t.rdropWhile (!p ·) = [] :=
  rcut_all (by simpa using lastIndexOf?_eq_none_iff.mp h)

/-- Some character is the last one that passes, unless none passes. -/
theorem last_cases (p : Char → Bool) (t : Text) :
    (∀ d ∈ t, p d = false) ∨ ∃ a c r, t = a ++ c :: r ∧ (∀ d ∈ r, p d = false) ∧ p c = true := by
  rcases hfound : lastIndexOf? p t with _ | i
  · exact .inl (lastIndexOf?_eq_none_iff.mp hfound)
  · obtain ⟨a, c, r, ht, hr, hc, -⟩ := lastIndexOf?_eq_some hfound
    exact .inr ⟨a, c, r, ht, hr, hc⟩

/-- The offset found is that of the last character before the cut behind the last one that passes. -/
theorem cut_of_lastIndexOf?_eq_some {t : Text} {i : Nat} (h : lastIndexOf? p t = some i) :
    ∃ a c, t.rdropWhile (!p ·) = a ++ [c] ∧ t = a ++ c :: t.rtakeWhile (!p ·) ∧ p c = true ∧ i = byteLength a := by
  obtain ⟨a, c, r, rfl, hr, hc, rfl⟩ := lastIndexOf?_eq_some h
  obtain ⟨htake, hdrop⟩ := @rcut_append_cons (!p ·) r (by simpa using hr) c (by simp [hc]) a
  exact ⟨a, c, hdrop, by rw [htake], hc, rfl⟩

/-! ## Literals -/

theorem indexOf?_eq_indexOfLiteral? (c : Char) (t : Text) : indexOf? (· == c) t = indexOfLiteral? [c] t := by
  induction t with
  | nil => rfl
  | cons d t ih =>
    have hp : [c].isPrefixOf (d :: t) = (d == c) := by
      simp only [List.isPrefixOf, Bool.and_true]
      exact Bool.beq_comm
    rw [indexOf?, indexOfLiteral?, ih, hp]

def cutBehind? (literal : Text) : Text → Option (Text × Text)
  | [] => if literal.isEmpty then some ([], []) else none
  | c :: t =>
    if literal.isPrefixOf (c :: t) then some (literal, (c :: t).drop literal.length)
    else (cutBehind? literal t).map fun (a, b) => (c :: a, b)

theorem append_of_cutBehind? {literal t a b : Text} (h : cutBehind? literal t = some (a, b)) : t = a ++ b := by
  induction t generalizing a with
  | nil =>
    rw [cutBehind?] at h
    split at h <;> cases h
    rfl
  | cons c t ih =>
    rw [cutBehind?] at h
    split at h
    · rename_i hp
      cases h
      obtain ⟨r, hr⟩ := List.isPrefixOf_iff_prefix.mp hp
      rw [← hr, List.drop_left]
    · obtain ⟨⟨a', b'⟩, hcut, he⟩ := Option.map_eq_some_iff.mp h
      cases he
      rw [ih hcut, List.cons_append]

/-- A literal is found where the part before the cut ends with it. -/
theorem indexOfLiteral?_eq (literal t : Text) :
    (indexOfLiteral? literal t).map (· + byteLength literal) =
      (cutBehind? literal t).map fun cut => byteLength cut.1 := by
  induction t with
  | nil =>
    rw [indexOfLiteral?, cutBehind?]
    split
    · rename_i he
      rw [List.isEmpty_iff.mp he]
      rfl
    · rfl
  | cons c t ih =>
    rw [indexOfLiteral?, cutBehind?]
    split
    · simp
    · have := congrArg (Option.map (· + c.utf8Size)) ih
      simp only [Option.map_map, Function.comp_def, byteLength_cons] at this ⊢
      simpa [Nat.add_comm, Nat.add_left_comm, Nat.add_assoc] using this

theorem cutBehind?_of_prefix (literal r : Text) : cutBehind? literal (literal ++ r) = some (literal, r) := by
  rcases h : literal ++ r with _ | ⟨c, t⟩
  · obtain ⟨rfl, rfl⟩ := List.append_eq_nil_iff.mp h
    rfl
  · have hp : literal.isPrefixOf (c :: t) = true := List.isPrefixOf_iff_prefix.mpr ⟨r, h⟩
    rw [cutBehind?, if_pos hp, ← h, List.drop_left]

/-- The literal between the two parts is the first one in the text. -/
def IsFirst (literal a b : Text) : Prop := ∀ a' b', a' ++ literal ++ b' = a ++ literal ++ b → a.length ≤ a'.length

/-- The cut lies behind the first occurrence of the literal. -/
theorem cutBehind?_of_isFirst {literal a b : Text} (h : IsFirst literal a b) :
    cutBehind? literal (a ++ literal ++ b) = some (a ++ literal, b) := by
  induction a with
  | nil => exact cutBehind?_of_prefix literal b
  | cons c a ih =>
    have hp : literal.isPrefixOf (c :: (a ++ literal ++ b)) = false := by
      rw [Bool.eq_false_iff, ne_eq, List.isPrefixOf_iff_prefix]
      rintro ⟨r, hr⟩
      simpa using h [] r hr
    have hrest : IsFirst literal a b := by
      intro a' b' he
      exact Nat.le_of_succ_le_succ (h (c :: a') b' (congrArg (c :: ·) he))
    show cutBehind? literal (c :: (a ++ literal ++ b)) = _
    rw [cutBehind?, hp, ih hrest]
    rfl

theorem cutBehind?_eq_none {literal t : Text} (h : ¬literal <:+: t) : cutBehind? literal t = none := by
  induction t with
  | nil =>
    have hne : literal.isEmpty = false := by
      rw [List.isEmpty_eq_false_iff]
      rintro rfl
      exact h List.infix_rfl
    rw [cutBehind?, hne]
    rfl
  | cons c t ih =>
    rw [List.infix_cons_iff, not_or] at h
    have hp : literal.isPrefixOf (c :: t) = false := by
      rw [Bool.eq_false_iff, ne_eq, List.isPrefixOf_iff_prefix]
      exact h.1
    rw [cutBehind?, hp, ih h.2]
    rfl

/-- A literal that occurs in a text has a first occurrence. -/
theorem exists_isFirst {literal t : Text} (h : literal <:+: t) :
    ∃ a b, t = a ++ literal ++ b ∧ IsFirst literal a b := by
  induction t with
  | nil =>
    obtain rfl := List.infix_nil.mp h
    exact ⟨[], [], rfl, fun _ _ _ => Nat.zero_le _⟩
  | cons c t ih =>
    by_cases hp : literal <+: c :: t
    · obtain ⟨b, hb⟩ := hp
      exact ⟨[], b, hb.symm, fun _ _ _ => Nat.zero_le _⟩
    · obtain ⟨a, b, rfl, hfirst⟩ := ih ((List.infix_cons_iff.mp h).resolve_left hp)
      refine ⟨c :: a, b, rfl, ?_⟩
      rintro (_ | ⟨d, a'⟩) b' he
      · exact absurd ⟨b', he⟩ hp
      · exact Nat.succ_le_succ (hfirst a' b' (List.cons.inj he).2)

theorem cutBehind?_singleton {a : Text} {c : Char} (ha : c ∉ a) (r : Text) :
    cutBehind? [c] (a ++ c :: r) = some (a ++ [c], r) := by
  induction a with
  | nil => simp [cutBehind?]
  | cons d a ih =>
    rw [List.mem_cons, not_or] at ha
    have hp : [c].isPrefixOf (d :: (a ++ c :: r)) = false := by simpa [List.isPrefixOf] using ha.1
    rw [List.cons_append, cutBehind?, hp, ih ha.2]
    rfl

theorem cutBehind?_singleton_eq_none {t : Text} {c : Char} (h : c ∉ t) : cutBehind? [c] t = none :=
  cutBehind?_eq_none (mt (List.singleton_infix_iff c t).mp h)

end ConnectString.Text
