/-
  ConnectString.Proofs.Text.Nesting — the parentheses of a text.

  `Balanced` says that a text closes the parentheses that it opens and no others; `nesting` is the largest number of
  them that are open at a time (`nesting_le_iff`). `openAfter` reads a text from the left and counts what is open: it
  has an answer exactly where no prefix closes more than there is to close (`openAfter_eq_some_iff`), so that a text
  is balanced when it leads from none open to none open (`balanced_iff`). Blanks at the ends of a text count for
  nothing (`nesting_trim`, `balanced_trim`).
-/

import ConnectString.Proofs.Text.Trim

namespace ConnectString

namespace Text

/-- Every parenthesis that the text closes was opened in it before, and every one that it opens is closed in it. -/
structure Balanced (t : Text) : Prop where
  closes : ∀ p, p <+: t → p.count ')' ≤ p.count '('
  even : t.count '(' = t.count ')'

/-- The largest number of parentheses that are open at a time. -/
def nesting : Text → Nat
  | [] => 0
  | c :: t => if c = '(' then nesting t + 1 else if c = ')' then nesting t - 1 else nesting t

/-- How many parentheses are open behind the text when `n` are open before it; none where it closes too many. -/
def openAfter : Nat → Text → Option Nat
  | n, [] => some n
  | n, c :: t =>
    if c = '(' then openAfter (n + 1) t
    else if c = ')' then
      match n with
      | 0 => none
      | m + 1 => openAfter m t
    else openAfter n t

def NoParens (t : Text) : Prop := ∀ c ∈ t, c ≠ '(' ∧ c ≠ ')'

theorem noParens_of_blanks {t : Text} (h : Blanks t) : NoParens t := fun c hc => ne_paren_of_isBlank (h c hc)

/-! ## Nesting -/

@[simp] theorem nesting_nil : nesting [] = 0 := rfl
@[simp] theorem nesting_open (t : Text) : nesting ('(' :: t) = nesting t + 1 := by simp [nesting]
@[simp] theorem nesting_close (t : Text) : nesting (')' :: t) = nesting t - 1 := by simp [nesting]

theorem nesting_plain {c : Char} (h : c ≠ '(' ∧ c ≠ ')') (t : Text) : nesting (c :: t) = nesting t := by
  simp [nesting, h.1, h.2]

theorem forall_prefix_cons {P : Text → Prop} {c : Char} {t : Text} :
    (∀ p, p <+: c :: t → P p) ↔ P [] ∧ ∀ p, p <+: t → P (c :: p) := by
  constructor
  · intro h
    exact ⟨h [] List.nil_prefix, fun p hp => h (c :: p) (List.cons_prefix_cons.mpr ⟨rfl, hp⟩)⟩
  · rintro ⟨hn, hc⟩ p hp
    rcases List.prefix_cons_iff.mp hp with rfl | ⟨q, rfl, hq⟩
    · exact hn
    · exact hc q hq

/-- The nesting is the most by which a prefix opens more parentheses than it closes. -/
theorem nesting_le_iff {t : Text} {n : Nat} : nesting t ≤ n ↔ ∀ p, p <+: t → p.count '(' ≤ p.count ')' + n := by
  induction t generalizing n with
  | nil => simp
  | cons c t ih =>
    rw [forall_prefix_cons]
    by_cases ho : c = '('
    · subst ho
      simp only [nesting_open, List.count_nil, List.count_cons_self, List.count_cons_of_ne (by decide : '(' ≠ ')')]
      rcases n with _ | n
      · exact ⟨fun h => by omega, fun h => by have := h.2 [] List.nil_prefix; simp at this⟩
      · rw [Nat.add_le_add_iff_right, ih]
        exact ⟨fun h => ⟨by omega, fun p hp => by have := h p hp; omega⟩, fun h p hp => by have := h.2 p hp; omega⟩
    by_cases hc : c = ')'
    · subst hc
      simp only [nesting_close, List.count_nil, List.count_cons_self, List.count_cons_of_ne (by decide : ')' ≠ '(')]
      rw [Nat.sub_le_iff_le_add, ih]
      exact ⟨fun h => ⟨by omega, fun p hp => by have := h p hp; omega⟩, fun h p hp => by have := h.2 p hp; omega⟩
    · simp only [nesting_plain ⟨ho, hc⟩, List.count_nil, List.count_cons_of_ne ho, List.count_cons_of_ne hc]
      rw [ih]
      exact ⟨fun h => ⟨by omega, h⟩, fun h => h.2⟩

theorem nesting_of_noParens {t : Text} (h : NoParens t) : nesting t = 0 := by
  induction t with
  | nil => rfl
  | cons c t ih =>
    rw [nesting_plain (h c List.mem_cons_self), ih fun d hd => h d (List.mem_cons_of_mem c hd)]

theorem nesting_noParens_append {a : Text} (h : NoParens a) (t : Text) : nesting (a ++ t) = nesting t := by
  induction a with
  | nil => rfl
  | cons c a ih =>
    rw [List.cons_append, nesting_plain (h c List.mem_cons_self), ih fun d hd => h d (List.mem_cons_of_mem c hd)]

theorem nesting_append_noParens (t : Text) {b : Text} (h : NoParens b) : nesting (t ++ b) = nesting t := by
  induction t with
  | nil => exact nesting_of_noParens h
  | cons c t ih => simp only [List.cons_append, nesting, ih]

@[simp] theorem nesting_trim (t : Text) : nesting (trim t) = nesting t := by
  obtain ⟨a, b, ha, hb, ht⟩ := exists_trim_between t
  conv_rhs => rw [ht]
  rw [nesting_append_noParens _ (noParens_of_blanks hb), nesting_noParens_append (noParens_of_blanks ha)]

/-! ## Counting what is open -/

@[simp] theorem openAfter_nil (n : Nat) : openAfter n [] = some n := by simp [openAfter]

@[simp] theorem openAfter_open (n : Nat) (t : Text) : openAfter n ('(' :: t) = openAfter (n + 1) t := by
  simp [openAfter]

@[simp] theorem openAfter_close_zero (t : Text) : openAfter 0 (')' :: t) = none := by simp [openAfter]

@[simp] theorem openAfter_close_succ (n : Nat) (t : Text) : openAfter (n + 1) (')' :: t) = openAfter n t := by
  simp [openAfter]

theorem openAfter_plain {c : Char} (h : c ≠ '(' ∧ c ≠ ')') (n : Nat) (t : Text) :
    openAfter n (c :: t) = openAfter n t := by
  simp [openAfter, h.1, h.2]

theorem openAfter_append (n : Nat) (a b : Text) :
    openAfter n (a ++ b) = (openAfter n a).bind fun m => openAfter m b := by
  induction a generalizing n with
  | nil => simp
  | cons c a ih =>
    by_cases ho : c = '('
    · subst ho; simp [ih]
    by_cases hc : c = ')'
    · subst hc; rcases n with _ | n <;> simp [ih]
    · simp [openAfter_plain ⟨ho, hc⟩, ih]

theorem openAfter_of_noParens {t : Text} (h : NoParens t) (n : Nat) : openAfter n t = some n := by
  induction t with
  | nil => simp
  | cons c t ih =>
    rw [openAfter_plain (h c List.mem_cons_self), ih fun d hd => h d (List.mem_cons_of_mem c hd)]

/-- The count has an answer where no prefix closes more than is open, and is then what opening adds and closing
    takes. -/
theorem openAfter_eq_some_iff {n m : Nat} {t : Text} :
    openAfter n t = some m ↔ (∀ p, p <+: t → p.count ')' ≤ p.count '(' + n) ∧ t.count '(' + n = t.count ')' + m := by
  induction t generalizing n with
  | nil => simp
  | cons c t ih =>
    rw [forall_prefix_cons]
    by_cases ho : c = '('
    · subst ho
      simp only [openAfter_open, ih, List.count_nil, List.count_cons_self,
        List.count_cons_of_ne (by decide : '(' ≠ ')')]
      exact ⟨fun ⟨h, e⟩ => ⟨⟨by omega, fun p hp => by have := h p hp; omega⟩, by omega⟩,
        fun ⟨⟨_, h⟩, e⟩ => ⟨fun p hp => by have := h p hp; omega, by omega⟩⟩
    by_cases hc : c = ')'
    · subst hc
      simp only [List.count_nil, List.count_cons_self, List.count_cons_of_ne (by decide : ')' ≠ '(')]
      rcases n with _ | n
      · simp only [openAfter_close_zero, reduceCtorEq, false_iff]
        rintro ⟨⟨-, h⟩, -⟩
        have := h [] List.nil_prefix
        simp at this
      · simp only [openAfter_close_succ, ih]
        exact ⟨fun ⟨h, e⟩ => ⟨⟨by omega, fun p hp => by have := h p hp; omega⟩, by omega⟩,
          fun ⟨⟨_, h⟩, e⟩ => ⟨fun p hp => by have := h p hp; omega, by omega⟩⟩
    · simp only [openAfter_plain ⟨ho, hc⟩, ih, List.count_nil, List.count_cons_of_ne ho, List.count_cons_of_ne hc]
      exact ⟨fun ⟨h, e⟩ => ⟨⟨by omega, h⟩, e⟩, fun ⟨⟨_, h⟩, e⟩ => ⟨h, e⟩⟩

/-! ## Balance -/

theorem balanced_iff {t : Text} : Balanced t ↔ openAfter 0 t = some 0 := by
  rw [openAfter_eq_some_iff]
  exact ⟨fun h => ⟨h.closes, h.even⟩, fun h => ⟨h.1, h.2⟩⟩

instance (t : Text) : Decidable (Balanced t) := decidable_of_iff _ balanced_iff.symm

/-- One more character nests no deeper than what is open behind it. -/
theorem nesting_concat_le {t : Text} {c : Char} {n m : Nat} (h : nesting t ≤ n)
    (ho : openAfter 0 (t ++ [c]) = some m) (hm : m ≤ n) : nesting (t ++ [c]) ≤ n := by
  rw [nesting_le_iff] at h ⊢
  intro p hp
  rcases List.prefix_concat_iff.mp hp with rfl | hp
  · have := (openAfter_eq_some_iff.mp ho).2
    omega
  · exact h p hp

@[simp] theorem openAfter_trim (n : Nat) (t : Text) : openAfter n (trim t) = openAfter n t := by
  obtain ⟨a, b, ha, hb, ht⟩ := exists_trim_between t
  conv_rhs => rw [ht]
  rw [List.append_assoc, openAfter_append, openAfter_of_noParens (noParens_of_blanks ha), Option.bind_some,
    openAfter_append]
  rcases openAfter n (trim t) with _ | m
  · rfl
  · rw [Option.bind_some, openAfter_of_noParens (noParens_of_blanks hb)]

@[simp] theorem balanced_trim (t : Text) : Balanced (trim t) ↔ Balanced t := by
  rw [balanced_iff, balanced_iff, openAfter_trim]

end Text

end ConnectString
