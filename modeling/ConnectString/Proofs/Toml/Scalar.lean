/-
  ConnectString.Proofs.Toml.Scalar — truth values and natural numbers at the end of a line of TOML.

  A number in decimal digits could begin a date, a time, a fraction or a number in another base. Where the line ends
  behind it, none of their readers takes it (`datetime?_digits`, `float?_write`, `integer?_write`), so it is read as
  the whole number that it stands for, if TOML has room for it (`readAs_write`).
-/

import ConnectString.Toml.Codec
import ConnectString.Toml.Document

namespace ConnectString.Toml

def Digits (t : Text) : Prop := ∀ c ∈ t, Decimal.isDigit c = true

/-- A text is read as a value where a line ends behind it. -/
structure ReadAs (t : Text) (v : Value) : Prop where
  noSpace : ∀ c ∈ t.head?, isSpace c = false
  read : ∀ rest, value? nestingLimit (t ++ '\n' :: rest) = some (v, '\n' :: rest)

/-! ## Digits -/

theorem digits_write (n : Nat) : Digits (Decimal.write n) := Decimal.isDigit_of_mem_write n

theorem write_zero : Decimal.write 0 = ['0'] := by
  rw [Decimal.write]
  rfl

section Kind

variable {kind : Char → Bool} {c d : Char} (hc : kind c = true) (hd : kind d = false)
include hc hd

/-- A character of one kind is no character of another kind. -/
theorem ne_of_kind : c ≠ d := by
  intro h
  rw [h, hd] at hc
  cases hc

theorem cons_ne_of_kind (t r : Text) : c :: t ≠ d :: r := fun h => ne_of_kind hc hd (List.cons.inj h).1

end Kind

/-- A number in digits starts with a digit, and with a zero only if it is zero. -/
theorem exists_write (n : Nat) :
    ∃ d ds, Decimal.write n = d :: ds ∧ Decimal.isDigit d = true ∧ (d = '0' → n = 0) := by
  induction n using Nat.strongRecOn with
  | ind n ih =>
    rw [Decimal.write]
    split
    · rename_i hn
      obtain ⟨hdigit, hvalue⟩ := Decimal.digit_spec n hn
      refine ⟨Decimal.digit n, [], rfl, hdigit, fun hzero => ?_⟩
      rw [← hvalue, hzero]
      rfl
    · obtain ⟨d, ds, hwrite, hdigit, hzero⟩ := ih (n / 10) (by omega)
      refine ⟨d, ds ++ [Decimal.digit (n % 10)], by rw [hwrite]; rfl, hdigit, fun h => ?_⟩
      have := hzero h
      omega

theorem moreDigits_append {ds : Text} (h : Digits ds) (rest : Text) :
    moreDigits Decimal.isDigit (ds ++ '\n' :: rest) = (ds, '\n' :: rest) := by
  induction ds with
  | nil =>
    rw [List.nil_append, moreDigits]
    · rfl
    · intro d t he
      cases he
  | cons d ds ih =>
    obtain ⟨hd, hds⟩ := List.forall_mem_cons.mp h
    rw [List.cons_append, moreDigits]
    · rw [if_pos hd, ih hds]
    · intro e t he
      exact absurd he (ne_of_kind hd rfl)

theorem digits?_append {d : Char} {ds : Text} (h : Digits (d :: ds)) (rest : Text) :
    digits? Decimal.isDigit (d :: ds ++ '\n' :: rest) = some (d :: ds, '\n' :: rest) := by
  obtain ⟨hd, hds⟩ := List.forall_mem_cons.mp h
  rw [List.cons_append, digits?, if_pos hd, moreDigits_append hds]

theorem wholePart?_write (n : Nat) (rest : Text) :
    wholePart? (Decimal.write n ++ '\n' :: rest) = some (Decimal.write n, '\n' :: rest) := by
  obtain ⟨d, ds, hwrite, -, hzero⟩ := exists_write n
  have hdigits := digits_write n
  by_cases hd : d = '0'
  · rw [hzero hd, write_zero]
    rfl
  · rw [hwrite] at hdigits ⊢
    rw [List.cons_append, wholePart?, ← List.cons_append, digits?_append hdigits]
    intro t he
    exact hd (List.cons.inj he).1

/-! ## What a number in digits is not -/

/-- What a reader leaves of a row of digits and a line end: fewer digits and that line end. -/
def Left (rest t : Text) : Prop := ∃ ds, Digits ds ∧ t = ds ++ '\n' :: rest

variable {rest t r : Text}

theorem left_of_fixed? {count v : Nat} (ht : Left rest t) (h : fixed? count t = some (v, r)) : Left rest r := by
  obtain ⟨ds, hds, rfl⟩ := ht
  simp only [fixed?, Decimal.read?, Option.bind_eq_bind, Option.bind_eq_some_iff, Option.filter_eq_some_iff,
    Option.ite_none_right_eq_some, Bool.and_eq_true, List.all_eq_true] at h
  obtain ⟨n, ⟨⟨⟨-, hall⟩, -⟩, hcount⟩, h⟩ := h
  cases h
  by_cases hlong : count ≤ ds.length
  · rw [List.drop_append_of_le_length hlong]
    exact ⟨ds.drop count, fun c hc => hds c (List.mem_of_mem_drop hc), rfl⟩
  · -- a reader of more characters than there are digits comes to the line end
    have hmem : '\n' ∈ (ds ++ '\n' :: rest).take count := by
      obtain ⟨k, hk⟩ : ∃ k, count = ds.length + (k + 1) := ⟨count - ds.length - 1, by omega⟩
      rw [hk, List.take_length_add_append]
      simp
    exact absurd (hall _ hmem) (by decide)

theorem expect?_left {c : Char} (hdigit : Decimal.isDigit c = false) (hend : c ≠ '\n') (ht : Left rest t) :
    expect? c t = none := by
  obtain ⟨ds, hds, rfl⟩ := ht
  cases ds with
  | nil => simp [expect?, hend.symm]
  | cons d ds => simp [expect?, ne_of_kind (hds d List.mem_cons_self) hdigit]

theorem left_of_twoDigits? {low high v : Nat} (ht : Left rest t) (h : twoDigits? low high t = some (v, r)) :
    Left rest r := by
  simp only [twoDigits?, Option.bind_eq_bind, Option.bind_eq_some_iff] at h
  obtain ⟨⟨n, r'⟩, hfixed, h⟩ := h
  split at h
  · cases h
    exact left_of_fixed? ht hfixed
  · cases h

/-- No date and no time begins with digits up to the end of the line. -/
theorem datetime?_left (ht : Left rest t) : datetime? t = none := by
  have hdate : date? t = none := by
    rcases hyear : fixed? 4 t with _ | ⟨year, r⟩
    · simp [date?, hyear]
    · simp [date?, hyear, expect?_left (c := '-') rfl (by decide) (left_of_fixed? ht hyear)]
  have htime : time? t = none := by
    rcases hhour : twoDigits? 0 23 t with _ | ⟨hour, r⟩
    · simp [time?, hhour]
    · simp [time?, hhour, expect?_left (c := ':') rfl (by decide) (left_of_twoDigits? ht hhour)]
  rw [datetime?, hdate, htime]
  rfl

/-- What starts with a digit starts with no sign. -/
theorem sign_of_isDigit {d : Char} (hd : Decimal.isDigit d = true) (t : Text) : sign (d :: t) = (false, d :: t) := by
  rw [sign]
  · exact fun r => cons_ne_of_kind hd rfl t r
  · exact fun r => cons_ne_of_kind hd rfl t r

/-- Nor with a quotation mark. -/
theorem string?_of_isDigit {d : Char} (hd : Decimal.isDigit d = true) (t : Text) : string? (d :: t) = none := by
  rw [string?]
  · exact fun r => cons_ne_of_kind hd rfl t _
  · exact fun r => cons_ne_of_kind hd rfl t r
  · exact fun r => cons_ne_of_kind hd rfl t _
  · exact fun r => cons_ne_of_kind hd rfl t r

variable (n : Nat) (rest)

theorem sign_write : sign (Decimal.write n ++ '\n' :: rest) = (false, Decimal.write n ++ '\n' :: rest) := by
  obtain ⟨d, ds, hwrite, hd, -⟩ := exists_write n
  rw [hwrite]
  exact sign_of_isDigit hd _

theorem float?_write : float? (Decimal.write n ++ '\n' :: rest) = none := by
  simp [float?, sign_write, wholePart?_write]

theorem specialFloat?_write : specialFloat? (Decimal.write n ++ '\n' :: rest) = none := by
  obtain ⟨d, ds, hwrite, hd, -⟩ := exists_write n
  rw [specialFloat?, sign_write, hwrite]
  split
  · rename_i he
    exact absurd (Prod.mk.inj he).2 (cons_ne_of_kind hd rfl _ _)
  · rename_i he
    exact absurd (Prod.mk.inj he).2 (cons_ne_of_kind hd rfl _ _)
  · rfl

/-! ## What it is -/

variable {n}

theorem whole?_of_lt (h : n < integerBound) (rest : Text) : whole? n rest = some (.integer n, rest) := by
  have hbound : Int.pow 2 63 = (integerBound : Int) := by decide
  rw [whole?, hbound]
  simp only [Bool.and_eq_true, decide_eq_true_eq]
  rw [if_pos]
  constructor
  · omega
  · omega

/-- No mark of another base stands behind a zero at the end of a line. -/
theorem integer?_write (h : n < integerBound) :
    integer? (Decimal.write n ++ '\n' :: rest) = some (.integer n, '\n' :: rest) := by
  have hbase : ∀ (mark : Char) (t : Text), mark ≠ '\n' → Decimal.write n ++ '\n' :: rest ≠ '0' :: mark :: t := by
    intro mark t hmark he
    obtain ⟨d, ds, hwrite, -, hzero⟩ := exists_write n
    rw [hwrite] at he
    rw [hzero (List.cons.inj he).1, write_zero] at hwrite
    rw [← (List.cons.inj hwrite).2] at he
    exact hmark (List.cons.inj (List.cons.inj he).2).1.symm
  rw [integer?]
  · -- the steps need proofs of their own: by evaluation, the kernel would compare the bound with a number it lacks
    simp -implicitDefEqProofs [sign_write, wholePart?_write, decimalValue, Decimal.value_write, whole?_of_lt h]
  · exact fun t => hbase 'x' t (by decide)
  · exact fun t => hbase 'o' t (by decide)
  · exact fun t => hbase 'b' t (by decide)

theorem scalar?_write (h : n < integerBound) :
    scalar? (Decimal.write n ++ '\n' :: rest) = some (.integer n, '\n' :: rest) := by
  obtain ⟨d, ds, hwrite, hd, -⟩ := exists_write n
  have hleft : Left rest (Decimal.write n ++ '\n' :: rest) := ⟨_, digits_write n, rfl⟩
  have hstring : string? (Decimal.write n ++ '\n' :: rest) = none := by
    rw [hwrite]
    exact string?_of_isDigit hd _
  rw [scalar?, hstring, datetime?_left hleft, float?_write, specialFloat?_write, integer?_write rest h]
  · rfl
  · intro r he
    rw [hwrite] at he
    exact cons_ne_of_kind hd rfl _ _ he
  · intro r he
    rw [hwrite] at he
    exact cons_ne_of_kind hd rfl _ _ he

theorem readAs_write (h : n < integerBound) : ReadAs (Decimal.write n) (.integer n) := by
  obtain ⟨d, ds, hwrite, hd, -⟩ := exists_write n
  constructor
  case noSpace =>
    intro c hc
    obtain rfl : d = c := by simpa [hwrite] using hc
    simp [isSpace, ne_of_kind hd (d := ' ') rfl, ne_of_kind hd (d := '\t') rfl]
  case read =>
    intro rest
    rw [nestingLimit, value?, scalar?_write rest h]
    · intro depth t _ he
      rw [hwrite] at he
      exact cons_ne_of_kind hd rfl _ _ he
    · intro depth t _ he
      rw [hwrite] at he
      exact cons_ne_of_kind hd rfl _ _ he

theorem readAs_boolean (b : Bool) : ReadAs (Item.boolean b).text (.boolean b) := by
  cases b with
  | false => exact ⟨fun c hc => Option.some.inj hc ▸ rfl, fun _ => rfl⟩
  | true => exact ⟨fun c hc => Option.some.inj hc ▸ rfl, fun _ => rfl⟩

/-- An item is read as what it was written for, if it fits. -/
theorem readAs_item {i : Item} (h : i.fits = true) : ReadAs i.text i.value := by
  cases i with
  | boolean b => exact readAs_boolean b
  | integer n => exact readAs_write (of_decide_eq_true h)

end ConnectString.Toml
