/-
  ConnectString.Proofs.Settings.Variable — truth values and numbers in environment variables.

  A truth value is one of a few words in any case (`boolean?_eq_some_iff`), a number is a row of digits that may start
  with a plus sign (`natural?_eq_some_iff`). Blanks may stand at both ends of either, and nowhere else.
-/

import Mathlib.Data.List.Forall2
import Mathlib.Data.Nat.Digits.Defs
import ConnectString.Proofs.Text.Trim
import ConnectString.Settings.Override

namespace ConnectString.Settings

/-- A text is another one with blanks at its ends. -/
def Padded (core t : Text) : Prop := ∃ a b, Blanks a ∧ Blanks b ∧ t = a ++ core ++ b

/-- The same letter, in lower case or in upper case. -/
def CaseOf (lower c : Char) : Prop := c = lower ∨ c = lower.toUpper

def words : Bool → List String
  | true => ["true", "1", "yes", "on"]
  | false => ["false", "0", "no", "off"]

/-- A text says a truth value: one of its words, in any case. -/
def SaysBoolean (t : Text) (b : Bool) : Prop :=
  ∃ core, Padded core t ∧ ∃ w ∈ words b, List.Forall₂ CaseOf w.toList core

def digitsValue (ds : Text) : Nat := Nat.ofDigits 10 (ds.map Decimal.digitValue).reverse

/-- A text says a natural number: its digits, with or without a plus sign, if the number has 64 bits. -/
def SaysNatural (t : Text) (n : Nat) : Prop :=
  ∃ sign ds, Padded (sign ++ ds) t ∧ (sign = [] ∨ sign = ['+']) ∧ ds ≠ [] ∧ (∀ c ∈ ds, Decimal.isDigit c = true) ∧
    digitsValue ds = n ∧ n < 2 ^ 64

variable {t core : Text}

/-! ## Blanks -/

theorem padded_trim (t : Text) : Padded (Text.trim t) t := Text.exists_trim_between t

/-- A text with no blank at its ends is all that is left when what is around it is trimmed. -/
theorem trim_of_padded (h : Padded core t) (hcore : ∀ c ∈ core, isBlank c = false) : Text.trim t = core := by
  obtain ⟨a, b, ha, hb, rfl⟩ := h
  apply Text.trim_between_blanks ha hb
  · exact fun c hc => hcore c (List.mem_of_mem_head? hc)
  · exact fun c hc => hcore c (List.mem_of_mem_getLast? hc)

/-! ## Truth values -/

theorem toNat_toLower (c : Char) :
    c.toLower.toNat = if 65 ≤ c.toNat ∧ c.toNat ≤ 90 then c.toNat + 32 else c.toNat := by
  unfold Char.toLower
  simp only [ge_iff_le, UInt32.le_iff_toNat_le, Char.toNat_val]
  split
  · rename_i h
    obtain ⟨hlow, hhigh⟩ : 65 ≤ c.toNat ∧ c.toNat ≤ 90 := h
    rw [if_pos ⟨hlow, hhigh⟩]
    show (c.val + 32).toNat = _
    rw [UInt32.toNat_add]
    show (c.toNat + 32) % 2 ^ 32 = _
    omega
  · rename_i h
    exact (if_neg h).symm

theorem toNat_toUpper (c : Char) :
    c.toUpper.toNat = if 97 ≤ c.toNat ∧ c.toNat ≤ 122 then c.toNat - 32 else c.toNat := by
  unfold Char.toUpper
  simp only [UInt32.le_iff_toNat_le, Char.toNat_val]
  split
  · rename_i h
    obtain ⟨hlow, hhigh⟩ : 97 ≤ c.toNat ∧ c.toNat ≤ 122 := h
    rw [if_pos ⟨hlow, hhigh⟩]
    show (c.val + 4294967264).toNat = _
    rw [UInt32.toNat_add]
    show (c.toNat + 4294967264) % 2 ^ 32 = _
    omega
  · rename_i h
    exact (if_neg h).symm

theorem toLower_eq_iff {lower c : Char} (hlower : lower.toLower = lower) : c.toLower = lower ↔ CaseOf lower c := by
  have hkeep := congrArg Char.toNat hlower
  simp only [CaseOf, ← Char.toNat_inj, toNat_toLower, toNat_toUpper] at hkeep ⊢
  grind

theorem lower_eq_iff {word : Text} (hword : ∀ c ∈ word, c.toLower = c) :
    Text.lower core = word ↔ List.Forall₂ CaseOf word core := by
  induction word generalizing core with
  | nil => simp [Text.lower, List.forall₂_nil_left_iff]
  | cons c word ih =>
    obtain ⟨hc, hrest⟩ := List.forall_mem_cons.mp hword
    cases core with
    | nil => simp [Text.lower, List.forall₂_nil_right_iff]
    | cons d core =>
      rw [List.forall₂_cons, ← ih hrest, ← toLower_eq_iff hc]
      simp [Text.lower]

/-- The words are in lower case, and no blank stands in them, whatever their case. -/
theorem letters_of_words (b : Bool) : ∀ w ∈ words b, ∀ c ∈ w.toList,
    c.toLower = c ∧ isBlank c = false ∧ isBlank c.toUpper = false := by
  cases b with
  | false => simp [words, isBlank]
  | true => simp [words, isBlank]

theorem ne_of_words : ∀ w ∈ words true, ∀ w' ∈ words false, w.toList ≠ w'.toList := by simp [words]

theorem any_words_iff (b : Bool) (word : Text) :
    ((words b).any fun w => w.toList == word) = true ↔ ∃ w ∈ words b, word = w.toList := by
  simp only [List.any_eq_true, beq_iff_eq]
  constructor
  · rintro ⟨w, hw, h⟩
    exact ⟨w, hw, h.symm⟩
  · rintro ⟨w, hw, h⟩
    exact ⟨w, hw, h.symm⟩

/-- The word that a trimmed text is tells one truth value only. -/
theorem boolean?_eq_some_iff_word (b : Bool) :
    boolean? t = some b ↔ ∃ w ∈ words b, Text.lower (Text.trim t) = w.toList := by
  have hboolean : boolean? t =
      if (words true).any fun w => w.toList == Text.lower (Text.trim t) then some true
      else if (words false).any fun w => w.toList == Text.lower (Text.trim t) then some false
      else none := rfl
  rw [hboolean]
  simp only [any_words_iff]
  by_cases htrue : ∃ w ∈ words true, Text.lower (Text.trim t) = w.toList
  · obtain ⟨w, hw, hword⟩ := htrue
    have hother : ¬∃ w' ∈ words false, Text.lower (Text.trim t) = w'.toList := by
      rintro ⟨w', hw', hword'⟩
      exact ne_of_words w hw w' hw' (hword ▸ hword')
    rw [if_pos ⟨w, hw, hword⟩]
    cases b with
    | true => exact iff_of_true rfl ⟨w, hw, hword⟩
    | false => exact iff_of_false (by simp) hother
  · rw [if_neg htrue]
    cases b with
    | true => exact iff_of_false (by split <;> simp) htrue
    | false => simp only [Option.ite_none_right_eq_some, and_true]

/-- No blank stands in a word, whatever its case. -/
theorem notBlank_of_word {b : Bool} {w : String} (hw : w ∈ words b) (h : List.Forall₂ CaseOf w.toList core) :
    ∀ c ∈ core, isBlank c = false := by
  have hletters := letters_of_words b w hw
  generalize w.toList = word at h hletters
  induction h with
  | nil => simp
  | cons hcase _ ih =>
    obtain ⟨⟨-, hlower, hupper⟩, hrest⟩ := List.forall_mem_cons.mp hletters
    refine List.forall_mem_cons.mpr ⟨?_, ih hrest⟩
    rcases hcase with rfl | rfl
    · exact hlower
    · exact hupper

theorem boolean?_eq_some_iff (b : Bool) : boolean? t = some b ↔ SaysBoolean t b := by
  rw [boolean?_eq_some_iff_word]
  constructor
  · rintro ⟨w, hw, hlower⟩
    exact ⟨_, padded_trim t, w, hw, (lower_eq_iff fun c hc => (letters_of_words b w hw c hc).1).mp hlower⟩
  · rintro ⟨core, hpadded, w, hw, hword⟩
    refine ⟨w, hw, ?_⟩
    rw [trim_of_padded hpadded (notBlank_of_word hw hword)]
    exact (lower_eq_iff fun c hc => (letters_of_words b w hw c hc).1).mpr hword

theorem boolean?_eq_none (h : ∀ b, ¬SaysBoolean t b) : boolean? t = none :=
  Option.eq_none_iff_forall_ne_some.mpr fun b hb => h b ((boolean?_eq_some_iff b).mp hb)

/-! ## Natural numbers -/

theorem value_eq_digitsValue (ds : Text) : Decimal.value 10 (ds.map Decimal.digitValue) = digitsValue ds := by
  rw [digitsValue, Nat.ofDigits_eq_foldr, List.foldr_reverse, Decimal.value]
  congr 1
  funext n d
  rw [Nat.cast_id]
  omega

theorem read?_eq_some_iff (ds : Text) (n : Nat) :
    Decimal.read? ds = some n ↔ ds ≠ [] ∧ (∀ c ∈ ds, Decimal.isDigit c = true) ∧ digitsValue ds = n := by
  simp [Decimal.read?, value_eq_digitsValue, and_assoc]

theorem notBlank_of_isDigit {c : Char} (h : Decimal.isDigit c = true) : isBlank c = false := by
  simp only [Decimal.isDigit, Bool.and_eq_true, decide_eq_true_eq] at h
  simp only [isBlank, Bool.or_eq_false_iff, Bool.and_eq_false_iff, decide_eq_false_iff_not, beq_eq_false_iff_ne]
  omega

/-- A plus sign is left out if there is one. -/
theorem exists_sign_skipPlus (t : Text) : ∃ sign, (sign = [] ∨ sign = ['+']) ∧ t = sign ++ skipPlus t := by
  unfold skipPlus
  split
  · exact ⟨['+'], .inr rfl, rfl⟩
  · exact ⟨[], .inl rfl, rfl⟩

theorem skipPlus_of_sign {sign ds : Text} (hsign : sign = [] ∨ sign = ['+'])
    (hds : ∀ c ∈ ds, Decimal.isDigit c = true) : skipPlus (sign ++ ds) = ds := by
  rcases hsign with rfl | rfl
  · cases ds with
    | nil => rfl
    | cons d ds =>
      rw [List.nil_append, skipPlus]
      intro r he
      have hplus := hds d List.mem_cons_self
      rw [(List.cons.inj he).1] at hplus
      cases hplus
  · rfl

theorem natural?_eq_some_iff (n : Nat) : natural? t = some n ↔ SaysNatural t n := by
  have hpow : Nat.pow 2 64 = 2 ^ 64 := rfl
  rw [natural?, Option.filter_eq_some_iff, read?_eq_some_iff, decide_eq_true_eq, hpow]
  constructor
  · rintro ⟨⟨hne, hdigits, hvalue⟩, hlt⟩
    obtain ⟨sign, hsign, htrim⟩ := exists_sign_skipPlus (Text.trim t)
    exact ⟨sign, _, htrim ▸ padded_trim t, hsign, hne, hdigits, hvalue, hlt⟩
  · rintro ⟨sign, ds, hpadded, hsign, hne, hdigits, hvalue, hlt⟩
    have hnotBlank : ∀ c ∈ sign ++ ds, isBlank c = false := by
      intro c hc
      rcases List.mem_append.mp hc with hc | hc
      · rcases hsign with rfl | rfl
        · cases hc
        · rw [List.mem_singleton.mp hc]
          rfl
      · exact notBlank_of_isDigit (hdigits c hc)
    rw [trim_of_padded hpadded hnotBlank, skipPlus_of_sign hsign hdigits]
    exact ⟨⟨hne, hdigits, hvalue⟩, hlt⟩

theorem saysNatural_unique {n n' : Nat} (h : SaysNatural t n) (h' : SaysNatural t n') : n = n' := by
  have hread := (natural?_eq_some_iff n).mpr h
  rw [(natural?_eq_some_iff n').mpr h'] at hread
  exact (Option.some.inj hread).symm

theorem natural?_eq_none (h : ∀ n, ¬SaysNatural t n) : natural? t = none :=
  Option.eq_none_iff_forall_ne_some.mpr fun n hn => h n ((natural?_eq_some_iff n).mp hn)

end ConnectString.Settings
