/-
  ConnectString.Proofs.Text.Trim — what trimming takes off a text.

  A text is its trimmed form between two runs of blanks (`exists_trim_between`), and the trimmed form neither starts
  nor ends with a blank, so that trimming it again changes nothing (`trim_trim`). Trimming never makes a text longer,
  and one that keeps the length keeps the text (`trim_eq_self_of_length_le`).
-/

import Mathlib.Data.List.DropRight
import ConnectString.Text.Blank

namespace ConnectString

def Blanks (t : Text) : Prop := ∀ c ∈ t, isBlank c = true

theorem blanks_append {a b : Text} (ha : Blanks a) (hb : Blanks b) : Blanks (a ++ b) :=
  fun c hc => (List.mem_append.mp hc).elim (ha c) (hb c)

theorem ne_paren_of_isBlank {c : Char} (h : isBlank c = true) : c ≠ '(' ∧ c ≠ ')' := by
  constructor <;> rintro rfl <;> exact absurd h (by decide)

namespace Text

theorem exists_trimStart_after (t : Text) : ∃ a, Blanks a ∧ t = a ++ trimStart t :=
  ⟨t.takeWhile isBlank, fun _ hc => List.mem_takeWhile_imp hc, List.takeWhile_append_dropWhile.symm⟩

theorem exists_trimEnd_before (t : Text) : ∃ b, Blanks b ∧ t = trimEnd t ++ b :=
  ⟨t.rtakeWhile isBlank, fun _ hc => List.mem_rtakeWhile_imp hc, List.rdropWhile_append_rtakeWhile.symm⟩

/-- A text is its trimmed form with blanks before and behind it. -/
theorem exists_trim_between (t : Text) : ∃ a b, Blanks a ∧ Blanks b ∧ t = a ++ trim t ++ b := by
  obtain ⟨a, ha, hta⟩ := exists_trimStart_after t
  obtain ⟨b, hb, htb⟩ := exists_trimEnd_before (trimStart t)
  refine ⟨a, b, ha, hb, ?_⟩
  rw [List.append_assoc, trim, ← htb, ← hta]

theorem not_isBlank_head_trimStart {t r : Text} {c : Char} (h : trimStart t = c :: r) : isBlank c = false := by
  have hd := List.head?_dropWhile_not isBlank t
  rw [show t.dropWhile isBlank = c :: r from h] at hd
  simpa using hd

theorem not_isBlank_head_trim {t r : Text} {c : Char} (h : trim t = c :: r) : isBlank c = false := by
  obtain ⟨b, -, hb⟩ := exists_trimEnd_before (trimStart t)
  rw [← trim, h] at hb
  exact not_isBlank_head_trimStart hb

theorem trimStart_trim (t : Text) : trimStart (trim t) = trim t := by
  rcases h : trim t with _ | ⟨c, r⟩
  · rfl
  · exact List.dropWhile_cons_of_neg (by simp [not_isBlank_head_trim h])

theorem trimEnd_trim (t : Text) : trimEnd (trim t) = trim t :=
  List.rdropWhile_idempotent isBlank (trimStart t)

@[simp] theorem trim_trim (t : Text) : trim (trim t) = trim t := by
  rw [trim, trimStart_trim, trimEnd_trim]

/-- A character that is no blank stays where it is in front. -/
theorem head?_trim_cons {c : Char} (hc : isBlank c = false) (t : Text) : (trim (c :: t)).head? = some c := by
  have hstart : trimStart (c :: t) = c :: t := List.dropWhile_cons_of_neg (by simp [hc])
  obtain ⟨b, hb, ht⟩ := exists_trimEnd_before (c :: t)
  rw [trim, hstart]
  rcases h : trimEnd (c :: t) with _ | ⟨d, r⟩
  · rw [h, List.nil_append] at ht
    have hblank := hb c (ht ▸ List.mem_cons_self)
    rw [hc] at hblank
    cases hblank
  · rw [h, List.cons_append] at ht
    rw [List.head?_cons, (List.cons.inj ht).1]

/-- A character that is no blank stays where it is at the end. -/
theorem exists_trim_concat {c : Char} (hc : isBlank c = false) (t : Text) : ∃ r, trim (t ++ [c]) = r ++ [c] := by
  have hkeep : ∀ r : Text, trimEnd (r ++ [c]) = r ++ [c] := fun r =>
    List.rdropWhile_concat_neg isBlank r c (by simp [hc])
  rw [trim, trimStart, List.dropWhile_append]
  split
  · rw [List.dropWhile_cons_of_neg (by simp [hc])]
    exact ⟨[], hkeep []⟩
  · exact ⟨t.dropWhile isBlank, hkeep _⟩

/-- A text with no blank at either end is trimmed. -/
theorem trim_between {c d : Char} (hc : isBlank c = false) (hd : isBlank d = false) (t : Text) :
    trim (c :: t ++ [d]) = c :: t ++ [d] := by
  have hstart : trimStart (c :: t ++ [d]) = c :: t ++ [d] := List.dropWhile_cons_of_neg (by simp [hc])
  rw [trim, hstart]
  exact List.rdropWhile_concat_neg isBlank (c :: t) d (by simp [hd])

theorem trimStart_append {a t : Text} (ha : Blanks a) (ht : ∀ c ∈ t.head?, isBlank c = false) :
    trimStart (a ++ t) = t := by
  rw [trimStart, List.dropWhile_append_of_pos ha]
  cases t with
  | nil => rfl
  | cons c t => exact List.dropWhile_cons_of_neg (by simp [ht c rfl])

theorem trimEnd_append {t b : Text} (hb : Blanks b) (ht : ∀ c ∈ t.getLast?, isBlank c = false) :
    trimEnd (t ++ b) = t := by
  have hblank : Blanks b.reverse := fun c hc => hb c (List.mem_reverse.mp hc)
  have hfront : ∀ c ∈ t.reverse.head?, isBlank c = false := by rwa [List.head?_reverse]
  have hstart := trimStart_append hblank hfront
  rw [trimStart] at hstart
  rw [trimEnd, List.reverse_append, hstart, List.reverse_reverse]

theorem trim_of_blanks {t : Text} (h : Blanks t) : trim t = [] := by
  rw [trim, trimStart, List.dropWhile_eq_nil_iff.mpr h]
  rfl

/-- Blanks in front make no difference. -/
theorem trim_append {a t : Text} (ha : Blanks a) (ht : ∀ c ∈ t.head?, isBlank c = false) :
    trim (a ++ t) = trim t := by
  have hbare := trimStart_append (a := []) (by simp [Blanks]) ht
  rw [List.nil_append] at hbare
  rw [trim, trim, trimStart_append ha ht, hbare]

/-- What neither starts nor ends with a blank is what trimming leaves of it between blanks. -/
theorem trim_between_blanks {a t b : Text} (ha : Blanks a) (hb : Blanks b) (hstart : ∀ c ∈ t.head?, isBlank c = false)
    (hend : ∀ c ∈ t.getLast?, isBlank c = false) : trim (a ++ t ++ b) = t := by
  cases t with
  | nil =>
    rw [List.append_nil]
    exact trim_of_blanks (blanks_append ha hb)
  | cons c t =>
    have hfront : ∀ d ∈ (c :: t ++ b).head?, isBlank d = false := hstart
    rw [List.append_assoc, trim, trimStart_append ha hfront, trimEnd_append hb hend]

theorem not_isBlank_getLast_trim (t : Text) : ∀ c ∈ (trim t).getLast?, isBlank c = false := by
  intro c hc
  rw [trim, trimEnd, List.getLast?_reverse] at hc
  have hhead := List.head?_dropWhile_not isBlank (trimStart t).reverse
  rw [Option.mem_def.mp hc] at hhead
  exact hhead

theorem mem_of_mem_trim {t : Text} {c : Char} (h : c ∈ trim t) : c ∈ t := by
  obtain ⟨a, b, -, -, ht⟩ := exists_trim_between t
  rw [ht]
  simp [h]

theorem length_trim_le (t : Text) : (trim t).length ≤ t.length := by
  obtain ⟨a, b, -, -, ht⟩ := exists_trim_between t
  have := congrArg List.length ht
  simp only [List.length_append] at this
  omega

/-- A text that trimming does not make shorter is trimmed already. -/
theorem trim_eq_self_of_length_le {t : Text} (h : t.length ≤ (trim t).length) : trim t = t := by
  obtain ⟨a, b, -, -, ht⟩ := exists_trim_between t
  have hl := congrArg List.length ht
  simp only [List.length_append] at hl
  have ha : a = [] := List.eq_nil_of_length_eq_zero (by omega)
  have hb : b = [] := List.eq_nil_of_length_eq_zero (by omega)
  rw [ha, hb, List.nil_append, List.append_nil] at ht
  exact ht.symm

end Text

end ConnectString
