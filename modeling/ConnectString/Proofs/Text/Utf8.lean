/-
  ConnectString.Proofs.Text.Utf8 — a text as the bytes of its UTF-8 form.

  A byte below 128 is a character by itself, and no byte of a longer character is below 128. So a reader that looks at
  one byte at a time may take such a byte for what it says wherever it comes across it: it stands between two
  characters (`exists_cut_of_byteAt_ascii`). At the start of a character its first byte tells it from every ASCII
  character (`exists_byteAt?_start`).

  `slice?` answers for two byte offsets exactly where both of them lie between characters and are in order
  (`isSome_slice?_iff`).
-/

import ConnectString.Proofs.Text.Search
import ConnectString.Text.Blank

namespace ConnectString

namespace Text

def bytes (t : Text) : List UInt8 := t.flatMap String.utf8EncodeChar

def byteAt? (t : Text) (i : Nat) : Option UInt8 := (bytes t)[i]?

/-- The byte offset lies between two characters, or at one of the ends. -/
def Boundary (t : Text) (i : Nat) : Prop := ∃ a b, t = a ++ b ∧ byteLength a = i

/-! ## Bytes -/

@[simp] theorem bytes_nil : bytes [] = [] := rfl
@[simp] theorem bytes_cons (c : Char) (t : Text) : bytes (c :: t) = String.utf8EncodeChar c ++ bytes t := rfl

@[simp] theorem length_bytes (t : Text) : (bytes t).length = byteLength t := by
  induction t with
  | nil => rfl
  | cons c t ih => rw [bytes_cons, List.length_append, String.length_utf8EncodeChar, ih, byteLength_cons]

theorem bytes_append (a b : Text) : bytes (a ++ b) = bytes a ++ bytes b := List.flatMap_append

theorem byteAt?_eq_none_iff {t : Text} {i : Nat} : byteAt? t i = none ↔ byteLength t ≤ i := by
  rw [byteAt?, List.getElem?_eq_none_iff, length_bytes]

theorem lt_of_byteAt? {t : Text} {i : Nat} {b : UInt8} (h : byteAt? t i = some b) : i < byteLength t := by
  rw [← length_bytes]
  exact (List.getElem?_eq_some_iff.mp h).1

/-- The bytes behind a part of a text are those of the rest. -/
theorem byteAt?_append (a r : Text) (j : Nat) : byteAt? (a ++ r) (byteLength a + j) = byteAt? r j := by
  rw [byteAt?, byteAt?, bytes_append, List.getElem?_append_right (by simp), length_bytes, Nat.add_sub_cancel_left]

/-- The bytes of a character. -/
theorem byteAt?_cons {c : Char} {j : Nat} (h : j < c.utf8Size) (r : Text) :
    byteAt? (c :: r) j = (String.utf8EncodeChar c)[j]? := by
  rw [byteAt?, bytes_cons, List.getElem?_append_left (by rwa [String.length_utf8EncodeChar])]

/-! ## ASCII -/

def IsAscii (c : Char) : Prop := c.toNat < 128

instance (c : Char) : Decidable (IsAscii c) := inferInstanceAs (Decidable (c.toNat < 128))

theorem utf8Size_of_isAscii {c : Char} (h : IsAscii c) : c.utf8Size = 1 := by
  rw [Char.utf8Size_eq_one_iff, UInt32.le_iff_toNat_le]
  exact Nat.le_of_lt_succ h

theorem isAscii_of_isAsciiBlank {c : Char} (h : isAsciiBlank c = true) : IsAscii c := by
  simp only [isAsciiBlank, Bool.or_eq_true, beq_iff_eq] at h
  rcases h with (((rfl | rfl) | rfl) | rfl) | rfl <;> decide

/-- An ASCII character is one byte. -/
theorem byteLength_concat (a : Text) {c : Char} (hc : IsAscii c) : byteLength (a ++ [c]) = byteLength a + 1 := by
  rw [byteLength_append, byteLength_cons, byteLength_nil, Nat.add_zero, utf8Size_of_isAscii hc]

theorem utf8EncodeChar_of_isAscii {c : Char} (h : IsAscii c) : String.utf8EncodeChar c = [c.toUInt8] := by
  rw [String.utf8EncodeChar_eq_singleton (utf8Size_of_isAscii h)]
  rfl

/-- No byte of a longer character is below 128. -/
theorem le_of_mem_utf8EncodeChar {c : Char} (h : ¬IsAscii c) {b : UInt8} (hb : b ∈ String.utf8EncodeChar c) :
    128 ≤ b := by
  have hlong : ¬c.val.toNat ≤ 127 := fun hle => h (Nat.lt_succ_of_le hle)
  -- Every byte of a longer character is a bit pattern with its highest bit set.
  have hbyte : ∀ x m n : Nat, 128 ≤ n → 0 < m → m + n ≤ 256 → (128 : UInt8) ≤ UInt8.ofNat (x % m + n) := by
    intro x m n hn hm hfit
    have hlt := Nat.mod_lt x hm
    rw [UInt8.le_iff_toNat_le, UInt8.toNat_ofNat_of_lt' (by show x % m + n < 256; omega)]
    show 128 ≤ x % m + n
    omega
  simp only [String.utf8EncodeChar, if_neg hlong] at hb
  split at hb
  · rcases List.mem_pair.mp hb with rfl | rfl
    all_goals exact hbyte _ _ _ (by decide) (by decide) (by decide)
  split at hb
  all_goals
    simp only [List.mem_cons, List.not_mem_nil, or_false] at hb
    rcases hb with rfl | hb
    · exact hbyte _ _ _ (by decide) (by decide) (by decide)
  · rcases hb with rfl | rfl
    all_goals exact hbyte _ _ _ (by decide) (by decide) (by decide)
  · rcases hb with rfl | rfl | rfl
    all_goals exact hbyte _ _ _ (by decide) (by decide) (by decide)

theorem toNat_toUInt8_of_isAscii {c : Char} (h : IsAscii c) : c.toUInt8.toNat = c.toNat :=
  UInt8.toNat_ofNat_of_lt' (Nat.lt_trans h (by decide))

/-- A byte of a character is the byte of an ASCII character only if that is the character. -/
theorem eq_of_mem_utf8EncodeChar {c d : Char} (hd : IsAscii d) (h : d.toUInt8 ∈ String.utf8EncodeChar c) : c = d := by
  by_cases hc : IsAscii c
  · rw [utf8EncodeChar_of_isAscii hc, List.mem_singleton] at h
    have hnat : c.toNat = d.toNat := by
      rw [← toNat_toUInt8_of_isAscii hc, ← toNat_toUInt8_of_isAscii hd, h]
    exact Char.toNat_inj.mp hnat
  · have hle := le_of_mem_utf8EncodeChar hc h
    rw [UInt8.le_iff_toNat_le, toNat_toUInt8_of_isAscii hd] at hle
    exact absurd hd (Nat.not_lt.mpr hle)

/-- A byte inside a character is none of an ASCII character that it is not. -/
theorem exists_byteAt?_inside (a : Text) {c : Char} (r : Text) {j : Nat} (hj : j < c.utf8Size) :
    ∃ b, byteAt? (a ++ c :: r) (byteLength a + j) = some b ∧ ∀ d, IsAscii d → c ≠ d → b ≠ d.toUInt8 := by
  have hlength : j < (String.utf8EncodeChar c).length := by rwa [String.length_utf8EncodeChar]
  refine ⟨(String.utf8EncodeChar c)[j], ?_, ?_⟩
  · rw [byteAt?_append, byteAt?_cons hj, List.getElem?_eq_getElem hlength]
  · rintro d hd hne heq
    exact hne (eq_of_mem_utf8EncodeChar hd (heq ▸ List.getElem_mem hlength))

/-- At the start of an ASCII character stands its byte. -/
theorem byteAt?_of_isAscii (a : Text) {c : Char} (hc : IsAscii c) (r : Text) :
    byteAt? (a ++ c :: r) (byteLength a) = some c.toUInt8 := by
  have hfirst := byteAt?_append a (c :: r) 0
  rw [Nat.add_zero, byteAt?_cons (Char.utf8Size_pos c), utf8EncodeChar_of_isAscii hc] at hfirst
  exact hfirst

/-- The byte at the start of a character tells it from every ASCII character that it is not. -/
theorem exists_byteAt?_start (a : Text) (c : Char) (r : Text) :
    ∃ b, byteAt? (a ++ c :: r) (byteLength a) = some b ∧ ∀ d, IsAscii d → (b = d.toUInt8 ↔ c = d) := by
  obtain ⟨b, hb, hne⟩ := exists_byteAt?_inside a r (Char.utf8Size_pos c)
  refine ⟨b, hb, fun d hd => ⟨fun heq => ?_, ?_⟩⟩
  · by_contra hcd
    exact hne d hd hcd heq
  · rintro rfl
    rw [Nat.add_zero, byteAt?_of_isAscii a hd r] at hb
    exact (Option.some.inj hb).symm

/-- A byte below 128 is a character by itself, wherever it stands. -/
theorem exists_cut_of_byteAt_ascii {t : Text} {i : Nat} {b : UInt8} (h : byteAt? t i = some b) (hb : b < 128) :
    ∃ a c r, t = a ++ c :: r ∧ byteLength a = i ∧ IsAscii c := by
  induction t generalizing i with
  | nil => cases h
  | cons c t ih =>
    by_cases hi : i < c.utf8Size
    · rw [byteAt?_cons hi] at h
      by_cases hc : IsAscii c
      · rw [utf8Size_of_isAscii hc, Nat.lt_one_iff] at hi
        subst hi
        exact ⟨[], c, t, rfl, rfl, hc⟩
      · have hle := le_of_mem_utf8EncodeChar hc (List.mem_of_getElem? h)
        rw [UInt8.le_iff_toNat_le] at hle
        rw [UInt8.lt_iff_toNat_lt] at hb
        exact absurd hb (Nat.not_lt.mpr hle)
    · obtain ⟨j, rfl⟩ := Nat.exists_eq_add_of_le (Nat.not_lt.mp hi)
      have hrest := byteAt?_append [c] t j
      rw [byteLength_cons, byteLength_nil, Nat.add_zero, List.singleton_append] at hrest
      rw [hrest] at h
      obtain ⟨a, d, r, rfl, rfl, hd⟩ := ih h
      exact ⟨c :: a, d, r, rfl, rfl, hd⟩

/-! ## Boundaries and slices -/

theorem byteLength_eq_zero_iff {t : Text} : byteLength t = 0 ↔ t = [] := by
  rcases t with _ | ⟨c, t⟩
  · simp
  · have hpos := Char.utf8Size_pos c
    simp only [byteLength_cons, reduceCtorEq, iff_false]
    omega

theorem boundary_length (a b : Text) : Boundary (a ++ b) (byteLength a) := ⟨a, b, rfl, rfl⟩

theorem Boundary.le {t : Text} {i : Nat} (h : Boundary t i) : i ≤ byteLength t := by
  obtain ⟨a, b, rfl, rfl⟩ := h
  rw [byteLength_append]
  exact Nat.le_add_right _ _

/-- Both sides of a byte below 128 are boundaries. -/
theorem boundary_of_byteAt_ascii {t : Text} {i : Nat} {b : UInt8} (h : byteAt? t i = some b) (hb : b < 128) :
    Boundary t i ∧ Boundary t (i + 1) := by
  obtain ⟨a, c, r, rfl, rfl, hc⟩ := exists_cut_of_byteAt_ascii h hb
  exact ⟨boundary_length a (c :: r), a ++ [c], r, by simp, byteLength_concat a hc⟩

theorem append_of_splitBytes? {t a b : Text} {n : Nat} (h : splitBytes? t n = some (a, b)) :
    t = a ++ b ∧ byteLength a = n := by
  induction t generalizing n a with
  | nil =>
    rcases n with _ | n
    · cases h
      exact ⟨rfl, rfl⟩
    · cases h
  | cons c t ih =>
    rcases n with _ | n
    · cases h
      exact ⟨rfl, rfl⟩
    · rw [splitBytes?] at h
      split at h
      · obtain ⟨⟨a', b'⟩, hcut, he⟩ := Option.map_eq_some_iff.mp h
        cases he
        obtain ⟨rfl, hlength⟩ := ih hcut
        refine ⟨rfl, ?_⟩
        rw [byteLength_cons]
        omega
      · cases h

/-- A slice can be taken exactly between two boundaries in order. -/
theorem isSome_slice?_iff {t : Text} {start stop : Nat} :
    (slice? t start stop).isSome = true ↔ start ≤ stop ∧ Boundary t start ∧ Boundary t stop := by
  constructor
  · intro h
    obtain ⟨w, hw⟩ := Option.isSome_iff_exists.mp h
    unfold slice? at hw
    split at hw
    · rename_i hle
      obtain ⟨⟨a, r⟩, ha, hr⟩ := Option.bind_eq_some_iff.mp hw
      obtain ⟨⟨m, b⟩, hm, -⟩ := Option.bind_eq_some_iff.mp hr
      obtain ⟨rfl, rfl⟩ := append_of_splitBytes? ha
      obtain ⟨rfl, hlength⟩ := append_of_splitBytes? hm
      refine ⟨hle, boundary_length a _, a ++ m, b, by simp, ?_⟩
      rw [byteLength_append]
      omega
    · cases hw
  · rintro ⟨hle, ⟨a, r, rfl, rfl⟩, ⟨u, b, hu, rfl⟩⟩
    obtain ⟨m, rfl⟩ : ∃ m, u = a ++ m := by
      rcases List.append_eq_append_iff.mp hu with ⟨m, hm, -⟩ | ⟨m, rfl, -⟩
      · exact ⟨m, hm⟩
      · rw [byteLength_append] at hle
        have hm : m = [] := byteLength_eq_zero_iff.mp (by omega)
        exact ⟨[], by simp [hm]⟩
    rw [hu, byteLength_append, slice?_append]
    rfl

theorem exists_slice {t : Text} {start stop : Nat} (h : start ≤ stop) (hstart : Boundary t start)
    (hstop : Boundary t stop) : ∃ w, slice t start stop = .ok w := by
  obtain ⟨w, hw⟩ := Option.isSome_iff_exists.mp (isSome_slice?_iff.mpr ⟨h, hstart, hstop⟩)
  exact ⟨w, by rw [slice, hw]⟩

/-- The accented letter takes the bytes at 1 and 2, and no piece ends between them. -/
example : slice? "néz".toList 0 3 = some "né".toList ∧ slice? "néz".toList 0 2 = none := by decide

end Text

end ConnectString
