/-
  ConnectString.Proofs.Environment.Pieces — the pieces that a text with references is made of.

  `Pieces` says how a text falls into references and single characters, and `Inside` what stands between the braces of
  a reference; neither looks at an environment. Cutting a text comes to the one way in which it falls apart
  (`pieces_iff`): a bare name goes as far as it can, braces end at the first closing one or with the text, and a
  dollar sign stands for itself only where no reference can begin.
-/

import ConnectString.Environment.Expansion
import ConnectString.Proofs.Text.Search

namespace ConnectString.Expansion

/-- What stands between braces, and the reference that it makes. -/
inductive Inside : Text → Piece → Prop
  | name {name : Text} (h : ':' ∉ name) : Inside name (.braced name none)
  /-- The first colon with nothing behind it. -/
  | colon {name : Text} (h : ':' ∉ name) : Inside (name ++ [':']) (.braced name none)
  | modified {name : Text} (h : ':' ∉ name) (sign : Char) (text : Text) :
      Inside (name ++ ':' :: sign :: text) (.braced name (some ⟨sign, text⟩))

/-- A text and the pieces that it falls into. -/
inductive Pieces : Text → List Piece → Prop
  | nil : Pieces [] []
  /-- A reference in braces, which go up to the first closing one. -/
  | braced {inside rest : Text} {p : Piece} {ps : List Piece} (hopen : '\x7d' ∉ inside) (h : Inside inside p)
      (hrest : Pieces rest ps) : Pieces ('$' :: '\x7b' :: (inside ++ '\x7d' :: rest)) (p :: ps)
  /-- A reference in braces that nothing closes. -/
  | unclosed {inside : Text} {p : Piece} (hopen : '\x7d' ∉ inside) (h : Inside inside p) :
      Pieces ('$' :: '\x7b' :: inside) [p]
  /-- A reference by a bare name, the longest that can be read there. -/
  | bare {c : Char} {more rest : Text} {ps : List Piece} (hc : isNameStart c = true)
      (hmore : ∀ d ∈ more, isNamePart d = true) (hend : ∀ d ∈ rest.head?, isNamePart d = false)
      (hrest : Pieces rest ps) : Pieces ('$' :: c :: (more ++ rest)) (.bare (c :: more) :: ps)
  /-- A dollar sign at which no reference begins. -/
  | dollar {rest : Text} {ps : List Piece} (hend : ∀ d ∈ rest.head?, d ≠ '\x7b' ∧ isNameStart d = false)
      (hrest : Pieces rest ps) : Pieces ('$' :: rest) (.literal '$' :: ps)
  | plain {c : Char} {rest : Text} {ps : List Piece} (hc : c ≠ '$') (hrest : Pieces rest ps) :
      Pieces (c :: rest) (.literal c :: ps)

/-! ## Braces -/

theorem ofBraces_of_inside {inside : Text} {p : Piece} (h : Inside inside p) : Piece.ofBraces inside = p := by
  cases h with
  | name h =>
    have hcut := Text.cut_all (Text.bne_of_not_mem h)
    rw [Piece.ofBraces, hcut.1, hcut.2]
  | @colon name h =>
    have hcut := Text.cut_before h []
    rw [Piece.ofBraces, hcut.1, hcut.2]
  | @modified name h sign text =>
    have hcut := Text.cut_before h (sign :: text)
    rw [Piece.ofBraces, hcut.1, hcut.2]

theorem inside_ofBraces (inside : Text) : Inside inside (Piece.ofBraces inside) := by
  by_cases hcolon : ':' ∈ inside
  · obtain ⟨name, r, rfl, hname⟩ := List.eq_append_cons_of_mem hcolon
    cases r with
    | nil =>
      rw [ofBraces_of_inside (.colon hname)]
      exact .colon hname
    | cons sign text =>
      rw [ofBraces_of_inside (.modified hname sign text)]
      exact .modified hname sign text
  · rw [ofBraces_of_inside (.name hcolon)]
    exact .name hcolon

/-! ## The cutting of a text -/

theorem split_braced (t : Text) :
    split ('$' :: '\x7b' :: t) =
      Piece.ofBraces (t.takeWhile (· != '\x7d')) :: split ((t.dropWhile (· != '\x7d')).drop 1) := by
  rw [split]

theorem isNameStart_brace : isNameStart '\x7b' = false := by decide

theorem split_bare {c : Char} (hc : isNameStart c = true) (t : Text) :
    split ('$' :: c :: t) = .bare (c :: t.takeWhile isNamePart) :: split (t.dropWhile isNamePart) := by
  have hbrace : c = '\x7b' → False := by
    rintro rfl
    rw [isNameStart_brace] at hc
    cases hc
  rw [split.eq_3 c t hbrace, if_pos hc]

theorem split_dollar {t : Text} (h : ∀ d ∈ t.head?, d ≠ '\x7b' ∧ isNameStart d = false) :
    split ('$' :: t) = .literal '$' :: split t := by
  cases t with
  | nil => rw [split.eq_4 '$' [] (by simp) (by simp)]
  | cons c t =>
    obtain ⟨hbrace, hstart⟩ := h c rfl
    rw [split.eq_3 c t hbrace, if_neg (by simp [hstart])]

theorem split_plain {c : Char} (hc : c ≠ '$') (t : Text) : split (c :: t) = .literal c :: split t := by
  rw [split.eq_4 c t (by simp [hc]) (by simp [hc])]

theorem split_of_pieces {t : Text} {ps : List Piece} (h : Pieces t ps) : split t = ps := by
  induction h with
  | nil => rw [split]
  | @braced inside rest p ps hopen h _ ih =>
    have hcut := Text.cut_before hopen rest
    rw [split_braced, hcut.1, hcut.2, ofBraces_of_inside h, List.drop_one, List.tail_cons, ih]
  | @unclosed inside p hopen h =>
    have hcut := Text.cut_all (Text.bne_of_not_mem hopen)
    rw [split_braced, hcut.1, hcut.2, ofBraces_of_inside h, List.drop_nil, split]
  | bare hc hmore hend _ ih =>
    have hcut := Text.cut_append hmore hend
    rw [split_bare hc, hcut.1, hcut.2, ih]
  | dollar hend _ ih => rw [split_dollar hend, ih]
  | plain hc _ ih => rw [split_plain hc, ih]

theorem pieces_split (t : Text) : Pieces t (split t) := by
  fun_induction split t with
  | case1 => exact .nil
  | case2 t ih =>
    by_cases hclosed : '\x7d' ∈ t
    · rw [List.drop_one] at ih ⊢
      have hpieces := Pieces.braced (Text.not_mem_takeWhile_bne t '\x7d') (inside_ofBraces _) ih
      rwa [Text.takeWhile_append_cons hclosed] at hpieces
    · have hcut := Text.cut_all (Text.bne_of_not_mem hclosed)
      rw [hcut.1, hcut.2, List.drop_nil, split]
      exact .unclosed hclosed (inside_ofBraces t)
  | case3 c t hbrace hstart ih =>
    have hmore : ∀ d ∈ t.takeWhile isNamePart, isNamePart d = true := fun d hd => List.mem_takeWhile_imp hd
    have hpieces := Pieces.bare hstart hmore (Text.head?_dropWhile_not isNamePart t) ih
    rwa [List.takeWhile_append_dropWhile] at hpieces
  | case4 c t hbrace hstart ih =>
    refine .dollar ?_ ih
    intro d hd
    obtain rfl : c = d := by simpa using hd
    exact ⟨hbrace, by simpa using hstart⟩
  | case5 c t hbraces hname ih =>
    by_cases hc : c = '$'
    · subst hc
      have hnil : t = [] := by
        cases t with
        | nil => rfl
        | cons d t => exact (hname d t rfl rfl).elim
      subst hnil
      exact .dollar (by simp) ih
    · exact .plain hc ih

/-- A text falls into the pieces that it is cut into, and in no other way. -/
theorem pieces_iff {t : Text} {ps : List Piece} : Pieces t ps ↔ split t = ps := by
  constructor
  · exact split_of_pieces
  · rintro rfl
    exact pieces_split t

end ConnectString.Expansion
