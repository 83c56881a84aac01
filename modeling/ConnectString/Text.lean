/-
  ConnectString.Text — text as it is read: a list of characters, measured in the bytes of its UTF-8 form.

  Offsets throughout the library are byte offsets. `splitBytes?` cuts a text at an offset and has no answer for one
  that lies inside a character or past the end; `slice?` is the piece between two offsets in order, and where there is
  none `slice` breaks off. The searches (`indexOf?`, `lastIndexOf?`, `indexOfLiteral?`) answer with byte offsets.
-/

import ConnectString.Fault

namespace ConnectString

/-- Text that is read: a list of characters (Unicode scalar values). -/
abbrev Text := List Char

namespace Text

def byteLength : Text → Nat
  | [] => 0
  | c :: t => c.utf8Size + byteLength t

def splitBytes? : Text → Nat → Option (Text × Text)
  | t, 0 => some ([], t)
  | [], _ + 1 => none
  | c :: t, n + 1 =>
    if c.utf8Size ≤ n + 1 then (splitBytes? t (n + 1 - c.utf8Size)).map fun (a, b) => (c :: a, b) else none

/-- The piece from one byte offset up to another; none where they are out of order, or one of them lies inside a
    character or past the end. -/
def slice? (t : Text) (start stop : Nat) : Option Text :=
  if start ≤ stop then do
    let (_, r) ← splitBytes? t start
    let (w, _) ← splitBytes? r (stop - start)
    return w
  else none

def slice (t : Text) (start stop : Nat) : Except Fault Text :=
  match slice? t start stop with
  | some w => .ok w
  | none => .error (.slice start stop)

def indexOf? (p : Char → Bool) : Text → Option Nat
  | [] => none
  | c :: t => if p c then some 0 else (indexOf? p t).map (· + c.utf8Size)

def lastIndexOf? (p : Char → Bool) : Text → Option Nat
  | [] => none
  | c :: t =>
    match lastIndexOf? p t with
    | some i => some (i + c.utf8Size)
    | none => if p c then some 0 else none

/-- Byte offset of the first occurrence of a literal; the empty literal is found at once. -/
def indexOfLiteral? (literal : Text) : Text → Option Nat
  | [] => if literal.isEmpty then some 0 else none
  | c :: t => if literal.isPrefixOf (c :: t) then some 0 else (indexOfLiteral? literal t).map (· + c.utf8Size)

/-! ## Measure -/

@[simp] theorem byteLength_nil : byteLength [] = 0 := rfl
@[simp] theorem byteLength_cons (c : Char) (t : Text) : byteLength (c :: t) = c.utf8Size + byteLength t := rfl

@[simp] theorem byteLength_append (a b : Text) : byteLength (a ++ b) = byteLength a + byteLength b := by
  induction a with
  | nil => simp
  | cons c a ih => simp only [List.cons_append, byteLength_cons, ih]; omega

/-- A text cut at the byte length of its first part falls into its two parts. -/
theorem splitBytes?_append (a b : Text) : splitBytes? (a ++ b) (byteLength a) = some (a, b) := by
  induction a with
  | nil => cases b <;> rfl
  | cons c a ih =>
    have hc : 0 < c.utf8Size := Char.utf8Size_pos c
    obtain ⟨n, hn⟩ : ∃ n, byteLength (c :: a) = n + 1 := ⟨c.utf8Size + byteLength a - 1, by rw [byteLength_cons]; omega⟩
    have hle : c.utf8Size ≤ n + 1 := by rw [← hn, byteLength_cons]; omega
    have hrest : n + 1 - c.utf8Size = byteLength a := by rw [← hn, byteLength_cons]; omega
    simp only [List.cons_append, hn, splitBytes?, hle, if_true, hrest, ih, Option.map_some]

end Text

end ConnectString
