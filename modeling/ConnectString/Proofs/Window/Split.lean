/-
  ConnectString.Proofs.Window.Split — a window as three lists of characters.

  A `Split` is a text in three parts: what the window has left behind, what it shows, and what comes after it. Each
  operation of a window does to the parts what the function of the same name says here, in characters only
  (`window_pastLiteral` and its siblings); its byte offsets are the lengths of the parts, so that none of its cuts
  breaks off. What an operation shows never hangs on what was left behind.
-/

import Mathlib.Data.List.DropRight
import ConnectString.Proofs.Text.Search
import ConnectString.Window

namespace ConnectString

structure Split where
  /-- What the window has left behind. -/
  consumed : Text
  value : Text
  /-- What comes after the window. -/
  rest : Text
  deriving DecidableEq, Repr

namespace Split

def window (s : Split) : Window where
  text := s.consumed ++ s.value ++ s.rest
  start := Text.byteLength s.consumed
  stop := Text.byteLength s.consumed + Text.byteLength s.value

def whole (t : Text) : Split := ⟨[], t, []⟩

def pastLiteral (s : Split) (literal : Text) : Split :=
  match Text.cutBehind? literal s.value with
  | some (a, b) => ⟨s.consumed ++ a, b, s.rest⟩
  | none => s

def pastFirst (s : Split) (delimiter : Char) : Split := s.pastLiteral [delimiter]

def upToAny (s : Split) (delimiters : List Char) : Split :=
  ⟨s.consumed, s.value.takeWhile (!delimiters.contains ·), s.value.dropWhile (!delimiters.contains ·) ++ s.rest⟩

def pastLastAny (s : Split) (delimiters : List Char) : Split :=
  ⟨s.consumed ++ s.value.rdropWhile (!delimiters.contains ·), s.value.rtakeWhile (!delimiters.contains ·), s.rest⟩

def pastLastBefore (s : Split) (delimiter barrier : Char) : Split :=
  let head := s.value.takeWhile (· != barrier)
  let tail := s.value.dropWhile (· != barrier)
  ⟨s.consumed ++ head.rdropWhile (· != delimiter), head.rtakeWhile (· != delimiter) ++ tail, s.rest⟩

def onward (s : Split) : Split := ⟨s.consumed ++ s.value, s.rest, []⟩

variable (s : Split)

@[simp] theorem rest_pastLiteral (literal : Text) : (s.pastLiteral literal).rest = s.rest := by
  rw [pastLiteral]
  split <;> rfl

@[simp] theorem rest_pastFirst (delimiter : Char) : (s.pastFirst delimiter).rest = s.rest :=
  rest_pastLiteral s [delimiter]

/-! ## The window of a split -/

/-- What does not break off goes on. -/
theorem ok_bind {α β : Type} (a : α) (f : α → Except Fault β) : (Except.ok a >>= f) = f a := rfl

theorem window_whole (t : Text) : (whole t).window = Window.whole t := by
  simp [whole, window, Window.whole]

@[simp] theorem value_window : s.window.value = .ok s.value := Text.slice_append _ _ _

/-- Moving the start over a first part of what is shown. -/
theorem window_skip (c a b r : Text) :
    { window ⟨c, a ++ b, r⟩ with start := Text.byteLength c + Text.byteLength a } = window ⟨c ++ a, b, r⟩ := by
  simp [window, Nat.add_assoc]

/-- Moving the end behind a first part of what is shown. -/
theorem window_keep (c a b r : Text) :
    { window ⟨c, a ++ b, r⟩ with stop := Text.byteLength c + Text.byteLength a } = window ⟨c, a, b ++ r⟩ := by
  simp [window]

theorem window_pastLiteral (literal : Text) : s.window.pastLiteral literal = .ok (s.pastLiteral literal).window := by
  have hfound := Text.indexOfLiteral?_eq literal s.value
  unfold Window.pastLiteral pastLiteral
  rw [value_window, ok_bind]
  rcases hcut : Text.cutBehind? literal s.value with _ | ⟨a, b⟩
  · rw [hcut, Option.map_none, Option.map_eq_none_iff] at hfound
    rw [hfound]
    rfl
  · rw [hcut, Option.map_some] at hfound
    obtain ⟨i, hi, hlen⟩ := Option.map_eq_some_iff.mp hfound
    have happ := Text.append_of_cutBehind? hcut
    obtain ⟨c, v, r⟩ := s
    subst happ
    simp only [hi]
    rw [← window_skip, ← hlen, ← Nat.add_assoc]
    rfl

theorem pastFirst_eq_pastLiteral (w : Window) (delimiter : Char) :
    w.pastFirst delimiter = w.pastLiteral [delimiter] := by
  unfold Window.pastFirst Window.pastLiteral
  simp only [Text.indexOf?_eq_indexOfLiteral?]
  rfl

theorem window_pastFirst (delimiter : Char) :
    s.window.pastFirst delimiter = .ok (s.pastFirst delimiter).window := by
  rw [pastFirst_eq_pastLiteral, window_pastLiteral, pastFirst]

theorem window_upToAny (delimiters : List Char) :
    s.window.upToAny delimiters = .ok (s.upToAny delimiters).window := by
  obtain ⟨c, v, r⟩ := s
  unfold Window.upToAny upToAny
  rw [value_window, ok_bind]
  rcases hfound : Text.indexOf? delimiters.contains v with _ | i
  · obtain ⟨htake, hdrop⟩ := Text.cut_of_indexOf?_eq_none hfound
    rw [htake, hdrop, List.nil_append]
    rfl
  · have hkeep := window_keep c (v.takeWhile (!delimiters.contains ·)) (v.dropWhile (!delimiters.contains ·)) r
    rw [List.takeWhile_append_dropWhile, ← Text.cut_of_indexOf?_eq_some hfound] at hkeep
    exact congrArg Except.ok hkeep

theorem window_pastLastAny (delimiters : List Char) :
    s.window.pastLastAny delimiters = .ok (s.pastLastAny delimiters).window := by
  obtain ⟨c, v, r⟩ := s
  unfold Window.pastLastAny pastLastAny
  rw [value_window, ok_bind]
  rcases hfound : Text.lastIndexOf? delimiters.contains v with _ | i
  · obtain ⟨htake, hdrop⟩ := Text.cut_of_lastIndexOf?_eq_none hfound
    rw [htake, hdrop, List.append_nil]
    rfl
  · obtain ⟨a, d, hdrop, hv, -, rfl⟩ := Text.cut_of_lastIndexOf?_eq_some hfound
    -- What is cut out once more starts with the character that was found.
    have hbehind : Text.slice v (Text.byteLength a) (Text.byteLength v) =
        .ok (d :: v.rtakeWhile (!delimiters.contains ·)) := by
      conv_lhs => rw [hv]
      exact Text.slice_behind _ _
    have hskip := window_skip c (a ++ [d]) (v.rtakeWhile (!delimiters.contains ·)) r
    rw [← List.append_cons, ← hv] at hskip
    simp only [hbehind, ok_bind]
    rw [hdrop, ← hskip, Text.byteLength_append, ← Nat.add_assoc]
    rfl

theorem headBefore_eq (barrier : Char) (v : Text) :
    Window.headBefore barrier v = .ok (v.takeWhile (· != barrier)) := by
  unfold Window.headBefore
  rcases hfound : Text.indexOf? (· == barrier) v with _ | i
  · exact congrArg Except.ok (Text.cut_of_indexOf?_eq_none hfound).1.symm
  · have hslice := Text.slice_front (v.takeWhile (· != barrier)) (v.dropWhile (· != barrier))
    rw [List.takeWhile_append_dropWhile] at hslice
    obtain rfl := Text.cut_of_indexOf?_eq_some hfound
    exact hslice

theorem window_pastLastBefore (delimiter barrier : Char) :
    s.window.pastLastBefore delimiter barrier = .ok (s.pastLastBefore delimiter barrier).window := by
  obtain ⟨c, v, r⟩ := s
  have hv : v.takeWhile (· != barrier) ++ v.dropWhile (· != barrier) = v := List.takeWhile_append_dropWhile
  unfold Window.pastLastBefore pastLastBefore
  rw [value_window, ok_bind, headBefore_eq, ok_bind]
  generalize v.takeWhile (· != barrier) = head at hv
  generalize v.dropWhile (· != barrier) = tail at hv
  subst hv
  rcases hfound : Text.lastIndexOf? (· == delimiter) head with _ | i
  · obtain ⟨htake, hdrop⟩ := Text.cut_of_lastIndexOf?_eq_none hfound
    show _ = Except.ok (window ⟨c ++ head.rdropWhile (!· == delimiter), head.rtakeWhile (!· == delimiter) ++ tail, r⟩)
    rw [htake, hdrop, List.append_nil]
    rfl
  · obtain ⟨a, d, hdrop, hhead, hd, rfl⟩ := Text.cut_of_lastIndexOf?_eq_some hfound
    obtain rfl : d = delimiter := by simpa using hd
    have hskip := window_skip c (a ++ [d]) (head.rtakeWhile (!· == d) ++ tail) r
    rw [← List.append_assoc, ← List.append_cons, ← hhead] at hskip
    show _ = Except.ok (window ⟨c ++ head.rdropWhile (!· == d), head.rtakeWhile (!· == d) ++ tail, r⟩)
    rw [hdrop, ← hskip, Text.byteLength_append, ← Nat.add_assoc]
    rfl

theorem window_onward : s.window.onward = s.onward.window := by
  simp [Window.onward, onward, window, Nat.add_assoc]

end Split

end ConnectString
