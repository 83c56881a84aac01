/-
  ConnectString.Window — a window over a text, for picking fields out of flat connect strings.

  The window runs from one byte offset to another. Each operation looks for a delimiter inside the window and moves
  one end of it; an operation that finds nothing leaves the window as it is, so that a chain of operations over a
  malformed text yields short or empty fields instead of failing.

  What an operation looks at is cut out of the text first. Offsets that the text cannot be cut at break it off.
-/

import ConnectString.Text

namespace ConnectString

/-- The part of `text` from byte offset `start` up to byte offset `stop`. -/
structure Window where
  text : Text
  start : Nat
  stop : Nat
  deriving DecidableEq, Repr

namespace Window

def whole (text : Text) : Window := ⟨text, 0, Text.byteLength text⟩

def value (w : Window) : Except Fault Text := Text.slice w.text w.start w.stop

/-- Start the window after its first `delimiter`. -/
def pastFirst (w : Window) (delimiter : Char) : Except Fault Window := do
  match Text.indexOf? (· == delimiter) (← w.value) with
  | some i => return { w with start := w.start + i + delimiter.utf8Size }
  | none => return w

def pastLiteral (w : Window) (literal : Text) : Except Fault Window := do
  match Text.indexOfLiteral? literal (← w.value) with
  | some i => return { w with start := w.start + i + Text.byteLength literal }
  | none => return w

/-- End the window before its first character out of `delimiters`. -/
def upToAny (w : Window) (delimiters : List Char) : Except Fault Window := do
  match Text.indexOf? delimiters.contains (← w.value) with
  | some i => return { w with stop := w.start + i }
  | none => return w

/-- Start the window after its last character out of `delimiters`. The width of that character is read off what the
    window shows from there on. -/
def pastLastAny (w : Window) (delimiters : List Char) : Except Fault Window := do
  let v ← w.value
  match Text.lastIndexOf? delimiters.contains v with
  | some i => do
    let behind ← Text.slice v i (Text.byteLength v)
    return { w with start := w.start + i + (behind.head?.map Char.utf8Size).getD 1 }
  | none => return w

def headBefore (barrier : Char) (v : Text) : Except Fault Text :=
  match Text.indexOf? (· == barrier) v with
  | some i => Text.slice v 0 i
  | none => .ok v

/-- Start the window after the last `delimiter` that comes before the first `barrier`, or after the last `delimiter`
    of all where there is no `barrier`. -/
def pastLastBefore (w : Window) (delimiter barrier : Char) : Except Fault Window := do
  match Text.lastIndexOf? (· == delimiter) (← headBefore barrier (← w.value)) with
  | some i => return { w with start := w.start + i + delimiter.utf8Size }
  | none => return w

def onward (w : Window) : Window := { w with start := w.stop, stop := Text.byteLength w.text }

end Window

end ConnectString
