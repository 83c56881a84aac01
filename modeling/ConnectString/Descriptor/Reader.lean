/-
  ConnectString.Descriptor.Reader — reading a descriptor tree off a text.

    node  := '(' key '=' (text | node+) ')'
    key   := anything but '(', ')' and '='
    text  := anything up to the matching ')'

  ASCII blanks around nodes and before a value are skipped; keys and texts are trimmed of all blanks.

  The reader takes one character at a time. Its `State` holds the nodes that are open, the outermost last, and what
  it stands in; `step` says what one character does to it and `finish` what the end of the text means. Both see the
  byte offset they stand at, which is where an error is reported. So an error hangs on nothing after the character
  that brings it out. No more than `limit` parentheses are ever open at a time.
-/

import ConnectString.Descriptor.Tree
import ConnectString.Failure
import ConnectString.Journal
import ConnectString.Text.Blank

namespace ConnectString.Descriptor

/-- The nesting that is read unless another limit is asked for. -/
def defaultDepth : Nat := 64

/-- No limit that is asked for goes beyond this one. -/
def depthCeiling : Nat := 256

def effectiveLimit (limit : Nat) : Nat := min limit depthCeiling

structure Frame where
  key : Text
  /-- The children read so far, the last one first. -/
  children : List Tree
  deriving Repr

/-- Where the reader stands. Characters that belong to a key or a text are kept with the last one first. -/
inductive State where
  /-- Before the root. -/
  | before
  /-- In a key, which began at byte offset `start`. -/
  | key (outer : List Frame) (start : Nat) (read : Text)
  /-- Behind the equals sign, with nothing but ASCII blanks since. -/
  | value (outer : List Frame) (key : Text)
  /-- In a text, with `nested` parentheses of its own open. -/
  | text (outer : List Frame) (key : Text) (read : Text) (nested : Nat)
  /-- In the branch `inner`, behind one of its children. -/
  | between (outer : List Frame) (inner : Frame)
  /-- Behind the root. -/
  | done (root : Tree)
  deriving Repr

namespace State

/-- A leaf with the text that was read, or a branch without children where only blanks were. -/
def leafOrEmpty (key : Text) (read : Text) : Tree :=
  match Text.trim read.reverse with
  | [] => .branch key []
  | s => .leaf key s

/-- Close a node: it becomes a child of the branch around it, or the root. -/
def close : List Frame → Tree → State
  | [], t => .done t
  | f :: outer, t => .between outer { f with children := t :: f.children }

def openNode (limit position : Nat) (outer : List Frame) : Except Failure State :=
  if limit < outer.length + 1 then .error (.nestingTooDeep limit) else .ok (.key outer (position + 1) [])

def stepText (limit : Nat) (outer : List Frame) (key read : Text) (nested : Nat) (c : Char) : Except Failure State :=
  if c = '(' then
    if limit < outer.length + 1 + (nested + 1) then .error (.nestingTooDeep limit)
    else .ok (.text outer key (c :: read) (nested + 1))
  else if c = ')' then
    match nested with
    | 0 => .ok (close outer (leafOrEmpty key read))
    | n + 1 => .ok (.text outer key (c :: read) n)
  else .ok (.text outer key (c :: read) nested)

def step (limit position : Nat) (c : Char) : State → Except Failure State
  | before =>
    if isAsciiBlank c then .ok before
    else if c = '(' then openNode limit position []
    else .error (.unbalanced position "expected '('")
  | key outer start read =>
    if c = '=' then
      match Text.trim read.reverse with
      | [] => .error (.unbalanced start "empty key")
      | k => .ok (value outer k)
    else if c = '(' ∨ c = ')' then .error (.unbalanced position "expected '=' after key")
    else .ok (key outer start (c :: read))
  | value outer k =>
    if isAsciiBlank c then .ok (value outer k)
    else if c = '(' then openNode limit position (⟨k, []⟩ :: outer)
    else stepText limit outer k [] 0 c
  | text outer k read nested => stepText limit outer k read nested c
  | between outer inner =>
    if isAsciiBlank c then .ok (between outer inner)
    else if c = '(' then openNode limit position (inner :: outer)
    else if c = ')' then .ok (close outer (.branch inner.key inner.children.reverse))
    else .error (.unbalanced position "expected '(' or ')' between child nodes")
  | done root =>
    if isAsciiBlank c then .ok (done root)
    else .error (.unbalanced position "unexpected text after the closing ')'")

def finish (position : Nat) : State → Except Failure Tree
  | before => .error (.unbalanced position "unexpected end of input, expected '('")
  | key _ _ _ => .error (.unbalanced position "unexpected end of input, expected '='")
  | value _ _ | text _ _ _ _ | between _ _ =>
    .error (.unbalanced position "unexpected end of input, expected ')'")
  | done root => .ok root

def run (limit position : Nat) : State → Text → Except Failure Tree
  | s, [] => s.finish position
  | s, c :: rest =>
    match s.step limit position c with
    | .ok s' => run limit (position + c.utf8Size) s' rest
    | .error e => .error e

end State

def parse (limit : Nat) (t : Text) : Except Failure Tree :=
  if effectiveLimit limit = 0 then .error (.nestingTooDeep 0) else State.run (effectiveLimit limit) 0 .before t

def readEvent (root : Tree) : Event where
  level := .trace
  target := "tnsurl_core::descriptor::parser"
  message := "descriptor parsed"
  fields := [("key", .text root.key)]

def report (r : Except Failure Tree) : Logged (Except Failure Tree) :=
  match r with
  | .ok root => do
    Logged.emit (readEvent root)
    return .ok root
  | .error e => return .error e

@[simp] theorem value_report (r : Except Failure Tree) : (report r).value = r := by
  cases r <;> rfl

def read (limit : Nat) (t : Text) : Logged (Except Failure Tree) := report (parse limit t)

/-- A way to read descriptors under a limit, which may break off. -/
abbrev Reader := Nat → Text → Except Fault (Except Failure Tree)

def reader : Reader := fun limit t => .ok (parse limit t)

/-! ## The limit -/

theorem effectiveLimit_eq (limit : Nat) : effectiveLimit limit = min limit 256 := rfl

@[simp] theorem effectiveLimit_effectiveLimit (limit : Nat) :
    effectiveLimit (effectiveLimit limit) = effectiveLimit limit := by
  simp only [effectiveLimit, Nat.min_assoc, Nat.min_self]

/-- Whoever asks for a limit may cut it at the ceiling first. -/
theorem parse_effectiveLimit (limit : Nat) (t : Text) : parse (effectiveLimit limit) t = parse limit t := by
  simp only [parse, effectiveLimit_effectiveLimit]

end ConnectString.Descriptor
