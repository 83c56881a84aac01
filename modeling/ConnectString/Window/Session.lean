/-
  ConnectString.Window.Session — moves of a window, one after the other, with a copy to go back to.

  A session keeps one copy of its window beside the window that it moves. At first both are the same.
-/

import ConnectString.Window

namespace ConnectString.Window

inductive Move where
  | pastFirst (delimiter : Char)
  | pastLiteral (literal : Text)
  | upToAny (delimiters : List Char)
  | pastLastAny (delimiters : List Char)
  | pastLastBefore (delimiter barrier : Char)
  | onward
  deriving DecidableEq, Repr

def move (w : Window) : Move → Except Fault Window
  | .pastFirst delimiter => w.pastFirst delimiter
  | .pastLiteral literal => w.pastLiteral literal
  | .upToAny delimiters => w.upToAny delimiters
  | .pastLastAny delimiters => w.pastLastAny delimiters
  | .pastLastBefore delimiter barrier => w.pastLastBefore delimiter barrier
  | .onward => .ok w.onward

inductive Step where
  | move (m : Move)
  /-- Keep a copy of the window as it is, instead of the one that was kept. -/
  | save
  /-- Go on from the copy. -/
  | restore
  deriving DecidableEq, Repr

/-- What is moved, and the copy of it that is kept. -/
structure Session (α : Type) where
  current : α
  kept : α
  deriving DecidableEq, Repr

namespace Session

variable {α : Type}

def start (a : α) : Session α := ⟨a, a⟩

/-- Take a step, where `act` says what a move does. -/
def step (act : α → Move → Except Fault α) (s : Session α) : Step → Except Fault (Session α)
  | .move m => do return { s with current := ← act s.current m }
  | .save => return { s with kept := s.current }
  | .restore => return { s with current := s.kept }

def run (act : α → Move → Except Fault α) (s : Session α) (steps : List Step) : Except Fault (Session α) :=
  steps.foldlM (step act) s

end Session

end ConnectString.Window
