/-
  ConnectString.Command.Batch — resolving a list of urls at a time.

  The urls are the ones given as arguments and after them the ones in a list file. Each is resolved by itself. A
  batch fails if it has no urls; under a strict rule it also fails if one of them is not resolved. What is written
  does not depend on the rule.
-/

import ConnectString.Command.Console
import ConnectString.Resolve

namespace ConnectString.Command

/-- Whether a line of a list file, blanks at its ends removed, holds a url. -/
def isUrlLine (t : Text) : Bool :=
  match t with
  | [] => false
  | c :: _ => c != '#'

/-- The urls of a list file: a line each; empty lines and lines that start with a number sign hold none. -/
def urlsOfFile (t : Text) : List Text := ((t.splitOn '\n').map Text.trim).filter isUrlLine

def collectUrls (args : List Text) (file : Option Text) : List Text := args ++ (file.map urlsOfFile).getD []

namespace Batch

def resolveAll (limit : Nat) : List Text → Logged (List Outcome)
  | [] => return []
  | url :: urls => do
    let o ← resolve limit (some url)
    let os ← resolveAll limit urls
    return o :: os

def countResolved (os : List Outcome) : Nat := (os.filter (·.isComplete)).length

def countUnresolved (os : List Outcome) : Nat := (os.filter fun o => !o.isComplete).length

def json (os : List Outcome) : String := (Json.array (os.map Outcome.toJson)).pretty ++ "\n"

def report (os : List Outcome) : String :=
  Console.title "Resolve" ++ String.join (os.map Console.outcome) ++
    Console.totals (countResolved os) (os.length - countResolved os)

end Batch

end ConnectString.Command
