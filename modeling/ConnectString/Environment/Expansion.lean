/-
  ConnectString.Environment.Expansion — references to environment variables inside a text.

    ${NAME}            the variable's value, which must be set and not empty
    ${NAME:-text}      the value, or `text` where it is not set or empty
    ${NAME:?text}      the value, or the failure `text`
    $NAME              the value, which must be set

  A dollar sign before anything else stands for itself. `Piece.split` cuts a text into pieces without a look at the
  environment, and `expand` joins the pieces' values; so a value that is put in is never read for references again.
-/

import ConnectString.Environment
import ConnectString.Text.Word

namespace ConnectString

namespace Expansion

inductive Failure where
  | notFound (name : Text)
  | invalid (name message : Text)
  deriving DecidableEq, Repr

structure Modifier where
  sign : Char
  text : Text
  deriving DecidableEq, Repr

inductive Piece where
  | literal (c : Char)
  /-- A reference in braces. -/
  | braced (name : Text) (modifier : Option Modifier)
  /-- A reference by a bare name. -/
  | bare (name : Text)
  deriving DecidableEq, Repr

namespace Piece

/-- The reference that stands between braces: a name up to the first colon, then a sign, then a text. -/
def ofBraces (inside : Text) : Piece :=
  match inside.dropWhile (· != ':') with
  | _ :: sign :: text => .braced (inside.takeWhile (· != ':')) (some ⟨sign, text⟩)
  | _ => .braced (inside.takeWhile (· != ':')) none

end Piece

theorem length_dropWhile_le (p : Char → Bool) (t : Text) : (t.dropWhile p).length ≤ t.length :=
  (List.dropWhile_sublist p).length_le

/-- Cut a text into pieces. A reference in braces ends with the first closing brace, or with the text. -/
def split : Text → List Piece
  | [] => []
  | '$' :: '\x7b' :: t =>
    Piece.ofBraces (t.takeWhile (· != '\x7d')) :: split ((t.dropWhile (· != '\x7d')).drop 1)
  | '$' :: c :: t =>
    if isNameStart c then .bare (c :: t.takeWhile isNamePart) :: split (t.dropWhile isNamePart)
    else .literal '$' :: split (c :: t)
  | c :: t => .literal c :: split t
termination_by t => t.length
decreasing_by
  · have := length_dropWhile_le (· != '\x7d') t
    simp only [List.length_cons, List.length_drop]; omega
  · have := length_dropWhile_le isNamePart t
    simp only [List.length_cons]; omega
  · simp
  · simp

namespace Piece

def nonEmpty? (env : Environment) (name : Text) : Option Text := (env.get? name).filter fun v => !v.isEmpty

def value (env : Environment) : Piece → Except Failure Text
  | literal c => .ok [c]
  | bare name =>
    match env.get? name with
    | some v => .ok v
    | none => .error (.notFound name)
  | braced name modifier =>
    if name.isEmpty then .error (.invalid [] "empty variable name".toList)
    else
      match nonEmpty? env name, modifier with
      | some v, _ => .ok v
      | none, some ⟨'-', text⟩ => .ok text
      | none, some ⟨'?', text⟩ =>
        .error (.invalid name
          (if text.isEmpty then s!"required variable '{String.ofList name}' is not set".toList else text))
      | none, _ => .error (.notFound name)

def name? : Piece → Option Text
  | literal _ => none
  | bare name => some name
  | braced name _ => some name

end Piece

/-- The values of pieces, joined; the first piece that has none decides the failure. -/
def join (env : Environment) : List Piece → Except Failure Text
  | [] => .ok []
  | p :: ps =>
    match p.value env with
    | .error e => .error e
    | .ok v =>
      match join env ps with
      | .error e => .error e
      | .ok rest => .ok (v ++ rest)

def names (t : Text) : List Text := (split t).filterMap Piece.name?

end Expansion

def expand (env : Environment) (t : Text) : Except Expansion.Failure Text :=
  Expansion.join env (Expansion.split t)

end ConnectString
