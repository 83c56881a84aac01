/-
  ConnectString.Failure — why a connect string could not be resolved.
-/

import ConnectString.Text

namespace ConnectString

inductive Failure where
  /-- No url was given at all. -/
  | missingInput
  | emptyInput
  /-- The url does not start with the scheme that is expected of it. -/
  | schemeMismatch (expected : String)
  /-- The parentheses of a descriptor do not match, or it ends too early: the byte offset and what is wrong there. -/
  | unbalanced (position : Nat) (detail : String)
  | nestingTooDeep (limit : Nat)
  /-- The key of a descriptor's root is neither DESCRIPTION nor DESCRIPTION_LIST. -/
  | unknownShape (key : Text)
  | missingDatabaseId
  /-- The delimiters of a flat url are not where they have to be. -/
  | ambiguousFlat (detail : String)
  /-- Resolution broke off inside. -/
  | panicked (detail : String)
  deriving DecidableEq, Repr

namespace Failure

def message : Failure → String
  | missingInput => "jdbc url must not be null"
  | emptyInput => "jdbc url must not be empty"
  | schemeMismatch expected => s!"jdbc url has invalid prefix (expected `{expected}`)"
  | unbalanced position detail => s!"unbalanced descriptor at offset {position}: {detail}"
  | nestingTooDeep limit => s!"descriptor nesting exceeds {limit} levels"
  | unknownShape key => s!"unknown top-level descriptor key `{String.ofList key}`"
  | missingDatabaseId => "descriptor has no SERVICE_NAME or SID"
  | ambiguousFlat detail => s!"flat url could not be split into host, port and database: {detail}"
  | panicked detail => s!"resolver panicked: {detail}"

/-- Whether the url was given up before its scheme was recognised: it then belongs to some other database. -/
def isForeign : Failure → Bool
  | missingInput | emptyInput | schemeMismatch _ => true
  | _ => false

end Failure

end ConnectString
