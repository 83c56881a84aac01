/-
  ConnectString.Outcome — what resolving a connect string comes to.

  An outcome is either resolved, with endpoints and a database id, or unresolved, with the failure. So it is complete
  exactly when it carries no failure, and an unresolved one has neither endpoints nor an id to show.
-/

import ConnectString.Descriptor.Description
import ConnectString.Json

namespace ConnectString

structure ServiceType where
  code : Nat
  name : String
  deriving DecidableEq, Repr

namespace ServiceType

def tibero : ServiceType := ⟨2420, "TIBERO"⟩

def tiberoQuery : ServiceType := ⟨2421, "TIBERO_EXECUTE_QUERY"⟩

def unknown : ServiceType := ⟨2050, "UNKNOWN_DB"⟩

def unknownQuery : ServiceType := ⟨2051, "UNKNOWN_DB_EXECUTE_QUERY"⟩

def render (s : ServiceType) : String := s!"{s.name}({s.code})"

end ServiceType

inductive Outcome where
  | resolved (source : Text) (endpoints : List Endpoint) (databaseId : Text)
  | unresolved (source : Text) (failure : Failure)
  deriving DecidableEq, Repr

namespace Outcome

/-- The input as it was given; empty where there was none. -/
def source : Outcome → Text
  | resolved s _ _ => s
  | unresolved s _ => s

def endpoints : Outcome → List Endpoint
  | resolved _ es _ => es
  | unresolved _ _ => []

def databaseId : Outcome → Text
  | resolved _ _ i => i
  | unresolved _ _ => []

def isComplete : Outcome → Bool
  | resolved _ _ _ => true
  | unresolved _ _ => false

def failure? : Outcome → Option Failure
  | resolved _ _ _ => none
  | unresolved _ f => some f

/-- A url that was given up before its scheme was recognised belongs to an unknown database. -/
def serviceType : Outcome → ServiceType
  | resolved _ _ _ => .tibero
  | unresolved _ f => if f.isForeign then .unknown else .tibero

def queryType (o : Outcome) : ServiceType := if o.serviceType = .tibero then .tiberoQuery else .unknownQuery

def hosts (o : Outcome) : List Text := o.endpoints.map Endpoint.render

def multipleHosts (o : Outcome) : Text := List.intercalate [','] o.hosts

def toJson (o : Outcome) : Json :=
  .object [
    ("source_text", .string (String.ofList o.source)),
    ("endpoints", .array (o.endpoints.map fun e =>
      .object [("host", .string (String.ofList e.host)), ("port", .string (String.ofList e.port))])),
    ("database_id", .string (String.ofList o.databaseId)),
    ("complete", .boolean o.isComplete),
    ("service_type", .object [("code", .number o.serviceType.code), ("name", .string o.serviceType.name)]),
    ("error", (o.failure?.map fun f => Json.string f.message).getD .null)]

end Outcome

end ConnectString
