/-
  ConnectString.Descriptor.Description — what a descriptor tree describes: endpoints and a database id.

  A description takes every address that can be seen from its root, in order, as an endpoint, and the first id that
  a visible CONNECT_DATA names. Addresses, connect data and nested descriptions hide what is below them; any other
  node is transparent. A DESCRIPTION_LIST holds one description for each DESCRIPTION among its children.
-/

import ConnectString.Descriptor.Tree
import ConnectString.Failure
import ConnectString.Journal

namespace ConnectString

structure Endpoint where
  host : Text
  port : Text
  deriving DecidableEq, Repr

def Endpoint.render (e : Endpoint) : Text := e.host ++ ':' :: e.port

namespace Descriptor

structure Description where
  endpoints : List Endpoint
  databaseId : Option Text
  deriving DecidableEq, Repr

/-- The endpoint of an address; a part that the address does not name is empty. -/
def Tree.endpoint (address : Tree) : Endpoint :=
  ⟨(address.childText? .host).getD [], (address.childText? .port).getD []⟩

/-- The id that connect data name: a service name before a SID. -/
def Tree.databaseId? (connectData : Tree) : Option Text :=
  (connectData.childText? .serviceName).or (connectData.childText? .sid)

namespace Description

def empty : Description := ⟨[], none⟩

mutual

def visit (d : Description) : Tree → Description
  | .leaf k s =>
    match Kind.ofKey k with
    | .address => { d with endpoints := d.endpoints ++ [(Tree.leaf k s).endpoint] }
    | .connectData => { d with databaseId := d.databaseId.or (Tree.leaf k s).databaseId? }
    | _ => d
  | .branch k cs =>
    match Kind.ofKey k with
    | .address => { d with endpoints := d.endpoints ++ [(Tree.branch k cs).endpoint] }
    | .connectData => { d with databaseId := d.databaseId.or (Tree.branch k cs).databaseId? }
    | .description | .descriptionList => d
    | _ => visitAll d cs

def visitAll (d : Description) : List Tree → Description
  | [] => d
  | t :: ts => visitAll (visit d t) ts

end

def ofTree (t : Tree) : Description := visitAll empty t.children

def event (d : Description) : Event where
  level := .trace
  target := "tnsurl_core::descriptor::spec"
  message := "description extracted"
  fields := [("endpoints", .number d.endpoints.length), ("database_id", .optional d.databaseId)]

def extract (t : Tree) : Logged Description := do
  Logged.emit (ofTree t).event
  return ofTree t

end Description

structure DescriptionList where
  descriptions : List Description
  deriving DecidableEq, Repr

namespace DescriptionList

/-- One description for each DESCRIPTION among the children of a node. -/
def ofTree (t : Tree) : DescriptionList :=
  ⟨(t.children.filter fun c => c.kind == .description).map Description.ofTree⟩

def endpoints (l : DescriptionList) : List Endpoint := l.descriptions.flatMap (·.endpoints)

def databaseId (l : DescriptionList) : Option Text := l.descriptions.findSome? (·.databaseId)

def extract (t : Tree) : Logged DescriptionList := do
  Logged.emitAll ((ofTree t).descriptions.map Description.event)
  return ofTree t

end DescriptionList

inductive Spec where
  | one (d : Description)
  | list (l : DescriptionList)
  deriving DecidableEq, Repr

namespace Spec

def endpoints : Spec → List Endpoint
  | one d => d.endpoints
  | list l => l.endpoints

def databaseId : Spec → Option Text
  | one d => d.databaseId
  | list l => l.databaseId

/-- Whether enough is known to connect. One description needs an id; for a list an endpoint will do. -/
def isComplete : Spec → Bool
  | one d => d.databaseId.isSome
  | list l => l.databaseId.isSome || !l.endpoints.isEmpty

def classify (root : Tree) : Logged (Except Failure Spec) :=
  match root.kind with
  | .description => do return .ok (.one (← Description.extract root))
  | .descriptionList => do return .ok (.list (← DescriptionList.extract root))
  | _ => return .error (.unknownShape root.key)

end Spec

end Descriptor

end ConnectString
