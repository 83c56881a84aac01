/-
  ConnectString.Settings — the settings of the Tibero plug-in and the depth to which descriptors are read.
-/

import ConnectString.Descriptor.Reader
import ConnectString.Json

namespace ConnectString

structure PluginSettings where
  /-- Whether the plug-in takes part at all. -/
  enable : Bool
  /-- Whether the bind values of traced statements are recorded. -/
  traceSqlBindValue : Bool
  /-- The longest bind value that is recorded, in bytes. -/
  maxSqlBindValueSize : Nat
  profileSetAutoCommit : Bool
  profileCommit : Bool
  profileRollback : Bool
  /-- Whether the three methods above are left out of profiles. -/
  profileDisallow3Methods : Bool
  deriving DecidableEq, Repr

structure Settings where
  plugin : PluginSettings
  /-- The deepest nesting of descriptors that is read. -/
  maxDepth : Nat
  deriving DecidableEq, Repr

def PluginSettings.default : PluginSettings := ⟨false, false, 1024, false, false, false, false⟩

namespace PluginSettings

/-- The names and values of the settings in words, in the order of their declaration. -/
def fields (p : PluginSettings) : List (String × String) :=
  [("enable", toString p.enable), ("trace_sql_bind_value", toString p.traceSqlBindValue),
    ("max_sql_bind_value_size", toString p.maxSqlBindValueSize),
    ("profile_set_auto_commit", toString p.profileSetAutoCommit), ("profile_commit", toString p.profileCommit),
    ("profile_rollback", toString p.profileRollback),
    ("profile_disallow_3_methods", toString p.profileDisallow3Methods)]

def render (p : PluginSettings) : String :=
  "TiberoConfig [" ++ ", ".intercalate (p.fields.map fun (name, v) => name ++ "=" ++ v) ++ "]"

def toJson (p : PluginSettings) : Json :=
  .object [("enable", .boolean p.enable), ("trace_sql_bind_value", .boolean p.traceSqlBindValue),
    ("max_sql_bind_value_size", .number p.maxSqlBindValueSize),
    ("profile_set_auto_commit", .boolean p.profileSetAutoCommit), ("profile_commit", .boolean p.profileCommit),
    ("profile_rollback", .boolean p.profileRollback),
    ("profile_disallow_3_methods", .boolean p.profileDisallow3Methods)]

end PluginSettings

namespace Settings

def default : Settings := ⟨.default, Descriptor.defaultDepth⟩

/-- What is wrong with a depth, if it goes beyond the ceiling. -/
def depthFault? (depth : Nat) : Option String :=
  if Descriptor.depthCeiling < depth then
    some s!"max_depth {depth} exceeds the limit of {Descriptor.depthCeiling}"
  else none

def toJson (s : Settings) : Json :=
  .object [("jdbc", .object [("tibero", s.plugin.toJson)]), ("resolver", .object [("max_depth", .number s.maxDepth)])]

end Settings

end ConnectString
