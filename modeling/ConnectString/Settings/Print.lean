/-
  ConnectString.Settings.Print — settings as a TOML text.
-/

import ConnectString.Settings
import ConnectString.Toml.Codec

namespace ConnectString.Settings

def document (s : Settings) : Toml.Document :=
  [{ path := ["jdbc".toList, "tibero".toList]
     rows :=
      [("enable".toList, .boolean s.plugin.enable),
        ("trace_sql_bind_value".toList, .boolean s.plugin.traceSqlBindValue),
        ("max_sql_bind_value_size".toList, .integer s.plugin.maxSqlBindValueSize),
        ("profile_set_auto_commit".toList, .boolean s.plugin.profileSetAutoCommit),
        ("profile_commit".toList, .boolean s.plugin.profileCommit),
        ("profile_rollback".toList, .boolean s.plugin.profileRollback),
        ("profile_disallow_3_methods".toList, .boolean s.plugin.profileDisallow3Methods)] },
    { path := ["resolver".toList], rows := [("max_depth".toList, .integer s.maxDepth)] }]

def print? (codec : Toml.Codec) (s : Settings) : Option Text := codec.write s.document

end ConnectString.Settings
