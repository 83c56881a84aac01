/-
  ConnectString.Toml.Standard — the codec that the program runs with.
-/

import ConnectString.Toml.Codec
import ConnectString.Toml.Document

namespace ConnectString.Toml

def standard : Codec where
  read := parse?
  write d := if d.fits then some d.text else none

end ConnectString.Toml
