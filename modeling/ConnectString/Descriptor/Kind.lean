/-
  ConnectString.Descriptor.Kind — the keys of a descriptor that carry meaning.

  A key is recognised whatever the case of its ASCII letters. `Kind.ofKey` and `Kind.literal?` invert each other on
  the nine recognised kinds (`ofKey_literal`).
-/

import ConnectString.Text

namespace ConnectString.Descriptor

inductive Kind where
  /-- Several alternative network paths. -/
  | descriptionList
  /-- One network path. -/
  | description
  | addressList
  /-- One host and port. -/
  | address
  | host
  | port
  /-- The part that names the logical database. -/
  | connectData
  | serviceName
  | sid
  /-- A key without a meaning of its own. -/
  | other
  deriving DecidableEq, Repr

namespace Kind

def table : List (String × Kind) :=
  [("DESCRIPTION_LIST", descriptionList), ("DESCRIPTION", description), ("ADDRESS_LIST", addressList),
    ("ADDRESS", address), ("HOST", host), ("PORT", port), ("CONNECT_DATA", connectData),
    ("SERVICE_NAME", serviceName), ("SID", sid)]

/-- The kind of a key, whatever the case of its ASCII letters. -/
def ofKey (key : Text) : Kind :=
  ((table.find? fun entry => entry.1.toList == key.map Char.toUpper).map Prod.snd).getD other

def literal? (k : Kind) : Option String := (table.find? fun entry => entry.2 == k).map Prod.fst

def all : List Kind := table.map Prod.snd ++ [other]

/-- The canonical spelling of a kind is a key of that kind. -/
theorem ofKey_literal (k : Kind) (s : String) (h : k.literal? = some s) : ofKey s.toList = k := by
  cases k <;> simp only [literal?, table] at h <;> revert h <;> simp <;> rintro rfl <;> decide

end Kind

end ConnectString.Descriptor
