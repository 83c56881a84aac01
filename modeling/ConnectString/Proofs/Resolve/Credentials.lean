/-
  ConnectString.Proofs.Resolve.Credentials — driver and credentials leave no trace in what a url resolves to.

  Two urls that differ only before the '@' that ends their credentials have one address (`address_credentials`), and
  whatever is read off them is the same. So they resolve to the same endpoints and id or fail alike, and the events
  of the two runs tell them apart only where they show the url itself (`resolve_credentials`).
-/

import ConnectString.Proofs.Resolve.Address

namespace ConnectString

def Event.without (e : Event) (name : String) : Event :=
  { e with fields := e.fields.map fun (n, v) => (n, if n = name then .optional none else v) }

namespace Resolve

/-- Two runs that only the url they were given can tell apart: as their source, as `url_len` in their first event, and
    as `url` in the last event of a failure. -/
structure SameButUrl (a b : Logged Outcome) : Prop where
  complete : a.value.isComplete = b.value.isComplete
  endpoints : a.value.endpoints = b.value.endpoints
  databaseId : a.value.databaseId = b.value.databaseId
  serviceType : a.value.serviceType = b.value.serviceType
  failure : a.value.failure? = b.value.failure?
  events : ∃ first first' middle last last',
    a.events = first :: middle ++ [last] ∧ b.events = first' :: middle ++ [last'] ∧
      first.level = .debug ∧ first.without "url_len" = first'.without "url_len" ∧
      (last = last' ∨ last.level = .info ∧ last.without "url" = last'.without "url")

/-! ## The address -/

/-- The address hangs on the rest alone: no '(' stands before the '@' that ends the credentials, so what is left behind
    goes up to that '@' or to a later one. -/
theorem address_credentials {driver credentials : Text} (hdriver : ':' ∉ driver) (hcredentials : '(' ∉ credentials)
    (rest : Text) :
    address (driver ++ ':' :: (credentials ++ '@' :: rest)) =
      (rest.takeWhile (· != '(')).rtakeWhile (· != '@') ++ rest.dropWhile (· != '(') := by
  rw [address_driver hdriver, behindCredentials_append hcredentials]
  rfl

/-! ## Two runs -/

/-- What a url resolves to, and what is reported on the way, hangs on nothing but what is read off it. -/
theorem sameButUrl_of_read {limit : Nat} {url url' : Text} (h : read limit url = read limit url') :
    SameButUrl (resolve limit (some url)) (resolve limit (some url')) := by
  rw [resolve_some, resolve_some, h]
  obtain ⟨found, middle⟩ := read limit url'
  cases found with
  | ok found => exact ⟨rfl, rfl, rfl, rfl, rfl, _, _, middle, _, _, rfl, rfl, rfl, rfl, .inl rfl⟩
  | error failure => exact ⟨rfl, rfl, rfl, rfl, rfl, _, _, middle, _, _, rfl, rfl, rfl, rfl, .inr ⟨rfl, rfl⟩⟩

variable {driver driver' credentials credentials' : Text}

/-- Driver and credentials have no say in what a url resolves to. -/
theorem resolve_credentials (limit : Nat) (rest : Text) (hdriver : ':' ∉ driver) (hdriver' : ':' ∉ driver')
    (hcredentials : '(' ∉ credentials) (hcredentials' : '(' ∉ credentials') :
    SameButUrl (resolve limit (some (scheme.toList ++ driver ++ ':' :: credentials ++ '@' :: rest)))
      (resolve limit (some (scheme.toList ++ driver' ++ ':' :: credentials' ++ '@' :: rest))) := by
  have hread : ∀ {d c : Text}, ':' ∉ d → '(' ∉ c → read limit (scheme.toList ++ d ++ ':' :: c ++ '@' :: rest) =
      readAddress limit ((rest.takeWhile (· != '(')).rtakeWhile (· != '@') ++ rest.dropWhile (· != '(')) := by
    intro d c hd hc
    rw [← address_credentials hd hc, ← read_scheme]
    simp
  apply sameButUrl_of_read
  rw [hread hdriver hcredentials, hread hdriver' hcredentials']

/-- A password that holds separators and an '@', against no driver and no credentials at all. -/
theorem resolve_credentials_password :
    ':' ∉ "thin".toList ∧ ':' ∉ ([] : Text) ∧ '(' ∉ "scott/p@:ss".toList ∧ '(' ∉ ([] : Text) ∧
      SameButUrl (resolve 64 (some "jdbc:tibero:thin:scott/p@:ss@db:1521/XE".toList))
        (resolve 64 (some "jdbc:tibero::@db:1521/XE".toList)) :=
  ⟨by decide, by decide, by decide, by decide,
    @resolve_credentials "thin".toList [] "scott/p@:ss".toList [] 64 "db:1521/XE".toList (by decide) (by decide)
      (by decide) (by decide)⟩

end Resolve

end ConnectString
