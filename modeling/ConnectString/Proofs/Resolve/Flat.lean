/-
  ConnectString.Proofs.Resolve.Flat — flat urls, written out of their parts and resolved.

  A flat address is cut where it was put together, as long as no part holds a delimiter that another one needs
  (`FlatParts.proper`); a flat url resolves to those parts (`value_resolve_flat`).

  Main statement: whatever else the credentials hold, parts without delimiters are resolved to as they were written
  exactly when no '(' stands in the credentials (`resolve_flat_iff`). A '(' ends the search for the '@' behind the
  credentials, so that what follows it is taken for the host (`resolve_flat_leaks`).
-/

import ConnectString.Proofs.Resolve.FlatForm

namespace ConnectString

theorem Outcome.ofFound_eq_resolved_iff {url source : Text} {found : Except Failure Resolve.Found}
    {endpoints : List Endpoint} {id : Text} :
    Outcome.ofFound url found = .resolved source endpoints id ↔ url = source ∧ found = .ok ⟨endpoints, id⟩ := by
  cases found with
  | error e => simp [ofFound]
  | ok f => cases f; simp [ofFound]

namespace Resolve

def urlOf (driver credentials rest : Text) : Text := scheme.toList ++ driver ++ ':' :: credentials ++ '@' :: rest

def flatAddress (e : Endpoint) (separator : Char) (id : Text) : Text := e.host ++ ':' :: e.port ++ separator :: id

/-- Parts that a flat address can be cut into again: none holds a separator that ends it. -/
structure FlatParts (e : Endpoint) (separator : Char) (id : Text) : Prop where
  host : ':' ∉ e.host
  port : ∀ c ∈ e.port, notSeparator c = true
  separator : notSeparator separator = false
  named : id ≠ []
  id : ∀ c ∈ id, notSeparator c = true

/-! ## The parts of a flat address -/

/-- Such parts are the form of their address, with nothing between port and id. -/
theorem FlatParts.proper {e : Endpoint} {separator : Char} {id : Text} (h : FlatParts e separator id) :
    FlatForm.Proper ⟨e.host, e.port, separator, [], id⟩ where
  host := h.host
  port c hc := notSeparator_iff.mp (h.port c hc)
  separator := notSeparator_eq_false_iff.mp h.separator
  between _ hc := nomatch hc
  named := h.named
  id c hc := notSeparator_iff.mp (h.id c hc)

theorem foundFlat_flatAddress {e : Endpoint} {separator : Char} {id : Text} (h : FlatParts e separator id) :
    foundFlat (flatAddress e separator id) = .ok ⟨[e], id⟩ := by
  have htext : flatAddress e separator id = FlatForm.text ⟨e.host, e.port, separator, [], id⟩ := by
    simp [flatAddress, FlatForm.text]
  rw [htext, foundFlat_text h.proper]

theorem value_resolve_urlOf (limit : Nat) {driver : Text} (hdriver : ':' ∉ driver) (credentials rest : Text) :
    (resolve limit (some (urlOf driver credentials rest))).value =
      .ofFound (urlOf driver credentials rest) (foundAt limit (behindCredentials (credentials ++ '@' :: rest))) := by
  have hurl : urlOf driver credentials rest = scheme.toList ++ (driver ++ ':' :: (credentials ++ '@' :: rest)) := by
    simp [urlOf]
  rw [hurl, value_resolve_scheme, address_driver hdriver]

/-- A flat url resolves to its parts. -/
theorem value_resolve_flat (limit : Nat) {driver credentials : Text} {e : Endpoint} {separator : Char} {id : Text}
    (hdriver : ':' ∉ driver) (hcredentials : '(' ∉ credentials) (h : FlatParts e separator id)
    (hat : '@' ∉ flatAddress e separator id)
    (hbare : (Text.trim (flatAddress e separator id)).head? ≠ some '(') :
    (resolve limit (some (urlOf driver credentials (flatAddress e separator id)))).value =
      .resolved (urlOf driver credentials (flatAddress e separator id)) [e] id := by
  rw [value_resolve_urlOf limit hdriver, behindCredentials_append hcredentials, behindCredentials_of_no_at hat,
    foundAt, if_neg hbare, foundFlat_flatAddress h]
  rfl

/-! ## Any credentials -/

/-- Without any of the characters that a url is cut at. -/
def Undelimited (t : Text) : Prop := ∀ c ∈ t, c ∉ [':', '/', '@', '(']

instance (t : Text) : Decidable (Undelimited t) := List.decidableBAll (fun c => c ∉ [':', '/', '@', '(']) t

/-- Parts of a flat url that hold none of the delimiters of urls. -/
structure PlainParts (e : Endpoint) (separator : Char) (id : Text) : Prop where
  host : Undelimited e.host
  port : Undelimited e.port
  separator : separator = ':' ∨ separator = '/'
  named : id ≠ []
  id : Undelimited id

theorem notSeparator_of_undelimited {t : Text} (h : Undelimited t) : ∀ c ∈ t, notSeparator c = true := by
  intro c hc
  have hnot := h c hc
  simp only [List.mem_cons, List.not_mem_nil, or_false, not_or] at hnot
  simp [notSeparator, hnot.1, hnot.2.1]

variable {e : Endpoint} {separator : Char} {id : Text}

theorem PlainParts.flatParts (h : PlainParts e separator id) : FlatParts e separator id where
  host hc := absurd (h.host ':' hc) (by decide)
  port := notSeparator_of_undelimited h.port
  separator := by rcases h.separator with rfl | rfl <;> decide
  named := h.named
  id := notSeparator_of_undelimited h.id

/-- The address itself holds neither '@' nor '('. -/
theorem PlainParts.not_mem_flatAddress (h : PlainParts e separator id) {c : Char} (hc : c = '@' ∨ c = '(') :
    c ∉ flatAddress e separator id := by
  intro hmem
  simp only [flatAddress, List.append_assoc, List.cons_append, List.mem_append, List.mem_cons] at hmem
  have hcolon : c ≠ ':' := by rcases hc with rfl | rfl <;> decide
  have hslash : c ≠ '/' := by rcases hc with rfl | rfl <;> decide
  have hdelim : c ∈ [':', '/', '@', '('] := by rcases hc with rfl | rfl <;> decide
  rcases hmem with hhost | he | hport | he | hid
  · exact h.host c hhost hdelim
  · exact hcolon he
  · exact h.port c hport hdelim
  · rcases h.separator with rfl | rfl
    · exact hcolon he
    · exact hslash he
  · exact h.id c hid hdelim

theorem PlainParts.bare (h : PlainParts e separator id) :
    (Text.trim (flatAddress e separator id)).head? ≠ some '(' :=
  fun hhead => h.not_mem_flatAddress (.inr rfl) (Text.mem_of_mem_trim (List.mem_of_mem_head? hhead))

/-- A part of a text that goes beyond a character holds it. -/
theorem mem_of_prefix_append_cons {a r p : Text} {c : Char} (h : p <+: a ++ c :: r) (hlen : a.length < p.length) :
    c ∈ p := by
  have hc : a ++ [c] <+: a ++ c :: r := ⟨r, by simp⟩
  have hle : (a ++ [c]).length ≤ p.length := by
    rw [List.length_append, List.length_singleton]
    exact hlen
  exact (List.prefix_of_prefix_length_le hc h hle).subset (by simp)

/-- Behind credentials that hold a '(', the address starts inside them. -/
theorem behindCredentials_of_paren {credentials : Text} (h : '(' ∈ credentials) (rest : Text) :
    ∃ a r, a.length < credentials.length ∧
      behindCredentials (credentials ++ '@' :: rest) = a ++ '(' :: (r ++ rest) := by
  obtain ⟨u, v, rfl, hu⟩ := List.eq_append_cons_of_mem h
  have hcut := Text.cut_append_cons (Text.bne_of_not_mem hu) (bne_self_eq_false' _) (v ++ '@' :: rest)
  have hshort : (u.rtakeWhile (· != '@')).length ≤ u.length := (List.rtakeWhile_suffix _ u).length_le
  refine ⟨u.rtakeWhile (· != '@'), v ++ ['@'], ?_, ?_⟩
  · rw [List.length_append, List.length_cons]
    omega
  · unfold behindCredentials
    rw [List.append_assoc, List.cons_append, hcut.1, hcut.2, List.append_assoc, List.singleton_append]

/-- The host of a flat address is what it starts with. -/
theorem host_prefix_of_foundFlat {v : Text} (h : foundFlat v = .ok ⟨[e], id⟩) : e.host <+: v := by
  unfold foundFlat at h
  simp only at h
  split at h
  · cases h
  · cases h
    exact List.takeWhile_prefix _

/-- An address that does not end as a descriptor does is a flat one. -/
theorem foundFlat_of_foundAt_concat {limit : Nat} {t : Text} {c : Char} {found : Found} (hblank : isBlank c = false)
    (hclose : c ≠ ')') (h : foundAt limit (t ++ [c]) = .ok found) : foundFlat (t ++ [c]) = .ok found := by
  unfold foundAt at h
  split at h
  · rcases hparse : Descriptor.parse limit (Text.trim (t ++ [c])) with failure | root
    · rw [hparse] at h
      cases h
    · obtain ⟨r, hr⟩ := Text.exists_trim_concat hblank t
      have hlast := Descriptor.last_of_denotes (Descriptor.denotes_of_parse hparse) c (by rw [hr]; simp)
      rcases hlast with hlast | hlast
      · exact absurd hlast hclose
      · rw [isBlank_of_isAsciiBlank hlast] at hblank
        cases hblank
  · exact h

def longHost (n : Nat) : Text := List.replicate n 'h'

theorem undelimited_longHost (n : Nat) : Undelimited (longHost n) := by
  intro c hc
  rw [List.eq_of_mem_replicate hc]
  decide

/-- Parts without delimiters are resolved to as they were written, whatever else the credentials hold, exactly when
    no '(' stands in the credentials. -/
theorem resolve_flat_iff (limit : Nat) {driver : Text} (hdriver : ':' ∉ driver) (credentials : Text) :
    (∀ (e : Endpoint) (separator : Char) (id : Text), PlainParts e separator id →
      (resolve limit (some (urlOf driver credentials (flatAddress e separator id)))).value =
        .resolved (urlOf driver credentials (flatAddress e separator id)) [e] id) ↔ '(' ∉ credentials := by
  constructor
  · intro hall hparen
    -- A host that is longer than the credentials, so that it cannot be cut out of them.
    let host := longHost (credentials.length + 1)
    have hparts : PlainParts ⟨host, []⟩ ':' ['x'] :=
      ⟨undelimited_longHost _, fun _ hc => absurd hc List.not_mem_nil, .inl rfl, by decide, by decide⟩
    obtain ⟨a, r, hlen, haddress⟩ := behindCredentials_of_paren hparen (flatAddress ⟨host, []⟩ ':' ['x'])
    have hconcat : a ++ '(' :: (r ++ flatAddress ⟨host, []⟩ ':' ['x']) =
        (a ++ '(' :: (r ++ host ++ [':', ':'])) ++ ['x'] := by
      simp [flatAddress]
    have hres := hall _ _ _ hparts
    rw [value_resolve_urlOf limit hdriver, Outcome.ofFound_eq_resolved_iff, haddress, hconcat] at hres
    have hprefix := host_prefix_of_foundFlat (foundFlat_of_foundAt_concat (by decide) (by decide) hres.2)
    rw [← hconcat] at hprefix
    have hmem := mem_of_prefix_append_cons hprefix (by simpa [host, longHost] using Nat.lt_succ_of_lt hlen)
    exact undelimited_longHost _ '(' hmem (by decide)
  · intro hcredentials e separator id h
    exact value_resolve_flat limit hdriver hcredentials h.flatParts (h.not_mem_flatAddress (.inl rfl)) h.bare

/-- Every delimiter but '(' in the credentials. -/
theorem resolve_flat_iff_delimited :
    ':' ∉ "thin".toList ∧ '(' ∉ "sc:ott/p@s:s".toList ∧ PlainParts ⟨"db".toList, "1521".toList⟩ '/' "XE".toList ∧
      (resolve 64 (some "jdbc:tibero:thin:sc:ott/p@s:s@db:1521/XE".toList)).value =
        .resolved "jdbc:tibero:thin:sc:ott/p@s:s@db:1521/XE".toList [⟨"db".toList, "1521".toList⟩] "XE".toList := by
  have hparts : PlainParts ⟨"db".toList, "1521".toList⟩ '/' "XE".toList :=
    ⟨by decide, by decide, .inr rfl, by decide, by decide⟩
  have hparen : '(' ∉ "sc:ott/p@s:s".toList := by decide
  have hurl : urlOf "thin".toList "sc:ott/p@s:s".toList (flatAddress ⟨"db".toList, "1521".toList⟩ '/' "XE".toList) =
      "jdbc:tibero:thin:sc:ott/p@s:s@db:1521/XE".toList := by rfl
  have hres := (resolve_flat_iff 64 (by decide : ':' ∉ "thin".toList) "sc:ott/p@s:s".toList).mpr hparen _ _ _ hparts
  rw [hurl] at hres
  exact ⟨by decide, hparen, hparts, hres⟩

/-- A '(' in the credentials hides the '@' behind them: the search for it stops at the '(', and the end of the
    password is resolved to as a part of the host. -/
theorem resolve_flat_leaks :
    PlainParts ⟨"db".toList, "1521".toList⟩ ':' "XE".toList ∧
      urlOf "thin".toList "scott/p@s(s".toList (flatAddress ⟨"db".toList, "1521".toList⟩ ':' "XE".toList) =
        "jdbc:tibero:thin:scott/p@s(s@db:1521:XE".toList ∧
      (resolve 64 (some "jdbc:tibero:thin:scott/p@s(s@db:1521:XE".toList)).value.endpoints =
        [⟨"s(s@db".toList, "1521".toList⟩] ∧
      (resolve 64 (some "jdbc:tibero:thin:scott/p@s(s@db:1521:XE".toList)).value.endpoints ≠
        [⟨"db".toList, "1521".toList⟩] := by
  have hleak : (resolve 64 (some "jdbc:tibero:thin:scott/p@s(s@db:1521:XE".toList)).value.endpoints =
      [⟨"s(s@db".toList, "1521".toList⟩] := by rfl
  refine ⟨⟨by decide, by decide, .inl rfl, by decide, by decide⟩, by rfl, hleak, ?_⟩
  rw [hleak]
  decide

end Resolve

end ConnectString
