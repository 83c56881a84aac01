/-
  ConnectString.Proofs.Resolve.Found — what a url resolves to, apart from what is reported on the way.

  A url with the scheme resolves to what is found at its address (`value_resolve_scheme`): in a flat address the three
  fields, in any other the description that the tree of a descriptor holds. Nothing is found in a url without the
  scheme (`value_read_foreign`).

  The limit on the nesting has a say in reading a descriptor and nowhere else, so that what is found under one limit
  is found under every wider one (`resolve_complete_mono`).
-/

import ConnectString.Proofs.Descriptor.Limit
import ConnectString.Proofs.Resolve.Address

namespace ConnectString

def Outcome.ofFound (url : Text) : Except Failure Resolve.Found → Outcome
  | .ok found => .resolved url found.endpoints found.databaseId
  | .error failure => .unresolved url failure

namespace Resolve

open Descriptor

def foundIn (root : Tree) : Except Failure Found :=
  match (Spec.classify root).value with
  | .error e => .error e
  | .ok spec => if spec.isComplete then .ok ⟨spec.endpoints, spec.databaseId.getD []⟩ else .error .missingDatabaseId

def foundFlat (v : Text) : Except Failure Found :=
  let (host, port, id) := flatFields v
  if id.isEmpty then
    .error (.ambiguousFlat s!"no database id after host `{String.ofList host}` and port `{String.ofList port}`")
  else .ok ⟨[⟨host, port⟩], id⟩

def foundAt (limit : Nat) (v : Text) : Except Failure Found :=
  if (Text.trim v).head? = some '(' then (parse limit (Text.trim v)).bind foundIn else foundFlat v

/-- A url with the scheme, and the descriptor that it holds behind the credentials. -/
structure HoldsDescriptor (url t : Text) : Prop where
  scheme : scheme.toList <+: url
  address : ∃ w v, body url = .ok w ∧ w.value = .ok v ∧ Text.trim v = t
  paren : t.head? = some '('

theorem holdsDescriptor_scheme_iff {w t : Text} :
    HoldsDescriptor (ConnectString.scheme.toList ++ w) t ↔ Text.trim (address w) = t ∧ t.head? = some '(' := by
  constructor
  · rintro ⟨-, ⟨window, v, hbody, hvalue, rfl⟩, hparen⟩
    rw [body_scheme] at hbody
    cases hbody
    rw [Split.value_window] at hvalue
    cases hvalue
    exact ⟨rfl, hparen⟩
  · rintro ⟨rfl, hparen⟩
    exact ⟨List.prefix_append _ _, ⟨_, _, body_scheme w, Split.value_window _, rfl⟩, hparen⟩

/-- A url holds one descriptor at most. -/
theorem HoldsDescriptor.unique {url t t' : Text} (h : HoldsDescriptor url t) (h' : HoldsDescriptor url t') : t = t' := by
  obtain ⟨w, rfl⟩ := h.scheme
  exact (holdsDescriptor_scheme_iff.mp h).1.symm.trans (holdsDescriptor_scheme_iff.mp h').1

/-- A tree gives something away when it describes enough to connect. -/
theorem foundIn_eq_ok_iff {root : Tree} {found : Found} :
    foundIn root = .ok found ↔ ∃ spec, (Spec.classify root).value = .ok spec ∧ spec.isComplete = true ∧
      found = ⟨spec.endpoints, spec.databaseId.getD []⟩ := by
  unfold foundIn
  rcases (Spec.classify root).value with e | spec
  · simp
  by_cases hcomplete : spec.isComplete = true
  · simp only [if_pos hcomplete, Except.ok.injEq]
    constructor
    · rintro rfl
      exact ⟨spec, rfl, hcomplete, rfl⟩
    · rintro ⟨spec', rfl, -, rfl⟩
      rfl
  · simp only [if_neg hcomplete, reduceCtorEq, false_iff, Except.ok.injEq]
    rintro ⟨spec', rfl, hcomplete', -⟩
    exact hcomplete hcomplete'

/-! ## The value of a run -/

theorem value_resolve (limit : Nat) (url : Text) :
    (resolve limit (some url)).value = .ofFound url (read limit url).value := by
  rw [resolve_some]
  obtain ⟨found, events⟩ := read limit url
  cases found <;> rfl

theorem value_descriptor (r : Except Failure Tree) : (descriptor r).value = r.bind foundIn := by
  unfold descriptor
  rcases r with e | root
  · rfl
  · show _ = foundIn root
    unfold foundIn
    simp only [Logged.value_bind, value_report]
    rcases (Spec.classify root).value with e | spec
    · rfl
    · show Logged.value (ite _ _ _) = ite _ _ _
      split <;> rfl

theorem value_flat (v : Text) :
    (flat (flatFields v).1 (flatFields v).2.1 (flatFields v).2.2).value = foundFlat v := by
  unfold flat foundFlat
  obtain ⟨host, port, id⟩ := flatFields v
  cases id <;> rfl

theorem value_readAddress (limit : Nat) (v : Text) : (readAddress limit v).value = foundAt limit v := by
  unfold readAddress foundAt
  split
  · rw [Logged.value_bind, value_descriptor]
  · rw [Logged.value_bind, value_flat]

theorem value_resolve_scheme (limit : Nat) (w : Text) :
    (resolve limit (some (scheme.toList ++ w))).value =
      .ofFound (scheme.toList ++ w) (foundAt limit (address w)) := by
  rw [value_resolve, read_scheme, value_readAddress]

theorem value_resolve_of_holdsDescriptor (limit : Nat) {url t : Text} (h : HoldsDescriptor url t) :
    (resolve limit (some url)).value = .ofFound url ((parse limit t).bind foundIn) := by
  obtain ⟨w, rfl⟩ := h.scheme
  obtain ⟨rfl, hhead⟩ := holdsDescriptor_scheme_iff.mp h
  rw [value_resolve_scheme, foundAt, if_pos hhead]

theorem value_read_foreign (limit : Nat) {url : Text} (h : ¬scheme.toList <+: url) :
    (read limit url).value = .error (if url.isEmpty then .emptyInput else .schemeMismatch scheme) := by
  have hscheme : scheme.toList.isPrefixOf url = false := by
    rw [← Bool.not_eq_true]
    exact mt List.isPrefixOf_iff_prefix.mp h
  unfold read attempt
  rw [hscheme]
  cases url.isEmpty <;> rfl

/-! ## The limit -/

theorem foundAt_ok_mono {m m' : Nat} (h : m ≤ m') {v : Text} {found : Found} (hfound : foundAt m v = .ok found) :
    foundAt m' v = .ok found := by
  unfold foundAt at hfound ⊢
  split at hfound
  · rename_i hhead
    rw [if_pos hhead]
    rcases hparse : parse m (Text.trim v) with e | root
    · rw [hparse] at hfound
      cases hfound
    · rw [hparse] at hfound
      rw [parse_ok_mono h hparse]
      exact hfound
  · rename_i hhead
    rw [if_neg hhead]
    exact hfound

/-- What is resolved under a limit is resolved to the same under every wider one. -/
theorem resolve_complete_mono {m m' : Nat} (h : m ≤ m') {url : Option Text}
    (hcomplete : (resolve m url).value.isComplete = true) : (resolve m' url).value = (resolve m url).value := by
  rcases url with _ | url
  · rfl
  by_cases hscheme : scheme.toList <+: url
  · obtain ⟨w, rfl⟩ := hscheme
    rw [value_resolve_scheme] at hcomplete
    rw [value_resolve_scheme, value_resolve_scheme]
    rcases hfound : foundAt m (address w) with e | found
    · rw [hfound] at hcomplete
      cases hcomplete
    · rw [foundAt_ok_mono h hfound]
  · rw [value_resolve, value_resolve, value_read_foreign m hscheme, value_read_foreign m' hscheme]

end Resolve

end ConnectString
