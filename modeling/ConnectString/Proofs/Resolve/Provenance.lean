/-
  ConnectString.Proofs.Resolve.Provenance — nothing in an outcome is made up.

  What is resolved is read off the address of the url, which is what is left behind its driver and its credentials
  (`address_eq`). In a flat address host, port and id are three pieces of it; in a descriptor they are texts of its
  tree, and the addresses are nodes that share nothing.

  Main statement: the endpoints are laid out in the address in their order, each in a span of its own, and the id is a
  piece of it (`resolve_verbatim`).
-/

import ConnectString.Proofs.Descriptor.Provenance
import ConnectString.Proofs.Resolve.Found

namespace ConnectString

namespace Resolve

open Descriptor

/-- What is left of a text behind its first ':', or the whole of it if it has none. -/
def behindDriver (w : Text) : Text := if ':' ∈ w then (w.dropWhile (· != ':')).tail else w

/-! ## The address -/

theorem address_of_not_mem {w : Text} (h : ':' ∉ w) : address w = behindCredentials w := by
  have hfirst : (Split.mk scheme.toList w []).pastFirst ':' = ⟨scheme.toList, w, []⟩ := by
    unfold Split.pastFirst Split.pastLiteral
    rw [Text.cutBehind?_singleton_eq_none h]
  unfold address bodySplit
  rw [hfirst]
  rfl

/-- The address is what is left behind the credentials of what is left behind the driver. -/
theorem address_eq (w : Text) : address w = behindCredentials (behindDriver w) := by
  unfold behindDriver
  by_cases hmem : ':' ∈ w
  · rw [if_pos hmem]
    obtain ⟨driver, v, rfl, hdriver⟩ := List.eq_append_cons_of_mem hmem
    have hcut := Text.cut_append_cons (Text.bne_of_not_mem hdriver) (bne_self_eq_false' _) v
    rw [address_driver hdriver, hcut.2, List.tail_cons]
  · rw [if_neg hmem]
    exact address_of_not_mem hmem

/-! ## Flat addresses -/

/-- Host, port and id of a flat address are pieces of it. -/
theorem isInfix_flatFields (v : Text) :
    (flatFields v).1 <:+: v ∧ (flatFields v).2.1 <:+: v ∧ (flatFields v).2.2 <:+: v := by
  have hbehindHost : (v.dropWhile (· != ':')).tail <:+ v :=
    (List.tail_suffix _).trans (List.dropWhile_suffix _)
  have hbehindPort : (v.dropWhile (· != ':')).tail.dropWhile notSeparator <:+ v :=
    (List.dropWhile_suffix _).trans hbehindHost
  refine ⟨?host, ?port, ?id⟩
  case host => exact (List.takeWhile_prefix _).isInfix
  case port => exact (List.takeWhile_prefix _).isInfix.trans hbehindHost.isInfix
  case id => exact ((List.rtakeWhile_suffix _ _).trans hbehindPort).isInfix

/-! ## Outcomes -/

/-- What is found stands in the address that it is found at. -/
theorem laidOut_of_foundAt {limit : Nat} {v : Text} {found : Found} (h : foundAt limit v = .ok found) :
    LaidOut found.endpoints v ∧ found.databaseId <:+: v := by
  unfold foundAt at h
  split at h
  · rcases hparse : parse limit (Text.trim v) with e | root
    · rw [hparse] at h
      cases h
    rw [hparse] at h
    obtain ⟨spec, hclass, -, rfl⟩ := foundIn_eq_ok_iff.mp h
    have hden := denotes_of_parse hparse
    refine ⟨(laidOut_spec hden hclass).of_isInfix (Text.trim_isInfix v), ?_⟩
    show spec.databaseId.getD [] <:+: v
    rcases hid : spec.databaseId with _ | id
    · exact List.nil_infix
    · exact (isInfix_of_denotes hden (mem_texts_of_databaseId hclass hid)).trans (Text.trim_isInfix v)
  · obtain ⟨hhost, hport, hid⟩ := isInfix_flatFields v
    unfold foundFlat at h
    simp only at h
    split at h
    · cases h
    · cases h
      exact ⟨.singleton hhost hport, hid⟩

/-- Endpoints and id of a resolved url stand in it as they are, behind the driver and the credentials: each endpoint
    in a span of its own, and one behind the other. -/
theorem resolve_verbatim {limit : Nat} {url source id : Text} {endpoints : List Endpoint}
    (h : (resolve limit (some url)).value = .resolved source endpoints id) :
    ∃ w, url = scheme.toList ++ w ∧ LaidOut endpoints (behindCredentials (behindDriver w)) ∧
      id <:+: behindCredentials (behindDriver w) := by
  by_cases hscheme : scheme.toList <+: url
  · obtain ⟨w, rfl⟩ := hscheme
    rw [value_resolve_scheme] at h
    rcases hfound : foundAt limit (address w) with e | found
    · rw [hfound] at h
      cases h
    · rw [hfound] at h
      cases h
      refine ⟨w, rfl, ?_⟩
      rw [← address_eq]
      exact laidOut_of_foundAt hfound
  · rw [value_resolve, value_read_foreign limit hscheme] at h
    cases h

/-- An address without a host and one without a port, behind credentials that read like a part of an address. -/
theorem resolve_verbatim_two :
    let url := "jdbc:tibero:thin:u/HOST=z@".toList ++
      "(DESCRIPTION=(ADDRESS=(PORT=1)(HOST=))(ADDRESS=(HOST=b))(CONNECT_DATA=(SID=x)))".toList
    (resolve 64 (some url)).value = .resolved url [⟨[], ['1']⟩, ⟨['b'], []⟩] ['x'] ∧
      ∃ w, url = scheme.toList ++ w ∧ LaidOut [⟨[], ['1']⟩, ⟨['b'], []⟩] (behindCredentials (behindDriver w)) ∧
        ['x'] <:+: behindCredentials (behindDriver w) := by
  intro url
  have hres : (resolve 64 (some url)).value = .resolved url [⟨[], ['1']⟩, ⟨['b'], []⟩] ['x'] := by
    decide +kernel
  exact ⟨hres, resolve_verbatim hres⟩

end Resolve

end ConnectString
