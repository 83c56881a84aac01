/-
  ConnectString.Proofs.Resolve.Coherence — what the parts of an outcome say about each other and about the input.

  What fails at an address is no failure of the input as a whole, and nothing breaks off inside (`foundAt_error`). What
  is found has an id, unless it is a DESCRIPTION_LIST that has endpoints and names no id: the texts of a tree that was
  read are never empty (`databaseId_of_foundAt`).

  Main statement: every outcome is coherent with the input that it is the outcome for (`coherent_resolve`).
-/

import ConnectString.Proofs.Descriptor.Provenance
import ConnectString.Proofs.Descriptor.Simulation
import ConnectString.Proofs.Resolve.Found

namespace ConnectString

namespace Resolve

open Descriptor

/-- The input is of no concern to this scheme: there is none, or it is empty, or it starts with something else. -/
def Foreign (input : Option Text) : Prop :=
  input = none ∨ input = some [] ∨ ∃ url, input = some url ∧ ¬scheme.toList <+: url

/-- The tree is a DESCRIPTION_LIST with endpoints, and none of its descriptions names an id. -/
structure NamelessList (root : Tree) (es : List Endpoint) : Prop where
  kind : root.kind = .descriptionList
  endpoints : (DescriptionList.ofTree root).endpoints = es
  reachable : es ≠ []
  nameless : ∀ d ∈ (DescriptionList.ofTree root).descriptions, d.databaseId = none

structure Coherent (limit : Nat) (input : Option Text) (o : Outcome) : Prop where
  source : o.source = input.getD []
  complete : o.isComplete = true ↔ o.failure? = none
  blank : o.isComplete = false → o.endpoints = [] ∧ o.databaseId = []
  unknown : o.serviceType = .unknown ↔ Foreign input
  known : o.serviceType = .tibero ↔ ¬Foreign input
  missing : o.failure? = some .missingInput ↔ input = none
  empty : o.failure? = some .emptyInput ↔ input = some []
  mismatch : ∀ expected, o.failure? = some (.schemeMismatch expected) ↔
    expected = scheme ∧ ∃ url, input = some url ∧ url ≠ [] ∧ ¬scheme.toList <+: url
  unbroken : ∀ detail, o.failure? ≠ some (.panicked detail)
  /-- What is complete without an id was read off a DESCRIPTION_LIST. -/
  nameless : o.isComplete = true → (o.databaseId = [] ↔
    ∃ url t root, input = some url ∧ HoldsDescriptor url t ∧ parse limit t = .ok root ∧
      NamelessList root o.endpoints)

/-! ## What is found in a tree -/

variable {limit : Nat} {root : Tree} {found : Found}

theorem foundIn_error {e : Failure} (h : foundIn root = .error e) :
    e = .unknownShape root.key ∨ e = .missingDatabaseId := by
  unfold foundIn at h
  rw [Description.value_classify] at h
  split at h
  · rename_i e' hclass
    cases h
    split at hclass <;> cases hclass
    exact .inl rfl
  · split at h
    · cases h
    · cases h
      exact .inr rfl

/-- An id that a description of the list names is not empty, as no text of the tree is. -/
theorem databaseId_of_foundIn (hsolid : ∀ s ∈ root.texts, s ≠ []) (h : foundIn root = .ok found) :
    found.databaseId = [] ↔ NamelessList root found.endpoints := by
  obtain ⟨spec, hclass, hcomplete, rfl⟩ := foundIn_eq_ok_iff.mp h
  have hnamed : ∀ {s : Text}, spec.databaseId = some s → s ≠ [] := fun hs =>
    hsolid _ (mem_texts_of_databaseId hclass hs)
  rw [Description.value_classify] at hclass
  split at hclass
  · rename_i hkind
    cases hclass
    obtain ⟨id, hid⟩ := Option.isSome_iff_exists.mp hcomplete
    have hid' : (Spec.one (Description.ofTree root)).databaseId = some id := hid
    constructor
    · intro hnil
      rw [hid', Option.getD_some] at hnil
      exact absurd hnil (hnamed hid')
    · intro hlist
      have hlistkind := hlist.kind
      rw [hkind] at hlistkind
      cases hlistkind
  · rename_i hkind
    cases hclass
    have hnone : (Spec.list (DescriptionList.ofTree root)).databaseId = none ↔
        ∀ d ∈ (DescriptionList.ofTree root).descriptions, d.databaseId = none := by
      show List.findSome? _ _ = none ↔ _
      exact List.findSome?_eq_none_iff
    constructor
    · intro hnil
      rcases hid : (Spec.list (DescriptionList.ofTree root)).databaseId with _ | id
      · refine ⟨hkind, rfl, fun hempty => ?_, hnone.mp hid⟩
        have hlist : (Spec.list (DescriptionList.ofTree root)).endpoints = [] := hempty
        rw [Spec.isComplete, Bool.or_eq_true] at hcomplete
        rcases hcomplete with hsome | hany
        · rw [show (DescriptionList.ofTree root).databaseId = none from hid] at hsome
          cases hsome
        · rw [show (DescriptionList.ofTree root).endpoints = [] from hlist] at hany
          cases hany
      · rw [hid, Option.getD_some] at hnil
        exact absurd hnil (hnamed hid)
    · intro hlist
      rw [hnone.mpr hlist.nameless]
      rfl
  · cases hclass

/-! ## What is found at an address -/

theorem foundFlat_ok {v : Text} (h : foundFlat v = .ok found) : found.databaseId ≠ [] := by
  unfold foundFlat at h
  simp only at h
  split at h
  · cases h
  · rename_i hnamed
    cases h
    simpa using hnamed

/-- A descriptor that something is found in was read, and it is its tree that gives it away. -/
theorem exists_root_of_foundAt {v : Text} (hhead : (Text.trim v).head? = some '(')
    (h : foundAt limit v = .ok found) : ∃ root, parse limit (Text.trim v) = .ok root ∧ foundIn root = .ok found := by
  rw [foundAt, if_pos hhead] at h
  rcases hparse : parse limit (Text.trim v) with e | root
  · rw [hparse] at h
    cases h
  · rw [hparse] at h
    exact ⟨root, rfl, h⟩

theorem foundAt_error {v : Text} {e : Failure} (h : foundAt limit v = .error e) :
    e.isForeign = false ∧ ∀ detail, e ≠ .panicked detail := by
  unfold foundAt at h
  split at h
  · rcases hparse : parse limit (Text.trim v) with e' | root
    · rw [hparse] at h
      cases h
      rcases parse_error_cases hparse with ⟨p, detail, rfl⟩ | rfl
      · exact ⟨rfl, fun _ he => by cases he⟩
      · exact ⟨rfl, fun _ he => by cases he⟩
    · rw [hparse] at h
      rcases foundIn_error h with rfl | rfl
      · exact ⟨rfl, fun _ he => by cases he⟩
      · exact ⟨rfl, fun _ he => by cases he⟩
  · unfold foundFlat at h
    simp only at h
    split at h
    · cases h
      exact ⟨rfl, fun _ he => by cases he⟩
    · cases h

theorem databaseId_of_foundAt {v : Text} (h : foundAt limit v = .ok found) :
    found.databaseId = [] ↔ (Text.trim v).head? = some '(' ∧
      ∃ root, parse limit (Text.trim v) = .ok root ∧ NamelessList root found.endpoints := by
  by_cases hhead : (Text.trim v).head? = some '('
  · obtain ⟨root, hparse, hfound⟩ := exists_root_of_foundAt hhead h
    have hsolid : ∀ s ∈ root.texts, s ≠ [] := fun s hs =>
      ((readable_of_denotes (denotes_of_parse hparse)).texts s hs).nonempty
    rw [databaseId_of_foundIn hsolid hfound]
    constructor
    · intro hlist
      exact ⟨hhead, root, hparse, hlist⟩
    · rintro ⟨-, root', hparse', hlist⟩
      rw [hparse] at hparse'
      cases hparse'
      exact hlist
  · rw [foundAt, if_neg hhead] at h
    exact iff_of_false (foundFlat_ok h) fun hlist => hhead hlist.1

/-! ## Inputs and their failures -/

def FailsFor (input : Option Text) : Failure → Prop
  | .missingInput => input = none
  | .emptyInput => input = some []
  | .schemeMismatch expected => expected = scheme ∧ ∃ url, input = some url ∧ url ≠ [] ∧ ¬scheme.toList <+: url
  | .panicked _ => False
  | _ => ∃ w, input = some (scheme.toList ++ w)

theorem not_foreign_scheme (w : Text) : ¬Foreign (some (scheme.toList ++ w)) := by
  rintro (h | h | ⟨url, h, hforeign⟩)
  · cases h
  · cases h
  · cases h
    exact hforeign (List.prefix_append _ _)

/-- What the input has nothing to do with is told from the failure. -/
theorem FailsFor.isForeign_iff {input : Option Text} {f : Failure} (h : FailsFor input f) :
    f.isForeign = true ↔ Foreign input := by
  cases f with
  | missingInput => exact iff_of_true rfl (.inl h)
  | emptyInput => exact iff_of_true rfl (.inr (.inl h))
  | schemeMismatch expected =>
    obtain ⟨-, url, hurl, -, hforeign⟩ := h
    exact iff_of_true rfl (.inr (.inr ⟨url, hurl, hforeign⟩))
  | panicked detail => exact h.elim
  | unbalanced | nestingTooDeep | unknownShape | missingDatabaseId | ambiguousFlat =>
    obtain ⟨w, rfl⟩ := h
    exact iff_of_false Bool.false_ne_true (not_foreign_scheme w)

/-- An input that is foreign belongs to one failure only. -/
theorem FailsFor.eq {input : Option Text} {f g : Failure} (hforeign : Foreign input) (hf : FailsFor input f)
    (hg : FailsFor input g) : f = g := by
  have hff := hf.isForeign_iff.mpr hforeign
  have hgf := hg.isForeign_iff.mpr hforeign
  cases f <;> cases g <;> simp_all [FailsFor, Failure.isForeign]

theorem failsFor_of_read_error {url : Text} {e : Failure} (h : (read limit url).value = .error e) :
    FailsFor (some url) e := by
  by_cases hscheme : scheme.toList <+: url
  · obtain ⟨w, rfl⟩ := hscheme
    rw [read_scheme, value_readAddress] at h
    obtain ⟨hforeign, hpanicked⟩ := foundAt_error h
    cases e with
    | missingInput | emptyInput | schemeMismatch => cases hforeign
    | panicked detail => exact absurd rfl (hpanicked detail)
    | unbalanced | nestingTooDeep | unknownShape | missingDatabaseId | ambiguousFlat => exact ⟨w, rfl⟩
  · rw [value_read_foreign limit hscheme] at h
    by_cases hempty : url = []
    · subst hempty
      cases h
      rfl
    · rw [if_neg (by simpa using hempty)] at h
      cases h
      exact ⟨rfl, url, rfl, hempty, hscheme⟩

/-! ## Outcomes -/

theorem coherent_unresolved {input : Option Text} {f : Failure} (h : FailsFor input f) :
    Coherent limit input (.unresolved (input.getD []) f) := by
  have hforeign := h.isForeign_iff
  have hfailure : ∀ {g : Failure}, Foreign input → FailsFor input g →
      (Outcome.unresolved (input.getD []) f).failure? = some g := fun hin hg => congrArg some (h.eq hin hg)
  have hservice : (Outcome.unresolved (input.getD []) f).serviceType = if f.isForeign then .unknown else .tibero := rfl
  refine ⟨rfl, ?complete, fun _ => ⟨rfl, rfl⟩, ?unknown, ?known, ?missing, ?empty, ?mismatch, ?unbroken, ?nameless⟩
  case complete => exact iff_of_false Bool.false_ne_true (Option.some_ne_none f)
  case unknown =>
    rw [hservice, ← hforeign]
    cases f.isForeign <;> decide
  case known =>
    rw [hservice, ← hforeign]
    cases f.isForeign <;> decide
  case missing =>
    constructor
    · rintro he
      cases he
      exact h
    · intro hin
      exact hfailure (.inl hin) hin
  case empty =>
    constructor
    · rintro he
      cases he
      exact h
    · intro hin
      exact hfailure (.inr (.inl hin)) hin
  case mismatch =>
    intro expected
    constructor
    · rintro he
      cases he
      exact h
    · rintro ⟨rfl, url, hurl, hne, hscheme⟩
      exact hfailure (.inr (.inr ⟨url, hurl, hscheme⟩)) ⟨rfl, url, hurl, hne, hscheme⟩
  case unbroken =>
    intro detail he
    cases he
    exact h
  case nameless =>
    intro hc
    cases hc

theorem coherent_resolved {w : Text} {found : Found} (h : foundAt limit (address w) = .ok found) :
    Coherent limit (some (scheme.toList ++ w))
      (.resolved (scheme.toList ++ w) found.endpoints found.databaseId) := by
  have hfamiliar := not_foreign_scheme w
  refine ⟨rfl, ?complete, ?blank, ?unknown, ?known, ?missing, ?empty, ?mismatch, ?unbroken, ?nameless⟩
  case complete => exact iff_of_true rfl rfl
  case blank =>
    intro hc
    cases hc
  case unknown => exact iff_of_false (by decide : ServiceType.tibero ≠ .unknown) hfamiliar
  case known => exact iff_of_true rfl hfamiliar
  case missing => exact iff_of_false nofun nofun
  case empty => exact iff_of_false nofun fun hin => hfamiliar (.inr (.inl hin))
  case mismatch =>
    intro expected
    exact iff_of_false nofun fun ⟨_, url, hurl, _, hscheme⟩ => hfamiliar (.inr (.inr ⟨url, hurl, hscheme⟩))
  case unbroken => exact nofun
  case nameless =>
    intro _
    show found.databaseId = [] ↔ _
    rw [databaseId_of_foundAt h]
    constructor
    · rintro ⟨hhead, root, hparse, hlist⟩
      exact ⟨_, _, root, rfl, holdsDescriptor_scheme_iff.mpr ⟨rfl, hhead⟩, hparse, hlist⟩
    · rintro ⟨url, t, root, hurl, hholds, hparse, hlist⟩
      cases hurl
      obtain ⟨rfl, hhead⟩ := holdsDescriptor_scheme_iff.mp hholds
      exact ⟨hhead, root, hparse, hlist⟩

/-- Every outcome is coherent. It shows the input and is complete exactly when nothing failed; an incomplete one has
    neither endpoints nor an id. It belongs to an unknown database exactly when the input has nothing to do with the
    scheme, and which of the three ways this is shows in the failure. Nothing breaks off inside, and nothing does with
    a reader of descriptors that cuts its text by bytes and counts parentheses down, either. What is complete without
    an id was read off a DESCRIPTION_LIST that has endpoints and no description with an id. -/
theorem coherent_resolve (limit : Nat) (input : Option Text) :
    Coherent limit input (resolve limit input).value ∧
      ∀ reader, Bytewise.CarriesOut reader → resolveWith reader limit input = resolve limit input := by
  refine ⟨?_, fun reader hreader => by rw [hreader.eq_reader, resolve]⟩
  rcases input with _ | url
  · exact coherent_unresolved (f := .missingInput) rfl
  rw [value_resolve]
  rcases hread : (read limit url).value with e | found
  · exact coherent_unresolved (failsFor_of_read_error hread)
  · by_cases hscheme : scheme.toList <+: url
    · obtain ⟨w, rfl⟩ := hscheme
      rw [read_scheme, value_readAddress] at hread
      exact coherent_resolved hread
    · rw [value_read_foreign limit hscheme] at hread
      cases hread

/-- A list with an endpoint and no id is complete without one, and nothing breaks off on the way. -/
theorem coherent_resolve_list :
    let url := "jdbc:tibero:thin:@(DESCRIPTION_LIST=(DESCRIPTION=(ADDRESS=(HOST=a)(PORT=1))))".toList
    let reader : Reader := fun limit t => .ok (parse limit t)
    (resolveWith reader 64 (some url)).value = .resolved url [⟨['a'], ['1']⟩] [] ∧
      (∀ detail, (resolve 64 (some url)).value.failure? ≠ some (.panicked detail)) ∧
      ∃ t root, HoldsDescriptor url t ∧ parse 64 t = .ok root ∧ NamelessList root [⟨['a'], ['1']⟩] := by
  intro url reader
  have hres : (resolve 64 (some url)).value = .resolved url [⟨['a'], ['1']⟩] [] := by decide +kernel
  obtain ⟨hcoherent, hreaders⟩ := coherent_resolve 64 (some url)
  have hnameless := hcoherent.nameless
  rw [hres] at hnameless
  obtain ⟨_, t, root, hurl, hholds, hparse, hlist⟩ := (hnameless rfl).mp rfl
  cases hurl
  exact ⟨hreaders reader Bytewise.carriesOut_reader ▸ hres, hcoherent.unbroken, t, root, hholds, hparse, hlist⟩

/-- A reader that did break off would be caught, and what it was at would be the failure. -/
example : (resolveWith (fun _ _ => .error .underflow) 64 (some "jdbc:tibero:thin:@(D=)".toList)).value =
    .unresolved "jdbc:tibero:thin:@(D=)".toList (.panicked Fault.underflow.message) := by
  decide +kernel

end Resolve

end ConnectString
