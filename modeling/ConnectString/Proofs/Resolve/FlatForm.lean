/-
  ConnectString.Proofs.Resolve.FlatForm — which urls are flat urls.

  A flat address is a host, a colon, a port, a colon or a slash, and an id; in front of the id may stand any text that
  ends with a separator itself. An address has at most one such form: the three fields that are read off it are those
  of the form (`flatFields_text`), and they leave no choice for what stands between (`form_unique`). An address that an
  id is read off has the form (`exists_form`).

  Main statement: a url that is no descriptor is resolved exactly when its address has this form, and then to the
  fields of the form; any other is ambiguous (`resolve_flat_form`).
-/

import ConnectString.Proofs.Resolve.Found

namespace ConnectString.Resolve

/-- What ends a port, or a piece between port and id. -/
def IsSeparator (c : Char) : Prop := c = ':' ∨ c = '/'

structure FlatForm where
  host : Text
  port : Text
  separator : Char
  between : Text
  id : Text
  deriving DecidableEq

namespace FlatForm

def text (f : FlatForm) : Text := f.host ++ ':' :: f.port ++ f.separator :: f.between ++ f.id

/-- Each part is what it can be told by. -/
structure Proper (f : FlatForm) : Prop where
  host : ':' ∉ f.host
  port : ∀ c ∈ f.port, ¬IsSeparator c
  separator : IsSeparator f.separator
  between : ∀ c ∈ f.between.getLast?, IsSeparator c
  named : f.id ≠ []
  id : ∀ c ∈ f.id, ¬IsSeparator c

end FlatForm

/-! ## Fields and forms -/

theorem notSeparator_iff {c : Char} : notSeparator c = true ↔ ¬IsSeparator c := by
  simp [notSeparator, IsSeparator]

theorem notSeparator_eq_false_iff {c : Char} : notSeparator c = false ↔ IsSeparator c := by
  rw [← Bool.not_eq_true, notSeparator_iff, not_not]

/-- What is taken from behind, up to a separator, is the id. -/
theorem rtakeWhile_behindPort {f : FlatForm} (h : f.Proper) :
    (f.separator :: (f.between ++ f.id)).rtakeWhile notSeparator = f.id := by
  have hid : f.id.rtakeWhile notSeparator = f.id :=
    List.rtakeWhile_eq_self_iff.mpr fun c hc => notSeparator_iff.mpr (h.id c hc)
  have hlast := h.between
  rcases List.eq_nil_or_concat f.between with hnil | ⟨m, c, hconcat⟩
  · rw [hnil, List.nil_append, ← List.nil_append (f.separator :: f.id),
      Text.rtakeWhile_append_cons _ _ (notSeparator_eq_false_iff.mpr h.separator), hid]
  · rw [hconcat] at hlast
    have hc : IsSeparator c := hlast c (by simp)
    have hcut : f.separator :: (f.between ++ f.id) = (f.separator :: m) ++ c :: f.id := by rw [hconcat]; simp
    rw [hcut, Text.rtakeWhile_append_cons _ _ (notSeparator_eq_false_iff.mpr hc), hid]

/-- The fields that are read off an address are the parts that it was written out of. -/
theorem flatFields_text {f : FlatForm} (h : f.Proper) : flatFields f.text = (f.host, f.port, f.id) := by
  have htext : f.text = f.host ++ ':' :: (f.port ++ f.separator :: (f.between ++ f.id)) := by simp [FlatForm.text]
  have hhost := Text.cut_before h.host (f.port ++ f.separator :: (f.between ++ f.id))
  have hport := Text.cut_append_cons (fun c hc => notSeparator_iff.mpr (h.port c hc))
    (notSeparator_eq_false_iff.mpr h.separator) (f.between ++ f.id)
  simp only [flatFields, htext, hhost, List.tail_cons, hport, rtakeWhile_behindPort h]

/-- Parts that are written alike are alike. -/
theorem form_unique {f f' : FlatForm} (h : f.Proper) (h' : f'.Proper) (htext : f.text = f'.text) : f = f' := by
  have hfields : (f.host, f.port, f.id) = (f'.host, f'.port, f'.id) := by
    rw [← flatFields_text h, ← flatFields_text h', htext]
  obtain ⟨host, port, separator, between, id⟩ := f
  obtain ⟨host', port', separator', between', id'⟩ := f'
  simp only [Prod.mk.injEq] at hfields
  obtain ⟨rfl, rfl, rfl⟩ := hfields
  have hmiddle : separator :: between ++ id = separator' :: between' ++ id := by
    simpa [FlatForm.text] using htext
  obtain ⟨rfl, rfl⟩ := List.cons.inj (List.append_cancel_right hmiddle)
  rfl

/-- What is left from the first separator on starts with it, and ends with what stands between and the id. -/
theorem exists_between {t : Text} (h : (t.dropWhile notSeparator).rtakeWhile notSeparator ≠ []) :
    ∃ separator between, IsSeparator separator ∧ (∀ c ∈ between.getLast?, IsSeparator c) ∧
      t.dropWhile notSeparator = separator :: (between ++ (t.dropWhile notSeparator).rtakeWhile notSeparator) := by
  have hhead := Text.head?_dropWhile_not notSeparator t
  rcases hdrop : t.dropWhile notSeparator with _ | ⟨c, r⟩
  · rw [hdrop] at h
    exact absurd rfl h
  rw [hdrop] at hhead
  have hc : notSeparator c = false := hhead c rfl
  have hid : (c :: r).rtakeWhile notSeparator = r.rtakeWhile notSeparator := by
    rw [← List.nil_append (c :: r), Text.rtakeWhile_append_cons _ _ hc]
  refine ⟨c, r.rdropWhile notSeparator, notSeparator_eq_false_iff.mp hc, ?_, ?_⟩
  · intro d hd
    obtain ⟨hne, rfl⟩ := List.mem_getLast?_eq_getLast hd
    exact notSeparator_eq_false_iff.mp (by simpa using List.rdropWhile_last_not notSeparator r hne)
  · rw [hid, List.rdropWhile_append_rtakeWhile]

/-- An address that an id is read off has the form. -/
theorem exists_form {v : Text} (h : (flatFields v).2.2 ≠ []) : ∃ f : FlatForm, f.Proper ∧ f.text = v := by
  let r := (v.dropWhile (· != ':')).tail
  have hid : (flatFields v).2.2 = (r.dropWhile notSeparator).rtakeWhile notSeparator := rfl
  obtain ⟨separator, between, hseparator, hbetween, hbehind⟩ := exists_between h
  have hcolon : ':' ∈ v := by
    by_contra hnot
    rw [(Text.cut_all (Text.bne_of_not_mem hnot)).2] at hbehind
    cases hbehind
  refine ⟨⟨v.takeWhile (· != ':'), r.takeWhile notSeparator, separator, between, (flatFields v).2.2⟩,
    ⟨?host, ?port, hseparator, hbetween, h, ?id⟩, ?text⟩
  case host => exact Text.not_mem_takeWhile_bne v ':'
  case port => exact fun d hd => notSeparator_iff.mp (List.mem_takeWhile_imp hd)
  case id =>
    intro d hd
    rw [hid] at hd
    exact notSeparator_iff.mp (List.mem_rtakeWhile_imp hd)
  case text =>
    have hr : r.takeWhile notSeparator ++ separator :: (between ++ (flatFields v).2.2) = r := by
      rw [hid, ← hbehind]
      exact List.takeWhile_append_dropWhile
    calc FlatForm.text _ = v.takeWhile (· != ':') ++
          ':' :: (r.takeWhile notSeparator ++ separator :: (between ++ (flatFields v).2.2)) := by
            simp only [FlatForm.text, List.append_assoc, List.cons_append]
      _ = v.takeWhile (· != ':') ++ ':' :: r := by rw [hr]
      _ = v := Text.takeWhile_append_cons hcolon

/-! ## Flat urls -/

theorem foundFlat_text {f : FlatForm} (h : f.Proper) : foundFlat f.text = .ok ⟨[⟨f.host, f.port⟩], f.id⟩ := by
  have hnamed : f.id.isEmpty = false := by simpa using h.named
  simp [foundFlat, flatFields_text h, hnamed]

/-- An address without the form is ambiguous. -/
theorem foundFlat_ambiguous {v : Text} (h : ¬∃ f : FlatForm, f.Proper ∧ f.text = v) :
    ∃ detail, foundFlat v = .error (.ambiguousFlat detail) := by
  have hid : (flatFields v).2.2 = [] := by
    by_contra hne
    exact h (exists_form hne)
  unfold foundFlat
  simp only [hid, List.isEmpty_nil, if_true]
  exact ⟨_, rfl⟩

/-- A url whose address is no descriptor is resolved exactly when the address has the form of a flat one, and then to
    the host, the port and the id of that form, as they stand in it; there is only one. Any other such url is refused
    as ambiguous. -/
theorem resolve_flat_form (limit : Nat) {driver : Text} (hdriver : ':' ∉ driver) (w : Text)
    (hbare : (Text.trim (behindCredentials w)).head? ≠ some '(') :
    let url := scheme.toList ++ driver ++ ':' :: w
    let outcome := (resolve limit (some url)).value
    (outcome.isComplete = true ↔ ∃ f : FlatForm, f.Proper ∧ f.text = behindCredentials w) ∧
      (∀ f : FlatForm, f.Proper → f.text = behindCredentials w → outcome = .resolved url [⟨f.host, f.port⟩] f.id) ∧
      (∀ f f' : FlatForm, f.Proper → f'.Proper → f.text = behindCredentials w → f'.text = behindCredentials w →
        f = f') ∧
      ((¬∃ f : FlatForm, f.Proper ∧ f.text = behindCredentials w) →
        ∃ detail, outcome = .unresolved url (.ambiguousFlat detail)) := by
  intro url outcome
  have houtcome : outcome = .ofFound url (foundFlat (behindCredentials w)) := by
    have hurl : url = scheme.toList ++ (driver ++ ':' :: w) := List.append_assoc _ _ _
    show (resolve limit (some url)).value = _
    rw [hurl, value_resolve_scheme, address_driver hdriver, foundAt, if_neg hbare]
  have hform : ∀ f : FlatForm, f.Proper → f.text = behindCredentials w →
      outcome = .resolved url [⟨f.host, f.port⟩] f.id := by
    intro f hf htext
    rw [houtcome, ← htext, foundFlat_text hf]
    rfl
  have hambiguous : (¬∃ f : FlatForm, f.Proper ∧ f.text = behindCredentials w) →
      ∃ detail, outcome = .unresolved url (.ambiguousFlat detail) := by
    intro hnone
    obtain ⟨detail, hfound⟩ := foundFlat_ambiguous hnone
    exact ⟨detail, by rw [houtcome, hfound]; rfl⟩
  refine ⟨⟨fun hcomplete => ?_, ?_⟩, hform, fun f f' hf hf' h h' => form_unique hf hf' (h.trans h'.symm), hambiguous⟩
  · by_contra hnone
    obtain ⟨detail, hunresolved⟩ := hambiguous hnone
    rw [hunresolved] at hcomplete
    cases hcomplete
  · rintro ⟨f, hf, htext⟩
    rw [hform f hf htext]
    rfl

/-- Blanks around the parts, a slash in the host, and more separators before the id than a flat url needs. -/
theorem resolve_flat_form_spaced :
    let form : FlatForm := ⟨" db/a".toList, "15 21".toList, '/', "x::".toList, "XE ".toList⟩
    ':' ∉ "thin".toList ∧ form.Proper ∧ behindCredentials "scott/p@ db/a:15 21/x::XE ".toList = form.text ∧
      (Text.trim (behindCredentials "scott/p@ db/a:15 21/x::XE ".toList)).head? ≠ some '(' ∧
      (resolve 64 (some "jdbc:tibero:thin:scott/p@ db/a:15 21/x::XE ".toList)).value =
        .resolved "jdbc:tibero:thin:scott/p@ db/a:15 21/x::XE ".toList [⟨" db/a".toList, "15 21".toList⟩]
          "XE ".toList := by
  intro form
  have hdriver : ':' ∉ "thin".toList := by decide
  have hproper : form.Proper := by
    refine ⟨by decide, ?_, .inr rfl, ?_, by decide, ?_⟩ <;> simp [form, IsSeparator]
  have hbehind : behindCredentials "scott/p@ db/a:15 21/x::XE ".toList = form.text := by decide
  have hbare : (Text.trim (behindCredentials "scott/p@ db/a:15 21/x::XE ".toList)).head? ≠ some '(' := by decide
  have hres := (resolve_flat_form 64 hdriver _ hbare).2.1 form hproper hbehind.symm
  exact ⟨hdriver, hproper, hbehind, hbare, hres⟩

end ConnectString.Resolve
