/-
  ConnectString.Proofs.Window.Session — windows and splits at work side by side.

  A session of splits takes the steps that a session of windows takes, and knows of no bytes. Its moves are those of
  `Split.Moves`, so that it can take each step in one way only (`runs_iff`). None of its moves breaks off, and the
  windows of its splits are the windows of the other session (`map_run_window`). Its splits never lose a character of
  the text (`over_act`).

  Main statement: whatever steps are taken over a text, none of them breaks off, each window shows the middle part of a
  split of that text, the same that the session of splits comes to, and no step but a `restore` moves a start back
  (`session_splits`).
-/

import ConnectString.Proofs.Text.Utf8
import ConnectString.Proofs.Window.Moves

namespace ConnectString.Window

/-! ## Sessions -/

namespace Session

variable {α β : Type} {act : α → Move → Except Fault α} {s : Session α}

def map (f : α → β) (s : Session α) : Session β := ⟨f s.current, f s.kept⟩

theorem run_cons (act : α → Move → Except Fault α) (s : Session α) (step : Step) (steps : List Step) :
    s.run act (step :: steps) = (s.step act step).bind fun s' => s'.run act steps := rfl

theorem map_step {act' : β → Move → Except Fault β} {f : α → β} (hf : ∀ a m, act' (f a) m = (act a m).map f)
    (s : Session α) (step : Step) : (s.map f).step act' step = (s.step act step).map (map f) := by
  cases step with
  | move m =>
    simp only [Session.step, map, hf]
    cases act s.current m <;> rfl
  | save | restore => rfl

theorem map_run {act' : β → Move → Except Fault β} {f : α → β} (hf : ∀ a m, act' (f a) m = (act a m).map f)
    (s : Session α) (steps : List Step) : (s.map f).run act' steps = (s.run act steps).map (map f) := by
  induction steps generalizing s with
  | nil => rfl
  | cons step steps ih =>
    rw [run_cons, run_cons, map_step hf]
    cases s.step act step with
    | error fault => rfl
    | ok s' => exact ih s'

structure Both (P : α → Prop) (s : Session α) : Prop where
  current : P s.current
  kept : P s.kept

theorem both_step {P : α → Prop} (hact : ∀ a m, P a → ∃ b, act a m = .ok b ∧ P b) (h : s.Both P) (step : Step) :
    ∃ s', s.step act step = .ok s' ∧ s'.Both P := by
  -- A copy is taken of a window that has the property already.
  cases step with
  | move m =>
    obtain ⟨b, hb, hP⟩ := hact s.current m h.current
    refine ⟨⟨b, s.kept⟩, ?_, hP, h.kept⟩
    rw [Session.step, hb]
    rfl
  | save => exact ⟨_, rfl, h.current, h.current⟩
  | restore => exact ⟨_, rfl, h.kept, h.kept⟩

/-- What no move breaks off and every move keeps, no session breaks off and every session keeps. -/
theorem both_run {P : α → Prop} (hact : ∀ a m, P a → ∃ b, act a m = .ok b ∧ P b) (h : s.Both P) (steps : List Step) :
    ∃ s', s.run act steps = .ok s' ∧ s'.Both P := by
  induction steps generalizing s with
  | nil => exact ⟨s, rfl, h⟩
  | cons step steps ih =>
    obtain ⟨s', hstep, h'⟩ := both_step hact h step
    rw [run_cons, hstep]
    exact ih h'

end Session

/-! ## Splits at work -/

/-- The move of a split, which never breaks off. -/
def glide (s : Split) (m : Move) : Except Fault Split := .ok (s.move m)

inductive Takes : Step → Session Split → Session Split → Prop where
  | move {m : Move} {a b kept : Split} (h : Split.Moves m a b) : Takes (.move m) ⟨a, kept⟩ ⟨b, kept⟩
  | save {a kept : Split} : Takes .save ⟨a, kept⟩ ⟨a, a⟩
  | restore {a kept : Split} : Takes .restore ⟨a, kept⟩ ⟨kept, kept⟩

inductive Runs : List Step → Session Split → Session Split → Prop where
  | nil {s : Session Split} : Runs [] s s
  | cons {step : Step} {steps : List Step} {s s' s'' : Session Split} (h : Takes step s s')
      (hrest : Runs steps s' s'') : Runs (step :: steps) s s''

variable {steps : List Step} {s s' : Session Split}

theorem takes_iff {step : Step} : Takes step s s' ↔ s.step glide step = .ok s' := by
  constructor
  · intro h
    cases h with
    | move h => rw [Split.moves_iff.mp h]; rfl
    | save | restore => rfl
  · intro h
    cases step with
    | move m =>
      cases h
      exact .move (Split.moves_move m _)
    | save =>
      cases h
      exact .save
    | restore =>
      cases h
      exact .restore

/-- The steps can be taken in one way only. -/
theorem runs_iff : Runs steps s s' ↔ s.run glide steps = .ok s' := by
  constructor
  · intro h
    induction h with
    | nil => rfl
    | cons h _ ih =>
      rw [Session.run_cons, takes_iff.mp h]
      exact ih
  · intro h
    induction steps generalizing s with
    | nil =>
      cases h
      exact .nil
    | cons step steps ih =>
      rw [Session.run_cons] at h
      rcases hstep : s.step glide step with fault | next
      · rw [hstep] at h
        cases h
      · rw [hstep] at h
        exact .cons (takes_iff.mpr hstep) (ih h)

theorem move_window (s : Split) (m : Move) : s.window.move m = (glide s m).map Split.window := Split.window_move s m

/-- The windows of the splits take the same steps. -/
theorem map_run_window (s : Session Split) (steps : List Step) :
    (s.map Split.window).run Window.move steps = (s.run glide steps).map (Session.map Split.window) :=
  Session.map_run move_window s steps

def Over (t : Text) (s : Split) : Prop := s.consumed ++ s.value ++ s.rest = t

theorem over_act {t : Text} (s : Split) (m : Move) (h : Over t s) : ∃ s', glide s m = .ok s' ∧ Over t s' :=
  ⟨s.move m, rfl, (Split.moves_move m s).text_eq.trans h⟩

/-! ## Windows and splits -/

/-- The window shows the middle part of the split, and both are over the text. -/
structure Shows (t : Text) (w : Window) (s : Split) : Prop where
  text : w.text = t
  parts : Over t s
  position : w.start = Text.byteLength s.consumed
  value : w.value = .ok s.value
  slice : Text.slice? t w.start w.stop = some s.value
  start_le_stop : w.start ≤ w.stop
  stop_le : w.stop ≤ Text.byteLength t
  start_boundary : Text.Boundary t w.start
  stop_boundary : Text.Boundary t w.stop

theorem shows_window {t : Text} {s : Split} (h : Over t s) : Shows t s.window s := by
  obtain ⟨c, v, r⟩ := s
  obtain rfl : c ++ v ++ r = t := h
  have hstop : Text.Boundary (c ++ v ++ r) (Text.byteLength c + Text.byteLength v) := by
    rw [← Text.byteLength_append]
    exact Text.boundary_length (c ++ v) r
  have hstart : Text.Boundary (c ++ v ++ r) (Text.byteLength c) := by
    rw [List.append_assoc]
    exact Text.boundary_length c (v ++ r)
  exact {
    text := rfl
    parts := rfl
    position := rfl
    value := Split.value_window _
    slice := Text.slice?_append c v r
    start_le_stop := Nat.le_add_right _ _
    stop_le := hstop.le
    start_boundary := hstart
    stop_boundary := hstop }

/-- No step but a `restore` moves the start back. -/
theorem start_le_step (s : Session Split) {step : Step} (h : step ≠ .restore) :
    ∃ next, (s.map Split.window).step Window.move step = .ok next ∧ s.current.window.start ≤ next.current.start := by
  rw [Session.map_step move_window]
  cases step with
  | move m =>
    obtain ⟨u, hu⟩ := (Split.moves_move m s.current).isPrefix_consumed
    refine ⟨_, rfl, ?_⟩
    show Text.byteLength s.current.consumed ≤ Text.byteLength (s.current.move m).consumed
    rw [← hu, Text.byteLength_append]
    exact Nat.le_add_right _ _
  | save => exact ⟨_, rfl, Nat.le_refl _⟩
  | restore => exact absurd rfl h

/-- A window never comes apart from the characters. Whatever steps are taken over a text, none breaks off. The session
    of splits can take them too, in one way only, and comes to splits of the text that the two windows show; and the
    next step does not break off either, and moves no start back unless it is a `restore`. -/
theorem session_splits (t : Text) (steps : List Step) :
    ∃ (windows : Session Window) (splits : Session Split),
      (Session.start (whole t)).run Window.move steps = .ok windows ∧
      (∀ splits', Runs steps (.start (.whole t)) splits' ↔ splits' = splits) ∧
      Shows t windows.current splits.current ∧ Shows t windows.kept splits.kept ∧
      ∀ step, step ≠ .restore →
        ∃ next, windows.step Window.move step = .ok next ∧ windows.current.start ≤ next.current.start := by
  have hwhole : Over t (Split.whole t) := by simp [Over, Split.whole]
  obtain ⟨splits, hrun, hcurrent, hkept⟩ :=
    Session.both_run over_act (⟨hwhole, hwhole⟩ : (Session.start (Split.whole t)).Both (Over t)) steps
  refine ⟨splits.map Split.window, splits, ?_, fun splits' => ?_, shows_window hcurrent, shows_window hkept,
    fun _ => start_le_step splits⟩
  · have hwindows := map_run_window (Session.start (Split.whole t)) steps
    rw [hrun] at hwindows
    rw [← Split.window_whole]
    exact hwindows
  · rw [runs_iff, hrun, Except.ok.injEq, eq_comm]

/-- Characters of two and of three bytes; the copy shows what was picked out first. -/
theorem session_splits_host :
    let steps := [.move (.upToAny [':']), .save, .move .onward, .move (.pastFirst ':')]
    ∃ windows, (Session.start (whole "hôst:데이터".toList)).run Window.move steps = .ok windows ∧
      Step.move (.pastLastAny ['이']) ≠ .restore ∧
      Shows "hôst:데이터".toList windows.current ⟨"hôst:".toList, "데이터".toList, []⟩ ∧
      Shows "hôst:데이터".toList windows.kept ⟨[], "hôst".toList, ":데이터".toList⟩ ∧
      ∃ next, windows.step Window.move (.move (.pastLastAny ['이'])) = .ok next ∧
        windows.current.start ≤ next.current.start := by
  intro steps
  obtain ⟨windows, splits, hrun, hruns, hcurrent, hkept, hnext⟩ := session_splits "hôst:데이터".toList steps
  have hsplits : ⟨⟨"hôst:".toList, "데이터".toList, []⟩, ⟨[], "hôst".toList, ":데이터".toList⟩⟩ = splits :=
    (hruns _).mp (runs_iff.mpr (by rfl))
  subst hsplits
  exact ⟨windows, hrun, by decide, hcurrent, hkept, hnext _ (by decide)⟩

end ConnectString.Window
