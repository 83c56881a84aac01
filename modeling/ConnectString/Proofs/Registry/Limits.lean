/-
  ConnectString.Proofs.Registry.Limits — Tibero dialects of several limits, tried one after the other.

  A registry answers with the first complete outcome of its dialects, or with the first outcome of all
  (`value_parse`). Tibero dialects of different limits may fail differently, but what one of them resolves, every one
  of a wider limit resolves alike. So a registry of them resolves what the widest limit among them resolves, in
  whatever order they are tried (`parse_ofLimits`).
-/

import ConnectString.Proofs.Resolve.Found
import ConnectString.Registry

namespace ConnectString

namespace Registry

/-! ## The answer of a registry -/

variable {url : Option Text} {d : Dialect}

/-- A dialect that resolves the url is the last one to be asked. -/
theorem tryAll_cons_of_complete (h : (d.resolve url).value.isComplete = true) (first : Option Outcome)
    (ds : List Dialect) : tryAll url first (d :: ds) = d.resolve url := by
  rw [tryAll]
  show Logged.mk (Logged.value (ite _ _ _)) (_ ++ Logged.events (ite _ _ _)) = _
  rw [if_pos h]
  simp

/-- Behind a dialect that does not, the others are asked in turn. -/
theorem tryAll_cons_of_incomplete (h : (d.resolve url).value.isComplete = false) (first : Option Outcome)
    (ds : List Dialect) :
    tryAll url first (d :: ds) =
      ⟨(tryAll url (first.or (some (d.resolve url).value)) ds).value,
        (d.resolve url).events ++ (tryAll url (first.or (some (d.resolve url).value)) ds).events⟩ := by
  rw [tryAll]
  show Logged.mk (Logged.value (ite _ _ _)) (_ ++ Logged.events (ite _ _ _)) = _
  rw [if_neg (by simp [h])]

def outcomes (ds : List Dialect) (url : Option Text) : List Outcome := ds.map fun d => (d.resolve url).value

theorem value_tryAll (url : Option Text) (first : Option Outcome) (ds : List Dialect) :
    (tryAll url first ds).value =
      ((outcomes ds url).find? Outcome.isComplete).getD ((first.or (outcomes ds url).head?).getD (unclaimed url)) := by
  induction ds generalizing first with
  | nil => simp [tryAll, outcomes]
  | cons d ds ih =>
    unfold tryAll
    rw [Logged.value_bind]
    show Logged.value (ite _ _ _) = ((List.find? _ ((d.resolve url).value :: outcomes ds url))).getD _
    rcases hd : (d.resolve url).value.isComplete with _ | _
    · rw [if_neg (by simp), ih, List.find?_cons_of_neg (by simp [hd])]
      cases first <;> rfl
    · rw [if_pos rfl, List.find?_cons_of_pos hd]
      rfl

/-- The first complete outcome stands; where there is none, the first outcome. -/
theorem value_parse (r : Registry) (url : Option Text) :
    (r.parse url).value =
      ((outcomes r.dialects url).find? Outcome.isComplete).getD
        ((outcomes r.dialects url).head?.getD (unclaimed url)) :=
  value_tryAll url none r.dialects

/-! ## Limits -/

/-- The registry that tries the Tibero dialect with each of the limits, in order. -/
def ofLimits (limits : List Nat) : Registry := limits.foldl (fun r limit => r.add (.tibero limit)) empty

theorem dialects_foldl_add (limits : List Nat) (r : Registry) :
    (limits.foldl (fun r limit => r.add (.tibero limit)) r).dialects = r.dialects ++ limits.map Dialect.tibero := by
  induction limits generalizing r with
  | nil => simp
  | cons limit limits ih =>
    rw [List.foldl_cons, ih, List.map_cons]
    exact List.append_assoc _ _ _

theorem outcomes_ofLimits (limits : List Nat) (url : Option Text) :
    outcomes (ofLimits limits).dialects url = limits.map fun limit => (resolve limit url).value := by
  rw [ofLimits, dialects_foldl_add]
  simp [outcomes, empty, Dialect.tibero, Function.comp_def]

variable {limits : List Nat} {url : Option Text}

/-- A complete outcome under one of the limits is the answer, whichever of them that is. -/
theorem value_parse_ofLimits_of_complete {limit : Nat} (hmem : limit ∈ limits)
    (hcomplete : (resolve limit url).value.isComplete = true) :
    ((ofLimits limits).parse url).value = (resolve limit url).value := by
  rw [value_parse, outcomes_ofLimits]
  rcases hfind : (limits.map fun l => (resolve l url).value).find? Outcome.isComplete with _ | o
  · have hnone := List.find?_eq_none.mp hfind _ (List.mem_map_of_mem hmem)
    exact absurd hcomplete hnone
  · obtain ⟨other, -, rfl⟩ := List.mem_map.mp (List.mem_of_find?_eq_some hfind)
    have hother : (resolve other url).value.isComplete = true := List.find?_some hfind
    rw [Option.getD_some]
    rcases Nat.le_total other limit with hle | hle
    · exact (Resolve.resolve_complete_mono hle hother).symm
    · exact Resolve.resolve_complete_mono hle hcomplete

/-- Where no limit does, the first one has the word. -/
theorem value_parse_ofLimits_of_incomplete (limit : Nat) (limits : List Nat)
    (hincomplete : ∀ l ∈ limit :: limits, (resolve l url).value.isComplete = false) :
    ((ofLimits (limit :: limits)).parse url).value = (resolve limit url).value := by
  have hfind : ((limit :: limits).map fun l => (resolve l url).value).find? Outcome.isComplete = none := by
    rw [List.find?_eq_none]
    intro o ho
    obtain ⟨l, hl, rfl⟩ := List.mem_map.mp ho
    simp [hincomplete l hl]
  rw [value_parse, outcomes_ofLimits, hfind]
  rfl

/-- A registry resolves a url exactly when the widest of its limits does, and then to the same. So the order of the
    limits makes no difference to it, nor does one that comes twice. Where it resolves nothing, none of its limits
    does, and the first one has the word. -/
theorem parse_ofLimits (limit : Nat) (limits : List Nat) (url : Option Text) :
    let answer := ((ofLimits (limit :: limits)).parse url).value
    let widest := (resolve ((limit :: limits).max (List.cons_ne_nil limit limits)) url).value
    (answer.isComplete = true ↔ widest.isComplete = true) ∧
      (answer.isComplete = true → answer = widest) ∧
      (answer.isComplete = true → ∀ others : List Nat, (∀ l, l ∈ others ↔ l ∈ limit :: limits) →
        ((ofLimits others).parse url).value = answer) ∧
      (answer.isComplete = false →
        answer = (resolve limit url).value ∧ ∀ l ∈ limit :: limits, (resolve l url).value.isComplete = false) := by
  intro answer widest
  have hmax : (limit :: limits).max (List.cons_ne_nil limit limits) ∈ limit :: limits := List.max_mem _
  by_cases hany : ∃ l ∈ limit :: limits, (resolve l url).value.isComplete = true
  · obtain ⟨l, hl, hcomplete⟩ := hany
    have hwidest : widest = (resolve l url).value :=
      Resolve.resolve_complete_mono (List.le_max_of_mem hl) hcomplete
    have hanswer : answer = (resolve l url).value := value_parse_ofLimits_of_complete hl hcomplete
    rw [hanswer, hwidest]
    refine ⟨Iff.rfl, fun _ => rfl, fun _ others hothers => ?_, fun hfail => ?_⟩
    · exact value_parse_ofLimits_of_complete ((hothers l).mpr hl) hcomplete
    · rw [hcomplete] at hfail
      cases hfail
  · have hnone : ∀ l ∈ limit :: limits, (resolve l url).value.isComplete = false := by
      intro l hl
      rw [← Bool.not_eq_true]
      exact fun hcomplete => hany ⟨l, hl, hcomplete⟩
    have hanswer : answer = (resolve limit url).value := value_parse_ofLimits_of_incomplete limit limits hnone
    have hfail : answer.isComplete = false := hanswer ▸ hnone limit List.mem_cons_self
    have hwidest : widest.isComplete = false := hnone _ hmax
    rw [hfail, hwidest]
    exact ⟨Iff.rfl, fun h => absurd h (by decide), fun h => absurd h (by decide), fun _ => ⟨hanswer, hnone⟩⟩

/-- Of two and three, three is the limit that resolves a descriptor of this depth, whichever is tried first. -/
theorem parse_ofLimits_widest :
    let url := "jdbc:tibero:thin:@(DESCRIPTION=(ADDRESS=(HOST=h)(PORT=1))(CONNECT_DATA=(SID=s)))".toList
    let found : Outcome := .resolved url [⟨['h'], ['1']⟩] ['s']
    ((ofLimits [2, 3]).parse (some url)).value = found ∧ ((ofLimits [3, 2, 2]).parse (some url)).value = found ∧
      (resolve 2 (some url)).value = .unresolved url (.nestingTooDeep 2) := by
  intro url found
  obtain ⟨hiff, hwidest, horder, -⟩ := parse_ofLimits 2 [3] (some url)
  have hthree : (resolve 3 (some url)).value = found := by decide +kernel
  have hmax : [2, 3].max (List.cons_ne_nil 2 [3]) = 3 := by decide
  rw [hmax, hthree] at hiff hwidest
  have hcomplete := hiff.mpr rfl
  have hanswer := hwidest hcomplete
  refine ⟨hanswer, ?_, by decide +kernel⟩
  rw [← hanswer]
  exact horder hcomplete [3, 2, 2] (by simp [or_comm])

end Registry

end ConnectString
