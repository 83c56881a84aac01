/-
  ConnectString.Proofs.Descriptor.Extraction — what the nodes of a description contribute to it.

  A walk adds to the description that it started with, and what it adds does not hang on that (`visit_eq_join`,
  `visitAll_eq_join`). So what a row of nodes contributes is what its parts contribute, one behind the other
  (`visitAll_cons`, `visitAll_append`). What a whole descriptor comes to hangs on its root (`value_classify`); its
  `Tree.summary` is that without the shape it was read off.
-/

import ConnectString.Descriptor.Description

namespace ConnectString.Descriptor

namespace Description

def join (d d' : Description) : Description := ⟨d.endpoints ++ d'.endpoints, d.databaseId.or d'.databaseId⟩

@[simp] theorem endpoints_empty : empty.endpoints = [] := rfl
@[simp] theorem databaseId_empty : empty.databaseId = none := rfl
@[simp] theorem endpoints_join (d d' : Description) : (d.join d').endpoints = d.endpoints ++ d'.endpoints := rfl
@[simp] theorem databaseId_join (d d' : Description) :
    (d.join d').databaseId = d.databaseId.or d'.databaseId := rfl

@[simp] theorem join_empty (d : Description) : d.join empty = d := by simp [join]
@[simp] theorem empty_join (d : Description) : empty.join d = d := by simp [join]

theorem join_assoc (a b c : Description) : (a.join b).join c = a.join (b.join c) := by
  simp [join, Option.or_assoc]

/-! ## Walks -/

mutual

theorem visit_eq_join : ∀ (t : Tree) (d : Description), visit d t = d.join (visit empty t)
  | .leaf k s, d => by
    unfold visit
    cases Kind.ofKey k <;> simp [join]
  | .branch k cs, d => by
    unfold visit
    cases Kind.ofKey k with
    | address | connectData | description | descriptionList => simp [join]
    | addressList | host | port | serviceName | sid | other => exact visitAll_eq_join cs d

theorem visitAll_eq_join : ∀ (ts : List Tree) (d : Description), visitAll d ts = d.join (visitAll empty ts)
  | [], d => by simp [visitAll]
  | t :: ts, d => by
    rw [visitAll, visitAll, visitAll_eq_join ts (visit d t), visitAll_eq_join ts (visit empty t),
      visit_eq_join t d, join_assoc]

end

theorem visitAll_cons (t : Tree) (ts : List Tree) :
    visitAll empty (t :: ts) = (visit empty t).join (visitAll empty ts) := by
  rw [visitAll, visitAll_eq_join]

theorem visitAll_append (ts us : List Tree) :
    visitAll empty (ts ++ us) = (visitAll empty ts).join (visitAll empty us) := by
  induction ts with
  | nil => simp [visitAll]
  | cons t ts ih => rw [List.cons_append, visitAll_cons, ih, visitAll_cons, join_assoc]

/-! ## Whole descriptors -/

theorem value_classify (root : Tree) :
    (Spec.classify root).value =
      match root.kind with
      | .description => .ok (.one (ofTree root))
      | .descriptionList => .ok (.list (DescriptionList.ofTree root))
      | _ => .error (.unknownShape root.key) := by
  unfold Spec.classify
  cases root.kind <;> rfl

end Description

structure Summary where
  endpoints : List Endpoint
  databaseId : Option Text
  isComplete : Bool
  deriving DecidableEq

def Spec.summary (s : Spec) : Summary := ⟨s.endpoints, s.databaseId, s.isComplete⟩

/-- What a root comes down to, or why it is refused. -/
def Tree.summary (root : Tree) : Except Failure Summary := (Spec.classify root).value.map Spec.summary

theorem summary_of_description {root : Tree} (h : root.kind = .description) :
    root.summary = .ok (Spec.one (Description.ofTree root)).summary := by
  rw [Tree.summary, Description.value_classify, h]
  rfl

theorem summary_of_descriptionList {root : Tree} (h : root.kind = .descriptionList) :
    root.summary = .ok (Spec.list (DescriptionList.ofTree root)).summary := by
  rw [Tree.summary, Description.value_classify, h]
  rfl

theorem summary_of_unknown {root : Tree} (hone : root.kind ≠ .description) (hlist : root.kind ≠ .descriptionList) :
    root.summary = .error (.unknownShape root.key) := by
  rw [Tree.summary, Description.value_classify]
  split
  · exact absurd ‹_› hone
  · exact absurd ‹_› hlist
  · rfl

/-- A list is enough to connect as soon as one of its descriptions has anything to give. -/
theorem isComplete_list_iff (l : DescriptionList) :
    (Spec.list l).isComplete = true ↔ ∃ d ∈ l.descriptions, d.endpoints ≠ [] ∨ d.databaseId ≠ none := by
  have hid : l.databaseId.isSome = true ↔ ∃ d ∈ l.descriptions, d.databaseId ≠ none := by
    simp [DescriptionList.databaseId, Option.isSome_iff_ne_none]
  have hendpoints : (!l.endpoints.isEmpty) = true ↔ ∃ d ∈ l.descriptions, d.endpoints ≠ [] := by
    simp [DescriptionList.endpoints]
  rw [Spec.isComplete, Bool.or_eq_true, hid, hendpoints]
  constructor
  · rintro (⟨d, hd, h⟩ | ⟨d, hd, h⟩)
    · exact ⟨d, hd, .inr h⟩
    · exact ⟨d, hd, .inl h⟩
  · rintro ⟨d, hd, h | h⟩
    · exact .inr ⟨d, hd, h⟩
    · exact .inl ⟨d, hd, h⟩

end ConnectString.Descriptor
