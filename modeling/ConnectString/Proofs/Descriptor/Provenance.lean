/-
  ConnectString.Proofs.Descriptor.Provenance — where the words of a description come from.

  Hosts, ports and ids are texts of leaves, so they are as solid as those: what a description is named by is a text of
  its tree (`mem_texts_of_databaseId`). A leaf's text is a piece of what was read (`isInfix_of_mem_texts`).

  Each address is a node, and nodes that stand side by side share nothing. So the endpoints of a description are laid
  out in the text of the descriptor in their order, each in a span of its own (`laidOut_spec`).
-/

import ConnectString.Proofs.Descriptor.Extraction
import ConnectString.Proofs.Descriptor.Grammar

namespace ConnectString

/-- The endpoints stand in the text one behind the other: each has a span to itself that holds its host and its port,
    and the next one comes after it. -/
inductive LaidOut : List Endpoint → Text → Prop where
  | nil {w : Text} : LaidOut [] w
  | cons {e : Endpoint} {es : List Endpoint} {gap span rest : Text} (hhost : e.host <:+: span)
      (hport : e.port <:+: span) (hrest : LaidOut es rest) : LaidOut (e :: es) (gap ++ span ++ rest)

theorem Text.trim_isInfix (t : Text) : Text.trim t <:+: t := by
  obtain ⟨a, b, -, -, ht⟩ := Text.exists_trim_between t
  exact ⟨a, b, ht.symm⟩

/-! ## Layouts -/

theorem LaidOut.append_left {es : List Endpoint} {w : Text} (h : LaidOut es w) (a : Text) : LaidOut es (a ++ w) := by
  cases h with
  | nil => exact .nil
  | @cons e es gap span rest hhost hport hrest =>
    have hw : a ++ (gap ++ span ++ rest) = (a ++ gap) ++ span ++ rest := by simp
    rw [hw]
    exact .cons hhost hport hrest

theorem LaidOut.append {es us : List Endpoint} {w v : Text} (h : LaidOut es w) (hv : LaidOut us v) :
    LaidOut (es ++ us) (w ++ v) := by
  induction h with
  | nil => exact hv.append_left _
  | cons hhost hport _ ih =>
    rw [List.append_assoc]
    exact .cons hhost hport ih

theorem LaidOut.of_isInfix {es : List Endpoint} {w v : Text} (h : LaidOut es w) (hv : w <:+: v) : LaidOut es v := by
  obtain ⟨a, b, rfl⟩ := hv
  simpa using (h.append_left a).append (@LaidOut.nil b)

theorem LaidOut.singleton {e : Endpoint} {w : Text} (hhost : e.host <:+: w) (hport : e.port <:+: w) :
    LaidOut [e] w := by
  simpa using @LaidOut.cons e [] [] w [] hhost hport .nil

namespace Descriptor

open Description

/-! ## Texts of leaves -/

theorem mem_texts_of_childText? {t : Tree} {k : Kind} {s : Text} (h : t.childText? k = some s) : s ∈ t.texts := by
  obtain ⟨c, hc, hs⟩ := List.exists_of_findSome?_eq_some h
  have hmem : c ∈ t.children := List.mem_of_mem_filter hc
  cases c with
  | branch k' cs => cases hs
  | leaf k' s' =>
    cases hs
    cases t with
    | leaf k'' s'' => cases hmem
    | branch k'' cs => exact Tree.mem_textsAll.mpr ⟨_, hmem, List.mem_singleton.mpr rfl⟩

theorem mem_texts_of_databaseId? {t : Tree} {s : Text} (h : t.databaseId? = some s) : s ∈ t.texts := by
  rcases Option.or_eq_some_iff.mp h with h | ⟨-, h⟩
  · exact mem_texts_of_childText? h
  · exact mem_texts_of_childText? h

/-- What names the database in a join is named by one of its parts. -/
theorem databaseId_join_eq_some {d d' : Description} {s : Text} (h : (d.join d').databaseId = some s) :
    d.databaseId = some s ∨ d'.databaseId = some s := by
  rcases Option.or_eq_some_iff.mp h with h | ⟨-, h⟩
  · exact .inl h
  · exact .inr h

mutual

theorem mem_texts_of_visit : ∀ (t : Tree) {s : Text}, (visit empty t).databaseId = some s → s ∈ t.texts
  | .leaf k s', s, h => by
    unfold visit at h
    cases hk : Kind.ofKey k with
    | connectData =>
      rw [hk] at h
      exact mem_texts_of_databaseId? (by simpa using h)
    | _ => simp [hk] at h
  | .branch k cs, s, h => by
    unfold visit at h
    cases hk : Kind.ofKey k with
    | connectData =>
      rw [hk] at h
      exact mem_texts_of_databaseId? (by simpa using h)
    | address | description | descriptionList => simp [hk] at h
    | addressList | host | port | serviceName | sid | other =>
      rw [hk] at h
      exact mem_texts_of_visitAll cs h

theorem mem_texts_of_visitAll : ∀ (ts : List Tree) {s : Text},
    (visitAll empty ts).databaseId = some s → s ∈ Tree.textsAll ts
  | [], s, h => by simp [visitAll] at h
  | t :: ts, s, h => by
    rw [visitAll_cons] at h
    rcases databaseId_join_eq_some h with h | h
    · exact List.mem_append_left _ (mem_texts_of_visit t h)
    · exact List.mem_append_right _ (mem_texts_of_visitAll ts h)

end

theorem mem_texts_of_ofTree {t : Tree} {s : Text} (h : (ofTree t).databaseId = some s) : s ∈ t.texts := by
  cases t with
  | leaf k s' => simp [ofTree, Tree.children, visitAll] at h
  | branch k cs => exact mem_texts_of_visitAll cs h

/-- What a descriptor is named by is a text of its tree. -/
theorem mem_texts_of_databaseId {root : Tree} {spec : Spec} {s : Text} (h : (Spec.classify root).value = .ok spec)
    (hs : spec.databaseId = some s) : s ∈ root.texts := by
  rw [value_classify] at h
  split at h
  · cases h
    exact mem_texts_of_ofTree hs
  · cases h
    obtain ⟨d, hd, hid⟩ := List.exists_of_findSome?_eq_some hs
    obtain ⟨t, ht, rfl⟩ := List.mem_map.mp hd
    have hmem : t ∈ root.children := List.mem_of_mem_filter ht
    cases root with
    | leaf k s' => cases hmem
    | branch k cs => exact Tree.mem_textsAll.mpr ⟨t, hmem, mem_texts_of_ofTree hid⟩
  · cases h

/-! ## Pieces of what was read -/

variable {limit depth : Nat}

mutual

/-- A text of a tree is a piece of every text that denotes the tree. -/
theorem isInfix_of_mem_texts : ∀ (t : Tree) {depth : Nat} {a : Text}, Node limit depth a t →
    ∀ s ∈ t.texts, s <:+: a
  | .leaf _ _, _, _, @Node.leaf _ _ key gap s _ _ _, u, hu => by
    rw [Tree.texts, List.mem_singleton] at hu
    rw [hu]
    exact (Text.trim_isInfix s).trans ⟨opening key gap, [')'], rfl⟩
  | .branch _ _, _, _, .empty _ _ _, _, hu => absurd hu List.not_mem_nil
  | .branch _ ts, _, _, @Node.branch _ _ key gap b _ _ hbelow _, u, hu =>
    (isInfix_of_mem_textsAll ts hbelow u hu).trans ⟨opening key gap, [')'], rfl⟩

theorem isInfix_of_mem_textsAll : ∀ (ts : List Tree) {depth : Nat} {b : Text}, Nodes limit depth b ts →
    ∀ s ∈ Tree.textsAll ts, s <:+: b
  | [], _, _, _, _, hs => absurd hs List.not_mem_nil
  | t :: ts, _, _, @Nodes.cons _ _ a gap b _ _ hnode _ hrest, s, hs => by
    rcases List.mem_append.mp hs with hs | hs
    · exact (isInfix_of_mem_texts t hnode s hs).trans ⟨[], gap ++ b, by simp⟩
    · exact (isInfix_of_mem_textsAll ts hrest s hs).trans ⟨a ++ gap, [], by simp⟩

end

/-- The endpoint of an address stands in the text of its node. -/
theorem laidOut_endpoint {t : Tree} {a : Text} (h : Node limit depth a t) : LaidOut [t.endpoint] a := by
  have hpart : ∀ k : Kind, (t.childText? k).getD [] <:+: a := by
    intro k
    rcases hk : t.childText? k with _ | s
    · exact List.nil_infix
    · exact isInfix_of_mem_texts t h s (mem_texts_of_childText? hk)
  exact .singleton (hpart .host) (hpart .port)

mutual

theorem laidOut_visit : ∀ (t : Tree) {depth : Nat} {a : Text}, Node limit depth a t →
    LaidOut (visit empty t).endpoints a
  | .leaf k s, depth, a, h => by
    unfold visit
    cases Kind.ofKey k with
    | address => exact laidOut_endpoint h
    | _ => exact .nil
  | .branch k cs, depth, a, h => by
    unfold visit
    cases Kind.ofKey k with
    | address => exact laidOut_endpoint h
    | connectData | description | descriptionList => exact .nil
    | addressList | host | port | serviceName | sid | other => exact laidOut_children cs h

theorem laidOut_visitAll : ∀ (ts : List Tree) {depth : Nat} {b : Text}, Nodes limit depth b ts →
    LaidOut (visitAll empty ts).endpoints b
  | [], _, _, _ => .nil
  | t :: ts, _, _, @Nodes.cons _ _ a gap b _ _ hnode _ hrest => by
    rw [visitAll_cons, endpoints_join, List.append_assoc]
    exact (laidOut_visit t hnode).append ((laidOut_visitAll ts hrest).append_left gap)

/-- What the children of a branch contribute stands between its equals sign and its closing parenthesis. -/
theorem laidOut_children : ∀ (cs : List Tree) {k : Text} {depth : Nat} {a : Text}, Node limit depth a (.branch k cs) →
    LaidOut (visitAll empty cs).endpoints a
  | _, _, _, _, .empty _ _ _ => .nil
  | cs, _, _, _, @Node.branch _ _ key gap b _ _ hbelow _ =>
    (laidOut_visitAll cs hbelow).of_isInfix ⟨opening key gap, [')'], rfl⟩

end

theorem laidOut_ofTree {t : Tree} {a : Text} (h : Node limit depth a t) : LaidOut (ofTree t).endpoints a := by
  cases t with
  | leaf k s => exact .nil
  | branch k cs => exact laidOut_children cs h

/-- The descriptions among a row of nodes follow one another as their nodes do. -/
theorem laidOut_descriptions {ts : List Tree} {b : Text} (h : Nodes limit depth b ts) :
    LaidOut (((ts.filter fun c => c.kind == .description).map ofTree).flatMap (·.endpoints)) b := by
  induction ts generalizing b with
  | nil => exact .nil
  | cons t ts ih =>
    cases h with
    | @cons _ a gap b _ _ hnode _ hrest =>
      have hbehind := (ih hrest).append_left gap
      rw [List.append_assoc]
      by_cases hkind : t.kind = .description
      · rw [List.filter_cons_of_pos (by simpa using hkind), List.map_cons, List.flatMap_cons]
        exact (laidOut_ofTree hnode).append hbehind
      · rw [List.filter_cons_of_neg (by simpa using hkind)]
        exact hbehind.append_left a

/-- The endpoints of a descriptor are laid out in every text that denotes its tree. -/
theorem laidOut_spec {root : Tree} {text : Text} {spec : Spec} (h : Denotes limit text root)
    (hspec : (Spec.classify root).value = .ok spec) : LaidOut spec.endpoints text := by
  obtain ⟨before, a, after, -, hnode, -, rfl⟩ := h
  have hpiece : a <:+: before ++ a ++ after := ⟨before, after, rfl⟩
  rw [value_classify] at hspec
  split at hspec
  · cases hspec
    exact (laidOut_ofTree hnode).of_isInfix hpiece
  · cases hspec
    cases hnode with
    | leaf hopen hval hne => exact .nil
    | empty hopen hval hnil => exact .nil
    | @branch _ key gap b _ hopen hbelow hne =>
      have hrow : b <:+: opening key gap ++ b ++ [')'] := ⟨opening key gap, [')'], rfl⟩
      exact ((laidOut_descriptions hbelow).of_isInfix hrow).of_isInfix hpiece
  · cases hspec

/-- A text of the tree is a piece of every text that denotes the tree. -/
theorem isInfix_of_denotes {root : Tree} {text s : Text} (h : Denotes limit text root) (hs : s ∈ root.texts) :
    s <:+: text := by
  obtain ⟨before, a, after, -, hnode, -, rfl⟩ := h
  exact (isInfix_of_mem_texts root hnode s hs).trans ⟨before, after, rfl⟩

end Descriptor

end ConnectString
