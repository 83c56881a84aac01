/-
  ConnectString.Proofs.Descriptor.Route — network paths, and the trees that spell them out.

  A route is what a DESCRIPTION is written for: addresses, by themselves or under ADDRESS_LISTs, and the id of a
  database if it is named. Its tree gives back its endpoints and its id (`ofTree_tree`), and so does the tree of
  several routes for each of them (`ofTree_listTree`). Where the values are texts that are read back as they are
  written, and nest no deeper than the limit leaves room for, so is the whole tree (`printable_tree`,
  `printable_listTree`).
-/

import ConnectString.Proofs.Descriptor.Extraction
import ConnectString.Proofs.Descriptor.RoundTrip

namespace ConnectString.Descriptor

/-! ## Keys -/

def Kind.spelling (k : Kind) : Text := (k.literal?.getD "").toList

theorem Kind.ofKey_spelling {k : Kind} (h : k ≠ .other) : Kind.ofKey k.spelling = k := by
  obtain ⟨s, hs⟩ : ∃ s, k.literal? = some s := by
    cases k <;> first | exact ⟨_, rfl⟩ | exact absurd rfl h
  rw [spelling, hs]
  exact ofKey_literal k s hs

instance (k : Text) : Decidable (Plain k) := List.decidableBAll (fun c => c ≠ '(' ∧ c ≠ ')' ∧ c ≠ '=') k

theorem printableKey_spelling {k : Kind} (h : k ≠ .other) : PrintableKey k.spelling := by
  cases k <;> first | exact ⟨by decide, by decide, by decide⟩ | exact absurd rfl h

/-! ## Routes -/

inductive AddressGroup where
  | single (e : Endpoint)
  /-- Together under an ADDRESS_LIST. -/
  | list (es : List Endpoint)
  deriving DecidableEq, Repr

inductive IdKey where
  | serviceName
  | sid
  deriving DecidableEq, Repr

structure Route where
  /-- The addresses in front of the CONNECT_DATA. -/
  before : List AddressGroup
  /-- The id of the database, and the key that it stands under. -/
  id? : Option (IdKey × Text)
  after : List AddressGroup
  deriving DecidableEq, Repr

def AddressGroup.endpoints : AddressGroup → List Endpoint
  | single e => [e]
  | list es => es

def IdKey.kind : IdKey → Kind
  | serviceName => .serviceName
  | sid => .sid

namespace Route

def endpoints (r : Route) : List Endpoint := (r.before ++ r.after).flatMap AddressGroup.endpoints

def databaseId (r : Route) : Option Text := r.id?.map Prod.snd

def description (r : Route) : Description := ⟨r.endpoints, r.databaseId⟩

def values (r : Route) : List Text := r.endpoints.flatMap (fun e => [e.host, e.port]) ++ r.databaseId.toList

end Route

def deepest (values : List Text) : Nat := (values.map Text.nesting).foldr max 0

theorem nesting_le_deepest {values : List Text} {v : Text} (h : v ∈ values) : Text.nesting v ≤ deepest values := by
  induction values with
  | nil => cases h
  | cons u values ih =>
    rw [deepest, List.map_cons, List.foldr_cons]
    rcases List.mem_cons.mp h with rfl | h
    · exact Nat.le_max_left _ _
    · exact Nat.le_trans (ih h) (Nat.le_max_right _ _)

/-! ## Trees -/

def addressTree (e : Endpoint) : Tree :=
  .branch Kind.address.spelling [.leaf Kind.host.spelling e.host, .leaf Kind.port.spelling e.port]

def AddressGroup.tree : AddressGroup → Tree
  | single e => addressTree e
  | list es => .branch Kind.addressList.spelling (es.map addressTree)

def connectDataTree (id : IdKey × Text) : Tree :=
  .branch Kind.connectData.spelling [.leaf id.1.kind.spelling id.2]

def Route.parts (r : Route) : List Tree :=
  r.before.map AddressGroup.tree ++ r.id?.toList.map connectDataTree ++ r.after.map AddressGroup.tree

def Route.tree (r : Route) : Tree := .branch Kind.description.spelling r.parts

def listTree (routes : List Route) : Tree := .branch Kind.descriptionList.spelling (routes.map Route.tree)

/-! ## What the trees describe -/

open Description

theorem visit_addressTree (e : Endpoint) : visit empty (addressTree e) = ⟨[e], none⟩ := by
  have hhost : (addressTree e).childText? .host = some e.host := by
    simp [addressTree, Tree.childText?, Tree.children, Tree.kind, Tree.key, Tree.text?, Kind.ofKey_spelling]
  have hport : (addressTree e).childText? .port = some e.port := by
    simp [addressTree, Tree.childText?, Tree.children, Tree.kind, Tree.key, Tree.text?, Kind.ofKey_spelling]
  have hendpoint : (addressTree e).endpoint = e := by
    rw [Tree.endpoint, hhost, hport]
    rfl
  rw [addressTree] at hendpoint ⊢
  simp only [visit, Kind.ofKey_spelling (by decide : Kind.address ≠ .other), hendpoint]
  rfl

theorem visit_connectDataTree (id : IdKey × Text) : visit empty (connectDataTree id) = ⟨[], some id.2⟩ := by
  have hid : (connectDataTree id).databaseId? = some id.2 := by
    obtain ⟨key, s⟩ := id
    cases key <;>
      simp [connectDataTree, IdKey.kind, Tree.databaseId?, Tree.childText?, Tree.children, Tree.kind, Tree.key,
        Tree.text?, Kind.ofKey_spelling]
  rw [connectDataTree] at hid ⊢
  simp only [visit, Kind.ofKey_spelling (by decide : Kind.connectData ≠ .other), hid]
  rfl

theorem visit_addressGroup (g : AddressGroup) : visit empty g.tree = ⟨g.endpoints, none⟩ := by
  cases g with
  | single e => exact visit_addressTree e
  | list es =>
    have hwalk : visitAll empty (es.map addressTree) = ⟨es, none⟩ := by
      induction es with
      | nil => rfl
      | cons e es ih =>
        rw [List.map_cons, visitAll_cons, ih, visit_addressTree]
        rfl
    rw [AddressGroup.tree, visit, Kind.ofKey_spelling (by decide)]
    exact hwalk

theorem visitAll_addressGroups (gs : List AddressGroup) :
    visitAll empty (gs.map AddressGroup.tree) = ⟨gs.flatMap AddressGroup.endpoints, none⟩ := by
  induction gs with
  | nil => rfl
  | cons g gs ih =>
    rw [List.map_cons, visitAll_cons, ih, visit_addressGroup]
    rfl

/-- The tree of a route describes the route. -/
theorem ofTree_tree (r : Route) : Description.ofTree r.tree = r.description := by
  have hid : visitAll empty (r.id?.toList.map connectDataTree) = ⟨[], r.databaseId⟩ := by
    unfold Route.databaseId
    rcases r.id? with _ | id
    · rfl
    · rw [Option.toList_some, List.map_singleton, visitAll_cons, visit_connectDataTree]
      rfl
  show visitAll empty r.parts = _
  rw [Route.parts, visitAll_append, visitAll_append, visitAll_addressGroups, visitAll_addressGroups, hid]
  simp [join, Route.description, Route.endpoints]

/-- The tree of several routes describes each of them. -/
theorem ofTree_listTree (routes : List Route) :
    (DescriptionList.ofTree (listTree routes)).descriptions = routes.map Route.description := by
  have hkind : ∀ t ∈ routes.map Route.tree, (t.kind == Kind.description) = true := by
    intro t ht
    obtain ⟨r, -, rfl⟩ := List.mem_map.mp ht
    exact beq_iff_eq.mpr (Kind.ofKey_spelling (by decide))
  show (List.filter _ (routes.map Route.tree)).map Description.ofTree = _
  rw [List.filter_eq_self.mpr hkind, List.map_map]
  exact List.map_congr_left fun r _ => ofTree_tree r

/-! ## Trees that are read back -/

variable {limit depth : Nat}

/-- A value that a leaf at the given depth is read back with. -/
structure Fits (limit depth : Nat) (v : Text) : Prop where
  printable : PrintableText v
  shallow : depth + Text.nesting v ≤ limit

/-- A value that fits at some depth fits further out. -/
theorem Fits.outward {depth' : Nat} {v : Text} (h : Fits limit depth v) (hle : depth' ≤ depth) :
    Fits limit depth' v where
  printable := h.printable
  shallow := by
    have := h.shallow
    omega

theorem printable_addressTree {e : Endpoint} (hd : depth ≤ limit)
    (h : Fits limit (depth + 1) e.host ∧ Fits limit (depth + 1) e.port) : Printable limit depth (addressTree e) := by
  refine printable_branch (printableKey_spelling (by decide)) hd ?_
  intro t ht
  rcases List.mem_cons.mp ht with rfl | ht
  · exact printable_leaf (printableKey_spelling (by decide)) h.1.printable h.1.shallow
  · rw [List.mem_singleton.mp ht]
    exact printable_leaf (printableKey_spelling (by decide)) h.2.printable h.2.shallow

theorem printable_addressGroup {g : AddressGroup} (hd : depth + 1 ≤ limit)
    (h : ∀ e ∈ g.endpoints, Fits limit (depth + 2) e.host ∧ Fits limit (depth + 2) e.port) :
    Printable limit depth g.tree := by
  cases g with
  | single e =>
    have he := h e (List.mem_singleton.mpr rfl)
    exact printable_addressTree (by omega) ⟨he.1.outward (by omega), he.2.outward (by omega)⟩
  | list es =>
    refine printable_branch (printableKey_spelling (by decide)) (by omega) ?_
    intro t ht
    obtain ⟨e, he, rfl⟩ := List.mem_map.mp ht
    exact printable_addressTree hd (h e he)

theorem printable_connectDataTree {id : IdKey × Text} (hd : depth ≤ limit) (h : Fits limit (depth + 1) id.2) :
    Printable limit depth (connectDataTree id) := by
  have hkey : PrintableKey id.1.kind.spelling := by
    cases id.1 <;> exact printableKey_spelling (by decide)
  refine printable_branch (printableKey_spelling (by decide)) hd ?_
  intro t ht
  rw [List.mem_singleton.mp ht]
  exact printable_leaf hkey h.printable h.shallow

theorem Route.mem_values_of_endpoint {r : Route} {e : Endpoint} (h : e ∈ r.endpoints) :
    e.host ∈ r.values ∧ e.port ∈ r.values :=
  ⟨List.mem_append_left _ (List.mem_flatMap.mpr ⟨e, h, List.mem_cons_self⟩),
    List.mem_append_left _ (List.mem_flatMap.mpr ⟨e, h, List.mem_cons_of_mem _ List.mem_cons_self⟩)⟩

theorem Route.mem_values_of_id {r : Route} {id : IdKey × Text} (h : r.id? = some id) : id.2 ∈ r.values := by
  refine List.mem_append_right _ ?_
  rw [databaseId, h]
  exact List.mem_singleton.mpr rfl

theorem printable_tree {r : Route} (hd : depth + 2 ≤ limit) (h : ∀ v ∈ r.values, Fits limit (depth + 3) v) :
    Printable limit depth r.tree := by
  have hgroup : ∀ g ∈ r.before ++ r.after, Printable limit (depth + 1) g.tree := by
    intro g hg
    refine printable_addressGroup hd fun e he => ?_
    have hmem := r.mem_values_of_endpoint (List.mem_flatMap.mpr ⟨g, hg, he⟩)
    exact ⟨h _ hmem.1, h _ hmem.2⟩
  refine printable_branch (printableKey_spelling (by decide)) (by omega) ?_
  intro t ht
  simp only [Route.parts, List.mem_append, List.mem_map, Option.mem_toList] at ht
  rcases ht with (⟨g, hg, rfl⟩ | ⟨id, hid, rfl⟩) | ⟨g, hg, rfl⟩
  · exact hgroup g (List.mem_append_left _ hg)
  · exact printable_connectDataTree (by omega) ((h _ (r.mem_values_of_id hid)).outward (by omega))
  · exact hgroup g (List.mem_append_right _ hg)

theorem printable_listTree {routes : List Route} (hd : depth + 3 ≤ limit)
    (h : ∀ r ∈ routes, ∀ v ∈ r.values, Fits limit (depth + 4) v) : Printable limit depth (listTree routes) := by
  refine printable_branch (printableKey_spelling (by decide)) (by omega) ?_
  intro t ht
  obtain ⟨r, hr, rfl⟩ := List.mem_map.mp ht
  exact printable_tree (by omega) (h r hr)

end ConnectString.Descriptor
