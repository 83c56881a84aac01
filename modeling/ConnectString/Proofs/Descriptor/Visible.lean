/-
  ConnectString.Proofs.Descriptor.Visible — what a tree describes, told from where its nodes stand.

  `Tree.nodesBelow` lists the nodes below a root in pre-order, each with its ancestors strictly below that root. A node is
  visible from the root if none of these ancestors hides what is below it (`Tree.visible`). The description of a root
  is then a matter of its visible nodes alone, without any walk: an endpoint for each address among them, and the
  first id that connect data among them name (`Tree.described`).

  A walk comes to the same. Below a node that hides, nothing is visible (`shown_placedAll_of_hidden`); at any other
  place a walk adds just what the visible nodes of the part that it walks through have to give (`visit_eq_given`,
  `visitAll_eq_given`).

  Main statement: descriptions, lists of them and whole descriptors are extracted by this meaning
  (`extraction_visible`).
-/

import ConnectString.Proofs.Descriptor.Extraction

namespace ConnectString.Descriptor

def Kind.hides : Kind → Bool
  | address | connectData | description | descriptionList => true
  | _ => false

/-- A node below a root, with its ancestors strictly below that root, the outermost first. -/
structure Placed where
  ancestors : List Tree
  node : Tree

def Placed.isVisible (p : Placed) : Bool := p.ancestors.all fun a => !a.kind.hides

mutual

/-- A node and the nodes below it, in pre-order; `above` are the ancestors of the node itself. -/
def placed (above : List Tree) : Tree → List Placed
  | .leaf k s => [⟨above, .leaf k s⟩]
  | .branch k cs => ⟨above, .branch k cs⟩ :: placedAll (above ++ [.branch k cs]) cs

def placedAll (above : List Tree) : List Tree → List Placed
  | [] => []
  | t :: ts => placed above t ++ placedAll above ts

end

def shown (ps : List Placed) : List Tree := (ps.filter Placed.isVisible).map Placed.node

namespace Tree

/-- All nodes below the root, in pre-order. -/
def nodesBelow (root : Tree) : List Placed := placedAll [] root.children

def visible (root : Tree) : List Tree := shown root.nodesBelow

/-- The text of the first child that is a leaf of the given kind. -/
def firstText? (t : Tree) (k : Kind) : Option Text :=
  (t.children.find? fun c => c.kind == k && c.text?.isSome).bind text?

/-- Host and port of an address, each empty where no leaf names it. -/
def namedEndpoint (address : Tree) : Endpoint :=
  ⟨(address.firstText? .host).getD [], (address.firstText? .port).getD []⟩

/-- The service name of connect data or, where they have none, their SID. -/
def namedId? (connectData : Tree) : Option Text :=
  match connectData.firstText? .serviceName with
  | some name => some name
  | none => connectData.firstText? .sid

end Tree

/-- What nodes have to give that are seen in this order. -/
def given (nodes : List Tree) : Description where
  endpoints := (nodes.filter fun n => n.kind == .address).map Tree.namedEndpoint
  databaseId := (nodes.filter fun n => n.kind == .connectData).findSome? Tree.namedId?

def Tree.described (root : Tree) : Description := given root.visible

/-! ## Texts of children -/

theorem findSome?_filter_eq_bind {α β : Type} (p : α → Bool) (f : α → Option β) (l : List α) :
    (l.filter p).findSome? f = (l.find? fun a => p a && (f a).isSome).bind f := by
  induction l with
  | nil => rfl
  | cons a l ih =>
    by_cases hp : p a = true
    · rw [List.filter_cons_of_pos hp, List.findSome?_cons]
      rcases hf : f a with _ | b
      · rw [List.find?_cons_of_neg (by simp [hf])]
        exact ih
      · rw [List.find?_cons_of_pos (by simp [hp, hf]), Option.bind_some, hf]
    · rw [List.filter_cons_of_neg hp, List.find?_cons_of_neg (by simp [hp])]
      exact ih

theorem childText?_eq_firstText? (t : Tree) (k : Kind) : t.childText? k = t.firstText? k :=
  findSome?_filter_eq_bind _ _ _

theorem endpoint_eq_namedEndpoint (t : Tree) : t.endpoint = t.namedEndpoint := by
  rw [Tree.endpoint, childText?_eq_firstText?, childText?_eq_firstText?]
  rfl

theorem databaseId?_eq_namedId? (t : Tree) : t.databaseId? = t.namedId? := by
  rw [Tree.databaseId?, Tree.namedId?, childText?_eq_firstText?, childText?_eq_firstText?]
  cases t.firstText? .serviceName <;> rfl

/-! ## What is shown -/

theorem shown_append (ps qs : List Placed) : shown (ps ++ qs) = shown ps ++ shown qs := by
  simp [shown]

theorem shown_cons_of_visible {above : List Tree} (h : ∀ a ∈ above, a.kind.hides = false) (t : Tree)
    (ps : List Placed) : shown (⟨above, t⟩ :: ps) = t :: shown ps := by
  have hvisible : Placed.isVisible ⟨above, t⟩ = true := by simpa [Placed.isVisible] using h
  rw [shown, List.filter_cons_of_pos hvisible]
  rfl

mutual

/-- The ancestors of a node are among those of every node below it. -/
theorem mem_ancestors_of_placed {above : List Tree} {a : Tree} (ha : a ∈ above) :
    ∀ t : Tree, ∀ p ∈ placed above t, a ∈ p.ancestors
  | .leaf k s, p, hp => by
    obtain rfl : p = ⟨above, .leaf k s⟩ := by simpa [placed] using hp
    exact ha
  | .branch k cs, p, hp => by
    rw [placed] at hp
    rcases List.mem_cons.mp hp with rfl | hp
    · exact ha
    · exact mem_ancestors_of_placedAll (List.mem_append_left _ ha) cs p hp

theorem mem_ancestors_of_placedAll {above : List Tree} {a : Tree} (ha : a ∈ above) :
    ∀ ts : List Tree, ∀ p ∈ placedAll above ts, a ∈ p.ancestors
  | [], p, hp => by
    rw [placedAll] at hp
    cases hp
  | t :: ts, p, hp => by
    rw [placedAll] at hp
    rcases List.mem_append.mp hp with hp | hp
    · exact mem_ancestors_of_placed ha t p hp
    · exact mem_ancestors_of_placedAll ha ts p hp

end

/-- Below a node that hides, nothing is visible. -/
theorem shown_placedAll_of_hidden {above : List Tree} {a : Tree} (ha : a ∈ above) (hhides : a.kind.hides = true)
    (ts : List Tree) : shown (placedAll above ts) = [] := by
  have hnone : ∀ p ∈ placedAll above ts, ¬p.isVisible = true := by
    intro p hp hvisible
    have hclear := List.all_eq_true.mp hvisible a (mem_ancestors_of_placedAll ha ts p hp)
    rw [hhides] at hclear
    cases hclear
  rw [shown, List.filter_eq_nil_iff.mpr hnone]
  rfl

/-! ## What is given -/

open Description

@[simp] theorem given_nil : given [] = empty := rfl

theorem given_append (ns ms : List Tree) : given (ns ++ ms) = (given ns).join (given ms) := by
  simp [given, join, List.findSome?_append]

theorem given_cons (n : Tree) (ns : List Tree) : given (n :: ns) = (given [n]).join (given ns) :=
  given_append [n] ns

theorem given_address {t : Tree} (h : t.kind = .address) : given [t] = ⟨[t.endpoint], none⟩ := by
  simp [given, h, endpoint_eq_namedEndpoint]

theorem given_connectData {t : Tree} (h : t.kind = .connectData) : given [t] = ⟨[], t.databaseId?⟩ := by
  simp [given, h, databaseId?_eq_namedId?]

theorem given_other {t : Tree} (haddress : t.kind ≠ .address) (hdata : t.kind ≠ .connectData) :
    given [t] = empty := by
  simp [given, haddress, hdata, empty]

/-! ## Walks -/

mutual

/-- A walk adds for a node what is visible of it and of the nodes below it, provided that nothing above hides it. -/
theorem visit_eq_given {above : List Tree} (hclear : ∀ a ∈ above, a.kind.hides = false) :
    ∀ t : Tree, visit empty t = given (shown (placed above t))
  | .leaf k s => by
    have hkind : (Tree.leaf k s).kind = Kind.ofKey k := rfl
    rw [placed, shown_cons_of_visible hclear]
    show visit empty (.leaf k s) = given [.leaf k s]
    unfold visit
    cases hk : Kind.ofKey k with
    | address =>
      rw [given_address (hkind.trans hk)]
      rfl
    | connectData =>
      rw [given_connectData (hkind.trans hk)]
      simp [empty]
    | _ => rw [given_other (by rw [hkind, hk]; decide) (by rw [hkind, hk]; decide)]
  | .branch k cs => by
    have hkind : (Tree.branch k cs).kind = Kind.ofKey k := rfl
    -- A node that hides gives what it gives by itself: nothing below it is shown.
    have hself : (Kind.ofKey k).hides = true →
        given (shown (placed above (.branch k cs))) = given [.branch k cs] := by
      intro hhides
      have hlast : Tree.branch k cs ∈ above ++ [.branch k cs] := by simp
      rw [placed, shown_cons_of_visible hclear, shown_placedAll_of_hidden hlast hhides]
    -- Any other node but an address and connect data gives what the nodes below it give.
    have hthrough : (Kind.ofKey k).hides = false →
        given (shown (placed above (.branch k cs))) = visitAll empty cs := by
      intro hopen
      have haddress : (Tree.branch k cs).kind ≠ .address := by
        intro h
        rw [← hkind, h] at hopen
        cases hopen
      have hdata : (Tree.branch k cs).kind ≠ .connectData := by
        intro h
        rw [← hkind, h] at hopen
        cases hopen
      have hbelow : ∀ a ∈ above ++ [.branch k cs], a.kind.hides = false := by
        intro a ha
        rcases List.mem_append.mp ha with ha | ha
        · exact hclear a ha
        · rw [List.mem_singleton.mp ha, hkind, hopen]
      rw [placed, shown_cons_of_visible hclear, given_cons, given_other haddress hdata, empty_join]
      exact (visitAll_eq_given hbelow cs).symm
    unfold visit
    cases hk : Kind.ofKey k with
    | address =>
      rw [hself (by rw [hk]; rfl), given_address (hkind.trans hk)]
      rfl
    | connectData =>
      rw [hself (by rw [hk]; rfl), given_connectData (hkind.trans hk)]
      simp [empty]
    | description | descriptionList =>
      rw [hself (by rw [hk]; rfl), given_other (by rw [hkind, hk]; decide) (by rw [hkind, hk]; decide)]
    | addressList | host | port | serviceName | sid | other =>
      exact (hthrough (by rw [hk]; rfl)).symm

theorem visitAll_eq_given {above : List Tree} (hclear : ∀ a ∈ above, a.kind.hides = false) :
    ∀ ts : List Tree, visitAll empty ts = given (shown (placedAll above ts))
  | [] => by simp [visitAll, placedAll, shown]
  | t :: ts => by
    rw [visitAll_cons, placedAll, shown_append, given_append, visit_eq_given hclear t, visitAll_eq_given hclear ts]

end

/-! ## Descriptions -/

/-- The description that a root holds is that of its visible nodes. -/
theorem ofTree_eq_described (root : Tree) : Description.ofTree root = root.described :=
  visitAll_eq_given (fun _ ha => absurd ha List.not_mem_nil) root.children

/-- Endpoints and id are extracted as they can be told from where the nodes of a tree stand. The endpoints of a
    DESCRIPTION are those of its visible addresses, in pre-order and as often as they come; its id is the first that
    visible connect data name. A DESCRIPTION_LIST has the endpoints of the descriptions directly below it, one behind
    the other, and the first id among theirs. The kind of the root decides between the two, and a root of any other
    kind is refused by its key. -/
theorem extraction_visible (root : Tree) :
    let entries := root.children.filter fun c => c.kind == .description
    (Description.ofTree root).endpoints =
        (root.visible.filter fun n => n.kind == .address).map Tree.namedEndpoint ∧
      (Description.ofTree root).databaseId =
        (root.visible.filter fun n => n.kind == .connectData).findSome? Tree.namedId? ∧
      (DescriptionList.ofTree root).descriptions = entries.map Tree.described ∧
      (DescriptionList.ofTree root).endpoints = entries.flatMap (fun d => d.described.endpoints) ∧
      (DescriptionList.ofTree root).databaseId = entries.findSome? (fun d => d.described.databaseId) ∧
      (root.kind = .description → (Spec.classify root).value = .ok (.one (Description.ofTree root))) ∧
      (root.kind = .descriptionList → (Spec.classify root).value = .ok (.list (DescriptionList.ofTree root))) ∧
      (root.kind ≠ .description → root.kind ≠ .descriptionList →
        (Spec.classify root).value = .error (.unknownShape root.key)) := by
  intro entries
  have hself := ofTree_eq_described root
  have hentries : (DescriptionList.ofTree root).descriptions = entries.map Tree.described := by
    rw [DescriptionList.ofTree]
    exact List.map_congr_left fun d _ => ofTree_eq_described d
  refine ⟨?endpoints, ?id, hentries, ?listEndpoints, ?listId, ?one, ?list, ?refused⟩
  case endpoints =>
    rw [hself]
    rfl
  case id =>
    rw [hself]
    rfl
  case listEndpoints =>
    rw [DescriptionList.endpoints, hentries, List.flatMap_map]
  case listId =>
    rw [DescriptionList.databaseId, hentries, List.findSome?_map]
    rfl
  case one =>
    intro hkind
    rw [value_classify, hkind]
  case list =>
    intro hkind
    rw [value_classify, hkind]
  case refused =>
    intro hone hlist
    rw [value_classify]
    split
    · exact absurd ‹_› hone
    · exact absurd ‹_› hlist
    · rfl

/-- An address below an ADDRESS_LIST is seen, and so is one below a node of no known kind; one below another address
    is not, and neither are connect data below connect data. -/
theorem extraction_visible_nested :
    let address : Text → List Tree → Tree := fun host more => .branch "ADDRESS".toList (.leaf "HOST".toList host :: more)
    let root : Tree := .branch "DESCRIPTION".toList
      [.branch "address_list".toList [address ['a'] [.leaf "PORT".toList ['1'], address ['x'] []]],
        .branch "NOTE".toList [address ['b'] []],
        .branch "CONNECT_DATA".toList [.branch "CONNECT_DATA".toList [.leaf "SID".toList ['x']]],
        .branch "CONNECT_DATA".toList [.leaf "SID".toList ['t'], .leaf "SERVICE_NAME".toList ['s']]]
    (Description.ofTree root).endpoints = [⟨['a'], ['1']⟩, ⟨['b'], []⟩] ∧
      (Description.ofTree root).databaseId = some ['s'] ∧
      (Spec.classify root).value = .ok (.one ⟨[⟨['a'], ['1']⟩, ⟨['b'], []⟩], some ['s']⟩) ∧
      (DescriptionList.ofTree (.branch "DESCRIPTION_LIST".toList [root, .leaf "NOTE".toList ['n'], root])).endpoints =
        [⟨['a'], ['1']⟩, ⟨['b'], []⟩, ⟨['a'], ['1']⟩, ⟨['b'], []⟩] := by
  intro address root
  obtain ⟨hendpoints, hid, -, -, -, hone, -, -⟩ := extraction_visible root
  obtain ⟨-, -, -, hlist, -, -, -, -⟩ :=
    extraction_visible (.branch "DESCRIPTION_LIST".toList [root, .leaf "NOTE".toList ['n'], root])
  have hseen : (root.visible.filter fun n => n.kind == .address).map Tree.namedEndpoint =
      [⟨['a'], ['1']⟩, ⟨['b'], []⟩] := by
    decide +kernel
  have hnamed : (root.visible.filter fun n => n.kind == .connectData).findSome? Tree.namedId? = some ['s'] := by
    decide +kernel
  rw [hseen] at hendpoints
  rw [hnamed] at hid
  refine ⟨hendpoints, hid, ?_, ?_⟩
  · rw [hone (by decide +kernel), ← hendpoints, ← hid]
  · rw [hlist]
    decide +kernel

end ConnectString.Descriptor
