/-
  ConnectString.Proofs.Descriptor.Degenerate — nodes without children, put into a descriptor.

  A walk that comes to a node `(KEY=)` adds nothing for it, unless it is an address: every address is an endpoint, and
  one that names neither host nor port is an endpoint without either (`contribution_degenerate`). Where a walk does not
  come, below a node that hides it, nothing is added for any node (`widened_contribution`).

  Main statement: a node without children that is put in anywhere leaves the summary of a root as it was, but for an
  address that a walk comes to. That one is an endpoint more, at its place among the others (`summary_of_degenerate`,
  `degenerate_address_shows`).
-/

import ConnectString.Proofs.Descriptor.Edit

namespace ConnectString.Descriptor

open Description

/-- A node `(KEY=)`. -/
def degenerate (key : Text) : Tree := .branch key []

/-- The second tree is the first one with `n` as a further child of one of its branches; the path holds the keys from
    the root to that branch. -/
inductive Inserted (n : Tree) : List Text → Tree → Tree → Prop
  | here (k : Text) (us vs : List Tree) : Inserted n [k] (.branch k (us ++ vs)) (.branch k (us ++ n :: vs))
  | inside (k : Text) (us vs : List Tree) {path : List Text} {t t' : Tree} (h : Inserted n path t t') :
      Inserted n (k :: path) (.branch k (us ++ t :: vs)) (.branch k (us ++ t' :: vs))

def clear (path : List Text) : Bool := path.all fun k => !(Kind.ofKey k).hides

/-- The walk that starts at the DESCRIPTION at the start of this path comes to the children at its end. -/
def entered : List Text → Bool
  | [] => false
  | k :: inner => Kind.ofKey k == .description && clear inner

/-- A walk comes to the children at the end of this path from a root: it starts at the root or at an entry of the
    DESCRIPTION_LIST at the root. -/
def walked : List Text → Bool
  | [] => false
  | root :: inner => entered (root :: inner) || Kind.ofKey root == .descriptionList && entered inner

/-! ## Endpoints more -/

/-- The second description has the same id, and the endpoints of the first with some new ones among them. -/
structure Widened (new : List Endpoint) (d d' : Description) : Prop where
  endpoints : ∃ before after, d.endpoints = before ++ after ∧ d'.endpoints = before ++ new ++ after
  databaseId : d'.databaseId = d.databaseId

namespace Widened

variable {new : List Endpoint} {d d' : Description}

theorem self (d : Description) : Widened [] d d := ⟨⟨d.endpoints, [], by simp, by simp⟩, rfl⟩

theorem eq_of_nil (h : Widened [] d d') : d' = d := by
  obtain ⟨⟨before, after, hd, hd'⟩, hid⟩ := h
  have hendpoints : d'.endpoints = d.endpoints := by rw [hd, hd', List.append_nil]
  cases d
  cases d'
  simp only at hendpoints hid
  rw [hendpoints, hid]

/-- Other descriptions before and behind make no difference. -/
theorem among (h : Widened new d d') (x y : Description) : Widened new (x.join (d.join y)) (x.join (d'.join y)) := by
  obtain ⟨⟨before, after, hd, hd'⟩, hid⟩ := h
  refine ⟨⟨x.endpoints ++ before, after ++ y.endpoints, ?_, ?_⟩, ?_⟩
  · simp [hd]
  · simp [hd']
  · simp [hid]

theorem of_join (x y : Description) : Widened new (x.join y) (x.join (join ⟨new, none⟩ y)) :=
  ⟨⟨x.endpoints, y.endpoints, rfl, by simp⟩, by simp⟩

end Widened

/-! ## What a node without children gives -/

/-- The endpoints that a node without children gives where a walk comes to it. -/
def degenerateEndpoints (key : Text) : List Endpoint := if Kind.ofKey key = .address then [⟨[], []⟩] else []

theorem contribution_degenerate (key : Text) : (degenerate key).contribution = ⟨degenerateEndpoints key, none⟩ := by
  show visit empty (.branch key []) = _
  unfold visit degenerateEndpoints
  cases Kind.ofKey key <;> rfl

/-- The endpoints that come up to the start of a path from a place at its end that gives `new`. -/
def through (path : List Text) (new : List Endpoint) : List Endpoint := if clear path then new else []

theorem through_cons (k : Text) (path : List Text) (new : List Endpoint) :
    through (k :: path) new = if (Kind.ofKey k).hides then [] else through path new := by
  unfold through clear
  rw [List.all_cons]
  cases (Kind.ofKey k).hides <;> rfl

/-! ## Walks -/

/-- A branch among the children names nothing. -/
theorem childText?_insert_branch (k key : Text) (us vs ts : List Tree) (kind : Kind) :
    (Tree.branch k (us ++ .branch key ts :: vs)).childText? kind = (Tree.branch k (us ++ vs)).childText? kind := by
  show List.findSome? Tree.text? (List.filter _ (us ++ .branch key ts :: vs)) =
    List.findSome? Tree.text? (List.filter _ (us ++ vs))
  rw [List.filter_append, List.filter_append, List.findSome?_append, List.findSome?_append, List.filter_cons]
  split <;> rfl

variable {key : Text} {path : List Text} {t t' : Tree}

/-- A node is put into a branch, and what the branch itself names stays. -/
theorem Inserted.exists_branch (h : Inserted (degenerate key) path t t') :
    ∃ k inner ts ts', path = k :: inner ∧ t = .branch k ts ∧ t' = .branch k ts' ∧
      ∀ kind, t'.childText? kind = t.childText? kind := by
  induction h with
  | here k us vs => exact ⟨k, [], _, _, rfl, rfl, rfl, childText?_insert_branch k key us vs []⟩
  | inside k us vs h ih =>
    obtain ⟨k', inner, ts, ts', -, rfl, rfl, -⟩ := ih
    refine ⟨k, _, _, _, rfl, rfl, rfl, fun kind => ?_⟩
    rw [childText?_insert_branch, childText?_insert_branch]

/-- What comes of a branch whose children come to more. -/
theorem widened_contribution (h : Inserted (degenerate key) path t t') {new : List Endpoint}
    (hchildren : Widened (through path.tail new) (ofTree t) (ofTree t')) :
    Widened (through path new) t.contribution t'.contribution := by
  obtain ⟨k, inner, ts, ts', rfl, rfl, rfl, htexts⟩ := h.exists_branch
  rw [through_cons]
  split
  · rename_i hhides
    have hsame : (Tree.branch k ts').contribution = (Tree.branch k ts).contribution :=
      contribution_branch_congr rfl htexts fun hopen => absurd hhides (by rw [hopen]; decide)
    rw [hsame]
    exact .self _
  · rename_i hopen
    have hvisit : ∀ ts, (Tree.branch k ts).contribution = ofTree (.branch k ts) :=
      fun ts => visit_of_not_hides (t := .branch k ts) (eq_false_of_ne_true hopen)
    rw [hvisit, hvisit]
    exact hchildren

/-- The description that a branch holds, with a node put in somewhere below. -/
theorem widened_ofTree (h : Inserted (degenerate key) path t t') :
    Widened (through path.tail (degenerateEndpoints key)) (ofTree t) (ofTree t') := by
  induction h with
  | here k us vs =>
    show Widened (degenerateEndpoints key) (visitAll empty (us ++ vs)) (visitAll empty (us ++ degenerate key :: vs))
    have hnode : visit empty (degenerate key) = ⟨degenerateEndpoints key, none⟩ := contribution_degenerate key
    rw [visitAll_append, visitAll_append, visitAll_cons, hnode]
    exact .of_join _ _
  | @inside k us vs path t t' h ih =>
    show Widened (through path (degenerateEndpoints key)) (visitAll empty (us ++ t :: vs)) (visitAll empty (us ++ t' :: vs))
    rw [visitAll_append, visitAll_append, visitAll_cons, visitAll_cons]
    exact (widened_contribution h ih).among _ _

/-! ## Lists -/

def DescriptionList.joined (l : DescriptionList) : Description := ⟨l.endpoints, l.databaseId⟩

theorem joined_append (ds ds' : List Description) :
    (DescriptionList.mk (ds ++ ds')).joined = (DescriptionList.mk ds).joined.join (DescriptionList.mk ds').joined := by
  simp [DescriptionList.joined, DescriptionList.endpoints, DescriptionList.databaseId, join, List.findSome?_append]

theorem joined_cons (d : Description) (ds : List Description) :
    (DescriptionList.mk (d :: ds)).joined = d.join (DescriptionList.mk ds).joined := by
  simp only [DescriptionList.joined, DescriptionList.endpoints, DescriptionList.databaseId, join, List.flatMap_cons,
    List.findSome?_cons]
  cases d.databaseId <;> rfl

def entryOf (t : Tree) : Description := if t.kind = .description then ofTree t else empty

theorem joined_insert (k : Text) (us vs : List Tree) (t : Tree) :
    (DescriptionList.ofTree (.branch k (us ++ t :: vs))).joined =
      (DescriptionList.ofTree (.branch k us)).joined.join
        ((entryOf t).join (DescriptionList.ofTree (.branch k vs)).joined) := by
  have hsplit : DescriptionList.ofTree (.branch k (us ++ t :: vs)) =
      ⟨(DescriptionList.ofTree (.branch k us)).descriptions ++
        (DescriptionList.ofTree (.branch k (t :: vs))).descriptions⟩ := by
    simp [DescriptionList.ofTree, Tree.children]
  rw [hsplit, joined_append]
  congr 1
  unfold entryOf DescriptionList.ofTree
  by_cases ht : t.kind = .description
  · rw [Tree.children, List.filter_cons_of_pos (by simpa using ht), List.map_cons, joined_cons, if_pos ht]
    rfl
  · rw [Tree.children, List.filter_cons_of_neg (by simpa using ht), if_neg ht, empty_join]
    rfl

theorem joined_ofTree_append (k : Text) (us vs : List Tree) :
    (DescriptionList.ofTree (.branch k (us ++ vs))).joined =
      (DescriptionList.ofTree (.branch k us)).joined.join (DescriptionList.ofTree (.branch k vs)).joined := by
  rw [← joined_append]
  simp [DescriptionList.ofTree, Tree.children]

/-- An entry without children gives nothing to a list. -/
theorem entryOf_degenerate (key : Text) : entryOf (degenerate key) = empty := by
  unfold entryOf
  split <;> rfl

/-- The endpoints that a root gets for a node without children at the end of a path. -/
def newEndpoints (path : List Text) (key : Text) : List Endpoint :=
  if walked path then degenerateEndpoints key else []

/-- The descriptions of a list, with a node put in somewhere below. -/
theorem widened_joined (h : Inserted (degenerate key) path t t') (hroot : t.kind = .descriptionList) :
    Widened (newEndpoints path key) (DescriptionList.ofTree t).joined (DescriptionList.ofTree t').joined := by
  cases h with
  | here k us vs =>
    have hkind : Kind.ofKey k = .descriptionList := hroot
    have hnew : newEndpoints [k] key = [] := by simp [newEndpoints, walked, entered, hkind]
    rw [joined_insert, entryOf_degenerate, empty_join, joined_ofTree_append, hnew]
    exact .self _
  | @inside k us vs path t t' h =>
    have hkind : Kind.ofKey k = .descriptionList := hroot
    rw [joined_insert, joined_insert]
    refine Widened.among ?_ _ _
    have hentry := widened_ofTree h
    obtain ⟨entry, inner, ts, ts', rfl, rfl, rfl, -⟩ := h.exists_branch
    have hnew : newEndpoints (k :: entry :: inner) key =
        if Kind.ofKey entry = .description then through inner (degenerateEndpoints key) else [] := by
      by_cases hone : Kind.ofKey entry = .description <;> simp [newEndpoints, walked, entered, through, hkind, hone]
    have hself : ∀ ts, entryOf (.branch entry ts) =
        if Kind.ofKey entry = .description then ofTree (.branch entry ts) else empty := fun _ => rfl
    rw [hnew, hself, hself]
    split
    · exact hentry
    · exact .self _

/-! ## Whole descriptors -/

theorem widened_description (h : Inserted (degenerate key) path t t') (hroot : t.kind = .description) :
    Widened (newEndpoints path key) (ofTree t) (ofTree t') := by
  have hwidened := widened_ofTree h
  obtain ⟨k, inner, ts, ts', rfl, rfl, rfl, -⟩ := h.exists_branch
  have hkind : Kind.ofKey k = .description := hroot
  have hnew : newEndpoints (k :: inner) key = through inner (degenerateEndpoints key) := by
    simp [newEndpoints, walked, entered, through, hkind]
  rw [hnew]
  exact hwidened

theorem Inserted.key_eq (h : Inserted (degenerate key) path t t') : t'.key = t.key := by
  obtain ⟨k, inner, ts, ts', -, rfl, rfl, -⟩ := h.exists_branch
  rfl

/-- A root that is neither a DESCRIPTION nor a list of them is no start of a walk. -/
theorem kind_of_walked (h : Inserted (degenerate key) path t t') (hwalked : walked path = true) :
    t.kind = .description ∨ t.kind = .descriptionList := by
  obtain ⟨k, inner, ts, ts', rfl, rfl, rfl, -⟩ := h.exists_branch
  show Kind.ofKey k = .description ∨ Kind.ofKey k = .descriptionList
  simp only [walked, entered, Bool.or_eq_true, Bool.and_eq_true, beq_iff_eq] at hwalked
  exact hwalked.imp And.left And.left

def summaryAt (root : Kind) (d : Description) : Summary :=
  ⟨d.endpoints, d.databaseId, d.databaseId.isSome || (root == .descriptionList && !d.endpoints.isEmpty)⟩

/-- A root's summary before and after a node is put in: a refusal both times, or descriptions that differ by the new
    endpoints. -/
theorem summary_of_inserted (h : Inserted (degenerate key) path t t') :
    (∃ d d', Widened (newEndpoints path key) d d' ∧ t.summary = .ok (summaryAt t.kind d) ∧
        t'.summary = .ok (summaryAt t.kind d')) ∨
      (walked path = false ∧ t'.summary = t.summary) := by
  have hkind : t'.kind = t.kind := congrArg Kind.ofKey h.key_eq
  by_cases hone : t.kind = .description
  · refine .inl ⟨_, _, widened_description h hone, ?_, ?_⟩
    · rw [summary_of_description hone, hone]
      simp [summaryAt, Spec.summary, Spec.endpoints, Spec.databaseId, Spec.isComplete]
    · rw [summary_of_description (hkind.trans hone), hone]
      simp [summaryAt, Spec.summary, Spec.endpoints, Spec.databaseId, Spec.isComplete]
  by_cases hlist : t.kind = .descriptionList
  · refine .inl ⟨_, _, widened_joined h hlist, ?_, ?_⟩
    · rw [summary_of_descriptionList hlist, hlist]
      rfl
    · rw [summary_of_descriptionList (hkind.trans hlist), hlist]
      rfl
  · refine .inr ⟨?_, ?_⟩
    · by_contra hwalked
      exact (kind_of_walked h (eq_true_of_ne_false hwalked)).elim hone hlist
    · rw [summary_of_unknown hone hlist, summary_of_unknown (hkind ▸ hone) (hkind ▸ hlist), h.key_eq]

/-- A node without children leaves the summary of a root as it was, wherever it is put in, unless it is an address that
    a walk comes to. Such an address is one endpoint more, without host and port: the others stay and so does the
    id, but for a list the new endpoint is enough to connect. -/
theorem summary_of_degenerate (h : Inserted (degenerate key) path t t') :
    (¬(Kind.ofKey key = .address ∧ walked path = true) → t'.summary = t.summary) ∧
      (Kind.ofKey key = .address → walked path = true →
        ∃ s s' : Summary, t.summary = .ok s ∧ t'.summary = .ok s' ∧
          (∃ before after, s.endpoints = before ++ after ∧ s'.endpoints = before ++ ⟨[], []⟩ :: after) ∧
          s'.databaseId = s.databaseId ∧
          s'.isComplete = (s.isComplete || t.kind == .descriptionList)) := by
  constructor
  · intro hnot
    have hnew : newEndpoints path key = [] := by
      unfold newEndpoints degenerateEndpoints
      split
      · rename_i hwalked
        exact if_neg fun haddress => hnot ⟨haddress, hwalked⟩
      · rfl
    rcases summary_of_inserted h with ⟨d, d', hwidened, hs, hs'⟩ | ⟨-, hsame⟩
    · rw [hnew] at hwidened
      rw [hs, hs', hwidened.eq_of_nil]
    · exact hsame
  · intro haddress hwalked
    have hnew : newEndpoints path key = [⟨[], []⟩] := by
      rw [newEndpoints, if_pos hwalked, degenerateEndpoints, if_pos haddress]
    rcases summary_of_inserted h with ⟨d, d', ⟨⟨before, after, hd, hd'⟩, hid⟩, hs, hs'⟩ | ⟨hnot, -⟩
    · rw [hnew] at hd'
      refine ⟨_, _, hs, hs', ⟨before, after, hd, hd'.trans (by simp)⟩, hid, ?_⟩
      show (d'.databaseId.isSome || _) = ((d.databaseId.isSome || _) || _)
      rw [hid, hd']
      cases d.databaseId.isSome <;> cases t.kind == .descriptionList <;> simp
    · rw [hnot] at hwalked
      cases hwalked

/-- Connect data that hold a service name without a text, and a SID behind it. -/
theorem summary_of_degenerate_service :
    let before := Tree.branch "DESCRIPTION".toList [.branch "CONNECT_DATA".toList [.leaf "SID".toList "s".toList]]
    let after := Tree.branch "DESCRIPTION".toList
      [.branch "CONNECT_DATA".toList [degenerate "SERVICE_NAME".toList, .leaf "SID".toList "s".toList]]
    Inserted (degenerate "SERVICE_NAME".toList) ["DESCRIPTION".toList, "CONNECT_DATA".toList] before after ∧
      after.summary = before.summary := by
  intro before after
  have hinserted : Inserted (degenerate "SERVICE_NAME".toList) ["DESCRIPTION".toList, "CONNECT_DATA".toList]
      before after :=
    .inside _ [] [] (.here _ [] [.leaf "SID".toList "s".toList])
  exact ⟨hinserted, (summary_of_degenerate hinserted).1 (by decide)⟩

/-- An address without children is an endpoint without host and port. -/
theorem degenerate_address_shows :
    let before := Tree.branch "DESCRIPTION".toList [.branch "CONNECT_DATA".toList [.leaf "SID".toList "s".toList]]
    let after := Tree.branch "DESCRIPTION".toList
      [degenerate "ADDRESS".toList, .branch "CONNECT_DATA".toList [.leaf "SID".toList "s".toList]]
    Inserted (degenerate "ADDRESS".toList) ["DESCRIPTION".toList] before after ∧
      before.summary = .ok ⟨[], some "s".toList, true⟩ ∧
      after.summary = .ok ⟨[⟨[], []⟩], some "s".toList, true⟩ ∧ after.summary ≠ before.summary := by
  intro before after
  have hbefore : before.summary = .ok ⟨[], some "s".toList, true⟩ := by rfl
  have hafter : after.summary = .ok ⟨[⟨[], []⟩], some "s".toList, true⟩ := by rfl
  refine ⟨.here _ [] [.branch "CONNECT_DATA".toList [.leaf "SID".toList "s".toList]], hbefore, hafter, ?_⟩
  rw [hbefore, hafter]
  decide

end ConnectString.Descriptor
