/-
  ConnectString.Proofs.Descriptor.Edit — edits of a descriptor that its summary does not show.

  A walk passes through every node but addresses, connect data and nested descriptions, and adds up what the nodes of
  a row give. So it is all the same to it whether a node that it passes through is there or not, and which of two
  neighbours comes first if one gives no endpoint and the other no id (`RowEdit`, `visitAll_of_rowEdit`). Nor do the
  letters of a key count by their case, or the entries of a list that are no descriptions.

  Two trees are `Alike` if no tree around them can tell them apart. Branches with alike children are alike
  (`Alike.branch`), so an edit may stand anywhere in a tree (`alike_of_edit`).

  Main statement: a sequence of edits leaves the summary of a root as it was, or the key that the root is refused for,
  the case of its letters aside (`summary_of_edits`).
-/

import Mathlib.Logic.Relation
import Mathlib.Data.List.Forall2
import ConnectString.Proofs.Descriptor.Visible

namespace ConnectString.Descriptor

open Description

/-! ## Keys without regard to case -/

def foldKey (k : Text) : Text := k.map Char.toUpper

theorem ofKey_eq_of_foldKey {k k' : Text} (h : foldKey k = foldKey k') : Kind.ofKey k = Kind.ofKey k' := by
  unfold foldKey at h
  unfold Kind.ofKey
  rw [h]

namespace Tree

mutual

def foldCase : Tree → Tree
  | leaf k s => leaf (foldKey k) s
  | branch k cs => branch (foldKey k) (foldCaseAll cs)

def foldCaseAll : List Tree → List Tree
  | [] => []
  | t :: ts => foldCase t :: foldCaseAll ts

end

/-- What a walk adds for a node and for what is below it. -/
def contribution (t : Tree) : Description := visit empty t

end Tree

/-! ## Edits -/

inductive RowEdit : List Tree → List Tree → Prop
  /-- The children of a node that hides nothing take its place; a leaf or an empty branch goes. -/
  | unwrap (us vs : List Tree) (t : Tree) (h : t.kind.hides = false) : RowEdit (us ++ t :: vs) (us ++ t.children ++ vs)
  /-- A run of neighbours is put into a node that hides nothing. -/
  | wrap (us ts vs : List Tree) (k : Text) (h : (Kind.ofKey k).hides = false) :
      RowEdit (us ++ ts ++ vs) (us ++ .branch k ts :: vs)
  /-- Two neighbours change places, of which one gives no endpoint and the other no id. -/
  | exchange (us vs : List Tree) (a b : Tree)
      (h : (a.contribution.endpoints = [] ∧ b.contribution.databaseId = none) ∨
        (a.contribution.databaseId = none ∧ b.contribution.endpoints = [])) :
      RowEdit (us ++ a :: b :: vs) (us ++ b :: a :: vs)
  /-- An edit among the children of a node that hides nothing. -/
  | within (us vs : List Tree) (k : Text) {ts ts' : List Tree} (h : (Kind.ofKey k).hides = false)
      (hrow : RowEdit ts ts') : RowEdit (us ++ .branch k ts :: vs) (us ++ .branch k ts' :: vs)

inductive Edit : Tree → Tree → Prop
  /-- Letters of any keys change their case. -/
  | recase {t t' : Tree} (h : t.foldCase = t'.foldCase) : Edit t t'
  /-- An edit among the nodes that the walk of a DESCRIPTION comes to. -/
  | walk (k : Text) {ts ts' : List Tree} (h : Kind.ofKey k = .description) (hrow : RowEdit ts ts') :
      Edit (.branch k ts) (.branch k ts')
  /-- A DESCRIPTION_LIST loses an entry that is no DESCRIPTION. -/
  | drop (k : Text) (us vs : List Tree) (t : Tree) (h : Kind.ofKey k = .descriptionList) (ht : t.kind ≠ .description) :
      Edit (.branch k (us ++ t :: vs)) (.branch k (us ++ vs))
  /-- A DESCRIPTION_LIST gets an entry that is no DESCRIPTION. -/
  | insert (k : Text) (us vs : List Tree) (t : Tree) (h : Kind.ofKey k = .descriptionList)
      (ht : t.kind ≠ .description) : Edit (.branch k (us ++ vs)) (.branch k (us ++ t :: vs))
  /-- An edit of one node among the children of another. -/
  | within (k : Text) (us vs : List Tree) {t t' : Tree} (h : Edit t t') :
      Edit (.branch k (us ++ t :: vs)) (.branch k (us ++ t' :: vs))

/-- The same summary, or a refusal for the same key whatever the case of its letters. -/
inductive SameSummary : Except Failure Summary → Except Failure Summary → Prop
  | told (s : Summary) : SameSummary (.ok s) (.ok s)
  | refused {k k' : Text} (h : foldKey k = foldKey k') :
      SameSummary (.error (.unknownShape k)) (.error (.unknownShape k'))

/-! ## Walks over edited rows -/

/-- A walk passes through a node that hides nothing. -/
theorem visit_of_not_hides {t : Tree} (h : t.kind.hides = false) : visit empty t = visitAll empty t.children := by
  cases t with
  | leaf k s =>
    change (Kind.ofKey k).hides = false at h
    show visit empty (.leaf k s) = empty
    unfold visit
    cases hk : Kind.ofKey k with
    | address | connectData =>
      rw [hk] at h
      cases h
    | _ => rfl
  | branch k cs =>
    change (Kind.ofKey k).hides = false at h
    show visit empty (.branch k cs) = visitAll empty cs
    unfold visit
    cases hk : Kind.ofKey k with
    | address | connectData | description | descriptionList =>
      rw [hk] at h
      cases h
    | _ => rfl

/-- What a branch gives hangs on its kind, on what it names itself, and on what a walk over its children adds, if a
    walk passes through it. -/
theorem contribution_branch_congr {k k' : Text} {ts ts' : List Tree} (hkind : Kind.ofKey k = Kind.ofKey k')
    (htexts : ∀ kind, (Tree.branch k ts).childText? kind = (Tree.branch k' ts').childText? kind)
    (hwalk : (Kind.ofKey k).hides = false → visitAll empty ts = visitAll empty ts') :
    (Tree.branch k ts).contribution = (Tree.branch k' ts').contribution := by
  show visit empty (.branch k ts) = visit empty (.branch k' ts')
  unfold visit
  rw [← hkind]
  cases hk : Kind.ofKey k with
  | address | connectData | description | descriptionList => simp only [Tree.endpoint, Tree.databaseId?, htexts]
  | addressList | host | port | serviceName | sid | other => exact hwalk (by rw [hk]; rfl)

theorem join_comm_of_apart {d d' : Description} (h : d.endpoints = []) (h' : d'.databaseId = none) :
    d.join d' = d'.join d := by
  simp [join, h, h']

/-- A walk over an edited row adds the same. -/
theorem visitAll_of_rowEdit {ts ts' : List Tree} (h : RowEdit ts ts') : visitAll empty ts = visitAll empty ts' := by
  induction h with
  | unwrap us vs t h =>
    rw [List.append_assoc, visitAll_append, visitAll_append, visitAll_append, visitAll_cons, visit_of_not_hides h]
  | wrap us ts vs k h =>
    have hnode : visit empty (.branch k ts) = visitAll empty ts := visit_of_not_hides (t := .branch k ts) h
    rw [List.append_assoc, visitAll_append, visitAll_append, visitAll_append, visitAll_cons, hnode]
  | exchange us vs a b h =>
    have hcomm : (visit empty a).join (visit empty b) = (visit empty b).join (visit empty a) := by
      rcases h with ⟨ha, hb⟩ | ⟨ha, hb⟩
      · exact join_comm_of_apart ha hb
      · exact (join_comm_of_apart hb ha).symm
    have hpair : ∀ a b : Tree,
        visitAll empty (a :: b :: vs) = ((visit empty a).join (visit empty b)).join (visitAll empty vs) := by
      intro a b
      rw [visitAll_cons, visitAll_cons, join_assoc]
    rw [visitAll_append, visitAll_append, hpair, hpair, hcomm]
  | within us vs k h _ ih =>
    have hnode : ∀ ts : List Tree, visit empty (.branch k ts) = visitAll empty ts :=
      fun ts => visit_of_not_hides (t := .branch k ts) h
    rw [visitAll_append, visitAll_append, visitAll_cons, visitAll_cons, hnode, hnode, ih]

/-! ## Trees that nothing around them can tell apart -/

structure Alike (t t' : Tree) : Prop where
  key : foldKey t.key = foldKey t'.key
  text : t.text? = t'.text?
  contribution : t.contribution = t'.contribution
  description : t.kind = .description → Description.ofTree t = Description.ofTree t'
  list : t.kind = .descriptionList →
    (Spec.list (DescriptionList.ofTree t)).summary = (Spec.list (DescriptionList.ofTree t')).summary

namespace Alike

theorem kind {t t' : Tree} (h : Alike t t') : t.kind = t'.kind := ofKey_eq_of_foldKey h.key

theorem refl (t : Tree) : Alike t t := ⟨rfl, rfl, rfl, fun _ => rfl, fun _ => rfl⟩

theorem trans {a b c : Tree} (h : Alike a b) (h' : Alike b c) : Alike a c where
  key := h.key.trans h'.key
  text := h.text.trans h'.text
  contribution := h.contribution.trans h'.contribution
  description hk := (h.description hk).trans (h'.description (h.kind ▸ hk))
  list hk := (h.list hk).trans (h'.list (h.kind ▸ hk))

variable {ts ts' : List Tree}

theorem visitAll_eq (h : List.Forall₂ Alike ts ts') : visitAll empty ts = visitAll empty ts' := by
  induction h with
  | nil => rfl
  | cons ht _ ih =>
    rw [visitAll_cons, visitAll_cons, ih]
    exact congrArg (join · _) ht.contribution

theorem childText?_eq (h : List.Forall₂ Alike ts ts') (k k' : Text) (kind : Kind) :
    (Tree.branch k ts).childText? kind = (Tree.branch k' ts').childText? kind := by
  show (ts.filter fun c => c.kind == kind).findSome? Tree.text? =
    (ts'.filter fun c => c.kind == kind).findSome? Tree.text?
  induction h with
  | nil => rfl
  | cons ht _ ih =>
    rw [List.filter_cons, List.filter_cons, ht.kind]
    split
    · rw [List.findSome?_cons, List.findSome?_cons, ht.text, ih]
    · exact ih

theorem entries_eq (h : List.Forall₂ Alike ts ts') (k k' : Text) :
    DescriptionList.ofTree (.branch k ts) = DescriptionList.ofTree (.branch k' ts') := by
  have hentries : (ts.filter fun c => c.kind == .description).map Description.ofTree =
      (ts'.filter fun c => c.kind == .description).map Description.ofTree := by
    induction h with
    | nil => rfl
    | cons ht _ ih =>
      rw [List.filter_cons, List.filter_cons, ← ht.kind]
      split
      · rename_i hkind
        rw [List.map_cons, List.map_cons, ht.description (by simpa using hkind), ih]
      · exact ih
  exact congrArg DescriptionList.mk hentries

/-- Branches with alike children are alike. -/
theorem branch {k k' : Text} (hkey : foldKey k = foldKey k') (h : List.Forall₂ Alike ts ts') :
    Alike (.branch k ts) (.branch k' ts') where
  key := hkey
  text := rfl
  contribution := contribution_branch_congr (ofKey_eq_of_foldKey hkey) (childText?_eq h k k') fun _ => visitAll_eq h
  description _ := visitAll_eq h
  list _ := by rw [entries_eq h k k']

/-- A branch stays alike when one of its children does. -/
theorem within {t t' : Tree} (k : Text) (us vs : List Tree) (h : Alike t t') :
    Alike (.branch k (us ++ t :: vs)) (.branch k (us ++ t' :: vs)) :=
  branch rfl (List.rel_append (List.forall₂_same.mpr fun c _ => refl c)
    (.cons h (List.forall₂_same.mpr fun c _ => refl c)))

end Alike

mutual

theorem alike_of_foldCase_eq : ∀ t t' : Tree, t.foldCase = t'.foldCase → Alike t t'
  | .leaf k s, .leaf k' s', h => by
    rw [Tree.foldCase, Tree.foldCase, Tree.leaf.injEq] at h
    obtain ⟨hkey, rfl⟩ := h
    have hvisit : visit empty (.leaf k s) = visit empty (.leaf k' s) := by
      unfold visit
      rw [ofKey_eq_of_foldKey hkey]
      rfl
    exact ⟨hkey, rfl, hvisit, fun _ => rfl, fun _ => rfl⟩
  | .leaf _ _, .branch _ _, h => by
    rw [Tree.foldCase, Tree.foldCase] at h
    cases h
  | .branch _ _, .leaf _ _, h => by
    rw [Tree.foldCase, Tree.foldCase] at h
    cases h
  | .branch k cs, .branch k' cs', h => by
    rw [Tree.foldCase, Tree.foldCase, Tree.branch.injEq] at h
    exact .branch h.1 (alike_of_foldCaseAll_eq cs cs' h.2)

theorem alike_of_foldCaseAll_eq : ∀ ts ts' : List Tree,
    Tree.foldCaseAll ts = Tree.foldCaseAll ts' → List.Forall₂ Alike ts ts'
  | [], [], _ => .nil
  | [], _ :: _, h => by
    rw [Tree.foldCaseAll, Tree.foldCaseAll] at h
    cases h
  | _ :: _, [], h => by
    rw [Tree.foldCaseAll, Tree.foldCaseAll] at h
    cases h
  | t :: ts, t' :: ts', h => by
    rw [Tree.foldCaseAll, Tree.foldCaseAll, List.cons.injEq] at h
    exact .cons (alike_of_foldCase_eq t t' h.1) (alike_of_foldCaseAll_eq ts ts' h.2)

end

/-! ## Edited trees -/

/-- A DESCRIPTION or a list of them gives nothing to a tree that it stands in, whatever is below. -/
theorem contribution_of_entry {k : Text} (h : Kind.ofKey k = .description ∨ Kind.ofKey k = .descriptionList)
    (ts : List Tree) : (Tree.branch k ts).contribution = empty := by
  show visit empty (.branch k ts) = empty
  unfold visit
  rcases h with h | h <;> rw [h]

/-- A list does not see an entry that is no DESCRIPTION. -/
theorem list_ofTree_insert (k : Text) (us vs : List Tree) {t : Tree} (ht : t.kind ≠ .description) :
    DescriptionList.ofTree (.branch k (us ++ t :: vs)) = DescriptionList.ofTree (.branch k (us ++ vs)) := by
  have hfilter : (us ++ t :: vs).filter (fun c => c.kind == .description) =
      (us ++ vs).filter fun c => c.kind == .description := by
    rw [List.filter_append, List.filter_cons_of_neg (by simpa using ht), List.filter_append]
  exact congrArg (fun cs => DescriptionList.mk (cs.map Description.ofTree)) hfilter

theorem alike_insert {k : Text} (us vs : List Tree) {t : Tree} (h : Kind.ofKey k = .descriptionList)
    (ht : t.kind ≠ .description) : Alike (.branch k (us ++ t :: vs)) (.branch k (us ++ vs)) where
  key := rfl
  text := rfl
  contribution := (contribution_of_entry (.inr h) _).trans (contribution_of_entry (.inr h) _).symm
  description hk := absurd (hk.symm.trans h) (by decide)
  list _ := by rw [list_ofTree_insert k us vs ht]

/-- Nothing around an edited tree can tell that it was edited. -/
theorem alike_of_edit {t t' : Tree} (h : Edit t t') : Alike t t' := by
  induction h with
  | recase h => exact alike_of_foldCase_eq _ _ h
  | walk k h hrow =>
    have hnothing : ∀ ts : List Tree, (Tree.branch k ts).contribution = empty := contribution_of_entry (.inl h)
    exact ⟨rfl, rfl, (hnothing _).trans (hnothing _).symm, fun _ => visitAll_of_rowEdit hrow,
      fun hk => absurd (hk.symm.trans h) (by decide)⟩
  | drop k us vs t h ht => exact alike_insert us vs h ht
  | insert k us vs t h ht =>
    have hdrop := alike_insert us vs h ht
    exact ⟨rfl, rfl, hdrop.contribution.symm, fun hk => (hdrop.description hk).symm, fun hk => (hdrop.list hk).symm⟩
  | within k us vs _ ih => exact ih.within k us vs

/-- Alike roots have the same summary. -/
theorem sameSummary_of_alike {t t' : Tree} (h : Alike t t') : SameSummary t.summary t'.summary := by
  by_cases hone : t.kind = .description
  · rw [summary_of_description hone, summary_of_description (h.kind ▸ hone), h.description hone]
    exact .told _
  by_cases hlist : t.kind = .descriptionList
  · rw [summary_of_descriptionList hlist, summary_of_descriptionList (h.kind ▸ hlist), h.list hlist]
    exact .told _
  · rw [summary_of_unknown hone hlist, summary_of_unknown (h.kind ▸ hone) (h.kind ▸ hlist)]
    exact .refused h.key

/-- Whatever edits are made of a tree, one after the other, its summary stays the same: endpoints, id and whether they
    are enough to connect. A root that is refused stays refused, for the same key but for the case of its letters. -/
theorem summary_of_edits {root root' : Tree} (h : Relation.ReflTransGen Edit root root') :
    SameSummary root.summary root'.summary := by
  have halike : Alike root root' := by
    induction h with
    | refl => exact .refl _
    | tail _ hedit ih => exact ih.trans (alike_of_edit hedit)
  exact sameSummary_of_alike halike

/-- A list loses a control key; then, in its one description, the addresses come out of their group and go behind the
    connect data, and every key is written small. -/
theorem summary_of_edits_rearranged :
    let address := Tree.branch "ADDRESS".toList [.leaf "HOST".toList "a".toList]
    let data := Tree.branch "CONNECT_DATA".toList [.leaf "SID".toList "s".toList]
    let before := Tree.branch "DESCRIPTION_LIST".toList [.leaf "FAILOVER".toList "on".toList,
      .branch "DESCRIPTION".toList [.branch "ADDRESS_LIST".toList [address], data]]
    let after := Tree.branch "description_list".toList [.branch "description".toList
      [.branch "connect_data".toList [.leaf "sid".toList "s".toList],
        .branch "address".toList [.leaf "host".toList "a".toList]]]
    Relation.ReflTransGen Edit before after ∧ SameSummary before.summary after.summary := by
  intro address data before after
  let list : List Tree → Tree := fun row => .branch "DESCRIPTION_LIST".toList [.branch "DESCRIPTION".toList row]
  have hdrop : Edit before (list [.branch "ADDRESS_LIST".toList [address], data]) :=
    .drop _ [] _ _ (by decide) (by decide)
  have hrow : ∀ {row row' : List Tree}, RowEdit row row' → Edit (list row) (list row') :=
    fun h => .within _ [] [] (.walk _ (by decide) h)
  have hunwrap : Edit (list [.branch "ADDRESS_LIST".toList [address], data]) (list [address, data]) :=
    hrow (.unwrap [] [data] (.branch "ADDRESS_LIST".toList [address]) (by decide))
  have hexchange : Edit (list [address, data]) (list [data, address]) :=
    hrow (.exchange [] [] address data (.inr ⟨by decide, by decide⟩))
  have hrecase : Edit (list [data, address]) after := .recase (by decide)
  have hedits : Relation.ReflTransGen Edit before after :=
    (((Relation.ReflTransGen.single hdrop).tail hunwrap).tail hexchange).tail hrecase
  exact ⟨hedits, summary_of_edits hedits⟩

end ConnectString.Descriptor
