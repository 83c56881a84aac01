/-
  ConnectString.Descriptor.Tree — descriptor trees, and how they are written.

  A node is a leaf `(KEY=text)` or a branch `(KEY=node…)`; a branch without children is written `(KEY=)`. Writing
  escapes nothing: `render` puts keys and texts down as they are.
-/

import ConnectString.Descriptor.Kind

namespace ConnectString.Descriptor

inductive Tree where
  | leaf (key text : Text)
  | branch (key : Text) (children : List Tree)
  deriving Repr

namespace Tree

def key : Tree → Text
  | leaf k _ => k
  | branch k _ => k

def kind (t : Tree) : Kind := Kind.ofKey t.key

def text? : Tree → Option Text
  | leaf _ s => some s
  | branch _ _ => none

/-- The nodes below; a leaf has none. -/
def children : Tree → List Tree
  | leaf _ _ => []
  | branch _ cs => cs

/-- The text of the first leaf of the given kind among the children. -/
def childText? (t : Tree) (k : Kind) : Option Text :=
  (t.children.filter fun c => c.kind == k).findSome? text?

/-- The node that a path of child positions leads to. -/
def descend? (t : Tree) : List Nat → Option Tree
  | [] => some t
  | i :: path => do (← t.children[i]?).descend? path

/-! ## Writing -/

mutual

def render : Tree → Text
  | leaf k s => '(' :: k ++ '=' :: s ++ [')']
  | branch k cs => '(' :: k ++ '=' :: renderAll cs ++ [')']

def renderAll : List Tree → Text
  | [] => []
  | t :: ts => render t ++ renderAll ts

end

/-! ## Equality -/

mutual

def same : Tree → Tree → Bool
  | leaf k s, leaf k' s' => k == k' && s == s'
  | branch k cs, branch k' cs' => k == k' && sameAll cs cs'
  | _, _ => false

def sameAll : List Tree → List Tree → Bool
  | [], [] => true
  | t :: ts, t' :: ts' => same t t' && sameAll ts ts'
  | _, _ => false

end

mutual

theorem same_iff : ∀ t t' : Tree, same t t' = true ↔ t = t'
  | leaf _ _, leaf _ _ => by simp [same]
  | leaf _ _, branch _ _ => by simp [same]
  | branch _ _, leaf _ _ => by simp [same]
  | branch _ cs, branch _ cs' => by simp [same, sameAll_iff cs cs']

theorem sameAll_iff : ∀ ts ts' : List Tree, sameAll ts ts' = true ↔ ts = ts'
  | [], [] => by simp [sameAll]
  | [], _ :: _ => by simp [sameAll]
  | _ :: _, [] => by simp [sameAll]
  | t :: ts, t' :: ts' => by simp [sameAll, same_iff t t', sameAll_iff ts ts']

end

instance : DecidableEq Tree := fun t t' => decidable_of_iff _ (same_iff t t')

end Tree

end ConnectString.Descriptor
