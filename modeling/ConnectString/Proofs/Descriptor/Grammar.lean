/-
  ConnectString.Proofs.Descriptor.Grammar — the grammar of descriptors, apart from any reader.

    node  := '(' key '=' gap (value | node gap … node gap) ')'
    gap   := ASCII blanks
    key   := characters other than '(', ')' and '='; its trimmed form is not empty
    value := nothing, or a character that is neither '(' nor an ASCII blank and then any characters, with its
             parentheses balanced

  A node stands at a depth, its children one deeper; neither a node nor a parenthesis of a value goes deeper than the
  limit. `Node` and `Nodes` say which text denotes which trees, `Denotes` which text is a whole descriptor.

  A denoted tree keeps what the grammar asks for (`readable_of_node`): its keys are plain, its texts are balanced, all
  of them are trimmed and not empty, and it weighs no more than the limit allows.
-/

import ConnectString.Descriptor.Tree
import ConnectString.Proofs.Text.Nesting

namespace ConnectString

def AsciiBlanks (t : Text) : Prop := ∀ c ∈ t, isAsciiBlank c = true

theorem asciiBlanks_nil : AsciiBlanks [] := fun _ h => absurd h List.not_mem_nil

theorem asciiBlanks_append {a b : Text} (ha : AsciiBlanks a) (hb : AsciiBlanks b) : AsciiBlanks (a ++ b) :=
  fun c hc => (List.mem_append.mp hc).elim (ha c) (hb c)

theorem asciiBlanks_singleton {c : Char} (h : isAsciiBlank c = true) : AsciiBlanks [c] :=
  fun _ hd => List.mem_singleton.mp hd ▸ h

namespace Descriptor

def Plain (k : Text) : Prop := ∀ c ∈ k, c ≠ '(' ∧ c ≠ ')' ∧ c ≠ '='

/-- What every node starts with: the parenthesis, the key, the equals sign and blanks. -/
def opening (key gap : Text) : Text := '(' :: key ++ '=' :: gap

/-- A node may start so at the given depth. -/
structure Opens (limit depth : Nat) (key gap : Text) : Prop where
  shallow : depth ≤ limit
  plain : Plain key
  named : Text.trim key ≠ []
  blank : AsciiBlanks gap

/-- A value starts with no parenthesis and no ASCII blank. -/
def StartsValue (s : Text) : Prop := ∀ c, s.head? = some c → c ≠ '(' ∧ isAsciiBlank c = false

structure Value (limit depth : Nat) (s : Text) : Prop where
  start : StartsValue s
  balanced : Text.Balanced s
  shallow : depth + Text.nesting s ≤ limit

mutual

/-- The text is a node at the given depth, and denotes the tree. -/
inductive Node (limit : Nat) : Nat → Text → Tree → Prop where
  | leaf {depth : Nat} {key gap s : Text} (hopen : Opens limit depth key gap) (hval : Value limit depth s)
      (hne : Text.trim s ≠ []) :
      Node limit depth (opening key gap ++ s ++ [')']) (.leaf (Text.trim key) (Text.trim s))
  | empty {depth : Nat} {key gap s : Text} (hopen : Opens limit depth key gap) (hval : Value limit depth s)
      (hnil : Text.trim s = []) :
      Node limit depth (opening key gap ++ s ++ [')']) (.branch (Text.trim key) [])
  | branch {depth : Nat} {key gap b : Text} {ts : List Tree} (hopen : Opens limit depth key gap)
      (hbelow : Nodes limit (depth + 1) b ts) (hne : ts ≠ []) :
      Node limit depth (opening key gap ++ b ++ [')']) (.branch (Text.trim key) ts)

/-- The text is a row of nodes at the given depth, with blanks behind each of them, and denotes the trees. -/
inductive Nodes (limit : Nat) : Nat → Text → List Tree → Prop where
  | nil {depth : Nat} : Nodes limit depth [] []
  | cons {depth : Nat} {a gap b : Text} {t : Tree} {ts : List Tree} (hnode : Node limit depth a t)
      (hgap : AsciiBlanks gap) (hrest : Nodes limit depth b ts) :
      Nodes limit depth (a ++ gap ++ b) (t :: ts)

end

/-- The text is a descriptor, one node with ASCII blanks around it, and denotes the tree. -/
def Denotes (limit : Nat) (text : Text) (t : Tree) : Prop :=
  ∃ before a after, AsciiBlanks before ∧ Node limit 1 a t ∧ AsciiBlanks after ∧ text = before ++ a ++ after

variable {limit depth : Nat}

/-! ## Rows of nodes -/

theorem Nodes.append {a : Text} {ts : List Tree} (ha : Nodes limit depth a ts) {b : Text} {us : List Tree}
    (hb : Nodes limit depth b us) : Nodes limit depth (a ++ b) (ts ++ us) := by
  induction ts generalizing a with
  | nil => cases ha; exact hb
  | cons t ts ih =>
    cases ha with
    | cons hnode hgap hrest =>
      rw [List.append_assoc, List.cons_append]
      exact .cons hnode hgap (ih hrest)

theorem Nodes.singleton {a gap : Text} {t : Tree} (h : Node limit depth a t) (hgap : AsciiBlanks gap) :
    Nodes limit depth (a ++ gap) [t] := by
  simpa using Nodes.cons h hgap .nil

/-- Blanks behind a row of nodes belong to its last node. -/
theorem Nodes.append_blanks {a gap : Text} {ts : List Tree} (h : Nodes limit depth a ts) (hne : ts ≠ [])
    (hgap : AsciiBlanks gap) : Nodes limit depth (a ++ gap) ts := by
  induction ts generalizing a with
  | nil => exact absurd rfl hne
  | cons t ts ih =>
    cases h with
    | @cons _ a' gap' b _ _ hnode hgap' hrest =>
      rcases ts with _ | ⟨u, ts⟩
      · cases hrest
        rw [List.append_nil, List.append_assoc]
        exact .singleton hnode (asciiBlanks_append hgap' hgap)
      · rw [List.append_assoc]
        exact .cons hnode hgap' (ih hrest (List.cons_ne_nil u ts))

/-! ## The ends of a node -/

theorem Node.exists_between {a : Text} {t : Tree} (h : Node limit depth a t) : ∃ r, a = '(' :: r ++ [')'] := by
  cases h with
  | @leaf _ key gap s => exact ⟨key ++ '=' :: gap ++ s, rfl⟩
  | @empty _ key gap s => exact ⟨key ++ '=' :: gap ++ s, rfl⟩
  | @branch _ key gap b => exact ⟨key ++ '=' :: gap ++ b, rfl⟩

/-- A descriptor ends with its closing parenthesis, and blanks. -/
theorem last_of_denotes {text : Text} {t : Tree} (h : Denotes limit text t) (c : Char)
    (hc : text.getLast? = some c) : c = ')' ∨ isAsciiBlank c = true := by
  obtain ⟨before, a, after, -, hnode, hafter, rfl⟩ := h
  obtain ⟨r, rfl⟩ := hnode.exists_between
  rcases hlast : after.getLast? with _ | d
  · rw [List.getLast?_append, hlast, ← List.append_assoc, List.getLast?_concat] at hc
    exact .inl (Option.some.inj hc).symm
  · rw [List.getLast?_append, hlast, Option.some_or] at hc
    exact .inr (hafter c (Option.some.inj hc ▸ List.mem_of_getLast? hlast))

/-! ## Keys, texts and weight of a tree -/

namespace Tree

mutual

/-- The keys, that of a node before those of its children. -/
def keys : Tree → List Text
  | leaf k _ => [k]
  | branch k cs => k :: keysAll cs

def keysAll : List Tree → List Text
  | [] => []
  | t :: ts => keys t ++ keysAll ts

end

mutual

def texts : Tree → List Text
  | leaf _ s => [s]
  | branch _ cs => textsAll cs

def textsAll : List Tree → List Text
  | [] => []
  | t :: ts => texts t ++ textsAll ts

end

mutual

/-- How deep a tree nests when it is written: the parentheses in the text of a leaf count like those of nodes. -/
def weight : Tree → Nat
  | leaf _ s => 1 + Text.nesting s
  | branch _ cs => 1 + weightAll cs

def weightAll : List Tree → Nat
  | [] => 0
  | t :: ts => max (weight t) (weightAll ts)

end

theorem weight_pos (t : Tree) : 0 < t.weight := by
  cases t <;> rw [weight] <;> omega

theorem mem_keysAll {ts : List Tree} {k : Text} : k ∈ keysAll ts ↔ ∃ t ∈ ts, k ∈ t.keys := by
  induction ts with
  | nil => simp [keysAll]
  | cons t ts ih => simp [keysAll, ih]

theorem mem_textsAll {ts : List Tree} {s : Text} : s ∈ textsAll ts ↔ ∃ t ∈ ts, s ∈ t.texts := by
  induction ts with
  | nil => simp [textsAll]
  | cons t ts ih => simp [textsAll, ih]

theorem weightAll_le_iff {ts : List Tree} {n : Nat} : weightAll ts ≤ n ↔ ∀ t ∈ ts, t.weight ≤ n := by
  induction ts with
  | nil => simp [weightAll]
  | cons t ts ih => rw [weightAll, Nat.max_le, ih, List.forall_mem_cons]

end Tree

/-! ## What a denoted tree is like -/

/-- A key that is read back as it is written. -/
structure PrintableKey (k : Text) : Prop where
  nonempty : k ≠ []
  trimmed : Text.trim k = k
  plain : Plain k

/-- A text that a leaf can come by. -/
structure SolidText (s : Text) : Prop where
  nonempty : s ≠ []
  trimmed : Text.trim s = s
  balanced : Text.Balanced s

/-- A tree that a node at the given depth can denote. -/
structure Readable (limit depth : Nat) (t : Tree) : Prop where
  keys : ∀ k ∈ t.keys, PrintableKey k
  texts : ∀ s ∈ t.texts, SolidText s
  fits : depth + t.weight ≤ limit + 1

theorem printableKey_trim {key gap : Text} (h : Opens limit depth key gap) : PrintableKey (Text.trim key) where
  nonempty := h.named
  trimmed := Text.trim_trim key
  plain c hc := h.plain c (Text.mem_of_mem_trim hc)

theorem readable_leaf {key gap s : Text} (hopen : Opens limit depth key gap) (hval : Value limit depth s)
    (hne : Text.trim s ≠ []) : Readable limit depth (.leaf (Text.trim key) (Text.trim s)) where
  keys k hk := List.mem_singleton.mp hk ▸ printableKey_trim hopen
  texts u hu := List.mem_singleton.mp hu ▸ ⟨hne, Text.trim_trim s, (Text.balanced_trim s).mpr hval.balanced⟩
  fits := by
    rw [Tree.weight, Text.nesting_trim]
    have := hval.shallow
    omega

theorem readable_branch {key gap : Text} {ts : List Tree} (hopen : Opens limit depth key gap)
    (h : ∀ t ∈ ts, Readable limit (depth + 1) t) : Readable limit depth (.branch (Text.trim key) ts) where
  keys k hk := by
    rcases List.mem_cons.mp hk with rfl | hk
    · exact printableKey_trim hopen
    · obtain ⟨t, ht, hkt⟩ := Tree.mem_keysAll.mp hk
      exact (h t ht).keys k hkt
  texts s hs := by
    obtain ⟨t, ht, hst⟩ := Tree.mem_textsAll.mp hs
    exact (h t ht).texts s hst
  fits := by
    have hw : Tree.weightAll ts ≤ limit - depth := Tree.weightAll_le_iff.mpr fun t ht => by
      have := (h t ht).fits
      omega
    have := hopen.shallow
    rw [Tree.weight]
    omega

mutual

theorem readable_of_node : ∀ (t : Tree) {depth : Nat} {a : Text}, Node limit depth a t → Readable limit depth t
  | .leaf _ _, _, _, .leaf hopen hval hne => readable_leaf hopen hval hne
  | .branch _ _, _, _, .empty hopen _ _ => readable_branch hopen fun _ ht => absurd ht List.not_mem_nil
  | .branch _ ts, _, _, .branch hopen hbelow _ => readable_branch hopen (readable_of_nodes ts hbelow)

theorem readable_of_nodes : ∀ (ts : List Tree) {depth : Nat} {b : Text}, Nodes limit depth b ts →
    ∀ t ∈ ts, Readable limit depth t
  | [], _, _, _ => fun _ ht => absurd ht List.not_mem_nil
  | t :: ts, _, _, .cons hnode _ hrest =>
    List.forall_mem_cons.mpr ⟨readable_of_node t hnode, readable_of_nodes ts hrest⟩

end

theorem readable_of_denotes {text : Text} {t : Tree} (h : Denotes limit text t) : Readable limit 1 t := by
  obtain ⟨_, _, _, _, hnode, _, _⟩ := h
  exact readable_of_node t hnode

end Descriptor

end ConnectString
