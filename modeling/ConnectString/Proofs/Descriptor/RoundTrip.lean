/-
  ConnectString.Proofs.Descriptor.RoundTrip — writing a tree and reading it back.

  Writing escapes nothing, so a tree is read back as it is only when its keys and texts leave the delimiters alone.
  A written tree of that kind is a node that denotes it (`node_render`). Conversely, no node is shorter than the
  written form of the tree that it denotes, and in one that is no longer every value stands as it was, so that none
  starts with a parenthesis (`bare_of_node`).

  Main statements: the trees that are read back are those with printable keys and texts whose weight is within the
  limit (`parse_render_eq_ok_iff`); a tree that was read is read back exactly when none of its texts starts with a
  parenthesis (`parse_render_of_parse_iff`). Such a text comes up only where a blank that is no ASCII blank stands
  between the equals sign and a parenthesis, and trimming takes it off (`parse_render_branches`).
-/

import ConnectString.Proofs.Descriptor.Soundness

namespace ConnectString.Descriptor

/-- A text that is read back as it is written. -/
structure PrintableText (s : Text) : Prop extends SolidText s where
  bare : s.head? ≠ some '('

theorem printableText_iff {s : Text} :
    PrintableText s ↔ s ≠ [] ∧ Text.trim s = s ∧ Text.openAfter 0 s = some 0 ∧ s.head? ≠ some '(' := by
  constructor
  · intro h
    exact ⟨h.nonempty, h.trimmed, Text.balanced_iff.mp h.balanced, h.bare⟩
  · rintro ⟨hne, htrim, hopen, hbare⟩
    exact ⟨⟨hne, htrim, Text.balanced_iff.mpr hopen⟩, hbare⟩

instance (s : Text) : Decidable (PrintableText s) := decidable_of_iff' _ printableText_iff

variable {limit depth : Nat}

/-! ## From trees to texts -/

/-- A tree whose written form is a node at the given depth. -/
structure Printable (limit depth : Nat) (t : Tree) : Prop extends Readable limit depth t where
  bare : ∀ s ∈ t.texts, s.head? ≠ some '('

theorem printable_child {k : Text} {cs : List Tree} (h : Printable limit depth (.branch k cs)) :
    ∀ c ∈ cs, Printable limit (depth + 1) c := by
  intro c hc
  have htexts : ∀ s ∈ c.texts, s ∈ (Tree.branch k cs).texts := fun s hs => Tree.mem_textsAll.mpr ⟨c, hc, hs⟩
  refine ⟨⟨fun k' hk => h.keys k' ?_, fun s hs => h.texts s (htexts s hs), ?_⟩, fun s hs => h.bare s (htexts s hs)⟩
  · exact List.mem_cons_of_mem k (Tree.mem_keysAll.mpr ⟨c, hc, hk⟩)
  · have hweight := Tree.weightAll_le_iff.mp (Nat.le_refl (Tree.weightAll cs)) c hc
    have hfit := h.fits
    unfold Tree.weight at hfit
    omega

theorem opens_of_printableKey {k : Text} (h : PrintableKey k) (hd : depth ≤ limit) : Opens limit depth k [] where
  shallow := hd
  plain := h.plain
  named := h.trimmed.symm ▸ h.nonempty
  blank := asciiBlanks_nil

/-- The first character of a trimmed text is no blank of either kind. -/
theorem startsValue_of_printableText {s : Text} (h : PrintableText s) : StartsValue s := by
  intro c hc
  refine ⟨fun he => h.bare (he ▸ hc), ?_⟩
  obtain ⟨r, hr⟩ : ∃ r, s = c :: r := by
    rcases s with _ | ⟨d, r⟩
    · cases hc
    · cases hc; exact ⟨r, rfl⟩
  have hblank : isBlank c = false := Text.not_isBlank_head_trim (h.trimmed.trans hr)
  by_contra ha
  rw [isBlank_of_isAsciiBlank (by simpa using ha)] at hblank
  cases hblank

theorem value_of_printableText {s : Text} (h : PrintableText s) (hd : depth + Text.nesting s ≤ limit) :
    Value limit depth s where
  start := startsValue_of_printableText h
  balanced := h.balanced
  shallow := hd

theorem printable_leaf {k s : Text} (hk : PrintableKey k) (hs : PrintableText s)
    (hd : depth + Text.nesting s ≤ limit) : Printable limit depth (.leaf k s) where
  keys k' hk' := List.mem_singleton.mp hk' ▸ hk
  texts u hu := List.mem_singleton.mp hu ▸ hs.toSolidText
  bare u hu := List.mem_singleton.mp hu ▸ hs.bare
  fits := by
    rw [Tree.weight]
    omega

theorem printable_branch {k : Text} {cs : List Tree} (hk : PrintableKey k) (hd : depth ≤ limit)
    (h : ∀ c ∈ cs, Printable limit (depth + 1) c) : Printable limit depth (.branch k cs) where
  toReadable := by
    have hopen := opens_of_printableKey hk hd
    rw [← hk.trimmed]
    exact readable_branch hopen fun c hc => (h c hc).toReadable
  bare s hs := by
    obtain ⟨c, hc, hsc⟩ := Tree.mem_textsAll.mp hs
    exact (h c hc).bare s hsc

theorem value_nil (hd : depth ≤ limit) : Value limit depth [] where
  start := fun _ h => by cases h
  balanced := by decide
  shallow := hd

mutual

theorem node_render : ∀ (t : Tree) {depth : Nat}, Printable limit depth t → Node limit depth t.render t
  | .leaf k s, depth, h => by
    have hk := h.keys k (List.mem_singleton.mpr rfl)
    have hs : PrintableText s := ⟨h.texts s (List.mem_singleton.mpr rfl), h.bare s (List.mem_singleton.mpr rfl)⟩
    have hfit := h.fits
    rw [Tree.weight] at hfit
    have hnode := Node.leaf (opens_of_printableKey hk (by omega : depth ≤ limit))
      (value_of_printableText hs (by omega)) (hs.trimmed.symm ▸ hs.nonempty)
    rw [hk.trimmed, hs.trimmed] at hnode
    simpa [Tree.render, opening] using hnode
  | .branch k [], depth, h => by
    have hk := h.keys k (List.mem_singleton.mpr rfl)
    have hfit := h.fits
    rw [Tree.weight, Tree.weightAll] at hfit
    have hnode := Node.empty (opens_of_printableKey hk (by omega : depth ≤ limit)) (value_nil (by omega)) rfl
    rw [hk.trimmed] at hnode
    simpa [Tree.render, Tree.renderAll, opening] using hnode
  | .branch k (t :: ts), depth, h => by
    have hk := h.keys k List.mem_cons_self
    have hfit := h.fits
    rw [Tree.weight] at hfit
    have hnode := Node.branch (opens_of_printableKey hk (by omega : depth ≤ limit))
      (nodes_render (t :: ts) (printable_child h)) (List.cons_ne_nil t ts)
    rw [hk.trimmed] at hnode
    simpa [Tree.render, opening] using hnode

theorem nodes_render : ∀ (ts : List Tree) {depth : Nat}, (∀ t ∈ ts, Printable limit depth t) →
    Nodes limit depth (Tree.renderAll ts) ts
  | [], _, _ => .nil
  | t :: ts, _, h => by
    have hhead := node_render t (h t List.mem_cons_self)
    have htail := nodes_render ts fun u hu => h u (List.mem_cons_of_mem t hu)
    simpa [Tree.renderAll] using Nodes.cons hhead asciiBlanks_nil htail

end

theorem parse_render_of_printable {t : Tree} (h : Printable (effectiveLimit limit) 1 t) :
    parse limit t.render = .ok t :=
  parse_of_denotes ⟨[], t.render, [], asciiBlanks_nil, node_render t h, asciiBlanks_nil, by simp⟩

/-! ## From texts to trees -/

mutual

/-- A node is no shorter than the written form of its tree; where it is no longer, no value starts with a
    parenthesis. -/
theorem bare_of_node : ∀ (t : Tree) {depth : Nat} {a : Text}, Node limit depth a t →
    t.render.length ≤ a.length ∧ (a.length ≤ t.render.length → ∀ s ∈ t.texts, s.head? ≠ some '(')
  | .leaf _ _, _, _, @Node.leaf _ _ key _ s _ hval _ => by
    have hk := Text.length_trim_le key
    have hs := Text.length_trim_le s
    simp only [Tree.render, opening, List.length_append, List.length_cons, List.length_nil]
    refine ⟨by omega, fun hlen u hu => ?_⟩
    rw [Tree.texts, List.mem_singleton] at hu
    rw [hu, Text.trim_eq_self_of_length_le (by omega)]
    exact fun hhead => (hval.start '(' hhead).1 rfl
  | .branch _ _, _, _, @Node.empty _ _ key _ _ _ _ _ => by
    have hk := Text.length_trim_le key
    simp only [Tree.render, Tree.renderAll, opening, List.length_append, List.length_cons, List.length_nil]
    exact ⟨by omega, fun _ _ hu => absurd hu List.not_mem_nil⟩
  | .branch _ ts, _, _, @Node.branch _ _ key _ _ _ _ hbelow _ => by
    have hk := Text.length_trim_le key
    obtain ⟨hle, hbare⟩ := bare_of_nodes ts hbelow
    simp only [Tree.render, opening, List.length_append, List.length_cons, List.length_nil]
    exact ⟨by omega, fun hlen => hbare (by omega)⟩

theorem bare_of_nodes : ∀ (ts : List Tree) {depth : Nat} {b : Text}, Nodes limit depth b ts →
    (Tree.renderAll ts).length ≤ b.length ∧
      (b.length ≤ (Tree.renderAll ts).length → ∀ s ∈ Tree.textsAll ts, s.head? ≠ some '(')
  | [], _, _, .nil => ⟨Nat.le_refl _, fun _ _ hs => absurd hs List.not_mem_nil⟩
  | t :: ts, _, _, .cons hnode _ hrest => by
    obtain ⟨hle, hbare⟩ := bare_of_node t hnode
    obtain ⟨hle', hbare'⟩ := bare_of_nodes ts hrest
    simp only [Tree.renderAll, List.length_append]
    refine ⟨by omega, fun hlen s hs => ?_⟩
    rcases List.mem_append.mp hs with hs | hs
    · exact hbare (by omega) s hs
    · exact hbare' (by omega) s hs

end

/-- A tree whose written form denotes it has no text that starts with a parenthesis. -/
theorem bare_of_denotes_render {t : Tree} (h : Denotes limit t.render t) : ∀ s ∈ t.texts, s.head? ≠ some '(' := by
  obtain ⟨before, a, after, -, hnode, -, hr⟩ := h
  refine (bare_of_node t hnode).2 ?_
  have hlen := congrArg List.length hr
  simp only [List.length_append] at hlen
  omega

/-- A text of a leaf starts with a parenthesis only behind a blank that is no ASCII blank. -/
theorem bare_of_value {s : Text} (h : StartsValue s) (hascii : ∀ c ∈ s, isBlank c = true → isAsciiBlank c = true) :
    (Text.trim s).head? ≠ some '(' := by
  intro hhead
  obtain ⟨a, b, ha, -, hs⟩ := Text.exists_trim_between s
  rcases a with _ | ⟨c, a⟩
  · have hfirst : s.head? = some '(' := by
      rw [hs, List.nil_append, List.head?_append, hhead, Option.some_or]
    exact (h '(' hfirst).1 rfl
  · have hfirst : s.head? = some c := by rw [hs]; rfl
    have hblank := hascii c (List.mem_of_mem_head? hfirst) (ha c List.mem_cons_self)
    rw [(h c hfirst).2] at hblank
    cases hblank

mutual

theorem bare_of_asciiBlanks : ∀ (t : Tree) {depth : Nat} {a : Text}, Node limit depth a t →
    (∀ c ∈ a, isBlank c = true → isAsciiBlank c = true) → ∀ s ∈ t.texts, s.head? ≠ some '('
  | .leaf _ _, _, _, .leaf _ hval _, hascii => by
    intro s hs
    rw [Tree.texts, List.mem_singleton] at hs
    rw [hs]
    exact bare_of_value hval.start fun c hc => hascii c (by simp [hc])
  | .branch _ _, _, _, .empty _ _ _, _ => fun _ hs => absurd hs List.not_mem_nil
  | .branch _ ts, _, _, .branch _ hbelow _, hascii =>
    bare_all_of_asciiBlanks ts hbelow fun c hc => hascii c (by simp [hc])

theorem bare_all_of_asciiBlanks : ∀ (ts : List Tree) {depth : Nat} {b : Text}, Nodes limit depth b ts →
    (∀ c ∈ b, isBlank c = true → isAsciiBlank c = true) → ∀ s ∈ Tree.textsAll ts, s.head? ≠ some '('
  | [], _, _, _, _ => fun _ hs => absurd hs List.not_mem_nil
  | t :: ts, _, _, .cons hnode _ hrest, hascii => by
    intro s hs
    rcases List.mem_append.mp hs with hs | hs
    · exact bare_of_asciiBlanks t hnode (fun c hc => hascii c (by simp [hc])) s hs
    · exact bare_all_of_asciiBlanks ts hrest (fun c hc => hascii c (by simp [hc])) s hs

end

/-! ## Reading back -/

/-- A tree is read back from its written form exactly when its keys and texts are printable and it weighs no more than
    the limit, and never more than 256. -/
theorem parse_render_eq_ok_iff (limit : Nat) (t : Tree) :
    parse limit t.render = .ok t ↔
      (∀ k ∈ t.keys, PrintableKey k) ∧ (∀ s ∈ t.texts, PrintableText s) ∧ t.weight ≤ min limit 256 := by
  rw [← effectiveLimit_eq]
  constructor
  · intro h
    have hden := denotes_of_parse h
    have hread := readable_of_denotes hden
    have hfit := hread.fits
    exact ⟨hread.keys, fun s hs => ⟨hread.texts s hs, bare_of_denotes_render hden s hs⟩, by omega⟩
  · rintro ⟨hkeys, htexts, hweight⟩
    have hread : Readable (effectiveLimit limit) 1 t := ⟨hkeys, fun s hs => (htexts s hs).toSolidText, by omega⟩
    exact parse_render_of_printable ⟨hread, fun s hs => (htexts s hs).bare⟩

/-- A tree that was read is read back from its written form exactly when no text in it starts with a parenthesis. This
    is so for every text that has no blanks but ASCII blanks. -/
theorem parse_render_of_parse_iff {limit : Nat} {text : Text} {t : Tree} (h : parse limit text = .ok t) :
    (parse limit t.render = .ok t ↔ ∀ s ∈ t.texts, s.head? ≠ some '(') ∧
      ((∀ c ∈ text, isBlank c = true → isAsciiBlank c = true) → parse limit t.render = .ok t) := by
  have hden := denotes_of_parse h
  have hread := readable_of_denotes hden
  have hback : (∀ s ∈ t.texts, s.head? ≠ some '(') → parse limit t.render = .ok t := fun hbare =>
    parse_render_of_printable ⟨hread, hbare⟩
  refine ⟨⟨fun hp => bare_of_denotes_render (denotes_of_parse hp), hback⟩, fun hascii => hback ?_⟩
  obtain ⟨before, a, after, -, hnode, -, rfl⟩ := hden
  exact bare_of_asciiBlanks t hnode fun c hc => hascii c (by simp [hc])

/-- ASCII blanks everywhere, and parentheses inside a value, do no harm. -/
theorem parse_render_of_parse_spaced :
    parse 64 "( D = (NOTE= a(b) c ) (E=))".toList =
        .ok (.branch ['D'] [.leaf "NOTE".toList "a(b) c".toList, .branch ['E'] []]) ∧
      parse 64 (Tree.branch ['D'] [.leaf "NOTE".toList "a(b) c".toList, .branch ['E'] []]).render =
        .ok (.branch ['D'] [.leaf "NOTE".toList "a(b) c".toList, .branch ['E'] []]) := by
  have hparse : parse 64 "( D = (NOTE= a(b) c ) (E=))".toList =
      .ok (.branch ['D'] [.leaf "NOTE".toList "a(b) c".toList, .branch ['E'] []]) := by rfl
  have hascii : ∀ c ∈ "( D = (NOTE= a(b) c ) (E=))".toList, isBlank c = true → isAsciiBlank c = true := by
    have hall : "( D = (NOTE= a(b) c ) (E=))".toList.all (fun c => !isBlank c || isAsciiBlank c) = true := by rfl
    intro c hc hblank
    simpa [hblank] using List.all_eq_true.mp hall c hc
  exact ⟨hparse, (parse_render_of_parse_iff hparse).2 hascii⟩

/-- A vertical tab keeps the parenthesis behind it from opening a node, and is trimmed off: the leaf that is read here
    is written as a branch. -/
theorem parse_render_branches :
    parse 64 "(A=\x0b(B=c))".toList = .ok (.leaf ['A'] "(B=c)".toList) ∧
      parse 64 (Tree.leaf ['A'] "(B=c)".toList).render ≠ .ok (.leaf ['A'] "(B=c)".toList) := by
  refine ⟨by rfl, ?_⟩
  have hback : parse 64 (Tree.leaf ['A'] "(B=c)".toList).render = .ok (.branch ['A'] [.leaf ['B'] ['c']]) := by rfl
  rw [hback]
  intro h
  cases h

end ConnectString.Descriptor
