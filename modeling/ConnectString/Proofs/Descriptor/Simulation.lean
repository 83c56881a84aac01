/-
  ConnectString.Proofs.Descriptor.Simulation — the reader of bytes does what the reader of characters does.

  Between two characters the two readers stand at the same place (`Shown`). What a character does to the one, its
  bytes do to the other: an ASCII character is one byte, and the bytes of a longer one are all passed over
  (`leads_over`). So where the one comes to an end the other halts, with the same outcome (`follows_step`,
  `halts_run`).

  Main statement: whatever limit is asked for, no position of the reader of bytes is unsafe and none is a fault, and
  what it halts with is what is read, under any guard against faults (`parse_bytewise`).
-/

import ConnectString.Proofs.Descriptor.Bytewise
import ConnectString.Proofs.Descriptor.Position

namespace ConnectString.Descriptor.Bytewise

variable {limit : Nat} {t a r : Text} {c : Char} {p q : Point}

def HaltsWith (limit : Nat) (t : Text) (start : Config) (outcome : Except Failure Tree) : Prop :=
  ∃ c, Leads limit t start c ∧ step limit t c = .halt outcome

theorem HaltsWith.of_leads {c c' : Config} {o : Except Failure Tree} (h : Leads limit t c c')
    (ho : HaltsWith limit t c' o) : HaltsWith limit t c o := by
  obtain ⟨d, hd, hhalt⟩ := ho
  exact ⟨d, h.trans hd, hhalt⟩

theorem HaltsWith.of_step {c : Config} {o : Except Failure Tree} (h : step limit t c = .halt o) :
    HaltsWith limit t c o := ⟨c, .refl, h⟩

/-- A configuration leads to one other at most. -/
theorem rightUnique_step (limit : Nat) (t : Text) : Relator.RightUnique fun c c' => step limit t c = .go c' := by
  intro x y z hy hz
  rw [hy] at hz
  cases hz
  rfl

/-- Where a run halts it goes no further. -/
theorem eq_of_leads_of_halt {c c' : Config} {o : Except Failure Tree} (hhalt : step limit t c = .halt o)
    (h : Leads limit t c c') : c = c' := by
  rcases h.cases_head with rfl | ⟨m, hm, -⟩
  · rfl
  · rw [hhalt] at hm
    cases hm

/-- A run has one outcome. -/
theorem HaltsWith.unique {c : Config} {o o' : Except Failure Tree} (h : HaltsWith limit t c o)
    (h' : HaltsWith limit t c o') : o = o' := by
  obtain ⟨d, hd, ho⟩ := h
  obtain ⟨d', hd', ho'⟩ := h'
  have hsame : d = d' := by
    rcases Relation.ReflTransGen.total_of_right_unique (rightUnique_step limit t) hd hd' with hlead | hlead
    · exact eq_of_leads_of_halt ho hlead
    · exact (eq_of_leads_of_halt ho' hlead).symm
  subst hsame
  rw [ho] at ho'
  cases ho'
  rfl

/-! ## Characters and their bytes -/

theorem isBlankByte_eq {b : UInt8} (h : ∀ d, Text.IsAscii d → (b = d.toUInt8 ↔ c = d)) :
    isBlankByte b = isAsciiBlank c := by
  have hbeq : ∀ d, Text.IsAscii d → (b == d.toUInt8) = (c == d) := by
    intro d hd
    rw [Bool.eq_iff_iff, beq_iff_eq, beq_iff_eq]
    exact h d hd
  simp only [isBlankByte, isAsciiBlank, hbeq ' ' (by decide), hbeq '\t' (by decide), hbeq '\n' (by decide),
    hbeq '\x0C' (by decide), hbeq '\r' (by decide)]

/-- What passes over every byte but those of some ASCII characters passes over a character that is none of them. -/
theorem leads_over (stops : List Char) (hascii : ∀ d ∈ stops, Text.IsAscii d) (hc : c ∉ stops)
    (hpass : ∀ pos b, Text.byteAt? (a ++ c :: r) pos = some b → (∀ d ∈ stops, b ≠ d.toUInt8) →
      step limit (a ++ c :: r) ⟨pos, p⟩ = .go ⟨pos + 1, p⟩) :
    Leads limit (a ++ c :: r) ⟨Text.byteLength a, p⟩ ⟨Text.byteLength (a ++ [c]), p⟩ := by
  have hbytes : ∀ n, n ≤ c.utf8Size →
      Leads limit (a ++ c :: r) ⟨Text.byteLength a, p⟩ ⟨Text.byteLength a + n, p⟩ := by
    intro n hn
    induction n with
    | zero => exact .refl
    | succ n ih =>
      obtain ⟨b, hb, hne⟩ := Text.exists_byteAt?_inside a r hn
      refine (ih (Nat.le_of_succ_le hn)).tail (hpass _ b hb ?_)
      intro d hd
      exact hne d (hascii d hd) fun he => hc (he ▸ hd)
  have hall := hbytes c.utf8Size (Nat.le_refl _)
  rwa [Text.byteLength_append, Text.byteLength_cons, Text.byteLength_nil, Nat.add_zero]

/-- A piece of what was taken in, up to here, is cut out as it was read. -/
theorem cut_read (b read r : Text) (next : Text → Move) :
    cut (b ++ read.reverse ++ r) (Text.byteLength b) (Text.byteLength (b ++ read.reverse)) next = next read.reverse := by
  rw [cut, Text.byteLength_append, Text.slice_append]

/-! ## One character -/

/-- The point of the reader of bytes that shows a state of the reader of characters behind the text `a`. -/
inductive Shown (a : Text) : State → Point → Prop where
  | before : Shown a .before .lead
  | key {outer : List Frame} {b read : Text} (h : a = b ++ read.reverse) :
      Shown a (.key outer (Text.byteLength b) read) (.key outer (Text.byteLength b))
  | value (outer : List Frame) (key : Text) : Shown a (.value outer key) (.gap outer key)
  | text {outer : List Frame} {key b read : Text} {nested : Nat} (h : a = b ++ read.reverse) :
      Shown a (.text outer key read nested) (.text outer key (Text.byteLength b) nested)
  | between (outer : List Frame) (inner : Frame) : Shown a (.between outer inner) (.row outer inner)
  | done (root : Tree) : Shown a (.done root) (.trail root)

/-- What the reader of bytes does over the character behind `a`, by what the reader of characters makes of it. -/
inductive Follows (limit : Nat) (a : Text) (c : Char) (r : Text) (p : Point) : Except Failure State → Prop where
  | on {s : State} {q : Point}
      (hlead : Leads limit (a ++ c :: r) ⟨Text.byteLength a, p⟩ ⟨Text.byteLength (a ++ [c]), q⟩)
      (hshown : Shown (a ++ [c]) s q) : Follows limit a c r p (.ok s)
  | stop {e : Failure} (h : HaltsWith limit (a ++ c :: r) ⟨Text.byteLength a, p⟩ (.error e)) :
      Follows limit a c r p (.error e)

theorem Follows.head {o : Except Failure State}
    (h : step limit (a ++ c :: r) ⟨Text.byteLength a, p⟩ = .go ⟨Text.byteLength a, q⟩)
    (ho : Follows limit a c r q o) : Follows limit a c r p o := by
  cases ho with
  | on hlead hshown => exact .on (.head h hlead) hshown
  | stop hhalt => exact .stop (.of_leads (.single h) hhalt)

/-- An ASCII character is one byte. -/
theorem Follows.next {s : State} (hc : Text.IsAscii c)
    (h : step limit (a ++ c :: r) ⟨Text.byteLength a, p⟩ = .go ⟨Text.byteLength a + 1, q⟩)
    (hshown : Shown (a ++ [c]) s q) : Follows limit a c r p (.ok s) := by
  rw [← Text.byteLength_concat a hc] at h
  exact .on (.single h) hshown

theorem Follows.halt {e : Failure} (h : step limit (a ++ c :: r) ⟨Text.byteLength a, p⟩ = .halt (.error e)) :
    Follows limit a c r p (.error e) := .stop (.of_step h)

theorem shown_close (a : Text) (outer : List Frame) (root : Tree) :
    Shown a (.close outer root) (.close outer root) := by
  rcases outer with _ | ⟨f, outer⟩
  · exact .done root
  · exact .between outer _

theorem follows_openNode (a r : Text) (outer : List Frame) :
    Follows limit a '(' r (.enter outer) (State.openNode limit (Text.byteLength a) outer) := by
  have hascii : Text.IsAscii '(' := by decide
  have hb := Text.byteAt?_of_isAscii a hascii r
  unfold State.openNode
  split
  · rename_i hfull
    refine .halt ?_
    simp only [step, if_pos hfull]
  · rename_i hfull
    have hstep : step limit (a ++ '(' :: r) ⟨Text.byteLength a, .enter outer⟩ =
        .go ⟨Text.byteLength a + 1, .key outer (Text.byteLength a + 1)⟩ := by
      simp only [step, if_neg hfull, hb, if_true]
    refine .next hascii hstep ?_
    rw [← Text.byteLength_concat a hascii]
    exact .key (by simp)

theorem follows_stepText {b read : Text} (h : a = b ++ read.reverse) (outer : List Frame) (key : Text)
    (nested : Nat) (c : Char) (r : Text) :
    Follows limit a c r (.text outer key (Text.byteLength b) nested)
      (State.stepText limit outer key read nested c) := by
  have hread : a ++ [c] = b ++ (c :: read).reverse := by rw [h, List.reverse_cons, List.append_assoc]
  unfold State.stepText
  split
  · subst c
    have hascii : Text.IsAscii '(' := by decide
    have hb := Text.byteAt?_of_isAscii a hascii r
    have hraise : step limit (a ++ '(' :: r) ⟨Text.byteLength a, .text outer key (Text.byteLength b) nested⟩ =
        .go ⟨Text.byteLength a, .raised outer key (Text.byteLength b) (nested + 1)⟩ := by
      simp only [step, hb, if_true]
    refine .head hraise ?_
    split
    · rename_i hfull
      exact .halt (if_pos hfull)
    · rename_i hfull
      exact .next hascii (if_neg hfull) (.text hread)
  rename_i hopen
  split
  · subst c
    have hascii : Text.IsAscii ')' := by decide
    have hb := Text.byteAt?_of_isAscii a hascii r
    rcases nested with _ | n
    · have hcut : step limit (a ++ ')' :: r) ⟨Text.byteLength a, .text outer key (Text.byteLength b) 0⟩ =
          .go ⟨Text.byteLength a, .cutText outer key (Text.byteLength b)⟩ := by
        simp only [step, hb, if_true]
        rfl
      refine .head hcut (.next hascii ?_ (shown_close _ outer _))
      rw [step, h, cut_read, List.reverse_reverse]
    · have hlower : step limit (a ++ ')' :: r) ⟨Text.byteLength a, .text outer key (Text.byteLength b) (n + 1)⟩ =
          .go ⟨Text.byteLength a, .lower outer key (Text.byteLength b) (n + 1)⟩ := by
        simp only [step, hb, if_true]
        rfl
      exact .head hlower (.next hascii rfl (.text hread))
  · rename_i hclose
    refine .on (leads_over ['(', ')'] (by simp [Text.IsAscii]) (by simp [hopen, hclose]) ?_) (.text hread)
    intro pos byte hb hne
    simp only [step, hb, if_neg (hne '(' (by simp)), if_neg (hne ')' (by simp))]

theorem follows_key {b read : Text} (h : a = b ++ read.reverse) (outer : List Frame) (c : Char) (r : Text) :
    Follows limit a c r (.key outer (Text.byteLength b))
      ((State.key outer (Text.byteLength b) read).step limit (Text.byteLength a) c) := by
  obtain ⟨byte, hb, hchar⟩ := Text.exists_byteAt?_start a c r
  have hequals := hchar '=' (by decide)
  simp only [State.step]
  split
  · have hcut : step limit (a ++ c :: r) ⟨Text.byteLength a, .key outer (Text.byteLength b)⟩ =
        .go ⟨Text.byteLength a, .cutKey outer (Text.byteLength b)⟩ := by
      simp only [step, hb, hequals, if_pos ‹_›]
    refine .head hcut ?_
    split
    · rename_i hempty
      refine .halt ?_
      rw [step, h, cut_read, hempty]
    · rename_i hnamed
      refine .next (by subst c; decide) ?_ (.value outer _)
      rw [step, h, cut_read]
      split
      · exact absurd ‹_› hnamed
      · rfl
  split
  · refine .halt ?_
    simp only [step, hb, hequals, hchar '(' (by decide), hchar ')' (by decide), if_neg ‹¬c = '='›, if_pos ‹_›]
  · rename_i hne hparen
    rw [not_or] at hparen
    refine .on (leads_over ['=', '(', ')'] (by simp [Text.IsAscii]) (by simp [hne, hparen]) ?_) (.key ?_)
    · intro pos byte' hb' hstop
      have hother : ¬(byte' = '('.toUInt8 ∨ byte' = ')'.toUInt8) :=
        not_or.mpr ⟨hstop '(' (by simp), hstop ')' (by simp)⟩
      simp only [step, hb', if_neg (hstop '=' (by simp)), if_neg hother]
    · rw [h, List.reverse_cons, List.append_assoc]

/-- Over a character the reader of bytes does what the reader of characters does. -/
theorem follows_step (hlimit : 0 < limit) {s : State} (h : Shown a s p) (c : Char) (r : Text) :
    Follows limit a c r p (s.step limit (Text.byteLength a) c) := by
  obtain ⟨byte, hb, hchar⟩ := Text.exists_byteAt?_start a c r
  have hblank := isBlankByte_eq hchar
  have hopen := hchar '(' (by decide)
  have hclose := hchar ')' (by decide)
  cases h with
  | before =>
    simp only [State.step]
    split
    · refine .next (Text.isAscii_of_isAsciiBlank ‹_›) ?_ .before
      simp only [step, hb, Option.any_some, hblank, if_pos ‹_›]
    rename_i hplain
    refine .head (q := .enter []) ?_ ?_
    · simp only [step, hb, Option.any_some, hblank, if_neg hplain]
    split
    · subst c
      exact follows_openNode a r []
    · refine .halt ?_
      simp only [step, hb, hopen, if_neg ‹_›]
      exact if_neg (Nat.not_lt.mpr hlimit)
  | key h => exact follows_key h _ c r
  | value outer key =>
    simp only [State.step]
    split
    · refine .next (Text.isAscii_of_isAsciiBlank ‹_›) ?_ (.value outer key)
      simp only [step, hb, Option.any_some, hblank, if_pos ‹_›]
    rename_i hplain
    split
    · subst c
      refine .head (q := .row outer ⟨key, []⟩) ?_ (.head (q := .enter (⟨key, []⟩ :: outer)) ?_ ?_)
      · simp only [step, hb, Option.any_some, hblank, if_neg hplain, Option.some_inj, hopen, if_true]
      · simp only [step, hb, Option.any_some, hblank, if_neg hplain, hopen, if_true]
      · exact follows_openNode a r _
    · rename_i hother
      refine .head (q := .text outer key (Text.byteLength a) 0) ?_ ?_
      · simp only [step, hb, Option.any_some, hblank, if_neg hplain, Option.some_inj, hopen, if_neg hother]
      · exact follows_stepText (List.append_nil a).symm outer key 0 c r
  | text h => exact follows_stepText h _ _ _ c r
  | between outer inner =>
    simp only [State.step]
    split
    · refine .next (Text.isAscii_of_isAsciiBlank ‹_›) ?_ (.between outer inner)
      simp only [step, hb, Option.any_some, hblank, if_pos ‹_›]
    rename_i hplain
    split
    · subst c
      refine .head (q := .enter (inner :: outer)) ?_ (follows_openNode a r _)
      simp only [step, hb, Option.any_some, hblank, if_neg hplain, hopen, if_true]
    rename_i hne
    split
    · refine .next (by subst c; decide) ?_ (shown_close _ outer _)
      simp only [step, hb, Option.any_some, hblank, if_neg hplain, hopen, if_neg hne, hclose, if_pos ‹_›]
    · refine .halt ?_
      simp only [step, hb, Option.any_some, hblank, if_neg hplain, hopen, if_neg hne, hclose, if_neg ‹_›]
  | done root =>
    simp only [State.step]
    split
    · refine .next (Text.isAscii_of_isAsciiBlank ‹_›) ?_ (.done root)
      simp only [step, hb, Option.any_some, hblank, if_pos ‹_›]
    · refine .halt ?_
      have hmore := Text.lt_of_byteAt? hb
      simp only [step, hb, Option.any_some, hblank, if_neg ‹_›, if_pos hmore]

/-! ## Runs -/

/-- At the end of the text both readers say the same. -/
theorem halts_finish (hlimit : 0 < limit) {s : State} (h : Shown a s p) :
    HaltsWith limit a ⟨Text.byteLength a, p⟩ (s.finish (Text.byteLength a)) := by
  have hend : Text.byteAt? a (Text.byteLength a) = none := Text.byteAt?_eq_none_iff.mpr (Nat.le_refl _)
  have hblank : ¬(Text.byteAt? a (Text.byteLength a)).any isBlankByte = true := by rw [hend]; decide
  cases h with
  | before =>
    have henter : step limit a ⟨Text.byteLength a, .lead⟩ = .go ⟨Text.byteLength a, .enter []⟩ := if_neg hblank
    refine .of_leads (.single henter) (.of_step ?_)
    simp only [step, hend]
    exact if_neg (Nat.not_lt.mpr hlimit)
  | key h => exact .of_step (by simp only [step, hend]; rfl)
  | value outer key =>
    have htext : step limit a ⟨Text.byteLength a, .gap outer key⟩ =
        .go ⟨Text.byteLength a, .text outer key (Text.byteLength a) 0⟩ := by
      simp only [step, hend]
      rfl
    exact .of_leads (.single htext) (.of_step (by simp only [step, hend]; rfl))
  | text h => exact .of_step (by simp only [step, hend]; rfl)
  | between outer inner => exact .of_step (by simp only [step, hend]; rfl)
  | done root => exact .of_step (by simp only [step, if_neg hblank, Nat.lt_irrefl, if_false]; rfl)

/-- From a state on, the reader of bytes halts with what the reader of characters comes to. -/
theorem halts_run (hlimit : 0 < limit) {s : State} (h : Shown a s p) (r : Text) :
    HaltsWith limit (a ++ r) ⟨Text.byteLength a, p⟩ (s.run limit (Text.byteLength a) r) := by
  induction r generalizing a s p with
  | nil =>
    rw [List.append_nil]
    exact halts_finish hlimit h
  | cons c r ih =>
    have hfollows := follows_step hlimit h c r
    rw [State.run]
    split
    · rename_i s' hs
      rw [hs] at hfollows
      cases hfollows with
      | on hlead hshown =>
        have hrest := ih hshown
        rw [List.append_assoc, List.singleton_append] at hrest
        have hpos : Text.byteLength (a ++ [c]) = Text.byteLength a + c.utf8Size := by simp
        rw [← hpos]
        exact .of_leads hlead hrest
    · rename_i e he
      rw [he] at hfollows
      cases hfollows with
      | stop hhalt => exact hhalt

/-- The blanks before the root come to an end. -/
theorem exists_enter (limit : Nat) (t : Text) (pos : Nat) :
    ∃ stop, Leads limit t ⟨pos, .lead⟩ ⟨stop, .enter []⟩ := by
  by_cases hblank : (Text.byteAt? t pos).any isBlankByte = true
  · obtain ⟨b, hb, -⟩ := (Option.any_eq_true ..).mp hblank
    have hlt := Text.lt_of_byteAt? hb
    obtain ⟨stop, hlead⟩ := exists_enter limit t (pos + 1)
    exact ⟨stop, .head (if_pos hblank) hlead⟩
  · exact ⟨pos, .single (if_neg hblank)⟩
termination_by Text.byteLength t - pos

/-- The run of the reader of bytes halts with what is read. -/
theorem halts_parse (limit : Nat) (t : Text) :
    HaltsWith (effectiveLimit limit) t ⟨0, .lead⟩ (parse limit t) := by
  unfold parse
  split
  · rename_i hzero
    obtain ⟨pos, hlead⟩ := exists_enter (effectiveLimit limit) t 0
    refine .of_leads hlead (.of_step ?_)
    rw [hzero]
    rfl
  · exact halts_run (Nat.pos_of_ne_zero ‹_›) (.before : Shown [] _ _) t

/-! ## Safety of reading -/

inductive Comes (limit : Nat) (t : Text) : Except Fault (Except Failure Tree) → Prop where
  | halt {c : Config} {outcome : Except Failure Tree} (h : Reaches limit t c) (hhalt : step limit t c = .halt outcome) :
      Comes limit t (.ok outcome)
  | fault {c : Config} {f : Fault} (h : Reaches limit t c) (hfault : step limit t c = .fault f) :
      Comes limit t (.error f)

/-- What a run comes to under a guard that turns a fault into a failure, in words of its own. -/
inductive Guarded (limit : Nat) (t : Text) (words : Fault → String) : Except Failure Tree → Prop where
  | halt {outcome : Except Failure Tree} (h : Comes limit t (.ok outcome)) : Guarded limit t words outcome
  | fault {f : Fault} (h : Comes limit t (.error f)) : Guarded limit t words (.error (.panicked (words f)))

/-- Reads every text as the reader of bytes does, under the limit in force. -/
def CarriesOut (reader : Reader) : Prop := ∀ limit t, Comes (min limit 256) t (reader limit t)

/-- A run comes to what is read. -/
theorem comes_iff {limit : Nat} {t : Text} {r : Except Fault (Except Failure Tree)} :
    Comes (effectiveLimit limit) t r ↔ r = .ok (parse limit t) := by
  obtain ⟨last, hreaches, hlast⟩ := halts_parse limit t
  constructor
  · intro h
    cases h with
    | halt hc hhalt => exact congrArg Except.ok (HaltsWith.unique ⟨_, hc, hhalt⟩ ⟨last, hreaches, hlast⟩)
    | fault hc hfault => exact absurd hfault (step_ne_fault hc _)
  · rintro rfl
    exact .halt hreaches hlast

theorem carriesOut_reader : CarriesOut reader := fun _ _ => comes_iff.mpr rfl

/-- There is one way to read what the reader of bytes reads. -/
theorem CarriesOut.eq_reader {r : Reader} (h : CarriesOut r) : r = reader := by
  funext limit t
  exact comes_iff.mp (h limit t)

/-- Reading is safe. Wherever the reader of bytes gets to, its offsets lie within the text, what it cuts out lies
    between characters, no count goes below zero and no more nodes are open than the limit in force allows; and it
    gets to no fault. Under whatever guard against faults, its run comes to what is read and to nothing else, which is
    never what the guard would make of a fault. -/
theorem parse_bytewise (limit : Nat) (t : Text) :
    (∀ c, Reaches (min limit 256) t c →
      Safe (min limit 256) t c ∧ ∀ f, step (min limit 256) t c ≠ .fault f) ∧
    (∀ words outcome, Guarded (min limit 256) t words outcome ↔ outcome = parse limit t) ∧
      ∀ detail, parse limit t ≠ .error (.panicked detail) := by
  simp only [← effectiveLimit_eq]
  refine ⟨fun c hc => ⟨safe_of_reaches hc, step_ne_fault hc⟩, fun words outcome => ⟨fun h => ?_, ?_⟩, ?_⟩
  · cases h with
    | halt h => exact Except.ok.inj (comes_iff.mp h)
    | fault h => cases comes_iff.mp h
  · rintro rfl
    exact .halt (comes_iff.mpr rfl)
  · intro detail hpanicked
    rcases parse_error_cases hpanicked with ⟨position, wrong, he⟩ | he
    · cases he
    · cases he

/-- Behind a key of two bytes, at the parenthesis that ends an inner pair, under a limit beyond the ceiling. -/
theorem parse_bytewise_nested :
    Reaches 256 "(é=b(c))".toList ⟨7, .lower [] ['é'] 4 1⟩ ∧
      Safe 256 "(é=b(c))".toList ⟨7, .lower [] ['é'] 4 1⟩ ∧
      Guarded 256 "(é=b(c))".toList (fun _ => "broken off") (.ok (.leaf ['é'] "b(c)".toList)) ∧
      parse 1000 "(é=b(c))".toList = .ok (.leaf ['é'] "b(c)".toList) := by
  have hreaches : Reaches 256 "(é=b(c))".toList ⟨7, .lower [] ['é'] 4 1⟩ := by
    unfold Reaches
    iterate 12 refine .head rfl ?_
    exact .refl
  have hparse : parse 1000 "(é=b(c))".toList = .ok (.leaf ['é'] "b(c)".toList) := by rfl
  exact ⟨hreaches, ((parse_bytewise 1000 _).1 _ hreaches).1, ((parse_bytewise 1000 _).2.1 _ _).mpr hparse.symm,
    hparse⟩

end ConnectString.Descriptor.Bytewise
