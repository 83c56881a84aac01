/-
  ConnectString.Proofs.Descriptor.Bytewise — the reader with nothing but a byte offset.

  This reader looks at the byte that it stands at, and moves on by one byte at a time, inside of characters as well as
  between them. It cuts a key or a value out of the text by two byte offsets, and it counts the parentheses of a value
  up and down. Two things can go wrong with it that are no errors of the text: a cut whose ends are out of order, or
  not between characters, and a count that goes below zero. Both are faults.

  One invariant keeps it from them (`keeps_step`): a key or a value begins between two characters, and where it is cut
  the reader stands at the byte of a parenthesis or of an equals sign, which is a character by itself. So every
  position that is reached is safe, and no fault is (`safe_of_reaches`, `step_ne_fault`).
-/

import Mathlib.Logic.Relation
import ConnectString.Proofs.Text.Utf8
import ConnectString.Proofs.Descriptor.Limit

namespace ConnectString.Descriptor.Bytewise

/-- Where the reader stands. Nodes that are open are kept with the outermost last. -/
inductive Point where
  /-- At the blanks before the root. -/
  | lead
  /-- At a node that is about to be opened. -/
  | enter (outer : List Frame)
  /-- In a key. -/
  | key (outer : List Frame) (start : Nat)
  /-- At the equals sign behind a key, which is about to be cut out. -/
  | cutKey (outer : List Frame) (start : Nat)
  /-- Behind the equals sign, at the blanks before a value. -/
  | gap (outer : List Frame) (key : Text)
  /-- In a value. -/
  | text (outer : List Frame) (key : Text) (start nested : Nat)
  /-- At an opening parenthesis of a value, which is counted already. -/
  | raised (outer : List Frame) (key : Text) (start nested : Nat)
  /-- At a closing parenthesis of a value, which is about to be counted. -/
  | lower (outer : List Frame) (key : Text) (start nested : Nat)
  /-- At the closing parenthesis behind a value, which is about to be cut out. -/
  | cutText (outer : List Frame) (key : Text) (start : Nat)
  /-- At the blanks before a child of the branch `inner`, or before its end. -/
  | row (outer : List Frame) (inner : Frame)
  /-- At the blanks behind the root. -/
  | trail (root : Tree)

structure Config where
  pos : Nat
  point : Point

inductive Move where
  | go (c : Config)
  | halt (outcome : Except Failure Tree)
  | fault (f : Fault)

def isBlankByte (b : UInt8) : Bool :=
  b == ' '.toUInt8 || b == '\t'.toUInt8 || b == '\n'.toUInt8 || b == '\x0C'.toUInt8 || b == '\r'.toUInt8

namespace Point

def close : List Frame → Tree → Point
  | [], t => trail t
  | f :: outer, t => row outer { f with children := t :: f.children }

def openNodes : Point → Nat
  | lead | trail _ => 0
  | enter outer => outer.length
  | key outer _ | cutKey outer _ | gap outer _ | text outer _ _ _ | raised outer _ _ _ | lower outer _ _ _
  | cutText outer _ _ | row outer _ => outer.length + 1

/-- The depth of the node that is being read; the root has depth one. -/
def depth : Point → Nat
  | lead | trail _ => 0
  | enter outer | key outer _ | cutKey outer _ | gap outer _ | text outer _ _ _ | raised outer _ _ _
  | lower outer _ _ _ | cutText outer _ _ | row outer _ => outer.length + 1

/-- The count of the parentheses of a value. -/
def nested : Point → Nat
  | text _ _ _ n | raised _ _ _ n | lower _ _ _ n => n
  | _ => 0

/-- Where the piece begins that is about to be cut out. -/
def cut? : Point → Option Nat
  | cutKey _ start | cutText _ _ start => some start
  | _ => none

/-- The count that is about to be lowered. -/
def lowers? : Point → Option Nat
  | lower _ _ _ n => some n
  | _ => none

end Point

def cut (t : Text) (start stop : Nat) (next : Text → Move) : Move :=
  match Text.slice t start stop with
  | .ok w => next w
  | .error f => .fault f

def step (limit : Nat) (t : Text) : Config → Move
  | ⟨pos, .lead⟩ =>
    if (Text.byteAt? t pos).any isBlankByte then .go ⟨pos + 1, .lead⟩ else .go ⟨pos, .enter []⟩
  | ⟨pos, .enter outer⟩ =>
    if limit < outer.length + 1 then .halt (.error (.nestingTooDeep limit))
    else
      match Text.byteAt? t pos with
      | some b =>
        if b = '('.toUInt8 then .go ⟨pos + 1, .key outer (pos + 1)⟩
        else .halt (.error (.unbalanced pos "expected '('"))
      | none => .halt (.error (.unbalanced pos "unexpected end of input, expected '('"))
  | ⟨pos, .key outer start⟩ =>
    match Text.byteAt? t pos with
    | some b =>
      if b = '='.toUInt8 then .go ⟨pos, .cutKey outer start⟩
      else if b = '('.toUInt8 ∨ b = ')'.toUInt8 then .halt (.error (.unbalanced pos "expected '=' after key"))
      else .go ⟨pos + 1, .key outer start⟩
    | none => .halt (.error (.unbalanced pos "unexpected end of input, expected '='"))
  | ⟨pos, .cutKey outer start⟩ =>
    cut t start pos fun w =>
      match Text.trim w with
      | [] => .halt (.error (.unbalanced start "empty key"))
      | k => .go ⟨pos + 1, .gap outer k⟩
  | ⟨pos, .gap outer k⟩ =>
    if (Text.byteAt? t pos).any isBlankByte then .go ⟨pos + 1, .gap outer k⟩
    else if Text.byteAt? t pos = some '('.toUInt8 then .go ⟨pos, .row outer ⟨k, []⟩⟩
    else .go ⟨pos, .text outer k pos 0⟩
  | ⟨pos, .text outer k start nested⟩ =>
    match Text.byteAt? t pos with
    | some b =>
      if b = '('.toUInt8 then .go ⟨pos, .raised outer k start (nested + 1)⟩
      else if b = ')'.toUInt8 then
        if nested = 0 then .go ⟨pos, .cutText outer k start⟩ else .go ⟨pos, .lower outer k start nested⟩
      else .go ⟨pos + 1, .text outer k start nested⟩
    | none => .halt (.error (.unbalanced pos "unexpected end of input, expected ')'"))
  | ⟨pos, .raised outer k start nested⟩ =>
    if limit < outer.length + 1 + nested then .halt (.error (.nestingTooDeep limit))
    else .go ⟨pos + 1, .text outer k start nested⟩
  | ⟨pos, .lower outer k start nested⟩ =>
    match nested with
    | 0 => .fault .underflow
    | n + 1 => .go ⟨pos + 1, .text outer k start n⟩
  | ⟨pos, .cutText outer k start⟩ =>
    cut t start pos fun w => .go ⟨pos + 1, .close outer (State.leafOrEmpty k w.reverse)⟩
  | ⟨pos, .row outer inner⟩ =>
    if (Text.byteAt? t pos).any isBlankByte then .go ⟨pos + 1, .row outer inner⟩
    else
      match Text.byteAt? t pos with
      | some b =>
        if b = '('.toUInt8 then .go ⟨pos, .enter (inner :: outer)⟩
        else if b = ')'.toUInt8 then .go ⟨pos + 1, .close outer (.branch inner.key inner.children.reverse)⟩
        else .halt (.error (.unbalanced pos "expected '(' or ')' between child nodes"))
      | none => .halt (.error (.unbalanced pos "unexpected end of input, expected ')'"))
  | ⟨pos, .trail root⟩ =>
    if (Text.byteAt? t pos).any isBlankByte then .go ⟨pos + 1, .trail root⟩
    else if pos < Text.byteLength t then .halt (.error (.unbalanced pos "unexpected text after the closing ')'"))
    else .halt (.ok root)

def Leads (limit : Nat) (t : Text) : Config → Config → Prop :=
  Relation.ReflTransGen fun c c' => step limit t c = .go c'

def Reaches (limit : Nat) (t : Text) (c : Config) : Prop := Leads limit t ⟨0, .lead⟩ c

/-! ## The invariant -/

variable {limit : Nat} {t : Text}

/-- A piece of the text that begins between two characters. -/
def BeginsAt (t : Text) (start pos : Nat) : Prop := Text.Boundary t start ∧ start ≤ pos

def Inv (limit : Nat) (t : Text) : Config → Prop
  | ⟨pos, .lead⟩ | ⟨pos, .trail _⟩ => pos ≤ Text.byteLength t
  | ⟨pos, .enter outer⟩ => pos ≤ Text.byteLength t ∧ outer.length ≤ limit
  | ⟨pos, .row outer _⟩ => pos ≤ Text.byteLength t ∧ outer.length + 1 ≤ limit
  | ⟨pos, .gap outer _⟩ => Text.Boundary t pos ∧ outer.length + 1 ≤ limit
  | ⟨pos, .key outer start⟩ => BeginsAt t start pos ∧ pos ≤ Text.byteLength t ∧ outer.length + 1 ≤ limit
  | ⟨pos, .cutKey outer start⟩ =>
    BeginsAt t start pos ∧ Text.byteAt? t pos = some '='.toUInt8 ∧ outer.length + 1 ≤ limit
  | ⟨pos, .text outer _ start nested⟩ =>
    BeginsAt t start pos ∧ pos ≤ Text.byteLength t ∧ outer.length + 1 + nested ≤ limit
  | ⟨pos, .raised outer _ start nested⟩ =>
    BeginsAt t start pos ∧ Text.byteAt? t pos = some '('.toUInt8 ∧ 0 < nested ∧ outer.length + nested ≤ limit
  | ⟨pos, .lower outer _ start nested⟩ =>
    BeginsAt t start pos ∧ Text.byteAt? t pos = some ')'.toUInt8 ∧ 0 < nested ∧ outer.length + 1 + nested ≤ limit
  | ⟨pos, .cutText outer _ start⟩ =>
    BeginsAt t start pos ∧ Text.byteAt? t pos = some ')'.toUInt8 ∧ outer.length + 1 ≤ limit

/-- A move that keeps the invariant, and is no fault. -/
inductive Keeps (limit : Nat) (t : Text) : Move → Prop where
  | go {c : Config} (h : Inv limit t c) : Keeps limit t (.go c)
  | halt (outcome : Except Failure Tree) : Keeps limit t (.halt outcome)

theorem lt_of_isBlankByte {b : UInt8} (h : isBlankByte b = true) : b < 128 := by
  simp only [isBlankByte, Bool.or_eq_true, beq_iff_eq] at h
  rcases h with (((rfl | rfl) | rfl) | rfl) | rfl <;> decide

/-- Both sides of a blank that the reader skips lie between characters. -/
theorem boundary_of_blank {pos : Nat} (h : (Text.byteAt? t pos).any isBlankByte = true) :
    Text.Boundary t pos ∧ Text.Boundary t (pos + 1) := by
  obtain ⟨b, hb, hblank⟩ := (Option.any_eq_true ..).mp h
  exact Text.boundary_of_byteAt_ascii hb (lt_of_isBlankByte hblank)

theorem BeginsAt.next {start pos : Nat} (h : BeginsAt t start pos) : BeginsAt t start (pos + 1) :=
  ⟨h.1, Nat.le_succ_of_le h.2⟩

theorem inv_close {outer : List Frame} {root : Tree} {pos : Nat} (hpos : pos ≤ Text.byteLength t)
    (hfit : outer.length ≤ limit) : Inv limit t ⟨pos, .close outer root⟩ := by
  rcases outer with _ | ⟨f, outer⟩
  · exact hpos
  · exact ⟨hpos, hfit⟩

/-- A piece that begins between two characters can be cut out in front of an ASCII character. -/
theorem keeps_cut {start pos : Nat} {b : UInt8} {next : Text → Move} (hstart : BeginsAt t start pos)
    (hb : Text.byteAt? t pos = some b) (hascii : b < 128) (hnext : ∀ w, Keeps limit t (next w)) :
    Keeps limit t (cut t start pos next) := by
  have hstop := (Text.boundary_of_byteAt_ascii hb hascii).1
  obtain ⟨w, hw⟩ := Text.exists_slice hstart.2 hstart.1 hstop
  simp only [cut, hw]
  exact hnext w

theorem keeps_step {c : Config} (h : Inv limit t c) : Keeps limit t (step limit t c) := by
  obtain ⟨pos, point⟩ := c
  cases point with
  | lead =>
    simp only [step]
    split
    · exact .go (boundary_of_blank ‹_›).2.le
    · exact .go ⟨h, Nat.zero_le limit⟩
  | enter outer =>
    simp only [step]
    split
    · exact .halt _
    rename_i hfull
    split
    · rename_i b hb
      split
      · subst b
        have hcut := Text.boundary_of_byteAt_ascii hb (by decide)
        exact .go ⟨⟨hcut.2, Nat.le_refl _⟩, hcut.2.le, Nat.not_lt.mp hfull⟩
      · exact .halt _
    · exact .halt _
  | key outer start =>
    obtain ⟨hstart, hpos, hfit⟩ := h
    simp only [step]
    split
    · rename_i b hb
      split
      · subst b
        exact .go ⟨hstart, hb, hfit⟩
      split
      · exact .halt _
      · exact .go ⟨hstart.next, Text.lt_of_byteAt? hb, hfit⟩
    · exact .halt _
  | cutKey outer start =>
    obtain ⟨hstart, hb, hfit⟩ := h
    refine keeps_cut hstart hb (by decide) fun w => ?_
    split
    · exact .halt _
    · exact .go ⟨(Text.boundary_of_byteAt_ascii hb (by decide)).2, hfit⟩
  | gap outer key =>
    obtain ⟨hpos, hfit⟩ := h
    simp only [step]
    split
    · exact .go ⟨(boundary_of_blank ‹_›).2, hfit⟩
    split
    · exact .go ⟨hpos.le, hfit⟩
    · exact .go ⟨⟨hpos, Nat.le_refl pos⟩, hpos.le, hfit⟩
  | text outer key start nested =>
    obtain ⟨hstart, hpos, hfit⟩ := h
    simp only [step]
    split
    · rename_i b hb
      split
      · subst b
        exact .go ⟨hstart, hb, Nat.succ_pos nested, by omega⟩
      split
      · subst b
        split
        · exact .go ⟨hstart, hb, by omega⟩
        · exact .go ⟨hstart, hb, Nat.pos_of_ne_zero ‹_›, hfit⟩
      · exact .go ⟨hstart.next, Text.lt_of_byteAt? hb, hfit⟩
    · exact .halt _
  | raised outer key start nested =>
    obtain ⟨hstart, hb, -⟩ := h
    simp only [step]
    split
    · exact .halt _
    · exact .go ⟨hstart.next, Text.lt_of_byteAt? hb, Nat.not_lt.mp ‹_›⟩
  | lower outer key start nested =>
    obtain ⟨hstart, hb, hcount, hfit⟩ := h
    rcases nested with _ | n
    · exact absurd hcount (Nat.lt_irrefl 0)
    · exact .go ⟨hstart.next, Text.lt_of_byteAt? hb, by omega⟩
  | cutText outer key start =>
    obtain ⟨hstart, hb, hfit⟩ := h
    exact keeps_cut hstart hb (by decide) fun w => .go (inv_close (Text.lt_of_byteAt? hb) (Nat.le_of_succ_le hfit))
  | row outer inner =>
    obtain ⟨hpos, hfit⟩ := h
    simp only [step]
    split
    · exact .go ⟨(boundary_of_blank ‹_›).2.le, hfit⟩
    split
    · rename_i b hb
      split
      · exact .go ⟨hpos, hfit⟩
      split
      · exact .go (inv_close (Text.lt_of_byteAt? hb) (Nat.le_of_succ_le hfit))
      · exact .halt _
    · exact .halt _
  | trail root =>
    simp only [step]
    split
    · exact .go (boundary_of_blank ‹_›).2.le
    split
    · exact .halt _
    · exact .halt _

theorem inv_of_reaches {c : Config} (h : Reaches limit t c) : Inv limit t c := by
  induction h with
  | refl => exact Nat.zero_le _
  | tail _ hstep ih =>
    have hkeeps := keeps_step ih
    rw [hstep] at hkeeps
    cases hkeeps with
    | go hinv => exact hinv

/-! ## Safety -/

/-- What keeps the reader from a fault, and its stack within the limit. -/
structure Safe (limit : Nat) (t : Text) (c : Config) : Prop where
  /-- No offset lies past the end of the text. -/
  position : c.pos ≤ Text.byteLength t
  /-- What is about to be cut out begins and ends between two characters. -/
  slice : ∀ start, c.point.cut? = some start →
    start ≤ c.pos ∧ Text.Boundary t start ∧ Text.Boundary t c.pos
  /-- A count is lowered only where it is positive. -/
  counter : ∀ n, c.point.lowers? = some n → 0 < n
  /-- No more nodes are open than the limit allows. -/
  nodes : c.point.openNodes ≤ limit
  /-- A node or a parenthesis that goes beyond the limit goes beyond it by one. -/
  level : c.point.depth + c.point.nested ≤ limit + 1

theorem safe_of_inv {c : Config} (h : Inv limit t c) : Safe limit t c := by
  obtain ⟨pos, point⟩ := c
  have hnone : ∀ {P : Nat → Prop} (n : Nat), none = some n → P n := by
    intro P n hn
    cases hn
  cases point with
  | lead | trail => exact ⟨h, hnone, hnone, Nat.zero_le _, Nat.zero_le _⟩
  | enter outer => exact ⟨h.1, hnone, hnone, h.2, Nat.succ_le_succ h.2⟩
  | row outer inner => exact ⟨h.1, hnone, hnone, h.2, Nat.le_succ_of_le h.2⟩
  | gap outer key => exact ⟨h.1.le, hnone, hnone, h.2, Nat.le_succ_of_le h.2⟩
  | key outer start => exact ⟨h.2.1, hnone, hnone, h.2.2, Nat.le_succ_of_le h.2.2⟩
  | text outer key start nested =>
    exact ⟨h.2.1, hnone, hnone, Nat.le_trans (Nat.le_add_right _ _) h.2.2, Nat.le_succ_of_le h.2.2⟩
  | cutKey outer start | cutText outer key start =>
    obtain ⟨hstart, hb, hfit⟩ := h
    have hstop := (Text.boundary_of_byteAt_ascii hb (by decide)).1
    refine ⟨hstop.le, ?_, hnone, hfit, Nat.le_succ_of_le hfit⟩
    rintro _ ⟨⟩
    exact ⟨hstart.2, hstart.1, hstop⟩
  | raised outer key start nested =>
    obtain ⟨hstart, hb, hcount, hfit⟩ := h
    have hlevel : outer.length + 1 + nested ≤ limit + 1 := by omega
    exact ⟨Nat.le_of_lt (Text.lt_of_byteAt? hb), hnone, hnone, by show outer.length + 1 ≤ limit; omega, hlevel⟩
  | lower outer key start nested =>
    obtain ⟨hstart, hb, hcount, hfit⟩ := h
    refine ⟨Nat.le_of_lt (Text.lt_of_byteAt? hb), hnone, ?_, Nat.le_trans (Nat.le_add_right _ _) hfit,
      Nat.le_succ_of_le hfit⟩
    rintro _ ⟨⟩
    exact hcount

theorem safe_of_reaches {c : Config} (h : Reaches limit t c) : Safe limit t c := safe_of_inv (inv_of_reaches h)

theorem step_ne_fault {c : Config} (h : Reaches limit t c) (f : Fault) : step limit t c ≠ .fault f := by
  intro hfault
  have hkeeps := keeps_step (inv_of_reaches h)
  rw [hfault] at hkeeps
  cases hkeeps

end ConnectString.Descriptor.Bytewise
