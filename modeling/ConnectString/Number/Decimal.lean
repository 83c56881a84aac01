/-
  ConnectString.Number.Decimal — natural numbers in decimal digits.

  `read?` takes back what `write` puts down (`read?_write`); it also takes leading zeros.
-/

import ConnectString.Text

namespace ConnectString.Decimal

def digit (n : Nat) : Char := Char.ofNat (48 + n)

def digitValue (c : Char) : Nat := c.toNat - 48

def isDigit (c : Char) : Bool := 48 ≤ c.toNat && c.toNat ≤ 57

/-- The decimal digits of a number, without leading zeros. -/
def write (n : Nat) : Text := if n < 10 then [digit n] else write (n / 10) ++ [digit (n % 10)]

def value (base : Nat) (digits : List Nat) : Nat := digits.foldl (fun n d => n * base + d) 0

/-- The number that a non-empty row of digits stands for. -/
def read? (t : Text) : Option Nat :=
  if !t.isEmpty && t.all isDigit then some (value 10 (t.map digitValue)) else none

theorem digit_spec : ∀ n < 10, isDigit (digit n) = true ∧ digitValue (digit n) = n := by decide

theorem write_ne_nil (n : Nat) : write n ≠ [] := by
  rw [write]; split <;> simp

theorem isDigit_of_mem_write (n : Nat) : ∀ c ∈ write n, isDigit c = true := by
  induction n using Nat.strongRecOn with
  | ind n ih =>
    intro c hc
    rw [write] at hc
    split at hc
    · rename_i h; obtain rfl := List.mem_singleton.mp hc; exact (digit_spec n h).1
    · rcases List.mem_append.mp hc with hc | hc
      · exact ih (n / 10) (by omega) c hc
      · obtain rfl := List.mem_singleton.mp hc; exact (digit_spec _ (Nat.mod_lt _ (by omega))).1

theorem value_write (n : Nat) : value 10 ((write n).map digitValue) = n := by
  induction n using Nat.strongRecOn with
  | ind n ih =>
    rw [write]
    split
    · rename_i h; simp [value, (digit_spec n h).2]
    · have := ih (n / 10) (by omega)
      simp only [value] at this
      simp only [value, List.map_append, List.foldl_append, this, List.map_cons, List.map_nil, List.foldl_cons,
        List.foldl_nil, (digit_spec (n % 10) (Nat.mod_lt _ (by omega))).2]
      omega

theorem read?_write (n : Nat) : read? (write n) = some n := by
  have hall : (write n).all isDigit = true := List.all_eq_true.mpr (isDigit_of_mem_write n)
  have hne : (write n).isEmpty = false := by simp [write_ne_nil]
  simp [read?, hall, hne, value_write]

end ConnectString.Decimal
