import Mathlib.Logic.Function.Basic

namespace RecomputerGateway

/-!
# Descriptor tables

The open files of a process by their numbers.  A call that opens a file gets
the lowest number that is free, and a call that closes one frees its number
for the next file, whoever opens it.

Nothing here refers to a particular program.
-/

/-- Which file each number stands for. -/
structure DescriptorTable (File : Type) where
  file? : Nat → Option File

namespace DescriptorTable

variable {File : Type}

/-- The number that the next file gets. -/
def IsLowestFree
    (table : DescriptorTable File)
    (number : Nat) :
    Prop :=
  table.file? number = none ∧
    ∀ lower < number, (table.file? lower).isSome

instance
    (table : DescriptorTable File)
    (number : Nat) :
    Decidable (table.IsLowestFree number) :=
  inferInstanceAs (Decidable (_ ∧ _))

/-- Let a number stand for a file. -/
def install
    (table : DescriptorTable File)
    (number : Nat)
    (file : File) :
    DescriptorTable File where
  file? := Function.update table.file? number (some file)

/-- Free a number. -/
def release
    (table : DescriptorTable File)
    (number : Nat) :
    DescriptorTable File where
  file? := Function.update table.file? number none

@[simp] theorem file?_install_self
    (table : DescriptorTable File)
    (number : Nat)
    (file : File) :
    (table.install number file).file? number = some file :=
  Function.update_self ..

theorem file?_install_of_ne
    (table : DescriptorTable File)
    {number other : Nat}
    (file : File)
    (differs : other ≠ number) :
    (table.install number file).file? other = table.file? other :=
  Function.update_of_ne differs ..

@[simp] theorem file?_release_self
    (table : DescriptorTable File)
    (number : Nat) :
    (table.release number).file? number = none :=
  Function.update_self ..

theorem file?_release_of_ne
    (table : DescriptorTable File)
    {number other : Nat}
    (differs : other ≠ number) :
    (table.release number).file? other = table.file? other :=
  Function.update_of_ne differs ..

/-- A file that stays open across an opening keeps its number. -/
theorem file?_install_of_free
    {table : DescriptorTable File}
    {number other : Nat}
    {file : File}
    (opened : File)
    (free : table.file? number = none)
    (isOpen : table.file? other = some file) :
    (table.install number opened).file? other = some file := by
  have differs : other ≠ number := by
    intro same
    rw [same, free] at isOpen
    contradiction
  rw [file?_install_of_ne table opened differs, isOpen]

end DescriptorTable

end RecomputerGateway
