import Mathlib.Data.List.Basic

namespace RecomputerGateway.ByteLayout

/-!
# Fixed layouts of sequences

A record with fields of fixed widths is stored as the concatenation of its
fields.  This module relates the position of a field in the concatenation to
the slice that a reader cuts out at an offset.
-/

variable {α : Type}

/-- A sequence of exactly `width` elements. -/
structure Field (α : Type) (width : Nat) where
  elements : List α
  length_elements : elements.length = width
  deriving DecidableEq

namespace Field

variable {width : Nat}

@[ext] theorem ext
    {first second : Field α width}
    (same : first.elements = second.elements) :
    first = second := by
  cases first
  cases second
  cases same
  rfl

/-- Truncate to the width, then pad with `fill`. -/
def padded (width : Nat) (fill : α) (content : List α) :
    Field α width where
  elements :=
    content.take width ++
      List.replicate (width - (content.take width).length) fill
  length_elements := by
    simp only [List.length_append, List.length_replicate]
    have bound : (content.take width).length ≤ width :=
      List.length_take_le width content
    omega

/-- Padding only looks at the part of the content that fits. -/
theorem padded_take
    (fill : α)
    (content : List α) :
    padded width fill (content.take width) =
      padded width fill content := by
  ext1
  simp [padded, List.take_take]

/-- Content that fits comes back when the padding is cut off. -/
theorem takeWhile_padded
    [DecidableEq α]
    {fill : α}
    {content : List α}
    (absent : fill ∉ content) :
    (padded width fill content).elements.takeWhile (· ≠ fill) =
      content.take width := by
  have kept :
      ∀ element ∈ content.take width, decide (element ≠ fill) = true := by
    intro element member
    refine decide_eq_true ?_
    rintro rfl
    exact absent (List.mem_of_mem_take member)
  simp only [padded]
  rw [List.takeWhile_append_of_pos kept]
  cases width - (content.take width).length with
  | zero =>
      simp
  | succ rest =>
      simp [List.replicate_succ]

end Field

/-- The `width` elements from `offset` on. -/
def slice (image : List α) (offset width : Nat) : List α :=
  (image.drop offset).take width

theorem length_slice
    {image : List α}
    {offset width : Nat}
    (within : offset + width ≤ image.length) :
    (slice image offset width).length = width := by
  simp only [slice, List.length_take, List.length_drop]
  omega

/-- The field at its offset, when something stands before and behind it. -/
theorem slice_of_append
    {front middle back : List α}
    {offset width : Nat}
    (before : front.length = offset)
    (field : middle.length = width) :
    slice (front ++ (middle ++ back)) offset width = middle := by
  subst before field
  simp [slice]

/-- Every part of a concatenation is the slice at its offset. -/
theorem slice_flatten
    {parts : List (List α)}
    {index offset width : Nat}
    {part : List α}
    (found : parts[index]? = some part)
    (before : (parts.take index).flatten.length = offset)
    (field : part.length = width) :
    slice parts.flatten offset width = part := by
  obtain ⟨bound, atIndex⟩ := List.getElem?_eq_some_iff.mp found
  have split :
      parts = parts.take index ++ part :: parts.drop (index + 1) := by
    rw [← atIndex, List.getElem_cons_drop, List.take_append_drop]
  rw [split, List.flatten_append, List.flatten_cons]
  exact slice_of_append before field

/-- Two neighbouring slices make one. -/
theorem slice_append_slice
    (image : List α)
    (offset first second : Nat) :
    slice image offset first ++ slice image (offset + first) second =
      slice image offset (first + second) := by
  unfold slice
  rw [List.take_add, List.drop_drop]

/-- Read a field out of an image that is long enough. -/
def fieldAt
    (image : List α)
    (offset width : Nat)
    (within : offset + width ≤ image.length) :
    Field α width where
  elements := slice image offset width
  length_elements := length_slice within

end RecomputerGateway.ByteLayout
