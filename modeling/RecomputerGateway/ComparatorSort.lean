import Mathlib.Data.List.Basic

namespace RecomputerGateway.ComparatorSort

/-!
# Sorting with a comparator

`qsort` of the C library sorts an array with a comparator that the caller
passes, and promises a sorted array only if the comparator orders the elements
of this array.  Which of the sorted arrays it is, is left open where elements
compare equal.

Nothing here refers to a particular kind of element.
-/

variable {Element : Type}

/-- The comparator orders these elements. -/
structure Consistent
    (compare : Element → Element → Int)
    (elements : List Element) :
    Prop where
  antisymmetric :
    ∀ first ∈ elements, ∀ second ∈ elements,
      compare first second < 0 ↔ 0 < compare second first
  transitive :
    ∀ first ∈ elements, ∀ second ∈ elements, ∀ third ∈ elements,
      compare first second ≤ 0 →
        compare second third ≤ 0 →
          compare first third ≤ 0

/-- What `qsort` promises; the size of the array never changes. -/
structure Qsort (Element : Type) where
  sort : (Element → Element → Int) → List Element → List Element
  length :
    ∀ compare elements, (sort compare elements).length = elements.length
  perm :
    ∀ {compare elements},
      Consistent compare elements → (sort compare elements).Perm elements
  ordered :
    ∀ {compare elements},
      Consistent compare elements →
        (sort compare elements).Pairwise fun first second =>
          compare first second ≤ 0

/-- A merge sort keeps the promise, since it compares nothing but elements. -/
def mergeSort (Element : Type) : Qsort Element where
  sort compare elements :=
    (elements.attach.mergeSort fun first second =>
        decide (compare first.val second.val ≤ 0)).map
      Subtype.val
  length := by
    intro compare elements
    rw [List.length_map, List.length_mergeSort, List.length_attach]
  perm := by
    intro compare elements _
    have sorted :=
      List.mergeSort_perm elements.attach fun first second =>
        decide (compare first.val second.val ≤ 0)
    have unpacked := sorted.map Subtype.val
    rwa [List.attach_map_subtype_val] at unpacked
  ordered := by
    intro compare elements consistent
    rw [List.pairwise_map]
    refine
      (List.pairwise_mergeSort ?_ ?_ elements.attach).imp of_decide_eq_true
    · intro first second third firstSecond secondThird
      apply decide_eq_true
      exact
        consistent.transitive first.val first.property second.val
          second.property third.val third.property
          (of_decide_eq_true firstSecond) (of_decide_eq_true secondThird)
    · intro first second
      have opposite :=
        consistent.antisymmetric second.val second.property first.val
          first.property
      rw [Bool.or_eq_true, decide_eq_true_eq, decide_eq_true_eq]
      omega

section Keys

variable
  {compare : Element → Element → Int}
  {elements : List Element}
  {key : Element → Nat}

/-- A comparator that subtracts keys orders the elements by them. -/
theorem consistent_of_keys
    (subtracts :
      ∀ first ∈ elements, ∀ second ∈ elements,
        compare first second = (key first : Int) - key second) :
    Consistent compare elements where
  antisymmetric := by
    intro first firstIn second secondIn
    rw [subtracts first firstIn second secondIn,
      subtracts second secondIn first firstIn]
    omega
  transitive := by
    intro first firstIn second secondIn third thirdIn
    rw [subtracts first firstIn second secondIn,
      subtracts second secondIn third thirdIn,
      subtracts first firstIn third thirdIn]
    omega

/-- The elements are sorted by their keys then. -/
theorem Qsort.pairwise_key
    (qsort : Qsort Element)
    (subtracts :
      ∀ first ∈ elements, ∀ second ∈ elements,
        compare first second = (key first : Int) - key second) :
    (qsort.sort compare elements).Pairwise fun first second =>
      key first ≤ key second := by
  have consistent := consistent_of_keys subtracts
  have sameElements := qsort.perm consistent
  refine
    (qsort.ordered consistent).imp_of_mem ?_
  intro first second firstIn secondIn notAfter
  rw [subtracts first (sameElements.subset firstIn) second
    (sameElements.subset secondIn)] at notAfter
  omega

end Keys

end RecomputerGateway.ComparatorSort
