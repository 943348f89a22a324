import RecomputerGateway.ComparatorSort
import RecomputerGateway.SerialOrder

namespace RecomputerGateway.ForwarderOrder

/-!
# The order of packets across the wrap of the counter

The concentrator counts microseconds in 32 bits.  Two comparators turn the
counts of two packets into `int`s and subtract them, one for the packets that
wait for their transmission and one for those that have been received.
-/

open ComparatorSort (Consistent Qsort)
open SerialOrder (InHalf difference offset)

/-- A packet, with its count and everything else about it. -/
structure Packet (Content : Type) where
  countUs : BitVec 32
  content : Content
  deriving DecidableEq

/-- `struct jit_node_s`, a packet in the queue and what is noted with it. -/
structure JitNode (Content Note : Type) where
  pkt : Packet Content
  note : Note
  deriving DecidableEq

/-- `struct jit_queue_s`. -/
structure JitQueue (Content Note : Type) where
  numPkt : Nat
  nodes : List (JitNode Content Note)
  fits : numPkt ≤ nodes.length

variable {Content Note : Type}

/-- `compare`; the subtraction of `int`s wraps around. -/
def compare (p q : JitNode Content Note) : Int :=
  difference p.pkt.countUs q.pkt.countUs

/-- `compare_pkt_tmst`. -/
def comparePktTmst (p q : Packet Content) : Int :=
  difference p.countUs q.countUs

namespace JitQueue

/-- The nodes of the array that hold a packet. -/
def waiting (queue : JitQueue Content Note) : List (JitNode Content Note) :=
  queue.nodes.take queue.numPkt

end JitQueue

/-- `qsort` of the first `count` elements of an array. -/
def sortFirst
    {Element : Type}
    (qsort : Qsort Element)
    (cmp : Element → Element → Int)
    (count : Nat)
    (array : List Element) :
    List Element :=
  qsort.sort cmp (array.take count) ++ array.drop count

theorem length_sortFirst
    {Element : Type}
    (qsort : Qsort Element)
    (cmp : Element → Element → Int)
    (count : Nat)
    (array : List Element) :
    (sortFirst qsort cmp count array).length = array.length := by
  rw [sortFirst, List.length_append, qsort.length, ← List.length_append,
    List.take_append_drop]

/-- `jit_sort_queue`. -/
def jitSortQueue
    (qsort : Qsort (JitNode Content Note))
    (queue : JitQueue Content Note) :
    JitQueue Content Note :=
  if queue.numPkt = 0 then queue
  else
    { numPkt := queue.numPkt
      nodes := sortFirst qsort compare queue.numPkt queue.nodes
      fits := by
        rw [length_sortFirst]
        exact queue.fits }

/-- The last step of `merge_packets`, when `cpt` packets are left. -/
def mergePacketsSort
    (qsort : Qsort (Packet Content))
    (cpt : Nat)
    (p : List (Packet Content)) :
    List (Packet Content) :=
  sortFirst qsort comparePktTmst cpt p

/-! ## Packets within an arc -/

/-- The counts lie within an arc of fewer than `2 ^ 31` ticks from the base. -/
def Arc (base : BitVec 32) (counts : List (BitVec 32)) : Prop :=
  ∀ count ∈ counts, (count - base).toNat < 2147483648

/-- What sorting does to elements that carry a count. -/
structure SortsByRing
    {Element : Type}
    (base : BitVec 32)
    (countOf : Element → BitVec 32)
    (cmp : Element → Element → Int)
    (before after : List Element) :
    Prop where
  antisymmetric :
    ∀ p ∈ before, ∀ q ∈ before, cmp p q = - cmp q p
  transitive :
    ∀ p ∈ before, ∀ q ∈ before, ∀ r ∈ before,
      cmp p q ≤ 0 → cmp q r ≤ 0 → cmp p r ≤ 0
  zeroOnlyOnEqual :
    ∀ p ∈ before, ∀ q ∈ before, cmp p q = 0 ↔ countOf p = countOf q
  perm : after.Perm before
  ringOrder :
    after.Pairwise fun p q =>
      offset base (countOf p) ≤ offset base (countOf q)
  earliestFirst :
    ∀ p ∈ before, ∃ first,
      after[0]? = some first ∧
        offset base (countOf first) ≤ offset base (countOf p)

section Sorting

variable
  {Element : Type}
  {base : BitVec 32}
  {countOf : Element → BitVec 32}
  {cmp : Element → Element → Int}
  {elements : List Element}

/-- The comparators subtract the offsets from the start of the arc. -/
theorem difference_eq_offsets_of_arc
    (arc : Arc base (elements.map countOf))
    (subtracts : ∀ p q, cmp p q = difference (countOf p) (countOf q)) :
    ∀ p ∈ elements, ∀ q ∈ elements,
      cmp p q = (offset base (countOf p) : Int) - offset base (countOf q) := by
  have inHalf (p : Element) (member : p ∈ elements) :
      InHalf base (countOf p) := by
    have bound := arc (countOf p) (List.mem_map_of_mem member)
    exact BitVec.msb_eq_false_iff_two_mul_lt.mpr (by omega)
  intro p pIn q qIn
  rw [subtracts p q]
  exact SerialOrder.difference_eq_offsets (inHalf p pIn) (inHalf q qIn)

/-- In a sorted list no element is before the first one. -/
theorem earliest_of_pairwise
    {before after : List Element}
    (sameElements : after.Perm before)
    (ordered :
      after.Pairwise fun p q =>
        offset base (countOf p) ≤ offset base (countOf q))
    {p : Element}
    (member : p ∈ before) :
    ∃ first,
      after[0]? = some first ∧
        offset base (countOf first) ≤ offset base (countOf p) := by
  have sorted := sameElements.mem_iff.mpr member
  cases after with
  | nil =>
      cases sorted
  | cons first rest =>
      refine ⟨first, rfl, ?_⟩
      rcases List.mem_cons.mp sorted with rfl | later
      · exact Nat.le_refl _
      · exact List.rel_of_pairwise_cons ordered later

/-- Within an arc, every comparator of this kind sorts by the ring. -/
theorem sortsByRing_of_arc
    (qsort : Qsort Element)
    (arc : Arc base (elements.map countOf))
    (subtracts : ∀ p q, cmp p q = difference (countOf p) (countOf q)) :
    SortsByRing base countOf cmp elements (qsort.sort cmp elements) := by
  have byOffsets := difference_eq_offsets_of_arc arc subtracts
  have consistent : Consistent cmp elements :=
    ComparatorSort.consistent_of_keys byOffsets
  have sameElements := qsort.perm consistent
  have ordered := qsort.pairwise_key byOffsets
  constructor
  case antisymmetric =>
    intro p pIn q qIn
    rw [byOffsets p pIn q qIn, byOffsets q qIn p pIn, Int.neg_sub]
  case transitive =>
    exact consistent.transitive
  case zeroOnlyOnEqual =>
    intro p pIn q qIn
    rw [byOffsets p pIn q qIn, Int.sub_eq_zero, Int.ofNat_inj]
    exact (SerialOrder.offset_injective base).eq_iff
  case perm =>
    exact sameElements
  case ringOrder =>
    exact ordered
  case earliestFirst =>
    intro p member
    exact earliest_of_pairwise sameElements ordered member

end Sorting

/-- The sorted elements are at the front of the array. -/
theorem take_sortFirst
    {Element : Type}
    (qsort : Qsort Element)
    (cmp : Element → Element → Int)
    (count : Nat)
    (array : List Element) :
    (sortFirst qsort cmp count array).take count =
      qsort.sort cmp (array.take count) := by
  have sortedLength :
      (qsort.sort cmp (array.take count)).length = min count array.length := by
    rw [qsort.length, List.length_take]
  rcases Nat.le_total count array.length with fits | beyond
  · rw [Nat.min_eq_left fits] at sortedLength
    exact List.take_left' sortedLength
  · rw [Nat.min_eq_right beyond] at sortedLength
    rw [sortFirst, List.drop_eq_nil_of_le beyond, List.append_nil]
    exact List.take_of_length_le (sortedLength ▸ beyond)

theorem waiting_jitSortQueue
    (qsort : Qsort (JitNode Content Note))
    (queue : JitQueue Content Note) :
    (jitSortQueue qsort queue).waiting =
      qsort.sort compare queue.waiting := by
  unfold jitSortQueue
  split
  next isEmpty =>
    have noNode : queue.waiting = [] := by
      rw [JitQueue.waiting, isEmpty, List.take_zero]
    have noneSorted : (qsort.sort compare queue.waiting).length = 0 := by
      rw [qsort.length, noNode, List.length_nil]
    rw [List.eq_nil_of_length_eq_zero noneSorted, noNode]
  next =>
    exact take_sortFirst qsort compare queue.numPkt queue.nodes

/--
Within an arc of fewer than half of the ring, wherever it begins, both
comparators order the packets as they follow one another on the ring; the queue
and the received packets end up in this order, the earliest packet first.
-/
theorem packets_in_ring_order
    (nodeQsort : Qsort (JitNode Content Note))
    (packetQsort : Qsort (Packet Content))
    {queueBase receivedBase : BitVec 32}
    {queue : JitQueue Content Note}
    {p : List (Packet Content)}
    {cpt : Nat}
    (queueArc :
      Arc queueBase (queue.waiting.map fun node => node.pkt.countUs))
    (receivedArc : Arc receivedBase ((p.take cpt).map Packet.countUs)) :
    SortsByRing queueBase (fun node => node.pkt.countUs) compare
        queue.waiting (jitSortQueue nodeQsort queue).waiting ∧
      SortsByRing receivedBase Packet.countUs comparePktTmst
        (p.take cpt) ((mergePacketsSort packetQsort cpt p).take cpt) := by
  constructor
  · rw [waiting_jitSortQueue]
    exact sortsByRing_of_arc nodeQsort queueArc fun _ _ => rfl
  · rw [mergePacketsSort, take_sortFirst]
    exact sortsByRing_of_arc packetQsort receivedArc fun _ _ => rfl

/-- A packet in the queue before the counter wraps, and one behind it. -/
def wrappingQueue : JitQueue Unit Unit where
  numPkt := 2
  nodes :=
    [{ pkt := { countUs := 0x00000005, content := () }, note := () },
      { pkt := { countUs := 0xFFFFFFF0, content := () }, note := () }]
  fits := Nat.le_refl 2

/-- Received packets on both sides of the change of sign. -/
def receivedAcrossSign : List (Packet Unit) :=
  [{ countUs := 0x80000001, content := () },
    { countUs := 0x7FFFFFFF, content := () }]

theorem packets_in_ring_order_across_wrap :
    SortsByRing 0xFFFFFFF0 (fun node => node.pkt.countUs) compare
        wrappingQueue.waiting
        (jitSortQueue (ComparatorSort.mergeSort _) wrappingQueue).waiting ∧
      SortsByRing 0x7FFFFFFF Packet.countUs comparePktTmst
        (receivedAcrossSign.take 2)
        ((mergePacketsSort (ComparatorSort.mergeSort _) 2
          receivedAcrossSign).take 2) :=
  packets_in_ring_order (ComparatorSort.mergeSort _)
    (ComparatorSort.mergeSort _)
    (by simp [Arc, JitQueue.waiting, wrappingQueue])
    (by simp [Arc, receivedAcrossSign])

/-- Three counts that are spread over the whole ring have no order. -/
example :
    difference (0 : BitVec 32) 0x60000000 ≤ 0 ∧
      difference (0x60000000 : BitVec 32) 0xC0000000 ≤ 0 ∧
        ¬ difference (0 : BitVec 32) 0xC0000000 ≤ 0 := by
  decide

end RecomputerGateway.ForwarderOrder
