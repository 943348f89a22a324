import Mathlib.Data.List.Nodup
import Mathlib.Logic.Function.Basic

namespace RecomputerGateway

/-!
# Circular doubly linked lists

Nodes that their link fields arrange in circles, each circle entered through a
node of its own, its head.  A heap is the two link fields of every node.  The
layout of a heap says which nodes are heads and which items, in which order,
each of their circles holds; the operations on the fields are judged by what
they do to the layout.
-/

/-- The two link fields of every node. -/
structure LinkHeap (Node : Type) where
  next : Node → Node
  prev : Node → Node

namespace LinkHeap

variable {Node : Type}

/-- Two nodes that point at each other. -/
def Joined
    (heap : LinkHeap Node)
    (first second : Node) : Prop :=
  heap.next first = second ∧ heap.prev second = first

/-- The nodes `between` lead from `first` to `last`, and back. -/
def Chain (heap : LinkHeap Node) : Node → List Node → Node → Prop
  | first, [], last => heap.Joined first last
  | first, node :: rest, last =>
      heap.Joined first node ∧ heap.Chain node rest last

/-- A circle through `head` that holds `items`. -/
structure Ring
    (heap : LinkHeap Node)
    (head : Node)
    (items : List Node) : Prop where
  chain : heap.Chain head items head
  nodup : (head :: items).Nodup

/-- Two chains that meet make one. -/
theorem chain_append
    {heap : LinkHeap Node}
    {first middle last : Node}
    {before after : List Node} :
    heap.Chain first (before ++ middle :: after) last ↔
      heap.Chain first before middle ∧ heap.Chain middle after last := by
  induction before generalizing first with
  | nil =>
      exact Iff.rfl
  | cons node rest inductionHypothesis =>
      simp only [List.cons_append, Chain, inductionHypothesis, and_assoc]

namespace Chain

variable {heap : LinkHeap Node}
variable {first last : Node}
variable {between : List Node}

/-- A chain only depends on the fields that lead along it. -/
theorem frame
    {other : LinkHeap Node}
    (chain : heap.Chain first between last)
    (sameNext :
      ∀ node ∈ first :: between, other.next node = heap.next node)
    (samePrev :
      ∀ node ∈ between ++ [last], other.prev node = heap.prev node) :
    other.Chain first between last := by
  induction between generalizing first with
  | nil =>
      obtain ⟨forward, backward⟩ := chain
      exact ⟨(sameNext first (.head _)).trans forward,
        (samePrev last (.head _)).trans backward⟩
  | cons node rest inductionHypothesis =>
      obtain ⟨⟨forward, backward⟩, remainder⟩ := chain
      refine ⟨⟨(sameNext first (.head _)).trans forward,
        (samePrev node (.head _)).trans backward⟩, ?_⟩
      exact inductionHypothesis remainder
        (fun other member => sameNext other (.tail first member))
        (fun other member => samePrev other (.tail node member))

/-- The node before the end of a chain is on the chain. -/
theorem prev_mem
    (chain : heap.Chain first between last) :
    heap.prev last ∈ first :: between := by
  induction between generalizing first with
  | nil =>
      rw [chain.2]
      exact .head _
  | cons node rest inductionHypothesis =>
      exact .tail first (inductionHypothesis chain.2)

/-- The last node of a chain is what the `prev` field of its end names. -/
theorem prev_eq
    (chain : heap.Chain first between last) :
    heap.prev last = between.getLastD first := by
  induction between generalizing first with
  | nil =>
      exact chain.2
  | cons node rest inductionHypothesis =>
      rw [inductionHypothesis chain.2, List.getLastD_cons]

/-- The node after the start of a chain is on the chain. -/
theorem next_mem
    (chain : heap.Chain first between last) :
    heap.next first ∈ between ++ [last] := by
  cases between with
  | nil =>
      rw [chain.1]
      exact .head _
  | cons node rest =>
      rw [chain.1.1]
      exact .head _

end Chain

/-- Follow the `next` fields from `node` until `head` is met. -/
def walk [DecidableEq Node]
    (heap : LinkHeap Node)
    (head : Node) : Nat → Node → List Node
  | 0, _ => []
  | fuel + 1, node =>
      if node = head then []
      else node :: heap.walk head fuel (heap.next node)

/-- Walking along a chain towards the head meets its nodes in order. -/
theorem Chain.walk_eq [DecidableEq Node]
    {heap : LinkHeap Node}
    {first head : Node}
    {between : List Node}
    (chain : heap.Chain first between head)
    (outside : head ∉ between)
    {fuel : Nat}
    (enough : between.length < fuel) :
    heap.walk head fuel (heap.next first) = between := by
  induction between generalizing first fuel with
  | nil =>
      cases fuel with
      | zero =>
          exact absurd enough (Nat.not_lt_zero _)
      | succ fuel =>
          rw [chain.1, walk, if_pos rfl]
  | cons node rest inductionHypothesis =>
      cases fuel with
      | zero =>
          exact absurd enough (Nat.not_lt_zero _)
      | succ fuel =>
          have distinct : node ≠ head :=
            fun same => outside (same ▸ .head _)
          rw [chain.1.1, walk, if_neg distinct,
            inductionHypothesis chain.2
              (fun member => outside (.tail node member))
              (Nat.lt_of_succ_lt_succ enough)]

/-- A walk from the head of a ring meets its items in order. -/
theorem Ring.walk_eq [DecidableEq Node]
    {heap : LinkHeap Node}
    {head : Node}
    {items : List Node}
    (ring : heap.Ring head items)
    {fuel : Nat}
    (enough : items.length < fuel) :
    heap.walk head fuel (heap.next head) = items :=
  ring.chain.walk_eq (List.nodup_cons.mp ring.nodup).1 enough

/-- A ring only depends on the fields of its own nodes. -/
theorem Ring.frame
    {heap other : LinkHeap Node}
    {head : Node}
    {items : List Node}
    (ring : heap.Ring head items)
    (sameNext :
      ∀ node ∈ head :: items, other.next node = heap.next node)
    (samePrev :
      ∀ node ∈ head :: items, other.prev node = heap.prev node) :
    other.Ring head items where
  chain := ring.chain.frame sameNext fun node member => by
    rcases List.mem_append.mp member with isItem | isHead
    · exact samePrev node (.tail head isItem)
    · rw [List.mem_singleton.mp isHead]
      exact samePrev head (.head _)
  nodup := ring.nodup

section Writing

variable [DecidableEq Node]

/-- Write the `next` field of a node. -/
def setNext
    (heap : LinkHeap Node)
    (node target : Node) : LinkHeap Node :=
  { heap with next := Function.update heap.next node target }

/-- Write the `prev` field of a node. -/
def setPrev
    (heap : LinkHeap Node)
    (node target : Node) : LinkHeap Node :=
  { heap with prev := Function.update heap.prev node target }

@[simp] theorem setNext_prev
    (heap : LinkHeap Node)
    (node target : Node) :
    (heap.setNext node target).prev = heap.prev :=
  rfl

@[simp] theorem setPrev_next
    (heap : LinkHeap Node)
    (node target : Node) :
    (heap.setPrev node target).next = heap.next :=
  rfl

@[simp] theorem setNext_next
    (heap : LinkHeap Node)
    (node target other : Node) :
    (heap.setNext node target).next other =
      if other = node then target else heap.next other :=
  Function.update_apply ..

@[simp] theorem setPrev_prev
    (heap : LinkHeap Node)
    (node target other : Node) :
    (heap.setPrev node target).prev other =
      if other = node then target else heap.prev other :=
  Function.update_apply ..

/-- Make two nodes point at each other. -/
def join
    (heap : LinkHeap Node)
    (first second : Node) : LinkHeap Node :=
  (heap.setNext first second).setPrev second first

theorem joined_join
    (heap : LinkHeap Node)
    (first second : Node) :
    (heap.join first second).Joined first second := by
  constructor <;> simp [join]

/-- Joining two nodes keeps a chain that uses neither of the fields written. -/
theorem Chain.join
    {heap : LinkHeap Node}
    {first last : Node}
    {between : List Node}
    (chain : heap.Chain first between last)
    {source target : Node}
    (sourceOutside : source ∉ first :: between)
    (targetOutside : target ∉ between ++ [last]) :
    (heap.join source target).Chain first between last := by
  refine chain.frame (fun node member => ?_) (fun node member => ?_)
  · have distinct : node ≠ source :=
      fun same => sourceOutside (same ▸ member)
    simp [LinkHeap.join, distinct]
  · have distinct : node ≠ target :=
      fun same => targetOutside (same ▸ member)
    simp [LinkHeap.join, distinct]

/-- The last node of a chain is made to lead to another end. -/
theorem Chain.redirect
    {heap : LinkHeap Node}
    {first last target : Node}
    {between : List Node}
    (chain : heap.Chain first between last)
    (nodup : (first :: between).Nodup)
    (targetOutside : target ∉ between) :
    (heap.join (heap.prev last) target).Chain first between target := by
  induction between generalizing first with
  | nil =>
      have back : heap.prev last = first := chain.2
      rw [back]
      exact heap.joined_join first target
  | cons node rest inductionHypothesis =>
      obtain ⟨joined, remainder⟩ := chain
      obtain ⟨firstOutside, restNodup⟩ := List.nodup_cons.mp nodup
      refine ⟨?_, inductionHypothesis remainder restNodup
        (fun member => targetOutside (.tail node member))⟩
      have beforeLast := remainder.prev_mem
      have firstDistinct : first ≠ heap.prev last :=
        fun same => firstOutside (same ▸ beforeLast)
      have nodeDistinct : node ≠ target :=
        fun same => targetOutside (same ▸ .head _)
      constructor
      · simp [LinkHeap.join, firstDistinct, joined.1]
      · simp [LinkHeap.join, nodeDistinct, joined.2]

/-- An item that leads from the end of a ring back to its head is added. -/
theorem Ring.extend
    {heap : LinkHeap Node}
    {head item : Node}
    {items : List Node}
    (ring : heap.Ring head items)
    (outside : item ∉ head :: items) :
    ((heap.join (heap.prev head) item).join item head).Ring head
      (items ++ [item]) := by
  obtain ⟨headOutside, itemsNodup⟩ := List.nodup_cons.mp ring.nodup
  have itemOutside : item ∉ items :=
    fun member => outside (.tail head member)
  have distinct : head ≠ item :=
    fun same => outside (same ▸ .head _)
  have redirected := ring.chain.redirect ring.nodup itemOutside
  have headLast : head ∉ items ++ [item] := by
    simp [headOutside, distinct]
  refine ⟨chain_append.mpr ⟨redirected.join outside headLast,
    joined_join _ item head⟩, ?_⟩
  refine List.nodup_cons.mpr ⟨headLast, ?_⟩
  exact itemsNodup.append (List.nodup_singleton item)
    (List.disjoint_singleton.mpr itemOutside)

/-- An item is left out of a ring by joining its two neighbours. -/
theorem Ring.bypass
    {heap : LinkHeap Node}
    {head item : Node}
    {before after : List Node}
    (ring : heap.Ring head (before ++ item :: after)) :
    (heap.join (heap.prev item) (heap.next item)).Ring head
      (before ++ after) := by
  obtain ⟨toItem, fromItem⟩ := chain_append.mp ring.chain
  have shorter :
      List.Sublist (head :: (before ++ after))
        (head :: (before ++ item :: after)) :=
    ((List.sublist_cons_self item after).append_left before).cons_cons head
  have nodup := ring.nodup.sublist shorter
  refine ⟨?_, nodup⟩
  obtain ⟨headOutside, restNodup⟩ := List.nodup_cons.mp nodup
  have beforeNodup : (head :: before).Nodup :=
    nodup.sublist ((List.sublist_append_left before after).cons_cons head)
  cases after with
  | nil =>
      have successor : heap.next item = head := fromItem.1
      rw [successor, List.append_nil]
      rw [List.append_nil] at headOutside
      exact toItem.redirect beforeNodup headOutside
  | cons following rest =>
      obtain ⟨⟨successor, _⟩, remainder⟩ := fromItem
      have separate := List.disjoint_of_nodup_append restNodup
      have followingOutside : following ∉ before :=
        fun member => separate member (.head _)
      rw [successor]
      refine chain_append.mpr
        ⟨toItem.redirect beforeNodup followingOutside, ?_⟩
      refine remainder.join (fun member => ?_) ?_
      · -- The node before the item is on the first part of the ring.
        rcases List.mem_cons.mp toItem.prev_mem with isHead | isBefore
        · exact headOutside
            (List.mem_append.mpr (.inr (isHead ▸ member)))
        · exact separate isBefore member
      · have followingFirst :=
          (List.nodup_cons.mp
            (List.nodup_append.mp restNodup).2.1).1
        have followingNotHead : following ≠ head := by
          rintro rfl
          exact headOutside (List.mem_append.mpr (.inr (.head _)))
        simp [followingFirst, followingNotHead]

/-- Joining two nodes keeps every ring that neither of them is on. -/
theorem Ring.join_outside
    {heap : LinkHeap Node}
    {head source target : Node}
    {items : List Node}
    (ring : heap.Ring head items)
    (sourceOutside : source ∉ head :: items)
    (targetOutside : target ∉ head :: items) :
    (heap.join source target).Ring head items := by
  refine ring.frame (fun node member => ?_) (fun node member => ?_)
  · have distinct : node ≠ source :=
      fun same => sourceOutside (same ▸ member)
    simp [join, distinct]
  · have distinct : node ≠ target :=
      fun same => targetOutside (same ▸ member)
    simp [join, distinct]

end Writing

end LinkHeap

/-- The items of every head; `none` for a node that is not a head. -/
abbrev Layout (Node : Type) := Node → Option (List Node)

namespace Layout

variable {Node : Type}

/-- A node that is on no list and whose own list, if it has one, is empty. -/
structure Unlisted (layout : Layout Node) (node : Node) : Prop where
  notItem : ∀ head, ∀ items ∈ layout head, node ∉ items
  ownEmpty : ∀ items ∈ layout node, items = []

variable [DecidableEq Node]

/-- A node becomes the head of an empty list. -/
def create (layout : Layout Node) (node : Node) : Layout Node :=
  Function.update layout node (some [])

/-- A node becomes the last item of a list, and is no head any more. -/
def append (layout : Layout Node) (head item : Node) : Layout Node :=
  fun node =>
    if node = item then none
    else if node = head then (layout head).map (· ++ [item])
    else layout node

/-- An item is taken out of its list. -/
def delete (layout : Layout Node) (item : Node) : Layout Node :=
  fun head => (layout head).map (·.erase item)

end Layout

namespace LinkHeap

variable {Node : Type}

/-- The circles of a heap are those of a layout, and no two of them meet. -/
structure Represents
    (heap : LinkHeap Node)
    (layout : Layout Node) : Prop where
  ring :
    ∀ head items, layout head = some items → heap.Ring head items
  separate :
    ∀ head items other otherItems,
      layout head = some items →
      layout other = some otherItems →
      head ≠ other →
      List.Disjoint (head :: items) (other :: otherItems)

namespace Represents

variable {heap : LinkHeap Node}
variable {layout : Layout Node}

/-- An unlisted node is on no ring but its own. -/
theorem outside
    {node head : Node}
    {items : List Node}
    (unlisted : layout.Unlisted node)
    (listed : layout head = some items)
    (distinct : head ≠ node) :
    node ∉ head :: items :=
  List.not_mem_cons_of_ne_of_not_mem distinct.symm
    (unlisted.notItem head items listed)

variable [DecidableEq Node]

/-- A node that is made to point at itself gets an empty list. -/
theorem create
    {other : LinkHeap Node}
    {node : Node}
    (represents : heap.Represents layout)
    (unlisted : layout.Unlisted node)
    (selfJoined : other.Joined node node)
    (sameNext : ∀ third, third ≠ node → other.next third = heap.next third)
    (samePrev :
      ∀ third, third ≠ node → other.prev third = heap.prev third) :
    other.Represents (layout.create node) := by
  have elsewhere
      {head : Node}
      {items : List Node}
      (distinct : head ≠ node)
      (listed : layout.create node head = some items) :
      layout head = some items := by
    rwa [Layout.create, Function.update_of_ne distinct] at listed
  have own
      {items : List Node}
      (listed : layout.create node node = some items) :
      items = [] := by
    rw [Layout.create, Function.update_self] at listed
    exact (Option.some.inj listed).symm
  constructor
  · intro head items listed
    by_cases isNode : head = node
    · subst isNode
      rw [own listed]
      exact ⟨selfJoined, List.nodup_singleton head⟩
    · have before := elsewhere isNode listed
      have nodeOutside := outside unlisted before isNode
      have distinct :
          ∀ third ∈ head :: items, third ≠ node :=
        fun third member same => nodeOutside (same ▸ member)
      exact (represents.ring head items before).frame
        (fun third member => sameNext third (distinct third member))
        (fun third member => samePrev third (distinct third member))
  · intro first firstItems second secondItems firstListed secondListed
      different
    by_cases isFirst : first = node
    · subst isFirst
      rw [own firstListed, List.singleton_disjoint]
      exact outside unlisted (elsewhere different.symm secondListed)
        different.symm
    · by_cases isSecond : second = node
      · subst isSecond
        rw [own secondListed, List.disjoint_singleton]
        exact outside unlisted (elsewhere different firstListed) different
      · exact represents.separate first firstItems second secondItems
          (elsewhere isFirst firstListed) (elsewhere isSecond secondListed)
          different

/-- An unlisted node is linked in before the head of a list. -/
theorem append
    {head item : Node}
    {items : List Node}
    (represents : heap.Represents layout)
    (listed : layout head = some items)
    (unlisted : layout.Unlisted item)
    (distinct : head ≠ item) :
    ((heap.join (heap.prev head) item).join item head).Represents
      (layout.append head item) := by
  have ring := represents.ring head items listed
  have itemOutside := outside unlisted listed distinct
  have inspect
      {node : Node}
      {nodeItems : List Node}
      (nodeListed : layout.append head item node = some nodeItems) :
      node ≠ item ∧
        (node = head ∧ nodeItems = items ++ [item] ∨
          node ≠ head ∧ layout node = some nodeItems) := by
    unfold Layout.append at nodeListed
    by_cases isItem : node = item
    · simp [isItem] at nodeListed
    · by_cases isHead : node = head
      · subst isHead
        simp only [isItem, if_false, if_true, listed, Option.map_some,
          Option.some.injEq] at nodeListed
        exact ⟨isItem, .inl ⟨rfl, nodeListed.symm⟩⟩
      · simp only [isItem, isHead, if_false] at nodeListed
        exact ⟨isItem, .inr ⟨isHead, nodeListed⟩⟩
  constructor
  · intro node nodeItems nodeListed
    obtain ⟨notItem, ⟨rfl, rfl⟩ | ⟨notHead, before⟩⟩ := inspect nodeListed
    · exact ring.extend itemOutside
    · have apart := represents.separate head items node nodeItems
        listed before (Ne.symm notHead)
      have itemElsewhere := outside unlisted before notItem
      have headElsewhere : head ∉ node :: nodeItems :=
        fun member => apart (.head _) member
      have lastElsewhere : heap.prev head ∉ node :: nodeItems :=
        fun member => apart ring.chain.prev_mem member
      exact ((represents.ring node nodeItems before).join_outside
        lastElsewhere itemElsewhere).join_outside itemElsewhere headElsewhere
  · -- The extended list keeps apart from each other list.
    have extended
        {node : Node}
        {nodeItems : List Node}
        (notItem : node ≠ item)
        (notHead : node ≠ head)
        (before : layout node = some nodeItems) :
        List.Disjoint (head :: (items ++ [item])) (node :: nodeItems) := by
      have apart := represents.separate head items node nodeItems
        listed before (Ne.symm notHead)
      rw [← List.cons_append, List.disjoint_append_left]
      exact ⟨apart,
        List.singleton_disjoint.mpr (outside unlisted before notItem)⟩
    intro first firstItems second secondItems firstListed secondListed
      different
    obtain ⟨firstNotItem, ⟨rfl, rfl⟩ | ⟨firstNotHead, firstBefore⟩⟩ :=
      inspect firstListed
    · obtain ⟨secondNotItem, ⟨rfl, rfl⟩ | ⟨secondNotHead, secondBefore⟩⟩ :=
        inspect secondListed
      · exact absurd rfl different
      · exact extended secondNotItem secondNotHead secondBefore
    · obtain ⟨secondNotItem, ⟨rfl, rfl⟩ | ⟨secondNotHead, secondBefore⟩⟩ :=
        inspect secondListed
      · exact List.disjoint_symm
          (extended firstNotItem firstNotHead firstBefore)
      · exact represents.separate first firstItems second secondItems
          firstBefore secondBefore different

/-- An item of some list is linked out of it. -/
theorem delete
    {head item : Node}
    {items : List Node}
    (represents : heap.Represents layout)
    (listed : layout head = some items)
    (member : item ∈ items) :
    (heap.join (heap.prev item) (heap.next item)).Represents
      (layout.delete item) := by
  have ring := represents.ring head items listed
  have itemsNodup := (List.nodup_cons.mp ring.nodup).2
  obtain ⟨before, after, rfl⟩ := List.append_of_mem member
  obtain ⟨toItem, fromItem⟩ := chain_append.mp ring.chain
  constructor
  · intro node nodeItems nodeListed
    simp only [Layout.delete, Option.map_eq_some_iff] at nodeListed
    obtain ⟨oldItems, oldListed, rfl⟩ := nodeListed
    by_cases isHead : node = head
    · subst isHead
      obtain rfl : oldItems = before ++ item :: after :=
        Option.some.inj (oldListed.symm.trans listed)
      have notBefore : item ∉ before := by
        intro isBefore
        exact List.disjoint_of_nodup_append itemsNodup isBefore (.head _)
      rw [List.erase_append_right _ notBefore, List.erase_cons_head]
      exact ring.bypass
    · have apart := represents.separate head _ node oldItems
        listed oldListed (Ne.symm isHead)
      have itemElsewhere : item ∉ oldItems :=
        fun isOld => apart (.tail head member) (.tail node isOld)
      rw [List.erase_of_not_mem itemElsewhere]
      have prevOn : heap.prev item ∈ head :: (before ++ item :: after) := by
        rcases List.mem_cons.mp toItem.prev_mem with isHead | isBefore
        · exact isHead ▸ .head _
        · exact .tail head (List.mem_append_left _ isBefore)
      have nextOn : heap.next item ∈ head :: (before ++ item :: after) := by
        rcases List.mem_append.mp fromItem.next_mem with isAfter | isEnd
        · exact .tail head
            (List.mem_append_right before (.tail item isAfter))
        · exact List.mem_singleton.mp isEnd ▸ .head _
      exact (represents.ring node oldItems oldListed).join_outside
        (fun isOn => apart prevOn isOn) (fun isOn => apart nextOn isOn)
  · intro first firstItems second secondItems firstListed secondListed
      different
    simp only [Layout.delete, Option.map_eq_some_iff] at firstListed
    simp only [Layout.delete, Option.map_eq_some_iff] at secondListed
    obtain ⟨firstOld, firstBefore, rfl⟩ := firstListed
    obtain ⟨secondOld, secondBefore, rfl⟩ := secondListed
    have apart := represents.separate first firstOld second secondOld
      firstBefore secondBefore different
    exact List.disjoint_of_subset_left
      (List.cons_subset_cons first List.erase_subset)
      (List.disjoint_of_subset_right
        (List.cons_subset_cons second List.erase_subset) apart)

end Represents

end LinkHeap

end RecomputerGateway
