import RecomputerGateway.LinkedRing
import RecomputerGateway.Transition

namespace RecomputerGateway.QuectelList

open LinkHeap

/-!
# The intrusive lists of the modem tools

`qlist.h` keeps connections, clients and queued messages on circular lists
whose links are fields of the items themselves.  One heap holds many lists at
once, and nothing but the discipline of the callers keeps them apart: a node is
added while it is on no list, and removed while it is on one.  Under that
discipline every list is the queue that the calls describe.
-/

variable {Node : Type} [DecidableEq Node]

/-- `qlist_init`. -/
def qlistInit (heap : LinkHeap Node) (node : Node) : LinkHeap Node :=
  (heap.setNext node node).setPrev node node

/-- `qlist_add_tail`: four writes, each reading what the last one left. -/
def qlistAddTail
    (heap : LinkHeap Node)
    (head item : Node) : LinkHeap Node :=
  let heap := heap.setNext item head
  let heap := heap.setPrev item (heap.prev head)
  let heap := heap.setNext (heap.prev head) item
  heap.setPrev head item

/-- `qlist_remove`: the links of the item itself stay as they are. -/
def qlistRemove (heap : LinkHeap Node) (item : Node) : LinkHeap Node :=
  let heap := heap.setPrev (heap.next item) (heap.prev item)
  heap.setNext (heap.prev item) (heap.next item)

/-- `qlist_empty`. -/
def qlistEmpty (heap : LinkHeap Node) (list : Node) : Bool :=
  list = heap.next list

/-- `qlist_head`. -/
def qlistHead (heap : LinkHeap Node) (list : Node) : Node :=
  heap.next list

/-- `qlist_tail`. -/
def qlistTail (heap : LinkHeap Node) (list : Node) : Node :=
  heap.prev list

/-- The nodes that `qlist_for_each` visits, for at most `fuel` turns. -/
def qlistForEach
    (heap : LinkHeap Node)
    (list : Node)
    (fuel : Nat) : List Node :=
  heap.walk list fuel (heap.next list)

/-- On a ring, adding at the tail joins the item to both ends. -/
theorem qlistAddTail_eq
    {heap : LinkHeap Node}
    {head item : Node}
    (distinct : head ≠ item)
    (lastDistinct : heap.prev head ≠ item) :
    qlistAddTail heap head item =
      (heap.join (heap.prev head) item).join item head := by
  have nextEq :
      (qlistAddTail heap head item).next =
        ((heap.join (heap.prev head) item).join item head).next := by
    funext node
    by_cases isItem : node = item
    · subst isItem
      simp [qlistAddTail, join, distinct, lastDistinct.symm]
    · simp [qlistAddTail, join, distinct, isItem]
  have prevEq :
      (qlistAddTail heap head item).prev =
        ((heap.join (heap.prev head) item).join item head).prev := by
    funext node
    simp [qlistAddTail, join]
  exact congrArg₂ LinkHeap.mk nextEq prevEq

/-- Removing an item whose successor is another node joins its neighbours. -/
theorem qlistRemove_eq
    {heap : LinkHeap Node}
    {item : Node}
    (distinct : heap.next item ≠ item) :
    qlistRemove heap item =
      heap.join (heap.prev item) (heap.next item) := by
  simp [qlistRemove, join, LinkHeap.setNext, LinkHeap.setPrev,
    Function.update_of_ne distinct.symm]

/-- The calls that change lists. -/
inductive ListCall (Node : Type) where
  | qlistInit (node : Node)
  | qlistAddTail (head item : Node)
  | qlistRemove (item : Node)
  deriving Repr, DecidableEq

/-- A heap, and the lists that its calls have described. -/
structure ListState (Node : Type) where
  heap : LinkHeap Node
  layout : Layout Node

/-- What a call writes, and which lists it describes. -/
def call (state : ListState Node) : ListCall Node → ListState Node
  | .qlistInit node =>
      { heap := qlistInit state.heap node
        layout := state.layout.create node }
  | .qlistAddTail head item =>
      { heap := qlistAddTail state.heap head item
        layout := state.layout.append head item }
  | .qlistRemove item =>
      { heap := qlistRemove state.heap item
        layout := state.layout.delete item }

/-- The discipline of the callers. -/
def Permitted (state : ListState Node) : ListCall Node → Prop
  | .qlistInit node => state.layout.Unlisted node
  | .qlistAddTail head item =>
      (∃ items, state.layout head = some items) ∧
        state.layout.Unlisted item ∧ head ≠ item
  | .qlistRemove item =>
      ∃ head items, state.layout head = some items ∧ item ∈ items

/-- Heaps with any links before the first `qlist_init`. -/
def lists : System (ListState Node) (ListCall Node) where
  Initial state := ∀ node, state.layout node = none
  step? state event := some (call state event)

/-- The links of a node that was just initialised lead to itself. -/
theorem represents_qlistInit
    {heap : LinkHeap Node}
    {layout : Layout Node}
    {node : Node}
    (represents : heap.Represents layout)
    (unlisted : layout.Unlisted node) :
    (qlistInit heap node).Represents (layout.create node) := by
  apply represents.create unlisted
  · exact heap.joined_join node node
  · intro third distinct
    simp [qlistInit, distinct]
  · intro third distinct
    simp [qlistInit, distinct]

/-- Adding at the tail appends to one list and keeps the others. -/
theorem represents_qlistAddTail
    {heap : LinkHeap Node}
    {layout : Layout Node}
    {head item : Node}
    {items : List Node}
    (represents : heap.Represents layout)
    (listed : layout head = some items)
    (unlisted : layout.Unlisted item)
    (distinct : head ≠ item) :
    (qlistAddTail heap head item).Represents
      (layout.append head item) := by
  have lastDistinct : heap.prev head ≠ item := by
    intro same
    have onRing := (represents.ring head items listed).chain.prev_mem
    exact Represents.outside unlisted listed distinct (same ▸ onRing)
  rw [qlistAddTail_eq distinct lastDistinct]
  exact represents.append listed unlisted distinct

/-- Removing an item takes it out of its list and keeps the others. -/
theorem represents_qlistRemove
    {heap : LinkHeap Node}
    {layout : Layout Node}
    {head item : Node}
    {items : List Node}
    (represents : heap.Represents layout)
    (listed : layout head = some items)
    (member : item ∈ items) :
    (qlistRemove heap item).Represents (layout.delete item) := by
  have ring := represents.ring head items listed
  have nextDistinct : heap.next item ≠ item := by
    intro same
    obtain ⟨before, after, rfl⟩ := List.append_of_mem member
    obtain ⟨_, fromItem⟩ := chain_append.mp ring.chain
    obtain ⟨headOutside, itemsNodup⟩ := List.nodup_cons.mp ring.nodup
    rcases List.mem_append.mp fromItem.next_mem with isAfter | isHead
    · have itemFirst := (List.nodup_append.mp itemsNodup).2.1
      exact (List.nodup_cons.mp itemFirst).1 (same ▸ isAfter)
    · have headIsItem := List.mem_singleton.mp isHead
      rw [same] at headIsItem
      exact headOutside (headIsItem ▸ member)
  rw [qlistRemove_eq nextDistinct]
  exact represents.delete listed member

/-- One permitted call keeps the heap and the described lists together. -/
theorem represents_call
    {state : ListState Node}
    {event : ListCall Node}
    (represents : state.heap.Represents state.layout)
    (permitted : Permitted state event) :
    (call state event).heap.Represents (call state event).layout := by
  cases event with
  | qlistInit node =>
      exact represents_qlistInit represents permitted
  | qlistAddTail head item =>
      obtain ⟨⟨items, listed⟩, unlisted, distinct⟩ := permitted
      exact represents_qlistAddTail represents listed unlisted distinct
  | qlistRemove item =>
      obtain ⟨head, items, listed, member⟩ := permitted
      exact represents_qlistRemove represents listed member

/-- A heap whose lists were never described represents no list. -/
theorem represents_initial
    {state : ListState Node}
    (isInitial : lists.Initial state) :
    state.heap.Represents state.layout where
  ring := fun head items listed => by
    rw [isInitial head] at listed
    cases listed
  separate := fun head items other otherItems listed _ _ => by
    rw [isInitial head] at listed
    cases listed

/-- The lists described are those of the heap, however the calls interleave. -/
theorem represents_run
    {source target : ListState Node}
    {calls : List (ListCall Node)}
    (isInitial : lists.Initial source)
    (run : lists.GuardedRun Permitted source calls target) :
    target.heap.Represents target.layout := by
  refine run.invariant
    (fun state => state.heap.Represents state.layout)
    ?_ (represents_initial isInitial)
  intro state event next represents permitted stepped
  cases stepped
  exact represents_call represents permitted

/-- What `qlist_empty`, `qlist_head` and `qlist_tail` say about a ring. -/
structure Reads
    (heap : LinkHeap Node)
    (list : Node)
    (items : List Node) : Prop where
  forEach :
    ∀ fuel, items.length < fuel → qlistForEach heap list fuel = items
  empty : qlistEmpty heap list = items.isEmpty
  head : qlistHead heap list = items.headD list
  tail : qlistTail heap list = items.getLastD list

/-- The reading macros agree with the items of a ring. -/
theorem reads_of_ring
    {heap : LinkHeap Node}
    {list : Node}
    {items : List Node}
    (ring : heap.Ring list items) :
    Reads heap list items := by
  refine ⟨fun fuel enough => ring.walk_eq enough, ?_, ?_,
    ring.chain.prev_eq⟩
  · cases items with
    | nil =>
        have selfNext : heap.next list = list := ring.chain.1
        simp [qlistEmpty, selfNext]
    | cons item rest =>
        have nextItem : heap.next list = item := ring.chain.1.1
        have distinct : list ≠ item :=
          (List.ne_and_not_mem_of_not_mem_cons
            (List.nodup_cons.mp ring.nodup).1).1
        simp [qlistEmpty, nextItem, distinct]
  · cases items with
    | nil =>
        exact ring.chain.1
    | cons item rest =>
        exact ring.chain.1.1

/--
However the calls on the lists of one heap interleave, `qlist_for_each` visits
the items that were added to a list and not removed, in the order of adding,
and the other macros agree with it.
-/
theorem qlist_reads_queue
    {source target : ListState Node}
    {calls : List (ListCall Node)}
    (isInitial : lists.Initial source)
    (run : lists.GuardedRun Permitted source calls target)
    {list : Node}
    {items : List Node}
    (listed : target.layout list = some items) :
    Reads target.heap list items :=
  reads_of_ring ((represents_run isInitial run).ring list items listed)

/-- A removed item may be added again, to another list. -/
def exampleCalls : List (ListCall (Fin 5)) :=
  [.qlistInit 0, .qlistInit 1, .qlistAddTail 0 2, .qlistAddTail 0 3,
    .qlistAddTail 1 4, .qlistRemove 2, .qlistAddTail 1 2]

def exampleStart : ListState (Fin 5) where
  heap := { next := fun node => node + 1, prev := fun _ => 3 }
  layout := fun _ => none

theorem qlist_reads_queue_moved :
    ∃ target,
      lists.GuardedRun Permitted exampleStart exampleCalls target ∧
        Reads target.heap 0 [3] ∧ Reads target.heap 1 [4, 2] := by
  have run :
      lists.GuardedRun Permitted exampleStart exampleCalls
        (exampleCalls.foldl call exampleStart) := by
    refine .step _ _ ⟨by decide, by decide⟩ rfl ?_
    refine .step _ _ ⟨by decide, by decide⟩ rfl ?_
    refine .step _ _ ⟨⟨_, rfl⟩, ⟨by decide, by decide⟩, by decide⟩ rfl ?_
    refine .step _ _ ⟨⟨_, rfl⟩, ⟨by decide, by decide⟩, by decide⟩ rfl ?_
    refine .step _ _ ⟨⟨_, rfl⟩, ⟨by decide, by decide⟩, by decide⟩ rfl ?_
    refine .step _ _ ⟨0, _, rfl, by decide⟩ rfl ?_
    refine .step _ _ ⟨⟨_, rfl⟩, ⟨by decide, by decide⟩, by decide⟩ rfl ?_
    exact .done _
  exact ⟨_, run,
    qlist_reads_queue (fun _ => rfl) run rfl,
    qlist_reads_queue (fun _ => rfl) run rfl⟩

end RecomputerGateway.QuectelList
