import Mathlib.Logic.Function.Basic

namespace RecomputerGateway

/-!
# Paths, inodes and open files

The fragment of a POSIX file system that matters when several processes
create, remove and rename the same few paths: a path is a link to an inode, a
process that opened an inode keeps it after the path is removed or replaced,
and inode numbers are not reused.

Failing operations (renaming a path that does not exist, removing an absent
one) leave the store as it is; the scripts that use the store ignore the
corresponding exit codes.
-/

/-- A set of paths over a table of inodes with their contents. -/
structure InodeStore (Path α : Type) where
  link : Path → Option Nat
  data : Nat → List α
  next : Nat
  link_lt : ∀ {path inode}, link path = some inode → inode < next

namespace InodeStore

variable {Path α : Type}

/-- No path exists. -/
def empty : InodeStore Path α where
  link := fun _ => none
  data := fun _ => []
  next := 0
  link_lt := by simp

/-- The shell test `[ -f path ]`. -/
def isFile (store : InodeStore Path α) (path : Path) : Bool :=
  (store.link path).isSome

/-- The content reached through a path. -/
def read? (store : InodeStore Path α) (path : Path) : Option (List α) :=
  (store.link path).map store.data

/-- Add text at the end of an open inode. -/
def append
    (store : InodeStore Path α)
    (inode : Nat)
    (text : List α) :
    InodeStore Path α where
  link := store.link
  data := Function.update store.data inode (store.data inode ++ text)
  next := store.next
  link_lt := store.link_lt

/-- Truncate an open inode. -/
def truncate
    (store : InodeStore Path α)
    (inode : Nat) :
    InodeStore Path α where
  link := store.link
  data := Function.update store.data inode []
  next := store.next
  link_lt := store.link_lt

/--
Place `chunk` at `offset`, as a write through a descriptor does: what lies
before and after it stays, and a hole is filled with `default`.
-/
def splice
    [Inhabited α]
    (content : List α)
    (offset : Nat)
    (chunk : List α) :
    List α :=
  content.take offset ++
    List.replicate (offset - content.length) default ++
    chunk ++
    content.drop (offset + chunk.length)

/-- Write a chunk at an offset of an open inode. -/
def writeAt
    [Inhabited α]
    (store : InodeStore Path α)
    (inode offset : Nat)
    (chunk : List α) :
    InodeStore Path α where
  link := store.link
  data :=
    Function.update store.data inode
      (splice (store.data inode) offset chunk)
  next := store.next
  link_lt := store.link_lt

section Paths

variable [DecidableEq Path]

/-- Link a path to a fresh empty inode. -/
def create
    (store : InodeStore Path α)
    (path : Path) :
    InodeStore Path α where
  link := Function.update store.link path (some store.next)
  data := Function.update store.data store.next []
  next := store.next + 1
  link_lt := by
    intro other inode linked
    by_cases same : other = path
    · subst other
      simp only [Function.update_self, Option.some.injEq] at linked
      omega
    · rw [Function.update_of_ne same] at linked
      exact Nat.lt_succ_of_lt (store.link_lt linked)

/-- `touch path`, or opening with `O_CREAT` without using the descriptor. -/
def touch
    (store : InodeStore Path α)
    (path : Path) :
    InodeStore Path α :=
  match store.link path with
  | some _ => store
  | none => store.create path

/-- Open for appending: `O_CREAT | O_APPEND`. -/
def openAppend
    (store : InodeStore Path α)
    (path : Path) :
    InodeStore Path α × Nat :=
  match store.link path with
  | some inode => (store, inode)
  | none => (store.create path, store.next)

/-- Open for writing from the start: `O_CREAT | O_TRUNC`. -/
def openTruncate
    (store : InodeStore Path α)
    (path : Path) :
    InodeStore Path α × Nat :=
  match store.link path with
  | some inode => (store.truncate inode, inode)
  | none => (store.create path, store.next)

/-- `rm -f path`. -/
def unlink
    (store : InodeStore Path α)
    (path : Path) :
    InodeStore Path α where
  link := Function.update store.link path none
  data := store.data
  next := store.next
  link_lt := by
    intro other inode linked
    by_cases same : other = path
    · subst other
      simp at linked
    · rw [Function.update_of_ne same] at linked
      exact store.link_lt linked

/-- `mv source target` within one file system. -/
def rename
    (store : InodeStore Path α)
    (source target : Path) :
    InodeStore Path α :=
  match shape : store.link source with
  | none => store
  | some inode =>
      { link :=
          Function.update
            (Function.update store.link source none) target (some inode)
        data := store.data
        next := store.next
        link_lt := by
          intro other found linked
          by_cases atTarget : other = target
          · subst other
            simp only [Function.update_self, Option.some.injEq] at linked
            exact linked ▸ store.link_lt shape
          · rw [Function.update_of_ne atTarget] at linked
            by_cases atSource : other = source
            · subst other
              simp at linked
            · rw [Function.update_of_ne atSource] at linked
              exact store.link_lt linked }

/-- `echo text > path`. -/
def overwrite
    (store : InodeStore Path α)
    (path : Path)
    (text : List α) :
    InodeStore Path α :=
  let opened := store.openTruncate path
  opened.1.append opened.2 text

/-- `echo text >> path`. -/
def extend
    (store : InodeStore Path α)
    (path : Path)
    (text : List α) :
    InodeStore Path α :=
  let opened := store.openAppend path
  opened.1.append opened.2 text

end Paths

/-! ## Contents of inodes -/

@[simp] theorem link_append
    (store : InodeStore Path α)
    (inode : Nat)
    (text : List α) :
    (store.append inode text).link = store.link :=
  rfl

@[simp] theorem data_append_self
    (store : InodeStore Path α)
    (inode : Nat)
    (text : List α) :
    (store.append inode text).data inode = store.data inode ++ text := by
  simp [append]

theorem data_writeAt_other
    [Inhabited α]
    (store : InodeStore Path α)
    {inode other : Nat}
    (different : other ≠ inode)
    (offset : Nat)
    (chunk : List α) :
    (store.writeAt inode offset chunk).data other = store.data other := by
  simp [writeAt, different]

/-- A write at the end of a file extends it. -/
theorem splice_at_end
    [Inhabited α]
    {content chunk : List α}
    {offset : Nat}
    (atEnd : content.length = offset) :
    splice content offset chunk = content ++ chunk := by
  subst offset
  simp [splice]

/--
Writing the next part of `body` after its first `sent` elements leaves the
first `sent + count` elements.
-/
theorem data_writeAt_next
    [Inhabited α]
    (store : InodeStore Path α)
    {inode sent count : Nat}
    {body : List α}
    (written : store.data inode = body.take sent)
    (within : sent ≤ body.length) :
    (store.writeAt inode sent ((body.drop sent).take count)).data inode =
      body.take (sent + count) := by
  have atEnd : (body.take sent).length = sent :=
    List.length_take_of_le within
  simp [writeAt, written, splice_at_end atEnd, List.take_add]

/-! ## Links -/

section Paths

variable [DecidableEq Path]

@[simp] theorem link_unlink_self
    (store : InodeStore Path α)
    (path : Path) :
    (store.unlink path).link path = none := by
  simp [unlink]

theorem link_unlink_other
    (store : InodeStore Path α)
    {path other : Path}
    (different : other ≠ path) :
    (store.unlink path).link other = store.link other := by
  simp [unlink, different]

/-- Removing a path never makes a link. -/
theorem link_of_unlink
    (store : InodeStore Path α)
    {path other : Path}
    {inode : Nat}
    (linked : (store.unlink path).link other = some inode) :
    store.link other = some inode := by
  by_cases same : other = path
  · subst other
    simp at linked
  · rwa [link_unlink_other store same] at linked

@[simp] theorem data_rename
    (store : InodeStore Path α)
    (source target : Path) :
    (store.rename source target).data = store.data := by
  unfold rename
  split <;> rfl

@[simp] theorem next_rename
    (store : InodeStore Path α)
    (source target : Path) :
    (store.rename source target).next = store.next := by
  unfold rename
  split <;> rfl

theorem rename_of_none
    (store : InodeStore Path α)
    {source target : Path}
    (absent : store.link source = none) :
    store.rename source target = store := by
  unfold rename
  split
  · rfl
  · simp_all

theorem link_rename_target
    (store : InodeStore Path α)
    {source target : Path}
    {inode : Nat}
    (linked : store.link source = some inode) :
    (store.rename source target).link target = some inode := by
  unfold rename
  split
  · simp_all
  · simp_all

theorem link_rename_source
    (store : InodeStore Path α)
    {source target : Path}
    (different : source ≠ target) :
    (store.rename source target).link source = none := by
  unfold rename
  split
  · assumption
  · simp [different]

/-- The three things opening a path can do to the table of inodes. -/
theorem openTruncate_spec
    (store : InodeStore Path α)
    (path : Path) :
    (store.openTruncate path).1.link path =
        some (store.openTruncate path).2 ∧
      (store.openTruncate path).1.data (store.openTruncate path).2 = [] ∧
      store.next ≤ (store.openTruncate path).1.next ∧
      (store.openTruncate path).2 < (store.openTruncate path).1.next ∧
      (∀ other,
        other ≠ path →
        (store.openTruncate path).1.link other = store.link other) ∧
      (∀ inode,
        inode ≠ (store.openTruncate path).2 →
        (store.openTruncate path).1.data inode = store.data inode) ∧
      (store.link path = some (store.openTruncate path).2 ∨
        (store.openTruncate path).2 = store.next) := by
  cases shape : store.link path with
  | none =>
      simp +contextual [openTruncate, shape, create]
  | some inode =>
      have bound := store.link_lt shape
      simp +contextual [openTruncate, shape, truncate, bound]

/-- Touching a path keeps every existing link and all contents. -/
theorem touch_spec
    (store : InodeStore Path α)
    (path : Path) :
    store.next ≤ (store.touch path).next ∧
      (∀ other,
        other ≠ path →
        (store.touch path).link other = store.link other) ∧
      (∀ inode,
        inode < store.next →
        (store.touch path).data inode = store.data inode) ∧
      (∀ inode,
        (store.touch path).link path = some inode →
        store.link path = some inode ∨ inode = store.next) := by
  cases shape : store.link path with
  | none =>
      refine ⟨?_, ?_, ?_, ?_⟩
      · simp [touch, shape, create]
      · simp +contextual [touch, shape, create]
      · intro inode bound
        have different : inode ≠ store.next := Nat.ne_of_lt bound
        simp [touch, shape, create, different]
      · intro inode linked
        simp only [touch, shape, create, Function.update_self,
          Option.some.injEq] at linked
        exact Or.inr linked.symm
  | some inode =>
      simp +contextual [touch, shape]

/-- After `touch` the path exists. -/
theorem link_touch_isSome
    (store : InodeStore Path α)
    (path : Path) :
    ((store.touch path).link path).isSome := by
  cases shape : store.link path with
  | none =>
      simp [touch, shape, create]
  | some inode =>
      simp [touch, shape]

/-! ## Reading a path back -/

@[simp] theorem read?_unlink_self
    (store : InodeStore Path α)
    (path : Path) :
    (store.unlink path).read? path = none := by
  simp [read?]

@[simp] theorem read?_overwrite
    (store : InodeStore Path α)
    (path : Path)
    (text : List α) :
    (store.overwrite path text).read? path = some text := by
  obtain ⟨linked, isEmpty, _⟩ := store.openTruncate_spec path
  simp [overwrite, read?, linked, isEmpty]

/-- Opening for appending creates an empty file at most. -/
theorem read?_openAppend
    (store : InodeStore Path α)
    (path : Path) :
    (store.openAppend path).1.read? path =
      some ((store.read? path).getD []) := by
  cases shape : store.link path <;>
    simp [openAppend, read?, shape, create]

@[simp] theorem read?_extend
    (store : InodeStore Path α)
    (path : Path)
    (text : List α) :
    (store.extend path text).read? path =
      some ((store.read? path).getD [] ++ text) := by
  cases shape : store.link path <;>
    simp [extend, openAppend, read?, shape, create]

omit [DecidableEq Path] in
/-- Text written to an open inode shows at a path that still links to it. -/
theorem read?_append
    (store : InodeStore Path α)
    (inode : Nat)
    (text : List α)
    (path : Path) :
    (store.append inode text).read? path =
      if store.link path = some inode then
        some (store.data inode ++ text)
      else store.read? path := by
  cases shape : store.link path with
  | none =>
      simp [read?, shape]
  | some linked =>
      by_cases same : linked = inode <;>
        simp [read?, append, shape, same]

end Paths

end InodeStore

end RecomputerGateway
