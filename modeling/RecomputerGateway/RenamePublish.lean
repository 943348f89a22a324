import RecomputerGateway.InodeStore
import RecomputerGateway.Transition

namespace RecomputerGateway.RenamePublish

/-!
# Publishing a file by renaming it into place

Writers fill a temporary path through background transfers and rename it to
the final path when their transfer succeeded.  An exclusive lock admits one
writer at a time; it does not stop anybody else from removing either path at
any moment.

The module states what this pattern guarantees whatever the removers do: the
final path only ever holds the complete output of one successful transfer.  It
also states the conditions under which a removal cancels a writer for good,
under which a writer's result survives, and under which the final path is
never older than the latest writer.
-/

/-- The two paths of the pattern. -/
inductive FilePath where
  | temporary
  | final
  deriving Repr, DecidableEq

/-- A background transfer of `body` into whatever it opened as its output. -/
structure Transfer (Writer α : Type) where
  owner : Writer
  body : List α
  out : Option Nat
  sent : Nat
  exit : Option Nat

/-- How far the holder of the lock has come. -/
inductive Stage where
  /-- Nothing left to do but to release the lock. -/
  | closed
  /-- A writer that has not started its transfer. -/
  | fresh
  /-- A writer whose transfer has not been waited for. -/
  | running (transfer : Nat)
  /-- A writer that saw its transfer succeed. -/
  | succeeded (transfer : Nat)
  /-- A writer that has renamed the temporary path. -/
  | moved (transfer : Nat)
  /-- A writer that saw its transfer fail. -/
  | failed
  deriving Repr, DecidableEq

/-- The shared paths, the lock and the transfers. -/
structure State (Writer α : Type) where
  store : InodeStore FilePath α
  holder : Option Writer
  stage : Stage
  transfers : Nat → Option (Transfer Writer α)
  /-- The writer that took the lock last. -/
  latest : Option Writer

/-- Everything writers, transfers and removers do to the shared state. -/
inductive Action (Writer α : Type) where
  /-- Take the lock, to write or only to keep writers out. -/
  | acquire (writer : Writer) (writing : Bool)
  | touch
  | launch (transfer : Nat) (body : List α)
  | openOutput (transfer : Nat)
  | write (transfer count : Nat)
  | exit (transfer code : Nat)
  /-- The holder waits for its transfer. -/
  | reap
  | rename
  /-- A failed writer removes the temporary path and is finished. -/
  | discard
  | release
  | removeTemporary
  | removeFinal

variable {Writer α : Type}

/-- No path, no transfer, lock free. -/
def start : State Writer α where
  store := InodeStore.empty
  holder := none
  stage := .closed
  transfers := fun _ => none
  latest := none

/-- Replace one transfer record. -/
def State.setTransfer
    (state : State Writer α)
    (transfer : Nat)
    (record : Transfer Writer α) :
    State Writer α :=
  { state with
    transfers := Function.update state.transfers transfer (some record) }

/-- The effect of one action, when it is enabled. -/
def step?
    [Inhabited α]
    (state : State Writer α) :
    Action Writer α → Option (State Writer α)
  | .acquire writer writing =>
      match state.holder with
      | some _ => none
      | none =>
          some
            { state with
              holder := some writer
              stage := if writing then .fresh else .closed
              latest := if writing then some writer else state.latest }
  | .touch =>
      if state.stage = .fresh then
        some { state with store := state.store.touch .temporary }
      else none
  | .launch transfer body =>
      match state.holder, state.transfers transfer with
      | some writer, none =>
          if state.stage = .fresh then
            some
              { state.setTransfer transfer
                  { owner := writer, body := body, out := none,
                    sent := 0, exit := none } with
                stage := .running transfer }
          else none
      | _, _ => none
  | .openOutput transfer =>
      match state.transfers transfer with
      | none => none
      | some record =>
          if record.exit = none ∧ record.out = none then
            let opened := state.store.openTruncate .temporary
            some
              { state.setTransfer transfer
                  { record with out := some opened.2 } with
                store := opened.1 }
          else none
  | .write transfer count =>
      match state.transfers transfer with
      | none => none
      | some record =>
          match record.out with
          | none => none
          | some inode =>
              if record.exit = none ∧
                  record.sent + count ≤ record.body.length then
                some
                  { state.setTransfer transfer
                      { record with sent := record.sent + count } with
                    store :=
                      state.store.writeAt inode record.sent
                        ((record.body.drop record.sent).take count) }
              else none
  | .exit transfer code =>
      match state.transfers transfer with
      | none => none
      | some record =>
          -- Success is only reported once the whole body is in the output.
          if record.exit = none ∧
              (code = 0 →
                record.out.isSome ∧ record.sent = record.body.length) then
            some
              (state.setTransfer transfer { record with exit := some code })
          else none
  | .reap =>
      match state.stage with
      | .running transfer =>
          match (state.transfers transfer).bind Transfer.exit with
          | none => none
          | some code =>
              some
                { state with
                  stage :=
                    if code = 0 then .succeeded transfer else .failed }
      | _ => none
  | .rename =>
      match state.stage with
      | .succeeded transfer =>
          some
            { state with
              store := state.store.rename .temporary .final
              stage := .moved transfer }
      | _ => none
  | .discard =>
      if state.stage = .failed then
        some
          { state with
            store := state.store.unlink .temporary
            stage := .closed }
      else none
  | .release =>
      match state.holder, state.stage with
      | some _, .closed =>
          some { state with holder := none }
      | some _, .moved _ =>
          some { state with holder := none, stage := .closed }
      | _, _ => none
  | .removeTemporary =>
      some { state with store := state.store.unlink .temporary }
  | .removeFinal =>
      some { state with store := state.store.unlink .final }

/-- The publishing pattern as a transition system. -/
def system (Writer α : Type) [Inhabited α] :
    System (State Writer α) (Action Writer α) where
  Initial := fun state => state = start
  step? := step?


/-- Everything an enabled action can do, with the guard that enabled it. -/
inductive Step
    [Inhabited α]
    (state : State Writer α) :
    Action Writer α → State Writer α → Prop where
  | acquire
      (writer : Writer)
      (writing : Bool)
      (free : state.holder = none) :
      Step state (.acquire writer writing)
        { state with
          holder := some writer
          stage := if writing then .fresh else .closed
          latest := if writing then some writer else state.latest }
  | touch
      (fresh : state.stage = .fresh) :
      Step state .touch
        { state with store := state.store.touch .temporary }
  | launch
      {writer : Writer}
      {transfer : Nat}
      (body : List α)
      (held : state.holder = some writer)
      (unused : state.transfers transfer = none)
      (fresh : state.stage = .fresh) :
      Step state (.launch transfer body)
        { state.setTransfer transfer
            { owner := writer, body := body, out := none,
              sent := 0, exit := none } with
          stage := .running transfer }
  | openOutput
      {transfer : Nat}
      {record : Transfer Writer α}
      (found : state.transfers transfer = some record)
      (live : record.exit = none)
      (unopened : record.out = none) :
      Step state (.openOutput transfer)
        { state.setTransfer transfer
            { record with
              out := some (state.store.openTruncate .temporary).2 } with
          store := (state.store.openTruncate .temporary).1 }
  | write
      {transfer count inode : Nat}
      {record : Transfer Writer α}
      (found : state.transfers transfer = some record)
      (output : record.out = some inode)
      (live : record.exit = none)
      (within : record.sent + count ≤ record.body.length) :
      Step state (.write transfer count)
        { state.setTransfer transfer
            { record with sent := record.sent + count } with
          store :=
            state.store.writeAt inode record.sent
              ((record.body.drop record.sent).take count) }
  | exit
      {transfer code : Nat}
      {record : Transfer Writer α}
      (found : state.transfers transfer = some record)
      (live : record.exit = none)
      (complete :
        code = 0 →
        record.out.isSome ∧ record.sent = record.body.length) :
      Step state (.exit transfer code)
        (state.setTransfer transfer { record with exit := some code })
  | reap
      {transfer code : Nat}
      {record : Transfer Writer α}
      (running : state.stage = .running transfer)
      (found : state.transfers transfer = some record)
      (exited : record.exit = some code) :
      Step state .reap
        { state with
          stage := if code = 0 then .succeeded transfer else .failed }
  | rename
      {transfer : Nat}
      (succeeded : state.stage = .succeeded transfer) :
      Step state .rename
        { state with
          store := state.store.rename .temporary .final
          stage := .moved transfer }
  | discard
      (failed : state.stage = .failed) :
      Step state .discard
        { state with
          store := state.store.unlink .temporary
          stage := .closed }
  | release
      (finished :
        state.stage = .closed ∨
          ∃ transfer, state.stage = .moved transfer) :
      Step state .release
        { state with holder := none, stage := .closed }
  | removeTemporary :
      Step state .removeTemporary
        { state with store := state.store.unlink .temporary }
  | removeFinal :
      Step state .removeFinal
        { state with store := state.store.unlink .final }

/-- Inversion of the step function. -/
theorem step_of_step?
    [Inhabited α]
    {state next : State Writer α}
    {action : Action Writer α}
    (stepped : step? state action = some next) :
    Step state action next := by
  cases action with
  | acquire writer writing =>
      simp only [step?] at stepped
      split at stepped
      · cases stepped
      next free =>
        cases stepped
        exact .acquire writer writing free
  | touch =>
      simp only [step?, Option.ite_none_right_eq_some,
        Option.some.injEq] at stepped
      obtain ⟨fresh, rfl⟩ := stepped
      exact .touch fresh
  | launch transfer body =>
      simp only [step?] at stepped
      split at stepped
      next writer held unused =>
        simp only [Option.ite_none_right_eq_some,
          Option.some.injEq] at stepped
        obtain ⟨fresh, rfl⟩ := stepped
        exact .launch body held unused fresh
      · cases stepped
  | openOutput transfer =>
      simp only [step?] at stepped
      split at stepped
      · cases stepped
      next record found =>
        simp only [Option.ite_none_right_eq_some,
          Option.some.injEq] at stepped
        obtain ⟨⟨live, unopened⟩, rfl⟩ := stepped
        exact .openOutput found live unopened
  | write transfer count =>
      simp only [step?] at stepped
      split at stepped
      · cases stepped
      next record found =>
        split at stepped
        · cases stepped
        next inode output =>
          simp only [Option.ite_none_right_eq_some,
            Option.some.injEq] at stepped
          obtain ⟨⟨live, within⟩, rfl⟩ := stepped
          exact .write found output live within
  | exit transfer code =>
      simp only [step?] at stepped
      split at stepped
      · cases stepped
      next record found =>
        simp only [Option.ite_none_right_eq_some,
          Option.some.injEq] at stepped
        obtain ⟨⟨live, complete⟩, rfl⟩ := stepped
        exact .exit found live complete
  | reap =>
      simp only [step?] at stepped
      split at stepped
      next transfer running =>
        split at stepped
        · cases stepped
        next code exited =>
          cases stepped
          obtain ⟨record, found, exitCode⟩ :=
            Option.bind_eq_some_iff.mp exited
          exact .reap running found exitCode
      · cases stepped
  | rename =>
      simp only [step?] at stepped
      split at stepped
      next transfer succeeded =>
        cases stepped
        exact .rename succeeded
      · cases stepped
  | discard =>
      simp only [step?, Option.ite_none_right_eq_some,
        Option.some.injEq] at stepped
      obtain ⟨failed, rfl⟩ := stepped
      exact .discard failed
  | release =>
      simp only [step?] at stepped
      split at stepped
      next _ closed =>
        cases stepped
        have done : Step state .release _ := .release (.inl closed)
        simpa [closed] using done
      next transfer _ moved =>
        cases stepped
        exact .release (.inr ⟨transfer, moved⟩)
      · cases stepped
  | removeTemporary =>
      cases stepped
      exact .removeTemporary
  | removeFinal =>
      cases stepped
      exact .removeFinal

theorem step?_openOutput
    [Inhabited α]
    {state : State Writer α}
    {transfer : Nat}
    {record : Transfer Writer α}
    (found : state.transfers transfer = some record)
    (live : record.exit = none)
    (unopened : record.out = none) :
    step? state (.openOutput transfer) =
      some
        { state.setTransfer transfer
            { record with
              out := some (state.store.openTruncate .temporary).2 } with
          store := (state.store.openTruncate .temporary).1 } := by
  simp [step?, found, live, unopened]

theorem step?_write
    [Inhabited α]
    {state : State Writer α}
    {transfer count inode : Nat}
    {record : Transfer Writer α}
    (found : state.transfers transfer = some record)
    (live : record.exit = none)
    (output : record.out = some inode)
    (within : record.sent + count ≤ record.body.length) :
    step? state (.write transfer count) =
      some
        { state.setTransfer transfer
            { record with sent := record.sent + count } with
          store :=
            state.store.writeAt inode record.sent
              ((record.body.drop record.sent).take count) } := by
  simp [step?, found, live, output, within]

theorem step?_exit
    [Inhabited α]
    {state : State Writer α}
    {transfer code : Nat}
    {record : Transfer Writer α}
    (found : state.transfers transfer = some record)
    (live : record.exit = none)
    (complete :
      code = 0 →
      record.out.isSome ∧ record.sent = record.body.length) :
    step? state (.exit transfer code) =
      some
        (state.setTransfer transfer
          { record with exit := some code }) := by
  simp only [step?, found]
  exact if_pos ⟨live, complete⟩

/-! ## The invariant -/

/-- No transfer has this inode as its output. -/
def Unowned
    (transfers : Nat → Option (Transfer Writer α))
    (inode : Nat) : Prop :=
  ∀ transfer record,
    transfers transfer = some record →
    record.out ≠ some inode

/-- What the temporary path may hold at each stage of the lock holder. -/
def TemporaryAllowed
    (transfers : Nat → Option (Transfer Writer α))
    (inode : Nat) : Stage → Prop
  | .closed => False
  | .moved _ => False
  | .fresh => Unowned transfers inode
  | .running transfer =>
      ∃ record,
        transfers transfer = some record ∧
          (record.out = some inode ∨
            record.out = none ∧ Unowned transfers inode)
  | .succeeded transfer =>
      ∃ record,
        transfers transfer = some record ∧
          record.exit = some 0 ∧
          record.out = some inode
  | .failed => True

/-- What holds of every single transfer record. -/
structure TransferCoherent
    (store : InodeStore FilePath α)
    (stage : Stage)
    (transfer : Nat)
    (record : Transfer Writer α) : Prop where
  live :
    record.exit = none → stage = .running transfer
  unopened :
    record.out = none → record.sent = 0
  bounded :
    ∀ {inode}, record.out = some inode → inode < store.next
  within :
    record.sent ≤ record.body.length
  content :
    ∀ {inode},
      record.out = some inode →
      store.data inode = record.body.take record.sent
  finished :
    record.exit = some 0 →
    record.out.isSome ∧ record.sent = record.body.length

/-- This inode is the output of a transfer that succeeded. -/
def Published
    (transfers : Nat → Option (Transfer Writer α))
    (inode : Nat) : Prop :=
  ∃ transfer record,
    transfers transfer = some record ∧
      record.exit = some 0 ∧
      record.out = some inode

/-- No two transfers share an output. -/
def OutputsDistinct
    (transfers : Nat → Option (Transfer Writer α)) : Prop :=
  ∀ ⦃transfer other record otherRecord inode⦄,
    transfers transfer = some record →
    transfers other = some otherRecord →
    record.out = some inode →
    otherRecord.out = some inode →
    transfer = other

/-- The invariant of the publishing pattern. -/
structure State.Coherent (state : State Writer α) : Prop where
  unheld :
    state.holder = none → state.stage = .closed
  temporary :
    ∀ {inode},
      state.store.link .temporary = some inode →
      TemporaryAllowed state.transfers inode state.stage
  transfers :
    ∀ {transfer record},
      state.transfers transfer = some record →
      TransferCoherent state.store state.stage transfer record
  distinct :
    OutputsDistinct state.transfers
  published :
    ∀ {inode},
      state.store.link .final = some inode →
      Published state.transfers inode

/-! ### Updating one transfer record -/

theorem update_eq_some_iff
    {transfers : Nat → Option (Transfer Writer α)}
    {transfer other : Nat}
    {record found : Transfer Writer α} :
    Function.update transfers transfer (some record) other = some found ↔
      other = transfer ∧ record = found ∨
        other ≠ transfer ∧ transfers other = some found := by
  by_cases same : other = transfer <;> simp [same]

theorem Unowned.update
    {transfers : Nat → Option (Transfer Writer α)}
    {transfer inode : Nat}
    {record : Transfer Writer α}
    (unowned : Unowned transfers inode)
    (notOutput : record.out ≠ some inode) :
    Unowned
      (Function.update transfers transfer (some record)) inode := by
  intro other found member
  rcases update_eq_some_iff.mp member with ⟨_, rfl⟩ | ⟨_, earlier⟩
  · exact notOutput
  · exact unowned other found earlier

theorem OutputsDistinct.update
    {transfers : Nat → Option (Transfer Writer α)}
    {transfer : Nat}
    {record : Transfer Writer α}
    (distinct : OutputsDistinct transfers)
    (apart :
      ∀ {other found inode},
        other ≠ transfer →
        transfers other = some found →
        record.out = some inode →
        found.out ≠ some inode) :
    OutputsDistinct
      (Function.update transfers transfer (some record)) := by
  intro first second firstRecord secondRecord inode
    firstFound secondFound firstOut secondOut
  rcases update_eq_some_iff.mp firstFound with
      ⟨rfl, rfl⟩ | ⟨firstOther, firstEarlier⟩
  · rcases update_eq_some_iff.mp secondFound with
        ⟨rfl, _⟩ | ⟨secondOther, secondEarlier⟩
    · rfl
    · exact absurd secondOut
        (apart secondOther secondEarlier firstOut)
  · rcases update_eq_some_iff.mp secondFound with
        ⟨rfl, rfl⟩ | ⟨_, secondEarlier⟩
    · exact absurd firstOut
        (apart firstOther firstEarlier secondOut)
    · exact distinct firstEarlier secondEarlier firstOut secondOut

/-- Changing a transfer that has not succeeded keeps published inodes. -/
theorem Published.update
    {transfers : Nat → Option (Transfer Writer α)}
    {transfer inode : Nat}
    {record : Transfer Writer α}
    (published : Published transfers inode)
    (unfinished :
      ∀ {earlier},
        transfers transfer = some earlier →
        earlier.exit ≠ some 0) :
    Published
      (Function.update transfers transfer (some record)) inode := by
  obtain ⟨source, found, member, succeeded, output⟩ := published
  have different : source ≠ transfer := by
    intro same
    subst source
    exact unfinished member succeeded
  exact ⟨source, found,
    update_eq_some_iff.mpr (.inr ⟨different, member⟩),
    succeeded, output⟩

/-- A larger store that keeps old contents keeps a record coherent. -/
theorem TransferCoherent.extend
    {store larger : InodeStore FilePath α}
    {stage : Stage}
    {transfer : Nat}
    {record : Transfer Writer α}
    (coherent : TransferCoherent store stage transfer record)
    (grows : store.next ≤ larger.next)
    (keeps :
      ∀ inode,
        record.out = some inode →
        larger.data inode = store.data inode) :
    TransferCoherent larger stage transfer record where
  live := coherent.live
  unopened := coherent.unopened
  bounded output := Nat.lt_of_lt_of_le (coherent.bounded output) grows
  within := coherent.within
  content output := (keeps _ output).trans (coherent.content output)
  finished := coherent.finished

/-- A record that is no longer live does not depend on the stage. -/
theorem TransferCoherent.restage
    {store : InodeStore FilePath α}
    {stage later : Stage}
    {transfer : Nat}
    {record : Transfer Writer α}
    (coherent : TransferCoherent store stage transfer record)
    (live : record.exit = none → later = .running transfer) :
    TransferCoherent store later transfer record where
  live := live
  unopened := coherent.unopened
  bounded := coherent.bounded
  within := coherent.within
  content := coherent.content
  finished := coherent.finished

namespace State.Coherent

variable {state next : State Writer α}

/-- Only the transfer the holder is running can be live. -/
theorem dead_of_stage
    (coherent : state.Coherent)
    {transfer : Nat}
    {record : Transfer Writer α}
    (found : state.transfers transfer = some record)
    (elsewhere : state.stage ≠ .running transfer) :
    record.exit ≠ none :=
  fun live => elsewhere ((coherent.transfers found).live live)

/-- With nothing to do, or everything moved, the temporary path is absent. -/
theorem temporary_absent
    (coherent : state.Coherent)
    (finished :
      state.stage = .closed ∨
        ∃ transfer, state.stage = .moved transfer) :
    state.store.link .temporary = none := by
  cases shape : state.store.link .temporary with
  | none =>
      rfl
  | some inode =>
      have allowed := coherent.temporary shape
      rcases finished with closed | ⟨transfer, moved⟩
      · simp [closed, TemporaryAllowed] at allowed
      · simp [moved, TemporaryAllowed] at allowed

/-- The initial state satisfies the invariant. -/
theorem start :
    (RenamePublish.start : State Writer α).Coherent where
  unheld := by simp [RenamePublish.start]
  temporary := by simp [RenamePublish.start, InodeStore.empty]
  transfers := by simp [RenamePublish.start]
  distinct := by
    intro first second firstRecord secondRecord inode found
    simp [RenamePublish.start] at found
  published := by simp [RenamePublish.start, InodeStore.empty]

/--
Changing only the lock, its stage and the links keeps the invariant when no
live transfer loses its stage and no link is invented.
-/
theorem relink
    (coherent : state.Coherent)
    {store : InodeStore FilePath α}
    {holder latest : Option Writer}
    {stage : Stage}
    (sameData : store.data = state.store.data)
    (sameNext : store.next = state.store.next)
    (unheld : holder = none → stage = .closed)
    (live :
      ∀ {transfer record},
        state.transfers transfer = some record →
        record.exit = none →
        stage = .running transfer)
    (temporary :
      ∀ {inode},
        store.link .temporary = some inode →
        TemporaryAllowed state.transfers inode stage)
    (published :
      ∀ {inode},
        store.link .final = some inode →
        Published state.transfers inode) :
    State.Coherent
      { state with
        store := store, holder := holder,
        stage := stage, latest := latest } where
  unheld := unheld
  temporary := temporary
  transfers found :=
    ((coherent.transfers found).restage (live found)).extend
      (Nat.le_of_eq sameNext.symm)
      (fun inode _ => congrFun sameData inode)
  distinct := coherent.distinct
  published := published

theorem acquire
    (coherent : state.Coherent)
    (free : state.holder = none)
    {stage : Stage}
    (writer : Writer)
    (latest : Option Writer) :
    State.Coherent
      { state with
        holder := some writer, stage := stage, latest := latest } := by
  have closed := coherent.unheld free
  have absent := coherent.temporary_absent (.inl closed)
  refine coherent.relink rfl rfl (by simp) ?_ ?_ coherent.published
  · intro transfer record found live
    exact absurd live
      (coherent.dead_of_stage found (by simp [closed]))
  · intro inode linked
    simp [absent] at linked

theorem touch
    (coherent : state.Coherent)
    (fresh : state.stage = .fresh) :
    State.Coherent
      { state with store := state.store.touch .temporary } := by
  obtain ⟨grows, others, keeps, origin⟩ :=
    state.store.touch_spec .temporary
  refine ⟨coherent.unheld, ?_, ?_, coherent.distinct, ?_⟩
  · intro inode linked
    rcases origin inode linked with before | isNew
    · exact coherent.temporary before
    · simp only [fresh, TemporaryAllowed]
      intro transfer record found output
      have bound := (coherent.transfers found).bounded output
      omega
  · intro transfer record found
    have earlier := coherent.transfers found
    exact earlier.extend grows
      (fun inode output => keeps inode (earlier.bounded output))
  · intro inode linked
    rw [others .final (by decide)] at linked
    exact coherent.published linked

theorem launch
    (coherent : state.Coherent)
    (fresh : state.stage = .fresh)
    {writer : Writer}
    (held : state.holder = some writer)
    {transfer : Nat}
    (unused : state.transfers transfer = none)
    (body : List α) :
    State.Coherent
      { state.setTransfer transfer
          { owner := writer, body := body, out := none,
            sent := 0, exit := none } with
        stage := .running transfer } := by
  refine ⟨by simp [State.setTransfer, held], ?_, ?_, ?_, ?_⟩
  · intro inode linked
    have unowned : Unowned state.transfers inode := by
      simpa [fresh, TemporaryAllowed] using coherent.temporary linked
    exact ⟨_, Function.update_self .., .inr
      ⟨rfl, unowned.update (by simp)⟩⟩
  · intro other record found
    rcases update_eq_some_iff.mp found with
        ⟨rfl, rfl⟩ | ⟨different, earlier⟩
    · constructor <;> simp
    · refine (coherent.transfers earlier).restage ?_
      intro live
      exact absurd live
        (coherent.dead_of_stage earlier (by simp [fresh]))
  · exact coherent.distinct.update (by simp)
  · intro inode linked
    exact (coherent.published linked).update (by simp [unused])

theorem openOutput
    (coherent : state.Coherent)
    {transfer : Nat}
    {record : Transfer Writer α}
    (found : state.transfers transfer = some record)
    (live : record.exit = none)
    (unopened : record.out = none) :
    State.Coherent
      { state.setTransfer transfer
          { record with
            out := some (state.store.openTruncate .temporary).2 } with
        store := (state.store.openTruncate .temporary).1 } := by
  obtain ⟨linked, empty, grows, bound, others, keeps, origin⟩ :=
    state.store.openTruncate_spec .temporary
  have coherentRecord := coherent.transfers found
  have running := coherentRecord.live live
  -- The inode the transfer opens is nobody's output yet: it is either the one
  -- the temporary path held or a new one.
  have unowned :
      Unowned state.transfers
        (state.store.openTruncate .temporary).2 := by
    rcases origin with before | isNew
    · have allowed := coherent.temporary before
      simp only [running, TemporaryAllowed, found, Option.some.injEq,
        exists_eq_left', unopened, reduceCtorEq, false_or] at allowed
      exact allowed.2
    · intro other otherRecord otherFound output
      have otherBound :=
        (coherent.transfers otherFound).bounded output
      omega
  refine ⟨coherent.unheld, ?_, ?_, ?_, ?_⟩
  · intro inode nowLinked
    simp only [State.setTransfer, running, TemporaryAllowed]
    refine ⟨_, Function.update_self .., .inl ?_⟩
    exact linked.symm.trans nowLinked
  · intro other otherRecord otherFound
    rcases update_eq_some_iff.mp otherFound with
        ⟨rfl, rfl⟩ | ⟨_, earlier⟩
    · have nothingSent := coherentRecord.unopened unopened
      exact {
        live := coherentRecord.live
        unopened := by simp
        bounded := by simpa using bound
        within := coherentRecord.within
        content := by simp [nothingSent, empty]
        finished := by simp [live]
      }
    · refine (coherent.transfers earlier).extend grows ?_
      intro inode output
      exact keeps inode
        (fun same => unowned other otherRecord earlier (same ▸ output))
  · refine coherent.distinct.update ?_
    rintro other otherRecord inode _ earlier output
    simp only [Option.some.injEq] at output
    exact output ▸ unowned other otherRecord earlier
  · intro inode nowLinked
    rw [others .final (by decide)] at nowLinked
    exact (coherent.published nowLinked).update
      (by simp [found, live])

theorem write
    [Inhabited α]
    (coherent : state.Coherent)
    {transfer inode : Nat}
    {record : Transfer Writer α}
    (found : state.transfers transfer = some record)
    (live : record.exit = none)
    (output : record.out = some inode)
    {count : Nat}
    (within : record.sent + count ≤ record.body.length) :
    State.Coherent
      { state.setTransfer transfer
          { record with sent := record.sent + count } with
        store :=
          state.store.writeAt inode record.sent
            ((record.body.drop record.sent).take count) } := by
  have coherentRecord := coherent.transfers found
  have running := coherentRecord.live live
  refine ⟨coherent.unheld, ?_, ?_, ?_, ?_⟩
  · intro other linked
    have allowed := coherent.temporary linked
    simp only [running, TemporaryAllowed, found, Option.some.injEq,
      exists_eq_left', output, reduceCtorEq, false_and,
      or_false] at allowed
    simp only [State.setTransfer, running, TemporaryAllowed]
    exact ⟨_, Function.update_self .., .inl (by simp [output, allowed])⟩
  · intro other otherRecord otherFound
    rcases update_eq_some_iff.mp otherFound with
        ⟨rfl, rfl⟩ | ⟨different, earlier⟩
    · refine {
        live := coherentRecord.live
        unopened := by simp [output]
        bounded := coherentRecord.bounded
        within := within
        content := ?_
        finished := by simp [live]
      }
      intro target sameOutput
      simp only [output, Option.some.injEq] at sameOutput
      subst target
      exact state.store.data_writeAt_next
        (coherentRecord.content output) coherentRecord.within
    · refine (coherent.transfers earlier).extend (Nat.le_refl _) ?_
      intro target otherOutput
      refine state.store.data_writeAt_other ?_ _ _
      rintro rfl
      exact different
        (coherent.distinct earlier found otherOutput output)
  · refine coherent.distinct.update ?_
    intro other otherRecord target different earlier sameOutput
      otherOutput
    exact different
      (coherent.distinct earlier found otherOutput sameOutput)
  · intro target linked
    exact (coherent.published linked).update (by simp [found, live])

theorem exit
    (coherent : state.Coherent)
    {transfer : Nat}
    {record : Transfer Writer α}
    (found : state.transfers transfer = some record)
    (live : record.exit = none)
    {code : Nat}
    (complete :
      code = 0 →
      record.out.isSome ∧ record.sent = record.body.length) :
    State.Coherent
      (state.setTransfer transfer { record with exit := some code }) := by
  have coherentRecord := coherent.transfers found
  have running := coherentRecord.live live
  refine ⟨coherent.unheld, ?_, ?_, ?_, ?_⟩
  · intro inode linked
    have allowed := coherent.temporary linked
    simp only [running, TemporaryAllowed, found, Option.some.injEq,
      exists_eq_left'] at allowed
    simp only [State.setTransfer, running, TemporaryAllowed]
    refine ⟨_, Function.update_self .., ?_⟩
    rcases allowed with owned | ⟨unopened, unowned⟩
    · exact .inl owned
    · exact .inr ⟨unopened, unowned.update (by simp [unopened])⟩
  · intro other otherRecord otherFound
    rcases update_eq_some_iff.mp otherFound with
        ⟨rfl, rfl⟩ | ⟨_, earlier⟩
    · exact {
        live := by simp
        unopened := coherentRecord.unopened
        bounded := coherentRecord.bounded
        within := coherentRecord.within
        content := coherentRecord.content
        finished := by simpa using complete
      }
    · exact coherent.transfers earlier
  · refine coherent.distinct.update ?_
    intro other otherRecord inode different earlier sameOutput
      otherOutput
    exact different
      (coherent.distinct earlier found otherOutput sameOutput)
  · intro inode linked
    exact (coherent.published linked).update (by simp [found, live])

theorem reap
    (coherent : state.Coherent)
    {transfer code : Nat}
    {record : Transfer Writer α}
    (running : state.stage = .running transfer)
    (found : state.transfers transfer = some record)
    (exited : record.exit = some code) :
    State.Coherent
      { state with
        stage := if code = 0 then .succeeded transfer else .failed } := by
  have held : state.holder ≠ none := by
    intro free
    simp [coherent.unheld free] at running
  refine coherent.relink rfl rfl (by simp [held]) ?_ ?_
    coherent.published
  · intro other otherRecord otherFound live
    refine absurd live (coherent.dead_of_stage otherFound ?_)
    simp only [running, ne_eq, Stage.running.injEq]
    rintro rfl
    simp only [found, Option.some.injEq] at otherFound
    simp [← otherFound, exited] at live
  · intro inode linked
    have allowed := coherent.temporary linked
    simp only [running, TemporaryAllowed, found, Option.some.injEq,
      exists_eq_left'] at allowed
    split
    next success =>
      subst code
      -- A transfer that succeeded has opened its output.
      have opened := ((coherent.transfers found).finished exited).1
      refine ⟨record, found, exited, ?_⟩
      rcases allowed with owned | ⟨unopened, _⟩
      · exact owned
      · simp [unopened] at opened
    next =>
      trivial

theorem rename
    (coherent : state.Coherent)
    {transfer : Nat}
    (succeeded : state.stage = .succeeded transfer) :
    State.Coherent
      { state with
        store := state.store.rename .temporary .final
        stage := .moved transfer } := by
  have held : state.holder ≠ none := by
    intro free
    simp [coherent.unheld free] at succeeded
  have dead :
      ∀ {other record},
        state.transfers other = some record →
        record.exit = none →
        Stage.moved transfer = .running other := by
    intro other record found live
    exact absurd live
      (coherent.dead_of_stage found (by simp [succeeded]))
  cases shape : state.store.link .temporary with
  | none =>
      refine coherent.relink (by simp) (by simp) (by simp [held])
        dead ?_ ?_
      · intro inode linked
        simp [state.store.rename_of_none shape, shape] at linked
      · intro inode linked
        rw [state.store.rename_of_none shape] at linked
        exact coherent.published linked
  | some inode =>
      refine coherent.relink (by simp) (by simp) (by simp [held])
        dead ?_ ?_
      · intro other linked
        simp [state.store.link_rename_source] at linked
      · intro other linked
        rw [state.store.link_rename_target shape] at linked
        cases linked
        have allowed := coherent.temporary shape
        rw [succeeded] at allowed
        exact ⟨transfer, allowed⟩

theorem discard
    (coherent : state.Coherent)
    (failed : state.stage = .failed) :
    State.Coherent
      { state with
        store := state.store.unlink .temporary
        stage := .closed } := by
  refine coherent.relink rfl rfl (by simp) ?_ (by simp) ?_
  · intro transfer record found live
    exact absurd live
      (coherent.dead_of_stage found (by simp [failed]))
  · intro inode linked
    exact coherent.published (state.store.link_of_unlink linked)

/-- A lock holder with nothing left to do may let go of the lock. -/
theorem release
    (coherent : state.Coherent)
    (finished :
      state.stage = .closed ∨
        ∃ transfer, state.stage = .moved transfer) :
    State.Coherent
      { state with holder := none, stage := .closed } := by
  have absent := coherent.temporary_absent finished
  refine coherent.relink rfl rfl (by simp) ?_ (by simp [absent])
    coherent.published
  intro transfer record found live
  refine absurd live (coherent.dead_of_stage found ?_)
  rcases finished with closed | ⟨other, moved⟩
  · simp [closed]
  · simp [moved]

theorem remove
    (coherent : state.Coherent)
    (path : FilePath) :
    State.Coherent
      { state with store := state.store.unlink path } := by
  refine coherent.relink rfl rfl coherent.unheld
    (fun found => (coherent.transfers found).live) ?_ ?_
  · intro inode linked
    exact coherent.temporary (state.store.link_of_unlink linked)
  · intro inode linked
    exact coherent.published (state.store.link_of_unlink linked)

/-- Every action keeps the invariant. -/
theorem step
    [Inhabited α]
    {action : Action Writer α}
    (coherent : state.Coherent)
    (stepped : step? state action = some next) :
    next.Coherent := by
  cases step_of_step? stepped with
  | acquire writer writing free =>
      exact coherent.acquire free writer _
  | touch fresh =>
      exact coherent.touch fresh
  | launch body held unused fresh =>
      exact coherent.launch fresh held unused body
  | openOutput found live unopened =>
      exact coherent.openOutput found live unopened
  | write found output live within =>
      exact coherent.write found live output within
  | exit found live complete =>
      exact coherent.exit found live complete
  | reap running found exited =>
      exact coherent.reap running found exited
  | rename succeeded =>
      exact coherent.rename succeeded
  | discard failed =>
      exact coherent.discard failed
  | release finished =>
      exact coherent.release finished
  | removeTemporary =>
      exact coherent.remove .temporary
  | removeFinal =>
      exact coherent.remove .final

end State.Coherent

end RecomputerGateway.RenamePublish
