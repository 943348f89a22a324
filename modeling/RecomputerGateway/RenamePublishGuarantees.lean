import RecomputerGateway.RenamePublish

namespace RecomputerGateway.RenamePublish

/-!
# What the rename pattern guarantees

The invariant of `RenamePublish` gives completeness of published files in every
run.  The other guarantees need the removers to behave: each of them is stated
for the runs whose actions satisfy a guard, and the guard says which removals
or which new writers the guarantee depends on.
-/

variable {Writer α : Type} [Inhabited α]

namespace State.Coherent

variable {state : State Writer α}

/-- The invariant holds in every reachable state. -/
theorem of_reachable
    (reachable : (system Writer α).Reachable state) :
    state.Coherent := by
  refine reachable.invariant _ ?_ ?_
  · rintro initial rfl
    exact State.Coherent.start
  · intro current action next _ coherent _ stepped
    exact coherent.step stepped

end State.Coherent

/-! ## Completeness -/

omit [Inhabited α] in
/-- A published inode holds the whole body of the transfer that made it. -/
theorem Published.complete
    {state : State Writer α}
    (coherent : state.Coherent)
    {inode : Nat}
    (published : Published state.transfers inode) :
    ∃ transfer record,
      state.transfers transfer = some record ∧
        record.exit = some 0 ∧
        record.out = some inode ∧
        state.store.data inode = record.body := by
  obtain ⟨transfer, record, found, succeeded, output⟩ := published
  have coherentRecord := coherent.transfers found
  refine ⟨transfer, record, found, succeeded, output, ?_⟩
  rw [coherentRecord.content output,
    (coherentRecord.finished succeeded).2, List.take_length]

/-- A transfer that has exited never changes again. -/
theorem step_transfer_exited
    {state next : State Writer α}
    {action : Action Writer α}
    (stepped : step? state action = some next)
    {transfer : Nat}
    {record : Transfer Writer α}
    (found : state.transfers transfer = some record)
    (exited : record.exit ≠ none) :
    next.transfers transfer = some record := by
  -- The only records an action replaces are absent ones and live ones.
  have kept :
      ∀ {other replacement},
        (∀ replaced,
          state.transfers other = some replaced →
          replaced.exit = none) →
        Function.update state.transfers other (some replacement)
            transfer =
          some record := by
    intro other replacement live
    refine update_eq_some_iff.mpr (.inr ⟨?_, found⟩)
    rintro rfl
    exact exited (live record found)
  cases step_of_step? stepped with
  | launch body held unused fresh =>
      exact kept (by simp [unused])
  | openOutput replacedFound live unopened =>
      exact kept (by simp [replacedFound, live])
  | write replacedFound output live within =>
      exact kept (by simp [replacedFound, live])
  | exit replacedFound live complete =>
      exact kept (by simp [replacedFound, live])
  | _ =>
      exact found

/-- What stays of a transfer from one state to a later one. -/
structure Transfer.Evolves (earlier later : Transfer Writer α) : Prop where
  owner : later.owner = earlier.owner
  body : later.body = earlier.body
  exit :
    ∀ {code},
      earlier.exit = some code →
      later.exit = some code

omit [Inhabited α] in
theorem Transfer.Evolves.refl
    (record : Transfer Writer α) :
    record.Evolves record :=
  ⟨rfl, rfl, id⟩

/-- No action forgets a transfer, its body or its exit code. -/
theorem step_transfer_evolves
    {state next : State Writer α}
    {action : Action Writer α}
    (stepped : step? state action = some next)
    {transfer : Nat}
    {record : Transfer Writer α}
    (found : state.transfers transfer = some record) :
    ∃ later,
      next.transfers transfer = some later ∧ record.Evolves later := by
  have replaced :
      ∀ {other earlier replacement},
        state.transfers other = some earlier →
        earlier.Evolves replacement →
        ∃ later,
          Function.update state.transfers other (some replacement)
              transfer =
            some later ∧
          record.Evolves later := by
    intro other earlier replacement earlierFound evolves
    by_cases same : transfer = other
    · subst other
      rw [found] at earlierFound
      cases earlierFound
      exact ⟨replacement, Function.update_self .., evolves⟩
    · exact ⟨record, by simp [same, found], .refl record⟩
  cases step_of_step? stepped with
  | @launch writer launched body held unused fresh =>
      have different : transfer ≠ launched := by
        rintro rfl
        simp [unused] at found
      exact ⟨record, by simp [State.setTransfer, different, found],
        .refl record⟩
  | openOutput earlierFound live unopened =>
      refine replaced earlierFound ?_
      exact ⟨rfl, rfl, id⟩
  | write earlierFound output live within =>
      refine replaced earlierFound ?_
      exact ⟨rfl, rfl, id⟩
  | exit earlierFound live complete =>
      refine replaced earlierFound ?_
      exact ⟨rfl, rfl, by simp [live]⟩
  | _ =>
      exact ⟨record, found, .refl record⟩

/-- A transfer is there already, or the lock holder launches it. -/
theorem step_transfer_origin
    {state next : State Writer α}
    {action : Action Writer α}
    (stepped : step? state action = some next)
    {transfer : Nat}
    {later : Transfer Writer α}
    (found : next.transfers transfer = some later) :
    (∃ record, state.transfers transfer = some record) ∨
      ∃ body,
        action = .launch transfer body ∧
          state.holder = some later.owner := by
  cases step_of_step? stepped with
  | launch body held unused fresh =>
      rcases update_eq_some_iff.mp found with
          ⟨rfl, rfl⟩ | ⟨_, earlier⟩
      · exact .inr ⟨body, rfl, held⟩
      · exact .inl ⟨later, earlier⟩
  | openOutput earlierFound live unopened
  | write earlierFound output live within
  | exit earlierFound live complete =>
      rcases update_eq_some_iff.mp found with
          ⟨rfl, _⟩ | ⟨_, earlier⟩
      · exact .inl ⟨_, earlierFound⟩
      · exact .inl ⟨later, earlier⟩
  | _ =>
      exact .inl ⟨later, found⟩

/-- Once published, an inode stays published. -/
theorem Published.step
    {state next : State Writer α}
    {action : Action Writer α}
    (stepped : step? state action = some next)
    {inode : Nat}
    (published : Published state.transfers inode) :
    Published next.transfers inode := by
  obtain ⟨transfer, record, found, succeeded, output⟩ := published
  exact ⟨transfer, record,
    step_transfer_exited stepped found (by simp [succeeded]),
    succeeded, output⟩

/-! ## Cancelling for good -/

/--
The temporary path is gone and no running transfer can bring it back: only a
writer that takes the lock anew could.
-/
structure State.Sealed (state : State Writer α) : Prop where
  absent :
    state.store.link .temporary = none
  started :
    state.stage ≠ .fresh
  opened :
    ∀ {transfer record},
      state.transfers transfer = some record →
      record.exit = none →
      record.out ≠ none

/-- Removing the temporary path seals a state with nothing left to start. -/
theorem State.Sealed.of_removeTemporary
    {state next : State Writer α}
    (stepped : step? state .removeTemporary = some next)
    (started : state.stage ≠ .fresh)
    (opened :
      ∀ {transfer record},
        state.transfers transfer = some record →
        record.exit = none →
        record.out ≠ none) :
    next.Sealed := by
  cases stepped
  exact ⟨by simp, started, opened⟩

/-- A sealed state stays sealed until a new writer takes the lock. -/
theorem State.Sealed.step
    {state next : State Writer α}
    {action : Action Writer α}
    (isSealed : state.Sealed)
    (noWriter : ∀ writer, action ≠ .acquire writer true)
    (stepped : step? state action = some next) :
    next.Sealed := by
  obtain ⟨absent, started, opened⟩ := isSealed
  -- A transfer may be replaced by one whose output is open.
  have stillOpened
      {replaced : Nat}
      {replacement : Transfer Writer α}
      {transfer : Nat}
      {record : Transfer Writer α}
      (found :
        Function.update state.transfers replaced (some replacement)
          transfer = some record)
      (live : record.exit = none)
      (outputOpen : replacement.out ≠ none) :
      record.out ≠ none := by
    rcases update_eq_some_iff.mp found with ⟨rfl, rfl⟩ | ⟨_, earlier⟩
    · exact outputOpen
    · exact opened earlier live
  cases step_of_step? stepped with
  | acquire writer writing free =>
      cases writing with
      | true =>
          exact absurd rfl (noWriter writer)
      | false =>
          exact ⟨absent, by simp, opened⟩
  | touch fresh =>
      exact absurd fresh started
  | launch body held unused fresh =>
      exact absurd fresh started
  | openOutput found live unopened =>
      exact absurd unopened (opened found live)
  | write found output live within =>
      have outputOpen := opened found live
      refine ⟨absent, started, fun nowFound nowLive => ?_⟩
      exact stillOpened nowFound nowLive outputOpen
  | exit found live complete =>
      have outputOpen := opened found live
      refine ⟨absent, started, fun nowFound nowLive => ?_⟩
      exact stillOpened nowFound nowLive outputOpen
  | @reap transfer code record running found exited =>
      refine ⟨absent, ?_, opened⟩
      split <;> simp
  | rename succeeded =>
      refine ⟨?_, by simp, opened⟩
      rw [state.store.rename_of_none absent]
      exact absent
  | discard failed =>
      exact ⟨by simp, by simp, opened⟩
  | release finished =>
      exact ⟨absent, by simp, opened⟩
  | removeTemporary =>
      exact ⟨by simp, started, opened⟩
  | removeFinal =>
      refine ⟨?_, started, opened⟩
      rw [state.store.link_unlink_other (by decide)]
      exact absent

/-- In a sealed state no action makes the final path appear. -/
theorem State.Sealed.final_absent_step
    {state next : State Writer α}
    {action : Action Writer α}
    (isSealed : state.Sealed)
    (stepped : step? state action = some next)
    (absent : state.store.link .final = none) :
    next.store.link .final = none := by
  cases step_of_step? stepped with
  | touch fresh =>
      exact absurd fresh isSealed.started
  | openOutput found live unopened =>
      exact absurd unopened (isSealed.opened found live)
  | rename succeeded =>
      rw [state.store.rename_of_none isSealed.absent]
      exact absent
  | discard failed =>
      rw [state.store.link_unlink_other (by decide)]
      exact absent
  | removeTemporary =>
      rw [state.store.link_unlink_other (by decide)]
      exact absent
  | removeFinal =>
      simp
  | _ =>
      exact absent

/-! ## Results that survive -/

/--
The work of the current lock holder is intact: its output is still at the
temporary path, or has arrived at the final one.
-/
structure State.Intact (state : State Writer α) : Prop where
  running :
    ∀ {transfer record inode},
      state.stage = .running transfer →
      state.transfers transfer = some record →
      record.out = some inode →
      state.store.link .temporary = some inode
  succeeded :
    ∀ {transfer},
      state.stage = .succeeded transfer →
      ∃ record inode,
        state.transfers transfer = some record ∧
          record.exit = some 0 ∧
          record.out = some inode ∧
          state.store.link .temporary = some inode
  moved :
    ∀ {transfer},
      state.stage = .moved transfer →
      ∃ record inode,
        state.transfers transfer = some record ∧
          record.exit = some 0 ∧
          record.out = some inode ∧
          state.store.link .final = some inode

/--
Removals that leave the current holder alone: the temporary path is not
removed once the transfer has opened it, nor the final path once it is the
holder's.
-/
structure Respectful
    (state : State Writer α)
    (action : Action Writer α) : Prop where
  temporary :
    action = .removeTemporary →
    (∀ {transfer record},
      state.stage = .running transfer →
      state.transfers transfer = some record →
      record.out = none) ∧
      ∀ transfer, state.stage ≠ .succeeded transfer
  final :
    action = .removeFinal →
    ∀ transfer, state.stage ≠ .moved transfer

omit [Inhabited α] in
/-- While a transfer runs, only its own output matters. -/
theorem State.Intact.of_running
    {next : State Writer α}
    {transfer : Nat}
    {record : Transfer Writer α}
    (running : next.stage = .running transfer)
    (found : next.transfers transfer = some record)
    (linked :
      ∀ inode,
        record.out = some inode →
        next.store.link .temporary = some inode) :
    next.Intact := by
  refine ⟨?_, by simp [running], by simp [running]⟩
  intro other otherRecord inode isRunning otherFound output
  cases running.symm.trans isRunning
  cases found.symm.trans otherFound
  exact linked inode output

/-- Respectful actions leave the holder's work intact. -/
theorem State.Intact.step
    {state next : State Writer α}
    {action : Action Writer α}
    (coherent : state.Coherent)
    (intact : state.Intact)
    (respectful : Respectful state action)
    (stepped : step? state action = some next) :
    next.Intact := by
  cases step_of_step? stepped with
  | acquire writer writing free =>
      cases writing <;> constructor <;> simp
  | touch fresh =>
      constructor <;> simp [fresh]
  | @launch writer transfer body held unused fresh =>
      exact
        .of_running rfl (Function.update_self _ _ _)
          fun inode output => (by cases output)
  | @openOutput transfer record found live unopened =>
      refine
        .of_running ((coherent.transfers found).live live)
          (Function.update_self _ _ _) ?_
      intro inode output
      cases output
      exact (state.store.openTruncate_spec .temporary).1
  | @write transfer count inode record found output live within =>
      have running := (coherent.transfers found).live live
      exact
        .of_running running (Function.update_self _ _ _)
          fun target isOutput => intact.running running found isOutput
  | @exit transfer code record found live complete =>
      have running := (coherent.transfers found).live live
      exact
        .of_running running (Function.update_self _ _ _)
          fun target isOutput => intact.running running found isOutput
  | @reap transfer code record running found exited =>
      by_cases success : code = 0
      · subst code
        obtain ⟨inode, output⟩ := Option.isSome_iff_exists.mp
          ((coherent.transfers found).finished exited).1
        have linked := intact.running running found output
        refine ⟨by simp, ?_, by simp⟩
        intro other isSucceeded
        simp only [↓reduceIte, Stage.succeeded.injEq] at isSucceeded
        subst other
        exact ⟨record, inode, found, exited, output, linked⟩
      · constructor <;> simp [success]
  | @rename transfer isSucceeded =>
      obtain ⟨record, inode, found, exited, output, linked⟩ :=
        intact.succeeded isSucceeded
      refine ⟨by simp, by simp, ?_⟩
      intro other moved
      simp only [Stage.moved.injEq] at moved
      subst other
      exact ⟨record, inode, found, exited, output,
        state.store.link_rename_target linked⟩
  | discard failed =>
      constructor <;> simp
  | release finished =>
      constructor <;> simp
  | removeTemporary =>
      obtain ⟨unopened, notSucceeded⟩ := respectful.temporary rfl
      refine ⟨?_, ?_, ?_⟩
      · intro transfer record inode running found output
        simp [unopened running found] at output
      · intro transfer succeeded
        exact absurd succeeded (notSucceeded transfer)
      · intro transfer moved
        obtain ⟨record, inode, found, exited, output, linked⟩ :=
          intact.moved moved
        refine ⟨record, inode, found, exited, output, ?_⟩
        rwa [state.store.link_unlink_other (by decide)]
  | removeFinal =>
      have notMoved := respectful.final rfl
      refine ⟨?_, ?_, ?_⟩
      · intro transfer record inode running found output
        rw [state.store.link_unlink_other (by decide)]
        exact intact.running running found output
      · intro transfer succeeded
        obtain ⟨record, inode, found, exited, output, linked⟩ :=
          intact.succeeded succeeded
        refine ⟨record, inode, found, exited, output, ?_⟩
        rwa [state.store.link_unlink_other (by decide)]
      · intro transfer moved
        exact absurd moved (notMoved transfer)

/-! ## Never older than the latest writer -/

/-- The final path, when it exists, is the work of the latest writer. -/
structure State.Current (state : State Writer α) : Prop where
  holder :
    state.stage ≠ .closed → state.holder = state.latest
  owner :
    ∀ {transfer record},
      state.stage = .running transfer ∨
        state.stage = .succeeded transfer →
      state.transfers transfer = some record →
      state.latest = some record.owner
  pending :
    state.stage ≠ .closed →
    (∀ transfer, state.stage ≠ .moved transfer) →
    state.store.link .final = none
  final :
    ∀ {inode},
      state.store.link .final = some inode →
      ∃ transfer record,
        state.transfers transfer = some record ∧
          record.exit = some 0 ∧
          record.out = some inode ∧
          state.latest = some record.owner

omit [Inhabited α] in
/-- The initial state has no final path. -/
theorem State.Current.start :
    (RenamePublish.start : State Writer α).Current := by
  constructor <;> simp [RenamePublish.start, InodeStore.empty]

/-- Writers only take the lock while the final path does not exist. -/
def ClearedFirst
    (state : State Writer α)
    (action : Action Writer α) : Prop :=
  ∀ writer,
    action = .acquire writer true →
    state.store.link .final = none

omit [Inhabited α] in
/-- The progress of a running transfer leaves the final path alone. -/
theorem State.Current.replaced
    {state : State Writer α}
    {transfer : Nat}
    {record replacement : Transfer Writer α}
    {store : InodeStore FilePath α}
    (current : state.Current)
    (running : state.stage = .running transfer)
    (found : state.transfers transfer = some record)
    (sameOwner : replacement.owner = record.owner)
    (sameFinal : store.link .final = state.store.link .final) :
    State.Current
      { state.setTransfer transfer replacement with store := store } := by
  have absent : store.link .final = none :=
    sameFinal.trans
      (current.pending (by simp [running]) (by simp [running]))
  refine ⟨current.holder, ?_, fun _ _ => absent, ?_⟩
  · intro other otherRecord stage otherFound
    rcases update_eq_some_iff.mp otherFound with
        ⟨rfl, rfl⟩ | ⟨-, earlier⟩
    · exact (current.owner (.inl running) found).trans
        (congrArg some sameOwner.symm)
    · exact current.owner stage earlier
  · intro inode linked
    cases absent.symm.trans linked

/-- Under that condition the final path stays that of the latest writer. -/
theorem State.Current.step
    {state next : State Writer α}
    {action : Action Writer α}
    (coherent : state.Coherent)
    (current : state.Current)
    (cleared : ClearedFirst state action)
    (stepped : step? state action = some next) :
    next.Current := by
  -- A final path that was already there keeps its transfer.
  have finalKept :
      ∀ {inode},
        state.store.link .final = some inode →
        next.latest = state.latest →
        ∃ transfer record,
          next.transfers transfer = some record ∧
            record.exit = some 0 ∧
            record.out = some inode ∧
            next.latest = some record.owner := by
    intro inode linked sameLatest
    obtain ⟨transfer, record, found, exited, output, latest⟩ :=
      current.final linked
    exact ⟨transfer, record,
      step_transfer_exited stepped found (by simp [exited]),
      exited, output, sameLatest.trans latest⟩
  cases step_of_step? stepped with
  | acquire writer writing free =>
      have closed := coherent.unheld free
      cases writing with
      | true =>
          have absent := cleared writer rfl
          exact ⟨by simp, by simp, by simp [absent],
            by simp [absent]⟩
      | false =>
          exact ⟨by simp, by simp, by simp,
            fun linked => finalKept linked rfl⟩
  | touch fresh =>
      have sameFinal :=
        (state.store.touch_spec .temporary).2.1 .final (by decide)
      refine ⟨current.holder, current.owner, ?_, ?_⟩
      · intro notClosed notMoved
        exact sameFinal.trans (current.pending notClosed notMoved)
      · intro inode linked
        exact current.final (sameFinal.symm.trans linked)
  | @launch writer transfer body held unused fresh =>
      have absent := current.pending (by simp [fresh]) (by simp [fresh])
      have latest := current.holder (by simp [fresh])
      refine ⟨fun _ => latest, ?_, fun _ _ => absent, ?_⟩
      · intro other record isRunning found
        simp only [Stage.running.injEq, reduceCtorEq,
          or_false] at isRunning
        subst other
        simp only [State.setTransfer, Function.update_self,
          Option.some.injEq] at found
        subst record
        exact latest.symm.trans held
      · intro inode linked
        simp [State.setTransfer, absent] at linked
  | @openOutput transfer record found live unopened =>
      have running := (coherent.transfers found).live live
      have sameFinal :=
        (state.store.openTruncate_spec .temporary).2.2.2.2.1
          .final (by decide)
      exact current.replaced running found rfl sameFinal
  | @write transfer count inode record found output live within =>
      have running := (coherent.transfers found).live live
      exact current.replaced running found rfl rfl
  | @exit transfer code record found live complete =>
      have running := (coherent.transfers found).live live
      exact current.replaced running found rfl rfl
  | @reap transfer code record running found exited =>
      have absent :=
        current.pending (by simp [running]) (by simp [running])
      have latest := current.holder (by simp [running])
      refine ⟨fun _ => latest, ?_, fun _ _ => absent, current.final⟩
      intro other otherRecord stage otherFound
      refine current.owner (.inl ?_) otherFound
      rcases stage with isRunning | isSucceeded
      · split at isRunning <;> cases isRunning
      · split at isSucceeded
        · cases isSucceeded
          exact running
        · cases isSucceeded
  | @rename transfer isSucceeded =>
      have absent :=
        current.pending (by simp [isSucceeded]) (by simp [isSucceeded])
      have latest := current.holder (by simp [isSucceeded])
      refine ⟨fun _ => latest, by simp, by simp, ?_⟩
      intro inode linked
      cases shape : state.store.link .temporary with
      | none =>
          rw [state.store.rename_of_none shape, absent] at linked
          cases linked
      | some output =>
          rw [state.store.link_rename_target shape] at linked
          cases linked
          have allowed := coherent.temporary shape
          rw [isSucceeded] at allowed
          obtain ⟨record, found, exited, isOutput⟩ := allowed
          exact ⟨transfer, record, found, exited, isOutput,
            current.owner (.inr isSucceeded) found⟩
  | discard failed =>
      refine ⟨by simp, by simp, by simp, ?_⟩
      intro inode linked
      exact current.final (state.store.link_of_unlink linked)
  | release finished =>
      exact ⟨by simp, by simp, by simp, current.final⟩
  | removeTemporary =>
      refine ⟨current.holder, current.owner, ?_, ?_⟩
      · intro notClosed notMoved
        rw [state.store.link_unlink_other (by decide)]
        exact current.pending notClosed notMoved
      · intro inode linked
        exact current.final (state.store.link_of_unlink linked)
  | removeFinal =>
      refine ⟨current.holder, current.owner, by simp, ?_⟩
      intro inode linked
      exact current.final (state.store.link_of_unlink linked)

end RecomputerGateway.RenamePublish
