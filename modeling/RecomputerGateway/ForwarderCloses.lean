import RecomputerGateway.ForwarderHandOff

namespace RecomputerGateway.Forwarder

/-!
# What the manager closes

The manager decides to close by a count of its past successes.  The count says
that the variable once held a socket; that it still does so is only true as
long as every pass that closes the socket also opens the next one.
-/

/-- Obtained from `socket` and not passed to `close` since. -/
def Owned : List ManagerCall → Nat → Prop
  | [], _ => False
  | .socket opened :: earlier, number =>
      opened = number ∨ Owned earlier number
  | .close sock :: earlier, number =>
      sock ≠ some number ∧ Owned earlier number

/-- Every call of `close` was about a number that the manager owned. -/
def ClosesOwned : List ManagerCall → Prop
  | [] => True
  | .socket _ :: earlier => ClosesOwned earlier
  | .close sock :: earlier =>
      (∃ number, sock = some number ∧ Owned earlier number) ∧
        ClosesOwned earlier

/-- A number that has just been closed is not closed again rightly. -/
theorem not_closesOwned_close_close
    (sock : Option Nat)
    (earlier : List ManagerCall) :
    ¬ ClosesOwned (.close sock :: .close sock :: earlier) := by
  rintro ⟨⟨number, isSock, differs, -⟩, -⟩
  exact differs isSock

/-- `getaddrinfo` does not fail temporarily in a pass that has closed. -/
def ResolvesAfterClose (state : State) : Event → Prop
  | .manager .temporary =>
      ∀ side,
        state.managerPc = .getaddrinfo side →
          (state.link side).counter = 0
  | _ => True

/-- In the pass over a side, behind the opening of its socket. -/
def ManagerPc.hasOpened : ManagerPc → Side → Prop
  | pc, side =>
      pc = .connect side ∨ pc = .setsockopt side ∨ pc = .setReady side

/--
A socket that has been counted is open: the manager is neither between the
closing and the next opening, nor about to end.
-/
def ManagerPc.keeps : ManagerPc → Side → Prop
  | .top, _ => True
  | .testReady _, _ => True
  | .lock _, _ => True
  | .close _, _ => True
  | .getaddrinfo side, query => side ≠ query
  | .socket side _, query => side ≠ query
  | .connect _, _ => True
  | .setsockopt _, _ => True
  | .setReady _, _ => True
  | .unlock _ ends, _ => ends = false
  | .ended, _ => False

/-- The variable of a side holds an open socket of this side. -/
def HoldsOpen (state : State) (side : Side) : Prop :=
  ∃ isConnected, Holds state side isConnected

/-- What carries the ownership of the closed numbers along a run. -/
structure ClosesInvariant (state : State) : Prop where
  calls : ClosesOwned state.calls
  owned :
    ∀ number side isConnected,
      state.table.file? number = some (.socket side isConnected) →
        Owned state.calls number
  opened :
    ∀ side, state.managerPc.hasOpened side → HoldsOpen state side
  counted :
    ∀ side,
      0 < (state.link side).counter →
        state.managerPc.keeps side →
          HoldsOpen state side

namespace ClosesInvariant

variable {state next : State}

theorem initial
    (isInitial : Initial state) :
    ClosesInvariant state where
  calls := by
    rw [isInitial.calls]
    trivial
  owned number side isConnected isOpen :=
    absurd isOpen (isInitial.table number side isConnected)
  opened side hasOpened := by
    simp [isInitial.managerPc, ManagerPc.hasOpened] at hasOpened
  counted side isCounted := by
    simp [isInitial.counter side] at isCounted

/-- A step that leaves the variables, the counters and the calls alone. -/
theorem goesTo
    (invariant : ClosesInvariant state)
    (sock :
      ∀ side, (next.link side).sock = (state.link side).sock)
    (same : SameSockets state next)
    (calls : next.calls = state.calls)
    (opened :
      ∀ side,
        next.managerPc.hasOpened side → state.managerPc.hasOpened side)
    (counted :
      ∀ side,
        0 < (next.link side).counter →
          next.managerPc.keeps side →
            HoldsOpen state side) :
    ClosesInvariant next := by
  have holdsOpen
      {side : Side}
      (before : HoldsOpen state side) :
      HoldsOpen next side := by
    obtain ⟨isConnected, number, held, isOpen⟩ := before
    exact ⟨isConnected, number, by rw [sock, held], (same ..).mpr isOpen⟩
  constructor
  · rw [calls]
    exact invariant.calls
  · rw [calls]
    intro number side isConnected isOpen
    exact invariant.owned number side isConnected ((same ..).mp isOpen)
  · intro side hasOpened
    exact holdsOpen (invariant.opened side (opened side hasOpened))
  · intro side isCounted keeps
    exact holdsOpen (counted side isCounted keeps)

/-- The manager goes to a place that expects no more than the place before. -/
theorem managerGoesTo
    (invariant : ClosesInvariant state)
    (link :
      ∀ side,
        (next.link side).sock = (state.link side).sock ∧
          (next.link side).counter = (state.link side).counter)
    (table : next.table = state.table)
    (calls : next.calls = state.calls)
    (opened :
      ∀ side,
        next.managerPc.hasOpened side → state.managerPc.hasOpened side)
    (keeps :
      ∀ side,
        0 < (state.link side).counter →
          next.managerPc.keeps side → state.managerPc.keeps side) :
    ClosesInvariant next := by
  refine invariant.goesTo (fun side => (link side).1) ?_ calls opened ?_
  · intro number side isConnected
    rw [table]
  · intro side isCounted keepsNext
    rw [(link side).2] at isCounted
    exact invariant.counted side isCounted (keeps side isCounted keepsNext)

/-- A step of a worker or of other code of the process. -/
theorem other
    (invariant : ClosesInvariant state)
    (sock :
      ∀ side, (next.link side).sock = (state.link side).sock)
    (counter :
      ∀ side, (next.link side).counter = (state.link side).counter)
    (same : SameSockets state next)
    (calls : next.calls = state.calls)
    (managerPc : next.managerPc = state.managerPc) :
    ClosesInvariant next := by
  refine invariant.goesTo sock same calls ?_ ?_
  · intro side
    rw [managerPc]
    exact id
  · intro side
    rw [counter, managerPc]
    exact invariant.counted side

/-- The counted socket of a side is closed. -/
theorem closes
    (invariant : ClosesInvariant state)
    {side : Side}
    (atPc : state.managerPc = .close side)
    (counted : 0 < (state.link side).counter) :
    ClosesInvariant
      { closeSock state side with managerPc := .getaddrinfo side } := by
  obtain ⟨isConnected, closed, isSock, isOpen⟩ :=
    invariant.counted side counted (by rw [atPc]; trivial)
  have table :
      (closeSock state side).table = state.table.release closed := by
    simp [closeSock, isSock]
  constructor
  · exact ⟨⟨closed, isSock, invariant.owned closed side isConnected isOpen⟩,
      invariant.calls⟩
  · intro number query isConnected stillOpen
    simp only [table] at stillOpen
    have differs : number ≠ closed := by
      rintro rfl
      simp at stillOpen
    rw [state.table.file?_release_of_ne differs] at stillOpen
    refine ⟨?_, invariant.owned number query isConnected stillOpen⟩
    rw [isSock]
    simpa using differs.symm
  · intro query hasOpened
    simp [ManagerPc.hasOpened] at hasOpened
  · intro query queryCounted differs
    obtain ⟨queryConnected, number, held, queryOpen⟩ :=
      invariant.counted query queryCounted (by rw [atPc]; trivial)
    refine ⟨queryConnected, number, held, ?_⟩
    have notClosed : number ≠ closed := by
      rintro rfl
      cases isOpen.symm.trans queryOpen
      exact differs rfl
    simp only [table]
    rw [state.table.file?_release_of_ne notClosed, queryOpen]

/-- `socket` fails for one of the results. -/
theorem socketFails
    (invariant : ClosesInvariant state)
    {side : Side}
    {results : Nat}
    (atPc : state.managerPc = .socket side (results + 1)) :
    ClosesInvariant
      { state.setSock side none with managerPc := .socket side results } := by
  constructor
  · exact invariant.calls
  · exact invariant.owned
  · intro query hasOpened
    simp [ManagerPc.hasOpened] at hasOpened
  · intro query isCounted keeps
    simp only [State.counter_setSock] at isCounted
    have differs : query ≠ side := Ne.symm keeps
    obtain ⟨isConnected, number, held, isOpen⟩ :=
      invariant.counted query isCounted (by rw [atPc]; exact keeps)
    refine ⟨isConnected, number, ?_, isOpen⟩
    simpa [State.setSock, state.link_setLink_of_ne _ differs] using held

/-- `socket` returns a number, which the manager owns from now on. -/
theorem socketOpens
    (invariant : ClosesInvariant state)
    {side : Side}
    {results number : Nat}
    (atPc : state.managerPc = .socket side (results + 1))
    (free : state.table.file? number = none) :
    ClosesInvariant
      { state.setSock side (some number) with
        table := state.table.install number (.socket side false)
        calls := .socket number :: state.calls
        managerPc := .connect side } := by
  have ownOpen :
      HoldsOpen
        { state.setSock side (some number) with
          table := state.table.install number (.socket side false)
          calls := .socket number :: state.calls
          managerPc := .connect side }
        side :=
    ⟨false, number, by simp [State.setSock], by simp⟩
  constructor
  · exact invariant.calls
  · intro opened query isConnected isOpen
    by_cases same : opened = number
    · exact .inl same.symm
    · simp only [state.table.file?_install_of_ne _ same] at isOpen
      exact .inr (invariant.owned opened query isConnected isOpen)
  · intro query hasOpened
    have same : side = query := by
      simpa [ManagerPc.hasOpened] using hasOpened
    rw [← same]
    exact ownOpen
  · intro query isCounted _
    by_cases same : query = side
    · rw [same]
      exact ownOpen
    · simp only [State.counter_setSock] at isCounted
      obtain ⟨isConnected, held, isHeld, isOpen⟩ :=
        invariant.counted query isCounted
          (by rw [atPc]; exact Ne.symm same)
      refine ⟨isConnected, held, ?_,
        state.table.file?_install_of_free _ free isOpen⟩
      simpa [State.setSock, state.link_setLink_of_ne _ same] using isHeld

/-- `connect` changes the phase of an open socket. -/
theorem connects
    (invariant : ClosesInvariant state)
    {side : Side}
    (atPc : state.managerPc = .connect side) :
    ClosesInvariant (connected state side) := by
  obtain ⟨isConnected, number, isSock, isOpen⟩ :=
    invariant.opened side (.inl atPc)
  have table :
      (connected state side).table =
        state.table.install number (.socket side true) := by
    simp [connected, isSock]
  have ownOpen : HoldsOpen (connected state side) side :=
    ⟨true, number, isSock, by rw [table]; simp⟩
  constructor
  · exact invariant.calls
  · intro opened query queryConnected queryOpen
    rw [table] at queryOpen
    by_cases same : opened = number
    · rw [same]
      exact invariant.owned number side isConnected isOpen
    · rw [state.table.file?_install_of_ne _ same] at queryOpen
      exact invariant.owned opened query queryConnected queryOpen
  · intro query hasOpened
    have same : side = query := by
      simpa [connected, ManagerPc.hasOpened] using hasOpened
    rw [← same]
    exact ownOpen
  · intro query isCounted _
    by_cases same : query = side
    · rw [same]
      exact ownOpen
    · obtain ⟨queryConnected, held, isHeld, heldOpen⟩ :=
        invariant.counted query isCounted (by rw [atPc]; trivial)
      refine ⟨queryConnected, held, isHeld, ?_⟩
      have differs : held ≠ number := by
        rintro rfl
        cases isOpen.symm.trans heldOpen
        exact same rfl
      rw [table, state.table.file?_install_of_ne _ differs, heldOpen]

/-- The success is counted while the socket is open. -/
theorem setsReady
    (invariant : ClosesInvariant state)
    {side : Side}
    (atPc : state.managerPc = .setReady side) :
    ClosesInvariant
      { state.setReady side with managerPc := .unlock side false } := by
  refine invariant.goesTo (by simp) (fun _ _ _ => .rfl) rfl
    (by simp [ManagerPc.hasOpened]) ?_
  intro query isCounted _
  by_cases same : query = side
  · rw [same]
    exact invariant.opened side (.inr (.inr atPc))
  · refine invariant.counted query ?_ (by rw [atPc]; trivial)
    simpa [State.setReady, state.link_setLink_of_ne _ same] using isCounted

/-- The manager keeps the invariant while no pass ends behind its closing. -/
theorem manager
    (invariant : ClosesInvariant state)
    {answer : ManagerAnswer}
    (allowed : ResolvesAfterClose state (.manager answer))
    (moves : ManagerMoves state answer next) :
    ClosesInvariant next := by
  cases moves with
  | top atPc =>
      refine invariant.managerGoesTo (fun _ => ⟨rfl, rfl⟩) rfl rfl ?_
        fun _ _ _ => by rw [atPc]; trivial
      intro side
      split <;> simp [ManagerPc.hasOpened]
  | isReady side atPc ready =>
      refine invariant.managerGoesTo (fun _ => ⟨rfl, rfl⟩) rfl rfl ?_
        fun _ _ _ => by rw [atPc]; trivial
      intro query
      split <;> simp [ManagerPc.hasOpened]
  | notReady side atPc notReady =>
      exact invariant.managerGoesTo (fun _ => ⟨rfl, rfl⟩) rfl rfl
        (by simp [ManagerPc.hasOpened]) fun _ _ _ => by rw [atPc]; trivial
  | lock side atPc =>
      exact invariant.managerGoesTo (fun _ => by simp) rfl rfl
        (by simp [ManagerPc.hasOpened]) fun _ _ _ => by rw [atPc]; trivial
  | close side atPc counted =>
      exact invariant.closes atPc counted
  | keep side atPc uncounted =>
      exact invariant.managerGoesTo (fun _ => ⟨rfl, rfl⟩) rfl rfl
        (by simp [ManagerPc.hasOpened]) fun _ _ _ => by rw [atPc]; trivial
  | addresses side results atPc =>
      refine invariant.managerGoesTo (fun _ => ⟨rfl, rfl⟩) rfl rfl
        (by simp [ManagerPc.hasOpened]) ?_
      intro query _ keeps
      rw [atPc]
      exact keeps
  | temporary side atPc =>
      refine invariant.managerGoesTo (fun _ => ⟨rfl, rfl⟩) rfl rfl
        (by simp [ManagerPc.hasOpened]) ?_
      intro query isCounted _
      rw [atPc]
      rintro rfl
      rw [allowed side atPc] at isCounted
      contradiction
  | givesUp answer side noSocket =>
      exact invariant.managerGoesTo (fun _ => ⟨rfl, rfl⟩) rfl rfl
        (by simp [giveUp, ManagerPc.hasOpened])
        (by simp [giveUp, ManagerPc.keeps])
  | socketFails side results atPc =>
      exact invariant.socketFails atPc
  | socketOpens side results number atPc lowest =>
      exact invariant.socketOpens atPc lowest.1
  | connects side atPc =>
      exact invariant.connects atPc
  | configures side atPc =>
      refine invariant.managerGoesTo (fun _ => ⟨rfl, rfl⟩) rfl rfl ?_
        fun _ _ _ => by rw [atPc]; trivial
      intro query hasOpened
      rw [atPc]
      exact .inr (.inl (by simpa [ManagerPc.hasOpened] using hasOpened))
  | setReady side atPc =>
      exact invariant.setsReady atPc
  | unlock side ends atPc =>
      refine invariant.managerGoesTo (fun _ => by simp) rfl rfl ?_ ?_
      · intro query
        split <;> simp [ManagerPc.hasOpened]
      · intro query _ keeps
        rw [atPc]
        cases ends with
        | true =>
            exact keeps.elim
        | false =>
            rfl

/-- Every step keeps the invariant while no pass ends behind its closing. -/
theorem step
    {event : Event}
    (invariant : ClosesInvariant state)
    (allowed : ResolvesAfterClose state event)
    (stepped : step? state event = some next) :
    ClosesInvariant next := by
  rcases step?_cases stepped with
    ⟨side, choice, rfl, moves⟩ | ⟨answer, rfl, moves⟩ | moves
  · exact invariant.other moves.sock moves.counter
      (fun _ _ _ => by rw [moves.table]) moves.calls moves.managerPc
  · exact invariant.manager allowed moves
  · exact invariant.other (by simp [moves.link]) (by simp [moves.link])
      moves.sameSockets moves.calls moves.managerPc

/-- A free number is not in the variable of a socket that is open. -/
theorem numbersDiffer
    {event : Event}
    (invariant : ClosesInvariant state)
    (stepped : step? state event = some next) :
    NumbersDiffer state event := by
  unfold NumbersDiffer
  split
  case h_2 =>
    trivial
  case h_1 number =>
    intro side results atPc other differs counted held
    cases managerMoves_of_step? stepped with
    | givesUp answer gaveUp noSocket =>
        exact noSocket (some number) rfl
    | socketOpens opening remaining number atSocket lowest =>
        obtain ⟨isConnected, number, isHeld, isOpen⟩ :=
          invariant.counted other counted
            (by rw [atPc]; exact Ne.symm differs)
        cases held.symm.trans isHeld
        rw [lowest.1] at isOpen
        contradiction

end ClosesInvariant

/--
In every run in which `getaddrinfo` does not fail temporarily behind a
closing, the manager closes only what it owns.
-/
theorem closesOwned_of_resolvesAfterClose
    {state : State}
    (reachable : threads.GuardedReachable ResolvesAfterClose state) :
    ClosesOwned state.calls := by
  have invariant : ClosesInvariant state :=
    reachable.invariant ClosesInvariant
      (fun _ isInitial => .initial isInitial)
      (fun _ _ _ _ invariant allowed stepped =>
        invariant.step allowed stepped)
  exact invariant.calls

/-- Under the same condition the hand-off holds as well. -/
theorem handOff_of_resolvesAfterClose
    {state : State}
    (reachable : threads.GuardedReachable ResolvesAfterClose state) :
    HandOff state := by
  have invariants : ClosesInvariant state ∧ HandOffInvariant state :=
    reachable.invariant
      (fun current => ClosesInvariant current ∧ HandOffInvariant current)
      (fun _ isInitial => ⟨.initial isInitial, .initial isInitial⟩)
      (fun _ _ _ _ invariants allowed stepped =>
        ⟨invariants.1.step allowed stepped,
          invariants.2.step (invariants.1.numbersDiffer stepped) stepped⟩)
  exact invariants.2.handOff

/-- A run that meets the condition and replaces a socket. -/
theorem closesOwned_while_replacing :
    ∃ state : State,
      state.calls = [.socket 3, .close (some 3), .socket 4, .socket 3] ∧
        ClosesOwned state.calls := by
  have executed :
      (threads.runWhile? (fun _ event => event ≠ .manager .temporary) started
          (closing .up ++ opening 3 ++ closing .down ++ opening 4 ++
            pushFails ++ closing .up ++ opening 3)).map State.calls =
        some [.socket 3, .close (some 3), .socket 4, .socket 3] := by
    decide +kernel
  obtain ⟨state, accepted, calls⟩ := Option.map_eq_some_iff.mp executed
  have sound
      (state : State)
      (event : Event)
      (checked : decide (event ≠ .manager .temporary) = true) :
      ResolvesAfterClose state event := by
    unfold ResolvesAfterClose
    split
    · simp at checked
    · trivial
  have run := System.guardedRun_of_runWhile? ResolvesAfterClose sound accepted
  exact
    ⟨state, calls,
      closesOwned_of_resolvesAfterClose ⟨started, _, initial_started, run⟩⟩

/-- The name server fails after a closing, and another thread opens a file. -/
def retryRun : List Event :=
  closing .up ++ opening 3 ++ closing .down ++ opening 4 ++ pushFails ++
    closing .up ++ [.manager .temporary, .manager .go, .openForeign 3] ++
    List.replicate 3 (.manager .go)

/-- The manager closes the file that another thread has opened. -/
theorem closes_foreign :
    ∃ state next,
      threads.Reachable state ∧
        threads.step? state (.manager .go) = some next ∧
          state.table.file? 3 = some .foreign ∧
            next.table.file? 3 = none ∧ ¬ ClosesOwned next.calls := by
  have executed :
      (threads.run? started retryRun).map
          (fun state =>
            (state.table.file? 3,
              (threads.step? state (.manager .go)).map fun next =>
                (next.table.file? 3, next.calls.take 2))) =
        some (some .foreign,
          some (none, [.close (some 3), .close (some 3)])) := by
    decide +kernel
  obtain ⟨state, reached, ends⟩ := Option.map_eq_some_iff.mp executed
  simp only [Prod.mk.injEq] at ends
  obtain ⟨isForeign, steps⟩ := ends
  obtain ⟨next, stepped, after⟩ := Option.map_eq_some_iff.mp steps
  simp only [Prod.mk.injEq] at after
  obtain ⟨isClosed, lastCalls⟩ := after
  have run := System.run?_eq_some_iff.mp reached
  refine
    ⟨state, next, ⟨started, retryRun, initial_started, run⟩, stepped,
      isForeign, isClosed, ?_⟩
  have calls := List.take_append_drop 2 next.calls
  rw [lastCalls] at calls
  rw [← calls]
  exact not_closesOwned_close_close (some 3) _

/-! ## The condition is the cause -/

/-- Behind a closing the last call was that closing. -/
def LastCloses (state : State) : Prop :=
  ∀ side,
    state.managerPc = .getaddrinfo side →
      0 < (state.link side).counter →
        ∃ earlier, state.calls = .close (state.link side).sock :: earlier

theorem lastCloses_step
    {state next : State}
    {event : Event}
    (holds : LastCloses state)
    (stepped : step? state event = some next) :
    LastCloses next := by
  intro side atPc counted
  rcases step?_cases stepped with
    ⟨owner, choice, rfl, moves⟩ | ⟨answer, rfl, moves⟩ | moves
  · rw [moves.managerPc] at atPc
    rw [moves.counter] at counted
    rw [moves.calls, moves.sock]
    exact holds side atPc counted
  · cases moves with
    | top atTop =>
        dsimp only at atPc
        split at atPc <;> contradiction
    | isReady query atTest ready =>
        dsimp only at atPc
        split at atPc <;> contradiction
    | close query atClose counted =>
        cases atPc
        exact ⟨state.calls, rfl⟩
    | keep query atClose uncounted =>
        cases atPc
        contradiction
    | unlock query ends atUnlock =>
        dsimp only at atPc
        split at atPc <;> contradiction
    | _ =>
        contradiction
  · rw [moves.managerPc] at atPc
    rw [moves.link] at counted ⊢
    rw [moves.calls]
    exact holds side atPc counted

/--
Every temporary failure behind a closing lets the next pass over the side, if
the manager is not told to end before, close the same number again.
-/
theorem closes_again_of_temporary
    {state : State}
    {side : Side}
    (reachable : threads.Reachable state)
    (atPc : state.managerPc = .getaddrinfo side)
    (counted : 0 < (state.link side).counter)
    (notReady : (state.link side).readySig = false)
    (upReady : side = .down → (state.link .up).readySig = true)
    (goesOn : state.stops = false) :
    ∃ next,
      threads.Run state
          (.manager .temporary :: .manager .go :: closing side) next ∧
        ¬ ClosesOwned next.calls := by
  have lastCloses : LastCloses state :=
    reachable.invariant LastCloses
      (fun _ isInitial side atStart _ => by
        rw [isInitial.managerPc] at atStart
        contradiction)
      (fun _ _ _ _ holds _ stepped => lastCloses_step holds stepped)
  obtain ⟨earlier, calls⟩ := lastCloses side atPc counted
  have executed :
      ∃ next,
        threads.run? state
            (.manager .temporary :: .manager .go :: closing side) =
          some next ∧
        next.calls =
          .close (state.link side).sock ::
            .close (state.link side).sock :: earlier := by
    simp only [State.stops, Bool.or_eq_false_iff] at goesOn
    cases side with
    | up =>
        simp [System.run?, threads, step?, managerStep?, closing, atPc,
          State.stops, goesOn, notReady, counted, closeSock, State.setMutex,
          State.setLink, calls]
    | down =>
        simp [System.run?, threads, step?, managerStep?, closing, atPc,
          State.stops, goesOn, notReady, upReady, counted, closeSock,
          State.setMutex, State.setLink, calls]
  obtain ⟨next, executed, nextCalls⟩ := executed
  refine ⟨next, System.run?_eq_some_iff.mp executed, ?_⟩
  rw [nextCalls]
  exact not_closesOwned_close_close _ earlier

end RecomputerGateway.Forwarder
