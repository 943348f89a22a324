import RecomputerGateway.ForwarderSockets

namespace RecomputerGateway.Forwarder

/-!
# The hand-off of the sockets

A worker works between a successful test of its ready flag and the moment when
it clears the flag; the manager works on a side while the flag of that side is
false.  So neither needs the mutex to keep away from the other.  What the two
sides share is the numbers of the descriptors: a pass that ends in a temporary
failure of `getaddrinfo` leaves the closed number in the variable, and the
next pass over that side closes the number again.
-/

/-- The variable of a side holds a socket in the given phase. -/
def Holds (state : State) (side : Side) (isConnected : Bool) : Prop :=
  ∃ number,
    (state.link side).sock = some number ∧
      state.table.file? number = some (.socket side isConnected)

/-- The worker of a side is in a call on its socket. -/
def InCall (state : State) (side : Side) : Prop :=
  ∃ call, state.workerPc side = .calling call

/-- The manager is about to pass this number to `close`. -/
def Closes (state : State) (number : Nat) : Prop :=
  ∃ side,
    state.managerPc = .close side ∧ 0 < (state.link side).counter ∧
      (state.link side).sock = some number

/-- The hand-off of the sockets between the manager and their owners. -/
structure HandOff (state : State) : Prop where
  ready :
    ∀ side, (state.link side).readySig = true → Holds state side true
  call :
    ∀ side, InCall state side → Holds state side true
  close :
    ∀ number,
      Closes state number →
        ∀ side, InCall state side → (state.link side).sock ≠ some number

/--
A socket that is opened gets a number that the variable of the other side does
not hold from an earlier success.
-/
def NumbersDiffer (state : State) : Event → Prop
  | .manager (.socket (some number)) =>
      ∀ side results,
        state.managerPc = .socket side results →
          ∀ other,
            other ≠ side →
              0 < (state.link other).counter →
                (state.link other).sock ≠ some number
  | _ => True

/-- What carries the hand-off along a run. -/
structure HandOffInvariant (state : State) : Prop where
  uses :
    ∀ side,
      (state.workerPc side).uses = true →
        (state.link side).readySig = true
  ready :
    ∀ side, (state.link side).readySig = true → Holds state side true
  works :
    ∀ side,
      state.managerPc.worksOn side = true →
        (state.link side).readySig = false
  connecting :
    ∀ side, state.managerPc = .connect side → Holds state side false
  configuring :
    ∀ side,
      state.managerPc = .setsockopt side ∨
          state.managerPc = .setReady side →
        Holds state side true
  /-- A number that is held from an earlier success is no other open socket. -/
  apart :
    ∀ side other isConnected number,
      other ≠ side →
        0 < (state.link other).counter →
          state.table.file? number = some (.socket side isConnected) →
            (state.link side).sock = some number →
              (state.link other).sock ≠ some number

namespace HandOffInvariant

variable {state next : State}

theorem initial
    (isInitial : Initial state) :
    HandOffInvariant state where
  uses side isUsing := by
    rw [isInitial.workerPc side] at isUsing
    contradiction
  ready side isReady := by
    rw [isInitial.readySig side] at isReady
    contradiction
  works side isWorking := isInitial.readySig side
  connecting side atPc := by
    rw [isInitial.managerPc] at atPc
    contradiction
  configuring side atPc := by
    simp [isInitial.managerPc] at atPc
  apart side other isConnected number _ counted := by
    simp [isInitial.counter other] at counted

/-- The invariant gives the hand-off. -/
theorem handOff
    (invariant : HandOffInvariant state) :
    HandOff state where
  ready := invariant.ready
  call side inCall := by
    obtain ⟨call, atCall⟩ := inCall
    exact invariant.ready side (invariant.uses side (by rw [atCall]; rfl))
  close number closes side inCall held := by
    obtain ⟨closing, atClose, counted, isSock⟩ := closes
    obtain ⟨call, atCall⟩ := inCall
    have isReady := invariant.uses side (by rw [atCall]; rfl)
    by_cases same : closing = side
    · subst same
      have notReady := invariant.works closing (by simp [atClose, ManagerPc.worksOn])
      rw [isReady] at notReady
      contradiction
    · obtain ⟨other, isOther, isOpen⟩ := invariant.ready side isReady
      cases isOther.symm.trans held
      exact invariant.apart side closing true number same counted isOpen held
        isSock

/-- A worker keeps the invariant. -/
theorem worker
    (invariant : HandOffInvariant state)
    {side : Side}
    (moves : WorkerMoves state side next) :
    HandOffInvariant next := by
  have holds_iff
      (query : Side)
      (isConnected : Bool) :
      Holds next query isConnected ↔ Holds state query isConnected := by
    simp only [Holds, moves.sock, moves.table]
  constructor
  · intro query isUsing
    by_cases same : query = side
    · subst same
      obtain ⟨kept, before⟩ := moves.uses isUsing
      rw [kept]
      exact before.elim (invariant.uses query) id
    · rw [moves.workerPc query same] at isUsing
      rw [moves.readySig_of_ne query same]
      exact invariant.uses query isUsing
  · intro query isReady
    rw [holds_iff]
    exact invariant.ready query (moves.readySig query isReady)
  · intro query isWorking
    rw [moves.managerPc] at isWorking
    have notReady := invariant.works query isWorking
    by_contra isReady
    rw [Bool.not_eq_false] at isReady
    rw [moves.readySig query isReady] at notReady
    contradiction
  · intro query atPc
    rw [moves.managerPc] at atPc
    rw [holds_iff]
    exact invariant.connecting query atPc
  · intro query atPc
    rw [moves.managerPc] at atPc
    rw [holds_iff]
    exact invariant.configuring query atPc
  · intro query other isConnected number differs counted isOpen held
    rw [moves.counter] at counted
    rw [moves.table] at isOpen
    rw [moves.sock] at held ⊢
    exact invariant.apart query other isConnected number differs counted
      isOpen held

/-- A step that changes neither links nor workers nor the manager's sockets. -/
theorem sameSockets
    (invariant : HandOffInvariant state)
    (same : SameSockets state next)
    (link : next.link = state.link)
    (workerPc : next.workerPc = state.workerPc)
    (managerPc : next.managerPc = state.managerPc) :
    HandOffInvariant next := by
  have holds
      {side : Side}
      {isConnected : Bool}
      (before : Holds state side isConnected) :
      Holds next side isConnected := by
    obtain ⟨number, isSock, isOpen⟩ := before
    exact ⟨number, by rw [link, isSock], (same ..).mpr isOpen⟩
  constructor
  · rw [link, workerPc]
    exact invariant.uses
  · rw [link]
    exact fun side isReady => holds (invariant.ready side isReady)
  · rw [link, managerPc]
    exact invariant.works
  · rw [managerPc]
    exact fun side atPc => holds (invariant.connecting side atPc)
  · rw [managerPc]
    exact fun side atPc => holds (invariant.configuring side atPc)
  · rw [link]
    intro side other isConnected number differs counted isOpen
    exact invariant.apart side other isConnected number differs counted
      ((same ..).mp isOpen)

/-- The manager goes on to a place that asks for nothing new. -/
theorem goesTo
    (invariant : HandOffInvariant state)
    {pc : ManagerPc}
    (link : ∀ side,
      (next.link side).sock = (state.link side).sock ∧
        (next.link side).readySig = (state.link side).readySig ∧
          (next.link side).counter = (state.link side).counter)
    (workerPc : next.workerPc = state.workerPc)
    (table : next.table = state.table)
    (managerPc : next.managerPc = pc)
    (works :
      ∀ side,
        pc.worksOn side = true → (state.link side).readySig = false)
    (notConnecting : ∀ side, pc ≠ .connect side)
    (configuring :
      ∀ side,
        pc = .setsockopt side ∨ pc = .setReady side →
          Holds state side true) :
    HandOffInvariant next := by
  have holds_iff
      (side : Side)
      (isConnected : Bool) :
      Holds next side isConnected ↔ Holds state side isConnected := by
    simp only [Holds, (link side).1, table]
  constructor
  · intro side
    rw [workerPc, (link side).2.1]
    exact invariant.uses side
  · intro side
    rw [(link side).2.1, holds_iff]
    exact invariant.ready side
  · intro side
    rw [managerPc, (link side).2.1]
    exact works side
  · intro side atPc
    exact absurd (managerPc.symm.trans atPc) (notConnecting side)
  · intro side
    rw [managerPc, holds_iff]
    exact configuring side
  · intro side other isConnected number
    rw [(link other).2.2, (link side).1, (link other).1, table]
    exact invariant.apart side other isConnected number

/-- Closing the socket of a side whose flag is false. -/
theorem closes
    (invariant : HandOffInvariant state)
    {side : Side}
    (atPc : state.managerPc = .close side)
    (counted : 0 < (state.link side).counter) :
    HandOffInvariant
      { closeSock state side with managerPc := .getaddrinfo side } := by
  have notReady : (state.link side).readySig = false :=
    invariant.works side (by simp [atPc, ManagerPc.worksOn])
  -- What is released is no socket that a variable of another side holds.
  have kept
      {number : Nat}
      {file : File}
      (isOpen : (closeSock state side).table.file? number = some file) :
      state.table.file? number = some file := by
    cases isSock : (state.link side).sock with
    | none =>
        simpa [closeSock, isSock] using isOpen
    | some closed =>
        simp only [closeSock, isSock] at isOpen
        by_cases same : number = closed
        · simp [same] at isOpen
        · rwa [state.table.file?_release_of_ne same] at isOpen
  constructor
  · exact invariant.uses
  · intro query isReady
    have differs : side ≠ query := by
      rintro rfl
      exact Bool.noConfusion (notReady.symm.trans isReady)
    obtain ⟨number, held, isOpen⟩ := invariant.ready query isReady
    refine ⟨number, held, ?_⟩
    have other := invariant.apart query side true number differs counted
      isOpen held
    cases isSock : (state.link side).sock with
    | none =>
        simpa [closeSock, isSock] using isOpen
    | some closed =>
        have notClosed : number ≠ closed := by
          rintro rfl
          exact other isSock
        simpa [closeSock, isSock,
          state.table.file?_release_of_ne notClosed] using isOpen
  · intro query isWorking
    have same : side = query := by
      simpa [ManagerPc.worksOn] using isWorking
    rw [← same]
    exact notReady
  · intro query atConnect
    contradiction
  · intro query atPc
    simp at atPc
  · intro query other isConnected number differs otherCounted isOpen
    exact invariant.apart query other isConnected number differs otherCounted
      (kept isOpen)

/-- Writing the variable of a side whose flag is false leaves the ready ones. -/
theorem ready_setSock
    (invariant : HandOffInvariant state)
    {side query : Side}
    (notReady : (state.link side).readySig = false)
    (isReady : (state.link query).readySig = true)
    (sock : Option Nat) :
    Holds (state.setSock side sock) query true := by
  have differs : query ≠ side := by
    rintro rfl
    exact Bool.noConfusion (notReady.symm.trans isReady)
  obtain ⟨held, isHeld, isOpen⟩ := invariant.ready query isReady
  refine ⟨held, ?_, isOpen⟩
  simpa [State.setSock, state.link_setLink_of_ne _ differs] using isHeld

/-- `socket` fails: the variable of a side whose flag is false becomes -1. -/
theorem socketFails
    (invariant : HandOffInvariant state)
    {side : Side}
    {results : Nat}
    (atPc : state.managerPc = .socket side (results + 1)) :
    HandOffInvariant
      { state.setSock side none with managerPc := .socket side results } := by
  have notReady : (state.link side).readySig = false :=
    invariant.works side (by simp [atPc, ManagerPc.worksOn])
  constructor
  · intro query isUsing
    simp only [State.readySig_setSock]
    exact invariant.uses query isUsing
  · intro query isReady
    simp only [State.readySig_setSock] at isReady
    exact invariant.ready_setSock notReady isReady none
  · intro query isWorking
    have same : side = query := by
      simpa [ManagerPc.worksOn] using isWorking
    simpa [← same] using notReady
  · intro query atConnect
    contradiction
  · intro query atOther
    simp at atOther
  · intro query other isConnected number differs counted isOpen held
    simp only [State.counter_setSock] at counted
    have notCleared : query ≠ side := by
      rintro rfl
      simp [State.setSock] at held
    simp only [State.setSock, state.link_setLink_of_ne _ notCleared] at held
    by_cases same : other = side
    · subst same
      simp [State.setSock]
    · simp only [State.setSock, state.link_setLink_of_ne _ same]
      exact invariant.apart query other isConnected number differs counted
        isOpen held

/-- `socket` returns a number that the other variable does not hold. -/
theorem socketOpens
    (invariant : HandOffInvariant state)
    {side : Side}
    {results number : Nat}
    (atPc : state.managerPc = .socket side (results + 1))
    (free : state.table.file? number = none)
    (differ :
      ∀ other,
        other ≠ side →
          0 < (state.link other).counter →
            (state.link other).sock ≠ some number) :
    HandOffInvariant
      { state.setSock side (some number) with
        table := state.table.install number (.socket side false)
        calls := .socket number :: state.calls
        managerPc := .connect side } := by
  have notReady : (state.link side).readySig = false :=
    invariant.works side (by simp [atPc, ManagerPc.worksOn])
  constructor
  · intro query isUsing
    simp only [State.readySig_setSock]
    exact invariant.uses query isUsing
  · intro query isReady
    simp only [State.readySig_setSock] at isReady
    obtain ⟨held, isHeld, isOpen⟩ :=
      invariant.ready_setSock notReady isReady (some number)
    exact ⟨held, isHeld, state.table.file?_install_of_free _ free isOpen⟩
  · intro query isWorking
    have same : side = query := by
      simpa [ManagerPc.worksOn] using isWorking
    simpa [← same] using notReady
  · intro query atConnect
    cases atConnect
    exact ⟨number, by simp [State.setSock], by simp⟩
  · intro query atOther
    simp at atOther
  · intro query other isConnected opened differs counted isOpen held
    simp only [State.counter_setSock] at counted
    by_cases isNew : query = side
    · subst isNew
      simp only [State.setSock, State.link_setLink_self,
        Option.some.injEq] at held
      subst opened
      simpa [State.setSock, state.link_setLink_of_ne _ differs] using
        differ other differs counted
    · -- The other socket was open before, so the new number is another one.
      have notNew : opened ≠ number := by
        rintro rfl
        simp only [DescriptorTable.file?_install_self, Option.some.injEq,
          File.socket.injEq] at isOpen
        exact isNew isOpen.1.symm
      simp only [state.table.file?_install_of_ne _ notNew] at isOpen
      simp only [State.setSock, state.link_setLink_of_ne _ isNew] at held
      by_cases same : other = side
      · subst same
        simpa [State.setSock] using notNew.symm
      · simp only [State.setSock, state.link_setLink_of_ne _ same]
        exact invariant.apart query other isConnected opened differs counted
          isOpen held

/-- `connect` is successful. -/
theorem connects
    (invariant : HandOffInvariant state)
    {side : Side}
    (atPc : state.managerPc = .connect side) :
    HandOffInvariant (connected state side) := by
  obtain ⟨number, isSock, isOpen⟩ := invariant.connecting side atPc
  have notReady : (state.link side).readySig = false :=
    invariant.works side (by simp [atPc, ManagerPc.worksOn])
  have table :
      (connected state side).table =
        state.table.install number (.socket side true) := by
    simp [connected, isSock]
  constructor
  · exact invariant.uses
  · intro query isReady
    obtain ⟨held, isHeld, heldOpen⟩ := invariant.ready query isReady
    refine ⟨held, isHeld, ?_⟩
    have differs : held ≠ number := by
      rintro rfl
      simp [isOpen] at heldOpen
    rw [table, state.table.file?_install_of_ne _ differs, heldOpen]
  · intro query isWorking
    have same : side = query := by
      simpa [connected, ManagerPc.worksOn] using isWorking
    rw [← same]
    exact notReady
  · intro query atConnect
    contradiction
  · intro query atOther
    have same : side = query := by
      simpa [connected] using atOther
    exact ⟨number, by rw [← same]; exact isSock, by rw [table, ← same]; simp⟩
  · intro query other isConnected held differs counted heldOpen isHeld
    rw [table] at heldOpen
    by_cases same : held = number
    · -- The phase of this socket changes, and nothing else.
      subst same
      simp only [DescriptorTable.file?_install_self, Option.some.injEq,
        File.socket.injEq] at heldOpen
      obtain ⟨rfl, -⟩ := heldOpen
      exact invariant.apart side other false held differs counted isOpen
        isHeld
    · rw [state.table.file?_install_of_ne _ same] at heldOpen
      exact invariant.apart query other isConnected held differs counted
        heldOpen isHeld

/-- The flag of an open and connected socket is set. -/
theorem setsReady
    (invariant : HandOffInvariant state)
    {side : Side}
    (atPc : state.managerPc = .setReady side) :
    HandOffInvariant
      { state.setReady side with managerPc := .unlock side false } := by
  have isOpen := invariant.configuring side (.inr atPc)
  have link_of_ne
      {query : Side}
      (differs : query ≠ side) :
      (state.setReady side).link query = state.link query :=
    state.link_setLink_of_ne _ differs
  constructor
  · intro query isUsing
    by_cases same : query = side
    · subst same
      simp [State.setReady]
    · simp only [link_of_ne same]
      exact invariant.uses query isUsing
  · intro query isReady
    suffices before : Holds state query true by
      obtain ⟨number, held, numberOpen⟩ := before
      exact ⟨number, by simpa using held, numberOpen⟩
    by_cases same : query = side
    · rw [same]
      exact isOpen
    · simp only [link_of_ne same] at isReady
      exact invariant.ready query isReady
  · intro query isWorking
    contradiction
  · intro query atConnect
    contradiction
  · intro query atOther
    simp at atOther
  · intro query other isConnected number differs counted numberOpen held
    simp only [State.sock_setReady] at held ⊢
    by_cases same : other = side
    · -- Two open sockets have different numbers.
      subst same
      obtain ⟨own, isOwn, ownOpen⟩ := isOpen
      rw [isOwn]
      rintro ⟨⟩
      cases numberOpen.symm.trans ownOpen
      exact differs rfl
    · simp only [link_of_ne same] at counted
      exact invariant.apart query other isConnected number differs counted
        numberOpen held

/-- The manager keeps the invariant while the numbers differ. -/
theorem manager
    (invariant : HandOffInvariant state)
    {answer : ManagerAnswer}
    (allowed : NumbersDiffer state (.manager answer))
    (moves : ManagerMoves state answer next) :
    HandOffInvariant next := by
  cases moves with
  | top atPc =>
      refine invariant.goesTo (fun _ => ⟨rfl, rfl, rfl⟩) rfl rfl rfl ?_ ?_ ?_ <;>
        split <;> simp [ManagerPc.worksOn]
  | isReady side atPc ready =>
      refine invariant.goesTo (fun _ => ⟨rfl, rfl, rfl⟩) rfl rfl rfl ?_ ?_ ?_ <;>
        split <;> simp [ManagerPc.worksOn]
  | notReady side atPc notReady =>
      refine invariant.goesTo (fun _ => ⟨rfl, rfl, rfl⟩) rfl rfl rfl
        (fun query isWorking => ?_) (by simp) (by simp)
      have same : side = query := by
        simpa [ManagerPc.worksOn] using isWorking
      rw [← same, notReady]
  | lock side atPc =>
      refine invariant.goesTo (fun _ => by simp) rfl rfl rfl
        (fun query isWorking => invariant.works query ?_) (by simp) (by simp)
      simpa [atPc, ManagerPc.worksOn] using isWorking
  | close side atPc counted =>
      exact invariant.closes atPc counted
  | keep side atPc uncounted =>
      refine invariant.goesTo (fun _ => ⟨rfl, rfl, rfl⟩) rfl rfl rfl
        (fun query isWorking => invariant.works query ?_) (by simp) (by simp)
      simpa [atPc, ManagerPc.worksOn] using isWorking
  | addresses side results atPc =>
      refine invariant.goesTo (fun _ => ⟨rfl, rfl, rfl⟩) rfl rfl rfl
        (fun query isWorking => invariant.works query ?_) (by simp) (by simp)
      simpa [atPc, ManagerPc.worksOn] using isWorking
  | temporary side atPc =>
      exact invariant.goesTo (fun _ => ⟨rfl, rfl, rfl⟩) rfl rfl rfl
        (by simp [ManagerPc.worksOn]) (by simp) (by simp)
  | givesUp answer side noSocket =>
      have managerPc :
          (giveUp state side).managerPc = .unlock side true :=
        rfl
      exact invariant.goesTo (fun _ => ⟨rfl, rfl, rfl⟩) rfl rfl managerPc
        (by simp [ManagerPc.worksOn]) (by simp) (by simp)
  | socketFails side results atPc =>
      exact invariant.socketFails atPc
  | socketOpens side results number atPc lowest =>
      exact invariant.socketOpens atPc lowest.1
        (allowed side (results + 1) atPc)
  | connects side atPc =>
      exact invariant.connects atPc
  | configures side atPc =>
      refine invariant.goesTo (fun _ => ⟨rfl, rfl, rfl⟩) rfl rfl rfl
        (fun query isWorking => invariant.works query ?_) (by simp)
        (fun query atPlace => invariant.configuring query ?_)
      · simpa [atPc, ManagerPc.worksOn] using isWorking
      · simpa [atPc] using atPlace
  | setReady side atPc =>
      exact invariant.setsReady atPc
  | unlock side ends atPc =>
      refine invariant.goesTo (fun _ => by simp) rfl rfl rfl ?_ ?_ ?_ <;>
        split <;> simp [ManagerPc.worksOn]

/-- Every step keeps the invariant while the numbers differ. -/
theorem step
    {event : Event}
    (invariant : HandOffInvariant state)
    (allowed : NumbersDiffer state event)
    (stepped : step? state event = some next) :
    HandOffInvariant next := by
  rcases step?_cases stepped with
    ⟨side, choice, rfl, moves⟩ | ⟨answer, rfl, moves⟩ | moves
  · exact invariant.worker moves
  · exact invariant.manager allowed moves
  · exact invariant.sameSockets moves.sameSockets moves.link moves.workerPc
      moves.managerPc

end HandOffInvariant

/-! ## Pieces of runs -/

/-- The standard streams are open, and the threads start. -/
def started : State where
  link _ :=
    { sock := some 0, readySig := false, mutex := none, counter := 0 }
  workerPc _ := .top
  managerPc := .top
  table := { file? := fun number => if number < 3 then some .foreign else none }
  exitSig := false
  quitSig := false
  calls := []

theorem initial_started : Initial started where
  readySig _ := rfl
  mutex _ := rfl
  counter _ := rfl
  workerPc _ := rfl
  managerPc := rfl
  table number side isConnected := by
    by_cases isStandard : number < 3 <;> simp [started, isStandard]
  calls := rfl

/-- The manager passes the tests in front of a side and closes what it has. -/
def closing : Side → List Event
  | .up => List.replicate 4 (.manager .go)
  | .down => List.replicate 5 (.manager .go)

/-- The manager opens a socket with this number and sets the flag. -/
def opening (number : Nat) : List Event :=
  [.manager (.addresses 1), .manager (.socket (some number)),
    .manager (.returns true), .manager (.returns true), .manager .go,
    .manager .go]

/-- `thread_up` starts to send. -/
def pushing : List Event :=
  [.worker .up .go, .worker .up .go, .worker .up .go]

/-- `thread_up` fails to send. -/
def pushFails : List Event :=
  pushing ++
    [.worker .up (.result .error), .worker .up (.acknowledged false),
      .worker .up .go]

/-- `thread_down` fails to send its request. -/
def pullFails : List Event :=
  [.worker .down .go, .worker .down .go, .worker .down (.threshold false),
    .worker .down .go, .worker .down (.result .error),
    .worker .down (.acknowledged false), .worker .down .go]

/-- An executable test that is enough for `NumbersDiffer`. -/
def checksNumbers (state : State) : Event → Bool
  | .manager (.socket (some number)) =>
      [Side.up, Side.down].all fun other =>
        (state.link other).counter = 0 || (state.link other).sock ≠ some number
  | _ => true

theorem checksNumbers_sound
    (state : State)
    (event : Event)
    (checked : checksNumbers state event = true) :
    NumbersDiffer state event := by
  unfold checksNumbers at checked
  split at checked
  · intro side results _ other _ counted
    simp only [List.all_cons, List.all_nil, Bool.and_true, Bool.and_eq_true,
      Bool.or_eq_true, decide_eq_true_eq] at checked
    cases other with
    | up =>
        exact checked.1.resolve_left (Nat.ne_of_gt counted)
    | down =>
        exact checked.2.resolve_left (Nat.ne_of_gt counted)
  · case h_2 notSocket =>
    unfold NumbersDiffer
    split
    · exact (notSocket _ rfl).elim
    · trivial

/--
In every run in which a socket that is opened never gets the number that the
other variable still holds, the hand-off holds in every state.
-/
theorem handOff_of_numbersDiffer
    {state : State}
    (reachable : threads.GuardedReachable NumbersDiffer state) :
    HandOff state := by
  have invariant : HandOffInvariant state :=
    reachable.invariant HandOffInvariant
      (fun _ isInitial => .initial isInitial)
      (fun _ _ _ _ invariant allowed stepped =>
        invariant.step allowed stepped)
  exact invariant.handOff

/-- A run that meets the condition, to a state in which `thread_up` sends. -/
theorem handOff_while_pushing :
    ∃ state,
      InCall state .up ∧ HandOff state := by
  have executed :
      (threads.runWhile? checksNumbers started
          (closing .up ++ opening 3 ++ closing .down ++ opening 4 ++
            pushing)).map
          (fun state => state.workerPc .up) =
        some (.calling .pushData) := by
    decide +kernel
  obtain ⟨state, accepted, inCall⟩ := Option.map_eq_some_iff.mp executed
  have run :=
    System.guardedRun_of_runWhile? NumbersDiffer checksNumbers_sound accepted
  exact
    ⟨state, ⟨_, inCall⟩,
      handOff_of_numbersDiffer ⟨started, _, initial_started, run⟩⟩

/--
`sock_up` gets 4 and `sock_down` first 5, then 3.  The name server fails while
`sock_down` is being replaced; `sock_up` is replaced in the meantime and gets 3.
-/
def aliasingRun : List Event :=
  .openForeign 3 :: closing .up ++ opening 4 ++ closing .down ++ opening 5 ++
    .closeForeign 3 :: pullFails ++ closing .down ++ opening 3 ++ pullFails ++
    closing .down ++ [.manager .temporary, .manager .go] ++ pushFails ++
    closing .up ++ opening 3 ++ pushing ++ closing .down

/-- `thread_up` sends on a number that the manager has closed. -/
theorem handOff_lost :
    ¬ ∀ state, threads.Reachable state → HandOff state := by
  intro always
  have executed :
      (threads.run? started aliasingRun).map
          (fun state =>
            (state.workerPc .up, (state.link .up).sock,
              state.table.file? 3)) =
        some (.calling .pushData, some 3, none) := by
    decide +kernel
  obtain ⟨state, reached, ends⟩ := Option.map_eq_some_iff.mp executed
  simp only [Prod.mk.injEq] at ends
  obtain ⟨inCall, isSock, isClosed⟩ := ends
  have run := System.run?_eq_some_iff.mp reached
  have handOff := always state ⟨started, aliasingRun, initial_started, run⟩
  obtain ⟨number, held, isOpen⟩ := handOff.call .up ⟨_, inCall⟩
  cases isSock.symm.trans held
  rw [isClosed] at isOpen
  contradiction

end RecomputerGateway.Forwarder
