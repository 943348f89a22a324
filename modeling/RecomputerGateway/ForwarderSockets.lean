import RecomputerGateway.DescriptorTable
import RecomputerGateway.Transition

namespace RecomputerGateway.Forwarder

/-!
# The sockets of the patched packet forwarder

`thread_socket_manager` opens, connects and closes `sock_up` and `sock_down`.
`thread_up` sends and receives on the first and `thread_down`, with
`send_tx_ack`, on the second.  Each socket has a ready flag, which the manager
sets and the owner clears, and a mutex around every call on it.

One step is one access to what the threads share.  The waiting times and the
reports to the log and over ubus do not touch the sockets and are left out.
-/

/-- Upstream with `thread_up`, downstream with `thread_down`. -/
inductive Side where
  | up
  | down
  deriving DecidableEq

/-- An open file of the process. -/
inductive File where
  /-- Opened by the manager. -/
  | socket (side : Side) (connected : Bool)
  /-- Opened by any other code of the process. -/
  | foreign
  deriving DecidableEq

/-- Who holds the mutex of a socket. -/
inductive Holder where
  | owner
  | manager
  deriving DecidableEq

/-- The calls on a socket by the thread that owns it. -/
inductive Call where
  /-- `send` of the JSON in `thread_up`. -/
  | pushData
  /-- `recv` number `i` in `thread_up`. -/
  | pushAck (i : Nat)
  /-- `send` of the request in `thread_down`. -/
  | pullData
  /-- `recv` in `thread_down`. -/
  | pullResp
  /-- `send` in `send_tx_ack`. -/
  | txAck
  deriving DecidableEq

/-- What `send` or `recv` returns. -/
inductive CallResult where
  | done
  /-- -1 with `EAGAIN`. -/
  | again
  /-- -1 with another `errno`. -/
  | error
  deriving DecidableEq

/-- Where `thread_up` or `thread_down` is. -/
inductive WorkerPc where
  | top
  | testReady
  /-- The threshold of missing acknowledgements, in `thread_down`. -/
  | testThreshold
  | lock (call : Call)
  | calling (call : Call)
  | unlock (call : Call) (result : CallResult)
  | clearReady
  /-- The test of the receive loop of `thread_down`. -/
  | receiveLoop
  /-- A datagram has been received by `thread_down`. -/
  | received
  | ended
  deriving DecidableEq

/-- Where `thread_socket_manager` is. -/
inductive ManagerPc where
  | top
  | testReady (side : Side)
  | lock (side : Side)
  | close (side : Side)
  | getaddrinfo (side : Side)
  /-- The loop over the results that are left. -/
  | socket (side : Side) (results : Nat)
  | connect (side : Side)
  | setsockopt (side : Side)
  | setReady (side : Side)
  /-- The mutex is left, and then the thread goes on or ends. -/
  | unlock (side : Side) (ends : Bool)
  | ended
  deriving DecidableEq

/-- What the source keeps for one socket. -/
structure Link where
  /-- `sock_up` or `sock_down`; `none` is -1. -/
  sock : Option Nat
  readySig : Bool
  mutex : Option Holder
  /-- `sock_up_counter` or `sock_down_counter`. -/
  counter : Nat

/-- A call of the manager that opens or closes a descriptor. -/
inductive ManagerCall where
  | socket (number : Nat)
  | close (sock : Option Nat)
  deriving DecidableEq

structure State where
  link : Side → Link
  workerPc : Side → WorkerPc
  managerPc : ManagerPc
  table : DescriptorTable File
  exitSig : Bool
  quitSig : Bool
  /-- What the manager has called so far, the latest call first. -/
  calls : List ManagerCall

/-- What a worker finds or what a call of it returns. -/
inductive WorkerChoice where
  | go
  | threshold (crossed : Bool)
  | result (result : CallResult)
  /-- `true` when the datagram is the awaited `PUSH_ACK`. -/
  | acknowledged (acked : Bool)
  | receive
  | leaveLoop
  | sendTxAck
  deriving DecidableEq

/-- What a call of the manager returns. -/
inductive ManagerAnswer where
  | go
  | addresses (results : Nat)
  /-- `EAI_AGAIN` or `EAI_FAIL`. -/
  | temporary
  /-- Any other error of `getaddrinfo`. -/
  | permanent
  | socket (sock : Option Nat)
  /-- `connect` or `setsockopt`. -/
  | returns (successful : Bool)
  deriving DecidableEq

inductive Event where
  | worker (side : Side) (choice : WorkerChoice)
  | manager (answer : ManagerAnswer)
  | exit
  | quit
  | openForeign (number : Nat)
  | closeForeign (number : Nat)
  deriving DecidableEq

namespace State

def setLink (state : State) (side : Side) (link : Link) : State :=
  { state with link := Function.update state.link side link }

def setMutex (state : State) (side : Side) (mutex : Option Holder) : State :=
  state.setLink side { state.link side with mutex := mutex }

def setSock (state : State) (side : Side) (sock : Option Nat) : State :=
  state.setLink side { state.link side with sock := sock }

def clearReady (state : State) (side : Side) : State :=
  state.setLink side { state.link side with readySig := false }

/-- The flag is set and the successes are counted, in a `uint32_t`. -/
def setReady (state : State) (side : Side) : State :=
  state.setLink side
    { state.link side with
      readySig := true
      counter := ((state.link side).counter + 1) % 4294967296 }

def setWorkerPc (state : State) (side : Side) (pc : WorkerPc) : State :=
  { state with workerPc := Function.update state.workerPc side pc }

def stops (state : State) : Bool :=
  state.exitSig || state.quitSig

@[simp] theorem link_setLink_self
    (state : State)
    (side : Side)
    (link : Link) :
    (state.setLink side link).link side = link :=
  Function.update_self ..

theorem link_setLink_of_ne
    (state : State)
    {side other : Side}
    (link : Link)
    (differs : other ≠ side) :
    (state.setLink side link).link other = state.link other :=
  Function.update_of_ne differs ..

/-- What an update of one link keeps in every link. -/
theorem field_setLink
    {α : Type}
    (field : Link → α)
    (state : State)
    (side other : Side)
    (link : Link)
    (kept : field link = field (state.link side)) :
    field ((state.setLink side link).link other) =
      field (state.link other) := by
  by_cases same : other = side
  · rw [same, link_setLink_self, kept]
  · rw [link_setLink_of_ne state link same]

@[simp] theorem sock_setMutex
    (state : State)
    (side other : Side)
    (mutex : Option Holder) :
    ((state.setMutex side mutex).link other).sock =
      (state.link other).sock :=
  field_setLink Link.sock state side other _ rfl

@[simp] theorem readySig_setMutex
    (state : State)
    (side other : Side)
    (mutex : Option Holder) :
    ((state.setMutex side mutex).link other).readySig =
      (state.link other).readySig :=
  field_setLink Link.readySig state side other _ rfl

@[simp] theorem counter_setMutex
    (state : State)
    (side other : Side)
    (mutex : Option Holder) :
    ((state.setMutex side mutex).link other).counter =
      (state.link other).counter :=
  field_setLink Link.counter state side other _ rfl

@[simp] theorem readySig_setSock
    (state : State)
    (side other : Side)
    (sock : Option Nat) :
    ((state.setSock side sock).link other).readySig =
      (state.link other).readySig :=
  field_setLink Link.readySig state side other _ rfl

@[simp] theorem counter_setSock
    (state : State)
    (side other : Side)
    (sock : Option Nat) :
    ((state.setSock side sock).link other).counter =
      (state.link other).counter :=
  field_setLink Link.counter state side other _ rfl

@[simp] theorem sock_setReady
    (state : State)
    (side other : Side) :
    ((state.setReady side).link other).sock = (state.link other).sock :=
  field_setLink Link.sock state side other _ rfl

end State

/-- The call behind a successful test of the ready flag. -/
def afterReady : Side → WorkerPc
  | .up => .lock .pushData
  | .down => .testThreshold

/-- Where a worker goes on when a call has returned. -/
def afterCall : Call → CallResult → Bool → WorkerPc
  | .pushData, .done, _ => .lock (.pushAck 0)
  | .pushData, .again, _ => .clearReady
  | .pushData, .error, _ => .clearReady
  | .pushAck _, .error, _ => .clearReady
  | .pushAck i, .again, _ =>
      if i + 1 < 2 then .lock (.pushAck (i + 1)) else .top
  | .pushAck i, .done, acked =>
      if !acked && i + 1 < 2 then .lock (.pushAck (i + 1)) else .top
  | .pullData, .done, _ => .receiveLoop
  | .pullData, .again, _ => .clearReady
  | .pullData, .error, _ => .clearReady
  | .pullResp, .done, _ => .received
  | .pullResp, .again, _ => .receiveLoop
  | .pullResp, .error, _ => .receiveLoop
  -- The caller of `send_tx_ack` only logs a failure.
  | .txAck, _, _ => .received

/-- One step of `thread_up` or `thread_down`. -/
def workerStep?
    (state : State)
    (side : Side)
    (choice : WorkerChoice) :
    Option State :=
  match state.workerPc side, choice with
  | .top, .go =>
      some
        (state.setWorkerPc side (if state.stops then .ended else .testReady))
  | .testReady, .go =>
      some
        (state.setWorkerPc side
          (if (state.link side).readySig then afterReady side else .top))
  | .testThreshold, .threshold crossed =>
      some
        (state.setWorkerPc side
          (if crossed then .clearReady else .lock .pullData))
  | .lock call, .go =>
      if (state.link side).mutex = none then
        some
          ((state.setMutex side (some .owner)).setWorkerPc side
            (.calling call))
      else none
  | .calling call, .result result =>
      some (state.setWorkerPc side (.unlock call result))
  | .unlock call result, .acknowledged acked =>
      some
        ((state.setMutex side none).setWorkerPc side
          (afterCall call result acked))
  | .clearReady, .go =>
      some ((state.clearReady side).setWorkerPc side .top)
  | .receiveLoop, .receive => some (state.setWorkerPc side (.lock .pullResp))
  | .receiveLoop, .leaveLoop => some (state.setWorkerPc side .top)
  | .received, .sendTxAck => some (state.setWorkerPc side (.lock .txAck))
  | .received, .go => some (state.setWorkerPc side .receiveLoop)
  | _, _ => none

/-- `close(sock_up)` or `close(sock_down)`. -/
def closeSock (state : State) (side : Side) : State :=
  let sock := (state.link side).sock
  { state with
    table :=
      match sock with
      | some number => state.table.release number
      | none => state.table
    calls := .close sock :: state.calls }

/-- `exit_sig` is set, the mutex is left and the thread ends. -/
def giveUp (state : State) (side : Side) : State :=
  { state with exitSig := true, managerPc := .unlock side true }

/-- `socket` returns. -/
def socketReturns?
    (state : State)
    (side : Side)
    (results : Nat) :
    Option Nat → Option State
  | none =>
      some
        { state.setSock side none with managerPc := .socket side results }
  | some number =>
      if state.table.IsLowestFree number then
        some
          { state.setSock side (some number) with
            table := state.table.install number (.socket side false)
            calls := .socket number :: state.calls
            managerPc := .connect side }
      else none

/-- `connect` is successful. -/
def connected (state : State) (side : Side) : State :=
  { state with
    table :=
      match (state.link side).sock with
      | some number => state.table.install number (.socket side true)
      | none => state.table
    managerPc := .setsockopt side }

/-- One step of `thread_socket_manager`. -/
def managerStep?
    (state : State)
    (answer : ManagerAnswer) :
    Option State :=
  match state.managerPc, answer with
  | .top, .go =>
      some
        { state with
          managerPc := if state.stops then .ended else .testReady .up }
  | .testReady side, .go =>
      if (state.link side).readySig then
        some
          { state with
            managerPc := if side = .up then .testReady .down else .top }
      else some { state with managerPc := .lock side }
  | .lock side, .go =>
      if (state.link side).mutex = none then
        some
          { state.setMutex side (some .manager) with
            managerPc := .close side }
      else none
  | .close side, .go =>
      if 0 < (state.link side).counter then
        some { closeSock state side with managerPc := .getaddrinfo side }
      else some { state with managerPc := .getaddrinfo side }
  | .getaddrinfo side, .addresses results =>
      some { state with managerPc := .socket side results }
  | .getaddrinfo side, .temporary =>
      some { state with managerPc := .unlock side false }
  | .getaddrinfo side, .permanent => some (giveUp state side)
  | .socket side 0, .go => some (giveUp state side)
  | .socket side (results + 1), .socket sock =>
      socketReturns? state side results sock
  | .connect side, .returns true => some (connected state side)
  | .connect side, .returns false => some (giveUp state side)
  | .setsockopt side, .returns true =>
      some { state with managerPc := .setReady side }
  | .setsockopt side, .returns false => some (giveUp state side)
  | .setReady side, .go =>
      some { state.setReady side with managerPc := .unlock side false }
  | .unlock side ends, .go =>
      some
        { state.setMutex side none with
          managerPc := if ends then .ended else .top }
  | _, _ => none

/-- One step of a thread, of a signal or of the rest of the process. -/
def step? (state : State) : Event → Option State
  | .worker side choice => workerStep? state side choice
  | .manager answer => managerStep? state answer
  | .exit => some { state with exitSig := true }
  | .quit => some { state with quitSig := true }
  | .openForeign number =>
      if state.table.IsLowestFree number then
        some { state with table := state.table.install number .foreign }
      else none
  | .closeForeign number =>
      if state.table.file? number = some .foreign then
        some { state with table := state.table.release number }
      else none

/-- The threads have just been made; the process has no such socket yet. -/
structure Initial (state : State) : Prop where
  readySig : ∀ side, (state.link side).readySig = false
  mutex : ∀ side, (state.link side).mutex = none
  counter : ∀ side, (state.link side).counter = 0
  workerPc : ∀ side, state.workerPc side = .top
  managerPc : state.managerPc = .top
  table :
    ∀ number side isConnected,
      state.table.file? number ≠ some (.socket side isConnected)
  calls : state.calls = []

/-- The three threads and the rest of the process. -/
def threads : System State Event where
  Initial := Initial
  step? := step?

/-- Between the test of the ready flag and the clearing or the next test. -/
def WorkerPc.uses : WorkerPc → Bool
  | .top => false
  | .testReady => false
  | .testThreshold => true
  | .lock _ => true
  | .calling _ => true
  | .unlock _ _ => true
  | .clearReady => true
  | .receiveLoop => true
  | .received => true
  | .ended => false

/-- What every step of a worker leaves as it is, and what it does to its flag. -/
structure WorkerMoves
    (state : State)
    (side : Side)
    (next : State) :
    Prop where
  managerPc : next.managerPc = state.managerPc
  table : next.table = state.table
  calls : next.calls = state.calls
  workerPc :
    ∀ other, other ≠ side → next.workerPc other = state.workerPc other
  sock : ∀ other, (next.link other).sock = (state.link other).sock
  counter : ∀ other, (next.link other).counter = (state.link other).counter
  readySig :
    ∀ other,
      (next.link other).readySig = true →
        (state.link other).readySig = true
  /-- The flag of the other side is left alone. -/
  readySig_of_ne :
    ∀ other,
      other ≠ side →
        (next.link other).readySig = (state.link other).readySig
  /-- Only a test that succeeds leads to the use of the socket. -/
  uses :
    (next.workerPc side).uses = true →
      (next.link side).readySig = (state.link side).readySig ∧
        ((state.workerPc side).uses = true ∨
          (state.link side).readySig = true)

namespace WorkerMoves

variable {state : State}
variable {side : Side}

/-- A step that only moves on. -/
theorem setWorkerPc
    {pc : WorkerPc}
    (uses :
      pc.uses = true →
        (state.workerPc side).uses = true ∨
          (state.link side).readySig = true) :
    WorkerMoves state side (state.setWorkerPc side pc) where
  managerPc := rfl
  table := rfl
  calls := rfl
  workerPc other differs := Function.update_of_ne differs ..
  sock _ := rfl
  counter _ := rfl
  readySig _ isReady := isReady
  readySig_of_ne _ _ := rfl
  uses isUsing := by
    refine ⟨rfl, uses ?_⟩
    simpa [State.setWorkerPc] using isUsing

/-- A step that also takes or leaves the mutex. -/
theorem setMutex
    {pc : WorkerPc}
    {mutex : Option Holder}
    (uses : (state.workerPc side).uses = true) :
    WorkerMoves state side
      ((state.setMutex side mutex).setWorkerPc side pc) where
  managerPc := rfl
  table := rfl
  calls := rfl
  workerPc other differs := Function.update_of_ne differs ..
  sock other := state.sock_setMutex side other mutex
  counter other := state.counter_setMutex side other mutex
  readySig other isReady := by
    rwa [← state.readySig_setMutex side other mutex]
  readySig_of_ne other _ := state.readySig_setMutex side other mutex
  uses _ := ⟨state.readySig_setMutex side side mutex, .inl uses⟩

/-- The step that clears the flag. -/
theorem clearReady :
    WorkerMoves state side ((state.clearReady side).setWorkerPc side .top) where
  managerPc := rfl
  table := rfl
  calls := rfl
  workerPc other differs := Function.update_of_ne differs ..
  sock other := State.field_setLink Link.sock state side other _ rfl
  counter other := State.field_setLink Link.counter state side other _ rfl
  readySig other isReady := by
    by_cases same : other = side
    · subst same
      simp [State.clearReady, State.setWorkerPc] at isReady
    · have kept := state.link_setLink_of_ne
        { state.link side with readySig := false } same
      simpa [State.clearReady, State.setWorkerPc, kept] using isReady
  readySig_of_ne other differs :=
    congrArg Link.readySig (state.link_setLink_of_ne _ differs)
  uses isUsing := by
    simp [State.setWorkerPc, WorkerPc.uses] at isUsing

end WorkerMoves

/-- Every step of a worker is of one of the three kinds. -/
theorem workerMoves_of_step?
    {state next : State}
    {side : Side}
    {choice : WorkerChoice}
    (stepped : workerStep? state side choice = some next) :
    WorkerMoves state side next := by
  unfold workerStep? at stepped
  split at stepped
  case h_1 =>
    simp only [Option.some.injEq] at stepped
    subst next
    refine .setWorkerPc fun isUsing => ?_
    split at isUsing <;> simp [WorkerPc.uses] at isUsing
  case h_2 =>
    simp only [Option.some.injEq] at stepped
    subst next
    refine .setWorkerPc fun isUsing => ?_
    cases isReady : (state.link side).readySig with
    | true =>
        exact .inr rfl
    | false =>
        simp [isReady, WorkerPc.uses] at isUsing
  case h_3 crossed atPc =>
    simp only [Option.some.injEq] at stepped
    subst next
    exact .setWorkerPc fun _ => .inl (by rw [atPc]; rfl)
  case h_4 call atPc =>
    simp only [Option.ite_none_right_eq_some, Option.some.injEq] at stepped
    obtain ⟨-, rfl⟩ := stepped
    exact .setMutex (by rw [atPc]; rfl)
  case h_5 call result atPc =>
    simp only [Option.some.injEq] at stepped
    subst next
    exact .setWorkerPc fun _ => .inl (by rw [atPc]; rfl)
  case h_6 call result acked atPc =>
    simp only [Option.some.injEq] at stepped
    subst next
    exact .setMutex (by rw [atPc]; rfl)
  case h_7 =>
    simp only [Option.some.injEq] at stepped
    subst next
    exact .clearReady
  case h_12 =>
    contradiction
  all_goals
    rename_i atPc
    simp only [Option.some.injEq] at stepped
    subst next
    exact .setWorkerPc fun _ => .inl (by rw [atPc]; rfl)

/-- In the pass over one side, from the failed test to the setting of its flag. -/
def ManagerPc.worksOn : ManagerPc → Side → Bool
  | .top, _ => false
  | .testReady _, _ => false
  | .lock side, query => side = query
  | .close side, query => side = query
  | .getaddrinfo side, query => side = query
  | .socket side _, query => side = query
  | .connect side, query => side = query
  | .setsockopt side, query => side = query
  | .setReady side, query => side = query
  | .unlock _ _, _ => false
  | .ended, _ => false

/-- The steps of the manager. -/
inductive ManagerMoves
    (state : State) :
    ManagerAnswer → State → Prop where
  | top
      (atPc : state.managerPc = .top) :
      ManagerMoves state .go
        { state with
          managerPc := if state.stops then .ended else .testReady .up }
  | isReady
      (side : Side)
      (atPc : state.managerPc = .testReady side)
      (ready : (state.link side).readySig = true) :
      ManagerMoves state .go
        { state with
          managerPc := if side = .up then .testReady .down else .top }
  | notReady
      (side : Side)
      (atPc : state.managerPc = .testReady side)
      (notReady : (state.link side).readySig = false) :
      ManagerMoves state .go { state with managerPc := .lock side }
  | lock
      (side : Side)
      (atPc : state.managerPc = .lock side) :
      ManagerMoves state .go
        { state.setMutex side (some .manager) with managerPc := .close side }
  | close
      (side : Side)
      (atPc : state.managerPc = .close side)
      (counted : 0 < (state.link side).counter) :
      ManagerMoves state .go
        { closeSock state side with managerPc := .getaddrinfo side }
  | keep
      (side : Side)
      (atPc : state.managerPc = .close side)
      (uncounted : ¬ 0 < (state.link side).counter) :
      ManagerMoves state .go { state with managerPc := .getaddrinfo side }
  | addresses
      (side : Side)
      (results : Nat)
      (atPc : state.managerPc = .getaddrinfo side) :
      ManagerMoves state (.addresses results)
        { state with managerPc := .socket side results }
  | temporary
      (side : Side)
      (atPc : state.managerPc = .getaddrinfo side) :
      ManagerMoves state .temporary
        { state with managerPc := .unlock side false }
  | givesUp
      (answer : ManagerAnswer)
      (side : Side)
      (noSocket : ∀ sock, answer ≠ .socket sock) :
      ManagerMoves state answer (giveUp state side)
  | socketFails
      (side : Side)
      (results : Nat)
      (atPc : state.managerPc = .socket side (results + 1)) :
      ManagerMoves state (.socket none)
        { state.setSock side none with managerPc := .socket side results }
  | socketOpens
      (side : Side)
      (results number : Nat)
      (atPc : state.managerPc = .socket side (results + 1))
      (lowest : state.table.IsLowestFree number) :
      ManagerMoves state (.socket (some number))
        { state.setSock side (some number) with
          table := state.table.install number (.socket side false)
          calls := .socket number :: state.calls
          managerPc := .connect side }
  | connects
      (side : Side)
      (atPc : state.managerPc = .connect side) :
      ManagerMoves state (.returns true) (connected state side)
  | configures
      (side : Side)
      (atPc : state.managerPc = .setsockopt side) :
      ManagerMoves state (.returns true)
        { state with managerPc := .setReady side }
  | setReady
      (side : Side)
      (atPc : state.managerPc = .setReady side) :
      ManagerMoves state .go
        { state.setReady side with managerPc := .unlock side false }
  | unlock
      (side : Side)
      (ends : Bool)
      (atPc : state.managerPc = .unlock side ends) :
      ManagerMoves state .go
        { state.setMutex side none with
          managerPc := if ends then .ended else .top }

/-- Every step of the manager is one of these. -/
theorem managerMoves_of_step?
    {state next : State}
    {answer : ManagerAnswer}
    (stepped : managerStep? state answer = some next) :
    ManagerMoves state answer next := by
  unfold managerStep? at stepped
  split at stepped
  case h_1 atPc =>
    simp only [Option.some.injEq] at stepped
    subst next
    exact .top atPc
  case h_2 side atPc =>
    split at stepped
    case isTrue ready =>
      simp only [Option.some.injEq] at stepped
      subst next
      exact .isReady side atPc ready
    case isFalse notReady =>
      simp only [Option.some.injEq] at stepped
      subst next
      exact .notReady side atPc (Bool.eq_false_iff.mpr notReady)
  case h_3 side atPc =>
    simp only [Option.ite_none_right_eq_some, Option.some.injEq] at stepped
    obtain ⟨-, rfl⟩ := stepped
    exact .lock side atPc
  case h_4 side atPc =>
    split at stepped
    case isTrue counted =>
      simp only [Option.some.injEq] at stepped
      subst next
      exact .close side atPc counted
    case isFalse uncounted =>
      simp only [Option.some.injEq] at stepped
      subst next
      exact .keep side atPc uncounted
  case h_5 side results atPc =>
    simp only [Option.some.injEq] at stepped
    subst next
    exact .addresses side results atPc
  case h_6 side atPc =>
    simp only [Option.some.injEq] at stepped
    subst next
    exact .temporary side atPc
  case h_9 side results sock atPc =>
    cases sock with
    | none =>
        simp only [socketReturns?, Option.some.injEq] at stepped
        subst next
        exact .socketFails side results atPc
    | some number =>
        simp only [socketReturns?, Option.ite_none_right_eq_some,
          Option.some.injEq] at stepped
        obtain ⟨lowest, rfl⟩ := stepped
        exact .socketOpens side results number atPc lowest
  case h_10 side atPc =>
    simp only [Option.some.injEq] at stepped
    subst next
    exact .connects side atPc
  case h_12 side atPc =>
    simp only [Option.some.injEq] at stepped
    subst next
    exact .configures side atPc
  case h_14 side atPc =>
    simp only [Option.some.injEq] at stepped
    subst next
    exact .setReady side atPc
  case h_15 side ends atPc =>
    simp only [Option.some.injEq] at stepped
    subst next
    exact .unlock side ends atPc
  case h_16 =>
    contradiction
  all_goals
    simp only [Option.some.injEq] at stepped
    subst next
    exact .givesUp _ _ (by simp)

/-- The open sockets of the manager are the same in both states. -/
def SameSockets (state next : State) : Prop :=
  ∀ number side isConnected,
    next.table.file? number = some (.socket side isConnected) ↔
      state.table.file? number = some (.socket side isConnected)

theorem sameSockets_install_foreign
    {state : State}
    {number : Nat}
    (free : state.table.file? number = none) :
    SameSockets state
      { state with table := state.table.install number .foreign } := by
  intro query side isConnected
  by_cases same : query = number
  · subst same
    simp [free]
  · simp [state.table.file?_install_of_ne .foreign same]

theorem sameSockets_release_foreign
    {state : State}
    {number : Nat}
    (isForeign : state.table.file? number = some .foreign) :
    SameSockets state
      { state with table := state.table.release number } := by
  intro query side isConnected
  by_cases same : query = number
  · subst same
    simp [isForeign]
  · simp [state.table.file?_release_of_ne same]

/-- What a signal and other code of the process leave as it is. -/
structure OutsideMoves
    (state next : State) :
    Prop where
  link : next.link = state.link
  workerPc : next.workerPc = state.workerPc
  managerPc : next.managerPc = state.managerPc
  calls : next.calls = state.calls
  sameSockets : SameSockets state next

/-- A step is one of a worker, of the manager or of neither. -/
theorem step?_cases
    {state next : State}
    {event : Event}
    (stepped : step? state event = some next) :
    (∃ side choice,
        event = .worker side choice ∧ WorkerMoves state side next) ∨
      (∃ answer,
        event = .manager answer ∧ ManagerMoves state answer next) ∨
      OutsideMoves state next := by
  cases event with
  | worker side choice =>
      exact .inl ⟨side, choice, rfl, workerMoves_of_step? stepped⟩
  | manager answer =>
      exact .inr (.inl ⟨answer, rfl, managerMoves_of_step? stepped⟩)
  | exit =>
      cases stepped
      exact .inr (.inr ⟨rfl, rfl, rfl, rfl, fun _ _ _ => .rfl⟩)
  | quit =>
      cases stepped
      exact .inr (.inr ⟨rfl, rfl, rfl, rfl, fun _ _ _ => .rfl⟩)
  | openForeign number =>
      simp only [step?, Option.ite_none_right_eq_some,
        Option.some.injEq] at stepped
      obtain ⟨lowest, rfl⟩ := stepped
      exact .inr (.inr
        ⟨rfl, rfl, rfl, rfl, sameSockets_install_foreign lowest.1⟩)
  | closeForeign number =>
      simp only [step?, Option.ite_none_right_eq_some,
        Option.some.injEq] at stepped
      obtain ⟨isForeign, rfl⟩ := stepped
      exact .inr (.inr
        ⟨rfl, rfl, rfl, rfl, sameSockets_release_foreign isForeign⟩)

end RecomputerGateway.Forwarder
