import RecomputerGateway.CyclicIds
import RecomputerGateway.MbimProxy
import RecomputerGateway.Transition

namespace RecomputerGateway.MbimCommand

open CyclicIds
open Hexadecimal (Byte)
open LittleEndian
open MbimProxy (messageType transactionId setTransactionId)

/-!
# Commands of an MBIM client

`mbim-cm.c` sends one command at a time and waits for the message with the
transaction identifier of that command.  The identifiers are counted up, and
`mbim_send_command` starts over before they reach the byte in which the proxy
puts the number of the client.
-/

/-- The services whose commands are composed. -/
inductive Service where
  | basicConnect
  | basicConnectExt
  | qmux
  deriving DecidableEq

/-- `str2uuid` of the identifier of a service. -/
def Service.uuid : Service → List Byte
  | .basicConnect =>
      [0xa2, 0x89, 0xcc, 0x33, 0xbc, 0xbb, 0x8b, 0x4f,
        0xb6, 0xb0, 0x13, 0x3e, 0xc2, 0xaa, 0xe6, 0xdf]
  | .basicConnectExt =>
      [0x3d, 0x01, 0xdc, 0xc5, 0xfe, 0xf5, 0x4d, 0x05,
        0x0d, 0x3a, 0xbe, 0xf7, 0x05, 0x8e, 0x9a, 0xaf]
  | .qmux =>
      [0xd1, 0xa3, 0x0b, 0xc2, 0xf9, 0x7a, 0x6e, 0x43,
        0xbf, 0x65, 0xc7, 0xe2, 0x4f, 0xb0, 0xf0, 0xd3]

/-- `MBIM_MESSAGE_HEADER`. -/
def messageHeader (type length tid : Nat) : List Byte :=
  le32 type ++ le32 length ++ le32 tid

/-- `compose_open_command`; the counter is advanced by the caller. -/
def composeOpenCommand (tid maxControlTransfer : Nat) : List Byte :=
  messageHeader 1 16 tid ++ le32 maxControlTransfer

/-- `compose_close_command`. -/
def composeCloseCommand (tid : Nat) : List Byte :=
  messageHeader 2 12 tid

/--
`compose_basic_connect_command` and the two functions that put another service
into its message.
-/
def composeCommand
    (tid : Nat)
    (service : Service)
    (cid commandType : Nat)
    (information : List Byte) : List Byte :=
  messageHeader 3 (48 + information.length) tid ++
    (le32 1 ++ le32 0 ++ service.uuid ++ le32 cid ++ le32 commandType ++
      le32 information.length ++ information)

/-- A command before it has an identifier. -/
inductive Command where
  | openDevice (maxControlTransfer : Nat)
  | closeDevice
  | request
      (service : Service)
      (cid commandType : Nat)
      (information : List Byte)
  deriving DecidableEq

def Command.compose (tid : Nat) : Command → List Byte
  | .openDevice maxControlTransfer =>
      composeOpenCommand tid maxControlTransfer
  | .closeDevice => composeCloseCommand tid
  | .request service cid commandType information =>
      composeCommand tid service cid commandType information

/-- The static variables of `mbim-cm.c`. -/
structure CommandState where
  transactionId : Nat
  mbimFd : Int
  sTidReader : Bool
  pRequest : Option (List Byte)
  pResponse : Option (List Byte)

/-- `TransactionId++` on a 32-bit counter. -/
def increment (tid : Nat) : Nat :=
  (tid + 1) % 4294967296

/-- `0xFFFFFF + 1`, at which the counter starts over. -/
def resetAt : Nat := 0x1000000

/-- A device and the thread that reads from it. -/
def CommandState.connected (state : CommandState) : Bool :=
  decide (0 < state.mbimFd) && state.sTidReader

/--
What `mbim_send_command` writes for a request composed with the counter, and
the counter afterwards.
-/
def withTransactionId
    (counter : Nat)
    (request : List Byte) : Nat × List Byte :=
  if transactionId request = resetAt then
    (increment 1, setTransactionId request 1)
  else (counter, request)

/--
A command is composed and `mbim_send_command` is called up to the wait; `none`
in the second component if nothing was written.
-/
def sendCommand
    (state : CommandState)
    (command : Command)
    (writes : Bool) : CommandState × Option (List Byte) :=
  let request := command.compose state.transactionId
  let counter := increment state.transactionId
  if state.connected then
    let (counter, request) := withTransactionId counter request
    if writes then
      ({ state with
          transactionId := counter
          pRequest := some request
          pResponse := none },
        some request)
    else
      ({ state with
          transactionId := counter, pRequest := none, pResponse := none },
        none)
  else ({ state with transactionId := counter }, none)

/-- `MessageHeader.MessageLength`. -/
def messageLength (message : List Byte) : Nat :=
  le32At message 4

/-- The copy that `mbim_recv_command` keeps of a response. -/
def responseCopy (message : List Byte) : List Byte :=
  message.take (messageLength message)

/-- `mbim_recv_command` of a message. -/
def recvCommand
    (state : CommandState)
    (message : List Byte) : CommandState :=
  match state.pRequest with
  | some request =>
      if transactionId request = transactionId message then
        { state with pResponse := some (responseCopy message) }
      else state
  | none => state

/-- A request that was written, or a message, with the number of its command. -/
structure Numbered where
  number : Nat
  message : List Byte
  deriving DecidableEq

/-- A command that has returned. -/
structure Completion where
  number : Nat
  response : Option (List Byte)
  deriving DecidableEq

/-- The client and what it has exchanged with the modem. -/
structure World where
  state : CommandState
  composed : Nat
  written : List Numbered
  answers : List Numbered
  completed : List Completion

inductive Event where
  | command (command : Command) (writes : Bool)
  | answer (number : Nat) (message : List Byte)
  | indicate (message : List Byte)
  | signalled
  | timeout
  | readerStarts (fd : Int)
  | readerQuits
  deriving DecidableEq

/-- The caller is done with the command that was composed last. -/
def World.complete
    (world : World)
    (response : Option (List Byte)) : World :=
  { world with
    state := { world.state with pRequest := none, pResponse := none }
    completed :=
      world.completed ++ [⟨world.composed - 1, response⟩] }

/-- One step of the caller, of the thread that reads, or of the modem. -/
def step? (world : World) : Event → Option World
  | .command command writes =>
      if world.state.pRequest = none then
        let sent := sendCommand world.state command writes
        some
          { world with
            state := sent.1
            composed := world.composed + 1
            written :=
              world.written ++
                (sent.2.map (Numbered.mk world.composed)).toList }
      else none
  | .answer number message =>
      if world.state.connected ∧
          ∃ request ∈ world.written,
            request.number = number ∧
              transactionId request.message = transactionId message then
        some
          { world with
            state := recvCommand world.state message
            answers := world.answers ++ [⟨number, message⟩] }
      else none
  | .indicate message =>
      -- A notification has no identifier.
      if world.state.connected ∧ transactionId message = 0 then
        some { world with state := recvCommand world.state message }
      else none
  | .signalled =>
      if world.state.pRequest ≠ none then
        some (world.complete world.state.pResponse)
      else none
  | .timeout =>
      if world.state.pRequest ≠ none then some (world.complete none)
      else none
  | .readerStarts fd =>
      if world.state.sTidReader then none
      else
        some
          { world with
            state := { world.state with mbimFd := fd, sTidReader := true } }
  | .readerQuits =>
      if world.state.sTidReader then
        some
          { world with
            state := { world.state with mbimFd := -1, sTidReader := false } }
      else none

/-- The program before its first command. -/
def commands : System World Event where
  Initial world :=
    world = ⟨⟨1, -1, false, none, none⟩, 0, [], [], []⟩
  step? := step?

/-- The number of identifiers before they start over. -/
def period : Nat := 0xFFFFFF

/-- The command at which the counter starts over is sent. -/
def Resets (world : World) : Event → Prop
  | .command _ _ =>
      world.state.transactionId = resetAt → world.state.connected = true
  | _ => True

instance (world : World) (event : Event) :
    Decidable (Resets world event) := by
  unfold Resets
  split <;> infer_instance

/--
The command at which the counter starts over is sent, and the modem answers
none of the commands that a whole period has been composed after.
-/
def Timely (world : World) : Event → Prop
  | .command _ _ =>
      world.state.transactionId = resetAt → world.state.connected = true
  | .answer number _ => world.composed ≤ number + period
  | _ => True

instance (world : World) (event : Event) :
    Decidable (Timely world event) := by
  unfold Timely
  split <;> infer_instance

/-- The identifier of a composed message is the one it was composed with. -/
theorem transactionId_messageHeader
    (type length tid : Nat)
    (body : List Byte) :
    transactionId (messageHeader type length tid ++ body) =
      tid % 4294967296 := by
  have shifted :=
    le32At_append (le32 type ++ le32 length) (le32 tid ++ body) 0
  rw [le32At_le32] at shifted
  rw [transactionId, messageHeader, List.append_assoc]
  exact shifted

theorem transactionId_compose
    (tid : Nat)
    (command : Command) :
    transactionId (command.compose tid) = tid % 4294967296 := by
  cases command with
  | openDevice maxControlTransfer =>
      exact transactionId_messageHeader 1 16 tid _
  | closeDevice =>
      have withoutBody := transactionId_messageHeader 2 12 tid []
      rwa [List.append_nil] at withoutBody
  | request service cid commandType information =>
      exact transactionId_messageHeader 3 _ tid _

/-- Every composed message has the whole header. -/
theorem hasHeader_compose
    (tid : Nat)
    (command : Command) :
    12 ≤ (command.compose tid).length := by
  cases command with
  | openDevice maxControlTransfer =>
      exact Nat.le_add_right 12 4
  | closeDevice =>
      exact Nat.le_refl 12
  | request service cid commandType information =>
      rw [Command.compose, composeCommand, List.length_append]
      exact Nat.le_add_right 12 _

/--
The counter holds the identifier of the next command, except that it stands
past the last identifier when it is about to start over.
-/
def Counts (composed counter : Nat) : Prop :=
  counter = idOf period composed ∨
    counter = resetAt ∧ idOf period composed = 1

theorem Counts.le_resetAt
    {composed counter : Nat}
    (counts : Counts composed counter) :
    counter ≤ resetAt := by
  obtain rfl | ⟨rfl, -⟩ := counts
  · exact Nat.le_succ_of_le (idOf_le period composed (by decide))
  · exact Nat.le_refl _

/-- Counting one command that is not the one to start over with. -/
theorem Counts.increment
    {composed counter : Nat}
    (counts : Counts composed counter)
    (goesOn : counter ≠ resetAt) :
    counter = idOf period composed ∧
      Counts (composed + 1) (increment counter) := by
  have isNext : counter = idOf period composed :=
    counts.resolve_right fun atEnd => goesOn atEnd.1
  have bounded := idOf_le period composed (by decide)
  rw [← isNext] at bounded
  have small : counter + 1 < 4294967296 :=
    Nat.lt_of_le_of_lt (Nat.succ_le_succ bounded) (by decide)
  have next := idOf_succ period composed (by decide)
  rw [← isNext] at next
  refine ⟨isNext, ?_⟩
  rw [MbimCommand.increment, Nat.mod_eq_of_lt small, Counts]
  by_cases last : counter = period
  · rw [if_pos last] at next
    exact Or.inr ⟨congrArg (· + 1) last, next⟩
  · rw [if_neg last] at next
    exact Or.inl next.symm

/--
What `mbim_send_command` writes has the identifier of its number, and the
counter goes on from there.
-/
theorem withTransactionId_counts
    {composed counter : Nat}
    (counts : Counts composed counter)
    (command : Command) :
    Counts (composed + 1)
        (withTransactionId (increment counter)
          (command.compose counter)).1 ∧
      transactionId
          (withTransactionId (increment counter)
            (command.compose counter)).2 =
        idOf period composed := by
  have small : counter < 4294967296 :=
    Nat.lt_of_le_of_lt counts.le_resetAt (by decide)
  have composedId : transactionId (command.compose counter) = counter := by
    rw [transactionId_compose, Nat.mod_eq_of_lt small]
  unfold withTransactionId
  rw [composedId]
  by_cases startsOver : counter = resetAt
  · have first : idOf period composed = 1 := by
      obtain isNext | atEnd := counts
      · have bounded := idOf_le period composed (by decide)
        rw [← isNext, startsOver] at bounded
        exact absurd bounded (by decide)
      · exact atEnd.2
    rw [if_pos startsOver]
    have next := idOf_succ period composed (by decide)
    rw [first, if_neg (by decide)] at next
    constructor
    · exact Or.inl next.symm
    · rw [MbimProxy.transactionId_setTransactionId
        (hasHeader_compose counter command), first]
  · rw [if_neg startsOver]
    obtain ⟨isNext, counted⟩ := counts.increment startsOver
    exact ⟨counted, composedId.trans isNext⟩

/-- A timely step starts over in time. -/
theorem Timely.resets
    {world : World}
    {event : Event}
    (timely : Timely world event) :
    Resets world event := by
  cases event with
  | command command writes => exact timely
  | answer number message => exact trivial
  | indicate message => exact trivial
  | signalled => exact trivial
  | timeout => exact trivial
  | readerStarts fd => exact trivial
  | readerQuits => exact trivial

def Event.isCommand : Event → Bool
  | .command _ _ => true
  | _ => false

theorem Event.isCommand_cases (event : Event) :
    (∃ command writes, event = .command command writes) ∨
      event.isCommand = false := by
  cases event with
  | command command writes => exact Or.inl ⟨command, writes, rfl⟩
  | answer number message => exact Or.inr rfl
  | indicate message => exact Or.inr rfl
  | signalled => exact Or.inr rfl
  | timeout => exact Or.inr rfl
  | readerStarts fd => exact Or.inr rfl
  | readerQuits => exact Or.inr rfl

/-- Receiving a message changes nothing but the response that is held. -/
theorem recvCommand_cases
    (state : CommandState)
    (message : List Byte) :
    recvCommand state message = state ∨
      ∃ request,
        state.pRequest = some request ∧
          transactionId request = transactionId message ∧
          recvCommand state message =
            { state with pResponse := some (responseCopy message) } := by
  unfold recvCommand
  cases pending : state.pRequest with
  | none => exact Or.inl rfl
  | some request =>
      by_cases same : transactionId request = transactionId message
      · exact Or.inr ⟨request, rfl, same, if_pos same⟩
      · exact Or.inl (if_neg same)

/-- Only a command changes the counter or writes a request. -/
theorem step_of_other
    {world next : World}
    {event : Event}
    (notCommand : event.isCommand = false)
    (stepped : commands.step? world event = some next) :
    next.state.transactionId = world.state.transactionId ∧
      next.composed = world.composed ∧ next.written = world.written := by
  have received :
      ∀ message,
        (recvCommand world.state message).transactionId =
          world.state.transactionId := by
    intro message
    rcases recvCommand_cases world.state message with
      unchanged | ⟨request, -, -, changed⟩
    · rw [unchanged]
    · rw [changed]
  cases event with
  | command command writes => exact nomatch notCommand
  | answer number message =>
      obtain ⟨-, moved⟩ := Option.ite_none_right_eq_some.mp stepped
      obtain rfl := Option.some.inj moved
      exact ⟨received message, rfl, rfl⟩
  | indicate message =>
      obtain ⟨-, moved⟩ := Option.ite_none_right_eq_some.mp stepped
      obtain rfl := Option.some.inj moved
      exact ⟨received message, rfl, rfl⟩
  | signalled =>
      obtain ⟨-, moved⟩ := Option.ite_none_right_eq_some.mp stepped
      obtain rfl := Option.some.inj moved
      exact ⟨rfl, rfl, rfl⟩
  | timeout =>
      obtain ⟨-, moved⟩ := Option.ite_none_right_eq_some.mp stepped
      obtain rfl := Option.some.inj moved
      exact ⟨rfl, rfl, rfl⟩
  | readerStarts fd =>
      obtain ⟨-, moved⟩ := Option.ite_none_left_eq_some.mp stepped
      obtain rfl := Option.some.inj moved
      exact ⟨rfl, rfl, rfl⟩
  | readerQuits =>
      obtain ⟨-, moved⟩ := Option.ite_none_right_eq_some.mp stepped
      obtain rfl := Option.some.inj moved
      exact ⟨rfl, rfl, rfl⟩

/-- The written requests have the identifiers of their numbers. -/
structure Counted (world : World) : Prop where
  counts : Counts world.composed world.state.transactionId
  ids :
    ∀ request ∈ world.written,
      transactionId request.message = idOf period request.number ∧
        request.number < world.composed

namespace Counted

variable {world next : World}

theorem initial
    (isInitial : commands.Initial world) :
    Counted world := by
  obtain rfl := isInitial
  exact ⟨Or.inl rfl, fun request member => absurd member List.not_mem_nil⟩

/-- What a command does to the counter, and what it writes. -/
theorem sendCommand_counts
    {state : CommandState}
    {composed : Nat}
    (counts : Counts composed state.transactionId)
    (sends : state.transactionId = resetAt → state.connected = true)
    (command : Command)
    (writes : Bool) :
    Counts (composed + 1) (sendCommand state command writes).1.transactionId ∧
      ∀ request ∈ (sendCommand state command writes).2,
        transactionId request = idOf period composed := by
  obtain ⟨counted, hasId⟩ := withTransactionId_counts counts command
  unfold sendCommand
  by_cases isConnected : state.connected = true
  · simp only [isConnected, if_true]
    cases writes with
    | true =>
        refine ⟨counted, ?_⟩
        intro request written
        obtain rfl := Option.some.inj written
        exact hasId
    | false => exact ⟨counted, fun request written => nomatch written⟩
  · have goesOn : state.transactionId ≠ resetAt :=
      fun atEnd => isConnected (sends atEnd)
    simp only [isConnected]
    exact
      ⟨(counts.increment goesOn).2, fun request written => nomatch written⟩

/-- One step keeps the count. -/
theorem step
    {event : Event}
    (counted : Counted world)
    (resets : Resets world event)
    (stepped : commands.step? world event = some next) :
    Counted next := by
  rcases event.isCommand_cases with ⟨command, writes, rfl⟩ | notCommand
  · obtain ⟨-, moved⟩ := Option.ite_none_right_eq_some.mp stepped
    obtain rfl := Option.some.inj moved
    obtain ⟨counts, hasId⟩ :=
      sendCommand_counts counted.counts resets command writes
    refine ⟨counts, ?_⟩
    intro request member
    rcases List.mem_append.mp member with earlier | isNew
    · obtain ⟨id, bounded⟩ := counted.ids request earlier
      exact ⟨id, Nat.lt_succ_of_lt bounded⟩
    · obtain ⟨message, written, rfl⟩ :=
        Option.map_eq_some_iff.mp (Option.mem_toList.mp isNew)
      exact ⟨hasId message written, Nat.lt_succ_self _⟩
  · obtain ⟨sameCounter, sameComposed, sameWritten⟩ :=
      step_of_other notCommand stepped
    refine ⟨?_, ?_⟩
    · rw [sameComposed, sameCounter]
      exact counted.counts
    · rw [sameComposed, sameWritten]
      exact counted.ids

end Counted

/--
The caller waits for the last of the written requests, and what it holds or
got is an answer to its command.
-/
structure Matched (world : World) : Prop where
  counted : Counted world
  waiting :
    ∀ message,
      world.state.pRequest = some message →
        ∃ number,
          world.composed = number + 1 ∧
            ⟨number, message⟩ ∈ world.written ∧
            ∀ completion ∈ world.completed, completion.number < number
  idle : world.state.pRequest = none → world.state.pResponse = none
  holds :
    ∀ message,
      world.state.pResponse = some message →
        ∃ answer ∈ world.answers,
          world.composed = answer.number + 1 ∧
            message = responseCopy answer.message
  returned :
    ∀ completion ∈ world.completed,
      completion.number < world.composed ∧
        (∃ request ∈ world.written, request.number = completion.number) ∧
        ∀ message,
          completion.response = some message →
            ∃ answer ∈ world.answers,
              answer.number = completion.number ∧
                message = responseCopy answer.message
  once : world.completed.Pairwise (·.number < ·.number)

namespace Matched

variable {world next : World}

theorem initial
    (isInitial : commands.Initial world) :
    Matched world where
  counted := .initial isInitial
  waiting := by
    obtain rfl := isInitial
    exact fun message pending => nomatch pending
  idle := by
    obtain rfl := isInitial
    exact fun _ => rfl
  holds := by
    obtain rfl := isInitial
    exact fun message held => nomatch held
  returned := by
    obtain rfl := isInitial
    exact fun completion member => absurd member List.not_mem_nil
  once := by
    obtain rfl := isInitial
    exact .nil

/-- A command waits for what it has written. -/
theorem sendCommand_cases
    {state : CommandState}
    (isIdle : state.pRequest = none)
    (noResponse : state.pResponse = none)
    (command : Command)
    (writes : Bool) :
    (sendCommand state command writes).1.pResponse = none ∧
      (sendCommand state command writes).1.pRequest =
        (sendCommand state command writes).2 := by
  unfold sendCommand
  split
  · cases writes with
    | true => exact ⟨rfl, rfl⟩
    | false => exact ⟨rfl, rfl⟩
  · exact ⟨noResponse, isIdle⟩

theorem command
    {command : Command}
    {writes : Bool}
    (matched : Matched world)
    (timely : Timely world (.command command writes))
    (stepped : step? world (.command command writes) = some next) :
    Matched next := by
  have counted := matched.counted.step timely.resets stepped
  obtain ⟨isIdle, moved⟩ := Option.ite_none_right_eq_some.mp stepped
  obtain rfl := Option.some.inj moved
  obtain ⟨noResponse, pending⟩ :=
    sendCommand_cases isIdle (matched.idle isIdle) command writes
  refine ⟨counted, ?_, fun _ => noResponse, ?_, ?_, matched.once⟩
  · intro message isPending
    refine ⟨world.composed, rfl, ?_, ?_⟩
    · refine List.mem_append_right _ (Option.mem_toList.mpr ?_)
      exact Option.map_eq_some_iff.mpr
        ⟨message, pending.symm.trans isPending, rfl⟩
    · exact fun completion member => (matched.returned completion member).1
  · intro message held
    exact nomatch noResponse.symm.trans held
  · intro completion member
    obtain ⟨bounded, ⟨request, written, sameNumber⟩, answered⟩ :=
      matched.returned completion member
    exact
      ⟨Nat.lt_succ_of_lt bounded,
        ⟨request, List.mem_append_left _ written, sameNumber⟩, answered⟩

theorem answer
    {number : Nat}
    {message : List Byte}
    (matched : Matched world)
    (timely : Timely world (.answer number message))
    (stepped : step? world (.answer number message) = some next) :
    Matched next := by
  have counted := matched.counted.step timely.resets stepped
  obtain ⟨⟨-, asked, written, rfl, sameId⟩, moved⟩ :=
    Option.ite_none_right_eq_some.mp stepped
  obtain rfl := Option.some.inj moved
  have kept :
      ∀ completion ∈ world.completed,
        completion.number < world.composed ∧
          (∃ request ∈ world.written, request.number = completion.number) ∧
          ∀ response,
            completion.response = some response →
              ∃ answer ∈ world.answers ++ [⟨asked.number, message⟩],
                answer.number = completion.number ∧
                  response = responseCopy answer.message := by
    intro completion member
    obtain ⟨bounded, ofWritten, answered⟩ :=
      matched.returned completion member
    refine ⟨bounded, ofWritten, ?_⟩
    intro response isResponse
    obtain ⟨answer, given, shape⟩ := answered response isResponse
    exact ⟨answer, List.mem_append_left _ given, shape⟩
  rcases recvCommand_cases world.state message with
    unchanged | ⟨request, pending, sameTid, changed⟩
  · simp only [unchanged] at counted ⊢
    refine
      ⟨counted, matched.waiting, matched.idle, ?_, kept, matched.once⟩
    intro response held
    obtain ⟨answer, given, shape⟩ := matched.holds response held
    exact ⟨answer, List.mem_append_left _ given, shape⟩
  · -- The identifiers agree, so that the answer is for the command in hand.
    obtain ⟨current, isCurrent, isWritten, before⟩ :=
      matched.waiting request pending
    have currentId := (matched.counted.ids _ isWritten).1
    obtain ⟨askedId, askedBefore⟩ := matched.counted.ids asked written
    have near : world.composed ≤ asked.number + period := timely
    have sameIdOf : idOf period current = idOf period asked.number := by
      rw [← askedId, ← currentId, sameId, ← sameTid]
    have isIt : current = asked.number :=
      eq_of_idOf_eq (by omega) (by omega) sameIdOf
    simp only [changed] at counted ⊢
    refine ⟨counted, matched.waiting, ?_, ?_, kept, matched.once⟩
    · intro isIdle
      exact nomatch isIdle.symm.trans pending
    · intro response held
      obtain rfl := Option.some.inj held
      refine
        ⟨⟨asked.number, message⟩,
          List.mem_append_right _ (List.mem_singleton.mpr rfl), ?_, rfl⟩
      exact isCurrent.trans (congrArg (· + 1) isIt)

/-- A message without an identifier is nobody's response. -/
theorem indicate
    {message : List Byte}
    (matched : Matched world)
    (stepped : step? world (.indicate message) = some next) :
    Matched next := by
  obtain ⟨⟨-, isNotice⟩, moved⟩ :=
    Option.ite_none_right_eq_some.mp stepped
  obtain rfl := Option.some.inj moved
  rcases recvCommand_cases world.state message with
    unchanged | ⟨request, pending, sameTid, -⟩
  · rw [unchanged]
    exact matched
  · obtain ⟨current, -, isWritten, -⟩ := matched.waiting request pending
    have currentId := (matched.counted.ids _ isWritten).1
    have positive := idOf_pos period current
    rw [← currentId, sameTid, isNotice] at positive
    exact absurd positive (Nat.lt_irrefl 0)

/-- The caller returns with the response that it holds, or with none. -/
theorem complete
    {response : Option (List Byte)}
    (matched : Matched world)
    (waits : world.state.pRequest ≠ none)
    (isHeld :
      ∀ message,
        response = some message → world.state.pResponse = some message) :
    Matched (world.complete response) := by
  obtain ⟨request, pending⟩ := Option.ne_none_iff_exists'.mp waits
  obtain ⟨current, isCurrent, isWritten, before⟩ :=
    matched.waiting request pending
  have number : world.composed - 1 = current := by
    rw [isCurrent, Nat.add_sub_cancel]
  refine
    ⟨⟨matched.counted.counts, matched.counted.ids⟩,
      fun message none => (nomatch none), fun _ => rfl,
      fun message none => (nomatch none), ?_, ?_⟩
  · intro completion member
    rcases List.mem_append.mp member with earlier | isNew
    · exact matched.returned completion earlier
    · obtain rfl := List.mem_singleton.mp isNew
      rw [number]
      refine
        ⟨isCurrent ▸ Nat.lt_succ_self current, ⟨_, isWritten, rfl⟩, ?_⟩
      intro message isResponse
      obtain ⟨answer, given, ofCurrent, isCopy⟩ :=
        matched.holds message (isHeld message isResponse)
      exact
        ⟨answer, given, Nat.succ.inj (ofCurrent.symm.trans isCurrent),
          isCopy⟩
  · refine List.pairwise_append.mpr
      ⟨matched.once, List.pairwise_singleton _ _, ?_⟩
    intro completion member new isNew
    obtain rfl := List.mem_singleton.mp isNew
    exact lt_of_lt_of_eq (before completion member) number.symm

/-- One step keeps the commands and their answers matched. -/
theorem step
    {event : Event}
    (matched : Matched world)
    (timely : Timely world event)
    (stepped : commands.step? world event = some next) :
    Matched next := by
  cases event with
  | command command writes => exact matched.command timely stepped
  | answer number message => exact matched.answer timely stepped
  | indicate message => exact matched.indicate stepped
  | signalled =>
      obtain ⟨waits, moved⟩ := Option.ite_none_right_eq_some.mp stepped
      obtain rfl := Option.some.inj moved
      exact matched.complete waits fun _ isHeld => isHeld
  | timeout =>
      obtain ⟨waits, moved⟩ := Option.ite_none_right_eq_some.mp stepped
      obtain rfl := Option.some.inj moved
      exact matched.complete waits fun _ none => nomatch none
  | readerStarts fd =>
      obtain ⟨-, moved⟩ := Option.ite_none_left_eq_some.mp stepped
      obtain rfl := Option.some.inj moved
      exact
        ⟨⟨matched.counted.counts, matched.counted.ids⟩, matched.waiting,
          matched.idle, matched.holds, matched.returned, matched.once⟩
  | readerQuits =>
      obtain ⟨-, moved⟩ := Option.ite_none_right_eq_some.mp stepped
      obtain rfl := Option.some.inj moved
      exact
        ⟨⟨matched.counted.counts, matched.counted.ids⟩, matched.waiting,
          matched.idle, matched.holds, matched.returned, matched.once⟩

/-- Every timely run keeps the commands and their answers matched. -/
theorem run
    {source target : World}
    {events : List Event}
    (isInitial : commands.Initial source)
    (run : commands.GuardedRun Timely source events target) :
    Matched target :=
  run.invariant Matched
    (fun _ _ _ matched timely stepped => matched.step timely stepped)
    (initial isInitial)

end Matched

/--
Every request that is written has an identifier that is not zero and leaves
the byte of the proxy free, if the command at which the counter starts over is
always sent.
-/
theorem written_ids_fit
    {source target : World}
    {events : List Event}
    (isInitial : commands.Initial source)
    (run : commands.GuardedRun Resets source events target) :
    ∀ request ∈ target.written,
      0 < transactionId request.message ∧
        transactionId request.message < 0x1000000 := by
  have counted :=
    run.invariant Counted
      (fun _ _ _ counted resets stepped => counted.step resets stepped)
      (Counted.initial isInitial)
  intro request written
  rw [(counted.ids request written).1]
  exact
    ⟨idOf_pos period _,
      Nat.lt_succ_of_le (idOf_le period request.number (by decide))⟩

/--
In a timely run every command returns at most once, and the response that it
returns is an answer of the modem to that very command.
-/
theorem commands_get_own_response
    {source target : World}
    {events : List Event}
    (isInitial : commands.Initial source)
    (run : commands.GuardedRun Timely source events target) :
    target.completed.Pairwise (·.number < ·.number) ∧
      ∀ completion ∈ target.completed,
        (∃ request ∈ target.written, request.number = completion.number) ∧
          ∀ message,
            completion.response = some message →
              ∃ answer ∈ target.answers,
                answer.number = completion.number ∧
                  message = responseCopy answer.message :=
  have matched := Matched.run isInitial run
  ⟨matched.once,
    fun completion member => (matched.returned completion member).2⟩

/-- The device is opened and then asked for its capabilities. -/
def exampleEvents : List Event :=
  [.readerStarts 7, .command (.openDevice 4096) true, .timeout,
    .command (.request .basicConnect 1 0 []) true,
    .answer 0 (messageHeader 0x80000001 16 1 ++ le32 0),
    .answer 1 (messageHeader 0x80000003 12 2), .signalled]

def exampleWorld : World :=
  ⟨⟨1, -1, false, none, none⟩, 0, [], [], []⟩

/-- The late answer to the first command is not the response to the second. -/
theorem commands_get_own_response_late :
    ∃ target,
      commands.GuardedRun Timely exampleWorld exampleEvents target ∧
        target.completed =
          [⟨0, none⟩, ⟨1, some (messageHeader 0x80000003 12 2)⟩] ∧
        ∃ answer ∈ target.answers, answer.number = 1 := by
  have accepted :
      (commands.runWhile? (fun world event => decide (Timely world event))
          exampleWorld exampleEvents).map (·.completed) =
        some [⟨0, none⟩, ⟨1, some (messageHeader 0x80000003 12 2)⟩] := by
    decide +kernel
  obtain ⟨target, reached, completed⟩ := Option.map_eq_some_iff.mp accepted
  have run :=
    System.guardedRun_of_runWhile? Timely
      (fun world event checked => of_decide_eq_true checked) reached
  refine ⟨target, run, completed, ?_⟩
  have second :
      (⟨1, some (messageHeader 0x80000003 12 2)⟩ : Completion) ∈
        target.completed := by
    rw [completed]
    exact .tail _ (.head _)
  have matched := (commands_get_own_response rfl run).2 _ second
  obtain ⟨answer, given, ofSecond, -⟩ := matched.2 _ rfl
  exact ⟨answer, given, ofSecond⟩

theorem written_ids_fit_two :
    ∃ target,
      commands.GuardedRun Resets exampleWorld exampleEvents target ∧
        target.written.length = 2 ∧
        ∀ request ∈ target.written,
          0 < transactionId request.message ∧
            transactionId request.message < 0x1000000 := by
  have accepted :
      (commands.runWhile? (fun world event => decide (Resets world event))
          exampleWorld exampleEvents).map (·.written.length) =
        some 2 := by
    decide +kernel
  obtain ⟨target, reached, length⟩ := Option.map_eq_some_iff.mp accepted
  have run :=
    System.guardedRun_of_runWhile? Resets
      (fun world event checked => of_decide_eq_true checked) reached
  exact ⟨target, run, length, written_ids_fit rfl run⟩

/-- The number of commands among some events. -/
def commandCount (events : List Event) : Nat :=
  (events.filter Event.isCommand).length

/--
The counter is past the value at which it starts over, and it does not
overflow before the commands that are left have been composed.
-/
structure Missed (first left : Nat) (world : World) : Prop where
  past :
    left ≠ 0 →
      resetAt < world.state.transactionId ∧
        world.state.transactionId + left ≤ 4294967296
  large :
    ∀ request ∈ world.written,
      first ≤ request.number → resetAt < transactionId request.message

namespace Missed

variable {first left : Nat} {world next : World}

/-- A request is written as it was composed, and the counter goes on. -/
theorem sendCommand_cases
    {state : CommandState}
    (past : resetAt < state.transactionId)
    (bounded : state.transactionId < 4294967296)
    (command : Command)
    (writes : Bool) :
    (sendCommand state command writes).1.transactionId =
        increment state.transactionId ∧
      ∀ request ∈ (sendCommand state command writes).2,
        transactionId request = state.transactionId := by
  have composedId :
      transactionId (command.compose state.transactionId) =
        state.transactionId := by
    rw [transactionId_compose]
    exact Nat.mod_eq_of_lt bounded
  have goesOn :
      withTransactionId (increment state.transactionId)
          (command.compose state.transactionId) =
        (increment state.transactionId,
          command.compose state.transactionId) :=
    if_neg fun atEnd => Nat.ne_of_gt past (composedId.symm.trans atEnd)
  unfold sendCommand
  simp only [goesOn]
  split
  · split
    · refine ⟨rfl, ?_⟩
      intro request written
      obtain rfl := Option.some.inj written
      exact composedId
    · exact ⟨rfl, fun request written => nomatch written⟩
  · exact ⟨rfl, fun request written => nomatch written⟩

/-- A command uses up one of those that are left. -/
theorem command
    {command : Command}
    {writes : Bool}
    (missed : Missed first (left + 1) world)
    (stepped :
      commands.step? world (.command command writes) = some next) :
    Missed first left next := by
  obtain ⟨past, bounded⟩ := missed.past (Nat.succ_ne_zero left)
  obtain ⟨-, moved⟩ := Option.ite_none_right_eq_some.mp stepped
  obtain rfl := Option.some.inj moved
  obtain ⟨counted, keepsId⟩ :=
    sendCommand_cases past (by omega) command writes
  refine ⟨?_, ?_⟩
  · intro more
    have small : world.state.transactionId + 1 < 4294967296 := by omega
    simp only [counted, increment, Nat.mod_eq_of_lt small]
    omega
  · intro request member isLater
    rcases List.mem_append.mp member with earlier | isNew
    · exact missed.large request earlier isLater
    · obtain ⟨message, written, rfl⟩ :=
        Option.map_eq_some_iff.mp (Option.mem_toList.mp isNew)
      exact lt_of_lt_of_eq past (keepsId message written).symm

/-- Any other step uses up none. -/
theorem other
    {event : Event}
    (missed : Missed first left world)
    (notCommand : event.isCommand = false)
    (stepped : commands.step? world event = some next) :
    Missed first left next := by
  obtain ⟨sameCounter, -, sameWritten⟩ := step_of_other notCommand stepped
  refine ⟨?_, ?_⟩
  · rw [sameCounter]
    exact missed.past
  · rw [sameWritten]
    exact missed.large

/-- The requests of a run are large as long as commands are left. -/
theorem run
    {source target : World}
    {events : List Event}
    (run : commands.Run source events target)
    (missed : Missed first (commandCount events) source) :
    Missed first 0 target := by
  induction run with
  | done state => exact missed
  | step event rest _ stepped _ inductionHypothesis =>
      refine inductionHypothesis ?_
      rcases event.isCommand_cases with ⟨command, writes, rfl⟩ | notCommand
      · exact Missed.command missed stepped
      · have sameCount : commandCount (event :: rest) = commandCount rest := by
          rw [commandCount, List.filter_cons_of_neg
            (Bool.eq_false_iff.mp notCommand)]
          rfl
        rw [sameCount] at missed
        exact missed.other notCommand stepped

end Missed

/--
A command that is composed when the counter is to start over, without a device
to send it to, takes the counter past its end: all the requests that are
written afterwards, until the counter overflows, have identifiers that reach
into the byte of the proxy.
-/
theorem unsent_command_misses_reset
    {source skipped target : World}
    {command : Command}
    {writes : Bool}
    {events : List Event}
    (atEnd : source.state.transactionId = resetAt)
    (notConnected : source.state.connected = false)
    (stepped :
      commands.step? source (.command command writes) = some skipped)
    (run : commands.Run skipped events target)
    (few : commandCount events ≤ 0xFEFFFFFF)
    (numbered :
      ∀ request ∈ source.written, request.number < source.composed) :
    ∀ request ∈ target.written,
      source.composed < request.number →
        0x1000000 < transactionId request.message := by
  obtain ⟨-, moved⟩ := Option.ite_none_right_eq_some.mp stepped
  obtain rfl := Option.some.inj moved
  have unsent :
      sendCommand source.state command writes =
        ({ source.state with transactionId := resetAt + 1 }, none) := by
    simp only [sendCommand, notConnected, atEnd]
    rfl
  have missed :
      Missed (source.composed + 1) (commandCount events)
        { source with
          state := (sendCommand source.state command writes).1
          composed := source.composed + 1
          written :=
            source.written ++
              ((sendCommand source.state command writes).2.map
                (Numbered.mk source.composed)).toList } := by
    constructor
    · rw [unsent]
      simp only [resetAt]
      omega
    · intro request member isLater
      rw [unsent] at member
      rw [Option.map_none, Option.toList_none, List.append_nil] at member
      have earlier := numbered request member
      omega
  exact (missed.run run).large

/-- The only command so far was not sent, and the device comes back. -/
theorem unsent_command_misses_reset_once :
    ∃ target,
      commands.Run
          ⟨⟨resetAt + 1, -1, false, none, none⟩, 0xFFFFFF + 1, [], [], []⟩
          [.readerStarts 7, .command .closeDevice true] target ∧
        target.written.length = 1 ∧
        ∀ request ∈ target.written,
          0xFFFFFF < request.number →
            0x1000000 < transactionId request.message := by
  have accepted :
      (commands.run?
          ⟨⟨resetAt + 1, -1, false, none, none⟩, 0xFFFFFF + 1, [], [], []⟩
          [.readerStarts 7, .command .closeDevice true]).map
        (·.written.length) = some 1 := by
    decide +kernel
  obtain ⟨target, reached, length⟩ := Option.map_eq_some_iff.mp accepted
  have run := System.run?_eq_some_iff.mp reached
  have skips :
      commands.step?
          ⟨⟨resetAt, -1, false, none, none⟩, 0xFFFFFF, [], [], []⟩
          (.command .closeDevice true) =
        some
          ⟨⟨resetAt + 1, -1, false, none, none⟩, 0xFFFFFF + 1, [], [],
            []⟩ :=
    rfl
  refine
    ⟨target, run, length,
      unsent_command_misses_reset rfl rfl skips run (by decide) ?_⟩
  exact fun request member => absurd member List.not_mem_nil

end RecomputerGateway.MbimCommand
