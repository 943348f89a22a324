import Mathlib.Data.List.Perm.Basic
import RecomputerGateway.Hexadecimal
import RecomputerGateway.Transition

namespace RecomputerGateway.AtCommands

open Hexadecimal (Byte)

/-!
# Commands on the AT channel

One command at a time is sent to the modem.  The thread that reads the lines
of the modem puts them into the response of that command, until a final line
completes it, or hands them to the handler of unsolicited lines.  A line that
announces a short message is handed over together with the line behind it,
whatever that one says.
-/

abbrev Line := List Byte

/-- The bytes of a text. -/
def line (text : String) : Line :=
  text.toList.map fun char => BitVec.ofNat 8 char.toNat

/-- `strStartsWith`. -/
def strStartsWith (text start : Line) : Bool :=
  decide (start <+: text)

/-- `s_finalResponsesError`. -/
def sFinalResponsesError : List Line :=
  [line "ERROR", line "+CMS ERROR:", line "+CME ERROR:", line "NO CARRIER",
    line "NO ANSWER", line "NO DIALTONE", line "COMMAND NOT SUPPORT"]

def isFinalResponseError (text : Line) : Bool :=
  sFinalResponsesError.any (strStartsWith text)

/-- `s_finalResponsesSuccess`. -/
def sFinalResponsesSuccess : List Line :=
  [line "OK", line "+QIND: \"FOTA\",\"END\",0", line "CONNECT"]

def isFinalResponseSuccess (text : Line) : Bool :=
  sFinalResponsesSuccess.any (strStartsWith text)

/-- `s_smsUnsoliciteds`; what `+CMTI:` announces has no second line. -/
def sSmsUnsoliciteds : List Line :=
  [line "+CMT:", line "+CDS:", line "+CBM:", line "+CMTI:"]

def isSmsUnsolicited (text : Line) : Bool :=
  sSmsUnsoliciteds.any (strStartsWith text)

/-- `ATCommandType`. -/
inductive CommandType where
  | noResult
  | numeric
  | singleLine
  | multiLine
  deriving DecidableEq

/-- `ATResponse`; the intermediate lines are kept in reverse order. -/
structure Response where
  success : Bool
  finalResponse : Option Line
  intermediates : List Line
  deriving DecidableEq

/-- `at_response_new`. -/
def Response.new : Response :=
  ⟨false, none, []⟩

/-- The command that is pending: `s_type`, `s_responsePrefix`, `sp_response`. -/
structure Pending where
  type : CommandType
  responsePrefix : Line
  response : Response
  deriving DecidableEq

/-- The static variables of `atchannel.c` that `processLine` uses. -/
structure Channel where
  atcProxy : Bool
  readerClosed : Bool
  pending : Option Pending
  smsPdu : Option (List Byte)
  rawData : Option (List Byte)
  deriving DecidableEq

/-- What a line leads to outside the channel. -/
inductive Effect where
  | unsolicited (text : Line) (smsPdu : Option Line)
  | writeRaw (data : List Byte)
  | writeCtrlZ (pdu : List Byte)
  deriving DecidableEq

def isDigit (byte : Byte) : Bool :=
  decide (0x30 ≤ byte.toNat ∧ byte.toNat ≤ 0x39)

/-- Whether the pending command takes a line that is not final. -/
def takesLine (pending : Pending) (text : Line) : Bool :=
  match pending.type with
  | .noResult => false
  | .numeric =>
      pending.response.intermediates.isEmpty && text.head?.any isDigit
  | .singleLine =>
      pending.response.intermediates.isEmpty &&
        strStartsWith text pending.responsePrefix
  | .multiLine => strStartsWith text pending.responsePrefix

/-- `addIntermediate` puts the line in front. -/
def Pending.addIntermediate (pending : Pending) (text : Line) : Pending :=
  { pending with
    response :=
      { pending.response with
        intermediates := text :: pending.response.intermediates } }

/-- `handleFinalResponse` with the success of the command. -/
def Pending.handleFinalResponse
    (pending : Pending)
    (success : Bool)
    (text : Line) : Pending :=
  { pending with
    response :=
      { pending.response with
        success := success, finalResponse := some text } }

/-- `handleUnsolicited` of a final line, which the AT proxy passes on. -/
def Channel.passOn (channel : Channel) (text : Line) : List Effect :=
  if channel.atcProxy then [.unsolicited text none] else []

/-- `processLine`. -/
def processLine
    (channel : Channel)
    (text : Line) : Channel × List Effect :=
  match channel.pending with
  | none => (channel, [.unsolicited text none])
  | some pending =>
      match channel.rawData, decide (text = line "CONNECT") with
      | some data, true => ({ channel with rawData := none }, [.writeRaw data])
      | _, _ =>
          if isFinalResponseSuccess text then
            ({ channel with
                pending := some (pending.handleFinalResponse true text) },
              channel.passOn text)
          else if isFinalResponseError text then
            ({ channel with
                pending := some (pending.handleFinalResponse false text) },
              channel.passOn text)
          else
            match channel.smsPdu, decide (text = line "> ") with
            | some pdu, true =>
                ({ channel with smsPdu := none }, [.writeCtrlZ pdu])
            | _, _ =>
                if takesLine pending text then
                  ({ channel with
                      pending := some (pending.addIntermediate text) }, [])
                else (channel, [.unsolicited text none])

/--
One turn of `readerLoop`.  A line that announces a short message is kept in
`line1`, and the next line goes with it to the handler.
-/
def readerLoop
    (line1 : Option Line)
    (channel : Channel)
    (text : Line) : Option Line × Channel × List Effect :=
  match line1 with
  | some first => (none, channel, [.unsolicited first (some text)])
  | none =>
      if isSmsUnsolicited text then (some text, channel, [])
      else (none, processLine channel text)

/-- `clearPendingCommand`, which leaves `s_raw_data` as it is. -/
def Channel.clearPendingCommand (channel : Channel) : Channel :=
  { channel with pending := none, smsPdu := none }

/-- `reverseIntermediates`. -/
def Response.reverseIntermediates (response : Response) : Response :=
  { response with intermediates := response.intermediates.reverse }

/-- A command that has returned with a response. -/
structure Completion where
  number : Nat
  response : Response
  answeredBy : Option Nat
  behind : Nat
  swallowed : Nat
  type : CommandType
  responsePrefix : Line
  line1 : Option Line
  heard : List Line
  handed : List (Line × Option Line)
  deriving DecidableEq

/--
The channel and the modem.  Of the last command it has the number, how many
others had no answer yet when it was sent, how many final lines were swallowed
since then, the command that its own final line answers, what the reader kept
when it was sent, and the lines that have come and gone to the handler since.
-/
structure World where
  channel : Channel
  line1 : Option Line
  issued : Nat
  unanswered : List Nat
  behind : Nat
  swallowed : Nat
  answeredBy : Option Nat
  line1AtSend : Option Line
  heard : List Line
  handed : List (Line × Option Line)
  completions : List Completion
  deriving DecidableEq

inductive Event where
  | send (type : CommandType) (responsePrefix : Line)
  | info (text : Line)
  | final (text : Line)
  | wake
  | timeout
  | close
  deriving DecidableEq

/-- The calls of the handler among the effects. -/
def handlerCalls (effects : List Effect) : List (Line × Option Line) :=
  effects.filterMap fun effect =>
    match effect with
    | .unsolicited text smsPdu => some (text, smsPdu)
    | .writeRaw _ => none
    | .writeCtrlZ _ => none

/-- The reader gets the next line. -/
def World.hear (world : World) (text : Line) : World :=
  let turn := readerLoop world.line1 world.channel text
  { world with
    line1 := turn.1
    channel := turn.2.1
    heard := world.heard ++ [text]
    handed := world.handed ++ handlerCalls turn.2.2 }

/-- One step of the caller, of the reader or of the modem. -/
def step? (world : World) : Event → Option World
  | .send type responsePrefix =>
      if world.channel.pending = none ∧ world.channel.readerClosed = false then
        some
          { world with
            channel :=
              { world.channel with
                pending := some ⟨type, responsePrefix, .new⟩
                smsPdu := none }
            issued := world.issued + 1
            unanswered := world.unanswered ++ [world.issued]
            behind := world.unanswered.length
            swallowed := 0
            answeredBy := none
            line1AtSend := world.line1
            heard := []
            handed := [] }
      else none
  | .info text => some (world.hear text)
  | .final text =>
      -- The modem answers the commands in the order in which they were sent.
      match world.unanswered, world.line1 with
      | [], _ => none
      | number :: rest, none =>
          some
            { world.hear text with
              unanswered := rest
              answeredBy := some number }
      | _ :: rest, some _ =>
          some
            { world.hear text with
              unanswered := rest
              swallowed := world.swallowed + 1 }
  | .wake =>
      match world.channel.pending with
      | none => none
      | some pending =>
          if world.channel.readerClosed then
            some { world with channel := world.channel.clearPendingCommand }
          else if pending.response.finalResponse = none then none
          else
            some
              { world with
                channel := world.channel.clearPendingCommand
                completions :=
                  world.completions ++
                    [⟨world.issued - 1,
                        pending.response.reverseIntermediates,
                        world.answeredBy, world.behind, world.swallowed,
                        pending.type, pending.responsePrefix,
                        world.line1AtSend, world.heard, world.handed⟩] }
  | .timeout =>
      if world.channel.pending = none then none
      else some { world with channel := world.channel.clearPendingCommand }
  | .close =>
      some
        { world with channel := { world.channel with readerClosed := true } }

/-- The channel after `at_open`. -/
def channels : System World Event where
  Initial world :=
    world.channel.readerClosed = false ∧ world.channel.pending = none ∧
      world.channel.smsPdu = none ∧ world.channel.rawData = none ∧
      world.line1 = none ∧ world.issued = 0 ∧ world.unanswered = [] ∧
      world.completions = []
  step? := step?

/-- A line that completes a command. -/
def isFinal (text : Line) : Bool :=
  isFinalResponseSuccess text || isFinalResponseError text

/-- The lines that a response of a type takes out of those that come. -/
def takenLines
    (type : CommandType)
    (responsePrefix : Line)
    (lines : List Line) : List Line :=
  match type with
  | .noResult => []
  | .numeric => (lines.filter fun text => text.head?.any isDigit).take 1
  | .singleLine =>
      (lines.filter fun text => strStartsWith text responsePrefix).take 1
  | .multiLine => lines.filter fun text => strStartsWith text responsePrefix

/-- The first of some lines and one more. -/
theorem take_one_append
    (lines : List Line)
    (text : Line) :
    (lines ++ [text]).take 1 =
      if lines.isEmpty then [text] else lines.take 1 := by
  cases lines with
  | nil => rfl
  | cons first rest => rfl

/-- A line is taken exactly when the pending command takes it. -/
theorem takenLines_append
    {pending : Pending}
    {lines : List Line}
    (taken :
      pending.response.intermediates =
        (takenLines pending.type pending.responsePrefix lines).reverse)
    (text : Line) :
    takenLines pending.type pending.responsePrefix (lines ++ [text]) =
      takenLines pending.type pending.responsePrefix lines ++
        (if takesLine pending text then [text] else []) := by
  have oneOf :
      ∀ wanted : Line → Bool,
        ((lines ++ [text]).filter wanted).take 1 =
          (lines.filter wanted).take 1 ++
            (if ((lines.filter wanted).take 1).reverse.isEmpty &&
                wanted text then [text] else []) := by
    intro wanted
    rw [List.filter_append]
    cases isWanted : wanted text with
    | false => simp [isWanted]
    | true =>
        rw [List.filter_singleton, isWanted, cond_true, take_one_append]
        cases lines.filter wanted with
        | nil => rfl
        | cons first rest => simp
  unfold takesLine
  rw [taken]
  unfold takenLines
  cases pending.type with
  | noResult => rfl
  | numeric => exact oneOf _
  | singleLine => exact oneOf _
  | multiLine =>
      simp only [List.filter_append, List.filter_singleton,
        Bool.cond_eq_ite]

section Processing

variable {channel : Channel}
variable {pending : Pending}
variable {text : Line}

theorem processLine_idle
    (isIdle : channel.pending = none)
    (text : Line) :
    processLine channel text = (channel, [.unsolicited text none]) := by
  rw [processLine, isIdle]

/-- A line that is not final is taken by the command or handed on. -/
theorem processLine_info
    (isPending : channel.pending = some pending)
    (noPdu : channel.smsPdu = none)
    (noData : channel.rawData = none)
    (notFinal : isFinal text = false) :
    processLine channel text =
      if takesLine pending text then
        ({ channel with pending := some (pending.addIntermediate text) }, [])
      else (channel, [.unsolicited text none]) := by
  obtain ⟨notSuccess, notError⟩ := Bool.or_eq_false_iff.mp notFinal
  rw [processLine, isPending]
  simp only [noData, noPdu, notSuccess, notError, Bool.false_eq_true,
    if_false]

/-- A final line completes the command. -/
theorem processLine_final
    (isPending : channel.pending = some pending)
    (noData : channel.rawData = none)
    (isLast : isFinal text = true) :
    ∃ success,
      processLine channel text =
        ({ channel with
            pending := some (pending.handleFinalResponse success text) },
          channel.passOn text) := by
  rw [processLine, isPending]
  simp only [noData]
  cases succeeds : isFinalResponseSuccess text with
  | true => exact ⟨true, rfl⟩
  | false =>
      have fails : isFinalResponseError text = true := by
        rw [isFinal, succeeds, Bool.false_or] at isLast
        exact isLast
      simp only [fails, Bool.false_eq_true, if_false, if_true]
      exact ⟨false, rfl⟩

end Processing

/-- What `readerLoop` has done with the lines so far. -/
structure Reading where
  line1 : Option Line
  processed : List Line
  notices : List (Line × Option Line)

/-- The reading goes on with one more line. -/
def Reading.next (reading : Reading) (text : Line) : Reading :=
  match reading.line1 with
  | some first =>
      { reading with
        line1 := none
        notices := reading.notices ++ [(first, some text)] }
  | none =>
      if isSmsUnsolicited text then { reading with line1 := some text }
      else { reading with processed := reading.processed ++ [text] }

/-- The reading of some lines, from what is kept before the first on. -/
def readingOf (line1 : Option Line) (lines : List Line) : Reading :=
  lines.foldl Reading.next ⟨line1, [], []⟩

/-- The lines that reach `processLine` and are not final. -/
def Reading.informing (reading : Reading) : List Line :=
  reading.processed.filter fun text => !isFinal text

/-- The lines, other than final ones, that the handler got by themselves. -/
def plainLines (handed : List (Line × Option Line)) : List Line :=
  ((handed.filter (·.2.isNone)).map (·.1)).filter fun text => !isFinal text

/-- The lines that reach a command are in its response or handed on. -/
structure Sorted
    (type : CommandType)
    (responsePrefix : Line)
    (inOrder : List Line)
    (reading : Reading)
    (handed : List (Line × Option Line)) : Prop where
  taken : inOrder = takenLines type responsePrefix reading.informing
  all : reading.informing.Perm (inOrder ++ plainLines handed)
  notices : handed.filter (·.2.isSome) = reading.notices

namespace Reading

variable {reading : Reading}
variable {text first : Line}

theorem next_notice
    (isKept : reading.line1 = some first)
    (text : Line) :
    reading.next text =
      { reading with
        line1 := none
        notices := reading.notices ++ [(first, some text)] } := by
  rw [next, isKept]

theorem next_kept
    (isNone : reading.line1 = none)
    (isSms : isSmsUnsolicited text = true) :
    reading.next text = { reading with line1 := some text } := by
  simp only [next, isNone, isSms, if_true]

theorem next_processed
    (isNone : reading.line1 = none)
    (notSms : isSmsUnsolicited text = false) :
    reading.next text =
      { reading with processed := reading.processed ++ [text] } := by
  simp only [next, isNone, notSms, Bool.false_eq_true, if_false]

theorem informing_next
    (isNone : reading.line1 = none)
    (notSms : isSmsUnsolicited text = false) :
    (reading.next text).informing =
      reading.informing ++ if isFinal text then [] else [text] := by
  rw [next_processed isNone notSms, informing, List.filter_append]
  cases isLast : isFinal text with
  | true => simp [informing, isLast]
  | false => simp [informing, isLast]

end Reading

theorem plainLines_append (handed more : List (Line × Option Line)) :
    plainLines (handed ++ more) = plainLines handed ++ plainLines more := by
  simp only [plainLines, List.filter_append, List.map_append]

namespace Sorted

variable {type : CommandType}
variable {responsePrefix text : Line}
variable {inOrder : List Line}
variable {reading : Reading}
variable {handed : List (Line × Option Line)}

/-- A short message goes to the handler, and to no command. -/
theorem notice
    {first : Line}
    (sorted : Sorted type responsePrefix inOrder reading handed)
    (isKept : reading.line1 = some first)
    (text : Line) :
    Sorted type responsePrefix inOrder (reading.next text)
      (handed ++ [(first, some text)]) := by
  rw [Reading.next_notice isKept]
  refine ⟨sorted.taken, ?_, ?_⟩
  · rw [plainLines_append]
    exact (List.append_nil (plainLines handed)).symm ▸ sorted.all
  · rw [List.filter_append, sorted.notices]
    rfl

/-- The line that announces it is kept for the next one. -/
theorem kept
    (sorted : Sorted type responsePrefix inOrder reading handed)
    (isNone : reading.line1 = none)
    (isSms : isSmsUnsolicited text = true) :
    Sorted type responsePrefix inOrder (reading.next text) handed := by
  rw [Reading.next_kept isNone isSms]
  exact ⟨sorted.taken, sorted.all, sorted.notices⟩

/-- A final line is in none of the lists, even if it is passed on. -/
theorem final
    (sorted : Sorted type responsePrefix inOrder reading handed)
    (isNone : reading.line1 = none)
    (notSms : isSmsUnsolicited text = false)
    (isLast : isFinal text = true)
    (channel : Channel) :
    Sorted type responsePrefix inOrder (reading.next text)
      (handed ++ handlerCalls (channel.passOn text)) := by
  have same : (reading.next text).informing = reading.informing := by
    rw [Reading.informing_next isNone notSms, isLast, if_pos rfl,
      List.append_nil]
  have noPlain : plainLines (handlerCalls (channel.passOn text)) = [] := by
    unfold Channel.passOn
    split
    · simp [handlerCalls, plainLines, isLast]
    · rfl
  have noNotice :
      (handlerCalls (channel.passOn text)).filter (·.2.isSome) = [] := by
    unfold Channel.passOn
    split <;> rfl
  refine ⟨same ▸ sorted.taken, ?_, ?_⟩
  · rw [same, plainLines_append, noPlain, List.append_nil]
    exact sorted.all
  · rw [List.filter_append, noNotice, List.append_nil, sorted.notices,
      Reading.next_processed isNone notSms]

/-- A line is added to the response. -/
theorem added
    (sorted : Sorted type responsePrefix inOrder reading handed)
    (isNone : reading.line1 = none)
    (notSms : isSmsUnsolicited text = false)
    (notFinal : isFinal text = false)
    (takes :
      takenLines type responsePrefix (reading.informing ++ [text]) =
        takenLines type responsePrefix reading.informing ++ [text]) :
    Sorted type responsePrefix (inOrder ++ [text]) (reading.next text)
      handed := by
  have longer :
      (reading.next text).informing = reading.informing ++ [text] := by
    rw [Reading.informing_next isNone notSms, notFinal,
      if_neg Bool.false_ne_true]
  refine ⟨?_, ?_, ?_⟩
  · rw [longer, takes, sorted.taken]
  · have moved := sorted.all.append_right [text]
    rw [longer]
    rw [List.append_assoc] at moved ⊢
    exact moved.trans (List.perm_append_comm.append_left inOrder)
  · rw [Reading.next_processed isNone notSms]
    exact sorted.notices

/-- A line is handed on. -/
theorem handedOn
    (sorted : Sorted type responsePrefix inOrder reading handed)
    (isNone : reading.line1 = none)
    (notSms : isSmsUnsolicited text = false)
    (notFinal : isFinal text = false)
    (refuses :
      takenLines type responsePrefix (reading.informing ++ [text]) =
        takenLines type responsePrefix reading.informing) :
    Sorted type responsePrefix inOrder (reading.next text)
      (handed ++ [(text, none)]) := by
  have longer :
      (reading.next text).informing = reading.informing ++ [text] := by
    rw [Reading.informing_next isNone notSms, notFinal,
      if_neg Bool.false_ne_true]
  have isPlain : plainLines [(text, none)] = [text] := by
    simp [plainLines, notFinal]
  refine ⟨?_, ?_, ?_⟩
  · rw [longer, refuses, sorted.taken]
  · rw [longer, plainLines_append, isPlain, ← List.append_assoc]
    exact sorted.all.append_right [text]
  · rw [Reading.next_processed isNone notSms, List.filter_append,
      sorted.notices]
    exact List.append_nil _

end Sorted

/-- The reading of the lines since the last command was sent. -/
def World.reading (world : World) : Reading :=
  readingOf world.line1AtSend world.heard

/-- Every line is in the response of its command, in order, or handed on. -/
structure Accounts (world : World) : Prop where
  noPdu : world.channel.smsPdu = none
  noData : world.channel.rawData = none
  pending :
    ∀ pending,
      world.channel.pending = some pending →
        world.line1 = world.reading.line1 ∧
          Sorted pending.type pending.responsePrefix
            pending.response.intermediates.reverse world.reading world.handed
  completed :
    ∀ completion ∈ world.completions,
      Sorted completion.type completion.responsePrefix
        completion.response.intermediates
        (readingOf completion.line1 completion.heard) completion.handed

section Hearing

variable {world : World}
variable {text : Line}

theorem reading_hear (world : World) (text : Line) :
    (world.hear text).reading = world.reading.next text :=
  List.foldl_append

/-- The line behind one that announces a short message. -/
theorem hear_notice
    {first : Line}
    (isKept : world.line1 = some first)
    (text : Line) :
    world.hear text =
      { world with
        line1 := none
        heard := world.heard ++ [text]
        handed := world.handed ++ [(first, some text)] } := by
  unfold World.hear
  rw [isKept]
  rfl

/-- A line that announces a short message. -/
theorem hear_kept
    (isNone : world.line1 = none)
    (isSms : isSmsUnsolicited text = true) :
    world.hear text =
      { world with line1 := some text, heard := world.heard ++ [text] } := by
  simp only [World.hear, readerLoop, isNone, isSms, if_true, handlerCalls,
    List.filterMap_nil, List.append_nil]

/-- Any other line is processed. -/
theorem hear_processed
    (isNone : world.line1 = none)
    (notSms : isSmsUnsolicited text = false) :
    world.hear text =
      { world with
        channel := (processLine world.channel text).1
        heard := world.heard ++ [text]
        handed :=
          world.handed ++
            handlerCalls (processLine world.channel text).2 } := by
  simp only [World.hear, readerLoop, isNone, notSms, Bool.false_eq_true,
    if_false]

/-- While no command is pending, a line leaves the channel as it is. -/
theorem hear_idle
    (isIdle : world.channel.pending = none)
    (text : Line) :
    (world.hear text).channel = world.channel := by
  cases isKept : world.line1 with
  | some first => rw [hear_notice isKept]
  | none =>
      cases isSms : isSmsUnsolicited text with
      | true => rw [hear_kept isKept isSms]
      | false =>
          rw [hear_processed isKept isSms]
          simp only [processLine_idle isIdle]

end Hearing

/-- The end of an answer reaches a command, or is swallowed. -/
theorem final_cases
    {world next : World}
    {text : Line}
    (stepped : step? world (.final text) = some next) :
    ∃ number rest,
      world.unanswered = number :: rest ∧
        (world.line1 = none ∧
            next =
              { world.hear text with
                unanswered := rest, answeredBy := some number } ∨
          ∃ first,
            world.line1 = some first ∧
              next =
                { world.hear text with
                  unanswered := rest
                  swallowed := world.swallowed + 1 }) := by
  cases waiting : world.unanswered with
  | nil =>
      simp only [step?, waiting] at stepped
      exact nomatch stepped
  | cons number rest =>
      refine ⟨number, rest, rfl, ?_⟩
      cases isKept : world.line1 with
      | none =>
          simp only [step?, waiting, isKept, Option.some.injEq] at stepped
          exact Or.inl ⟨rfl, stepped.symm⟩
      | some first =>
          simp only [step?, waiting, isKept, Option.some.injEq] at stepped
          exact Or.inr ⟨first, rfl, stepped.symm⟩

/-- A command returns with its response, unless the channel is closed. -/
theorem wake_cases
    {world next : World}
    (stepped : step? world .wake = some next) :
    ∃ pending,
      world.channel.pending = some pending ∧
        (world.channel.readerClosed = true ∧
            next =
              { world with channel := world.channel.clearPendingCommand } ∨
          world.channel.readerClosed = false ∧
            pending.response.finalResponse ≠ none ∧
            next =
              { world with
                channel := world.channel.clearPendingCommand
                completions :=
                  world.completions ++
                    [⟨world.issued - 1,
                        pending.response.reverseIntermediates,
                        world.answeredBy, world.behind, world.swallowed,
                        pending.type, pending.responsePrefix,
                        world.line1AtSend, world.heard, world.handed⟩] }) := by
  cases isPending : world.channel.pending with
  | none =>
      simp only [step?, isPending] at stepped
      exact nomatch stepped
  | some pending =>
      refine ⟨pending, rfl, ?_⟩
      simp only [step?, isPending] at stepped
      cases closed : world.channel.readerClosed with
      | true =>
          rw [closed, if_pos rfl] at stepped
          exact Or.inl ⟨rfl, (Option.some.inj stepped).symm⟩
      | false =>
          rw [closed, if_neg Bool.false_ne_true] at stepped
          obtain ⟨isComplete, moved⟩ :=
            Option.ite_none_left_eq_some.mp stepped
          exact Or.inr ⟨rfl, isComplete, (Option.some.inj moved).symm⟩

namespace Accounts

variable {world next : World}

theorem initial
    (isInitial : channels.Initial world) :
    Accounts world := by
  obtain ⟨-, isIdle, noPdu, noData, -, -, -, noCompletions⟩ := isInitial
  refine ⟨noPdu, noData, ?_, ?_⟩
  · intro pending isPending
    exact nomatch isIdle.symm.trans isPending
  · rw [noCompletions]
    exact List.forall_mem_nil _

/-- What the reader keeps agrees with the lines that it has read. -/
theorem line1_hear
    (sameLine : world.line1 = world.reading.line1)
    (text : Line) :
    (world.hear text).line1 = (world.reading.next text).line1 := by
  cases isKept : world.line1 with
  | some first =>
      rw [hear_notice isKept,
        Reading.next_notice (sameLine.symm.trans isKept)]
  | none =>
      have readNone := sameLine.symm.trans isKept
      cases isSms : isSmsUnsolicited text with
      | true =>
          rw [hear_kept isKept isSms, Reading.next_kept readNone isSms]
      | false =>
          rw [hear_processed isKept isSms,
            Reading.next_processed readNone isSms]
          exact sameLine

/-- A line that has been heard while a command is pending. -/
theorem of_pending
    {before after : Pending}
    {text : Line}
    (accounts : Accounts world)
    (isPending : world.channel.pending = some before)
    (channel :
      (world.hear text).channel =
        { world.channel with pending := some after })
    (sorted :
      Sorted after.type after.responsePrefix
        after.response.intermediates.reverse (world.reading.next text)
        (world.hear text).handed) :
    Accounts (world.hear text) := by
  have sameLine := (accounts.pending before isPending).1
  refine ⟨?_, ?_, ?_, accounts.completed⟩
  · rw [channel]
    exact accounts.noPdu
  · rw [channel]
    exact accounts.noData
  · intro current isCurrent
    rw [channel] at isCurrent
    obtain rfl := Option.some.inj isCurrent
    rw [reading_hear]
    exact ⟨line1_hear sameLine text, sorted⟩

/-- A line that is processed is final, or taken, or handed on. -/
theorem processed
    {pending : Pending}
    {text : Line}
    (accounts : Accounts world)
    (isPending : world.channel.pending = some pending)
    (isNone : world.line1 = none)
    (notSms : isSmsUnsolicited text = false) :
    Accounts (world.hear text) := by
  obtain ⟨sameLine, sorted⟩ := accounts.pending pending isPending
  have readNone := sameLine.symm.trans isNone
  have heard := hear_processed isNone notSms
  cases isLast : isFinal text with
  | true =>
      obtain ⟨success, processed⟩ :=
        processLine_final isPending accounts.noData isLast
      rw [processed] at heard
      refine accounts.of_pending isPending (by rw [heard]) ?_
      rw [heard]
      exact sorted.final readNone notSms isLast world.channel
  | false =>
      have taken :
          pending.response.intermediates =
            (takenLines pending.type pending.responsePrefix
              world.reading.informing).reverse := by
        rw [← sorted.taken, List.reverse_reverse]
      have more := takenLines_append taken text
      rw [processLine_info isPending accounts.noPdu accounts.noData isLast]
        at heard
      cases takes : takesLine pending text with
      | true =>
          rw [takes, if_pos rfl] at more
          rw [takes, if_pos rfl] at heard
          refine accounts.of_pending isPending (by rw [heard]) ?_
          rw [heard]
          simp only [Pending.addIntermediate, List.reverse_cons,
            handlerCalls, List.filterMap_nil, List.append_nil]
          exact sorted.added readNone notSms isLast more
      | false =>
          rw [takes, if_neg Bool.false_ne_true, List.append_nil] at more
          rw [takes, if_neg Bool.false_ne_true] at heard
          refine accounts.of_pending isPending (by rw [heard, ← isPending]) ?_
          rw [heard]
          exact sorted.handedOn readNone notSms isLast more

/-- Every line is accounted for. -/
theorem hear
    (accounts : Accounts world)
    (text : Line) :
    Accounts (world.hear text) := by
  cases isPending : world.channel.pending with
  | none =>
      have same := hear_idle isPending text
      refine
        ⟨same ▸ accounts.noPdu, same ▸ accounts.noData, ?_,
          accounts.completed⟩
      intro pending isSome
      rw [same] at isSome
      exact nomatch isPending.symm.trans isSome
  | some pending =>
      obtain ⟨sameLine, sorted⟩ := accounts.pending pending isPending
      cases isKept : world.line1 with
      | some first =>
          have readKept := sameLine.symm.trans isKept
          have heard := hear_notice isKept text
          refine
            accounts.of_pending isPending (by rw [heard, ← isPending]) ?_
          rw [heard]
          exact sorted.notice readKept text
      | none =>
          have readNone := sameLine.symm.trans isKept
          cases isSms : isSmsUnsolicited text with
          | true =>
              have heard := hear_kept isKept isSms
              refine
                accounts.of_pending isPending (by rw [heard, ← isPending]) ?_
              rw [heard]
              exact sorted.kept readNone isSms
          | false => exact accounts.processed isPending isKept isSms

/-- The modem may count a line as an answer; the lines do not change. -/
theorem final
    {text : Line}
    (accounts : Accounts world)
    (stepped : step? world (.final text) = some next) :
    Accounts next := by
  have heard := accounts.hear text
  obtain ⟨number, rest, -, ⟨-, rfl⟩ | ⟨first, -, rfl⟩⟩ :=
    final_cases stepped
  · exact ⟨heard.noPdu, heard.noData, heard.pending, heard.completed⟩
  · exact ⟨heard.noPdu, heard.noData, heard.pending, heard.completed⟩

/-- A command returns with the lines of its response. -/
theorem wake
    (accounts : Accounts world)
    (stepped : step? world .wake = some next) :
    Accounts next := by
  obtain ⟨pending, isPending, ⟨-, rfl⟩ | ⟨-, -, rfl⟩⟩ := wake_cases stepped
  · exact
      ⟨rfl, accounts.noData, fun current isCurrent => (nomatch isCurrent),
        accounts.completed⟩
  · refine
      ⟨rfl, accounts.noData, fun current isCurrent => (nomatch isCurrent),
        ?_⟩
    intro completion member
    rcases List.mem_append.mp member with earlier | isNew
    · exact accounts.completed completion earlier
    · obtain rfl := List.mem_singleton.mp isNew
      exact (accounts.pending pending isPending).2

/-- One step keeps account of the lines. -/
theorem step
    {event : Event}
    (accounts : Accounts world)
    (stepped : channels.step? world event = some next) :
    Accounts next := by
  cases event with
  | send type responsePrefix =>
      obtain ⟨-, moved⟩ := Option.ite_none_right_eq_some.mp stepped
      obtain rfl := Option.some.inj moved
      refine ⟨rfl, accounts.noData, ?_, accounts.completed⟩
      intro pending isPending
      obtain rfl := Option.some.inj isPending
      refine ⟨rfl, ?_, .refl [], rfl⟩
      cases type <;> rfl
  | info text =>
      obtain rfl := Option.some.inj stepped
      exact accounts.hear text
  | final text => exact accounts.final stepped
  | wake => exact accounts.wake stepped
  | timeout =>
      obtain ⟨-, moved⟩ := Option.ite_none_left_eq_some.mp stepped
      obtain rfl := Option.some.inj moved
      refine ⟨rfl, accounts.noData, ?_, accounts.completed⟩
      exact fun pending isPending => nomatch isPending
  | close =>
      obtain rfl := Option.some.inj stepped
      exact
        ⟨accounts.noPdu, accounts.noData, accounts.pending,
          accounts.completed⟩

end Accounts

/--
The response of every command has exactly those of the lines that reached
`processLine` since it was sent, other than final ones, that its type asks
for, in their order; all the others have been handed on by themselves, and
each line behind one that announces a short message together with that one.
-/
theorem responses_take_their_lines
    {source target : World}
    {events : List Event}
    (isInitial : channels.Initial source)
    (run : channels.Run source events target) :
    ∀ completion ∈ target.completions,
      let reading := readingOf completion.line1 completion.heard
      completion.response.intermediates =
          takenLines completion.type completion.responsePrefix
            reading.informing ∧
        reading.informing.Perm
          (completion.response.intermediates ++
            plainLines completion.handed) ∧
        completion.handed.filter (·.2.isSome) = reading.notices := by
  have accounts :=
    run.invariant Accounts
      (fun _ _ _ accounts _ stepped => accounts.step stepped)
      (Accounts.initial isInitial)
  intro completion member
  have sorted := accounts.completed completion member
  exact ⟨sorted.taken, sorted.all, sorted.notices⟩

/-- An open channel on which no command has been sent. -/
def exampleWorld : World where
  channel := ⟨false, false, none, none, none⟩
  line1 := none
  issued := 0
  unanswered := []
  behind := 0
  swallowed := 0
  answeredBy := none
  line1AtSend := none
  heard := []
  handed := []
  completions := []

theorem exampleWorld_initial : channels.Initial exampleWorld :=
  ⟨rfl, rfl, rfl, rfl, rfl, rfl, rfl, rfl⟩

/-- A query whose answer is interrupted by a state and by a short message. -/
def queryEvents : List Event :=
  [.send .multiLine (line "+CGDCONT:"), .info (line "+CGDCONT: 1"),
    .info (line "+CREG: 1"), .info (line "+CMT: ,24"),
    .info (line "+CGDCONT: 9"), .info (line "+CGDCONT: 2"),
    .final (line "OK"), .wake]

theorem responses_take_their_lines_query :
    ∃ target completion,
      channels.Run exampleWorld queryEvents target ∧
        completion ∈ target.completions ∧
        completion.response.intermediates =
          [line "+CGDCONT: 1", line "+CGDCONT: 2"] ∧
        completion.handed.filter (·.2.isSome) =
          [(line "+CMT: ,24", some (line "+CGDCONT: 9"))] := by
  have accepted :
      (channels.run? exampleWorld queryEvents).bind
          (·.completions.head?.map fun completion =>
            (completion.type, completion.responsePrefix, completion.line1,
              completion.heard)) =
        some
          (.multiLine, line "+CGDCONT:", none,
            [line "+CGDCONT: 1", line "+CREG: 1", line "+CMT: ,24",
              line "+CGDCONT: 9", line "+CGDCONT: 2", line "OK"]) := by
    decide +kernel
  obtain ⟨target, reached, ends⟩ := Option.bind_eq_some_iff.mp accepted
  obtain ⟨completion, isFirst, shape⟩ := Option.map_eq_some_iff.mp ends
  simp only [Prod.mk.injEq] at shape
  obtain ⟨type, responsePrefix, line1, heard⟩ := shape
  have run := System.run?_eq_some_iff.mp reached
  have member := List.mem_of_head? isFirst
  obtain ⟨taken, -, notices⟩ :=
    responses_take_their_lines exampleWorld_initial run completion member
  rw [type, responsePrefix, line1, heard] at taken
  rw [line1, heard] at notices
  refine
    ⟨target, completion, run, member, taken.trans ?_, notices.trans ?_⟩
  · decide +kernel
  · decide +kernel

end RecomputerGateway.AtCommands
