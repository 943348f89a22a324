import RecomputerGateway.AtCommands

namespace RecomputerGateway.AtCommands

/-!
# Whose answer a command returns with

The lines of the modem carry no number, so that a final line completes
whatever command is pending; and a final line that comes right behind the
announcement of a short message completes none.  A command that gives up
waiting leaves its answer to the ones after it.
-/

/--
The modem ends each answer, and nothing else, with a final line; what stands
behind the line that announces a short message may be anything.
-/
def WellSpoken (world : World) : Event → Prop
  | .info text => world.line1 = none → isFinal text = false
  | .final text => isFinal text = true
  | _ => True

instance (world : World) (event : Event) :
    Decidable (WellSpoken world event) := by
  unfold WellSpoken
  split <;> infer_instance

/-- A command that has its final line returns before the next one comes. -/
def Awake (world : World) : Event → Prop
  | .final _ =>
      ∀ pending ∈ world.channel.pending,
        pending.response.finalResponse = none
  | _ => True

instance (world : World) (event : Event) :
    Decidable (Awake world event) := by
  unfold Awake
  split <;> infer_instance

/-- No final line begins like the announcement of a short message. -/
theorem not_sms_of_isFinal
    {text : Line}
    (isLast : isFinal text = true) :
    isSmsUnsolicited text = false := by
  have apart :
      ∀ start ∈ sSmsUnsoliciteds,
        ∀ last ∈ sFinalResponsesSuccess ++ sFinalResponsesError,
          ¬ start <+: last ∧ ¬ last <+: start := by
    decide +kernel
  refine List.any_eq_false.mpr ?_
  intro start isStart starts
  have hasStart : start <+: text := of_decide_eq_true starts
  have ends :
      ∃ last ∈ sFinalResponsesSuccess ++ sFinalResponsesError,
        last <+: text := by
    rcases Bool.or_eq_true_iff.mp isLast with success | error
    · obtain ⟨last, isIt, begins⟩ := List.any_eq_true.mp success
      exact
        ⟨last, List.mem_append_left _ isIt, of_decide_eq_true begins⟩
    · obtain ⟨last, isIt, begins⟩ := List.any_eq_true.mp error
      exact
        ⟨last, List.mem_append_right _ isIt, of_decide_eq_true begins⟩
  obtain ⟨last, isIt, hasLast⟩ := ends
  obtain ⟨notShorter, notLonger⟩ := apart start isStart last isIt
  exact
    (List.prefix_or_prefix_of_prefix hasStart hasLast).elim notShorter
      notLonger

/-- A line that is not final changes neither the command nor its final line. -/
theorem processLine_info_pending
    {channel : Channel}
    {text : Line}
    (noPdu : channel.smsPdu = none)
    (noData : channel.rawData = none)
    (notFinal : isFinal text = false)
    {after : Pending}
    (isAfter : (processLine channel text).1.pending = some after) :
    ∃ before,
      channel.pending = some before ∧
        after.response.finalResponse = before.response.finalResponse := by
  cases isPending : channel.pending with
  | none =>
      rw [processLine_idle isPending, isPending] at isAfter
      exact nomatch isAfter
  | some before =>
      refine ⟨before, rfl, ?_⟩
      rw [processLine_info isPending noPdu noData notFinal] at isAfter
      split at isAfter
      · rw [← Option.some.inj isAfter]
        rfl
      · rw [Option.some.inj (isPending.symm.trans isAfter)]

/-- A line never closes the channel, and leaves a quiet one quiet. -/
theorem processLine_quiet
    {channel : Channel}
    (noPdu : channel.smsPdu = none)
    (noData : channel.rawData = none)
    (text : Line) :
    (processLine channel text).1.readerClosed = channel.readerClosed ∧
      (processLine channel text).1.smsPdu = none ∧
      (processLine channel text).1.rawData = none ∧
      ((processLine channel text).1.pending = none ↔
        channel.pending = none) := by
  cases isPending : channel.pending with
  | none =>
      rw [processLine_idle isPending]
      exact ⟨rfl, noPdu, noData, by simp only [isPending]⟩
  | some pending =>
      cases isLast : isFinal text with
      | true =>
          obtain ⟨success, processed⟩ :=
            processLine_final isPending noData isLast
          rw [processed]
          exact ⟨rfl, noPdu, noData, iff_of_false nofun nofun⟩
      | false =>
          rw [processLine_info isPending noPdu noData isLast]
          split
          · exact ⟨rfl, noPdu, noData, iff_of_false nofun nofun⟩
          · exact ⟨rfl, noPdu, noData, by simp only [isPending]⟩

section Hearing

variable {world : World}
variable {text : Line}

/-- What has been heard never closes the channel either. -/
theorem hear_quiet
    (noPdu : world.channel.smsPdu = none)
    (noData : world.channel.rawData = none)
    (text : Line) :
    (world.hear text).channel.readerClosed = world.channel.readerClosed ∧
      (world.hear text).channel.smsPdu = none ∧
      (world.hear text).channel.rawData = none ∧
      ((world.hear text).channel.pending = none ↔
        world.channel.pending = none) := by
  cases isKept : world.line1 with
  | some first =>
      rw [hear_notice isKept]
      exact ⟨rfl, noPdu, noData, Iff.rfl⟩
  | none =>
      cases isSms : isSmsUnsolicited text with
      | true =>
          rw [hear_kept isKept isSms]
          exact ⟨rfl, noPdu, noData, Iff.rfl⟩
      | false =>
          rw [hear_processed isKept isSms]
          exact processLine_quiet noPdu noData text

/-- A line that is no answer completes no command. -/
theorem hear_info_pending
    (noPdu : world.channel.smsPdu = none)
    (noData : world.channel.rawData = none)
    (wellSpoken : WellSpoken world (.info text))
    {after : Pending}
    (isAfter : (world.hear text).channel.pending = some after) :
    ∃ before,
      world.channel.pending = some before ∧
        after.response.finalResponse = before.response.finalResponse := by
  cases isKept : world.line1 with
  | some first =>
      rw [hear_notice isKept] at isAfter
      exact ⟨after, isAfter, rfl⟩
  | none =>
      cases isSms : isSmsUnsolicited text with
      | true =>
          rw [hear_kept isKept isSms] at isAfter
          exact ⟨after, isAfter, rfl⟩
      | false =>
          rw [hear_processed isKept isSms] at isAfter
          exact
            processLine_info_pending noPdu noData (wellSpoken isKept) isAfter

/-- The end of an answer completes the command that is pending. -/
theorem hear_final_pending
    {pending : Pending}
    (noData : world.channel.rawData = none)
    (isLast : isFinal text = true)
    (isNone : world.line1 = none)
    (isPending : world.channel.pending = some pending) :
    ∃ success,
      (world.hear text).channel.pending =
        some (pending.handleFinalResponse success text) := by
  obtain ⟨success, processed⟩ :=
    processLine_final isPending noData isLast
  rw [hear_processed isNone (not_sms_of_isFinal isLast), processed]
  exact ⟨success, rfl⟩

end Hearing

/--
The pending command stands last among those that had no answer when it was
sent; as many of their answers are gone as have been swallowed since.
-/
structure InTurn (world : World) : Prop where
  noPdu : world.channel.smsPdu = none
  noData : world.channel.rawData = none
  bounded : ∀ number ∈ world.unanswered, number < world.issued
  pending :
    ∀ pending,
      world.channel.pending = some pending →
        ∃ earlier number,
          world.issued = number + 1 ∧
            (∀ old ∈ earlier, old < number) ∧
            world.behind = earlier.length ∧
            (pending.response.finalResponse = none →
              world.unanswered =
                (earlier ++ [number]).drop world.swallowed) ∧
            (pending.response.finalResponse ≠ none →
              ∃ answered,
                (earlier ++ [number])[world.swallowed]? = some answered ∧
                  world.answeredBy = some answered)
  completed :
    ∀ completion ∈ world.completions,
      ∃ answered,
        completion.answeredBy = some answered ∧
          answered ≤ completion.number ∧
          (answered = completion.number ↔
            completion.swallowed = completion.behind)

/-- Only the last place is that of the command itself. -/
theorem own_iff_last
    {earlier : List Nat}
    {number place answered : Nat}
    (older : ∀ old ∈ earlier, old < number)
    (isAt : (earlier ++ [number])[place]? = some answered) :
    answered ≤ number ∧ (answered = number ↔ place = earlier.length) := by
  by_cases isEarlier : place < earlier.length
  · rw [List.getElem?_append_left isEarlier] at isAt
    have isOlder := older answered (List.mem_of_getElem? isAt)
    exact
      ⟨Nat.le_of_lt isOlder,
        iff_of_false (Nat.ne_of_lt isOlder) (Nat.ne_of_lt isEarlier)⟩
  · rw [List.getElem?_append_right (Nat.le_of_not_lt isEarlier)] at isAt
    obtain ⟨isLast, isIt⟩ := List.getElem?_eq_some_iff.mp isAt
    rw [List.length_singleton] at isLast
    rw [List.getElem_singleton] at isIt
    exact ⟨Nat.le_of_eq isIt.symm, iff_of_true isIt.symm (by omega)⟩

namespace InTurn

variable {world next : World}

theorem initial
    (isInitial : channels.Initial world) :
    InTurn world := by
  obtain ⟨-, isIdle, noPdu, noData, -, -, allAnswered, noCompletions⟩ :=
    isInitial
  refine ⟨noPdu, noData, ?_, ?_, ?_⟩
  · rw [allAnswered]
    exact List.forall_mem_nil _
  · intro pending isPending
    exact nomatch isIdle.symm.trans isPending
  · rw [noCompletions]
    exact List.forall_mem_nil _

theorem send
    {type : CommandType}
    {responsePrefix : Line}
    (inTurn : InTurn world)
    (stepped : step? world (.send type responsePrefix) = some next) :
    InTurn next := by
  obtain ⟨-, moved⟩ := Option.ite_none_right_eq_some.mp stepped
  obtain rfl := Option.some.inj moved
  refine ⟨rfl, inTurn.noData, ?_, ?_, inTurn.completed⟩
  · intro number member
    rcases List.mem_append.mp member with earlier | isNew
    · exact Nat.lt_succ_of_lt (inTurn.bounded number earlier)
    · rw [List.mem_singleton.mp isNew]
      exact Nat.lt_succ_self _
  · intro pending isPending
    obtain rfl := Option.some.inj isPending
    exact
      ⟨world.unanswered, world.issued, rfl, inTurn.bounded, rfl,
        fun _ => rfl, fun answered => absurd rfl answered⟩

theorem info
    {text : Line}
    (inTurn : InTurn world)
    (wellSpoken : WellSpoken world (.info text))
    (stepped : step? world (.info text) = some next) :
    InTurn next := by
  obtain rfl := Option.some.inj stepped
  obtain ⟨-, noPdu, noData, -⟩ :=
    hear_quiet inTurn.noPdu inTurn.noData text
  refine ⟨noPdu, noData, inTurn.bounded, ?_, inTurn.completed⟩
  intro after isAfter
  obtain ⟨before, isBefore, sameFinal⟩ :=
    hear_info_pending inTurn.noPdu inTurn.noData wellSpoken isAfter
  rw [sameFinal]
  exact inTurn.pending before isBefore

theorem final
    {text : Line}
    (inTurn : InTurn world)
    (isLast : isFinal text = true)
    (awake : Awake world (.final text))
    (stepped : step? world (.final text) = some next) :
    InTurn next := by
  obtain ⟨-, noPdu, noData, sameIdle⟩ :=
    hear_quiet inTurn.noPdu inTurn.noData text
  obtain ⟨oldest, rest, waiting, reaches⟩ := final_cases stepped
  have bounded : ∀ number ∈ rest, number < world.issued := by
    intro number member
    refine inTurn.bounded number ?_
    rw [waiting]
    exact List.mem_cons_of_mem oldest member
  rcases reaches with ⟨isNone, rfl⟩ | ⟨first, isKept, rfl⟩
  · refine ⟨noPdu, noData, bounded, ?_, inTurn.completed⟩
    intro after isAfter
    cases isPending : world.channel.pending with
    | none => exact nomatch (sameIdle.mpr isPending).symm.trans isAfter
    | some pending =>
        obtain ⟨earlier, number, isLatest, older, behind, unanswered, -⟩ :=
          inTurn.pending pending isPending
        obtain ⟨success, completed⟩ :=
          hear_final_pending inTurn.noData isLast isNone isPending
        obtain rfl := Option.some.inj (completed.symm.trans isAfter)
        refine
          ⟨earlier, number, isLatest, older, behind,
            fun none => (nomatch none), fun _ => ⟨oldest, ?_, rfl⟩⟩
        have queue := unanswered (awake pending isPending)
        rw [waiting] at queue
        change (earlier ++ [number])[world.swallowed]? = some oldest
        rw [← List.head?_drop, ← queue]
        rfl
  · refine ⟨noPdu, noData, bounded, ?_, inTurn.completed⟩
    intro after isAfter
    have isPending : world.channel.pending = some after := by
      rw [hear_notice isKept] at isAfter
      exact isAfter
    obtain ⟨earlier, number, isLatest, older, behind, unanswered, -⟩ :=
      inTurn.pending after isPending
    have noFinal := awake after isPending
    refine
      ⟨earlier, number, isLatest, older, behind, fun _ => ?_,
        fun hasFinal => absurd noFinal hasFinal⟩
    have queue := unanswered noFinal
    rw [waiting] at queue
    change rest = (earlier ++ [number]).drop (world.swallowed + 1)
    rw [← List.tail_drop, ← queue]
    rfl

theorem wake
    (inTurn : InTurn world)
    (stepped : step? world .wake = some next) :
    InTurn next := by
  obtain ⟨pending, isPending, ⟨-, rfl⟩ | ⟨-, isComplete, rfl⟩⟩ :=
    wake_cases stepped
  · exact
      ⟨rfl, inTurn.noData, inTurn.bounded,
        fun current isCurrent => (nomatch isCurrent), inTurn.completed⟩
  · refine
      ⟨rfl, inTurn.noData, inTurn.bounded,
        fun current isCurrent => (nomatch isCurrent), ?_⟩
    intro completion member
    rcases List.mem_append.mp member with before | isNew
    · exact inTurn.completed completion before
    · obtain rfl := List.mem_singleton.mp isNew
      obtain ⟨earlier, number, isLatest, older, behind, -, answers⟩ :=
        inTurn.pending pending isPending
      obtain ⟨answered, isAt, isAnswered⟩ := answers isComplete
      have isNumber : world.issued - 1 = number := by
        rw [isLatest, Nat.add_sub_cancel]
      refine ⟨answered, isAnswered, ?_⟩
      dsimp only
      rw [isNumber, behind]
      exact own_iff_last older isAt

/-- One step keeps the pending command in turn. -/
theorem step
    {event : Event}
    (inTurn : InTurn world)
    (guarded : WellSpoken world event ∧ Awake world event)
    (stepped : channels.step? world event = some next) :
    InTurn next := by
  cases event with
  | send type responsePrefix => exact inTurn.send stepped
  | info text => exact inTurn.info guarded.1 stepped
  | final text => exact inTurn.final guarded.1 guarded.2 stepped
  | wake => exact inTurn.wake stepped
  | timeout =>
      obtain ⟨-, moved⟩ := Option.ite_none_left_eq_some.mp stepped
      obtain rfl := Option.some.inj moved
      exact
        ⟨rfl, inTurn.noData, inTurn.bounded,
          fun pending isPending => (nomatch isPending), inTurn.completed⟩
  | close =>
      obtain rfl := Option.some.inj stepped
      exact
        ⟨inTurn.noPdu, inTurn.noData, inTurn.bounded, inTurn.pending,
          inTurn.completed⟩

end InTurn

/--
Every command returns with the answer to itself or to an earlier one: to
itself exactly if as many final lines were swallowed while it waited as
commands had no answer when it was sent.
-/
theorem own_answer_iff_in_step
    {source target : World}
    {events : List Event}
    (isInitial : channels.Initial source)
    (run :
      channels.GuardedRun
        (fun world event => WellSpoken world event ∧ Awake world event)
        source events target) :
    ∀ completion ∈ target.completions,
      ∃ answered,
        completion.answeredBy = some answered ∧
          answered ≤ completion.number ∧
          (answered = completion.number ↔
            completion.swallowed = completion.behind) :=
  (run.invariant InTurn
    (fun _ _ _ inTurn guarded stepped => inTurn.step guarded stepped)
    (InTurn.initial isInitial)).completed

/-- The answer to the first command comes after the second one was sent. -/
def lateEvents : List Event :=
  [.send .noResult [], .timeout, .send .noResult [], .final (line "OK"),
    .wake]

theorem own_answer_iff_in_step_late :
    ∃ target completion answered,
      channels.GuardedRun
          (fun world event => WellSpoken world event ∧ Awake world event)
          exampleWorld lateEvents target ∧
        completion ∈ target.completions ∧
        completion.number = 1 ∧ completion.answeredBy = some answered ∧
        answered ≠ 1 := by
  have accepted :
      (channels.runWhile?
          (fun world event =>
            decide (WellSpoken world event ∧ Awake world event))
          exampleWorld lateEvents).bind (·.completions.head?.map
            fun completion =>
              (completion.number, completion.swallowed, completion.behind)) =
        some (1, 0, 1) := by
    decide +kernel
  obtain ⟨target, reached, ends⟩ := Option.bind_eq_some_iff.mp accepted
  obtain ⟨completion, isFirst, shape⟩ := Option.map_eq_some_iff.mp ends
  simp only [Prod.mk.injEq] at shape
  obtain ⟨number, swallowed, behind⟩ := shape
  have run :=
    System.guardedRun_of_runWhile?
      (fun world event => WellSpoken world event ∧ Awake world event)
      (fun world event checked => of_decide_eq_true checked) reached
  have member := List.mem_of_head? isFirst
  obtain ⟨answered, isAnswered, -, isOwn⟩ :=
    own_answer_iff_in_step exampleWorld_initial run completion member
  refine
    ⟨target, completion, answered, run, member, number, isAnswered, ?_⟩
  rw [number, swallowed, behind] at isOwn
  exact fun same => Nat.zero_ne_one (isOwn.mp same)

/-- The modem is well spoken and answers before the timeout. -/
def InTime (world : World) (event : Event) : Prop :=
  WellSpoken world event ∧ event ≠ .timeout

instance (world : World) (event : Event) :
    Decidable (InTime world event) :=
  inferInstanceAs (Decidable (_ ∧ _))

/-- The commands that have been sent and are not pending. -/
def World.settled (world : World) : Nat :=
  if world.channel.pending = none then world.issued else world.issued - 1

/--
As long as the channel is open, only the pending command has no answer, or its
final line was swallowed.
-/
structure Paired (world : World) : Prop where
  noPdu : world.channel.smsPdu = none
  noData : world.channel.rawData = none
  idle :
    world.channel.readerClosed = false →
      world.channel.pending = none → world.unanswered = []
  pending :
    world.channel.readerClosed = false →
      ∀ pending,
        world.channel.pending = some pending →
          ∃ number,
            world.issued = number + 1 ∧
              (pending.response.finalResponse = none →
                world.unanswered = [number] ∧ world.swallowed = 0 ∨
                  world.unanswered = [] ∧ world.swallowed = 1) ∧
              (pending.response.finalResponse ≠ none →
                world.unanswered = [] ∧ world.answeredBy = some number)
  returned :
    world.channel.readerClosed = false →
      world.completions.map (·.number) = List.range world.settled
  completed :
    ∀ completion ∈ world.completions,
      completion.answeredBy = some completion.number

namespace Paired

variable {world next : World}

theorem initial
    (isInitial : channels.Initial world) :
    Paired world := by
  obtain ⟨-, isIdle, noPdu, noData, -, noneIssued, allAnswered,
    noCompletions⟩ := isInitial
  refine ⟨noPdu, noData, fun _ _ => allAnswered, ?_, fun _ => ?_, ?_⟩
  · intro _ pending isPending
    exact nomatch isIdle.symm.trans isPending
  · rw [noCompletions, World.settled, if_pos isIdle, noneIssued]
    rfl
  · rw [noCompletions]
    exact List.forall_mem_nil _

theorem send
    {type : CommandType}
    {responsePrefix : Line}
    (paired : Paired world)
    (stepped : step? world (.send type responsePrefix) = some next) :
    Paired next := by
  obtain ⟨⟨isIdle, isOpen⟩, moved⟩ :=
    Option.ite_none_right_eq_some.mp stepped
  obtain rfl := Option.some.inj moved
  refine
    ⟨rfl, paired.noData, fun _ none => (nomatch none), ?_, fun _ => ?_,
      paired.completed⟩
  · intro _ pending isPending
    obtain rfl := Option.some.inj isPending
    refine
      ⟨world.issued, rfl, fun _ => Or.inl ⟨?_, rfl⟩,
        fun answered => absurd rfl answered⟩
    simp only [paired.idle isOpen isIdle, List.nil_append]
  · have returned := paired.returned isOpen
    rw [World.settled, if_pos isIdle] at returned
    exact returned

/-- A line settles no command. -/
theorem settled_hear
    (noPdu : world.channel.smsPdu = none)
    (noData : world.channel.rawData = none)
    (text : Line) :
    (world.hear text).settled = world.settled := by
  obtain ⟨-, -, -, sameIdle⟩ := hear_quiet noPdu noData text
  exact if_congr sameIdle rfl rfl

theorem info
    {text : Line}
    (paired : Paired world)
    (wellSpoken : WellSpoken world (.info text))
    (stepped : step? world (.info text) = some next) :
    Paired next := by
  obtain rfl := Option.some.inj stepped
  obtain ⟨sameClosed, noPdu, noData, sameIdle⟩ :=
    hear_quiet paired.noPdu paired.noData text
  refine ⟨noPdu, noData, ?_, ?_, ?_, paired.completed⟩
  · intro isOpen isIdle
    exact paired.idle (sameClosed ▸ isOpen) (sameIdle.mp isIdle)
  · intro isOpen after isAfter
    obtain ⟨before, isBefore, sameFinal⟩ :=
      hear_info_pending paired.noPdu paired.noData wellSpoken isAfter
    rw [sameFinal]
    exact paired.pending (sameClosed ▸ isOpen) before isBefore
  · intro isOpen
    rw [settled_hear paired.noPdu paired.noData text]
    exact paired.returned (sameClosed ▸ isOpen)

theorem final
    {text : Line}
    (paired : Paired world)
    (isLast : isFinal text = true)
    (stepped : step? world (.final text) = some next) :
    Paired next := by
  obtain ⟨sameClosed, noPdu, noData, sameIdle⟩ :=
    hear_quiet paired.noPdu paired.noData text
  obtain ⟨oldest, rest, waiting, reaches⟩ := final_cases stepped
  -- The modem has something to answer, so that a command is pending.
  have notIdle :
      world.channel.readerClosed = false → world.channel.pending ≠ none :=
    fun isOpen isIdle =>
      nomatch waiting.symm.trans (paired.idle isOpen isIdle)
  -- It is the only one, and has no final line.
  have only :
      world.channel.readerClosed = false →
        ∀ pending,
          world.channel.pending = some pending →
            world.issued = oldest + 1 ∧ rest = [] ∧ world.swallowed = 0 ∧
              pending.response.finalResponse = none := by
    intro isOpen pending isPending
    obtain ⟨number, isLatest, unanswered, answered⟩ :=
      paired.pending isOpen pending isPending
    by_cases isComplete : pending.response.finalResponse = none
    · rcases unanswered isComplete with ⟨one, none⟩ | ⟨gone, -⟩
      · obtain ⟨rfl, rfl⟩ := List.cons.inj (waiting.symm.trans one)
        exact ⟨isLatest, rfl, none, isComplete⟩
      · exact nomatch waiting.symm.trans gone
    · exact nomatch waiting.symm.trans (answered isComplete).1
  have idle :
      (world.hear text).channel.readerClosed = false →
        (world.hear text).channel.pending = none → rest = [] :=
    fun isOpen isIdle =>
      absurd (sameIdle.mp isIdle) (notIdle (sameClosed ▸ isOpen))
  have returned :
      (world.hear text).channel.readerClosed = false →
        world.completions.map (·.number) =
          List.range (world.hear text).settled := by
    intro isOpen
    rw [settled_hear paired.noPdu paired.noData text]
    exact paired.returned (sameClosed ▸ isOpen)
  rcases reaches with ⟨isNone, rfl⟩ | ⟨first, isKept, rfl⟩
  · refine ⟨noPdu, noData, idle, ?_, returned, paired.completed⟩
    intro isOpen after isAfter
    obtain ⟨pending, isPending⟩ :=
      Option.ne_none_iff_exists'.mp (notIdle (sameClosed ▸ isOpen))
    obtain ⟨isLatest, noRest, -, -⟩ :=
      only (sameClosed ▸ isOpen) pending isPending
    obtain ⟨success, completed⟩ :=
      hear_final_pending paired.noData isLast isNone isPending
    obtain rfl := Option.some.inj (completed.symm.trans isAfter)
    exact
      ⟨oldest, isLatest, fun none => (nomatch none),
        fun _ => ⟨noRest, rfl⟩⟩
  · refine ⟨noPdu, noData, idle, ?_, returned, paired.completed⟩
    intro isOpen after isAfter
    have isPending : world.channel.pending = some after := by
      rw [hear_notice isKept] at isAfter
      exact isAfter
    obtain ⟨isLatest, noRest, noneSwallowed, noFinal⟩ :=
      only (sameClosed ▸ isOpen) after isPending
    exact
      ⟨oldest, isLatest,
        fun _ => Or.inr ⟨noRest, congrArg (· + 1) noneSwallowed⟩,
        fun hasFinal => absurd noFinal hasFinal⟩

theorem wake
    (paired : Paired world)
    (stepped : step? world .wake = some next) :
    Paired next := by
  obtain ⟨pending, isPending, ⟨isClosed, rfl⟩ | ⟨isOpen, isComplete, rfl⟩⟩ :=
    wake_cases stepped
  · exact
      ⟨rfl, paired.noData,
        fun isOpen => (nomatch isClosed.symm.trans isOpen),
        fun _ current isCurrent => (nomatch isCurrent),
        fun isOpen => (nomatch isClosed.symm.trans isOpen),
        paired.completed⟩
  · obtain ⟨number, isLatest, -, answered⟩ :=
      paired.pending isOpen pending isPending
    obtain ⟨allAnswered, isOwn⟩ := answered isComplete
    refine
      ⟨rfl, paired.noData, fun _ _ => allAnswered,
        fun _ current isCurrent => (nomatch isCurrent), fun _ => ?_, ?_⟩
    · have returned := paired.returned isOpen
      rw [World.settled, isPending, if_neg (Option.some_ne_none pending),
        isLatest, Nat.add_sub_cancel] at returned
      change _ = List.range world.issued
      rw [List.map_append, returned, isLatest, List.range_succ]
      rfl
    · intro completion member
      rcases List.mem_append.mp member with before | isNew
      · exact paired.completed completion before
      · obtain rfl := List.mem_singleton.mp isNew
        simp only [isOwn, isLatest, Nat.add_sub_cancel]

/-- One step keeps the commands and their answers paired. -/
theorem step
    {event : Event}
    (paired : Paired world)
    (inTime : InTime world event)
    (stepped : channels.step? world event = some next) :
    Paired next := by
  cases event with
  | send type responsePrefix => exact paired.send stepped
  | info text => exact paired.info inTime.1 stepped
  | final text => exact paired.final inTime.1 stepped
  | wake => exact paired.wake stepped
  | timeout => exact absurd rfl inTime.2
  | close =>
      obtain rfl := Option.some.inj stepped
      exact
        ⟨paired.noPdu, paired.noData, fun isOpen => (nomatch isOpen),
          fun isOpen => (nomatch isOpen), fun isOpen => (nomatch isOpen),
          paired.completed⟩

end Paired

/--
As long as no command times out, every command that returns does so with the
answer of the modem to that very command.  While the channel is open, all
commands but the pending one have returned, and that one waits for its own
answer, or for nothing any more since its final line was swallowed.
-/
theorem answers_are_own_in_time
    {source target : World}
    {events : List Event}
    (isInitial : channels.Initial source)
    (run : channels.GuardedRun InTime source events target) :
    (∀ completion ∈ target.completions,
        completion.answeredBy = some completion.number) ∧
      (target.channel.readerClosed = false →
        target.completions.map (·.number) = List.range target.settled ∧
          ∀ pending,
            target.channel.pending = some pending →
              pending.response.finalResponse = none →
                target.unanswered = [target.issued - 1] ∨
                  target.unanswered = [] ∧ target.swallowed = 1) := by
  have paired :=
    run.invariant Paired
      (fun _ _ _ paired inTime stepped => paired.step inTime stepped)
      (Paired.initial isInitial)
  refine ⟨paired.completed, fun isOpen => ⟨paired.returned isOpen, ?_⟩⟩
  intro pending isPending noFinal
  obtain ⟨number, isLatest, unanswered, -⟩ :=
    paired.pending isOpen pending isPending
  rw [isLatest, Nat.add_sub_cancel]
  exact (unanswered noFinal).imp_left (·.1)

/-- A query whose final line comes behind the announcement of a message. -/
def swallowedEvents : List Event :=
  queryEvents ++
    [.send .noResult [], .info (line "+CMTI: \"SM\",1"), .final (line "OK")]

theorem answers_are_own_in_time_query :
    ∃ target,
      channels.GuardedRun InTime exampleWorld swallowedEvents target ∧
        target.completions.map (·.number) = [0] ∧
        (∀ completion ∈ target.completions,
          completion.answeredBy = some completion.number) ∧
        target.unanswered = [] ∧ target.swallowed = 1 := by
  have accepted :
      (channels.runWhile? (fun world event => decide (InTime world event))
          exampleWorld swallowedEvents).map
        (fun target =>
          (target.channel.readerClosed, target.settled,
            target.channel.pending.map (·.response.finalResponse.isNone),
            target.unanswered)) =
        some (false, 1, some true, []) := by
    decide +kernel
  obtain ⟨target, reached, shape⟩ := Option.map_eq_some_iff.mp accepted
  simp only [Prod.mk.injEq] at shape
  obtain ⟨isOpen, settled, waits, allGone⟩ := shape
  obtain ⟨pending, isPending, isNone⟩ := Option.map_eq_some_iff.mp waits
  have noFinal := Option.isNone_iff_eq_none.mp isNone
  have run :=
    System.guardedRun_of_runWhile? InTime
      (fun world event checked => of_decide_eq_true checked) reached
  obtain ⟨areOwn, whileOpen⟩ :=
    answers_are_own_in_time exampleWorld_initial run
  obtain ⟨returned, waitsFor⟩ := whileOpen isOpen
  rw [settled] at returned
  refine ⟨target, run, returned, areOwn, allGone, ?_⟩
  rcases waitsFor pending isPending noFinal with isDue | ⟨-, swallowed⟩
  · exact nomatch allGone.symm.trans isDue
  · exact swallowed

end RecomputerGateway.AtCommands
