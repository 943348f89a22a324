import RecomputerGateway.QmiThread

namespace RecomputerGateway.QmiThread

/-!
# What the main loop is told

The thread that reads from the device reports indications to the main loop by
their type alone.  Answers have the same types, so that an answer which is not
taken for a response is reported as if the modem had said it by itself.
-/

open QmiProxy (QmiMessage)
open QmuxStartRequest (qmuxTypeWds)

/--
The modem answers every request at most once, no wait ends before the answer,
and an indication does not look like the response to the request in hand.
-/
def Prompt (world : World) : Event → Prop
  | .answer ticket _ => ∀ answer ∈ world.answers, answer.ticket ≠ ticket
  | .indicate message => takes world.state message = false
  | .woken => world.state.pResponse ≠ none
  | .timeout => world.state.pResponse ≠ none
  | .closed => world.waiting = none ∨ world.state.pRequest = none
  | _ => True

instance (world : World) (event : Event) :
    Decidable (Prompt world event) :=
  match event with
  | .answer _ _ => inferInstanceAs (Decidable (∀ _ ∈ world.answers, _))
  | .indicate _ => inferInstanceAs (Decidable (_ = _))
  | .woken => inferInstanceAs (Decidable (_ ≠ _))
  | .timeout => inferInstanceAs (Decidable (_ ≠ _))
  | .closed => inferInstanceAs (Decidable (_ ∨ _))
  | .request _ _ => .isTrue trivial
  | .granted _ _ => .isTrue trivial
  | .device _ => .isTrue trivial

/--
The reports are those of the indications, and a request that was written is
answered or still in hand.
-/
structure Settled (world : World) : Prop where
  reported : world.reports = world.indications.filterMap reportOf
  inHand :
    ∀ entry ∈ world.written,
      (∃ answer ∈ world.answers, answer.ticket = entry.ticket) ∨
        world.waiting = some entry.ticket ∧
          world.state.pRequest = some entry.message
  answered :
    world.state.pResponse ≠ none →
      ∀ ticket ∈ world.waiting,
        ∃ answer ∈ world.answers, answer.ticket = ticket

namespace Settled

theorem initial : Settled booted where
  reported := rfl
  inHand := fun _ member => nomatch member
  answered := fun some => absurd rfl some

variable {world : World}

/-- A new request is in hand, and all others are answered. -/
theorem request
    (settled : Settled world)
    (isIdle : world.waiting = none)
    (asked : Request)
    (writes : Bool) :
    Settled (world.request asked writes) := by
  have others :
      ∀ entry ∈ world.written,
        ∃ answer ∈ world.answers, answer.ticket = entry.ticket := by
    intro entry member
    refine (settled.inHand entry member).resolve_right ?_
    exact fun inHand => nomatch isIdle.symm.trans inHand.1
  refine ⟨settled.reported, ?_, fun some => absurd rfl some⟩
  unfold World.request
  dsimp only
  generalize qmiWwanSendQmi _ _ _ = sent
  cases wrote : sent.2 with
  | false => exact fun entry member => Or.inl (others entry member)
  | true =>
      intro entry member
      rcases List.mem_append.mp member with earlier | isNew
      · exact Or.inl (others entry earlier)
      · obtain rfl := List.mem_singleton.mp isNew
        exact Or.inr ⟨rfl, rfl⟩

/-- An answer to a request that has none is taken. -/
theorem answer
    {ticket : Ticket}
    {message : QmiMessage}
    (settled : Settled world)
    (first : ∀ answer ∈ world.answers, answer.ticket ≠ ticket)
    (asked :
      ∃ entry ∈ world.written,
        entry.ticket = ticket ∧ ids entry.message = ids message) :
    Settled
      { world.receive message with
        answers := world.answers ++ [⟨ticket, message⟩] } := by
  obtain ⟨entry, isWritten, rfl, same⟩ := asked
  have unanswered :
      world.waiting = some entry.ticket ∧
        world.state.pRequest = some entry.message := by
    refine (settled.inHand entry isWritten).resolve_left ?_
    rintro ⟨answer, given, ofEntry⟩
    exact first answer given ofEntry
  have taken : takes world.state message = true := by
    rw [takes, unanswered.2]
    exact (isResponse_iff _ _).mpr same
  have isAnswered :
      ∃ answer ∈ world.answers ++ [⟨entry.ticket, message⟩],
        answer.ticket = entry.ticket :=
    ⟨_, List.mem_append_right _ (List.mem_singleton.mpr rfl), rfl⟩
  rw [receive_of_takes taken]
  refine ⟨settled.reported, ?_, ?_⟩
  · intro other member
    refine Or.inl ?_
    rcases settled.inHand other member with ⟨answer, given, ofOther⟩ | inHand
    · exact ⟨answer, List.mem_append_left _ given, ofOther⟩
    · obtain sameTicket := Option.some.inj (unanswered.1.symm.trans inHand.1)
      exact sameTicket ▸ isAnswered
  · intro _ ticket isWaiting
    obtain rfl := Option.some.inj (unanswered.1.symm.trans isWaiting)
    exact isAnswered

/-- A wait that ends after its answer leaves no request unanswered. -/
theorem complete
    {ticket : Ticket}
    (settled : Settled world)
    (isWaiting : world.waiting = some ticket)
    (hasAnswer : world.state.pResponse ≠ none)
    (response : Option QmiMessage) :
    Settled (world.complete ticket response) := by
  refine ⟨settled.reported, ?_, fun _ _ none => (nomatch none)⟩
  intro entry member
  refine Or.inl ((settled.inHand entry member).elim id ?_)
  rintro ⟨isThis, -⟩
  obtain rfl := Option.some.inj (isWaiting.symm.trans isThis)
  exact settled.answered hasAnswer entry.ticket isWaiting

/-- Closing the device ends no wait that has no answer yet. -/
theorem closed
    (settled : Settled world)
    (prompt : world.waiting = none ∨ world.state.pRequest = none) :
    Settled { world with state := qmiThreadRecvNull world.state } := by
  rcases prompt with isIdle | nothing
  · refine ⟨settled.reported, ?_, ?_⟩
    · intro entry member
      refine Or.inl ((settled.inHand entry member).resolve_right ?_)
      exact fun inHand => nomatch isIdle.symm.trans inHand.1
    · intro _ ticket isWaiting
      exact nomatch isIdle.symm.trans isWaiting
  · have same : qmiThreadRecvNull world.state = world.state := by
      rw [qmiThreadRecvNull, nothing]
      rfl
    rw [same]
    exact settled

/-- One step keeps the reports and the requests settled. -/
theorem step
    {next : World}
    {event : Event}
    (settled : Settled world)
    (prompt : Prompt world event)
    (stepped : threads.step? world event = some next) :
    Settled next := by
  cases event with
  | request asked writes =>
      obtain ⟨isIdle, moved⟩ := Option.ite_none_right_eq_some.mp stepped
      obtain rfl := Option.some.inj moved
      exact settled.request isIdle asked writes
  | answer ticket message =>
      obtain ⟨asked, moved⟩ := Option.ite_none_right_eq_some.mp stepped
      obtain rfl := Option.some.inj moved
      exact settled.answer prompt asked
  | indicate message =>
      obtain rfl := Option.some.inj stepped
      rw [receive_of_not_takes prompt]
      refine ⟨?_, settled.inHand, settled.answered⟩
      dsimp only
      rw [List.filterMap_append, settled.reported]
      refine congrArg _ ?_
      cases report : reportOf message with
      | none =>
          exact
            (@List.filterMap_cons_none _ _ reportOf message [] report).symm
      | some told =>
          exact
            (@List.filterMap_cons_some _ _ reportOf message [] told
              report).symm
  | woken =>
      obtain ⟨ticket, isWaiting, rfl⟩ := Option.map_eq_some_iff.mp stepped
      exact settled.complete isWaiting prompt world.state.pResponse
  | timeout =>
      obtain ⟨ticket, isWaiting, rfl⟩ := Option.map_eq_some_iff.mp stepped
      exact settled.complete isWaiting prompt none
  | closed =>
      obtain rfl := Option.some.inj stepped
      exact settled.closed prompt
  | granted qmiType clientId =>
      obtain rfl := Option.some.inj stepped
      exact ⟨settled.reported, settled.inHand, settled.answered⟩
  | device isOpen =>
      obtain rfl := Option.some.inj stepped
      exact ⟨settled.reported, settled.inHand, settled.answered⟩

end Settled

/--
In a prompt run the main loop is told, in their order, what the indications of
the modem say, and nothing else.
-/
theorem indications_all_reported
    {target : World}
    {events : List Event}
    (run : threads.GuardedRun Prompt booted events target) :
    target.reports = target.indications.filterMap reportOf :=
  have settled : Settled target :=
    run.invariant Settled
      (fun _ _ _ settled prompt stepped => settled.step prompt stepped)
      Settled.initial
  settled.reported

/-- The modem says that its registration has changed. -/
def servingSystem : QmiMessage :=
  ⟨[1, 12, 0, 0x80, 3, 6, 4, 1, 0, 0x24, 0, 0, 0], rfl⟩

def promptEvents : List Event :=
  [.device true, .granted qmuxTypeWds 5, .request statusRequest true,
    .indicate servingSystem, .answer ⟨.service, 0⟩ (statusAnswer 1), .woken,
    .indicate (statusAnswer 0)]

/-- The answer is not reported, but the same message by itself is. -/
theorem indications_all_reported_status :
    ∃ target,
      threads.GuardedRun Prompt booted promptEvents target ∧
        target.reports = [.networkStateChanged, .dataCallListChanged] := by
  have accepted :
      (threads.runWhile? (fun world event => decide (Prompt world event))
          booted promptEvents).map (·.indications) =
        some [servingSystem, statusAnswer 0] := by
    decide +kernel
  obtain ⟨target, reached, indications⟩ :=
    Option.map_eq_some_iff.mp accepted
  have run :=
    System.guardedRun_of_runWhile? Prompt
      (fun world event checked => of_decide_eq_true checked) reached
  refine ⟨target, run, (indications_all_reported run).trans ?_⟩
  rw [indications]
  decide

end RecomputerGateway.QmiThread
