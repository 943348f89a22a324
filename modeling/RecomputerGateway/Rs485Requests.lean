import RecomputerGateway.Rs485Frames
import RecomputerGateway.Rs485Trigger
import RecomputerGateway.RunRecord

namespace RecomputerGateway.Rs485

/-!
# Requests for a Modbus read

Any process may create the trigger file at any time.  The loop removes it at
the end of the serial transaction, so that a request made in between is
removed together with the one that is being served.
-/

/--
Every creation of the trigger file is followed by a read that starts after it,
or the file is there.
-/
def KeepsRequests (events : List Event) (state : State) : Prop :=
  ∀ before after,
    events = before ++ .createTrigger :: after →
      .startRead ∈ after ∨ state.trigger = true

/--
No request is made between the start of a read and the removal of the trigger
that ends it.
-/
def NoneDuringReads (events : List Event) : Prop :=
  ∀ before during after,
    events =
        before ++ .startRead :: (during ++ .removeTrigger true :: after) →
      .startRead ∉ during →
        .createTrigger ∉ during

/-! ## The trigger file -/

/-- A read is in progress only behind its start. -/
theorem isReading_of_step?
    {external : External}
    {state next : State}
    {event : Event}
    (stepped : step? external state event = some next)
    (isReading : next.pc.isReading = true) :
    event = .startRead ∨
      event ≠ .startRead ∧ state.pc.isReading = true := by
  cases arrives_of_step? stepped with
  | stays isCreated isSame =>
      subst isCreated isSame
      exact .inr ⟨Event.noConfusion, isReading⟩
  | awaits request atRequest hasReason =>
      rw [atRequest] at isReading
      cases isReading
  | reads isReading hasContext isStarted =>
      exact isStarted
  | returns atEnd cannotGoOn =>
      rw [atEnd] at isReading
      cases isReading
  | goesOn isPlain isEnabled =>
      have notReading := Pc.isReading_of_isPlain isPlain
      cases notReading.symm.trans isReading

/-- A read in progress was started, and no other since. -/
theorem startRead_of_isReading
    {external : External}
    {start state : State}
    {events : List Event}
    (isInitial : Initial start)
    (run : (bridge external).Run start events state)
    (isReading : state.pc.isReading = true) :
    ∃ before during,
      events = before ++ .startRead :: during ∧ .startRead ∉ during := by
  have started :=
    run.recorded
      (fun earlier current =>
        current.pc.isReading = true →
          ∃ before during,
            earlier = before ++ .startRead :: during ∧
              .startRead ∉ during)
      (by
        intro atStart
        rw [isInitial.pc] at atStart
        cases atStart)
      (by
        rintro earlier current event next - inductionHypothesis stepped reads
        rcases isReading_of_step? stepped reads with rfl | ⟨isOther, read⟩
        · exact ⟨earlier, [], rfl, List.not_mem_nil⟩
        · obtain ⟨before, during, rfl, noStart⟩ := inductionHypothesis read
          refine ⟨before, during ++ [event], by simp, ?_⟩
          rw [List.mem_append, List.mem_singleton, not_or]
          exact ⟨noStart, isOther.symm⟩)
  exact started isReading

/-- Only a successful removal takes the trigger away. -/
theorem removes_of_step?
    {external : External}
    {state next : State}
    {event : Event}
    (stepped : step? external state event = some next)
    (isThere : state.trigger = true)
    (isGone : next.trigger = false) :
    event = .removeTrigger true ∧ state.pc = .removeTrigger := by
  have moved := moves_of_step? stepped
  cases usesTrigger : event.usesTrigger with
  | false =>
      have same := (leaves_of_step? stepped).trigger usesTrigger
      cases (same.trans isThere).symm.trans isGone
  | true =>
      cases event with
      | createTrigger =>
          cases moved
          cases isGone
      | removeTrigger successful =>
          obtain ⟨atRemove, rfl⟩ := moved
          cases successful with
          | true =>
              exact ⟨rfl, atRemove⟩
          | false =>
              cases isThere.symm.trans isGone
      | _ =>
          cases usesTrigger

/-- A trigger that is gone was removed during the run. -/
theorem removes_of_run
    {external : External}
    {state final : State}
    {events : List Event}
    (run : (bridge external).Run state events final)
    (isThere : state.trigger = true)
    (isGone : final.trigger = false) :
    ∃ before after between,
      events = before ++ .removeTrigger true :: after ∧
        (bridge external).Run state before between ∧
          between.pc = .removeTrigger := by
  induction run with
  | done state =>
      cases isThere.symm.trans isGone
  | @step source next target event rest allowed stepped remainder
      inductionHypothesis =>
      cases stillThere : next.trigger with
      | true =>
          obtain ⟨before, after, between, rfl, run, atRemove⟩ :=
            inductionHypothesis stillThere isGone
          exact
            ⟨event :: before, after, between, rfl,
              .step event before trivial stepped run, atRemove⟩
      | false =>
          obtain ⟨rfl, atRemove⟩ :=
            removes_of_step? stepped isThere stillThere
          exact ⟨[], rest, source, rfl, .done source, atRemove⟩

/-! ## No request is lost -/

/-- An item that does not occur behind a split lies in front of it. -/
theorem mem_of_append_eq
    {α : Type}
    {before between front during : List α}
    {item last : α}
    (same : before ++ item :: between = front ++ last :: during)
    (differ : item ≠ last)
    (notBehind : last ∉ between) :
    item ∈ during := by
  rcases List.append_eq_append_iff.mp same with
    ⟨gap, -, isSplit⟩ | ⟨gap, -, isSplit⟩
  · cases gap with
    | nil =>
        exact absurd (List.cons.inj isSplit).1 differ
    | cons head rest =>
        have isBehind := (List.cons.inj isSplit).2
        rw [isBehind] at notBehind
        simp at notBehind
  · cases gap with
    | nil =>
        exact absurd (List.cons.inj isSplit).1.symm differ
    | cons head rest =>
        have isWithin := (List.cons.inj isSplit).2
        rw [isWithin]
        simp

/-- A request that is neither served nor there was made during a read. -/
theorem during_of_lost
    {external : External}
    {start state : State}
    {before after : List Event}
    (isInitial : Initial start)
    (run :
      (bridge external).Run start (before ++ .createTrigger :: after) state)
    (notServed : .startRead ∉ after)
    (isGone : state.trigger = false) :
    ∃ front during back,
      before ++ .createTrigger :: after =
          front ++
            .startRead :: (during ++ .removeTrigger true :: back) ∧
        .startRead ∉ during ∧ .createTrigger ∈ during := by
  obtain ⟨atRequest, beforeRun, afterRun⟩ := run.split
  cases afterRun with
  | @step _ created _ _ _ _ stepped remainder =>
      have isThere : created.trigger = true := by
        cases Option.some.inj stepped
        rfl
      obtain ⟨between, back, atRemove, rfl, betweenRun, atPc⟩ :=
        removes_of_run remainder isThere isGone
      have toRemove :=
        beforeRun.trans (.step _ _ trivial stepped betweenRun)
      obtain ⟨front, during, isSplit, noStart⟩ :=
        startRead_of_isReading isInitial toRemove (by rw [atPc]; rfl)
      have notBehind : .startRead ∉ between := fun member =>
        notServed (List.mem_append_left _ member)
      refine
        ⟨front, during, back, ?_, noStart,
          mem_of_append_eq isSplit Event.noConfusion notBehind⟩
      rw [← List.cons_append, ← List.append_assoc, isSplit]
      simp

/-- A request that is made during a read is lost when the trigger is removed. -/
theorem not_keepsRequests_of_during
    {external : External}
    {start state : State}
    (front during : List Event)
    (run :
      (bridge external).Run start
        (front ++ .startRead :: (during ++ [.removeTrigger true])) state)
    (noStart : .startRead ∉ during)
    (isRequested : .createTrigger ∈ during) :
    ¬ KeepsRequests
        (front ++ .startRead :: (during ++ [.removeTrigger true])) state := by
  intro keeps
  obtain ⟨first, second, rfl⟩ := List.append_of_mem isRequested
  have isGone : state.trigger = false := by
    have reordered :
        front ++
            .startRead ::
              (first ++ .createTrigger :: second ++ [.removeTrigger true]) =
          (front ++ .startRead :: (first ++ .createTrigger :: second)) ++
            [.removeTrigger true] := by
      simp
    rw [reordered] at run
    obtain ⟨atRemove, -, lastStep⟩ := run.split
    cases lastStep with
    | step _ _ _ stepped remainder =>
        cases remainder
        have moved :
            Moves external atRemove (.removeTrigger true) state :=
          moves_of_step? stepped
        obtain ⟨-, rfl⟩ := moved
        rfl
  have served :=
    keeps (front ++ .startRead :: first) (second ++ [.removeTrigger true])
      (by simp)
  rcases served with isServed | isThere
  · rw [List.mem_append, List.mem_singleton] at isServed
    rcases isServed with isLater | isRemoval
    · exact noStart (List.mem_append_right _ (List.mem_cons_of_mem _ isLater))
    · cases isRemoval
  · cases isGone.symm.trans isThere

/--
In every state that a run passes through, each request is served or the trigger
is there, exactly if no request is made during a read.
-/
theorem keepsRequests_iff
    {external : External}
    {start state : State}
    {events : List Event}
    (isInitial : Initial start)
    (run : (bridge external).Run start events state) :
    (∀ earlier later current,
      events = earlier ++ later →
        (bridge external).Run start earlier current →
          KeepsRequests earlier current) ↔
      NoneDuringReads events := by
  constructor
  · intro keeps front during back isSplit noStart isRequested
    have reordered :
        events =
          (front ++ .startRead :: (during ++ [.removeTrigger true])) ++
            back := by
      simp [isSplit]
    rw [reordered] at run
    obtain ⟨current, toRemoval, -⟩ := run.split
    exact
      not_keepsRequests_of_during front during toRemoval noStart isRequested
        (keeps _ back current reordered toRemoval)
  · intro noneDuring earlier later current isPrefix toCurrent before after
      isSplit
    by_contra isLost
    rw [not_or, Bool.not_eq_true] at isLost
    rw [isSplit] at toCurrent
    obtain ⟨front, during, back, isRead, noStart, isRequested⟩ :=
      during_of_lost isInitial toCurrent isLost.1 isLost.2
    refine
      noneDuring front during (back ++ later) ?_ noStart isRequested
    rw [isPrefix, isSplit, isRead]
    simp

/-- Ten registers, as the slave delivers them. -/
def tenRegisters : ReadOutcome :=
  .ok (.ok (.registers (List.replicate 10 0x00FF)))

/-- A request before the start-up, and the iteration that serves it. -/
def servedRun : List Event :=
  triggeredRun ++
    [.testTrigger, .startRead, .readDone tenRegisters, .writeResult true,
      .removeTrigger true]

/-- A second request comes while the read waits for the slave. -/
def overlappingRun : List Event :=
  triggeredRun ++
    [.testTrigger, .startRead, .createTrigger, .readDone tenRegisters,
      .writeResult true, .removeTrigger true]

theorem noneDuringReads_servedRun :
    NoneDuringReads servedRun := by
  have onlyFirst : .createTrigger ∉ servedRun.tail := by
    simp [servedRun, triggeredRun]
  intro before during after isSplit noStart isRequested
  cases before with
  | nil =>
      cases (List.cons.inj isSplit).1
  | cons head rest =>
      have isTail :
          servedRun.tail =
            rest ++
              .startRead :: (during ++ .removeTrigger true :: after) :=
        (List.cons.inj isSplit).2
      rw [isTail] at onlyFirst
      simp [isRequested] at onlyFirst

/-- A single request is kept until it is served. -/
theorem keepsRequests_of_servedRun :
    ∃ state,
      (bridge plainExternal).Run booted servedRun state ∧
        state.trigger = false ∧ KeepsRequests servedRun state := by
  have executed :
      ((bridge plainExternal).run? booted servedRun).map
          (fun state => state.trigger) =
        some false := by
    decide +kernel
  obtain ⟨state, reached, isGone⟩ := Option.map_eq_some_iff.mp executed
  have run := System.run?_eq_some_iff.mp reached
  exact
    ⟨state, run, isGone,
      (keepsRequests_iff initial_booted run).mpr noneDuringReads_servedRun
        servedRun [] state (List.append_nil _).symm run⟩

/-- The second request is removed with the first one. -/
theorem not_keepsRequests :
    ∃ state,
      (bridge plainExternal).Run booted overlappingRun state ∧
        ¬ KeepsRequests overlappingRun state := by
  have executed :
      ((bridge plainExternal).run? booted overlappingRun).isSome = true := by
    decide +kernel
  obtain ⟨state, reached⟩ := Option.isSome_iff_exists.mp executed
  have run := System.run?_eq_some_iff.mp reached
  refine ⟨state, run, ?_⟩
  exact
    not_keepsRequests_of_during (triggeredRun ++ [.testTrigger])
      [.createTrigger, .readDone tenRegisters, .writeResult true] run
      (by simp) (by simp)

end RecomputerGateway.Rs485
