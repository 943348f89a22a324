import RecomputerGateway.WlanWatcher

namespace RecomputerGateway.Wlan.Rewriting

/-!
# Rewriting `WLAN.txt` while it is watched

The watcher reads the file twice in one tick, for its digest and for its
settings.  Here these are separate steps, and the user may write another text
into the file between any two of them.
-/

/-- How far the watcher has come in a tick. -/
inductive Place where
  | idle
  /-- The digest is computed and not yet compared. -/
  | digested (currentMd5 : List Char)
  /-- The digest is another one than the stored one. -/
  | differs (currentMd5 : List Char)
  /-- `apply_wifi_config` has returned; `applied` says whether with status 0. -/
  | returned (currentMd5 : List Char) (applied : Bool)
  deriving DecidableEq

structure State where
  /-- The text in the file. -/
  file : List Char
  place : Place
  watcher : Watcher

inductive Event where
  | rewrite (text : List Char)
  | digest
  | compare
  | apply
  | store
  deriving DecidableEq

section
variable (md5sum : List Char → List Char)

/-- The steps of the user and of the watcher. -/
def step? (state : State) : Event → Option State
  | .rewrite text => some { state with file := text }
  | .digest =>
      match state.place with
      | .idle => some { state with place := .digested (md5sum state.file) }
      | _ => none
  | .compare =>
      match state.place with
      | .digested currentMd5 =>
          if currentMd5 ≠ state.watcher.lastConfigMd5 then
            some { state with place := .differs currentMd5 }
          else some { state with place := .idle }
      | _ => none
  | .apply =>
      match state.place with
      | .differs currentMd5 =>
          match applyWifiConfig state.file state.watcher.wireless with
          | (.ok (), wireless) =>
              some
                { state with
                  place := .returned currentMd5 true
                  watcher :=
                    { state.watcher with
                      wireless
                      applied := state.watcher.applied ++ [state.file] } }
          | (.error _, wireless) =>
              some
                { state with
                  place := .returned currentMd5 false
                  watcher := { state.watcher with wireless } }
      | _ => none
  | .store =>
      match state.place with
      | .returned currentMd5 true =>
          some
            { state with
              place := .idle
              watcher := { state.watcher with lastConfigMd5 := currentMd5 } }
      | .returned _ false => some { state with place := .idle }
      | _ => none

/-- The watcher starts with any text in the file. -/
def rewriting : System State Event where
  Initial state :=
    state.place = .idle ∧ (watching md5sum).Initial state.watcher
  step? := step? md5sum

/-- A text that is applied is the one whose digest was computed. -/
def Unrewritten (state : State) (event : Event) : Prop :=
  ∀ currentMd5,
    event = .apply →
    state.place = .differs currentMd5 →
    (parse state.file).Valid →
    md5sum state.file = currentMd5

/--
At least one whole tick, over which the file holds this text: the user may
only write the same text again.
-/
structure WholeTick
    (text : List Char)
    (source : State)
    (events : List Event)
    (target : State) : Prop where
  ticks : .digest ∈ events
  starts : source.place = .idle
  ends : target.place = .idle
  holds : source.file = text
  keeps : ∀ event ∈ events, ∀ other, event = .rewrite other → other = text
  run : (rewriting md5sum).Run source events target

variable {md5sum}

/-! ## What a step can do -/

/-- The outcome of each event, with the place it happens at. -/
theorem step?_cases
    {state next : State}
    {event : Event}
    (stepped : step? md5sum state event = some next) :
    (∃ text,
        event = .rewrite text ∧ next = { state with file := text }) ∨
      (event = .digest ∧ state.place = .idle ∧
        next = { state with place := .digested (md5sum state.file) }) ∨
      (∃ currentMd5,
        event = .compare ∧ state.place = .digested currentMd5 ∧
          (currentMd5 ≠ state.watcher.lastConfigMd5 ∧
              next = { state with place := .differs currentMd5 } ∨
            currentMd5 = state.watcher.lastConfigMd5 ∧
              next = { state with place := .idle })) ∨
      (∃ currentMd5,
        event = .apply ∧ state.place = .differs currentMd5 ∧
          ((parse state.file).Valid ∧
              next =
                { state with
                  place := .returned currentMd5 true
                  watcher :=
                    { state.watcher with
                      wireless :=
                        (applyWifiConfig state.file
                          state.watcher.wireless).2
                      applied := state.watcher.applied ++ [state.file] } } ∨
            ¬ (parse state.file).Valid ∧
              next = { state with place := .returned currentMd5 false })) ∨
      (∃ currentMd5 applied,
        event = .store ∧ state.place = .returned currentMd5 applied ∧
          next =
            { state with
              place := .idle
              watcher :=
                if applied then
                  { state.watcher with lastConfigMd5 := currentMd5 }
                else state.watcher }) := by
  cases event with
  | rewrite text =>
      exact .inl ⟨text, rfl, (Option.some.inj stepped).symm⟩
  | digest =>
      simp only [step?] at stepped
      split at stepped
      next isIdle =>
        exact .inr (.inl ⟨rfl, isIdle, (Option.some.inj stepped).symm⟩)
      next =>
        contradiction
  | compare =>
      simp only [step?] at stepped
      split at stepped
      next currentMd5 isDigested =>
        refine .inr (.inr (.inl ⟨currentMd5, rfl, isDigested, ?_⟩))
        split at stepped
        next new =>
          exact .inl ⟨new, (Option.some.inj stepped).symm⟩
        next known =>
          exact .inr ⟨not_not.mp known, (Option.some.inj stepped).symm⟩
      next =>
        contradiction
  | apply =>
      simp only [step?] at stepped
      split at stepped
      next currentMd5 isNew =>
        refine .inr (.inr (.inr (.inl ⟨currentMd5, rfl, isNew, ?_⟩)))
        rw [applyWifiConfig] at stepped ⊢
        by_cases valid : (parse state.file).Valid
        · rw [applySettings_of_valid valid] at stepped ⊢
          exact .inl ⟨valid, (Option.some.inj stepped).symm⟩
        · obtain ⟨message, rejected⟩ :=
            applySettings_of_not_valid valid state.watcher.wireless
          rw [rejected] at stepped
          exact .inr ⟨valid, (Option.some.inj stepped).symm⟩
      next =>
        contradiction
  | store =>
      simp only [step?] at stepped
      split at stepped
      next currentMd5 isReturned =>
        exact .inr (.inr (.inr (.inr
          ⟨currentMd5, true, rfl, isReturned,
            (Option.some.inj stepped).symm⟩)))
      next currentMd5 isReturned =>
        exact .inr (.inr (.inr (.inr
          ⟨currentMd5, false, rfl, isReturned,
            (Option.some.inj stepped).symm⟩)))
      next =>
        contradiction

/-- Without a rewrite between its steps, a tick does what `checkConfig` does. -/
theorem run_checkConfig
    {state : State}
    (isIdle : state.place = .idle) :
    ∃ events,
      (∀ text, .rewrite text ∉ events) ∧
        (rewriting md5sum).Run state events
          { state with
            watcher := checkConfig md5sum state.file state.watcher } := by
  obtain ⟨file, place, watcher⟩ := state
  dsimp only at isIdle ⊢
  subst place
  by_cases known : md5sum file = watcher.lastConfigMd5
  · refine ⟨[.digest, .compare], by simp, System.run?_eq_some_iff.mp ?_⟩
    simp [System.run?, rewriting, step?, checkConfig, known]
  · refine ⟨[.digest, .compare, .apply, .store], by simp,
      System.run?_eq_some_iff.mp ?_⟩
    by_cases valid : (parse file).Valid
    · simp [System.run?, rewriting, step?, checkConfig, known,
        applyWifiConfig, applySettings_of_valid valid]
    · obtain ⟨message, rejected⟩ :=
        applySettings_of_not_valid valid watcher.wireless
      simp [System.run?, rewriting, step?, checkConfig, known,
        applyWifiConfig, rejected]

/-! ## The stored digest -/

variable (md5sum) in
/--
The digest is that of the text applied last.  Between the two it is the one
that is about to be stored.
-/
def DigestKept (state : State) : Prop :=
  match state.place with
  | .returned currentMd5 true =>
      ∃ text,
        state.watcher.applied.getLast? = some text ∧
          currentMd5 = md5sum text
  | _ => DigestOfApplied md5sum state.watcher

theorem digestKept_step
    {state next : State}
    {event : Event}
    (kept : DigestKept md5sum state)
    (unrewritten : Unrewritten md5sum state event)
    (stepped : step? md5sum state event = some next) :
    DigestKept md5sum next := by
  rcases step?_cases stepped with
    ⟨text, rfl, rfl⟩ | ⟨rfl, isIdle, rfl⟩ |
    ⟨currentMd5, rfl, isDigested, ⟨-, rfl⟩ | ⟨-, rfl⟩⟩ |
    ⟨currentMd5, rfl, isNew, ⟨valid, rfl⟩ | ⟨-, rfl⟩⟩ |
    ⟨currentMd5, applied, rfl, isReturned, rfl⟩
  · exact kept
  · rw [DigestKept, isIdle] at kept
    exact kept
  · rw [DigestKept, isDigested] at kept
    exact kept
  · rw [DigestKept, isDigested] at kept
    exact kept
  · exact ⟨state.file, List.getLast?_concat,
      (unrewritten currentMd5 rfl isNew valid).symm⟩
  · rw [DigestKept, isNew] at kept
    exact kept
  · rw [DigestKept, isReturned] at kept
    cases applied with
    | true =>
        exact .inr kept
    | false =>
        exact kept

theorem digestKept_of_reachable
    {state : State}
    (reachable :
      (rewriting md5sum).GuardedReachable (Unrewritten md5sum) state) :
    DigestKept md5sum state := by
  refine reachable.invariant (DigestKept md5sum) ?_ ?_
  · rintro state ⟨isIdle, serial, installed, started⟩
    rw [DigestKept, isIdle, started]
    exact .inl rfl
  · intro state event next _ kept unrewritten stepped
    exact digestKept_step kept unrewritten stepped

/-! ## A tick over one text -/

variable (md5sum) in
/-- How far a tick has come when the file holds this text all the time. -/
def InTick
    (text : List Char)
    (earlier : List Event)
    (state : State) : Prop :=
  state.file = text ∧
    match state.place with
    | .idle =>
        .digest ∈ earlier → state.watcher.applied.getLast? = some text
    | .digested currentMd5 => currentMd5 = md5sum text
    | .differs currentMd5 => currentMd5 = md5sum text
    | .returned _ applied =>
        applied = true ∧ state.watcher.applied.getLast? = some text

/-- The text of the file has its digest, so nothing comes between. -/
theorem InTick.unrewritten
    {text : List Char}
    {earlier : List Event}
    {state : State}
    (inTick : InTick md5sum text earlier state)
    (event : Event) :
    Unrewritten md5sum state event := by
  intro currentMd5 _ isNew _
  obtain ⟨holds, atPlace⟩ := inTick
  rw [isNew] at atPlace
  rw [holds, atPlace]

/-- With an equal digest, the text is the one that was applied last. -/
theorem last_of_known
    (injective : Function.Injective md5sum)
    (nonempty : ∀ text, md5sum text ≠ [])
    {watcher : Watcher}
    (stored : DigestOfApplied md5sum watcher)
    {text : List Char}
    (known : md5sum text = watcher.lastConfigMd5) :
    watcher.applied.getLast? = some text := by
  rcases stored with nothing | ⟨last, isLast, isDigest⟩
  · exact absurd (known.trans nothing) (nonempty text)
  · rw [isLast, injective (known.trans isDigest)]

theorem inTick_step
    (injective : Function.Injective md5sum)
    (nonempty : ∀ text, md5sum text ≠ [])
    {text : List Char}
    (valid : (parse text).Valid)
    {earlier : List Event}
    {state next : State}
    {event : Event}
    (inTick : InTick md5sum text earlier state)
    (kept : DigestKept md5sum state)
    (keeps : ∀ other, event = .rewrite other → other = text)
    (stepped : step? md5sum state event = some next) :
    InTick md5sum text (earlier ++ [event]) next := by
  obtain ⟨holds, atPlace⟩ := inTick
  rcases step?_cases stepped with
    ⟨other, rfl, rfl⟩ | ⟨rfl, isIdle, rfl⟩ |
    ⟨currentMd5, rfl, isDigested, ⟨-, rfl⟩ | ⟨known, rfl⟩⟩ |
    ⟨currentMd5, rfl, isNew, ⟨-, rfl⟩ | ⟨invalid, -⟩⟩ |
    ⟨currentMd5, applied, rfl, isReturned, rfl⟩
  · refine ⟨keeps other rfl, ?_⟩
    simpa only [List.mem_append, List.mem_singleton, reduceCtorEq,
      or_false] using atPlace
  · exact ⟨holds, congrArg md5sum holds⟩
  · rw [isDigested] at atPlace
    exact ⟨holds, atPlace⟩
  · rw [isDigested] at atPlace
    rw [DigestKept, isDigested] at kept
    exact ⟨holds, fun _ =>
      last_of_known injective nonempty kept (atPlace.symm.trans known)⟩
  · rw [← holds]
    exact ⟨rfl, rfl, List.getLast?_concat⟩
  · rw [holds] at invalid
    exact absurd valid invalid
  · rw [isReturned] at atPlace
    obtain ⟨rfl, isLast⟩ := atPlace
    exact ⟨holds, fun _ => isLast⟩

/--
In a run in which every text that is applied is the one whose digest was
computed, a whole tick over one valid text leaves its configuration.
-/
theorem lastApplied_of_wholeTick
    (injective : Function.Injective md5sum)
    (nonempty : ∀ text, md5sum text ≠ [])
    {text : List Char}
    {source target : State}
    {events : List Event}
    (reachable :
      (rewriting md5sum).GuardedReachable (Unrewritten md5sum) source)
    (tick : WholeTick md5sum text source events target)
    (valid : (parse text).Valid) :
    target.watcher.applied.getLast?.map parse = some (parse text) := by
  have guarded := tick.run.restrict tick.keeps
  have atStart : InTick md5sum text [] source := by
    refine ⟨tick.holds, ?_⟩
    rw [tick.starts]
    intro ticked
    contradiction
  have atEnd :=
    guarded.history
      (fun earlier state =>
        InTick md5sum text earlier state ∧ DigestKept md5sum state)
      (fun earlier state event next holds keeps stepped =>
        ⟨inTick_step injective nonempty valid holds.1 holds.2 keeps.2 stepped,
          digestKept_step holds.2 (holds.1.unrewritten event) stepped⟩)
      ⟨atStart, digestKept_of_reachable reachable⟩
  obtain ⟨⟨-, atPlace⟩, -⟩ := atEnd
  rw [tick.ends] at atPlace
  rw [atPlace tick.ticks]
  rfl

end

/-! ## Runs with one digest -/

theorem sampleMd5sum_injective : Function.Injective sampleMd5sum := by
  intro first second same
  have digestHead :
      "8b18ee9ccc27e64d2f10cb436b6b8e15".toList.head? = some '8' := by
    decide
  unfold sampleMd5sum at same
  split_ifs at same with isFirst isSecond isSecond
  · rw [isFirst, isSecond]
  · have head := congrArg List.head? same
    rw [digestHead, List.head?_cons] at head
    exact absurd head (by decide)
  · have head := congrArg List.head? same
    rw [digestHead, List.head?_cons] at head
    exact absurd head (by decide)
  · exact (List.cons.inj same).2

theorem sampleMd5sum_ne_nil
    (text : List Char) :
    sampleMd5sum text ≠ [] := by
  unfold sampleMd5sum
  split
  · decide
  · exact List.cons_ne_nil _ _

/-- The watcher has started, and the file is that of the access point. -/
def startedState : State where
  file := accessPointText
  place := .idle
  watcher := startedWatcher

theorem startedState_initial : (rewriting sampleMd5sum).Initial startedState :=
  ⟨rfl, none, _, rfl⟩

/-- The first tick applies the access point. -/
theorem lastApplied_of_firstTick :
    ∃ target,
      WholeTick sampleMd5sum accessPointText startedState
          [.digest, .compare, .apply, .store] target ∧
        target.watcher.applied.getLast?.map parse =
          some (parse accessPointText) := by
  obtain ⟨target, reaches⟩ :
      ∃ target,
        (rewriting sampleMd5sum).run? startedState
          [.digest, .compare, .apply, .store] = some target :=
    Option.isSome_iff_exists.mp (by decide +kernel)
  have isIdle :
      ((rewriting sampleMd5sum).run? startedState
        [.digest, .compare, .apply, .store]).map State.place =
          some .idle := by
    decide +kernel
  rw [reaches] at isIdle
  have tick :
      WholeTick sampleMd5sum accessPointText startedState
        [.digest, .compare, .apply, .store] target :=
    { ticks := by decide
      starts := rfl
      ends := Option.some.inj isIdle
      holds := rfl
      keeps := by simp
      run := System.run?_eq_some_iff.mp reaches }
  exact ⟨target, tick,
    lastApplied_of_wholeTick sampleMd5sum_injective sampleMd5sum_ne_nil
      (.initial startedState_initial) tick (by decide +kernel)⟩

/-- A station. -/
def stationText : List Char :=
  "MODE=sta\nSTA_SSID=lab\n".toList

/-- The station is applied under the digest of the access point. -/
def rewritingEvents : List Event :=
  [ .digest, .rewrite stationText, .compare, .apply, .store,
    .rewrite accessPointText ]

/--
Once the access point is back in the file, its digest is found unchanged, and
the device stays a station.
-/
theorem lastApplied_differs :
    ∃ source target,
      (rewriting sampleMd5sum).Reachable source ∧
        WholeTick sampleMd5sum accessPointText source
          [.digest, .compare] target ∧
        (parse accessPointText).Valid ∧
        target.watcher.applied.getLast?.map parse ≠
          some (parse accessPointText) := by
  obtain ⟨source, toSource⟩ :
      ∃ source,
        (rewriting sampleMd5sum).run? startedState rewritingEvents =
          some source :=
    Option.isSome_iff_exists.mp (by decide +kernel)
  obtain ⟨target, toTarget⟩ :
      ∃ target,
        ((rewriting sampleMd5sum).run? startedState rewritingEvents).bind
            (fun source =>
              (rewriting sampleMd5sum).run? source [.digest, .compare]) =
          some target :=
    Option.isSome_iff_exists.mp (by decide +kernel)
  have atSource :
      ((rewriting sampleMd5sum).run? startedState rewritingEvents).map
          (fun source => (source.place, source.file)) =
        some (.idle, accessPointText) := by
    decide +kernel
  have atTarget :
      (((rewriting sampleMd5sum).run? startedState rewritingEvents).bind
          (fun source =>
            (rewriting sampleMd5sum).run? source [.digest, .compare])).map
          (fun target =>
            (target.place,
              decide (target.watcher.applied.getLast?.map parse =
                some (parse accessPointText)))) =
        some (.idle, false) := by
    decide +kernel
  rw [toTarget, Option.map_some, Option.some.injEq, Prod.mk.injEq] at atTarget
  rw [toSource, Option.bind_some] at toTarget
  rw [toSource, Option.map_some, Option.some.injEq, Prod.mk.injEq] at atSource
  refine ⟨source, target,
    ⟨startedState, rewritingEvents, startedState_initial,
      System.run?_eq_some_iff.mp toSource⟩, ?_, by decide +kernel,
    of_decide_eq_false atTarget.2⟩
  exact
    { ticks := by decide
      starts := atSource.1
      ends := atTarget.1
      holds := atSource.2
      keeps := by simp
      run := System.run?_eq_some_iff.mp toTarget }

end RecomputerGateway.Wlan.Rewriting
