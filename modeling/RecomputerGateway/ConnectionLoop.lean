import RecomputerGateway.EntryLog
import RecomputerGateway.Transition

namespace RecomputerGateway.ConnectionLoop

open EntryLog

/-!
# The main loop of `quectel-CM`

`qmi_main` sets up the data call, watches it and sets it up again when it is
lost.  The loop is driven by the signals that it sends itself, by an alarm and
by what the thread that talks to the modem reports.  The requests to the modem
are answered by the environment.
-/

/-- `QWDS_PKT_DATA_DISCONNECTED` and `QWDS_PKT_DATA_CONNECTED`. -/
def disconnected : Nat := 1

def connected : Nat := 2

/-- The tables of requests that a profile may use. -/
inductive RequestOps where
  | qmi
  | mbim
  | atc
  deriving DecidableEq

/-- What the loop uses of `PROFILE_T`. -/
structure Profile where
  enableIpv4 : Bool
  enableIpv6 : Bool
  requestOps : RequestOps
  hasCredentials : Bool
  auth : Nat
  loopbackState : Nat
  ipv4Address : Nat
  udhcpcIp : Nat
  deriving DecidableEq

inductive Signo where
  | start
  | check
  | stop
  deriving DecidableEq

/-- What happens to the data call, with the times in milliseconds. -/
inductive Entry where
  | dialed (time : Nat) (permitted : Bool)
  | failed (time count : Nat)
  | succeeded (time : Nat)
  | deregistered (time : Nat)
  | dropped (time : Nat)
  deriving DecidableEq

/-- The variables of `qmi_main`, the signals, the alarm and the link. -/
structure MainState where
  profile : Profile
  psAttachedState : Nat
  ipv4Status : Nat
  ipv6Status : Nat
  setupCallFail : Nat
  setupCallAllowTime : Nat
  sLink : Int
  signals : List Signo
  alarm : Option Nat
  now : Nat
  running : Bool
  history : List Entry
  deriving DecidableEq

namespace MainState

def setIpv4Status (state : MainState) (status : Nat) : MainState :=
  { state with ipv4Status := status }

def setIpv6Status (state : MainState) (status : Nat) : MainState :=
  { state with ipv6Status := status }

def setAddress (state : MainState) (address : Nat) : MainState :=
  { state with profile := { state.profile with ipv4Address := address } }

def setAuth (state : MainState) (auth : Nat) : MainState :=
  { state with profile := { state.profile with auth := auth } }

end MainState

/-- `udhcpc_ip` after `udhcpc_start` or `udhcpc_stop`. -/
def Profile.udhcpcIpAfter
    (profile : Profile)
    (link : Nat)
    (leased : Option Nat) : Nat :=
  if link = 0 then 0
  else
    match profile.requestOps with
    | .atc => leased.getD profile.udhcpcIp
    | .qmi => profile.udhcpcIp
    | .mbim => profile.udhcpcIp

/--
`usbnet_link_change`, with a bit for each address family.  When the link goes
up, `leased` is the address that is then found on the interface, if a DHCP
client has been run.
-/
def MainState.linkChange
    (state : MainState)
    (link : Nat)
    (leased : Option Nat) : MainState :=
  if state.sLink = link then state
  else
    { state with
      sLink := link
      profile :=
        { state.profile with
          ipv4Address :=
            if link.testBit 4 then state.profile.ipv4Address else 0
          udhcpcIp := state.profile.udhcpcIpAfter link leased } }

/-- An enabled address family is disconnected. -/
def MainState.lacksCall (state : MainState) : Bool :=
  (state.profile.enableIpv4 && decide (state.ipv4Status = disconnected)) ||
    (state.profile.enableIpv6 && decide (state.ipv6Status = disconnected))

/-- `allow_time`, in seconds. -/
def allowTime (setupCallFail : Nat) : Nat :=
  [5, 10, 20, 40, 60].getD setupCallFail 60

/-- The answers to the requests of one `SIG_EVENT_START`. -/
structure StartReplies where
  setup4 : Int
  setup4Again : Int
  address4 : Option Nat
  setup6 : Int
  address6 : Bool
  elapsed : Nat
  deriving DecidableEq

/-- A request is permitted while attached or looped back. -/
def MainState.permitted (state : MainState) : Bool :=
  decide (state.psAttachedState = 1 ∨ state.profile.loopbackState ≠ 0)

/-- `requestSetupDataCall` is called. -/
def MainState.dial (state : MainState) : MainState :=
  { state with
    history := state.history ++ [.dialed state.now state.permitted] }

/-- The error of the IPv4 call, with the other authentication if need be. -/
def setupIpv4 (state : MainState) (replies : StartReplies) :
    MainState × Int :=
  if 0 < replies.setup4 ∧ state.profile.hasCredentials = true then
    if replies.setup4Again = 0 then
      (state.dial.dial.setAuth (if state.profile.auth = 1 then 2 else 1), 0)
    else (state.dial.dial, replies.setup4Again)
  else (state.dial, replies.setup4)

def startIpv4 (state : MainState) (replies : StartReplies) : MainState :=
  if state.profile.enableIpv4 ∧ state.ipv4Status ≠ connected then
    let dialed := setupIpv4 state replies
    if dialed.2 = 0 then
      match replies.address4 with
      | some address => (dialed.1.setAddress address).setIpv4Status connected
      | none => dialed.1
    else dialed.1
  else state

def startIpv6 (state : MainState) (replies : StartReplies) : MainState :=
  if state.profile.enableIpv6 ∧ state.ipv6Status ≠ connected then
    if state.profile.enableIpv4 ∧ state.profile.requestOps ≠ .qmi then
      state.setIpv6Status state.ipv4Status
    else if replies.setup6 = 0 ∧ replies.address6 then
      state.dial.setIpv6Status connected
    else state.dial
  else state

/-- The loop after the requests: when to set up the call again. -/
def afterStart (state : MainState) : MainState :=
  if state.lacksCall then
    let delay := allowTime state.setupCallFail * 1000
    { state with
      setupCallFail := state.setupCallFail + 1
      setupCallAllowTime := delay + state.now
      alarm := some (state.now + delay)
      history :=
        state.history ++ [.failed state.now state.setupCallFail] }
  else if state.ipv4Status = connected ∨ state.ipv6Status = connected then
    { state with
      setupCallFail := 0
      setupCallAllowTime := state.now
      history := state.history ++ [.succeeded state.now] }
  else state

/-- `SIG_EVENT_START`, after `alarm(0)`, at one moment of the clock. -/
def handleStart (state : MainState) (replies : StartReplies) : MainState :=
  if state.psAttachedState ≠ 1 ∧ state.profile.loopbackState = 0 then state
  else if state.now < state.setupCallAllowTime then
    let seconds := (state.setupCallAllowTime - state.now + 999) / 1000
    { state with alarm := some (state.now + seconds * 1000) }
  else
    let dialed := startIpv6 (startIpv4 state replies) replies
    afterStart { dialed with now := dialed.now + replies.elapsed }

/-- The answers to the requests of one `SIG_EVENT_CHECK`. -/
structure CheckReplies where
  attached : Nat
  query4 : Option Nat
  address4 : Option Nat
  remote4 : Option Nat
  query6 : Option Nat
  leased : Option Nat
  elapsed : Nat
  deriving DecidableEq

/-- `check_ipv4_address` with the answer of `requestGetIPAddress`. -/
def checkIpv4Address (state : MainState) (remote : Option Nat) :
    MainState × Bool :=
  if state.profile.requestOps = .mbim ∨
      state.profile.requestOps = .atc ∧ state.profile.udhcpcIp = 0 then
    (state, true)
  else
    let oldAddress :=
      if state.profile.requestOps = .atc then state.profile.udhcpcIp
      else state.profile.ipv4Address
    match remote with
    | some address => (state.setAddress address, decide (address = oldAddress))
    | none => (state, false)

/-- A connected call without an address gets one or is given up. -/
def checkAddress (state : MainState) (replies : CheckReplies) : MainState :=
  if state.ipv4Status = connected ∧ state.profile.ipv4Address = 0 then
    match replies.address4 with
    | some address => state.setAddress address
    | none => state.setIpv4Status disconnected
  else state

def checkIpv4 (state : MainState) (replies : CheckReplies) : MainState :=
  if state.profile.enableIpv4 ∧ state.ipv4Status ≠ disconnected then
    match replies.query4 with
    | some status =>
        let checked := checkAddress (state.setIpv4Status status) replies
        if checked.ipv4Status = connected then
          let compared := checkIpv4Address checked replies.remote4
          if compared.2 then compared.1
          else compared.1.setIpv4Status disconnected
        else checked
    | none => state.setIpv4Status disconnected
  else state.setIpv4Status disconnected

def checkIpv6 (state : MainState) (replies : CheckReplies) : MainState :=
  if state.profile.enableIpv6 ∧ state.ipv6Status ≠ disconnected then
    if state.profile.enableIpv4 ∧ state.profile.requestOps ≠ .qmi then
      state.setIpv6Status state.ipv4Status
    else state.setIpv6Status (replies.query6.getD state.ipv6Status)
  else state.setIpv6Status disconnected

/-- The bits of the connected families. -/
def MainState.linkBits (state : MainState) : Nat :=
  (if state.ipv4Status = connected then 16 else 0) +
    (if state.ipv6Status = connected then 64 else 0)

def checkLink (state : MainState) (replies : CheckReplies) : MainState :=
  if state.ipv4Status = disconnected ∧ state.ipv6Status = disconnected then
    state.linkChange 0 none
  else if state.ipv4Status = connected ∨ state.ipv6Status = connected then
    state.linkChange state.linkBits replies.leased
  else state

/-- `send_signo_to_main`. -/
def MainState.send (state : MainState) (signo : Signo) : MainState :=
  { state with signals := state.signals ++ [signo] }

/-- `SIG_EVENT_CHECK`, after `alarm(0)`. -/
def handleCheck (state : MainState) (replies : CheckReplies) : MainState :=
  let attached :=
    if state.psAttachedState ≠ 1 then
      { state with psAttachedState := replies.attached }
    else state
  let watched := checkIpv6 (checkIpv4 attached replies) replies
  let linked := checkLink watched replies
  let checked := { linked with now := linked.now + replies.elapsed }
  if checked.lacksCall then checked.send .start else checked

/-- `__main_quit`. -/
def MainState.quit (state : MainState) : MainState :=
  { state.linkChange 0 none with running := false }

/-- What the thread that talks to the modem reports. -/
inductive DeviceEvent where
  | deviceDisconnected
  | networkStateChanged (attached : Nat)
  | dataCallListChanged
  | modemReset
  | loopbackConfig (state : Nat)
  deriving DecidableEq

def handleDevice (state : MainState) : DeviceEvent → MainState
  | .deviceDisconnected => state.quit
  | .networkStateChanged attached =>
      let registered := { state with psAttachedState := attached }
      if attached = 1 then
        if registered.lacksCall then registered.send .start else registered
      else
        { registered with
          setupCallAllowTime := state.now
          history := state.history ++ [.deregistered state.now] }
  | .dataCallListChanged =>
      if state.ipv4Status = connected ∨ state.ipv6Status = connected then
        let dropped : MainState :=
          { state with
            setupCallAllowTime := state.now + 1000
            history := state.history ++ [.dropped state.now] }
        dropped.send .check
      else state.send .check
  | .modemReset => state.quit
  | .loopbackConfig loopbackState =>
      let configured :=
        { state with
          profile := { state.profile with loopbackState := loopbackState } }
      if loopbackState ≠ 0 then configured.send .start else configured

inductive Event where
  | signal (start : StartReplies) (check : CheckReplies)
  | device (event : DeviceEvent)
  | idle
  | hangup
  | alarm
  | terminate
  | pass (milliseconds : Nat)
  deriving DecidableEq

/-- One turn of the loop, or what happens around it. -/
def step? (state : MainState) : Event → Option MainState
  | .signal start check =>
      if state.running then
        match state.signals with
        | [] => none
        | signo :: rest =>
            let taken := { state with signals := rest, alarm := none }
            match signo with
            | .start => some (handleStart taken start)
            | .check => some (handleCheck taken check)
            | .stop => some taken.quit
      else none
  | .device event =>
      if state.running then some (handleDevice state event) else none
  | .idle =>
      if state.running then some (state.send .check) else none
  | .hangup =>
      if state.running then some state.quit else none
  | .alarm =>
      match state.alarm with
      | none => none
      | some deadline =>
          if deadline ≤ state.now then
            some ({ state with alarm := none }.send .start)
          else none
  | .terminate => some (state.send .stop)
  | .pass milliseconds =>
      some { state with now := state.now + milliseconds }

/-- The loop is entered. -/
def loops : System MainState Event where
  Initial state :=
    state.running = true ∧ state.signals = [.check] ∧ state.alarm = none ∧
      state.setupCallFail = 0 ∧ state.setupCallAllowTime ≤ state.now ∧
      state.history = []
  step? := step?

/-- What setting up a call leaves as it was. -/
structure Dials (state next : MainState) : Prop where
  psAttachedState : next.psAttachedState = state.psAttachedState
  loopbackState : next.profile.loopbackState = state.profile.loopbackState
  setupCallFail : next.setupCallFail = state.setupCallFail
  setupCallAllowTime : next.setupCallAllowTime = state.setupCallAllowTime
  signals : next.signals = state.signals
  alarm : next.alarm = state.alarm
  now : next.now = state.now
  running : next.running = state.running
  history :
    ∃ dials,
      next.history = state.history ++ dials ∧
        ∀ entry ∈ dials, entry = .dialed state.now state.permitted

namespace Dials

variable {state next last : MainState}

theorem refl (state : MainState) : Dials state state :=
  ⟨rfl, rfl, rfl, rfl, rfl, rfl, rfl, rfl, [],
    (List.append_nil _).symm, List.forall_mem_nil _⟩

theorem permitted
    (dials : Dials state next) :
    next.permitted = state.permitted := by
  rw [MainState.permitted, dials.psAttachedState, dials.loopbackState,
    MainState.permitted]

theorem trans
    (first : Dials state next)
    (second : Dials next last) :
    Dials state last := by
  obtain ⟨firstDials, firstShape, firstOnly⟩ := first.history
  obtain ⟨secondDials, secondShape, secondOnly⟩ := second.history
  refine
    ⟨second.psAttachedState.trans first.psAttachedState,
      second.loopbackState.trans first.loopbackState,
      second.setupCallFail.trans first.setupCallFail,
      second.setupCallAllowTime.trans first.setupCallAllowTime,
      second.signals.trans first.signals, second.alarm.trans first.alarm,
      second.now.trans first.now, second.running.trans first.running,
      firstDials ++ secondDials, ?_, ?_⟩
  · rw [secondShape, firstShape, List.append_assoc]
  · intro entry member
    rcases List.mem_append.mp member with inFirst | inSecond
    · exact firstOnly entry inFirst
    · rw [secondOnly entry inSecond, first.now, first.permitted]

theorem dial (state : MainState) : Dials state state.dial :=
  ⟨rfl, rfl, rfl, rfl, rfl, rfl, rfl, rfl, _, rfl,
    List.forall_mem_singleton.mpr rfl⟩

theorem setIpv4Status
    (dials : Dials state next)
    (status : Nat) :
    Dials state (next.setIpv4Status status) :=
  ⟨dials.psAttachedState, dials.loopbackState, dials.setupCallFail,
    dials.setupCallAllowTime, dials.signals, dials.alarm, dials.now,
    dials.running, dials.history⟩

theorem setIpv6Status
    (dials : Dials state next)
    (status : Nat) :
    Dials state (next.setIpv6Status status) :=
  ⟨dials.psAttachedState, dials.loopbackState, dials.setupCallFail,
    dials.setupCallAllowTime, dials.signals, dials.alarm, dials.now,
    dials.running, dials.history⟩

theorem setAddress
    (dials : Dials state next)
    (address : Nat) :
    Dials state (next.setAddress address) :=
  ⟨dials.psAttachedState, dials.loopbackState, dials.setupCallFail,
    dials.setupCallAllowTime, dials.signals, dials.alarm, dials.now,
    dials.running, dials.history⟩

theorem setAuth
    (dials : Dials state next)
    (auth : Nat) :
    Dials state (next.setAuth auth) :=
  ⟨dials.psAttachedState, dials.loopbackState, dials.setupCallFail,
    dials.setupCallAllowTime, dials.signals, dials.alarm, dials.now,
    dials.running, dials.history⟩

end Dials

theorem setupIpv4_dials
    (state : MainState)
    (replies : StartReplies) :
    Dials state (setupIpv4 state replies).1 := by
  have twice := (Dials.dial state).trans (Dials.dial state.dial)
  unfold setupIpv4
  by_cases again : 0 < replies.setup4 ∧ state.profile.hasCredentials = true
  · rw [if_pos again]
    split
    · exact twice.setAuth _
    · exact twice
  · rw [if_neg again]
    exact Dials.dial state

theorem startIpv4_dials
    (state : MainState)
    (replies : StartReplies) :
    Dials state (startIpv4 state replies) := by
  have dials := setupIpv4_dials state replies
  unfold startIpv4
  split
  · dsimp only
    split
    · cases replies.address4 with
      | some address =>
          exact (dials.setAddress address).setIpv4Status connected
      | none => exact dials
    · exact dials
  · exact .refl state

theorem startIpv6_dials
    (state : MainState)
    (replies : StartReplies) :
    Dials state (startIpv6 state replies) := by
  unfold startIpv6
  split
  · split
    · exact (Dials.refl state).setIpv6Status _
    · split
      · exact (Dials.dial state).setIpv6Status connected
      · exact Dials.dial state
  · exact .refl state

/-- What watching a call leaves as it was. -/
structure Watches (state next : MainState) : Prop where
  setupCallFail : next.setupCallFail = state.setupCallFail
  setupCallAllowTime : next.setupCallAllowTime = state.setupCallAllowTime
  signals : next.signals = state.signals
  alarm : next.alarm = state.alarm
  now : next.now = state.now
  running : next.running = state.running
  history : next.history = state.history

namespace Watches

variable {state next last : MainState}

theorem refl (state : MainState) : Watches state state :=
  ⟨rfl, rfl, rfl, rfl, rfl, rfl, rfl⟩

theorem trans
    (first : Watches state next)
    (second : Watches next last) :
    Watches state last :=
  ⟨second.setupCallFail.trans first.setupCallFail,
    second.setupCallAllowTime.trans first.setupCallAllowTime,
    second.signals.trans first.signals, second.alarm.trans first.alarm,
    second.now.trans first.now, second.running.trans first.running,
    second.history.trans first.history⟩

theorem setIpv4Status (state : MainState) (status : Nat) :
    Watches state (state.setIpv4Status status) :=
  ⟨rfl, rfl, rfl, rfl, rfl, rfl, rfl⟩

theorem setIpv6Status (state : MainState) (status : Nat) :
    Watches state (state.setIpv6Status status) :=
  ⟨rfl, rfl, rfl, rfl, rfl, rfl, rfl⟩

theorem setAddress (state : MainState) (address : Nat) :
    Watches state (state.setAddress address) :=
  ⟨rfl, rfl, rfl, rfl, rfl, rfl, rfl⟩

end Watches

theorem checkAddress_watches
    (state : MainState)
    (replies : CheckReplies) :
    Watches state (checkAddress state replies) := by
  unfold checkAddress
  split
  · cases replies.address4 with
    | some address => exact .setAddress state address
    | none => exact .setIpv4Status state disconnected
  · exact .refl state

theorem checkIpv4Address_watches
    (state : MainState)
    (remote : Option Nat) :
    Watches state (checkIpv4Address state remote).1 := by
  unfold checkIpv4Address
  split
  · exact .refl state
  · cases remote with
    | some address => exact .setAddress state address
    | none => exact .refl state

theorem checkIpv4_watches
    (state : MainState)
    (replies : CheckReplies) :
    Watches state (checkIpv4 state replies) := by
  unfold checkIpv4
  split
  · cases replies.query4 with
    | none => exact .setIpv4Status state disconnected
    | some status =>
        have checked :=
          (Watches.setIpv4Status state status).trans
            (checkAddress_watches _ replies)
        dsimp only
        split
        · have compared :=
            checked.trans (checkIpv4Address_watches _ replies.remote4)
          split
          · exact compared
          · exact compared.trans (.setIpv4Status _ disconnected)
        · exact checked
  · exact .setIpv4Status state disconnected

theorem checkIpv6_watches
    (state : MainState)
    (replies : CheckReplies) :
    Watches state (checkIpv6 state replies) := by
  unfold checkIpv6
  split
  · split
    · exact .setIpv6Status state _
    · exact .setIpv6Status state _
  · exact .setIpv6Status state _

namespace MainState

/-- The link and the addresses are all that changes. -/
theorem linkChange_fields
    (state : MainState)
    (link : Nat)
    (leased : Option Nat) :
    (state.linkChange link leased).setupCallFail = state.setupCallFail ∧
      (state.linkChange link leased).setupCallAllowTime =
        state.setupCallAllowTime ∧
      (state.linkChange link leased).signals = state.signals ∧
      (state.linkChange link leased).alarm = state.alarm ∧
      (state.linkChange link leased).now = state.now ∧
      (state.linkChange link leased).running = state.running ∧
      (state.linkChange link leased).history = state.history := by
  unfold linkChange
  split
  · exact ⟨rfl, rfl, rfl, rfl, rfl, rfl, rfl⟩
  · exact ⟨rfl, rfl, rfl, rfl, rfl, rfl, rfl⟩

end MainState

/-- What the check of the link leaves as it was. -/
theorem checkLink_fields (state : MainState) (replies : CheckReplies) :
    (checkLink state replies).setupCallFail = state.setupCallFail ∧
      (checkLink state replies).setupCallAllowTime =
        state.setupCallAllowTime ∧
      (checkLink state replies).signals = state.signals ∧
      (checkLink state replies).alarm = state.alarm ∧
      (checkLink state replies).now = state.now ∧
      (checkLink state replies).running = state.running ∧
      (checkLink state replies).history = state.history := by
  unfold checkLink
  split
  · exact state.linkChange_fields 0 none
  · split
    · exact state.linkChange_fields state.linkBits replies.leased
    · exact ⟨rfl, rfl, rfl, rfl, rfl, rfl, rfl⟩

/-- What a check of the call does to the timing and the signals. -/
theorem handleCheck_fields
    (state : MainState)
    (replies : CheckReplies) :
    (handleCheck state replies).setupCallFail = state.setupCallFail ∧
      (handleCheck state replies).setupCallAllowTime =
        state.setupCallAllowTime ∧
      (handleCheck state replies).alarm = state.alarm ∧
      (handleCheck state replies).now = state.now + replies.elapsed ∧
      (handleCheck state replies).running = state.running ∧
      (handleCheck state replies).history = state.history ∧
      ((handleCheck state replies).lacksCall = true →
        .start ∈ (handleCheck state replies).signals) := by
  have watches :
      ∀ attached : MainState,
        Watches attached (checkIpv6 (checkIpv4 attached replies) replies) :=
    fun attached =>
      (checkIpv4_watches attached replies).trans
        (checkIpv6_watches _ replies)
  unfold handleCheck
  generalize isAttached :
    (if state.psAttachedState ≠ 1 then
      { state with psAttachedState := replies.attached }
    else state) = attached
  have same :
      attached.setupCallFail = state.setupCallFail ∧
        attached.setupCallAllowTime = state.setupCallAllowTime ∧
        attached.alarm = state.alarm ∧ attached.now = state.now ∧
        attached.running = state.running ∧
        attached.history = state.history := by
    rw [← isAttached]
    split <;> exact ⟨rfl, rfl, rfl, rfl, rfl, rfl⟩
  obtain ⟨fail, allow, alarm, now, running, history⟩ := same
  have watched := watches attached
  obtain ⟨linkFail, linkAllow, -, linkAlarm, linkNow, linkRunning,
    linkHistory⟩ :=
    checkLink_fields (checkIpv6 (checkIpv4 attached replies) replies)
      replies
  rw [watched.setupCallFail, fail] at linkFail
  rw [watched.setupCallAllowTime, allow] at linkAllow
  rw [watched.alarm, alarm] at linkAlarm
  rw [watched.now, now] at linkNow
  rw [watched.running, running] at linkRunning
  rw [watched.history, history] at linkHistory
  dsimp only
  split
  · refine
      ⟨linkFail, linkAllow, linkAlarm, congrArg (· + _) linkNow, linkRunning,
        linkHistory, fun _ => ?_⟩
    exact List.mem_append_right _ (.head [])
  · rename_i notLacking
    exact
      ⟨linkFail, linkAllow, linkAlarm, congrArg (· + _) linkNow, linkRunning,
        linkHistory, fun lacking => absurd lacking notLacking⟩

/-- What a start does: nothing, an alarm, or a call that is set up. -/
theorem handleStart_cases
    (state : MainState)
    (replies : StartReplies) :
    handleStart state replies = state ∧ state.psAttachedState ≠ 1 ∨
      state.now < state.setupCallAllowTime ∧
        handleStart state replies =
          { state with
            alarm :=
              some
                (state.now +
                  (state.setupCallAllowTime - state.now + 999) / 1000 *
                    1000) } ∨
      state.setupCallAllowTime ≤ state.now ∧ state.permitted = true ∧
        ∃ dialed,
          Dials state dialed ∧
            handleStart state replies =
              afterStart
                { dialed with now := dialed.now + replies.elapsed } := by
  unfold handleStart
  by_cases refused :
      state.psAttachedState ≠ 1 ∧ state.profile.loopbackState = 0
  · rw [if_pos refused]
    exact Or.inl ⟨rfl, refused.1⟩
  · rw [if_neg refused]
    by_cases early : state.now < state.setupCallAllowTime
    · rw [if_pos early]
      exact Or.inr (Or.inl ⟨early, rfl⟩)
    · rw [if_neg early]
      have permitted : state.permitted = true := by
        refine decide_eq_true ?_
        rw [not_and_or, not_not] at refused
        exact refused
      refine
        Or.inr (Or.inr ⟨Nat.le_of_not_lt early, permitted, _, ?_, rfl⟩)
      exact (startIpv4_dials state replies).trans (startIpv6_dials _ replies)

/-- A call that could not be set up is tried again within a minute. -/
theorem allowTime_le (setupCallFail : Nat) : allowTime setupCallFail ≤ 60 := by
  unfold allowTime
  match setupCallFail with
  | 0 | 1 | 2 | 3 | 4 => decide
  | _ + 5 => exact Nat.le_refl _

/-- What follows the requests of a start. -/
theorem afterStart_cases (state : MainState) :
    state.lacksCall = true ∧
        afterStart state =
          { state with
            setupCallFail := state.setupCallFail + 1
            setupCallAllowTime :=
              allowTime state.setupCallFail * 1000 + state.now
            alarm :=
              some (state.now + allowTime state.setupCallFail * 1000)
            history :=
              state.history ++ [.failed state.now state.setupCallFail] } ∨
      state.lacksCall = false ∧
        (afterStart state =
            { state with
              setupCallFail := 0
              setupCallAllowTime := state.now
              history := state.history ++ [.succeeded state.now] } ∨
          afterStart state = state) := by
  unfold afterStart
  cases lacks : state.lacksCall with
  | true => exact Or.inl ⟨rfl, rfl⟩
  | false =>
      refine Or.inr ⟨rfl, ?_⟩
      simp only [Bool.false_eq_true, if_false]
      split
      · exact Or.inl rfl
      · exact Or.inr rfl

/-- The state in which a signal is handled, after `alarm(0)`. -/
def MainState.take (state : MainState) (rest : List Signo) : MainState :=
  { state with signals := rest, alarm := none }

/-- What one step does. -/
inductive Turn (state : MainState) : MainState → Prop where
  | start (rest : List Signo) (replies : StartReplies) :
      Turn state (handleStart (state.take rest) replies)
  | check
      (rest : List Signo)
      (replies : CheckReplies)
      (running : state.running = true) :
      Turn state (handleCheck (state.take rest) replies)
  | stop (rest : List Signo) : Turn state (state.take rest).quit
  | device (event : DeviceEvent) : Turn state (handleDevice state event)
  | hangup : Turn state state.quit
  | alarm : Turn state ({ state with alarm := none }.send .start)
  | around (signals : List Signo) (milliseconds : Nat) :
      Turn state
        { state with
          signals := state.signals ++ signals
          now := state.now + milliseconds }

theorem turn_of_step
    {state next : MainState}
    {event : Event}
    (stepped : loops.step? state event = some next) :
    Turn state next := by
  cases event with
  | signal start check =>
      obtain ⟨running, moved⟩ := Option.ite_none_right_eq_some.mp stepped
      cases queued : state.signals with
      | nil =>
          rw [queued] at moved
          exact nomatch moved
      | cons signo rest =>
          rw [queued] at moved
          cases signo with
          | start => exact Option.some.inj moved ▸ .start rest start
          | check => exact Option.some.inj moved ▸ .check rest check running
          | stop => exact Option.some.inj moved ▸ .stop rest
  | device event =>
      obtain ⟨-, moved⟩ := Option.ite_none_right_eq_some.mp stepped
      exact Option.some.inj moved ▸ .device event
  | idle =>
      obtain ⟨-, moved⟩ := Option.ite_none_right_eq_some.mp stepped
      obtain rfl := Option.some.inj moved
      exact .around [.check] 0
  | hangup =>
      obtain ⟨-, moved⟩ := Option.ite_none_right_eq_some.mp stepped
      exact Option.some.inj moved ▸ .hangup
  | alarm =>
      cases isSet : state.alarm with
      | none =>
          simp only [loops, step?, isSet] at stepped
          exact nomatch stepped
      | some deadline =>
          simp only [loops, step?, isSet] at stepped
          obtain ⟨-, moved⟩ := Option.ite_none_right_eq_some.mp stepped
          obtain rfl := Option.some.inj moved
          exact .alarm
  | terminate =>
      obtain rfl := Option.some.inj stepped
      exact .around [.stop] 0
  | pass milliseconds =>
      obtain rfl := Option.some.inj stepped
      have passed : Turn state _ := .around [] milliseconds
      rwa [List.append_nil] at passed

/-- A lost call is on its way to be set up again. -/
def MainState.Redials (state : MainState) : Prop :=
  .start ∈ state.signals ∨ .check ∈ state.signals ∨
    ∃ deadline,
      state.alarm = some deadline ∧ deadline ≤ state.now + 60999

/-- The loop never forgets a call that it lacks. -/
structure Persistent (state : MainState) : Prop where
  allow : state.setupCallAllowTime ≤ state.now + 60000
  due :
    ∀ deadline,
      state.alarm = some deadline → deadline ≤ state.now + 60999
  redials :
    state.running = true →
      state.psAttachedState = 1 → state.lacksCall = true → state.Redials

namespace Persistent

variable {state : MainState}

/-- Time passes, and more signals are sent. -/
theorem later
    (persistent : Persistent state)
    (signals : List Signo)
    (milliseconds : Nat) :
    Persistent
      { state with
        signals := state.signals ++ signals
        now := state.now + milliseconds } := by
  refine ⟨?_, ?_, ?_⟩
  · exact Nat.le_trans persistent.allow (by dsimp only; omega)
  · intro deadline isSet
    exact Nat.le_trans (persistent.due deadline isSet) (by dsimp only; omega)
  · intro running attached lacks
    rcases persistent.redials running attached lacks with
      start | check | ⟨deadline, isSet, soon⟩
    · exact Or.inl (List.mem_append_left _ start)
    · exact Or.inr (Or.inl (List.mem_append_left _ check))
    · exact
        Or.inr (Or.inr ⟨deadline, isSet, Nat.le_trans soon (by
          dsimp only
          omega)⟩)

/-- There is no call to set up once the loop has ended. -/
theorem quit
    (allow : state.setupCallAllowTime ≤ state.now + 60000)
    (due :
      ∀ deadline,
        state.alarm = some deadline → deadline ≤ state.now + 60999) :
    Persistent state.quit := by
  obtain ⟨-, sameAllow, -, alarm, now, -, -⟩ :=
    state.linkChange_fields 0 none
  refine ⟨?_, ?_, fun running => nomatch running⟩
  · change (state.linkChange 0 none).setupCallAllowTime ≤
      (state.linkChange 0 none).now + 60000
    rw [sameAllow, now]
    exact allow
  · intro deadline isSet
    change (state.linkChange 0 none).alarm = some deadline at isSet
    change deadline ≤ (state.linkChange 0 none).now + 60999
    rw [now]
    exact due deadline (alarm.symm.trans isSet)

/-- A start sets up the call, or an alarm to try again. -/
theorem start
    {replies : StartReplies}
    (allow : state.setupCallAllowTime ≤ state.now + 60000)
    (noAlarm : state.alarm = none) :
    Persistent (handleStart state replies) := by
  rcases handleStart_cases state replies with
    ⟨unchanged, notAttached⟩ | ⟨early, waits⟩ |
      ⟨-, -, dialed, dials, isAfter⟩
  · rw [unchanged]
    refine ⟨allow, ?_, fun _ attached => absurd attached notAttached⟩
    intro deadline isSet
    exact nomatch noAlarm.symm.trans isSet
  · rw [waits]
    have soon :
        state.now +
            (state.setupCallAllowTime - state.now + 999) / 1000 * 1000 ≤
          state.now + 60999 := by
      omega
    refine ⟨allow, ?_, fun _ _ _ => Or.inr (Or.inr ⟨_, rfl, soon⟩)⟩
    intro deadline isSet
    rw [← Option.some.inj isSet]
    exact soon
  · rw [isAfter]
    have dialedAllow := dials.setupCallAllowTime
    have dialedNow := dials.now
    rcases afterStart_cases
        { dialed with now := dialed.now + replies.elapsed } with
      ⟨-, fails⟩ | ⟨notLacking, succeeds | unknown⟩
    · rw [fails]
      have bounded := allowTime_le dialed.setupCallFail
      refine
        ⟨by dsimp only; omega, ?_,
          fun _ _ _ => Or.inr (Or.inr ⟨_, rfl, by dsimp only; omega⟩)⟩
      intro deadline isSet
      rw [← Option.some.inj isSet]
      dsimp only
      omega
    · rw [succeeds]
      refine ⟨Nat.le_add_right _ _, ?_, ?_⟩
      · intro deadline isSet
        exact nomatch (dials.alarm.trans noAlarm).symm.trans isSet
      · exact fun _ _ lacks => (nomatch notLacking.symm.trans lacks)
    · rw [unknown]
      refine ⟨by dsimp only; omega, ?_, ?_⟩
      · intro deadline isSet
        exact nomatch (dials.alarm.trans noAlarm).symm.trans isSet
      · exact fun _ _ lacks => (nomatch notLacking.symm.trans lacks)

/-- A check sends a start when a call is lacking. -/
theorem check
    {replies : CheckReplies}
    (allow : state.setupCallAllowTime ≤ state.now + 60000)
    (noAlarm : state.alarm = none) :
    Persistent (handleCheck state replies) := by
  obtain ⟨-, sameAllow, sameAlarm, now, -, -, starts⟩ :=
    handleCheck_fields state replies
  refine ⟨by omega, ?_, fun _ _ lacks => Or.inl (starts lacks)⟩
  intro deadline isSet
  exact nomatch (sameAlarm.trans noAlarm).symm.trans isSet

theorem device
    {event : DeviceEvent}
    (persistent : Persistent state) :
    Persistent (handleDevice state event) := by
  cases event with
  | deviceDisconnected => exact quit persistent.allow persistent.due
  | modemReset => exact quit persistent.allow persistent.due
  | networkStateChanged attached =>
      unfold handleDevice
      dsimp only
      split
      · split
        · refine ⟨persistent.allow, persistent.due, fun _ _ _ => Or.inl ?_⟩
          exact List.mem_append_right _ (.head [])
        · rename_i notLacking
          exact
            ⟨persistent.allow, persistent.due,
              fun _ _ lacks => absurd lacks notLacking⟩
      · rename_i notAttached
        exact
          ⟨Nat.le_add_right _ _, persistent.due,
            fun _ attached => absurd attached notAttached⟩
  | dataCallListChanged =>
      have checks :
          Signo.check ∈ state.signals ++ [.check] :=
        List.mem_append_right _ (.head [])
      unfold handleDevice
      dsimp only
      split
      · exact
          ⟨by change state.now + 1000 ≤ state.now + 60000; omega,
            persistent.due, fun _ _ _ => Or.inr (Or.inl checks)⟩
      · exact
          ⟨persistent.allow, persistent.due,
            fun _ _ _ => Or.inr (Or.inl checks)⟩
  | loopbackConfig loopbackState =>
      unfold handleDevice
      dsimp only
      split
      · refine ⟨persistent.allow, persistent.due, fun _ _ _ => Or.inl ?_⟩
        exact List.mem_append_right _ (.head [])
      · exact ⟨persistent.allow, persistent.due, persistent.redials⟩

/-- One step forgets no call. -/
theorem step
    {next : MainState}
    {event : Event}
    (persistent : Persistent state)
    (stepped : loops.step? state event = some next) :
    Persistent next := by
  cases turn_of_step stepped with
  | start rest replies => exact .start persistent.allow rfl
  | check rest replies running => exact .check persistent.allow rfl
  | stop rest =>
      exact quit persistent.allow fun deadline none => (nomatch none)
  | device event => exact persistent.device
  | hangup => exact quit persistent.allow persistent.due
  | alarm =>
      refine
        ⟨persistent.allow, fun deadline none => (nomatch none),
          fun _ _ _ => Or.inl ?_⟩
      exact List.mem_append_right _ (.head [])
  | around signals milliseconds =>
      exact persistent.later signals milliseconds

end Persistent

/--
In every state that the loop reaches, while the modem is attached and an
enabled address family is disconnected, the call is about to be set up again:
a start or a check waits among the signals, or an alarm is set that is due
within 61 seconds.
-/
theorem lost_call_redialed
    {source target : MainState}
    {events : List Event}
    (isInitial : loops.Initial source)
    (run : loops.Run source events target)
    (running : target.running = true)
    (attached : target.psAttachedState = 1)
    (lacks : target.lacksCall = true) :
    target.Redials := by
  obtain ⟨-, signals, noAlarm, -, allow, -⟩ := isInitial
  have starts : Persistent source := by
    refine ⟨Nat.le_trans allow (Nat.le_add_right _ _), ?_, ?_⟩
    · intro deadline isSet
      exact nomatch noAlarm.symm.trans isSet
    · intro _ _ _
      refine Or.inr (Or.inl ?_)
      rw [signals]
      exact .head []
  have persistent :=
    run.invariant Persistent
      (fun _ _ _ persistent _ stepped => persistent.step stepped) starts
  exact persistent.redials running attached lacks

/-- An IPv4 call of an attached modem, as the loop is entered. -/
def attachedState : MainState where
  profile := ⟨true, false, .qmi, false, 0, 0, 0, 0⟩
  psAttachedState := 1
  ipv4Status := 0
  ipv6Status := 0
  setupCallFail := 0
  setupCallAllowTime := 0
  sLink := -1
  signals := [.check]
  alarm := none
  now := 0
  running := true
  history := []

theorem attachedState_initial : loops.Initial attachedState :=
  ⟨rfl, rfl, rfl, rfl, Nat.le_refl 0, rfl⟩

/-- A call that cannot be set up, which takes a second to find out. -/
def refusedReplies : StartReplies := ⟨1, 1, none, 1, false, 1000⟩

def silentReplies : CheckReplies := ⟨1, none, none, none, none, none, 0⟩

/-- The call is refused, and after five seconds it is tried again. -/
def refusedTwice : List Event :=
  [.signal refusedReplies silentReplies, .signal refusedReplies silentReplies,
    .pass 5000, .alarm, .signal refusedReplies silentReplies]

theorem lost_call_redialed_refused :
    ∃ target,
      loops.run? attachedState refusedTwice = some target ∧
        target.lacksCall = true ∧ target.signals = [] ∧
        target.Redials ∧ target.alarm = some 17000 := by
  obtain ⟨target, reached, running, attached, lacks, signals, alarm⟩ :
      ∃ target,
        loops.run? attachedState refusedTwice = some target ∧
          target.running = true ∧ target.psAttachedState = 1 ∧
          target.lacksCall = true ∧ target.signals = [] ∧
          target.alarm = some 17000 :=
    ⟨_, rfl, by decide⟩
  have run := System.run?_eq_some_iff.mp reached
  exact
    ⟨target, reached, lacks, signals,
      lost_call_redialed attachedState_initial run running attached lacks,
      alarm⟩

/-- How an entry of the history changes the time before which nothing dials. -/
def holdAfter (held : Option Nat) : Entry → Option Nat
  | .dialed _ _ => held
  | .failed time count => some (time + allowTime count * 1000)
  | .succeeded _ => none
  | .deregistered _ => none
  | .dropped _ => none

/-- The end of the pause after the last failure, unless something ended it. -/
def heldUntil (history : List Entry) : Option Nat :=
  history.foldl holdAfter none

def failuresAfter (failures : Nat) : Entry → Nat
  | .failed _ _ => failures + 1
  | .succeeded _ => 0
  | _ => failures

/-- The failures since the last success. -/
def failures (history : List Entry) : Nat :=
  history.foldl failuresAfter 0

/--
A call is set up only when that is permitted and no pause is on, and a failure
is counted among the failures since the last success.
-/
def MayFollow (before : List Entry) : Entry → Prop
  | .dialed time permitted =>
      permitted = true ∧ ∀ held, heldUntil before = some held → held ≤ time
  | .failed _ count => count = failures before
  | _ => True

theorem heldUntil_append (before entries : List Entry) :
    heldUntil (before ++ entries) =
      entries.foldl holdAfter (heldUntil before) :=
  List.foldl_append

theorem failures_append (before entries : List Entry) :
    failures (before ++ entries) =
      entries.foldl failuresAfter (failures before) :=
  List.foldl_append

/-- Setting up a call neither ends a pause nor counts as a failure. -/
theorem after_dials
    (history dials : List Entry)
    {time : Nat}
    {permitted : Bool}
    (only : ∀ entry ∈ dials, entry = .dialed time permitted) :
    heldUntil (history ++ dials) = heldUntil history ∧
      failures (history ++ dials) = failures history := by
  induction dials using List.reverseRecOn with
  | nil =>
      rw [List.append_nil]
      exact ⟨rfl, rfl⟩
  | append_singleton dials last inductionHypothesis =>
      obtain ⟨sameHold, sameFailures⟩ :=
        inductionHypothesis fun entry member =>
          only entry (List.mem_append_left _ member)
      have isLast := only last (List.mem_append_right _ (.head []))
      rw [← List.append_assoc, heldUntil_append, failures_append, isLast]
      exact ⟨sameHold, sameFailures⟩

/-- The variables of the loop agree with its history. -/
structure Paced (state : MainState) : Prop where
  obeys : Obeys MayFollow state.history
  held :
    ∀ held,
      heldUntil state.history = some held → state.setupCallAllowTime = held
  counted : state.setupCallFail = failures state.history

namespace Paced

variable {state : MainState}

/-- Only the history and what it says matters. -/
theorem of_same
    {next : MainState}
    (paced : Paced state)
    (history : next.history = state.history)
    (allow : next.setupCallAllowTime = state.setupCallAllowTime)
    (fail : next.setupCallFail = state.setupCallFail) :
    Paced next := by
  refine ⟨?_, ?_, ?_⟩
  · rw [history]
    exact paced.obeys
  · rw [history, allow]
    exact paced.held
  · rw [history, fail]
    exact paced.counted

/-- Something other than a failure ends the pause. -/
theorem ended
    (paced : Paced state)
    (entry : Entry)
    (may : MayFollow state.history entry)
    (ends : ∀ held, holdAfter held entry = none)
    (count : ∀ before, failuresAfter before entry = before)
    (allow : Nat) :
    Paced
      { state with
        setupCallAllowTime := allow
        history := state.history ++ [entry] } := by
  refine ⟨paced.obeys.snoc may, ?_, ?_⟩
  · intro held isHeld
    rw [heldUntil_append] at isHeld
    exact nomatch (ends _).symm.trans isHeld
  · dsimp only
    rw [failures_append, paced.counted]
    exact (count _).symm

theorem start
    {replies : StartReplies}
    (paced : Paced state) :
    Paced (handleStart state replies) := by
  rcases handleStart_cases state replies with
    ⟨unchanged, -⟩ | ⟨-, waits⟩ |
      ⟨inTime, permitted, dialed, dials, isAfter⟩
  · rw [unchanged]
    exact paced
  · rw [waits]
    exact paced.of_same rfl rfl rfl
  · rw [isAfter]
    obtain ⟨entries, shape, only⟩ := dials.history
    obtain ⟨sameHold, sameFailures⟩ := after_dials state.history entries only
    have pacedDialed :
        Paced { dialed with now := dialed.now + replies.elapsed } := by
      refine ⟨?_, ?_, ?_⟩
      · dsimp only
        rw [shape]
        refine paced.obeys.append ?_
        intro before entry after isSplit
        have member : entry ∈ entries := by
          rw [isSplit]
          exact List.mem_append_right _ (.head after)
        rw [only entry member]
        refine ⟨permitted, ?_⟩
        intro held isHeld
        have earlier :=
          (after_dials state.history before
            fun other inBefore =>
              only other (by
                rw [isSplit]
                exact List.mem_append_left _ inBefore)).1
        rw [earlier] at isHeld
        exact paced.held held isHeld ▸ inTime
      · dsimp only
        rw [shape, sameHold, dials.setupCallAllowTime]
        exact paced.held
      · dsimp only
        rw [shape, sameFailures, dials.setupCallFail]
        exact paced.counted
    rcases afterStart_cases
        { dialed with now := dialed.now + replies.elapsed } with
      ⟨-, fails⟩ | ⟨-, succeeds | unknown⟩
    · rw [fails]
      refine ⟨pacedDialed.obeys.snoc pacedDialed.counted, ?_, ?_⟩
      · intro held isHeld
        rw [heldUntil_append] at isHeld
        rw [← Option.some.inj isHeld]
        exact Nat.add_comm _ _
      · dsimp only
        rw [failures_append]
        exact congrArg (· + 1) pacedDialed.counted
    · rw [succeeds]
      refine ⟨pacedDialed.obeys.snoc trivial, ?_, ?_⟩
      · intro held isHeld
        rw [heldUntil_append] at isHeld
        exact nomatch isHeld
      · dsimp only
        rw [failures_append]
        rfl
    · rw [unknown]
      exact pacedDialed

theorem quit (paced : Paced state) : Paced state.quit := by
  obtain ⟨fail, allow, -, -, -, -, history⟩ :=
    state.linkChange_fields 0 none
  exact paced.of_same history allow fail

theorem device
    {event : DeviceEvent}
    (paced : Paced state) :
    Paced (handleDevice state event) := by
  cases event with
  | deviceDisconnected => exact paced.quit
  | modemReset => exact paced.quit
  | networkStateChanged attached =>
      unfold handleDevice
      dsimp only
      split
      · split
        · exact paced.of_same rfl rfl rfl
        · exact paced.of_same rfl rfl rfl
      · have ended :=
          paced.ended (.deregistered state.now) trivial
            (fun _ => rfl) (fun _ => rfl) state.now
        exact ended.of_same rfl rfl rfl
  | dataCallListChanged =>
      unfold handleDevice
      dsimp only
      split
      · have ended :=
          paced.ended (.dropped state.now) trivial (fun _ => rfl)
            (fun _ => rfl) (state.now + 1000)
        exact ended.of_same rfl rfl rfl
      · exact paced.of_same rfl rfl rfl
  | loopbackConfig loopbackState =>
      unfold handleDevice
      dsimp only
      split
      · exact paced.of_same rfl rfl rfl
      · exact paced.of_same rfl rfl rfl

/-- One step keeps the pauses. -/
theorem step
    {next : MainState}
    {event : Event}
    (paced : Paced state)
    (stepped : loops.step? state event = some next) :
    Paced next := by
  have taken : ∀ rest, Paced (state.take rest) :=
    fun rest => paced.of_same rfl rfl rfl
  cases turn_of_step stepped with
  | start rest replies => exact (taken rest).start
  | check rest replies running =>
      obtain ⟨fail, allow, -, -, -, history, -⟩ :=
        handleCheck_fields (state.take rest) replies
      exact (taken rest).of_same history allow fail
  | stop rest => exact (taken rest).quit
  | device event => exact paced.device
  | hangup => exact paced.quit
  | alarm => exact paced.of_same rfl rfl rfl
  | around signals milliseconds => exact paced.of_same rfl rfl rfl

end Paced

/-- A pause lasts while nothing but dials follows the failure. -/
theorem heldUntil_failed
    (before : List Entry)
    {between : List Entry}
    (failedAt count : Nat)
    (unended :
      ∀ entry ∈ between, ∃ time isPermitted,
        entry = .dialed time isPermitted) :
    heldUntil (before ++ .failed failedAt count :: between) =
      some (failedAt + allowTime count * 1000) := by
  induction between using List.reverseRecOn with
  | nil =>
      rw [heldUntil_append]
      rfl
  | append_singleton dials last inductionHypothesis =>
      obtain ⟨time, isPermitted, rfl⟩ :=
        unended last (List.mem_append_right _ (.head []))
      rw [← List.cons_append, ← List.append_assoc, heldUntil_append]
      exact
        inductionHypothesis fun entry member =>
          unended entry (List.mem_append_left _ member)

/--
In every run, a call is set up only while the modem is attached or looped
back; and after the failure that is number `count` since the last success,
nothing dials for `allowTime count` seconds, unless the modem is deregistered
or a connected call changes.
-/
theorem dialing_backs_off
    {source target : MainState}
    {events : List Event}
    (isInitial : loops.Initial source)
    (run : loops.Run source events target) :
    (∀ dialedAt permitted,
        .dialed dialedAt permitted ∈ target.history → permitted = true) ∧
      ∀ before between after failedAt count dialedAt permitted,
        target.history =
            before ++ .failed failedAt count ::
              (between ++ .dialed dialedAt permitted :: after) →
          (∀ entry ∈ between, ∃ time isPermitted,
            entry = .dialed time isPermitted) →
            count = failures before ∧
              failedAt + allowTime count * 1000 ≤ dialedAt := by
  obtain ⟨-, -, -, noFailure, -, noHistory⟩ := isInitial
  have starts : Paced source := by
    refine ⟨?_, ?_, ?_⟩
    · rw [noHistory]
      exact .nil _
    · rw [noHistory]
      exact fun held isHeld => nomatch isHeld
    · rw [noHistory, noFailure]
      rfl
  have paced :=
    run.invariant Paced
      (fun _ _ _ paced _ stepped => paced.step stepped) starts
  constructor
  · intro dialedAt permitted member
    obtain ⟨before, after, isSplit⟩ := List.append_of_mem member
    exact (paced.obeys before _ after isSplit).1
  · intro before between after failedAt count dialedAt permitted history
      unended
    have isCounted := paced.obeys before _ _ history
    have isDialed :=
      paced.obeys (before ++ .failed failedAt count :: between) _ after (by
        rw [history, List.append_assoc, List.cons_append])
    exact
      ⟨isCounted, isDialed.2 _ (heldUntil_failed before failedAt count unended)⟩

theorem dialing_backs_off_refused :
    ∃ target,
      loops.run? attachedState refusedTwice = some target ∧
        target.history =
          [.dialed 0 true] ++ .failed 1000 0 ::
            ([] ++ .dialed 6000 true :: [.failed 7000 1]) ∧
        0 = failures [.dialed 0 true] ∧
        1000 + allowTime 0 * 1000 ≤ 6000 := by
  obtain ⟨target, reached, history⟩ :
      ∃ target,
        loops.run? attachedState refusedTwice = some target ∧
          target.history =
            [.dialed 0 true] ++ .failed 1000 0 ::
              ([] ++ .dialed 6000 true :: [.failed 7000 1]) :=
    ⟨_, rfl, rfl⟩
  have run := System.run?_eq_some_iff.mp reached
  obtain ⟨counted, waited⟩ :=
    (dialing_backs_off attachedState_initial run).2 _ _ _ _ _ _ _ history
      (List.forall_mem_nil _)
  exact ⟨target, reached, history, counted, waited⟩

end RecomputerGateway.ConnectionLoop
