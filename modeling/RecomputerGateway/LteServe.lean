import Mathlib.Logic.Function.Iterate

namespace RecomputerGateway.LteServe

/-!
# The dial loop of `lte-serve`

Every round assembles the arguments of `quectel-CM` anew, in a variable that
keeps its value from round to round.  The configuration is read once, before
the loop.
-/

abbrev Text := List Char

/-- The value that stands for an option that is not set. -/
def unknow : Text := "unknow".toList

/--
A value that the shell passes on as it is, and that the command `[` does not
take for an operator.
-/
def isPlain (value : Text) : Bool :=
  match value with
  | [] => false
  | first :: _ =>
      first ≠ '-' &&
        value.all fun char => char.isAlphanum || char ∈ ['.', '-', '_', '@']

theorem isPlain_char
    {value : Text}
    (plain : isPlain value = true) :
    ∀ char ∈ value, (char.isAlphanum || char ∈ ['.', '-', '_', '@']) = true := by
  cases value with
  | nil =>
      cases plain
  | cons first rest =>
      rw [isPlain, Bool.and_eq_true, List.all_eq_true] at plain
      exact plain.2

/-- `a != "unknow" -a b != "unknow" …`, for the fields of each value. -/
def differWords (operands : List (List Text)) : List Text :=
  List.intercalate ["-a".toList]
    (operands.map fun fields => fields ++ ["!=".toList, unknow])

/--
What the shell does to unquoted values, and the command `[` to its arguments.
-/
structure Shell where
  /-- The fields that an unquoted value is split and expanded to. -/
  fields : Text → List Text
  /-- The command `[` succeeds. -/
  test : List Text → Bool
  fields_plain :
    ∀ {value}, isPlain value = true → fields value = [value]
  test_differWords :
    ∀ {values},
      values ≠ [] →
        (∀ value ∈ values, isPlain value = true) →
          (test (differWords (values.map fun value => [value])) = true ↔
            ∀ value ∈ values, value ≠ unknow)

/-- The options of `lte_config.cellular`. -/
structure Config where
  apn : Text
  user : Text
  password : Text
  auth : Text
  pincode : Text

structure State where
  cmd : Text
  i : Nat

def initial : State where
  cmd := []
  i := 0

/-- One round of the loop. -/
structure Round where
  state : State
  /-- `quectel-reset.sh` is run. -/
  reset : Bool
  /-- The argument that `quectel-CM` is started with, if it is started. -/
  dialled : Option Text

section Loop

variable (shell : Shell) (config : Config)

/-- `[ $value != "unknow" -a … ]`, with every value unquoted. -/
def testAll (values : List Text) : Bool :=
  shell.test (differWords (values.map shell.fields))

/-- The first test of a round. -/
def apnIsSet : Bool := testAll shell [config.apn]

/-- The second test. -/
def allAreSet : Bool :=
  testAll shell [config.apn, config.user, config.password, config.auth]

/-- The third test. -/
def pincodeIsSet : Bool := testAll shell [config.pincode]

def apnGroup : Text := "-s ".toList ++ config.apn

def fullGroup : Text :=
  "-s ".toList ++ config.apn ++ " ".toList ++ config.user ++ " ".toList ++
    config.password ++ " ".toList ++ config.auth

def pinGroup : Text := " -p ".toList ++ config.pincode

/-- The three conditional assignments. -/
def assembleCmd (cmd : Text) : Text :=
  let cmd := if apnIsSet shell config then apnGroup config else cmd
  let cmd := if allAreSet shell config then fullGroup config else cmd
  if pincodeIsSet shell config then cmd ++ pinGroup config else cmd

/-- The body of `while true`; `found` says whether `pgrep` finds a process. -/
def round (state : State) (found : Bool) : Round :=
  let cmd := assembleCmd shell config state.cmd
  if found then
    { state := { cmd := cmd, i := 0 }, reset := false, dialled := none }
  else if 5 ≤ state.i + 1 then
    { state := { cmd := cmd, i := 0 }, reset := true, dialled := some cmd }
  else
    { state := { cmd := cmd, i := state.i + 1 }, reset := false
      dialled := some cmd }

/-- What the rounds of a run dial. -/
def dialled : State → List Bool → List (Option Text)
  | _, [] => []
  | state, found :: rest =>
      let result := round shell config state found
      result.dialled :: dialled result.state rest

/-- At most one group for the access point, then at most one for the PIN. -/
def OneGroupEach (argument : Text) : Prop :=
  ∃ front back,
    argument = front ++ back ∧
      front ∈ [[], apnGroup config, fullGroup config] ∧
        back ∈ [[], pinGroup config]

/--
Whatever `pgrep` finds, every round that dials passes the argument that the
first round has assembled, with at most one group of each kind.
-/
def DialsAlike : Prop :=
  ∀ (results : List Bool) (n : Nat) (argument : Text),
    (dialled shell config initial results)[n]? = some (some argument) →
      argument = assembleCmd shell config [] ∧ OneGroupEach config argument

end Loop

/-! ## The variable in each round -/

variable {shell : Shell} {config : Config}

theorem round_cmd (state : State) (found : Bool) :
    (round shell config state found).state.cmd =
      assembleCmd shell config state.cmd := by
  unfold round
  repeat' split
  all_goals rfl

theorem round_dialled
    {state : State}
    {found : Bool}
    {argument : Text}
    (dials : (round shell config state found).dialled = some argument) :
    argument = assembleCmd shell config state.cmd := by
  unfold round at dials
  repeat' split at dials
  all_goals cases dials
  all_goals rfl

/-- Round `n` dials with what `n + 1` assignments have made of the variable. -/
theorem dialled_eq_iterate
    {state : State}
    {results : List Bool}
    {n : Nat}
    {argument : Text}
    (dials :
      (dialled shell config state results)[n]? = some (some argument)) :
    argument = (assembleCmd shell config)^[n + 1] state.cmd := by
  induction results generalizing state n with
  | nil =>
      cases dials
  | cons found rest inductionHypothesis =>
      cases n with
      | zero =>
          exact round_dialled (Option.some.inj dials)
      | succ n =>
          rw [Function.iterate_succ_apply, ← round_cmd state found]
          exact inductionHypothesis dials

/-- The assignments leave their own first result as it is. -/
theorem assembleCmd_fixed_iff :
    assembleCmd shell config (assembleCmd shell config []) =
        assembleCmd shell config [] ↔
      apnIsSet shell config = true ∨ allAreSet shell config = true ∨
        pincodeIsSet shell config = false := by
  unfold assembleCmd
  cases apnIsSet shell config with
  | true => simp
  | false =>
      cases allAreSet shell config with
      | true => simp
      | false =>
          cases pincodeIsSet shell config with
          | false => simp
          | true => simp [pinGroup]

theorem oneGroupEach_first :
    OneGroupEach config (assembleCmd shell config []) := by
  refine
    ⟨if allAreSet shell config then fullGroup config
      else if apnIsSet shell config then apnGroup config else [],
      if pincodeIsSet shell config then pinGroup config else [], ?_, ?_, ?_⟩
  · unfold assembleCmd
    cases pincodeIsSet shell config with
    | true => rfl
    | false => exact (List.append_nil _).symm
  · repeat' split
    all_goals simp
  · split <;> simp

/-- The second round dials when `pgrep` has not found anything twice. -/
theorem dialled_second :
    (dialled shell config initial [false, false])[1]? =
      some (some (assembleCmd shell config (assembleCmd shell config []))) :=
  rfl

theorem dialsAlike_iff_fixed (shell : Shell) (config : Config) :
    DialsAlike shell config ↔
      assembleCmd shell config (assembleCmd shell config []) =
        assembleCmd shell config [] := by
  constructor
  · intro alike
    exact (alike _ 1 _ dialled_second).1
  · intro fixed results n argument dials
    have isFirst : argument = assembleCmd shell config [] := by
      rw [dialled_eq_iterate dials, Function.iterate_succ_apply]
      exact Function.iterate_fixed fixed n
    exact ⟨isFirst, isFirst ▸ oneGroupEach_first⟩

/--
The argument stays the same exactly if an access point starts it from scratch
in every round, or no PIN is appended to it.
-/
theorem dialsAlike_iff (shell : Shell) (config : Config) :
    DialsAlike shell config ↔
      apnIsSet shell config = true ∨ allAreSet shell config = true ∨
        pincodeIsSet shell config = false :=
  (dialsAlike_iff_fixed shell config).trans assembleCmd_fixed_iff

/-! ## Plain values -/

/-- All options have values that the shell passes on as they are. -/
structure Config.Plain (config : Config) : Prop where
  apn : isPlain config.apn = true
  user : isPlain config.user = true
  password : isPlain config.password = true
  auth : isPlain config.auth = true
  pincode : isPlain config.pincode = true

theorem testAll_iff
    (shell : Shell)
    {values : List Text}
    (notEmpty : values ≠ [])
    (plain : ∀ value ∈ values, isPlain value = true) :
    testAll shell values = true ↔ ∀ value ∈ values, value ≠ unknow := by
  have sameFields :
      values.map shell.fields = values.map fun value => [value] :=
    List.map_congr_left fun value member =>
      shell.fields_plain (plain value member)
  rw [testAll, sameFields]
  exact shell.test_differWords notEmpty plain

/-- Then it stays the same unless the PIN is set and the access point is not. -/
theorem dialsAlike_iff_of_plain
    (shell : Shell)
    {config : Config}
    (plain : config.Plain) :
    DialsAlike shell config ↔
      config.apn ≠ unknow ∨ config.pincode = unknow := by
  have apn : apnIsSet shell config = true ↔ config.apn ≠ unknow := by
    rw [apnIsSet, testAll_iff shell (by simp) (by simpa using plain.apn)]
    simp
  have all : allAreSet shell config = true → config.apn ≠ unknow := by
    intro allSet
    rw [allAreSet, testAll_iff shell (by simp)
      (by simp [plain.apn, plain.user, plain.password, plain.auth])] at allSet
    exact allSet config.apn (.head _)
  have pincode :
      pincodeIsSet shell config = true ↔ config.pincode ≠ unknow := by
    rw [pincodeIsSet, testAll_iff shell (by simp)
      (by simpa using plain.pincode)]
    simp
  rw [dialsAlike_iff_fixed, assembleCmd_fixed_iff, apn,
    ← Bool.not_eq_true, pincode, not_not]
  constructor
  · rintro (apnSet | allSet | noPin)
    · exact .inl apnSet
    · exact .inl (all allSet)
    · exact .inr noPin
  · rintro (apnSet | noPin)
    · exact .inl apnSet
    · exact .inr (.inr noPin)

/-! ## A shell without files to expand to -/

/-- Blanks, tabs and newlines separate fields. -/
def splitFields (value : Text) : List Text :=
  (value.splitOnP fun char => char ∈ [' ', '\t', '\n']).filter (· ≠ [])

/-- String comparisons, joined by `-a`; anything else is an error here. -/
def evaluate : List Text → Bool
  | first :: operator :: second :: rest =>
      operator = "!=".toList && first ≠ second &&
        match rest with
        | [] => true
        | conjunction :: others =>
            conjunction = "-a".toList && evaluate others
  | _ => false

theorem splitFields_plain
    {value : Text}
    (plain : isPlain value = true) :
    splitFields value = [value] := by
  have notEmpty : value ≠ [] := by
    rintro rfl
    cases plain
  have whole :
      value.splitOnP (fun char => char ∈ [' ', '\t', '\n']) = [value] := by
    apply List.splitOnP_eq_singleton
    intro char member
    have allowed := isPlain_char plain char member
    apply decide_eq_false
    intro isBlank
    simp only [List.mem_cons, List.not_mem_nil, or_false] at isBlank
    rcases isBlank with rfl | rfl | rfl
    all_goals exact absurd allowed (by decide)
  rw [splitFields, whole]
  simp [notEmpty]

theorem differWords_cons
    (first second : List Text)
    (rest : List (List Text)) :
    differWords (first :: second :: rest) =
      first ++ ["!=".toList, unknow] ++ "-a".toList ::
        differWords (second :: rest) := by
  simp [differWords, List.intercalate]

theorem evaluate_differWords
    {values : List Text}
    (notEmpty : values ≠ []) :
    evaluate (differWords (values.map fun value => [value])) = true ↔
      ∀ value ∈ values, value ≠ unknow := by
  induction values with
  | nil =>
      contradiction
  | cons value rest inductionHypothesis =>
      cases rest with
      | nil =>
          simp [differWords, List.intercalate, evaluate]
      | cons next others =>
          have later := inductionHypothesis (List.cons_ne_nil next others)
          rw [List.map_cons] at later
          rw [List.map_cons, List.map_cons, differWords_cons,
            List.forall_mem_cons, ← later]
          simp [evaluate]

def plainShell : Shell where
  fields := splitFields
  test := evaluate
  fields_plain := splitFields_plain
  test_differWords := fun notEmpty _ => evaluate_differWords notEmpty

/-- No access point, but a PIN: the second round passes the PIN twice. -/
def onlyPin : Config where
  apn := unknow
  user := unknow
  password := unknow
  auth := unknow
  pincode := "1234".toList

theorem not_dialsAlike_onlyPin : ¬ DialsAlike plainShell onlyPin := by
  intro alike
  have second := (alike [false, false] 1 _ dialled_second).1
  revert second
  decide +kernel

end RecomputerGateway.LteServe
