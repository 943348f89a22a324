import RecomputerGateway.EepromShell

namespace RecomputerGateway.Eeprom

/-!
# `write_eeprom.sh`

The script reads its options, appends the fields of the record one after the
other to a temporary file and copies this file to the output.  A loop that may
not end runs on fuel; a script that has not ended has no outcome.
-/

/-! ## Options -/

/-- The variables that the options set. -/
structure Options where
  sn : Word
  eui : Word
  freqPlan : Word
  hwName : Word
  outputFile : Word
  deriving DecidableEq

def defaultSn : Word := ⟨ascii "RCPGW0001XXXXXX", by decide⟩

def defaultEui : Word := ⟨ascii "0011223344556677", by decide⟩

def defaultFreqPlan : Word := ⟨ascii "US915", by decide⟩

def defaultHwName : Word := ⟨ascii "reComputer-R1125", by decide⟩

def defaultOutputFile : Word := ⟨ascii "/dev/eeprom", by decide⟩

def defaults : Options where
  sn := defaultSn
  eui := defaultEui
  freqPlan := defaultFreqPlan
  hwName := defaultHwName
  outputFile := defaultOutputFile

/-- `usage`, for the script's own name `$0`. -/
def usage (script : List Byte) : List Byte :=
  ascii "Usage: " ++ script ++ ascii " [options]\n" ++
    ascii "Options:\n" ++
    ascii "  --sn <sn>              Gateway SN (default: " ++
    defaultSn.bytes ++ ascii ")\n" ++
    ascii "  --eui <eui>            Gateway EUI hex (default: " ++
    defaultEui.bytes ++ ascii ")\n" ++
    ascii "  --freq-plan <plan>     Frequency Plan (US915, EU868, CN470)" ++
    ascii " (default: " ++ defaultFreqPlan.bytes ++ ascii ")\n" ++
    ascii "  --hw-name <name>       Hardware Name (default: " ++
    defaultHwName.bytes ++ ascii ")\n" ++
    ascii "  --output <file>        Output file (default: " ++
    defaultOutputFile.bytes ++ ascii ")\n" ++
    ascii "  --help                 Show this help message\n"

/-- One round of the option loop. -/
inductive ParseStep where
  /-- No parameter is left. -/
  | done
  /-- `usage` ends the script. -/
  | usage (message : List Byte)
  | next (options : Options) (args : List Word)
  deriving DecidableEq

/-- `$2`, which is empty when there is no second parameter. -/
def second : List Word → Word
  | _ :: value :: _ => value
  | _ => .empty

/-- `shift 2`, which leaves fewer than two parameters as they are. -/
def shiftTwo (args : List Word) : List Word :=
  if args.length < 2 then args else args.drop 2

/-- The arms of the `case` that take a value. -/
def assign?
    (options : Options)
    (name : List Byte)
    (value : Word) :
    Option Options :=
  if name = ascii "--sn" then
    some { options with sn := value }
  else if name = ascii "--eui" then
    some { options with eui := value }
  else if name = ascii "--freq-plan" then
    some { options with freqPlan := value }
  else if name = ascii "--hw-name" then
    some { options with hwName := value }
  else if name = ascii "--output" then
    some { options with outputFile := value }
  else none

/-- The body of `while [ "$#" -gt 0 ]`. -/
def parseStep (options : Options) (args : List Word) : ParseStep :=
  match args with
  | [] => .done
  | first :: _ =>
      match assign? options first.bytes (second args) with
      | some assigned => .next assigned (shiftTwo args)
      | none =>
          if first.bytes = ascii "--help" then .usage []
          else
            .usage (ascii "Unknown option: " ++ first.bytes ++ [10])

/-- How the option loop ends. -/
inductive Parsed where
  | options (options : Options)
  | usage (message : List Byte)
  deriving DecidableEq

/-- The option loop, for at most `fuel` rounds. -/
def parseArgs : Nat → Options → List Word → Option Parsed
  | 0, _, _ => none
  | fuel + 1, options, args =>
      match parseStep options args with
      | .done => some (.options options)
      | .usage message => some (.usage message)
      | .next options args => parseArgs fuel options args

/-! ## Fields -/

/-- The value of a frequency plan, as hexadecimal digits. -/
def frequencyValue? (plan : List Byte) : Option (List Byte) :=
  if plan = ascii "US915" then some (ascii "0001")
  else if plan = ascii "EU868" then some (ascii "0002")
  else if plan = ascii "CN470" then some (ascii "0003")
  else none

/--
`hexstr_to_bin`.  It removes two characters in each round, so it never ends
when a single one is left.
-/
def hexstrToBin : List Byte → Option (List Byte)
  | [] => some []
  | [_] => none
  | first :: second :: rest =>
      (hexstrToBin rest).map fun tail =>
        printf (ascii "\\x" ++ [first, second]) ++ tail

/-- `printf "%.<width>s"`, then zeros from `/dev/zero` up to the width. -/
def paddedText (width : Nat) (text : List Byte) : List Byte :=
  let shown := text.take width
  if shown.length < width then
    shown ++ List.replicate (width - shown.length) 0
  else shown

/-- `printf '%03o'`, for values below 512. -/
def octalText (value : Nat) : List Byte :=
  [BitVec.ofNat 8 (48 + value / 64), BitVec.ofNat 8 (48 + value / 8 % 8),
    BitVec.ofNat 8 (48 + value % 8)]

/-- The format that prints the length of the hardware name. -/
def nameLengthFormat (length : Nat) : List Byte :=
  [92] ++ octalText (length / 256) ++ [92] ++ octalText (length % 256)

/-- `HW_NAME_LEN`. -/
def hwNameLen (name : List Byte) : Nat :=
  if name.length > 32 then 32 else name.length

/-- `CRC_HEX`. -/
def crcHex : List Byte := ascii "E1A425E2"

/-- `printf "%08s" "$CRC_HEX" | tr ' ' '0'`. -/
def crcHexPadded : List Byte :=
  (List.replicate (8 - crcHex.length) 32 ++ crcHex).map fun char =>
    if char = 32 then 48 else char

/-- `EUI_CLEAN`. -/
def euiClean (eui : List Byte) : List Byte :=
  deleteSpace (echo eui)

/-- The content of the temporary file at the end. -/
def dataContent
    (options : Options)
    (frequencyValue : List Byte) :
    Option (List Byte) := do
  let euiBytes ← hexstrToBin (euiClean options.eui.bytes)
  let frequencyBytes ← hexstrToBin frequencyValue
  let crcBytes ← hexstrToBin crcHexPadded
  return printf (ascii "\\xDE\\xAD\\xBE\\xEF") ++
    printf (ascii "\\x00\\x46") ++
    paddedText 16 options.sn.bytes ++
    euiBytes ++
    frequencyBytes ++
    printf (nameLengthFormat (hwNameLen options.hwName.bytes)) ++
    paddedText 32 options.hwName.bytes ++
    crcBytes

/-! ## The script -/

/-- What a run of the script leaves behind. -/
structure Outcome where
  exitCode : Nat
  output : List Byte
  /-- The output file and its new content, if the script wrote it. -/
  written : Option (Word × List Byte)
  deriving DecidableEq

/-- The script behind the option loop. -/
def writeOptions
    (writable : Word → Bool)
    (options : Options) :
    Option Outcome :=
  match frequencyValue? options.freqPlan.bytes with
  | none =>
      some
        { exitCode := 1
          output :=
            ascii "Error: Invalid Frequency Plan." ++
              ascii " Must be US915, EU868, or CN470\n"
          written := none }
  | some frequencyValue =>
      if (euiClean options.eui.bytes).length ≠ 16 then
        some
          { exitCode := 1
            output :=
              ascii "Error: EUI must be 16 hex characters (8 bytes)\n"
            written := none }
      else
        (dataContent options frequencyValue).map fun content =>
          if writable options.outputFile then
            { exitCode := 0
              output :=
                ascii "Successfully wrote to " ++
                  options.outputFile.bytes ++ [10]
              written := some (options.outputFile, content) }
          else
            { exitCode := 1
              output :=
                ascii "Error writing to " ++
                  options.outputFile.bytes ++ [10]
              written := none }

/--
`write_eeprom.sh`, run under the name `script`, with an option loop of at most
`fuel` rounds; `writable` says which files can be written.
-/
def writeEeprom
    (script : List Byte)
    (writable : Word → Bool)
    (fuel : Nat)
    (args : List Word) :
    Option Outcome :=
  match parseArgs fuel defaults args with
  | none => none
  | some (.usage message) =>
      some
        { exitCode := 1, output := message ++ usage script,
          written := none }
  | some (.options options) => writeOptions writable options

/-- The script ends with this outcome. -/
def Ends
    (script : List Byte)
    (writable : Word → Bool)
    (args : List Word)
    (outcome : Outcome) :
    Prop :=
  ∃ fuel, writeEeprom script writable fuel args = some outcome

/-- The option loop ends in this way. -/
def ParsesTo (args : List Word) (parsed : Parsed) : Prop :=
  ∃ fuel, parseArgs fuel defaults args = some parsed

/-! ## The option loop -/

/-- More fuel does not change how the option loop ends. -/
theorem parseArgs_mono
    {fuel more : Nat}
    {options : Options}
    {args : List Word}
    {parsed : Parsed}
    (ends : parseArgs fuel options args = some parsed)
    (enough : fuel ≤ more) :
    parseArgs more options args = some parsed := by
  induction fuel generalizing more options args with
  | zero =>
      cases ends
  | succ fuel inductionHypothesis =>
      cases more with
      | zero =>
          omega
      | succ more =>
          simp only [parseArgs] at ends ⊢
          cases step : parseStep options args with
          | done =>
              simpa [step] using ends
          | usage message =>
              simpa [step] using ends
          | next nextOptions nextArgs =>
              simp only [step] at ends ⊢
              exact inductionHypothesis ends (by omega)

/-- The option loop ends in at most one way. -/
theorem ParsesTo.unique
    {args : List Word}
    {first second : Parsed}
    (firstEnd : ParsesTo args first)
    (secondEnd : ParsesTo args second) :
    first = second := by
  obtain ⟨firstFuel, firstRun⟩ := firstEnd
  obtain ⟨secondFuel, secondRun⟩ := secondEnd
  have firstMore :=
    parseArgs_mono firstRun (Nat.le_max_left firstFuel secondFuel)
  have secondMore :=
    parseArgs_mono secondRun (Nat.le_max_right firstFuel secondFuel)
  exact Option.some.inj (firstMore.symm.trans secondMore)

/-- How the script ends, in terms of how its option loop ends. -/
theorem ends_iff
    {script : List Byte}
    {writable : Word → Bool}
    {args : List Word}
    {outcome : Outcome} :
    Ends script writable args outcome ↔
      (∃ message,
        ParsesTo args (.usage message) ∧
          outcome =
            { exitCode := 1, output := message ++ usage script,
              written := none }) ∨
        ∃ options,
          ParsesTo args (.options options) ∧
            writeOptions writable options = some outcome := by
  constructor
  · rintro ⟨fuel, run⟩
    unfold writeEeprom at run
    split at run
    · cases run
    next message parsed =>
      cases run
      exact .inl ⟨message, ⟨fuel, parsed⟩, rfl⟩
    next options parsed =>
      exact .inr ⟨options, ⟨fuel, parsed⟩, run⟩
  · rintro (⟨message, ⟨fuel, parsed⟩, rfl⟩ |
      ⟨options, ⟨fuel, parsed⟩, run⟩)
    · exact ⟨fuel, by simp [writeEeprom, parsed]⟩
    · exact ⟨fuel, by simpa [writeEeprom, parsed] using run⟩

/-- The argument is an option that takes a value. -/
def takesValue (name : List Byte) : Bool :=
  (assign? defaults name .empty).isSome

/-- Whether an argument takes a value does not depend on the values so far. -/
theorem assign?_isSome
    (options : Options)
    (name : List Byte)
    (value : Word) :
    (assign? options name value).isSome = takesValue name := by
  unfold takesValue assign?
  repeat' split
  all_goals rfl

/-- The list ends with an option that lacks its value. -/
def lacksValue : List Word → Bool
  | [] => false
  | [name] => takesValue name.bytes
  | name :: _ :: rest => takesValue name.bytes && lacksValue rest

/-- The options that the loop has read when it ends, or repeats itself. -/
def readOptions : Options → List Word → Options
  | options, [] => options
  | options, [name] => (assign? options name.bytes .empty).getD options
  | options, name :: value :: rest =>
      match assign? options name.bytes value with
      | some assigned => readOptions assigned rest
      | none => options

/-- A last option without its value is read again and again. -/
theorem parseArgs_single
    {name : Word}
    (option : takesValue name.bytes = true)
    (fuel : Nat)
    (options : Options) :
    parseArgs fuel options [name] = none := by
  induction fuel generalizing options with
  | zero =>
      rfl
  | succ fuel inductionHypothesis =>
      have isAssigned := assign?_isSome options name.bytes .empty
      rw [option] at isAssigned
      obtain ⟨assigned, assigns⟩ := Option.isSome_iff_exists.mp isAssigned
      simp only [parseArgs, parseStep, second, assigns]
      exact inductionHypothesis assigned

/-- The loop never ends on a list that ends with an option without value. -/
theorem parseArgs_lacksValue
    {args : List Word}
    (lacks : lacksValue args = true)
    (fuel : Nat)
    (options : Options) :
    parseArgs fuel options args = none := by
  induction args using lacksValue.induct generalizing fuel options with
  | case1 =>
      cases lacks
  | case2 name =>
      exact parseArgs_single lacks fuel options
  | case3 name value rest inductionHypothesis =>
      simp only [lacksValue, Bool.and_eq_true] at lacks
      cases fuel with
      | zero =>
          rfl
      | succ fuel =>
          have isAssigned := assign?_isSome options name.bytes value
          rw [lacks.1] at isAssigned
          obtain ⟨assigned, assigns⟩ :=
            Option.isSome_iff_exists.mp isAssigned
          simp only [parseArgs, parseStep, second, assigns]
          exact inductionHypothesis lacks.2 fuel assigned

/-- An argument that takes no value ends the script with `usage`. -/
theorem parseStep_usage
    {name : Word}
    (notOption : takesValue name.bytes = false)
    (options : Options)
    (rest : List Word) :
    ∃ message, parseStep options (name :: rest) = .usage message := by
  have notAssigned := assign?_isSome options name.bytes (second (name :: rest))
  rw [notOption, Option.isSome_eq_false_iff,
    Option.isNone_iff_eq_none] at notAssigned
  simp only [parseStep, notAssigned]
  split
  · exact ⟨_, rfl⟩
  · exact ⟨_, rfl⟩

/-- An argument in the place of an option is not one that takes a value. -/
def asksUsage : List Word → Bool
  | [] => false
  | [name] => !takesValue name.bytes
  | name :: _ :: rest => !takesValue name.bytes || asksUsage rest

/--
On every other list it ends, with the options read or with `usage`; each round
but the last takes two of the arguments.
-/
theorem parseArgs_ends
    {args : List Word}
    (complete : lacksValue args = false)
    (options : Options) :
    ∃ parsed,
      parseArgs (args.length / 2 + 1) options args = some parsed ∧
        if asksUsage args then ∃ message, parsed = .usage message
        else parsed = .options (readOptions options args) := by
  have onUsage :
      ∀ {name : Word} (current : Options) (rest : List Word),
        takesValue name.bytes = false →
        ∃ parsed,
          parseArgs ((name :: rest).length / 2 + 1) current (name :: rest) =
              some parsed ∧
            ∃ message, parsed = .usage message := by
    intro name current rest notOption
    obtain ⟨message, step⟩ := parseStep_usage notOption current rest
    exact ⟨.usage message, by simp [parseArgs, step], message, rfl⟩
  induction args using lacksValue.induct generalizing options with
  | case1 =>
      exact ⟨_, rfl, rfl⟩
  | case2 name =>
      have notOption : takesValue name.bytes = false := complete
      simpa only [asksUsage, notOption, Bool.not_false, ↓reduceIte] using
        onUsage options [] notOption
  | case3 name value rest inductionHypothesis =>
      cases option : takesValue name.bytes with
      | false =>
          simpa only [asksUsage, option, Bool.not_false, Bool.true_or,
            ↓reduceIte] using onUsage options (value :: rest) option
      | true =>
          simp only [lacksValue, option, Bool.true_and] at complete
          have isAssigned := assign?_isSome options name.bytes value
          rw [option] at isAssigned
          obtain ⟨assigned, assigns⟩ :=
            Option.isSome_iff_exists.mp isAssigned
          obtain ⟨parsed, run, ends⟩ :=
            inductionHypothesis complete assigned
          have oneMore :
              (name :: value :: rest).length / 2 = rest.length / 2 + 1 :=
            Nat.add_div_right rest.length Nat.two_pos
          refine ⟨parsed, ?_, ?_⟩
          · rw [oneMore]
            simp only [parseArgs, parseStep, second, assigns]
            exact run
          · simpa only [readOptions, assigns, asksUsage, option,
              Bool.not_true, Bool.false_or] using ends

/-- A loop that ends is not kept from it by a missing value. -/
theorem ParsesTo.complete
    {args : List Word}
    {parsed : Parsed}
    (parses : ParsesTo args parsed) :
    lacksValue args = false := by
  cases lacks : lacksValue args with
  | false =>
      rfl
  | true =>
      obtain ⟨fuel, run⟩ := parses
      rw [parseArgs_lacksValue lacks] at run
      cases run

/-- The loop ends with `usage` on a list that asks for it. -/
theorem parsesTo_usage_iff (args : List Word) :
    (∃ message, ParsesTo args (.usage message)) ↔
      lacksValue args = false ∧ asksUsage args = true := by
  constructor
  · rintro ⟨message, parses⟩
    obtain ⟨other, run, ends⟩ := parseArgs_ends parses.complete defaults
    cases parses.unique ⟨_, run⟩
    cases asks : asksUsage args with
    | true =>
        exact ⟨parses.complete, rfl⟩
    | false =>
        simp [asks] at ends
  · rintro ⟨complete, asks⟩
    obtain ⟨other, run, ends⟩ := parseArgs_ends complete defaults
    simp only [asks, ↓reduceIte] at ends
    obtain ⟨message, rfl⟩ := ends
    exact ⟨message, _, run⟩

/-- Otherwise it ends with the options that it has read. -/
theorem parsesTo_options_iff
    {args : List Word}
    {options : Options} :
    ParsesTo args (.options options) ↔
      lacksValue args = false ∧ asksUsage args = false ∧
        options = readOptions defaults args := by
  constructor
  · intro parses
    obtain ⟨other, run, ends⟩ := parseArgs_ends parses.complete defaults
    cases parses.unique ⟨_, run⟩
    cases asks : asksUsage args with
    | true =>
        simp [asks] at ends
    | false =>
        simp only [asks, Bool.false_eq_true, ↓reduceIte,
          Parsed.options.injEq] at ends
        exact ⟨parses.complete, rfl, ends⟩
  · rintro ⟨complete, asks, rfl⟩
    obtain ⟨other, run, ends⟩ := parseArgs_ends complete defaults
    simp only [asks, Bool.false_eq_true, ↓reduceIte] at ends
    cases ends
    exact ⟨_, run⟩

/--
The option loop stops after at most this many rounds, with all options read
or with `usage`, which exits with an error.
-/
def StopsWithin (rounds : Nat) (args : List Word) : Prop :=
  parseArgs rounds defaults args =
      some (.options (readOptions defaults args)) ∨
    ∃ message, parseArgs rounds defaults args = some (.usage message)

/-- A loop that stops needs one round for every two arguments, and one. -/
theorem stopsWithin_of_complete
    {args : List Word}
    (complete : lacksValue args = false) :
    StopsWithin (args.length / 2 + 1) args := by
  obtain ⟨parsed, run, ends⟩ := parseArgs_ends complete defaults
  cases asks : asksUsage args with
  | true =>
      simp only [asks, ↓reduceIte] at ends
      obtain ⟨message, rfl⟩ := ends
      exact .inr ⟨message, run⟩
  | false =>
      simp only [asks, Bool.false_eq_true, ↓reduceIte] at ends
      exact .inl (ends ▸ run)

/-- A loop that stops has not met an option that lacks its value. -/
theorem StopsWithin.complete
    {rounds : Nat}
    {args : List Word}
    (stops : StopsWithin rounds args) :
    lacksValue args = false := by
  rcases stops with read | ⟨message, usage⟩
  · exact ParsesTo.complete ⟨rounds, read⟩
  · exact ParsesTo.complete ⟨rounds, usage⟩

/--
The option loop stops on exactly the lists that do not end with an option that
lacks its value: `shift 2` never takes such an option away.
-/
theorem optionLoop_stops_iff (args : List Word) :
    (∃ rounds, StopsWithin rounds args) ↔ lacksValue args = false := by
  constructor
  · rintro ⟨rounds, stops⟩
    exact stops.complete
  · intro complete
    exact ⟨_, stopsWithin_of_complete complete⟩

/-- A last `--sn` is read again in every round. -/
theorem optionLoop_sn_never_stops :
    ¬ ∃ rounds, StopsWithin rounds [⟨ascii "--sn", by decide⟩] := by
  rintro ⟨rounds, stops⟩
  exact absurd stops.complete (by decide)

/-! ## Success -/

/-- `hexstr_to_bin` ends on every text of even length. -/
theorem hexstrToBin_of_even
    (text : List Byte)
    (even : text.length % 2 = 0) :
    ∃ bytes, hexstrToBin text = some bytes := by
  induction text using hexstrToBin.induct with
  | case1 =>
      exact ⟨[], rfl⟩
  | case2 char =>
      cases even
  | case3 first second rest inductionHypothesis =>
      obtain ⟨bytes, printed⟩ :=
        inductionHypothesis (by simp at even; omega)
      exact ⟨_, by rw [hexstrToBin, printed]; rfl⟩

/-- It prints at least one byte for every two characters. -/
theorem length_le_of_hexstrToBin
    {text bytes : List Byte}
    (printed : hexstrToBin text = some bytes) :
    text.length ≤ 2 * bytes.length := by
  induction text using hexstrToBin.induct generalizing bytes with
  | case1 =>
      exact Nat.zero_le _
  | case2 char =>
      cases printed
  | case3 first second rest inductionHypothesis =>
      obtain ⟨tail, restPrinted, rfl⟩ := Option.map_eq_some_iff.mp printed
      have restBound := inductionHypothesis restPrinted
      have pairBound :=
        List.length_pos_of_ne_nil (printf_hexEscape_ne_nil first second)
      simp only [List.length_cons, List.length_append]
      omega

/-- Supported options with an EUI of 16 characters have a content. -/
theorem dataContent_isSome
    {options : Options}
    {digits : List Byte}
    (plan : frequencyValue? options.freqPlan.bytes = some digits)
    (length : (euiClean options.eui.bytes).length = 16) :
    ∃ content, dataContent options digits = some content := by
  have planLength : digits.length = 4 := by
    unfold frequencyValue? at plan
    repeat' split at plan
    all_goals
      cases plan
      try rfl
  obtain ⟨euiBytes, euiPrinted⟩ :=
    hexstrToBin_of_even (euiClean options.eui.bytes) (by rw [length])
  obtain ⟨planBytes, planPrinted⟩ :=
    hexstrToBin_of_even digits (by rw [planLength])
  obtain ⟨crcBytes, crcPrinted⟩ :=
    hexstrToBin_of_even crcHexPadded (by decide)
  exact ⟨_, by simp only [dataContent, euiPrinted, planPrinted, crcPrinted,
    Option.bind_eq_bind, Option.bind_some]; rfl⟩

/-- The options with which the script gives up. -/
def Rejected (writable : Word → Bool) (options : Options) : Prop :=
  frequencyValue? options.freqPlan.bytes = none ∨
    (euiClean options.eui.bytes).length ≠ 16 ∨
      writable options.outputFile = false

/-- What the script writes when it reports success. -/
def Written
    (writable : Word → Bool)
    (options : Options)
    (outcome : Outcome) :
    Prop :=
  ∃ digits content,
    frequencyValue? options.freqPlan.bytes = some digits ∧
      (euiClean options.eui.bytes).length = 16 ∧
        dataContent options digits = some content ∧
          writable options.outputFile = true ∧
            outcome.written = some (options.outputFile, content)

/-- The script behind the option loop either gives up or writes. -/
theorem writeOptions_cases
    (writable : Word → Bool)
    (options : Options) :
    ∃ outcome,
      writeOptions writable options = some outcome ∧
        ((outcome.exitCode = 1 ∧ outcome.written = none ∧
            Rejected writable options) ∨
          (outcome.exitCode = 0 ∧ Written writable options outcome)) := by
  cases plan : frequencyValue? options.freqPlan.bytes with
  | none =>
      simp only [writeOptions, plan]
      exact ⟨_, rfl, .inl ⟨rfl, rfl, .inl plan⟩⟩
  | some digits =>
      by_cases length : (euiClean options.eui.bytes).length = 16
      · obtain ⟨content, isContent⟩ := dataContent_isSome plan length
        simp only [writeOptions, plan, length, ne_eq, not_true_eq_false,
          ↓reduceIte, isContent, Option.map_some]
        cases canWrite : writable options.outputFile with
        | false =>
            exact ⟨_, rfl, .inl ⟨rfl, rfl, .inr (.inr canWrite)⟩⟩
        | true =>
            exact
              ⟨_, rfl, .inr ⟨rfl, digits, content, plan, length, isContent,
                canWrite, rfl⟩⟩
      · simp only [writeOptions, plan, ne_eq, length, not_false_eq_true,
          ↓reduceIte]
        exact ⟨_, rfl, .inl ⟨rfl, rfl, .inr (.inl length)⟩⟩

/-- It does not write with options that it rejects. -/
theorem Written.not_rejected
    {writable : Word → Bool}
    {options : Options}
    {outcome : Outcome}
    (writes : Written writable options outcome) :
    ¬ Rejected writable options := by
  obtain ⟨digits, content, plan, length, -, canWrite, -⟩ := writes
  rintro (noPlan | otherLength | cannotWrite)
  · cases plan.symm.trans noPlan
  · exact otherLength length
  · cases canWrite.symm.trans cannotWrite

/-- What the options are when the script reports success. -/
theorem ends_success
    {script : List Byte}
    {writable : Word → Bool}
    {args : List Word}
    {outcome : Outcome}
    (ends : Ends script writable args outcome)
    (success : outcome.exitCode = 0) :
    ∃ options,
      ParsesTo args (.options options) ∧
        Written writable options outcome := by
  rcases ends_iff.mp ends with ⟨message, -, rfl⟩ | ⟨options, parsed, run⟩
  · cases success
  · obtain ⟨result, isResult, failed | ⟨-, writes⟩⟩ :=
      writeOptions_cases writable options
    · cases run.symm.trans isResult
      cases failed.1.symm.trans success
    · cases run.symm.trans isResult
      exact ⟨options, parsed, writes⟩

/-- What the arguments are when the script gives up. -/
theorem ends_failure_iff
    {script : List Byte}
    {writable : Word → Bool}
    {args : List Word} :
    (∃ outcome,
        Ends script writable args outcome ∧
          outcome.exitCode ≠ 0 ∧ outcome.written = none) ↔
      lacksValue args = false ∧
        (asksUsage args = true ∨
          Rejected writable (readOptions defaults args)) := by
  constructor
  · rintro ⟨outcome, ends, failed, -⟩
    rcases ends_iff.mp ends with ⟨message, parsed, rfl⟩ |
      ⟨options, parsed, run⟩
    · obtain ⟨complete, asks⟩ :=
        (parsesTo_usage_iff args).mp ⟨message, parsed⟩
      exact ⟨complete, .inl asks⟩
    · obtain ⟨complete, -, rfl⟩ := parsesTo_options_iff.mp parsed
      obtain ⟨result, isResult, ⟨-, -, rejected⟩ | ⟨success, -⟩⟩ :=
        writeOptions_cases writable (readOptions defaults args)
      · exact ⟨complete, .inr rejected⟩
      · cases run.symm.trans isResult
        exact absurd success failed
  · rintro ⟨complete, reason⟩
    cases asks : asksUsage args with
    | true =>
        obtain ⟨message, parsed⟩ :=
          (parsesTo_usage_iff args).mpr ⟨complete, asks⟩
        exact
          ⟨_, ends_iff.mpr (.inl ⟨message, parsed, rfl⟩),
            Nat.one_ne_zero, rfl⟩
    | false =>
        have rejected :
            Rejected writable (readOptions defaults args) :=
          reason.resolve_left (by simp [asks])
        have parsed := parsesTo_options_iff.mpr ⟨complete, asks, rfl⟩
        obtain ⟨result, run, ⟨failed, notWritten, -⟩ | ⟨-, writes⟩⟩ :=
          writeOptions_cases writable (readOptions defaults args)
        · exact
            ⟨result, ends_iff.mpr (.inr ⟨_, parsed, run⟩), by omega,
              notWritten⟩
        · exact absurd rejected writes.not_rejected

/-- The arguments that give every option a value. -/
def arguments (sn eui freqPlan hwName outputFile : Word) : List Word :=
  [⟨ascii "--sn", by decide⟩, sn, ⟨ascii "--eui", by decide⟩, eui,
    ⟨ascii "--freq-plan", by decide⟩, freqPlan,
    ⟨ascii "--hw-name", by decide⟩, hwName,
    ⟨ascii "--output", by decide⟩, outputFile]

theorem arguments_parse (sn eui freqPlan hwName outputFile : Word) :
    ParsesTo (arguments sn eui freqPlan hwName outputFile)
      (.options
        { sn := sn, eui := eui, freqPlan := freqPlan, hwName := hwName,
          outputFile := outputFile }) :=
  ⟨6, rfl⟩

end RecomputerGateway.Eeprom
