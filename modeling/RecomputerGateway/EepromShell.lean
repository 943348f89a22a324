import RecomputerGateway.Hexadecimal

namespace RecomputerGateway.Eeprom

/-!
# The shell commands of `write_eeprom.sh`

The script builds a binary file with `printf`, whose format it assembles from
its arguments.  What `printf` makes of such a format, and what `echo` and `tr`
do to an argument, is that of the BusyBox applets on the target; strings are
sequences of bytes.
-/

abbrev Byte := BitVec 8

/-- The bytes of an ASCII text. -/
def ascii (text : String) : List Byte :=
  text.toList.map fun char => BitVec.ofNat 8 char.toNat

/-- An argument or the value of a variable: no byte of it is 0. -/
structure Word where
  bytes : List Byte
  nulFree : (0 : Byte) ∉ bytes
  deriving DecidableEq

def Word.empty : Word where
  bytes := []
  nulFree := by simp

/-- How far `printf` has come in its format. -/
inductive FormatMode where
  | plain
  /-- Behind a backslash. -/
  | escape
  /-- Behind `\x`. -/
  | hexStart
  /-- Behind `\x` and one digit. -/
  | hexDigit (value : Nat)
  /-- Behind a backslash and one or two octal digits. -/
  | octal (digits value : Nat)
  /-- Behind a percent sign. -/
  | directive
  deriving Repr, DecidableEq

/-- The escape sequences of one letter. -/
def letterEscape? (char : Byte) : Option Byte :=
  if char = 97 then some 7          -- \a
  else if char = 98 then some 8     -- \b
  else if char = 101 then some 27   -- \e
  else if char = 102 then some 12   -- \f
  else if char = 110 then some 10   -- \n
  else if char = 114 then some 13   -- \r
  else if char = 116 then some 9    -- \t
  else if char = 118 then some 11   -- \v
  else if char = 92 then some 92    -- \\
  else none

/-- The value of an octal digit. -/
def octalValue? (char : Byte) : Option Nat :=
  if 48 ≤ char.toNat ∧ char.toNat ≤ 55 then some (char.toNat - 48)
  else none

/--
What a conversion prints when `printf` has no argument left.  In the formats
of the script nothing follows the byte behind a percent sign, so a flag, a
width or a size modifier is an invalid format.
-/
def conversion? (char : Byte) : Option (List Byte) :=
  if char ∈ ascii "bs" then some []
  else if char ∈ ascii "diouxXgG" then some (ascii "0")
  else if char ∈ ascii "f" then some (ascii "0.000000")
  else if char ∈ ascii "e" then some (ascii "0.000000e+00")
  else if char ∈ ascii "E" then some (ascii "0.000000E+00")
  else if char ∈ ascii "c" then some [0]
  else if char ∈ ascii "%" then some (ascii "%")
  else none

/-- A byte outside of escapes and directives. -/
def plainStep (char : Byte) : List Byte × Option FormatMode :=
  if char = 92 then ([], some .escape)
  else if char = 37 then ([], some .directive)
  else ([char], some .plain)

/-- Print the pending bytes, then treat the byte as outside of an escape. -/
def flushStep
    (pending : List Byte)
    (char : Byte) :
    List Byte × Option FormatMode :=
  (pending ++ (plainStep char).1, (plainStep char).2)

/-- One byte of the format: what it prints, and how `printf` goes on. -/
def formatStep
    (mode : FormatMode)
    (char : Byte) :
    List Byte × Option FormatMode :=
  match mode with
  | .plain => plainStep char
  | .escape =>
      if char = 99 then ([], none)                    -- \c
      else if char = 120 then ([], some .hexStart)    -- \x
      else
        match octalValue? char, letterEscape? char with
        | some value, _ => ([], some (.octal 1 value))
        | none, some byte => ([byte], some .plain)
        | none, none => flushStep [92] char
  | .hexStart =>
      match Hexadecimal.digitValue? char with
      | some value => ([], some (.hexDigit value))
      | none => flushStep [92, 120] char
  | .hexDigit high =>
      match Hexadecimal.digitValue? char with
      | some low => ([Hexadecimal.byteOfDigits high low], some .plain)
      | none => flushStep [BitVec.ofNat 8 high] char
  | .octal digits value =>
      match octalValue? char with
      | none => flushStep [BitVec.ofNat 8 value] char
      | some digit =>
          if 255 < 8 * value + digit then
            flushStep [BitVec.ofNat 8 value] char
          else if digits = 2 then
            ([BitVec.ofNat 8 (8 * value + digit)], some .plain)
          else ([], some (.octal (digits + 1) (8 * value + digit)))
  | .directive =>
      match conversion? char with
      | some printed => (printed, some .plain)
      | none => ([], none)

/-- What is printed when the format ends. -/
def formatEnd : FormatMode → List Byte
  | .plain => []
  | .escape => [92]
  | .hexStart => [92, 120]
  | .hexDigit value => [BitVec.ofNat 8 value]
  | .octal _ value => [BitVec.ofNat 8 value]
  | .directive => []

/-- `printf` without arguments, from the middle of its format. -/
def printfFrom : FormatMode → List Byte → List Byte
  | mode, [] => formatEnd mode
  | mode, char :: rest =>
      match formatStep mode char with
      | (printed, some next) => printed ++ printfFrom next rest
      | (printed, none) => printed

/-- `printf FORMAT`. -/
def printf (format : List Byte) : List Byte :=
  printfFrom .plain format

/-- `-n`, `-e`, `-E` and their combinations are options of `echo`. -/
def isEchoOption : List Byte → Bool
  | 45 :: letters =>
      letters ≠ [] && letters.all fun char => char ∈ ascii "neE"
  | _ => false

/-- `echo word`. -/
def echo (word : List Byte) : List Byte :=
  if isEchoOption word then
    if 110 ∈ word then [] else [10]
  else word ++ [10]

/-- The class `[:space:]` of the C locale. -/
def isSpace (char : Byte) : Bool :=
  char ∈ ([9, 10, 11, 12, 13, 32] : List Byte)

/-- `tr -d '[:space:]'`. -/
def deleteSpace (text : List Byte) : List Byte :=
  text.filter fun char => !isSpace char

/-! ## Hexadecimal pairs -/

theorem printfFrom_of_step
    {mode : FormatMode}
    {char : Byte}
    (next : FormatMode)
    (printed : List Byte)
    (step : formatStep mode char = (printed, some next))
    (rest : List Byte) :
    printfFrom mode (char :: rest) = printed ++ printfFrom next rest := by
  simp [printfFrom, step]

/-- Every format of `hexstr_to_bin` starts with `\x`. -/
theorem printf_hexEscape (rest : List Byte) :
    printf (ascii "\\x" ++ rest) = printfFrom .hexStart rest := by
  have start : ascii "\\x" = [92, 120] := by decide
  rw [start, printf, List.cons_append, List.cons_append, List.nil_append,
    printfFrom_of_step .escape [] (by decide),
    printfFrom_of_step .hexStart [] (by decide),
    List.nil_append, List.nil_append]

/-- Two hexadecimal digits behind `\x` print one byte. -/
theorem printf_hexPair
    {first second : Byte}
    {high low : Nat}
    (firstDigit : Hexadecimal.digitValue? first = some high)
    (secondDigit : Hexadecimal.digitValue? second = some low) :
    printf (ascii "\\x" ++ [first, second]) =
      [Hexadecimal.byteOfDigits high low] := by
  rw [printf_hexEscape,
    printfFrom_of_step (.hexDigit high) []
      (by simp [formatStep, firstDigit]),
    printfFrom_of_step .plain [Hexadecimal.byteOfDigits high low]
      (by simp [formatStep, secondDigit])]
  rfl

/-- A byte that is printed while another is pending prints that one first. -/
theorem printfFrom_flush_ne_nil
    {mode : FormatMode}
    {char : Byte}
    (pending : List Byte)
    (step : formatStep mode char = flushStep pending char)
    (isPending : pending ≠ [])
    (rest : List Byte) :
    printfFrom mode (char :: rest) ≠ [] := by
  unfold printfFrom
  rw [step]
  unfold flushStep
  cases (plainStep char).2 <;> simp [isPending]

/-- What `\x` and two more bytes print is never empty. -/
theorem printf_hexEscape_ne_nil (first second : Byte) :
    printf (ascii "\\x" ++ [first, second]) ≠ [] := by
  rw [printf_hexEscape]
  cases firstDigit : Hexadecimal.digitValue? first with
  | none =>
      exact printfFrom_flush_ne_nil [92, 120]
        (by simp [formatStep, firstDigit]) (by simp) [second]
  | some high =>
      rw [printfFrom_of_step (.hexDigit high) []
        (by simp [formatStep, firstDigit]), List.nil_append]
      cases secondDigit : Hexadecimal.digitValue? second with
      | none =>
          exact printfFrom_flush_ne_nil [BitVec.ofNat 8 high]
            (by simp [formatStep, secondDigit]) (by simp) []
      | some low =>
          rw [printfFrom_of_step .plain
            [Hexadecimal.byteOfDigits high low]
            (by simp [formatStep, secondDigit])]
          simp

end RecomputerGateway.Eeprom
