import RecomputerGateway.TextLines

namespace RecomputerGateway.RustText

/-!
# Text functions of the Rust standard library

White space, integers and lossy UTF-8, as Rust documents them.
-/

/-- `char::is_whitespace`, the property `White_Space` of Unicode. -/
def isWhitespace (char : Char) : Bool :=
  let code := char.toNat
  (9 ≤ code && code ≤ 13) || code == 0x20 || code == 0x85 ||
    code == 0xA0 || code == 0x1680 ||
    (0x2000 ≤ code && code ≤ 0x200A) || code == 0x2028 ||
    code == 0x2029 || code == 0x202F || code == 0x205F || code == 0x3000

/-- `str::trim`, on the characters of the text. -/
def trimChars (text : List Char) : List Char :=
  ((text.dropWhile isWhitespace).reverse.dropWhile isWhitespace).reverse

def trim (text : String) : String :=
  String.ofList (trimChars text.toList)

/-- A line that a newline has ended, without the carriage return before it. -/
def stripCarriageReturn (line : List Char) : List Char :=
  if line.getLast? = some '\r' then line.dropLast else line

/-- `str::lines`. -/
def lines (text : List Char) : List (List Char) :=
  let split := TextLines.splitLines text
  if text.getLast? = some '\n' then split.map stripCarriageReturn
  else split.dropLast.map stripCarriageReturn ++ split.getLast?.toList

/-- `str::find`, for a character. -/
def find? (char : Char) (text : List Char) : Option Nat :=
  text.findIdx? (· = char)

/-- `str::rfind`, for a character. -/
def rfind? (char : Char) (text : List Char) : Option Nat :=
  (text.reverse.findIdx? (· = char)).map fun behind =>
    text.length - 1 - behind

/-- The value of decimal digits, of at least one. -/
def parseDigits : List Char → Option Nat
  | [] => none
  | digits =>
      digits.foldlM
        (fun value char =>
          if '0' ≤ char ∧ char ≤ '9' then
            some (10 * value + (char.toNat - 48))
          else none) 0

/-- `parse` for an unsigned type with values below `bound`. -/
def parseUnsigned (bound : Nat) (text : String) : Option Nat :=
  let digits :=
    match text.toList with
    | '+' :: rest => rest
    | chars => chars
  (parseDigits digits).filter (· < bound)

/-- `parse` for `i32`. -/
def parseI32 (text : String) : Option Int :=
  match text.toList with
  | '-' :: digits =>
      ((parseDigits digits).filter (· ≤ 2147483648)).map fun value =>
        -(value : Int)
  | _ => (parseUnsigned 2147483648 text).map fun value => (value : Int)

/-- The replacement character. -/
def replacement : Char := '\uFFFD'

/-- How far the decoder has come in a sequence of bytes. -/
inductive Utf8Mode where
  | start
  /--
  `left` more bytes are needed, the first of them from `lower` to `upper`;
  `value` is what the bytes so far stand for.
  -/
  | within (left lower upper value : Nat)
  deriving DecidableEq

/-- The first byte of a character. -/
def leadByte (byte : Nat) : List Char × Utf8Mode :=
  if byte < 0x80 then ([Char.ofNat byte], .start)
  else if 0xC2 ≤ byte ∧ byte ≤ 0xDF then
    ([], .within 1 0x80 0xBF (byte - 0xC0))
  else if byte = 0xE0 then ([], .within 2 0xA0 0xBF 0)
  else if byte = 0xED then ([], .within 2 0x80 0x9F (byte - 0xE0))
  else if 0xE1 ≤ byte ∧ byte ≤ 0xEF then
    ([], .within 2 0x80 0xBF (byte - 0xE0))
  else if byte = 0xF0 then ([], .within 3 0x90 0xBF 0)
  else if 0xF1 ≤ byte ∧ byte ≤ 0xF3 then
    ([], .within 3 0x80 0xBF (byte - 0xF0))
  else if byte = 0xF4 then ([], .within 3 0x80 0x8F (byte - 0xF0))
  else ([replacement], .start)

/--
One byte.  A sequence that breaks off is replaced by one character, and the
byte that breaks it starts anew.
-/
def utf8Step (mode : Utf8Mode) (byte : Nat) : List Char × Utf8Mode :=
  match mode with
  | .start => leadByte byte
  | .within left lower upper value =>
      if lower ≤ byte ∧ byte ≤ upper then
        let extended := 64 * value + (byte - 0x80)
        if left = 1 then ([Char.ofNat extended], .start)
        else ([], .within (left - 1) 0x80 0xBF extended)
      else (replacement :: (leadByte byte).1, (leadByte byte).2)

def decodeFrom : Utf8Mode → List (BitVec 8) → List Char
  | .start, [] => []
  | .within _ _ _ _, [] => [replacement]
  | mode, byte :: rest =>
      (utf8Step mode byte.toNat).1 ++
        decodeFrom (utf8Step mode byte.toNat).2 rest

/-- `String::from_utf8_lossy`. -/
def fromUtf8Lossy (bytes : List (BitVec 8)) : String :=
  String.ofList (decodeFrom .start bytes)

end RecomputerGateway.RustText
