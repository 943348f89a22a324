import RecomputerGateway.EcmaScript
import RecomputerGateway.EepromShell
import RecomputerGateway.LastOccurrence
import RecomputerGateway.PercentEncoding

namespace RecomputerGateway.OtaStart

/-!
# The firmware URL on its way to the download

The web page puts the URL into a query string, with `encodeURIComponent`.  The
script `ota-start` cuts it out with `sed` and decodes it with two substitutions
and `printf '%b'`.
-/

open EcmaScript (isWhiteSpace trim)
open Eeprom (FormatMode ascii echo formatEnd letterEscape? octalValue?)
open Hexadecimal (Byte byteOfDigits digitValue? printByte upperDigit)
open LastOccurrence (afterLast?)
open PercentEncoding (encode encodeByte percent)

/-! ## The web page -/

/-- The bytes of a character in UTF-8. -/
def utf8Char (char : Char) : List Byte :=
  (String.utf8EncodeChar char).map UInt8.toBitVec

def utf8 (text : List Char) : List Byte :=
  text.flatMap utf8Char

/-- The characters that `encodeURIComponent` leaves as they are. -/
def isUnescaped (char : Char) : Bool :=
  char.isAlphanum || char ∈ "-_.!~*'()".toList

/-- `encodeURIComponent`. -/
def encodeURIComponent (text : List Char) : List Byte :=
  text.flatMap fun char =>
    if isUnescaped char then [BitVec.ofNat 8 char.toNat]
    else (utf8Char char).flatMap encodeByte

/-- The URL that the page takes when none has been entered. -/
def defaultUrl : List Char :=
  ("https://github.com/is-qian/recomputer-gateway/releases/latest/" ++
    "download/openwrt-armsr-armv8-generic-rootfs.tar.gz").toList

/-- The query string for a URL; `now` are the digits of the time. -/
def query (url : List Char) (now : List (Fin 10)) : List Byte :=
  ascii "url=" ++ encodeURIComponent url ++ ascii "&_=" ++
    now.map fun digit => BitVec.ofNat 8 (48 + digit.val)

/--
The query string that `handleOTADownload` asks for; `urlInput` is the value of
the input field, if the page has one.
-/
def handleOTADownload
    (customUrl : List Char)
    (urlInput : Option (List Char))
    (now : List (Fin 10)) :
    List Byte :=
  let entered :=
    if customUrl = [] then (urlInput.map (trim Char.toNat)).getD []
    else customUrl
  query (if entered = [] then defaultUrl else entered) now

/-! ## The script -/

/-- A byte outside of an escape in the argument of `%b`. -/
def plainStep (char : Byte) : List Byte × Option FormatMode :=
  if char = 92 then ([], some .escape) else ([char], some .plain)

/-- Print the pending bytes, then treat the byte as outside of an escape. -/
def flushStep
    (pending : List Byte)
    (char : Byte) :
    List Byte × Option FormatMode :=
  (pending ++ (plainStep char).1, (plainStep char).2)

/--
One byte of the argument of `%b`.  The escapes are those of a format, but for
three octal digits behind a leading zero.
-/
def escapeStep
    (mode : FormatMode)
    (char : Byte) :
    List Byte × Option FormatMode :=
  match mode with
  | .plain | .directive => plainStep char
  | .escape =>
      if char = 99 then ([], none)                    -- \c
      else if char = 120 then ([], some .hexStart)    -- \x
      else if char = 48 then ([], some (.octal 0 0))  -- \0
      else
        match octalValue? char, letterEscape? char with
        | some value, _ => ([], some (.octal 1 value))
        | none, some byte => ([byte], some .plain)
        | none, none => flushStep [92] char
  | .hexStart =>
      match digitValue? char with
      | some value => ([], some (.hexDigit value))
      | none => flushStep [92, 120] char
  | .hexDigit high =>
      match digitValue? char with
      | some low => ([byteOfDigits high low], some .plain)
      | none => flushStep [BitVec.ofNat 8 high] char
  | .octal digits value =>
      match octalValue? char with
      | none => flushStep [BitVec.ofNat 8 value] char
      | some digit =>
          if 255 < 8 * value + digit then
            flushStep [BitVec.ofNat 8 value] char
          else if digits = 2 then
            ([BitVec.ofNat 8 (8 * value + digit)], some .plain)
          else ([], some (.octal (digits + 1) (8 * value + digit)))

def printEscapesFrom : FormatMode → List Byte → List Byte
  | mode, [] => formatEnd mode
  | mode, char :: rest =>
      match escapeStep mode char with
      | (printed, some next) => printed ++ printEscapesFrom next rest
      | (printed, none) => printed

/-- `printf '%b' text`. -/
def printEscapes (text : List Byte) : List Byte :=
  printEscapesFrom .plain text

/-- `${text//pattern/replacement}`, for a pattern of one character. -/
def substituteAll
    (pattern : Byte)
    (replacement text : List Byte) :
    List Byte :=
  text.flatMap fun char => if char = pattern then replacement else [char]

/-- `urldecode`. -/
def urldecode (text : List Byte) : List Byte :=
  let urlEncoded := substituteAll 43 (ascii " ") text
  printEscapes (substituteAll percent (ascii "\\x") urlEncoded)

/-- `sed -n 's/.*url=\([^&]*\).*/\1/p'`, for a text of one line. -/
def sedUrl (text : List Byte) : List Byte :=
  match afterLast? (ascii "url=") (text.takeWhile (· ≠ 10)) with
  | none => []
  | some behind => behind.takeWhile (· ≠ 38) ++ [10]

/-- `$(command)`: no byte is zero, and newlines at the end are dropped. -/
def substitute (printed : List Byte) : List Byte :=
  (printed.filter (· ≠ 0)).rdropWhile (· = 10)

/-- `CUSTOM_URL`. -/
def customUrl (queryString : List Byte) : List Byte :=
  if queryString = [] then []
  else
    let urlParam := substitute (sedUrl (echo queryString))
    if urlParam = [] then [] else substitute (urldecode urlParam)

/-- The arguments that `/bin/ota` is started with. -/
def otaArguments (queryString : List Byte) : List (List Byte) :=
  let url := customUrl queryString
  if url = [] then [ascii "download"] else [ascii "download", url]

/-- A URL as it may be entered. -/
structure Url where
  chars : List Char
  notEmpty : chars ≠ []
  nulFree : Char.ofNat 0 ∉ chars
  trimmed : trim Char.toNat chars = chars

/-! ## UTF-8 -/

theorem toNat_toBitVec_ofNat (value : Nat) :
    (UInt8.ofNat value).toBitVec.toNat = value % 256 :=
  rfl

theorem utf8Char_of_ascii
    {char : Char}
    (isAscii : char.toNat < 128) :
    utf8Char char = [BitVec.ofNat 8 char.toNat] := by
  have small : char.val.toNat ≤ 0x7f := Nat.le_of_lt_succ isAscii
  simp only [utf8Char, String.utf8EncodeChar, small, ↓reduceIte]
  rfl

theorem utf8Char_ne_nil (char : Char) : utf8Char char ≠ [] := by
  have positive : 0 < (utf8Char char).length := by
    rw [utf8Char, List.length_map, String.length_utf8EncodeChar]
    exact char.utf8Size_pos
  exact List.length_pos_iff.mp positive

theorem le_toNat_of_not_ascii
    {char : Char}
    (notAscii : ¬ char.toNat < 128)
    {byte : Byte}
    (member : byte ∈ utf8Char char) :
    128 ≤ byte.toNat := by
  have large : ¬ char.val.toNat ≤ 0x7f := fun small =>
    notAscii (Nat.lt_succ_of_le small)
  simp only [utf8Char, String.utf8EncodeChar, large, ↓reduceIte] at member
  repeat' split at member
  all_goals
    simp only [List.map_cons, List.map_nil, List.mem_cons, List.not_mem_nil,
      or_false] at member
  · rcases member with rfl | rfl
    all_goals rw [toNat_toBitVec_ofNat]
    all_goals omega
  · rcases member with rfl | rfl | rfl
    all_goals rw [toNat_toBitVec_ofNat]
    all_goals omega
  · rcases member with rfl | rfl | rfl | rfl
    all_goals rw [toNat_toBitVec_ofNat]
    all_goals omega

/-- The bytes that stand for characters that are left as they are. -/
def keeps (byte : Byte) : Bool :=
  byte.toNat < 128 && isUnescaped (Char.ofNat byte.toNat)

theorem isUnescaped_ascii
    {char : Char}
    (unescaped : isUnescaped char = true) :
    char.toNat < 128 := by
  have below
      {last : UInt32}
      (inRange : char.val ≤ last)
      (small : last.toNat < 128) :
      char.toNat < 128 :=
    Nat.lt_of_le_of_lt (UInt32.le_iff_toNat_le.mp inRange) small
  have classes :
      (char.isUpper || char.isLower || char.isDigit ||
        decide (char ∈ "-_.!~*'()".toList)) = true :=
    unescaped
  simp only [Bool.or_eq_true] at classes
  rcases classes with ((upper | lower) | digit) | mark
  · have inRange : char.val ≥ 'A'.val ∧ char.val ≤ 'Z'.val :=
      of_decide_eq_true upper
    exact below inRange.2 (by decide)
  · have inRange : decide (char.val ≤ 'z'.val) = true :=
      (Bool.and_eq_true_iff.mp lower).2
    exact below (of_decide_eq_true inRange) (by decide)
  · have inRange : decide (char.val ≤ '9'.val) = true :=
      (Bool.and_eq_true_iff.mp digit).2
    exact below (of_decide_eq_true inRange) (by decide)
  · have small :
        ("-_.!~*'()".toList.all fun mark => mark.toNat < 128) = true := by
      decide
    exact
      of_decide_eq_true
        (List.all_eq_true.mp small char (of_decide_eq_true mark))

theorem keeps_ofNat
    {char : Char}
    (isAscii : char.toNat < 128) :
    keeps (BitVec.ofNat 8 char.toNat) = isUnescaped char := by
  have fits : char.toNat % 256 = char.toNat := Nat.mod_eq_of_lt (by omega)
  rw [keeps, BitVec.toNat_ofNat, fits, Char.ofNat_toNat,
    decide_eq_true isAscii, Bool.true_and]

theorem encodeURIComponent_eq (text : List Char) :
    encodeURIComponent text = encode keeps (utf8 text) := by
  rw [encodeURIComponent, encode, utf8, List.flatMap_assoc]
  apply List.flatMap_congr
  intro char _
  by_cases isAscii : char.toNat < 128
  · rw [utf8Char_of_ascii isAscii, List.flatMap_singleton,
      List.flatMap_singleton, keeps_ofNat isAscii]
  · have escaped : isUnescaped char = false := by
      rw [← Bool.not_eq_true]
      exact fun unescaped => isAscii (isUnescaped_ascii unescaped)
    rw [escaped]
    apply List.flatMap_congr
    intro byte member
    have notSmall : ¬ byte.toNat < 128 :=
      Nat.not_lt.mpr (le_toNat_of_not_ascii isAscii member)
    rw [keeps, decide_eq_false notSmall]
    rfl

/-! ## What the script decodes -/

/-- Bytes that are special in one of the steps are not kept. -/
theorem not_kept
    {byte : Byte}
    (special : byte ∈ ([0, 10, 37, 38, 43, 61, 92] : List Byte)) :
    keeps byte = false := by
  have none :
      (([0, 10, 37, 38, 43, 61, 92] : List Byte).all fun byte =>
        !keeps byte) = true := by
    decide
  simpa using List.all_eq_true.mp none byte special

theorem not_mem_encode
    {byte : Byte}
    (special : byte ∈ ([0, 10, 38, 43, 61, 92] : List Byte))
    (bytes : List Byte) :
    byte ∉ encode keeps bytes := by
  have none :
      (([0, 10, 38, 43, 61, 92] : List Byte).all fun byte =>
        !PercentEncoding.isEncoded keeps byte) = true := by
    decide
  apply PercentEncoding.not_mem_encode
  simpa using List.all_eq_true.mp none byte special

theorem substituteAll_of_not_mem
    {pattern : Byte}
    (replacement : List Byte)
    {text : List Byte}
    (absent : pattern ∉ text) :
    substituteAll pattern replacement text = text := by
  induction text with
  | nil =>
      rfl
  | cons char rest inductionHypothesis =>
      have differs : char ≠ pattern := fun same => absent (same ▸ .head _)
      have later := inductionHypothesis fun member => absent (.tail _ member)
      rw [substituteAll] at later ⊢
      rw [List.flatMap_cons, later, if_neg differs]
      rfl

/-- What an encoded byte has become before `printf` decodes it. -/
def escapedByte (byte : Byte) : List Byte :=
  if keeps byte then [byte] else ascii "\\x" ++ printByte byte

theorem substituteAll_encode (bytes : List Byte) :
    substituteAll percent (ascii "\\x") (encode keeps bytes) =
      bytes.flatMap escapedByte := by
  rw [substituteAll, encode, List.flatMap_assoc]
  apply List.flatMap_congr
  intro byte _
  rw [escapedByte]
  cases kept : keeps byte with
  | true =>
      have notPercent : byte ≠ percent := by
        rintro rfl
        rw [not_kept (by decide)] at kept
        cases kept
      simp [notPercent]
  | false =>
      have notInDigits : percent ∉ printByte byte := by
        intro member
        have isDigit := PercentEncoding.isDigit_of_mem_printByte member
        exact absurd isDigit (by decide)
      have unchanged := substituteAll_of_not_mem (ascii "\\x") notInDigits
      rw [substituteAll] at unchanged
      rw [if_neg Bool.false_ne_true, if_neg Bool.false_ne_true, encodeByte,
        List.flatMap_cons, unchanged, if_pos rfl]

theorem printEscapesFrom_of_step
    {mode : FormatMode}
    {char : Byte}
    (next : FormatMode)
    (printed : List Byte)
    (step : escapeStep mode char = (printed, some next))
    (rest : List Byte) :
    printEscapesFrom mode (char :: rest) =
      printed ++ printEscapesFrom next rest := by
  simp [printEscapesFrom, step]

/-- Every escaped byte is decoded, whatever stands behind it. -/
theorem printEscapesFrom_escapedByte
    (byte : Byte)
    (rest : List Byte) :
    printEscapesFrom .plain (escapedByte byte ++ rest) =
      byte :: printEscapesFrom .plain rest := by
  rw [escapedByte]
  cases kept : keeps byte with
  | true =>
      have notBackslash : byte ≠ 92 := by
        rintro rfl
        rw [not_kept (by decide)] at kept
        cases kept
      exact
        printEscapesFrom_of_step .plain [byte]
          (by rw [escapeStep, plainStep, if_neg notBackslash]) rest
  | false =>
      have bound := byte.isLt
      have start : ascii "\\x" = [92, 120] := by decide
      have high :
          digitValue? (upperDigit (byte.toNat / 16)) =
            some (byte.toNat / 16) :=
        Hexadecimal.digitValue?_upperDigit (by omega)
      have low :
          digitValue? (upperDigit (byte.toNat % 16)) =
            some (byte.toNat % 16) :=
        Hexadecimal.digitValue?_upperDigit (by omega)
      rw [if_neg Bool.false_ne_true, start, printByte, List.append_assoc]
      simp only [List.cons_append, List.nil_append]
      rw [printEscapesFrom_of_step .escape [] (by decide),
        printEscapesFrom_of_step .hexStart [] (by decide),
        printEscapesFrom_of_step (.hexDigit (byte.toNat / 16)) []
          (by simp [escapeStep, high]),
        printEscapesFrom_of_step .plain [byte]
          (by simp [escapeStep, low, Hexadecimal.byteOfDigits_toNat])]
      rfl

/-- The script decodes what the page has encoded. -/
theorem urldecode_encode (bytes : List Byte) :
    urldecode (encode keeps bytes) = bytes := by
  have noPlus : (43 : Byte) ∉ encode keeps bytes :=
    not_mem_encode (by decide) bytes
  rw [urldecode, substituteAll_of_not_mem (ascii " ") noPlus,
    substituteAll_encode, printEscapes]
  induction bytes with
  | nil =>
      rfl
  | cons byte rest inductionHypothesis =>
      have later :=
        inductionHypothesis (not_mem_encode (by decide) rest)
      rw [List.flatMap_cons, printEscapesFrom_escapedByte, later]

/-! ## What the script cuts out -/

/-- The only occurrence of `url=` is the one at the start. -/
theorem afterLast?_query
    {encoded behind : List Byte}
    (noEquals : (61 : Byte) ∉ encoded)
    (noU : (117 : Byte) ∉ behind) :
    afterLast? (ascii "url=") (ascii "url=" ++ encoded ++ 38 :: behind) =
      some (encoded ++ 38 :: behind) := by
  have notLater :
      afterLast? (ascii "url=") (encoded ++ 38 :: behind) = none :=
    LastOccurrence.afterLast?_append_separator_eq_none (by decide)
      (LastOccurrence.afterLast?_eq_none
        (show (61 : Byte) ∈ ascii "url=" by decide) noEquals)
      (LastOccurrence.afterLast?_eq_none
        (show (117 : Byte) ∈ ascii "url=" by decide) noU)
  rw [List.append_assoc]
  exact LastOccurrence.afterLast?_self_append (by decide) notLater

/-- Substituting a command takes a text without zeros and newlines over. -/
theorem substitute_eq
    {text : List Byte}
    (noZero : (0 : Byte) ∉ text)
    (lastNotNewline : text.getLast? ≠ some 10) :
    substitute text = text := by
  have filtered : text.filter (· ≠ 0) = text := by
    apply List.filter_eq_self.mpr
    intro byte member
    exact decide_eq_true fun isZero => noZero (isZero ▸ member)
  rw [substitute, filtered, List.rdropWhile_eq_self_iff]
  intro notEmpty isNewline
  apply lastNotNewline
  rw [List.getLast?_eq_some_getLast notEmpty, of_decide_eq_true isNewline]

theorem substitute_line
    {text : List Byte}
    (noZero : (0 : Byte) ∉ text)
    (noNewline : (10 : Byte) ∉ text) :
    substitute (text ++ [10]) = text := by
  have dropped : substitute (text ++ [10]) = substitute text := by
    rw [substitute, List.filter_append]
    exact List.rdropWhile_concat_pos _ _ _ rfl
  rw [dropped]
  apply substitute_eq noZero
  intro isNewline
  exact noNewline (List.mem_of_getLast? isNewline)

/-- The script cuts the encoded text out again. -/
theorem urlParam_query
    {encoded behind : List Byte}
    (encodedPlain :
      ∀ byte ∈ ([0, 10, 38, 61] : List Byte), byte ∉ encoded)
    (behindPlain :
      ∀ byte ∈ ([10, 117] : List Byte), byte ∉ behind) :
    substitute
        (sedUrl (echo (ascii "url=" ++ encoded ++ 38 :: behind))) =
      encoded := by
  have start : ascii "url=" = [117, 114, 108, 61] := by decide
  have notOption :
      echo (ascii "url=" ++ encoded ++ 38 :: behind) =
        ascii "url=" ++ encoded ++ 38 :: behind ++ [10] := by
    rw [start]
    rfl
  have noNewline :
      ∀ byte ∈ ascii "url=" ++ encoded ++ 38 :: behind,
        decide (byte ≠ 10) = true := by
    intro byte member
    apply decide_eq_true
    rintro rfl
    simp only [start, List.mem_append, List.mem_cons] at member
    rcases member with (inStart | inEncoded) | isAmpersand | inBehind
    · revert inStart
      decide
    · exact encodedPlain 10 (by decide) inEncoded
    · cases isAmpersand
    · exact behindPlain 10 (by decide) inBehind
  have noAmpersand :
      ∀ byte ∈ encoded, decide (byte ≠ 38) = true := by
    intro byte member
    exact decide_eq_true fun isAmpersand =>
      encodedPlain 38 (by decide) (isAmpersand ▸ member)
  rw [notOption, sedUrl, List.takeWhile_append_of_pos noNewline,
    List.takeWhile_cons_of_neg (by decide), List.append_nil,
    afterLast?_query (encodedPlain 61 (by decide))
      (behindPlain 117 (by decide))]
  simp only []
  rw [List.takeWhile_append_of_pos noAmpersand,
    List.takeWhile_cons_of_neg (by decide), List.append_nil]
  exact
    substitute_line (encodedPlain 0 (by decide)) (encodedPlain 10 (by decide))

/-! ## The way there and back -/

theorem toNat_of_mem_utf8Char
    {char : Char}
    {byte : Byte}
    (member : byte ∈ utf8Char char)
    (small : byte.toNat < 128) :
    char.toNat = byte.toNat := by
  by_cases isAscii : char.toNat < 128
  · rw [utf8Char_of_ascii isAscii, List.mem_singleton] at member
    rw [member, BitVec.toNat_ofNat]
    omega
  · exact absurd small (Nat.not_lt.mpr (le_toNat_of_not_ascii isAscii member))

namespace Url

variable (url : Url)

theorem zero_not_mem_utf8 : (0 : Byte) ∉ utf8 url.chars := by
  intro member
  obtain ⟨char, inUrl, inChar⟩ := List.mem_flatMap.mp member
  have isNul := toNat_of_mem_utf8Char inChar (by decide)
  have same : char = Char.ofNat 0 := by
    rw [← Char.ofNat_toNat char, isNul]
    rfl
  exact url.nulFree (same ▸ inUrl)

/-- The last character of a trimmed text is no newline. -/
theorem getLast_ne_newline
    {front : List Char}
    {last : Char}
    (parts : url.chars = front ++ [last]) :
    last.toNat ≠ 10 := by
  intro isNewline
  have trimmedAgain :
      url.chars.rdropWhile (fun char => isWhiteSpace char.toNat) =
        url.chars := by
    rw [← url.trimmed, trim, List.rdropWhile_idempotent]
  have isSpace : isWhiteSpace last.toNat = true := by
    simp [isWhiteSpace, isNewline]
  rw [parts, List.rdropWhile_concat, if_pos isSpace] at trimmedAgain
  have shorter :
      (front.rdropWhile fun char => isWhiteSpace char.toNat).length ≤
        front.length :=
    (List.rdropWhile_prefix _ front).length_le
  rw [trimmedAgain, List.length_append, List.length_singleton] at shorter
  omega

theorem getLast?_utf8_ne_newline :
    (utf8 url.chars).getLast? ≠ some 10 := by
  intro isNewline
  rcases List.eq_nil_or_concat url.chars with isEmpty | ⟨front, last, parts⟩
  · exact url.notEmpty isEmpty
  · rw [List.concat_eq_append] at parts
    obtain ⟨byte, lastByte⟩ :=
      Option.isSome_iff_exists.mp
        (List.getLast?_isSome.mpr (utf8Char_ne_nil last))
    have together : utf8 url.chars = utf8 front ++ utf8Char last := by
      rw [parts, utf8, List.flatMap_append, List.flatMap_singleton]
      rfl
    rw [together, List.getLast?_append, lastByte, Option.some_or,
      Option.some.injEq] at isNewline
    have inLast : (10 : Byte) ∈ utf8Char last :=
      List.mem_of_getLast? (isNewline ▸ lastByte)
    exact
      url.getLast_ne_newline parts (toNat_of_mem_utf8Char inLast (by decide))

theorem utf8_ne_nil : utf8 url.chars ≠ [] := by
  intro isEmpty
  obtain ⟨first, member⟩ := List.exists_mem_of_ne_nil url.chars url.notEmpty
  exact utf8Char_ne_nil first (List.flatMap_eq_nil_iff.mp isEmpty first member)

end Url

theorem handleOTADownload_custom
    (url : Url)
    (urlInput : Option (List Char))
    (now : List (Fin 10)) :
    handleOTADownload url.chars urlInput now = query url.chars now := by
  simp only [handleOTADownload, url.notEmpty, ↓reduceIte]

theorem handleOTADownload_entered
    {url : Url}
    {entered : List Char}
    (trimmed : trim Char.toNat entered = url.chars)
    (now : List (Fin 10)) :
    handleOTADownload [] (some entered) now = query url.chars now := by
  simp only [handleOTADownload, Option.map_some, Option.getD_some, trimmed,
    url.notEmpty, ↓reduceIte]

/-- The script takes back every step of the page. -/
theorem otaArguments_query
    (url : Url)
    (now : List (Fin 10)) :
    otaArguments (query url.chars now) =
      [ascii "download", utf8 url.chars] := by
  let behind : List Byte :=
    ascii "_=" ++ now.map fun digit => BitVec.ofNat 8 (48 + digit.val)
  have parts :
      query url.chars now =
        ascii "url=" ++ encode keeps (utf8 url.chars) ++ 38 :: behind := by
    have separator : ascii "&_=" = 38 :: ascii "_=" := by decide
    rw [query, encodeURIComponent_eq, separator]
    simp [behind]
  have notEmpty :
      ascii "url=" ++ encode keeps (utf8 url.chars) ++ 38 :: behind ≠ [] := by
    simp
  have encodedPlain :
      ∀ byte ∈ ([0, 10, 38, 61] : List Byte),
        byte ∉ encode keeps (utf8 url.chars) := by
    have special :
        ∀ byte ∈ ([0, 10, 38, 61] : List Byte),
          byte ∈ ([0, 10, 38, 43, 61, 92] : List Byte) := by
      decide
    exact fun byte member => not_mem_encode (special byte member) _
  have behindPlain :
      ∀ byte ∈ ([10, 117] : List Byte), byte ∉ behind := by
    have noDigit :
        ∀ byte ∈ ([10, 117] : List Byte), ∀ digit : Fin 10,
          BitVec.ofNat 8 (48 + digit.val) ≠ byte := by
      decide
    have noMark :
        ∀ byte ∈ ([10, 117] : List Byte), byte ∉ ascii "_=" := by
      decide
    intro byte special member
    rcases List.mem_append.mp member with inMark | inDigits
    · exact noMark byte special inMark
    · obtain ⟨digit, -, same⟩ := List.mem_map.mp inDigits
      exact noDigit byte special digit same
  have encodedNotEmpty : encode keeps (utf8 url.chars) ≠ [] := by
    rw [ne_eq, PercentEncoding.encode_eq_nil_iff]
    exact url.utf8_ne_nil
  have decoded : customUrl (query url.chars now) = utf8 url.chars := by
    rw [parts, customUrl, if_neg notEmpty]
    simp only []
    rw [urlParam_query encodedPlain behindPlain, if_neg encodedNotEmpty,
      urldecode_encode]
    exact substitute_eq url.zero_not_mem_utf8 url.getLast?_utf8_ne_newline
  rw [otaArguments, decoded]
  exact if_neg url.utf8_ne_nil

/--
Whatever URL the page passes on or finds in the input field, with or without
white space around it, the download is started with this URL.
-/
theorem otaArguments_handleOTADownload
    (url : Url)
    (now : List (Fin 10)) :
    (∀ urlInput,
        otaArguments (handleOTADownload url.chars urlInput now) =
          [ascii "download", utf8 url.chars]) ∧
      ∀ entered,
        trim Char.toNat entered = url.chars →
          otaArguments (handleOTADownload [] (some entered) now) =
            [ascii "download", utf8 url.chars] := by
  constructor
  · intro urlInput
    rw [handleOTADownload_custom]
    exact otaArguments_query url now
  · intro entered trimmed
    rw [handleOTADownload_entered trimmed]
    exact otaArguments_query url now

/-- A URL with everything that one of the steps treats in its own way. -/
def trickyUrl : Url where
  chars := "a+b%41&url= é\\x'?".toList
  notEmpty := by decide
  nulFree := by decide
  trimmed := by decide

example :
    otaArguments (handleOTADownload trickyUrl.chars none [1, 2]) =
      [ascii "download", utf8 trickyUrl.chars] := by
  decide +kernel

end RecomputerGateway.OtaStart
