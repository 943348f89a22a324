import RecomputerGateway.CText

namespace RecomputerGateway.AtTokens

open CText Hexadecimal

/-!
# The tokens of an AT response

`at_tok.c` takes a line of a response apart at its commas, with blanks before
a token and with tokens between quotes.  The cursor into the line is the text
from there on, and it is null once the last token has been taken.
-/

abbrev Cursor := Option Text

/-- What a function of `at_tok.c` returns, stores and leaves. -/
structure Taken (Out : Type) where
  failed : Bool
  out : Option Out
  cur : Cursor
  deriving DecidableEq

def Taken.map
    {Out Result : Type}
    (taken : Taken Out)
    (result : Out → Result) :
    Taken Result :=
  ⟨taken.failed, taken.out.map result, taken.cur⟩

/-- `at_tok_start`: the cursor is null if the line has no prefix. -/
def atTokStart (cur : Cursor) : Cursor :=
  cur.bind fun text => (strsep 58#8 text).2

def skipWhiteSpace (text : Text) : Text :=
  text.dropWhile isSpace

def skipNextComma (text : Text) : Text :=
  (strsep 44#8 text).2.getD []

def nextTok : Cursor → Option Text × Cursor
  | none => (none, none)
  | some text =>
      match skipWhiteSpace text with
      | [] => (some [], none)
      | char :: rest =>
          if char = 34#8 then
            (some (strsep 34#8 rest).1,
              (strsep 34#8 rest).2.map skipNextComma)
          else
            (some (strsep 44#8 (char :: rest)).1,
              (strsep 44#8 (char :: rest)).2)

/-- A number that cannot be converted is stored as zero. -/
def atTokNextintBase (cur : Cursor) (base : Nat) (uns : Bool) : Taken Int :=
  match cur, nextTok cur with
  | none, _ => ⟨true, none, none⟩
  | some _, (none, next) => ⟨true, none, next⟩
  | some _, (some token, next) =>
      match if uns then strtoul? base token else strtol? base token with
      | some value => ⟨false, some (toInt value), next⟩
      | none => ⟨true, some 0, next⟩

def atTokNextint (cur : Cursor) : Taken Int := atTokNextintBase cur 10 false

def atTokNexthexint (cur : Cursor) : Taken Int := atTokNextintBase cur 16 true

def atTokNextbool (cur : Cursor) : Taken Bool :=
  let result := atTokNextint cur
  if result.failed then ⟨true, none, result.cur⟩
  else
    match result.out with
    | some 0 => ⟨false, some false, result.cur⟩
    | some 1 => ⟨false, some true, result.cur⟩
    | _ => ⟨true, none, result.cur⟩

def atTokNextstr (cur : Cursor) : Taken Text :=
  match cur with
  | none => ⟨true, none, none⟩
  | some _ => ⟨false, (nextTok cur).1, (nextTok cur).2⟩

/-- `at_tok_hasmore`. -/
def atTokHasmore : Cursor → Bool
  | none => false
  | some [] => false
  | some (_ :: _) => true

/-- `at_tok_count`: the commas of a line. -/
def atTokCount (line : Text) : Nat := line.count 44#8

/-- What a conversion stores at its destination. -/
inductive Stored where
  | int (value : Int)
  | bool (value : Bool)
  | str (value : Text)
  deriving DecidableEq

/-- One conversion of `at_tok_scanf`, by its letter. -/
def convert (letter : Byte) (cur : Cursor) : Taken Stored :=
  if letter = 100#8 then (atTokNextint cur).map .int
  else if letter = 120#8 then (atTokNexthexint cur).map .int
  else if letter = 98#8 then (atTokNextbool cur).map .bool
  else if letter = 115#8 then (atTokNextstr cur).map .str
  else ⟨true, none, cur⟩

/-- The count that `at_tok_scanf` returns, and what each conversion stores. -/
structure Scanned where
  count : Nat
  stored : List (Option Stored)
  deriving DecidableEq

/-- Nothing more is converted. -/
def Scanned.stop : Scanned := ⟨0, []⟩

/-- A conversion is counted, and the next ones follow. -/
def Scanned.take (stored : Option Stored) (later : Scanned) : Scanned :=
  ⟨later.count + 1, stored :: later.stored⟩

/-- What follows a dash that stands for a token. -/
def afterDash : Cursor → Option Text
  | some (dash :: comma :: rest) =>
      if dash = 45#8 ∧ comma = 44#8 then some rest else none
  | _ => none

/-- The loop over the format. -/
def scanLoop : Text → Cursor → Scanned
  | [], _ => .stop
  | [_], _ => .stop
  | char :: letter :: format, cur =>
      if char = 44#8 ∨ char = 32#8 then scanLoop (letter :: format) cur
      else if char ≠ 37#8 then .stop
      else if atTokHasmore cur then
        match afterDash cur with
        | some rest =>
            .take (if letter = 100#8 then some (.int (-1)) else none)
              (scanLoop format (some rest))
        | none =>
            let taken := convert letter cur
            if taken.failed then ⟨0, [taken.out]⟩
            else .take taken.out (scanLoop format taken.cur)
      else .stop

/-- `at_tok_scanf`, with the line in its static buffer of 1024 bytes. -/
def atTokScanf (inLine : Cursor) (fmt : Text) : Scanned :=
  match inLine with
  | none => .stop
  | some line =>
      match atTokStart (some (line.take 1023)) with
      | none => .stop
      | some rest => scanLoop fmt (some rest)

/-- What stands between two commas of a response. -/
inductive Field where
  /-- A dash for what the modem does not know. -/
  | missing
  | bare (blanks content : Text)
  | quoted (blanks content rest : Text)
  deriving DecidableEq

namespace Field

def text : Field → Text
  | missing => [45#8]
  | bare blanks content => blanks ++ content
  | quoted blanks content rest =>
      blanks ++ 34#8 :: (content ++ 34#8 :: rest)

def content : Field → Text
  | missing => [45#8]
  | bare _ content => content
  | quoted _ content _ => content

/--
Only a token between quotes has commas, and a token without quotes begins
neither with a blank nor with a quote and is not a mere dash.
-/
def WellFormed : Field → Prop
  | missing => True
  | bare blanks content =>
      (∀ char ∈ blanks, isSpace char = true) ∧ 44#8 ∉ content ∧
        (∀ char ∈ content.head?, isSpace char = false ∧ char ≠ 34#8) ∧
        blanks ++ content ≠ [45#8]
  | quoted blanks content rest =>
      (∀ char ∈ blanks, isSpace char = true) ∧ 34#8 ∉ content ∧
        44#8 ∉ rest

end Field

/-- The fields between commas, and what follows the last one. -/
def fieldsText : List Field → Text → Text
  | [], rest => rest
  | [field], rest => field.text ++ rest
  | field :: next :: fields, rest =>
      field.text ++ 44#8 :: fieldsText (next :: fields) rest

theorem comma_not_mem_blanks
    {blanks : Text}
    (blank : ∀ char ∈ blanks, isSpace char = true) :
    44#8 ∉ blanks :=
  fun member => (nomatch blank _ member)

/-- Blanks before a token are skipped. -/
theorem skipWhiteSpace_append
    {blanks : Text}
    (blank : ∀ char ∈ blanks, isSpace char = true)
    {text : Text}
    (starts : ∀ char ∈ text.head?, isSpace char = false) :
    skipWhiteSpace (blanks ++ text) = text := by
  rw [skipWhiteSpace, List.dropWhile_append_of_pos blank]
  cases text with
  | nil => rfl
  | cons char text =>
      have notBlank : ¬isSpace char = true :=
        Bool.eq_false_iff.mp (starts char rfl)
      exact List.dropWhile_cons_of_neg notBlank

/-- A token without quotes ends where `strsep` says. -/
theorem nextTok_bare
    {blanks text : Text}
    (blank : ∀ char ∈ blanks, isSpace char = true)
    (starts : ∀ char ∈ text.head?, isSpace char = false ∧ char ≠ 34#8) :
    nextTok (some (blanks ++ text)) =
      (some (strsep 44#8 text).1, (strsep 44#8 text).2) := by
  have skipped :=
    skipWhiteSpace_append blank fun char first => (starts char first).1
  unfold nextTok
  dsimp only
  rw [skipped]
  cases text with
  | nil => rfl
  | cons char text => exact if_neg (starts char rfl).2

/-- A token between quotes ends at the second one. -/
theorem nextTok_quoted
    {blanks content : Text}
    (rest : Text)
    (blank : ∀ char ∈ blanks, isSpace char = true)
    (free : 34#8 ∉ content) :
    nextTok (some (blanks ++ 34#8 :: (content ++ 34#8 :: rest))) =
      (some content, some (skipNextComma rest)) := by
  have skipped :
      skipWhiteSpace (blanks ++ 34#8 :: (content ++ 34#8 :: rest)) =
        34#8 :: (content ++ 34#8 :: rest) :=
    skipWhiteSpace_append blank fun char first => by
      cases first
      rfl
  unfold nextTok
  dsimp only
  rw [skipped]
  dsimp only
  rw [if_pos rfl, strsep_append rest free]
  rfl

namespace Field

/-- A field is taken with the comma behind it. -/
theorem nextTok_comma
    {field : Field}
    (wellFormed : field.WellFormed)
    (known : field ≠ .missing)
    (rest : Text) :
    nextTok (some (field.text ++ 44#8 :: rest)) =
      (some field.content, some rest) := by
  cases field with
  | missing => exact absurd rfl known
  | bare blanks content =>
      obtain ⟨blank, noComma, starts, -⟩ := wellFormed
      have startsBare :
          ∀ char ∈ (content ++ 44#8 :: rest).head?,
            isSpace char = false ∧ char ≠ 34#8 := by
        cases content with
        | nil =>
            intro char first
            cases first
            decide
        | cons head content => exact starts
      rw [text, Field.content, List.append_assoc,
        nextTok_bare blank startsBare, strsep_append rest noComma]
  | quoted blanks content behind =>
      obtain ⟨blank, noQuote, noComma⟩ := wellFormed
      have shape :
          (quoted blanks content behind).text ++ 44#8 :: rest =
            blanks ++ 34#8 ::
              (content ++ 34#8 :: (behind ++ 44#8 :: rest)) := by
        simp only [text, List.append_assoc, List.cons_append]
      rw [shape, nextTok_quoted _ blank noQuote, skipNextComma,
        strsep_append rest noComma]
      rfl

/-- Nothing is left behind the last field. -/
theorem nextTok_end
    {field : Field}
    (wellFormed : field.WellFormed)
    (known : field ≠ .missing) :
    ∃ cur,
      nextTok (some field.text) = (some field.content, cur) ∧
        atTokHasmore cur = false := by
  cases field with
  | missing => exact absurd rfl known
  | bare blanks content =>
      obtain ⟨blank, noComma, starts, -⟩ := wellFormed
      refine ⟨none, ?_, rfl⟩
      rw [text, Field.content, nextTok_bare blank starts,
        strsep_of_not_mem noComma]
  | quoted blanks content behind =>
      obtain ⟨blank, noQuote, noComma⟩ := wellFormed
      refine ⟨some [], ?_, rfl⟩
      rw [text, Field.content, nextTok_quoted _ blank noQuote, skipNextComma,
        strsep_of_not_mem noComma]
      rfl

/-- A field that is known is not taken for a dash. -/
theorem afterDash_none
    (field : Field)
    (wellFormed : field.WellFormed)
    (known : field ≠ .missing)
    (rest : Text)
    (follows : ∀ char ∈ rest.head?, char = 44#8) :
    afterDash (some (field.text ++ rest)) = none := by
  have notDash :
      ∀ char tail, char ≠ 45#8 → afterDash (some (char :: tail)) = none := by
    intro char tail other
    cases tail with
    | nil => rfl
    | cons second tail => exact if_neg fun both => other both.1
  cases field with
  | missing => exact absurd rfl known
  | bare blanks content =>
      obtain ⟨blank, noComma, -, notMissing⟩ := wellFormed
      have free : 44#8 ∉ blanks ++ content := by
        rw [List.mem_append]
        exact not_or.mpr ⟨comma_not_mem_blanks blank, noComma⟩
      change afterDash (some (blanks ++ content ++ rest)) = none
      match shape : blanks ++ content with
      | [] =>
          cases rest with
          | nil => rfl
          | cons char rest =>
              refine notDash char rest ?_
              rw [follows char rfl]
              decide
      | [char] =>
          refine notDash char rest ?_
          rintro rfl
          exact notMissing shape
      | first :: second :: tail =>
          have notComma : second ≠ 44#8 := by
            rintro rfl
            rw [shape] at free
            exact free (.tail first (.head tail))
          exact if_neg fun both => notComma both.2
  | quoted blanks content behind =>
      obtain ⟨blank, -, -⟩ := wellFormed
      cases blanks with
      | nil => exact notDash _ _ (by decide)
      | cons char blanks =>
          refine notDash char _ ?_
          rintro rfl
          exact nomatch blank 45#8 (.head blanks)

end Field

/-- The conversions of a format. -/
inductive Conversion where
  | int
  | hex
  | bool
  | str
  deriving DecidableEq

def Conversion.letter : Conversion → Byte
  | int => 100#8
  | hex => 120#8
  | bool => 98#8
  | str => 115#8

/-- What a conversion stores for a token, when that is what the modem means. -/
inductive Denotes : Conversion → Text → Stored → Prop where
  | int
      {value : Int}
      (lower : -2147483648 ≤ value)
      (upper : value ≤ 2147483647) :
      Denotes .int (printDecimal value) (.int value)
  | hex
      {value : Nat}
      (padding : Nat)
      (upper : value ≤ 4294967295) :
      Denotes .hex (printHex padding value) (.int (toInt value))
  | bool (value : Bool) :
      Denotes .bool (printDecimal (if value then 1 else 0)) (.bool value)
  | str (token : Text) : Denotes .str token (.str token)

theorem atTokNextintBase_some
    {text token : Text}
    {next : Cursor}
    {base : Nat}
    {uns : Bool}
    {value : Int}
    (taken : nextTok (some text) = (some token, next))
    (converted :
      (if uns = true then strtoul? base token else strtol? base token) =
        some value) :
    atTokNextintBase (some text) base uns =
      ⟨false, some (toInt value), next⟩ := by
  unfold atTokNextintBase
  rw [taken]
  dsimp only
  rw [converted]

theorem atTokNextint_printDecimal
    {text : Text}
    {next : Cursor}
    {value : Int}
    (lower : -2147483648 ≤ value)
    (upper : value ≤ 2147483647)
    (taken : nextTok (some text) = (some (printDecimal value), next)) :
    atTokNextint (some text) = ⟨false, some value, next⟩ := by
  have converted :
      (if false = true then strtoul? 10 (printDecimal value)
        else strtol? 10 (printDecimal value)) = some value :=
    strtol?_printDecimal
      (Int.le_trans (by decide) lower) (Int.le_trans upper (by decide))
  rw [atTokNextint, atTokNextintBase_some taken converted,
    toInt_of_range lower upper]

theorem atTokNexthexint_printHex
    {text : Text}
    {next : Cursor}
    {padding value : Nat}
    (upper : value ≤ 4294967295)
    (taken :
      nextTok (some text) = (some (printHex padding value), next)) :
    atTokNexthexint (some text) = ⟨false, some (toInt value), next⟩ := by
  have converted :
      (if true = true then strtoul? 16 (printHex padding value)
        else strtol? 16 (printHex padding value)) = some (value : Int) :=
    strtoul?_printHex padding (Nat.le_trans upper (by decide))
  exact atTokNextintBase_some taken converted

/-- A token is converted to what it denotes. -/
theorem Denotes.convert
    {conversion : Conversion}
    {text token : Text}
    {stored : Stored}
    {next : Cursor}
    (denotes : Denotes conversion token stored)
    (taken : nextTok (some text) = (some token, next)) :
    convert conversion.letter (some text) = ⟨false, some stored, next⟩ := by
  cases denotes with
  | int lower upper =>
      exact
        congrArg (Taken.map · Stored.int)
          (atTokNextint_printDecimal lower upper taken)
  | hex padding upper =>
      exact
        congrArg (Taken.map · Stored.int)
          (atTokNexthexint_printHex upper taken)
  | bool value =>
      have isInt :
          atTokNextint (some text) =
            ⟨false, some (if value then 1 else 0), next⟩ :=
        atTokNextint_printDecimal
          (by cases value <;> decide) (by cases value <;> decide) taken
      have isBool : atTokNextbool (some text) = ⟨false, some value, next⟩ := by
        rw [atTokNextbool, isInt]
        cases value with
        | false => rfl
        | true => rfl
      exact congrArg (Taken.map · Stored.bool) isBool
  | str token =>
      have isStr : atTokNextstr (some text) = ⟨false, some token, next⟩ := by
        rw [atTokNextstr, taken]
      exact congrArg (Taken.map · Stored.str) isStr

/-- A conversion, the field it is for, and what it stores. -/
structure Item where
  separators : Text
  conversion : Conversion
  field : Field
  stored : Option Stored
  separated : ∀ char ∈ separators, char = 44#8 ∨ char = 32#8
  wellFormed : field.WellFormed
  missing :
    field = .missing →
      stored = if conversion = .int then some (.int (-1)) else none
  denotes :
    field ≠ .missing →
      ∃ value, stored = some value ∧ Denotes conversion field.content value

/-- The part of the format that is for an item. -/
def Item.directive (item : Item) : Text :=
  item.separators ++ [37#8, item.conversion.letter]

def formatText (items : List Item) : Text := items.flatMap Item.directive

theorem scanLoop_of_no_more
    {cur : Cursor}
    (noMore : atTokHasmore cur = false)
    (format : Text) :
    scanLoop format cur = .stop := by
  induction format with
  | nil => rfl
  | cons char format inductionHypothesis =>
      cases format with
      | nil => rfl
      | cons letter format =>
          rw [scanLoop]
          split
          · exact inductionHypothesis
          · split
            · rfl
            · rw [noMore]
              rfl

/-- Commas and spaces in a format are skipped. -/
theorem scanLoop_separators
    {separators : Text}
    (separated : ∀ char ∈ separators, char = 44#8 ∨ char = 32#8)
    (letter : Byte)
    (format : Text)
    (cur : Cursor) :
    scanLoop (separators ++ 37#8 :: letter :: format) cur =
      scanLoop (37#8 :: letter :: format) cur := by
  induction separators with
  | nil => rfl
  | cons char separators inductionHypothesis =>
      have later :=
        inductionHypothesis fun other member =>
          separated other (.tail char member)
      rw [← later]
      cases separators with
      | nil => exact if_pos (separated char (.head []))
      | cons second separators =>
          exact if_pos (separated char (.head (second :: separators)))

/-- A dash is taken for minus one, or not taken at all. -/
theorem scanLoop_missing
    (item : Item)
    (isMissing : item.field = .missing)
    (format rest : Text) :
    scanLoop (item.directive ++ format)
        (some (item.field.text ++ 44#8 :: rest)) =
      .take item.stored (scanLoop format (some rest)) := by
  have isDash :
      (if item.conversion.letter = 100#8 then some (Stored.int (-1))
        else none) = item.stored := by
    rw [item.missing isMissing]
    cases item.conversion <;> rfl
  rw [Item.directive, List.append_assoc]
  change
    scanLoop (item.separators ++ 37#8 :: item.conversion.letter :: format)
      _ = _
  rw [scanLoop_separators item.separated, isMissing, ← isDash]
  rfl

/-- What a conversion of a known field does to the scan. -/
theorem scanLoop_field
    {separators : Text}
    (separated : ∀ char ∈ separators, char = 44#8 ∨ char = 32#8)
    {field : Field}
    (wellFormed : field.WellFormed)
    (known : field ≠ .missing)
    (letter : Byte)
    (format : Text)
    {behind : Text}
    (more : atTokHasmore (some (field.text ++ behind)) = true)
    (follows : ∀ char ∈ behind.head?, char = 44#8) :
    scanLoop (separators ++ 37#8 :: letter :: format)
        (some (field.text ++ behind)) =
      (let taken := convert letter (some (field.text ++ behind))
        if taken.failed then ⟨0, [taken.out]⟩
        else .take taken.out (scanLoop format taken.cur)) := by
  rw [scanLoop_separators separated, scanLoop, if_neg (by decide),
    if_neg (by decide), if_pos more,
    field.afterDash_none wellFormed known behind follows]

/-- A known field is converted, and the scan goes on behind it. -/
theorem scanLoop_known
    (item : Item)
    (known : item.field ≠ .missing)
    (format : Text)
    {behind : Text}
    {next : Cursor}
    (more : atTokHasmore (some (item.field.text ++ behind)) = true)
    (follows : ∀ char ∈ behind.head?, char = 44#8)
    (taken :
      nextTok (some (item.field.text ++ behind)) =
        (some item.field.content, next)) :
    scanLoop (item.directive ++ format)
        (some (item.field.text ++ behind)) =
      .take item.stored (scanLoop format next) := by
  obtain ⟨value, isStored, denotes⟩ := item.denotes known
  rw [Item.directive, List.append_assoc]
  change
    scanLoop (item.separators ++ 37#8 :: item.conversion.letter :: format)
      _ = _
  rw [scanLoop_field item.separated item.wellFormed known _ format more
    follows, denotes.convert taken, isStored]
  rfl

theorem atTokHasmore_comma (text rest : Text) :
    atTokHasmore (some (text ++ 44#8 :: rest)) = true := by
  cases text with
  | nil => rfl
  | cons char text => rfl

/-- An item with a comma behind it. -/
theorem scanLoop_comma
    (item : Item)
    (format rest : Text) :
    scanLoop (item.directive ++ format)
        (some (item.field.text ++ 44#8 :: rest)) =
      .take item.stored (scanLoop format (some rest)) := by
  by_cases isMissing : item.field = .missing
  · exact scanLoop_missing item isMissing format rest
  · refine scanLoop_known item isMissing format ?_ ?_ ?_
    · exact atTokHasmore_comma item.field.text rest
    · intro char first
      cases first
      rfl
    · exact Field.nextTok_comma item.wellFormed isMissing rest

/-- The last item of a line is neither a dash nor empty. -/
def LastReadable (items : List Item) : Prop :=
  ∀ item ∈ items.getLast?,
    item.field ≠ .missing ∧ item.field.text ≠ []

theorem LastReadable.of_getLast?
    {items : List Item}
    {item : Item}
    (isLast : items.getLast? = some item)
    (known : item.field ≠ .missing)
    (nonempty : item.field.text ≠ []) :
    LastReadable items := by
  intro other isOther
  rw [← Option.some.inj (isLast.symm.trans isOther)]
  exact ⟨known, nonempty⟩

/-- The last item of a line. -/
theorem scanLoop_end
    (item : Item)
    (known : item.field ≠ .missing)
    (nonempty : item.field.text ≠ [])
    (format : Text) :
    scanLoop (item.directive ++ format) (some item.field.text) =
      .take item.stored .stop := by
  obtain ⟨next, taken, noMore⟩ :=
    Field.nextTok_end item.wellFormed known
  have more : atTokHasmore (some (item.field.text ++ [])) = true := by
    obtain ⟨char, text, shape⟩ := List.exists_cons_of_ne_nil nonempty
    rw [List.append_nil, shape]
    rfl
  have step :=
    scanLoop_known item known format more
      (fun char first => (nomatch first))
      (by rw [List.append_nil]; exact taken)
  rwa [List.append_nil, scanLoop_of_no_more noMore] at step

/-- What the items are scanned as. -/
def scannedItems (items : List Item) : Scanned :=
  ⟨items.length, items.map Item.stored⟩

/-- Items with something behind the last one, for which no format is left. -/
theorem scanLoop_items_comma
    (items : List Item)
    (rest : Text) :
    scanLoop (formatText items)
        (some (fieldsText (items.map Item.field) (44#8 :: rest))) =
      scannedItems items := by
  induction items with
  | nil => rfl
  | cons item items inductionHypothesis =>
      have shape :
          formatText (item :: items) = item.directive ++ formatText items :=
        List.flatMap_cons
      rw [shape]
      cases items with
      | nil =>
          exact (scanLoop_comma item [] rest).trans rfl
      | cons next items =>
          exact
            (scanLoop_comma item _ _).trans
              (congrArg (Scanned.take item.stored) inductionHypothesis)

/-- Items with nothing behind the last one, whatever format is left. -/
theorem scanLoop_items_end
    (items : List Item)
    (readable : LastReadable items)
    (more : Text) :
    scanLoop (formatText items ++ more)
        (some (fieldsText (items.map Item.field) [])) =
      scannedItems items := by
  induction items with
  | nil => exact scanLoop_of_no_more rfl more
  | cons item items inductionHypothesis =>
      have shape :
          formatText (item :: items) ++ more =
            item.directive ++ (formatText items ++ more) := by
        rw [formatText, List.flatMap_cons, List.append_assoc]
        rfl
      rw [shape]
      cases items with
      | nil =>
          obtain ⟨known, nonempty⟩ := readable item rfl
          change
            scanLoop (item.directive ++ more)
              (some (item.field.text ++ [])) = _
          rw [List.append_nil]
          exact scanLoop_end item known nonempty more
      | cons next items =>
          exact
            (scanLoop_comma item _ _).trans
              (congrArg (Scanned.take item.stored)
                (inductionHypothesis readable))

/-- Fields with a comma behind each, and what follows the last comma. -/
def fieldsBefore (fields : List Field) (rest : Text) : Text :=
  fields.foldr (fun field later => field.text ++ 44#8 :: later) rest

/-- Items are scanned, and then what follows their last comma. -/
theorem scanLoop_items_before
    (items : List Item)
    (format rest : Text) :
    scanLoop (formatText items ++ format)
        (some (fieldsBefore (items.map Item.field) rest)) =
      ⟨items.length + (scanLoop format (some rest)).count,
        items.map Item.stored ++ (scanLoop format (some rest)).stored⟩ := by
  induction items with
  | nil => exact congrArg (Scanned.mk · _) (Nat.zero_add _).symm
  | cons item items inductionHypothesis =>
      have shape :
          formatText (item :: items) ++ format =
            item.directive ++ (formatText items ++ format) := by
        rw [formatText, List.flatMap_cons, List.append_assoc]
        rfl
      have step :=
        scanLoop_comma item (formatText items ++ format)
          (fieldsBefore (items.map Item.field) rest)
      rw [shape]
      refine step.trans ?_
      rw [inductionHypothesis, Scanned.take, List.length_cons,
        Nat.add_right_comm]
      rfl

/--
A dash that does not stand for a token, since there are blanks before it or
there is no comma behind it, where a number or a boolean is asked for.
-/
structure StrayDash where
  separators : Text
  conversion : Conversion
  blanks : Text
  behind : Text
  separated : ∀ char ∈ separators, char = 44#8 ∨ char = 32#8
  noText : conversion ≠ .str
  blank : ∀ char ∈ blanks, isSpace char = true
  follows : behind = [] ∨ ∃ tail, behind = 44#8 :: tail
  stray : blanks ≠ [] ∨ behind = []

namespace StrayDash

def text (dash : StrayDash) : Text :=
  dash.blanks ++ 45#8 :: dash.behind

def directive (dash : StrayDash) : Text :=
  dash.separators ++ [37#8, dash.conversion.letter]

/-- What is stored before the conversion fails. -/
def stored (dash : StrayDash) : Option Stored :=
  if dash.conversion = .bool then none else some (.int 0)

theorem afterDash_none (dash : StrayDash) :
    afterDash (some dash.text) = none := by
  rw [text]
  cases isBlank : dash.blanks with
  | nil =>
      rw [dash.stray.resolve_left (not_not.mpr isBlank)]
      rfl
  | cons char blanks =>
      have isSpace : isSpace char = true := by
        refine dash.blank char ?_
        rw [isBlank]
        exact .head blanks
      have notDash : char ≠ 45#8 := by
        rintro rfl
        exact nomatch isSpace
      cases blanks with
      | nil => exact if_neg fun both => notDash both.1
      | cons second blanks => exact if_neg fun both => notDash both.1

/-- The dash itself is taken for the token. -/
theorem nextTok_text (dash : StrayDash) :
    ∃ next, nextTok (some dash.text) = (some [45#8], next) := by
  have starts :
      ∀ char ∈ (45#8 :: dash.behind).head?,
        isSpace char = false ∧ char ≠ 34#8 := by
    intro char first
    obtain rfl := Option.some.inj first
    decide
  have free : 44#8 ∉ ([45#8] : Text) := by decide
  rw [text, nextTok_bare dash.blank starts]
  rcases dash.follows with isLast | ⟨tail, hasComma⟩
  · rw [isLast, strsep_of_not_mem free]
    exact ⟨none, rfl⟩
  · have separates := strsep_append tail free
    rw [List.singleton_append] at separates
    rw [hasComma, separates]
    exact ⟨some tail, rfl⟩

/-- No number can be made of it. -/
theorem convert_fails (dash : StrayDash) :
    ∃ next,
      convert dash.conversion.letter (some dash.text) =
        ⟨true, dash.stored, next⟩ := by
  obtain ⟨next, taken⟩ := dash.nextTok_text
  have isInt : atTokNextint (some dash.text) = ⟨true, some 0, next⟩ := by
    unfold atTokNextint atTokNextintBase
    rw [taken]
    rfl
  have isHex : atTokNexthexint (some dash.text) = ⟨true, some 0, next⟩ := by
    unfold atTokNexthexint atTokNextintBase
    rw [taken]
    rfl
  have isBool : atTokNextbool (some dash.text) = ⟨true, none, next⟩ := by
    rw [atTokNextbool, isInt]
    rfl
  refine ⟨next, ?_⟩
  rw [stored]
  cases isConversion : dash.conversion with
  | int => exact congrArg (Taken.map · Stored.int) isInt
  | hex => exact congrArg (Taken.map · Stored.int) isHex
  | bool => exact congrArg (Taken.map · Stored.bool) isBool
  | str => exact absurd isConversion dash.noText

/-- The scan ends there. -/
theorem scanLoop_text (dash : StrayDash) (more : Text) :
    scanLoop (dash.directive ++ more) (some dash.text) =
      ⟨0, [dash.stored]⟩ := by
  have isMore : atTokHasmore (some dash.text) = true := by
    rw [text]
    cases dash.blanks with
    | nil => rfl
    | cons char blanks => rfl
  obtain ⟨next, fails⟩ := dash.convert_fails
  rw [directive, List.append_assoc]
  change
    scanLoop (dash.separators ++ 37#8 :: dash.conversion.letter :: more)
      _ = _
  rw [scanLoop_separators dash.separated, scanLoop, if_neg (by decide),
    if_neg (by decide), if_pos isMore, dash.afterDash_none]
  dsimp only
  rw [fails]
  rfl

end StrayDash

/-- How a number is laid out: with or without quotes, behind blanks. -/
structure Layout where
  quoted : Bool
  blanks : Text
  blank : ∀ char ∈ blanks, isSpace char = true

namespace Layout

/-- A number without blanks before it. -/
def plain : Layout := ⟨false, [], List.forall_mem_nil _⟩

/-- A number behind a space. -/
def spaced : Layout := ⟨false, [32#8], List.forall_mem_singleton.mpr rfl⟩

def quotes : Layout := ⟨true, [], List.forall_mem_nil _⟩

def field (layout : Layout) (content : Text) : Field :=
  if layout.quoted then .quoted layout.blanks content []
  else .bare layout.blanks content

@[simp] theorem field_content (layout : Layout) (content : Text) :
    (layout.field content).content = content := by
  unfold field
  split <;> rfl

theorem field_ne_missing (layout : Layout) (content : Text) :
    layout.field content ≠ .missing := by
  unfold field
  split <;> exact fun same => (nomatch same)

theorem field_text_ne_nil
    (layout : Layout)
    {content : Text}
    (nonempty : content ≠ []) :
    (layout.field content).text ≠ [] := by
  unfold field
  split
  · exact List.append_ne_nil_of_right_ne_nil _ (List.cons_ne_nil _ _)
  · exact List.append_ne_nil_of_right_ne_nil _ nonempty

/-- What has the characters of a number is a field. -/
theorem field_wellFormed
    (layout : Layout)
    {content : Text}
    (chars : ∀ char ∈ content, 45 ≤ char.toNat ∧ char.toNat ≤ 70)
    (nonempty : content ≠ [])
    (notDash : content ≠ [45#8]) :
    (layout.field content).WellFormed := by
  have free : ∀ char : Byte, char.toNat < 45 → char ∉ content :=
    fun char low member => Nat.not_le_of_lt low (chars char member).1
  unfold field
  split
  · exact
      ⟨layout.blank, free 34#8 (by decide), List.not_mem_nil⟩
  · refine ⟨layout.blank, free 44#8 (by decide), ?_, ?_⟩
    · intro char first
      have member := List.mem_of_head? first
      obtain ⟨low, high⟩ := chars char member
      refine ⟨decide_eq_false (by omega), ?_⟩
      rintro rfl
      exact free 34#8 (by decide) member
    · intro same
      rcases List.append_eq_singleton_iff.mp same with
        ⟨-, isDash⟩ | ⟨-, isEmpty⟩
      · exact notDash isDash
      · exact nonempty isEmpty

end Layout

theorem printDecimal_ne_nil (value : Int) : printDecimal value ≠ [] := by
  unfold printDecimal
  split
  · exact List.cons_ne_nil _ _
  · exact printNat_ne_nil 10 value.natAbs

theorem printDecimal_ne_dash (value : Int) :
    printDecimal value ≠ [45#8] := by
  intro same
  unfold printDecimal at same
  split at same
  · exact printNat_ne_nil 10 value.natAbs (List.cons_inj_right _ |>.mp same)
  · have member : 45#8 ∈ printNat 10 value.natAbs := by
      rw [same]
      exact .head []
    have bounds := printNat_chars (by decide) (by decide) member
    exact absurd bounds.1 (by decide)

theorem printHex_ne_nil (padding value : Nat) :
    printHex padding value ≠ [] :=
  List.append_ne_nil_of_right_ne_nil _ (printNat_ne_nil 16 value)

theorem printHex_ne_dash (padding value : Nat) :
    printHex padding value ≠ [45#8] := by
  intro same
  have member : 45#8 ∈ printHex padding value := by
    rw [same]
    exact .head []
  exact absurd (printHex_chars member).1 (by decide)

namespace Item

/-- A decimal number. -/
def ofInt
    (layout : Layout)
    (value : Int)
    (lower : -2147483648 ≤ value)
    (upper : value ≤ 2147483647) : Item where
  separators := []
  conversion := .int
  field := layout.field (printDecimal value)
  stored := some (.int value)
  separated := List.forall_mem_nil _
  wellFormed :=
    layout.field_wellFormed (fun _ member => printDecimal_chars member)
      (printDecimal_ne_nil value) (printDecimal_ne_dash value)
  missing isMissing := absurd isMissing (layout.field_ne_missing _)
  denotes _ :=
    ⟨_, rfl, by rw [Layout.field_content]; exact .int lower upper⟩

/-- A hexadecimal number, with zeros before it. -/
def ofHex
    (layout : Layout)
    (padding value : Nat)
    (upper : value ≤ 4294967295) : Item where
  separators := []
  conversion := .hex
  field := layout.field (printHex padding value)
  stored := some (.int (toInt value))
  separated := List.forall_mem_nil _
  wellFormed :=
    layout.field_wellFormed
      (fun _ member =>
        have bounds := printHex_chars member
        ⟨Nat.le_trans (by decide) bounds.1, bounds.2⟩)
      (printHex_ne_nil padding value) (printHex_ne_dash padding value)
  missing isMissing := absurd isMissing (layout.field_ne_missing _)
  denotes _ :=
    ⟨_, rfl, by rw [Layout.field_content]; exact .hex padding upper⟩

/-- What the modem does not know. -/
def ofMissing (conversion : Conversion) : Item where
  separators := []
  conversion := conversion
  field := .missing
  stored := if conversion = .int then some (.int (-1)) else none
  separated := List.forall_mem_nil _
  wellFormed := trivial
  missing _ := rfl
  denotes known := absurd rfl known

/-- A text between quotes. -/
def ofQuoted (content : Text) (free : 34#8 ∉ content) : Item where
  separators := []
  conversion := .str
  field := .quoted [] content []
  stored := some (.str content)
  separated := List.forall_mem_nil _
  wellFormed := ⟨List.forall_mem_nil _, free, List.not_mem_nil⟩
  missing isMissing := nomatch isMissing
  denotes _ := ⟨_, rfl, .str content⟩

end Item

theorem LastReadable.ofInt
    {items : List Item}
    {layout : Layout}
    {value : Int}
    (lower : -2147483648 ≤ value)
    (upper : value ≤ 2147483647)
    (isLast :
      items.getLast? = some (Item.ofInt layout value lower upper)) :
    LastReadable items :=
  .of_getLast? isLast (layout.field_ne_missing _)
    (layout.field_text_ne_nil (printDecimal_ne_nil value))

theorem LastReadable.ofHex
    {items : List Item}
    {layout : Layout}
    {padding value : Nat}
    (upper : value ≤ 4294967295)
    (isLast :
      items.getLast? = some (Item.ofHex layout padding value upper)) :
    LastReadable items :=
  .of_getLast? isLast (layout.field_ne_missing _)
    (layout.field_text_ne_nil (printHex_ne_nil padding value))

/-- The bytes of a text in ASCII. -/
def ascii (text : String) : Text :=
  text.toList.map fun char => BitVec.ofNat 8 char.toNat

/-- The scan begins behind the colon of a line that fits the buffer. -/
theorem atTokScanf_line
    {responsePrefix text : Text}
    (noColon : 58#8 ∉ responsePrefix)
    (short : (responsePrefix ++ 58#8 :: text).length ≤ 1023)
    (format : Text) :
    atTokScanf (some (responsePrefix ++ 58#8 :: text)) format =
      scanLoop format (some text) := by
  have whole :
      atTokStart (some ((responsePrefix ++ 58#8 :: text).take 1023)) =
        some text := by
    rw [List.take_of_length_le short, atTokStart, Option.bind_some,
      strsep_append _ noColon]
  unfold atTokScanf
  dsimp only
  rw [whole]

/--
`at_tok_scanf` stores what every item of a response denotes and counts the
items, whatever blanks stand before the tokens, whichever of them are between
quotes, and whether the line or the format ends first.  It ends before an
empty token at the end of the line, and at a dash in place of a number that
has blanks before it or no comma behind it.
-/
theorem atTokScanf_reads_items
    (responsePrefix : Text)
    (items : List Item)
    (noColon : 58#8 ∉ responsePrefix) :
    (∀ more rest,
        (responsePrefix ++
            58#8 :: fieldsText (items.map Item.field) rest).length ≤ 1023 →
          (rest = [] ∧ LastReadable items ∨
            more = [] ∧ ∃ tail, rest = 44#8 :: tail) →
            atTokScanf
                (some
                  (responsePrefix ++
                    58#8 :: fieldsText (items.map Item.field) rest))
                (formatText items ++ more) =
              ⟨items.length, items.map Item.stored⟩) ∧
      (∀ more,
        (responsePrefix ++
            58#8 :: fieldsBefore (items.map Item.field) []).length ≤ 1023 →
          atTokScanf
              (some
                (responsePrefix ++
                  58#8 :: fieldsBefore (items.map Item.field) []))
              (formatText items ++ more) =
            ⟨items.length, items.map Item.stored⟩) ∧
      ∀ (dash : StrayDash) (more : Text),
        (responsePrefix ++
            58#8 ::
              fieldsBefore (items.map Item.field) dash.text).length ≤ 1023 →
          atTokScanf
              (some
                (responsePrefix ++
                  58#8 :: fieldsBefore (items.map Item.field) dash.text))
              (formatText items ++ (dash.directive ++ more)) =
            ⟨items.length, items.map Item.stored ++ [dash.stored]⟩ := by
  refine ⟨?_, ?_, ?_⟩
  · intro more rest short ends
    rw [atTokScanf_line noColon short]
    rcases ends with ⟨rfl, readable⟩ | ⟨rfl, tail, rfl⟩
    · exact scanLoop_items_end items readable more
    · rw [List.append_nil]
      exact scanLoop_items_comma items tail
  · intro more short
    rw [atTokScanf_line noColon short, scanLoop_items_before,
      scanLoop_of_no_more rfl]
    exact congrArg (Scanned.mk _) (List.append_nil _)
  · intro dash more short
    rw [atTokScanf_line noColon short, scanLoop_items_before,
      dash.scanLoop_text]
    rfl

/-- A number, a text with a comma, something unknown and two more numbers. -/
def cellItems : List Item :=
  [.ofInt .spaced 0 (by decide) (by decide),
    .ofQuoted (ascii "a,b") (by decide), .ofMissing .hex,
    .ofHex .quotes 1 453 (by decide),
    .ofInt .plain (-85) (by decide) (by decide)]

/-- A dash behind a blank. -/
def spacedDash : StrayDash where
  separators := []
  conversion := .int
  blanks := [32#8]
  behind := ascii ",5"
  separated := List.forall_mem_nil _
  noText := nofun
  blank := List.forall_mem_singleton.mpr rfl
  follows := Or.inr ⟨[53#8], rfl⟩
  stray := Or.inl nofun

theorem atTokScanf_reads_items_cell :
    atTokScanf (some (ascii "+CELL: 0,\"a,b\",-,\"01C5\",-85"))
          (ascii "%d%s%x%x%d%d") =
        ⟨5,
          [some (.int 0), some (.str (ascii "a,b")), none, some (.int 453),
            some (.int (-85))]⟩ ∧
      atTokScanf (some (ascii "+CELL: -,5")) (ascii "%d%d") =
        ⟨0, [some (.int 0)]⟩ := by
  have isLine :
      ascii "+CELL" ++ 58#8 :: fieldsText (cellItems.map Item.field) [] =
        ascii "+CELL: 0,\"a,b\",-,\"01C5\",-85" := by
    decide +kernel
  have isFormat :
      formatText cellItems ++ ascii "%d" = ascii "%d%s%x%x%d%d" := by
    decide +kernel
  have reads :=
    (atTokScanf_reads_items (ascii "+CELL") cellItems (by decide)).1
      (ascii "%d") [] (by rw [isLine]; decide)
      (Or.inl
        ⟨rfl,
          .ofInt (by decide : -2147483648 ≤ (-85 : Int)) (by decide) rfl⟩)
  have ends :=
    (atTokScanf_reads_items (ascii "+CELL") [] (by decide)).2.2 spacedDash
      (ascii "%d") (by decide)
  rw [isLine, isFormat] at reads
  exact ⟨reads, ends⟩

end RecomputerGateway.AtTokens
