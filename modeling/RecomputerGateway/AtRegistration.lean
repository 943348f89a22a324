import RecomputerGateway.AtTokens

namespace RecomputerGateway.AtRegistration

open CText AtTokens

/-!
# The registration of the modem

`requestRegistrationState` of `atc.c` asks for the access technology and then
for the registration with the network of that technology.  It tells the forms
of the answer apart by the number of their commas.
-/

/-- The commands that ask for the registration. -/
inductive Query where
  | cgreg
  | cereg
  | c5greg
  deriving DecidableEq

/-- What the lines of the answer begin with, before the colon. -/
def Query.responsePrefix : Query → Text
  | cgreg => ascii "+CGREG"
  | cereg => ascii "+CEREG"
  | c5greg => ascii "+C5GREG"

/-- The command for `cops_act`. -/
def queryOf (copsAct : Int) : Option Query :=
  if copsAct = 2 ∨ copsAct = 3 ∨ copsAct = 4 ∨ copsAct = 5 ∨ copsAct = 6 then
    some .cgreg
  else if copsAct = 7 ∨ copsAct = 13 then some .cereg
  else if copsAct = 10 ∨ copsAct = 11 ∨ copsAct = 12 then some .c5greg
  else none

/-- The variable that a conversion stores its number in. -/
def intAt (scanned : Scanned) (index : Nat) (initial : Int) : Int :=
  match scanned.stored[index]? with
  | some (some (.int value)) => value
  | _ => initial

/-- `cops_act`, unless its line is malformed. -/
def copsAct? (lines : List Text) : Option Int :=
  match lines with
  | [] => some (-1)
  | line :: _ =>
      let scanned := atTokScanf (some line) (ascii "%d%d%s%d")
      if scanned.count = 4 then some (intAt scanned 3 (-1)) else none

/-- The state that one of the formats finds in a line. -/
def stateOf? (line format : Text) (count : Nat) : Option Int :=
  let scanned := atTokScanf (some line) format
  if scanned.count = count then some (intAt scanned 1 0) else none

/-- The state that is read from the answer, unless it is malformed. -/
def registrationState? (line : Text) : Option Int :=
  match atTokCount line with
  | 0 =>
      let taken := atTokNextint (some line)
      if taken.failed then none else taken.out
  | 1 => stateOf? line (ascii "%d%d") 2
  | 2 => stateOf? line (ascii "%d%x%x") 3
  | 3 => stateOf? line (ascii "%d%d%x%x") 4
  | 4 | 5 | 6 | 7 => stateOf? line (ascii "%d%d%x%x%d") 5
  | _ => none

/--
`requestRegistrationState`, with the answer to `AT+COPS?` and the answers to
the commands for the registration: what it returns, and whether the modem is
attached.
-/
def requestRegistrationState
    (cops : Option (List Text))
    (answer : Query → Option (List Text)) : Int × Bool :=
  match cops with
  | none => (-1, false)
  | some lines =>
      match (copsAct? lines).bind queryOf with
      | none => (0, false)
      | some query =>
          match answer query with
          | some (line :: _) =>
              match registrationState? line with
              | some state => (0, decide (state = 1 ∨ state = 5))
              | none => (0, false)
          | _ => (0, false)

/-- A decimal number of a response. -/
structure Decimal where
  layout : Layout
  value : Int
  lower : -2147483648 ≤ value
  upper : value ≤ 2147483647

def Decimal.item (number : Decimal) : Item :=
  .ofInt number.layout number.value number.lower number.upper

/-- A hexadecimal number of a response. -/
structure HexNumber where
  layout : Layout
  padding : Nat
  value : Nat
  upper : value ≤ 4294967295

def HexNumber.item (number : HexNumber) : Item :=
  .ofHex number.layout number.padding number.value number.upper

/-- What a response says of the cell, and what may follow. -/
inductive Cell where
  | unknown
  | area (lac cid : HexNumber)
  | access (lac cid : HexNumber) (act : Decimal) (rest : Text)

namespace Cell

def items : Cell → List Item
  | unknown => []
  | area lac cid => [lac.item, cid.item]
  | access lac cid act _ => [lac.item, cid.item, act.item]

def rest : Cell → Text
  | unknown => []
  | area _ _ => []
  | access _ _ _ rest => rest

/-- What follows the access technology begins with a comma. -/
def WellFormed (cell : Cell) : Prop :=
  cell.rest = [] ∨ ∃ tail, cell.rest = 44#8 :: tail ∧ tail.count 44#8 ≤ 2

end Cell

/-- A line of a response with these items. -/
def lineOf (responsePrefix : Text) (items : List Item) (rest : Text) : Text :=
  responsePrefix ++ 58#8 :: fieldsText (items.map Item.field) rest

/-- A field of a response that has no comma. -/
def CommaFree (item : Item) : Prop := 44#8 ∉ item.field.text

theorem commaFree_field
    (layout : Layout)
    {content : Text}
    (free : 44#8 ∉ content) :
    44#8 ∉ (layout.field content).text := by
  have noBlank := comma_not_mem_blanks layout.blank
  unfold Layout.field
  split
  · refine fun member => ?_
    rcases List.mem_append.mp member with inBlanks | inQuotes
    · exact noBlank inBlanks
    · rcases List.mem_cons.mp inQuotes with isQuote | inRest
      · exact nomatch isQuote
      · rcases List.mem_append.mp inRest with inContent | isQuote
        · exact free inContent
        · exact nomatch List.mem_singleton.mp isQuote
  · refine fun member => ?_
    rcases List.mem_append.mp member with inBlanks | inContent
    · exact noBlank inBlanks
    · exact free inContent

theorem Decimal.item_commaFree (number : Decimal) :
    CommaFree number.item := by
  refine commaFree_field _ fun member => ?_
  exact absurd (printDecimal_chars member).1 (by decide)

theorem HexNumber.item_commaFree (number : HexNumber) :
    CommaFree number.item := by
  refine commaFree_field _ fun member => ?_
  exact absurd (printHex_chars member).1 (by decide)

/-- The commas of fields that have none, and of what follows them. -/
theorem count_fieldsText
    (item : Item)
    (items : List Item)
    (rest : Text)
    (free : ∀ other ∈ item :: items, CommaFree other) :
    (fieldsText ((item :: items).map Item.field) rest).count 44#8 =
      items.length + rest.count 44#8 := by
  have none := List.count_eq_zero.mpr (free item (.head items))
  induction items generalizing item with
  | nil =>
      change (item.field.text ++ rest).count 44#8 = _
      rw [List.count_append, none]
      rfl
  | cons next items inductionHypothesis =>
      have later :=
        inductionHypothesis next
          (fun other member => free other (.tail item member))
          (List.count_eq_zero.mpr (free next (.tail item (.head items))))
      change
        (item.field.text ++
          44#8 :: fieldsText ((next :: items).map Item.field) rest).count
            44#8 = _
      rw [List.count_append, none, List.count_cons_self, later,
        List.length_cons]
      omega

theorem atTokCount_lineOf
    {responsePrefix : Text}
    (noComma : 44#8 ∉ responsePrefix)
    (item : Item)
    (items : List Item)
    (rest : Text)
    (free : ∀ other ∈ item :: items, CommaFree other) :
    atTokCount (lineOf responsePrefix (item :: items) rest) =
      items.length + rest.count 44#8 := by
  rw [atTokCount, lineOf, List.count_append,
    List.count_eq_zero.mpr noComma, List.count_cons_of_ne (by decide),
    count_fieldsText item items rest free, Nat.zero_add]

/-- The items of a line are scanned with the format that is theirs. -/
theorem stateOf?_items
    {responsePrefix : Text}
    (noColon : 58#8 ∉ responsePrefix)
    {items : List Item}
    {rest format : Text}
    (short : (lineOf responsePrefix items rest).length ≤ 1023)
    (isFormat : format = formatText items)
    (ends :
      rest = [] ∧ LastReadable items ∨ ∃ tail, rest = 44#8 :: tail) :
    stateOf? (lineOf responsePrefix items rest) format items.length =
      some (intAt (scannedItems items) 1 0) := by
  have scanned :
      atTokScanf (some (lineOf responsePrefix items rest)) format =
        scannedItems items := by
    rw [lineOf, atTokScanf_line noColon short, isFormat]
    rcases ends with ⟨rfl, readable⟩ | ⟨tail, rfl⟩
    · have atEnd := scanLoop_items_end items readable []
      rwa [List.append_nil] at atEnd
    · exact scanLoop_items_comma items tail
  rw [stateOf?, scanned]
  exact if_pos rfl

theorem Decimal.lastReadable
    {items : List Item}
    {number : Decimal}
    (isLast : items.getLast? = some number.item) :
    LastReadable items :=
  .ofInt number.lower number.upper isLast

theorem HexNumber.lastReadable
    {items : List Item}
    {number : HexNumber}
    (isLast : items.getLast? = some number.item) :
    LastReadable items :=
  .ofHex number.upper isLast

/-- From four to seven commas the same format is used. -/
theorem registrationState?_access
    {line : Text}
    (lower : 4 ≤ atTokCount line)
    (upper : atTokCount line ≤ 7) :
    registrationState? line =
      stateOf? line (ascii "%d%d%x%x%d") 5 := by
  obtain commas | commas | commas | commas :
      atTokCount line = 4 ∨ atTokCount line = 5 ∨ atTokCount line = 6 ∨
        atTokCount line = 7 := by
    omega
  · rw [registrationState?, commas]
    rfl
  · rw [registrationState?, commas]
    rfl
  · rw [registrationState?, commas]
    rfl
  · rw [registrationState?, commas]
    rfl

theorem Query.responsePrefix_free (query : Query) :
    58#8 ∉ query.responsePrefix ∧ 44#8 ∉ query.responsePrefix := by
  cases query <;> decide

theorem Cell.items_commaFree (cell : Cell) :
    ∀ item ∈ cell.items, CommaFree item := by
  cases cell with
  | unknown => exact List.forall_mem_nil _
  | area lac cid =>
      exact
        List.forall_mem_cons.mpr
          ⟨lac.item_commaFree,
            List.forall_mem_singleton.mpr cid.item_commaFree⟩
  | access lac cid act rest =>
      exact
        List.forall_mem_cons.mpr
          ⟨lac.item_commaFree,
            List.forall_mem_cons.mpr
              ⟨cid.item_commaFree,
                List.forall_mem_singleton.mpr act.item_commaFree⟩⟩

/-- In an answer to a command the state is read where it stands. -/
theorem registrationState?_answer
    (query : Query)
    (mode stat : Decimal)
    {cell : Cell}
    (wellFormed : cell.WellFormed)
    (short :
      (lineOf query.responsePrefix (mode.item :: stat.item :: cell.items)
        cell.rest).length ≤ 1023) :
    registrationState?
        (lineOf query.responsePrefix (mode.item :: stat.item :: cell.items)
          cell.rest) =
      some stat.value := by
  obtain ⟨noColon, noComma⟩ := query.responsePrefix_free
  have commas :=
    atTokCount_lineOf noComma mode.item (stat.item :: cell.items) cell.rest
      (List.forall_mem_cons.mpr
        ⟨mode.item_commaFree,
          List.forall_mem_cons.mpr
            ⟨stat.item_commaFree, cell.items_commaFree⟩⟩)
  cases cell with
  | unknown =>
      rw [registrationState?, commas]
      exact
        stateOf?_items noColon short
          (by decide : _ = [37#8, 100#8, 37#8, 100#8])
          (Or.inl ⟨rfl, stat.lastReadable rfl⟩)
  | area lac cid =>
      rw [registrationState?, commas]
      exact
        stateOf?_items noColon short rfl
          (Or.inl ⟨rfl, cid.lastReadable rfl⟩)
  | access lac cid act rest =>
      have atLeast : 4 ≤ 4 + rest.count 44#8 := Nat.le_add_right _ _
      rcases wellFormed with isEmpty | ⟨tail, hasTail, few⟩
      · change rest = [] at isEmpty
        subst isEmpty
        rw [registrationState?_access
          (Nat.le_of_eq commas.symm) (Nat.le_trans (Nat.le_of_eq commas)
            (by decide : 4 ≤ 7))]
        exact
          stateOf?_items noColon short rfl
            (Or.inl ⟨rfl, act.lastReadable rfl⟩)
      · change rest = 44#8 :: tail at hasTail
        subst hasTail
        have some_commas : 4 + (44#8 :: tail).count 44#8 ≤ 7 := by
          rw [List.count_cons_self]
          omega
        rw [registrationState?_access
          (Nat.le_trans atLeast (Nat.le_of_eq commas.symm))
          (Nat.le_trans (Nat.le_of_eq commas) some_commas)]
        exact stateOf?_items noColon short rfl (Or.inr ⟨tail, rfl⟩)

/-- The answer to `AT+COPS?`: mode, format, operator and technology. -/
def copsItems (mode format : Decimal) (operator : Item) (act : Decimal) :
    List Item :=
  [mode.item, format.item, operator, act.item]

/-- The technology is read where it stands. -/
theorem copsAct?_answer
    (mode format act : Decimal)
    {operator : Item}
    (isText : operator.directive = [37#8, 115#8])
    (short :
      (lineOf (ascii "+COPS") (copsItems mode format operator act)
        []).length ≤ 1023)
    (others : List Text) :
    copsAct?
        (lineOf (ascii "+COPS") (copsItems mode format operator act) [] ::
          others) =
      some act.value := by
  have isFormat :
      ascii "%d%d%s%d" =
        formatText (copsItems mode format operator act) := by
    have shape :
        formatText (copsItems mode format operator act) =
          [37#8, 100#8, 37#8, 100#8] ++
            (operator.directive ++ [37#8, 100#8]) := by
      simp only [formatText, copsItems, List.flatMap_cons, List.flatMap_nil,
        List.append_nil]
      rfl
    rw [shape, isText]
    decide
  have scanned :
      atTokScanf
          (some
            (lineOf (ascii "+COPS") (copsItems mode format operator act)
              []))
          (ascii "%d%d%s%d") =
        scannedItems (copsItems mode format operator act) := by
    have atEnd :=
      scanLoop_items_end (copsItems mode format operator act)
        (act.lastReadable rfl) []
    rw [lineOf, atTokScanf_line (by decide) short, isFormat]
    rwa [List.append_nil] at atEnd
  rw [copsAct?, scanned]
  rfl

/--
The modem is found attached if and only if it is registered at home or
roaming, in each form of the answer, for every access technology that has a
command, and whatever the operator is called.
-/
theorem attached_iff_registered
    (mode stat copsMode copsFormat act : Decimal)
    {cell : Cell}
    (wellFormed : cell.WellFormed)
    {operator : Item}
    (isText : operator.directive = [37#8, 115#8])
    {query : Query}
    (asks : queryOf act.value = some query)
    (copsShort :
      (lineOf (ascii "+COPS") (copsItems copsMode copsFormat operator act)
        []).length ≤ 1023)
    (short :
      (lineOf query.responsePrefix (mode.item :: stat.item :: cell.items)
        cell.rest).length ≤ 1023)
    (others more : List Text)
    (answer : Query → Option (List Text))
    (answers :
      answer query =
        some
          (lineOf query.responsePrefix
            (mode.item :: stat.item :: cell.items) cell.rest :: more)) :
    requestRegistrationState
        (some
          (lineOf (ascii "+COPS")
            (copsItems copsMode copsFormat operator act) [] :: others))
        answer =
      (0, decide (stat.value = 1 ∨ stat.value = 5)) := by
  have technology :=
    copsAct?_answer copsMode copsFormat act isText copsShort others
  have state := registrationState?_answer query mode stat wellFormed short
  unfold requestRegistrationState
  dsimp only
  rw [technology, Option.bind_some, asks]
  dsimp only
  rw [answers]
  dsimp only
  rw [state]

/-- A number with one digit. -/
def digit (layout : Layout) (value : Fin 10) : Decimal :=
  ⟨layout, value.val, by omega, by omega⟩

/-- The response `+COPS: 0,0,"GATEWAY, 5G",7`. -/
def lteItems : List Item :=
  copsItems (digit .spaced 0) (digit .plain 0)
    (.ofQuoted (ascii "GATEWAY, 5G") (by decide)) (digit .plain 7)

theorem lteItems_line :
    lineOf (ascii "+COPS") lteItems [] =
      ascii "+COPS: 0,0,\"GATEWAY, 5G\",7" := by
  decide +kernel

/-- The area 1 and the cell 0x2B7 of an LTE network. -/
def lteCell (rest : Text) : Cell :=
  .access ⟨.quotes, 3, 1, by decide⟩ ⟨.quotes, 1, 695, by decide⟩
    (digit .plain 7) rest

theorem attached_iff_registered_roaming :
    requestRegistrationState
        (some [ascii "+COPS: 0,0,\"GATEWAY, 5G\",7"])
        (fun _ => some [ascii "+CEREG: 2,5,\"0001\",\"02B7\",7,0,1"]) =
      (0, true) := by
  have isLine :
      lineOf (Query.responsePrefix .cereg)
          ((digit .spaced 2).item :: (digit .plain 5).item ::
            (lteCell (ascii ",0,1")).items)
          (lteCell (ascii ",0,1")).rest =
        ascii "+CEREG: 2,5,\"0001\",\"02B7\",7,0,1" := by
    decide +kernel
  rw [← isLine, ← lteItems_line]
  exact
    attached_iff_registered _ _ _ _ _
      (Or.inr ⟨ascii "0,1", rfl, by decide⟩) rfl rfl
      (by rw [← lteItems, lteItems_line]; decide)
      (by rw [isLine]; decide) [] [] (fun _ => some _) rfl

/-- What is taken for the state in a line that the modem sends by itself. -/
def reportedState? : Cell → Option Int
  | .unknown => none
  | .area lac _ => some (toInt lac.value)
  | .access lac _ _ _ =>
      (strtol? 10 (printHex lac.padding lac.value)).map toInt

/-- Without a comma the prefix is taken for the number. -/
theorem registrationState?_unknown
    (query : Query)
    (stat : Decimal) :
    registrationState? (lineOf query.responsePrefix [stat.item] []) =
      none := by
  obtain ⟨-, noComma⟩ := query.responsePrefix_free
  have commas :=
    atTokCount_lineOf noComma stat.item [] []
      (List.forall_mem_singleton.mpr stat.item_commaFree)
  obtain ⟨text, shape⟩ :
      ∃ text,
        lineOf query.responsePrefix [stat.item] [] =
          43#8 :: 67#8 :: text := by
    cases query <;> exact ⟨_, rfl⟩
  have taken :
      nextTok (some (43#8 :: 67#8 :: text)) =
        (some (43#8 :: 67#8 :: (strsep 44#8 text).1),
          (strsep 44#8 text).2) := rfl
  have failed :
      atTokNextint (some (43#8 :: 67#8 :: text)) =
        ⟨true, some 0, (strsep 44#8 text).2⟩ := by
    unfold atTokNextint atTokNextintBase
    rw [taken]
    dsimp only
    rw [if_neg (by decide), strtol?_plus_letter (by decide)]
  rw [registrationState?, commas, shape, failed]
  rfl

/-- With two commas the area is taken for the state. -/
theorem registrationState?_area
    (query : Query)
    (stat : Decimal)
    (lac cid : HexNumber)
    (short :
      (lineOf query.responsePrefix [stat.item, lac.item, cid.item]
        []).length ≤ 1023) :
    registrationState?
        (lineOf query.responsePrefix [stat.item, lac.item, cid.item] []) =
      some (toInt lac.value) := by
  obtain ⟨noColon, noComma⟩ := query.responsePrefix_free
  have commas :=
    atTokCount_lineOf noComma stat.item [lac.item, cid.item] []
      (List.forall_mem_cons.mpr
        ⟨stat.item_commaFree, (Cell.area lac cid).items_commaFree⟩)
  rw [registrationState?, commas]
  exact
    stateOf?_items noColon short rfl (Or.inl ⟨rfl, cid.lastReadable rfl⟩)

/-- A number is converted in another base, or not at all. -/
theorem convert_int
    {text token : Text}
    {next : Cursor}
    (taken : nextTok (some text) = (some token, next)) :
    convert 100#8 (some text) =
      match strtol? 10 token with
      | some value => ⟨false, some (.int (toInt value)), next⟩
      | none => ⟨true, some (.int 0), next⟩ := by
  change (atTokNextint (some text)).map Stored.int = _
  unfold atTokNextint atTokNextintBase
  rw [taken]
  dsimp only
  rw [if_neg (by decide)]
  cases strtol? 10 token with
  | none => rfl
  | some value => rfl

theorem convert_hex
    {text token : Text}
    {next : Cursor}
    {value : Int}
    (taken : nextTok (some text) = (some token, next))
    (converted : strtoul? 16 token = some value) :
    convert 120#8 (some text) =
      ⟨false, some (.int (toInt value)), next⟩ :=
  congrArg (Taken.map · Stored.int)
    (atTokNextintBase_some taken ((if_pos rfl).trans converted))

/-- The last number is converted as a hexadecimal one. -/
theorem scanLoop_last_hex (act : Decimal) :
    ∃ stored,
      scanLoop [37#8, 120#8] (some act.item.field.text) =
        .take stored .stop := by
  obtain ⟨next, taken, noMore⟩ :=
    Field.nextTok_end act.item.wellFormed (act.layout.field_ne_missing _)
  obtain ⟨value, converted⟩ := strtoul?_printDecimal_isSome act.value
  have isToken :
      act.item.field.content = printDecimal act.value :=
    act.layout.field_content _
  have nonempty : act.item.field.text ≠ [] :=
    act.layout.field_text_ne_nil (printDecimal_ne_nil act.value)
  have more : atTokHasmore (some (act.item.field.text ++ [])) = true := by
    obtain ⟨char, text, shape⟩ := List.exists_cons_of_ne_nil nonempty
    rw [List.append_nil, shape]
    rfl
  have step :=
    scanLoop_field (List.forall_mem_nil _) act.item.wellFormed
      (act.layout.field_ne_missing _) 120#8 [] more
      (fun char first => (nomatch first))
  rw [isToken] at taken
  rw [List.append_nil, convert_hex taken converted] at step
  exact ⟨some (.int (toInt value)), step⟩

/-- With three commas the area is taken for the state in decimal. -/
theorem registrationState?_reported
    (query : Query)
    (stat : Decimal)
    (lac cid : HexNumber)
    (act : Decimal)
    (short :
      (lineOf query.responsePrefix
        [stat.item, lac.item, cid.item, act.item] []).length ≤ 1023) :
    registrationState?
        (lineOf query.responsePrefix
          [stat.item, lac.item, cid.item, act.item] []) =
      (strtol? 10 (printHex lac.padding lac.value)).map toInt := by
  obtain ⟨noColon, noComma⟩ := query.responsePrefix_free
  have commas :=
    atTokCount_lineOf noComma stat.item [lac.item, cid.item, act.item] []
      (List.forall_mem_cons.mpr
        ⟨stat.item_commaFree, (Cell.access lac cid act []).items_commaFree⟩)
  have isToken : lac.item.field.content = printHex lac.padding lac.value :=
    lac.layout.field_content _
  obtain ⟨last, isLast⟩ := scanLoop_last_hex act
  have lastTwo :
      scanLoop [37#8, 120#8, 37#8, 120#8]
          (some
            (fieldsText ([cid.item, act.item].map Item.field) [])) =
        .take cid.item.stored (.take last .stop) := by
    change
      scanLoop (cid.item.directive ++ [37#8, 120#8])
        (some
          (cid.item.field.text ++ 44#8 :: (act.item.field.text ++ []))) = _
    rw [List.append_nil, scanLoop_comma, isLast]
  have second :=
    scanLoop_field (List.forall_mem_nil _) lac.item.wellFormed
      (lac.layout.field_ne_missing _) 100#8 [37#8, 120#8, 37#8, 120#8]
      (atTokHasmore_comma lac.item.field.text
        (fieldsText ([cid.item, act.item].map Item.field) []))
      (fun char first => by
        cases first
        rfl)
  have taken :=
    Field.nextTok_comma lac.item.wellFormed (lac.layout.field_ne_missing _)
      (fieldsText ([cid.item, act.item].map Item.field) [])
  rw [isToken] at taken
  rw [convert_int taken] at second
  have isLine :
      atTokScanf
          (some
            (lineOf query.responsePrefix
              [stat.item, lac.item, cid.item, act.item] []))
          (ascii "%d%d%x%x") =
        .take stat.item.stored
          (scanLoop [37#8, 100#8, 37#8, 120#8, 37#8, 120#8]
            (some
              (lac.item.field.text ++
                44#8 ::
                  fieldsText ([cid.item, act.item].map Item.field) []))) := by
    rw [lineOf, atTokScanf_line noColon short]
    exact scanLoop_comma stat.item _ _
  rw [registrationState?, commas]
  change stateOf? _ _ 4 = _
  rw [stateOf?, isLine]
  change
    (let scanned :=
        Scanned.take stat.item.stored
          (scanLoop ([] ++ [37#8, 100#8, 37#8, 120#8, 37#8, 120#8]) _)
      if scanned.count = 4 then some (intAt scanned 1 0) else none) = _
  rw [second]
  cases strtol? 10 (printHex lac.padding lac.value) with
  | none => rfl
  | some value =>
      dsimp only
      rw [if_neg Bool.false_ne_true, lastTwo]
      rfl

/-- What is read from a line that the modem sends by itself. -/
theorem registrationState?_report
    (query : Query)
    (stat : Decimal)
    {cell : Cell}
    (short :
      (lineOf query.responsePrefix (stat.item :: cell.items) []).length ≤
        1023) :
    registrationState?
        (lineOf query.responsePrefix (stat.item :: cell.items) []) =
      reportedState? cell := by
  cases cell with
  | unknown => exact registrationState?_unknown query stat
  | area lac cid => exact registrationState?_area query stat lac cid short
  | access lac cid act rest =>
      exact registrationState?_reported query stat lac cid act short

/--
A line that the modem sends by itself has no mode before the state.  If it is
taken for the answer, the modem is found attached or not by the area in which
it is, whatever its registration; and never if the line has no area.
-/
theorem report_misread
    (stat copsMode copsFormat act : Decimal)
    {cell : Cell}
    {operator : Item}
    (isText : operator.directive = [37#8, 115#8])
    {query : Query}
    (asks : queryOf act.value = some query)
    (copsShort :
      (lineOf (ascii "+COPS") (copsItems copsMode copsFormat operator act)
        []).length ≤ 1023)
    (short :
      (lineOf query.responsePrefix (stat.item :: cell.items) []).length ≤
        1023)
    (others more : List Text)
    (answer : Query → Option (List Text))
    (answers :
      answer query =
        some
          (lineOf query.responsePrefix (stat.item :: cell.items) [] ::
            more)) :
    requestRegistrationState
        (some
          (lineOf (ascii "+COPS")
            (copsItems copsMode copsFormat operator act) [] :: others))
        answer =
      (0,
        decide
          (reportedState? cell = some 1 ∨ reportedState? cell = some 5)) := by
  have technology :=
    copsAct?_answer copsMode copsFormat act isText copsShort others
  have state := registrationState?_report query stat short
  unfold requestRegistrationState
  dsimp only
  rw [technology, Option.bind_some, asks]
  dsimp only
  rw [answers]
  dsimp only
  rw [state]
  cases reportedState? cell with
  | none => rfl
  | some value =>
      refine congrArg (Prod.mk 0) (decide_eq_decide.mpr ?_)
      rw [Option.some.injEq, Option.some.injEq]

/-- The modem that is searching is found attached in the area 1. -/
theorem report_misread_searching :
    requestRegistrationState
        (some [ascii "+COPS: 0,0,\"GATEWAY, 5G\",7"])
        (fun _ => some [ascii "+CEREG: 2,\"0001\",\"02B7\",7"]) =
      (0, true) := by
  have isLine :
      lineOf (Query.responsePrefix .cereg)
          ((digit .spaced 2).item :: (lteCell []).items) [] =
        ascii "+CEREG: 2,\"0001\",\"02B7\",7" := by
    decide +kernel
  have misread :
      reportedState? (lteCell []) = some 1 := by
    decide +kernel
  have found :=
    report_misread (digit .spaced 2) (digit .spaced 0) (digit .plain 0)
      (digit .plain 7)
      (rfl :
        (Item.ofQuoted (ascii "GATEWAY, 5G") (by decide)).directive =
          [37#8, 115#8])
      (rfl : queryOf 7 = some .cereg)
      (by rw [← lteItems, lteItems_line]; decide)
      (by rw [isLine]; decide) [] [] (fun _ => some _) rfl
  rw [← lteItems, lteItems_line, isLine, misread] at found
  exact found

end RecomputerGateway.AtRegistration
