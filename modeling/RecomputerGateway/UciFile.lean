import RecomputerGateway.TextLines

namespace RecomputerGateway.UciFile

/-!
# The files of the unified configuration interface

A package is a sequence of sections with options and lists.  `libuci` writes
each value in single quotes and each quote inside a value as `'\''`.

Nothing here refers to a particular package.
-/

open TextLines (Line joinLines)

/-- Letters, digits and the underscore. -/
def isNameChar (char : Char) : Bool :=
  char.isAlphanum || char == '_'

/-- The name of a section or of an option. -/
structure Name where
  chars : List Char
  nonempty : chars ≠ []
  valid : chars.all isNameChar = true

/-- Printable and no blank. -/
def isTypeChar (char : Char) : Bool :=
  33 ≤ char.toNat && char.toNat ≤ 126

/-- The type of a section. -/
structure SectionType where
  chars : List Char
  nonempty : chars ≠ []
  valid : chars.all isTypeChar = true

/-- A value on one line. -/
structure Value where
  chars : List Char
  oneLine : '\n' ∉ chars

inductive Entry where
  | option (name : Name) (value : Value)
  | list (name : Name) (values : List Value)

structure Section where
  type : SectionType
  /-- An anonymous section has no name. -/
  name : Option Name
  entries : List Entry

abbrev Package := List Section

/-- A quote ends the quoted part, is written alone and starts another part. -/
def escape : List Char → List Char
  | [] => []
  | char :: rest =>
      if char = '\'' then '\'' :: '\\' :: '\'' :: '\'' :: escape rest
      else char :: escape rest

def quoted (text : List Char) : List Char :=
  '\'' :: escape text ++ ['\'']

def listWord : List Char :=
  ['l', 'i', 's', 't', ' ']

def optionWord : List Char :=
  ['o', 'p', 't', 'i', 'o', 'n', ' ']

def configWord : List Char :=
  ['c', 'o', 'n', 'f', 'i', 'g', ' ']

/-- The line of one value of a list. -/
def listLine (name : Name) (value : Value) : Line :=
  '\t' :: listWord ++ name.chars ++ ' ' :: quoted value.chars

def optionLine (name : Name) (value : Value) : Line :=
  '\t' :: optionWord ++ name.chars ++ ' ' :: quoted value.chars

def entryLines : Entry → List Line
  | .option name value => [optionLine name value]
  | .list name values => values.map (listLine name)

/-- The name of a section behind its type. -/
def nameText : Option Name → List Char
  | none => []
  | some name => ' ' :: quoted name.chars

/-- The line that starts a section. -/
def configLine (part : Section) : Line :=
  configWord ++ escape part.type.chars ++ nameText part.name

def sectionLines (part : Section) : List Line :=
  [] :: configLine part :: part.entries.flatMap entryLines

/-- The lines of a package; a blank one ends it. -/
def packageLines (package : Package) : List Line :=
  package.flatMap sectionLines ++ [[]]

/-- The content of the file. -/
def packageText (package : Package) : List Char :=
  joinLines (packageLines package)

/-- One value of a list, with the name of the list and its section. -/
structure ListValue where
  part : Section
  name : Name
  value : Value

def entryValues (part : Section) : Entry → List ListValue
  | .option _ _ => []
  | .list name values => values.map fun value => { part, name, value }

/-- The values of all lists, in the order of the file. -/
def listValues (package : Package) : List ListValue :=
  package.flatMap fun part => part.entries.flatMap (entryValues part)

/-! ## What is written -/

theorem escape_eq_self_iff
    (text : List Char) :
    escape text = text ↔ '\'' ∉ text := by
  have longer
      (chars : List Char) :
      chars.length ≤ (escape chars).length := by
    induction chars with
    | nil =>
        exact Nat.le_refl 0
    | cons char rest inductionHypothesis =>
        simp only [escape]
        split <;> simp only [List.length_cons] <;> omega
  induction text with
  | nil =>
      simp [escape]
  | cons char rest inductionHypothesis =>
      by_cases isQuote : char = '\''
      · subst char
        have restLonger := longer rest
        simp only [escape, if_true, List.mem_cons, true_or, not_true,
          iff_false]
        intro same
        have sameLength := congrArg List.length same
        simp only [List.length_cons] at sameLength
        omega
      · have notQuote : '\'' ≠ char := Ne.symm isQuote
        simp [escape, isQuote, notQuote, inductionHypothesis]

theorem mem_of_mem_escape
    {char : Char}
    {text : List Char}
    (member : char ∈ escape text) :
    char ∈ text ∨ char = '\'' ∨ char = '\\' := by
  induction text with
  | nil =>
      contradiction
  | cons head rest inductionHypothesis =>
      simp only [escape] at member
      split at member
      · simp only [List.mem_cons] at member ⊢
        tauto
      · simp only [List.mem_cons] at member ⊢
        tauto

theorem not_mem_quoted
    {char : Char}
    {text : List Char}
    (inText : char ∉ text)
    (notQuote : char ≠ '\'')
    (notBackslash : char ≠ '\\') :
    char ∉ quoted text := by
  intro member
  simp only [quoted, List.cons_append, List.mem_cons, List.mem_append,
    List.not_mem_nil, or_false] at member
  rcases member with isQuote | escaped | isQuote
  · exact notQuote isQuote
  · rcases mem_of_mem_escape escaped with member | isQuote | isBackslash
    · exact inText member
    · exact notQuote isQuote
    · exact notBackslash isBackslash
  · exact notQuote isQuote

/-- A character that is no name character is not in a name. -/
theorem Name.not_mem
    (name : Name)
    {char : Char}
    (invalid : isNameChar char = false) :
    char ∉ name.chars := by
  intro member
  have valid := List.all_eq_true.mp name.valid char member
  exact Bool.noConfusion (invalid.symm.trans valid)

theorem newline_not_mem_listLine
    (name : Name)
    (value : Value) :
    '\n' ∉ listLine name value := by
  have inName := name.not_mem (show isNameChar '\n' = false by decide)
  have inValue :=
    not_mem_quoted value.oneLine (by decide) (by decide)
  simp only [listLine, List.mem_append, List.mem_cons, not_or]
  exact ⟨⟨by decide, inName⟩, by decide, inValue⟩

theorem newline_not_mem_entryLines
    (entry : Entry) :
    ∀ line ∈ entryLines entry, '\n' ∉ line := by
  intro line member
  cases entry with
  | option name value =>
      have inName := name.not_mem (show isNameChar '\n' = false by decide)
      have inValue :=
        not_mem_quoted value.oneLine (by decide) (by decide)
      simp only [entryLines, List.mem_singleton] at member
      subst line
      simp only [optionLine, List.mem_append, List.mem_cons, not_or]
      exact ⟨⟨by decide, inName⟩, by decide, inValue⟩
  | list name values =>
      obtain ⟨value, -, rfl⟩ := List.mem_map.mp member
      exact newline_not_mem_listLine name value

/-- No control character is in the line that starts a section. -/
theorem control_not_mem_configLine
    (part : Section)
    {char : Char}
    (control : char.toNat < 32)
    (invalid : isNameChar char = false) :
    char ∉ configLine part := by
  have notQuote : char ≠ '\'' := by
    rintro rfl
    exact absurd control (by decide)
  have notBackslash : char ≠ '\\' := by
    rintro rfl
    exact absurd control (by decide)
  have notBlank : char ≠ ' ' := by
    rintro rfl
    exact absurd control (by decide)
  have inType : char ∉ escape part.type.chars := by
    intro member
    rcases mem_of_mem_escape member with member | isQuote | isBackslash
    · have valid := List.all_eq_true.mp part.type.valid char member
      simp only [isTypeChar, Bool.and_eq_true, decide_eq_true_eq] at valid
      omega
    · exact notQuote isQuote
    · exact notBackslash isBackslash
  have inName : char ∉ nameText part.name := by
    cases part.name with
    | none =>
        exact List.not_mem_nil
    | some name =>
        simp only [nameText, List.mem_cons, not_or]
        exact ⟨notBlank, not_mem_quoted (name.not_mem invalid)
          notQuote notBackslash⟩
  have inWord :
      configWord.all (fun letter => decide (32 ≤ letter.toNat)) = true := by
    decide
  intro member
  rcases List.mem_append.mp member with atStart | member
  · rcases List.mem_append.mp atStart with member | member
    · have atLeast := List.all_eq_true.mp inWord char member
      rw [decide_eq_true_eq] at atLeast
      omega
    · exact inType member
  · exact inName member

theorem newline_not_mem_packageLines
    (package : Package) :
    ∀ line ∈ packageLines package, '\n' ∉ line := by
  intro line member
  simp only [packageLines, List.mem_append, List.mem_flatMap,
    List.mem_singleton] at member
  rcases member with ⟨part, -, member⟩ | rfl
  · simp only [sectionLines, List.mem_cons, List.mem_flatMap] at member
    rcases member with rfl | rfl | ⟨entry, -, member⟩
    · exact List.not_mem_nil
    · exact control_not_mem_configLine part (by decide) (by decide)
    · exact newline_not_mem_entryLines entry line member
  · exact List.not_mem_nil

/-- No line ends with a carriage return: a value ends with a quote. -/
theorem getLast?_packageLines
    (package : Package) :
    ∀ line ∈ packageLines package, line.getLast? ≠ some '\r' := by
  have quoteLast
      (start text : List Char) :
      (start ++ ' ' :: quoted text).getLast? = some '\'' := by
    have shape :
        start ++ ' ' :: quoted text =
          (start ++ ' ' :: '\'' :: escape text) ++ ['\''] := by
      simp [quoted]
    rw [shape, List.getLast?_concat]
  intro line member
  simp only [packageLines, List.mem_append, List.mem_flatMap,
    List.mem_singleton] at member
  rcases member with ⟨part, -, member⟩ | rfl
  · simp only [sectionLines, List.mem_cons, List.mem_flatMap] at member
    rcases member with rfl | rfl | ⟨entry, -, member⟩
    · decide
    · intro last
      exact control_not_mem_configLine part (by decide) (by decide)
        (List.mem_of_getLast? last)
    · cases entry with
      | option name value =>
          rw [entryLines, List.mem_singleton] at member
          rw [member, optionLine, quoteLast]
          decide
      | list name values =>
          obtain ⟨value, -, rfl⟩ := List.mem_map.mp member
          rw [listLine, quoteLast]
          decide
  · decide

/-- The blank line at the end is ended as well. -/
theorem getLast?_packageText
    (package : Package) :
    (packageText package).getLast? = some '\n' := by
  rw [packageText, packageLines, TextLines.joinLines, List.flatMap_append]
  exact List.getLast?_concat

/-- The lines of the file are the lines that were written. -/
theorem splitLines_packageText
    (package : Package) :
    TextLines.splitLines (packageText package) = packageLines package :=
  TextLines.splitLines_joinLines (newline_not_mem_packageLines package)

end RecomputerGateway.UciFile
