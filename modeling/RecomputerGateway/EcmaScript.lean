import Mathlib.Data.List.DropRight

namespace RecomputerGateway.EcmaScript

/-!
# Strings of ECMAScript

A string is a sequence of code units of 16 bits, and most functions look at
these.  What a function of the web pages needs of regular expressions is here,
too: a pattern of single characters, compared without regard to case.
-/

/-- White space and line ends, by their code. -/
def isWhiteSpace (code : Nat) : Bool :=
  (9 ≤ code && code ≤ 13) || code == 0x20 || code == 0xA0 ||
    code == 0x1680 || (0x2000 ≤ code && code ≤ 0x200A) ||
    code == 0x2028 || code == 0x2029 || code == 0x202F ||
    code == 0x205F || code == 0x3000 || code == 0xFEFF

/-- `trim`, for characters with these codes. -/
def trim {Symbol : Type} (code : Symbol → Nat) (text : List Symbol) :
    List Symbol :=
  (text.dropWhile fun symbol => isWhiteSpace (code symbol)).rdropWhile
    fun symbol => isWhiteSpace (code symbol)

/-- A code unit. -/
abbrev CodeUnit := BitVec 16

abbrev Text := List CodeUnit

/-- The code units of a text within the basic plane. -/
def units (text : String) : Text :=
  text.toList.map fun char => BitVec.ofNat 16 char.toNat

/-- `split(separator)`, for a separator of one code unit. -/
def split (separator : CodeUnit) : Text → List Text
  | [] => [[]]
  | unit :: rest =>
      if unit = separator then [] :: split separator rest
      else
        match split separator rest with
        | [] => [[unit]]
        | first :: others => (unit :: first) :: others

/-- `split(/\s+/)`, from the inside of white space on or not. -/
def splitSpacesFrom : Bool → Text → List Text
  | _, [] => [[]]
  | within, unit :: rest =>
      if isWhiteSpace unit.toNat then
        if within then splitSpacesFrom true rest
        else [] :: splitSpacesFrom true rest
      else
        match splitSpacesFrom false rest with
        | [] => [[unit]]
        | first :: others => (unit :: first) :: others

/-- `split(/\s+/)`. -/
def splitSpaces (text : Text) : List Text :=
  splitSpacesFrom false text

/-- `join(separator)`. -/
def join (separator : CodeUnit) : List Text → Text
  | [] => []
  | [text] => text
  | text :: next :: rest => text ++ separator :: join separator (next :: rest)

/-! ## Patterns -/

/-- The characters that have a meaning in a regular expression. -/
def isSyntaxCharacter (unit : CodeUnit) : Bool :=
  unit ∈ units ".*+?^$\x7b\x7d()|[]\\"

/-- The backslash, which takes a syntax character its meaning. -/
def backslash : CodeUnit := 92

/-- What is matched by a pattern of plain and escaped characters. -/
def patternText : Text → Text
  | [] => []
  | [unit] => [unit]
  | unit :: next :: rest =>
      if unit = backslash then next :: patternText rest
      else unit :: patternText (next :: rest)

/--
How characters are compared with the flag `i`.  No other character is equal to
an angle bracket then.
-/
structure CaseFolding where
  canonicalize : CodeUnit → CodeUnit
  canonicalize_less :
    ∀ {unit}, canonicalize unit = canonicalize 60 → unit = 60
  canonicalize_greater :
    ∀ {unit}, canonicalize unit = canonicalize 62 → unit = 62

/-- The pattern matches this word. -/
def isMatch (folding : CaseFolding) (pattern word : Text) : Bool :=
  word.map folding.canonicalize = pattern.map folding.canonicalize

end RecomputerGateway.EcmaScript
