import Mathlib.Data.List.DropRight
import RecomputerGateway.RustText

namespace RecomputerGateway.RustText

/-!
# Decoding and trimming in portions

What becomes of lossy decoding and of trimming when a text is cut in two and
both functions are applied to the parts.  A cut inside a character makes more
characters, a cut next to white space may lose some.
-/

/-! ## Counting what trimming keeps -/

/-- The characters that are no white space. -/
def weight (text : List Char) : Nat :=
  text.countP fun char => !isWhitespace char

@[simp] theorem weight_append
    (first second : List Char) :
    weight (first ++ second) = weight first + weight second :=
  List.countP_append

theorem isWhitespace_replacement : isWhitespace replacement = false := by
  decide

theorem weight_replacement_cons
    (text : List Char) :
    weight (replacement :: text) = weight text + 1 := by
  simp [weight, isWhitespace_replacement]

theorem weight_dropWhile
    (text : List Char) :
    weight (text.dropWhile isWhitespace) = weight text := by
  induction text with
  | nil =>
      rfl
  | cons char rest inductionHypothesis =>
      cases isWhite : isWhitespace char with
      | true =>
          rw [List.dropWhile_cons_of_pos isWhite, inductionHypothesis]
          simp [weight, isWhite]
      | false =>
          rw [List.dropWhile_cons_of_neg (by simp [isWhite])]

theorem weight_reverse
    (text : List Char) :
    weight text.reverse = weight text :=
  List.countP_reverse

/-- Trimming removes white space only. -/
theorem weight_trimChars
    (text : List Char) :
    weight (trimChars text) = weight text := by
  simp only [trimChars, weight_reverse, weight_dropWhile]

/-! ## Trimming the parts -/

/-- Nothing but white space. -/
def Blank (text : List Char) : Prop :=
  ∀ char ∈ text, isWhitespace char = true

/-- The text does not start with white space. -/
def StartsDark (text : List Char) : Prop :=
  text.dropWhile isWhitespace = text

/-- The text does not end with white space. -/
def EndsDark (text : List Char) : Prop :=
  text.rdropWhile isWhitespace = text

/-- No white space stands at a cut between characters of the text. -/
def JoinsDark (first second : List Char) : Prop :=
  Blank first ∨ Blank second ∨ EndsDark first ∧ StartsDark second

theorem trimChars_eq
    (text : List Char) :
    trimChars text =
      (text.dropWhile isWhitespace).rdropWhile isWhitespace :=
  rfl

theorem trimChars_of_blank
    {text : List Char}
    (blank : Blank text) :
    trimChars text = [] := by
  rw [trimChars_eq, List.dropWhile_eq_nil_iff.mpr blank]
  rfl

theorem trimChars_blank_append
    {first second : List Char}
    (blank : Blank first) :
    trimChars (first ++ second) = trimChars second := by
  rw [trimChars_eq, trimChars_eq, List.dropWhile_append_of_pos blank]

theorem rdropWhile_append_of_blank
    {first second : List Char}
    (blank : Blank second) :
    (first ++ second).rdropWhile isWhitespace =
      first.rdropWhile isWhitespace := by
  have reversed :
      ∀ char ∈ second.reverse, isWhitespace char = true := by
    intro char member
    exact blank char (List.mem_reverse.mp member)
  simp only [List.rdropWhile, List.reverse_append]
  rw [List.dropWhile_append_of_pos reversed]

theorem dropWhile_append_of_not_blank
    {first : List Char}
    (second : List Char)
    (dark : ¬ Blank first) :
    (first ++ second).dropWhile isWhitespace =
      first.dropWhile isWhitespace ++ second := by
  have notEmpty : (first.dropWhile isWhitespace).isEmpty = false := by
    rw [List.isEmpty_eq_false_iff]
    exact fun empty => dark (List.dropWhile_eq_nil_iff.mp empty)
  rw [List.dropWhile_append, notEmpty]
  rfl

theorem rdropWhile_append_of_not_blank
    (first : List Char)
    {second : List Char}
    (dark : ¬ Blank second) :
    (first ++ second).rdropWhile isWhitespace =
      first ++ second.rdropWhile isWhitespace := by
  have reversed : ¬ Blank second.reverse := by
    intro blank
    exact dark fun char member =>
      blank char (List.mem_reverse.mpr member)
  simp only [List.rdropWhile, List.reverse_append]
  rw [dropWhile_append_of_not_blank _ reversed, List.reverse_append,
    List.reverse_reverse]

/-- The leading white space and the rest. -/
theorem takeWhile_dropWhile
    (text : List Char) :
    text.takeWhile isWhitespace ++ text.dropWhile isWhitespace = text :=
  List.takeWhile_append_dropWhile

theorem not_blank_dropWhile
    {text : List Char}
    (dark : ¬ Blank text) :
    ¬ Blank (text.dropWhile isWhitespace) := by
  intro blank
  have whole : Blank text := by
    intro char member
    rw [← takeWhile_dropWhile text, List.mem_append] at member
    cases member with
    | inl inFront =>
        exact List.mem_takeWhile_imp inFront
    | inr behind =>
        exact blank char behind
  exact dark whole

theorem trimChars_append_blank
    {first second : List Char}
    (blank : Blank second) :
    trimChars (first ++ second) = trimChars first := by
  by_cases firstBlank : Blank first
  · rw [trimChars_blank_append firstBlank, trimChars_of_blank blank,
      trimChars_of_blank firstBlank]
  · rw [trimChars_eq, trimChars_eq,
      dropWhile_append_of_not_blank second firstBlank,
      rdropWhile_append_of_blank blank]

/-- Only the leading white space is between the two ways to trim the end. -/
theorem rdropWhile_eq_takeWhile_trimChars
    {text : List Char}
    (dark : ¬ Blank text) :
    text.rdropWhile isWhitespace =
      text.takeWhile isWhitespace ++ trimChars text := by
  have behind :=
    rdropWhile_append_of_not_blank (text.takeWhile isWhitespace)
      (not_blank_dropWhile dark)
  rwa [takeWhile_dropWhile] at behind

theorem startsDark_iff
    (text : List Char) :
    StartsDark text ↔ text.takeWhile isWhitespace = [] := by
  have parts := takeWhile_dropWhile text
  constructor
  · intro starts
    rw [StartsDark] at starts
    rw [starts] at parts
    exact List.append_left_eq_self.mp parts
  · intro noFront
    rwa [noFront, List.nil_append] at parts

theorem endsDark_iff
    {text : List Char}
    (dark : ¬ Blank text) :
    EndsDark text ↔
      (text.dropWhile isWhitespace).rtakeWhile isWhitespace = [] := by
  have parts :
      trimChars text ++
          (text.dropWhile isWhitespace).rtakeWhile isWhitespace =
        text.dropWhile isWhitespace :=
    List.rdropWhile_append_rtakeWhile ..
  have whole :
      (text.takeWhile isWhitespace ++ trimChars text) ++
          (text.dropWhile isWhitespace).rtakeWhile isWhitespace =
        text := by
    rw [List.append_assoc, parts, takeWhile_dropWhile]
  rw [EndsDark, rdropWhile_eq_takeWhile_trimChars dark]
  constructor
  · intro same
    rw [same] at whole
    exact List.append_right_eq_self.mp whole
  · intro noEnd
    rwa [noEnd, List.append_nil] at whole

/--
Trimming a whole keeps what trimming the parts loses: the white space next to
the cut, unless one of the parts is blank.
-/
theorem trimChars_append
    (first second : List Char) :
    ∃ gap,
      trimChars (first ++ second) =
          trimChars first ++ gap ++ trimChars second ∧
        (gap = [] ↔ JoinsDark first second) := by
  by_cases firstBlank : Blank first
  · refine ⟨[], ?_, iff_of_true rfl (.inl firstBlank)⟩
    rw [trimChars_blank_append firstBlank, trimChars_of_blank firstBlank]
    rfl
  · by_cases secondBlank : Blank second
    · refine ⟨[], ?_, iff_of_true rfl (.inr (.inl secondBlank))⟩
      rw [trimChars_append_blank secondBlank, trimChars_of_blank secondBlank]
      simp
    · refine
        ⟨(first.dropWhile isWhitespace).rtakeWhile isWhitespace ++
          second.takeWhile isWhitespace, ?_, ?_⟩
      · have parts :
            trimChars first ++
                (first.dropWhile isWhitespace).rtakeWhile isWhitespace =
              first.dropWhile isWhitespace :=
          List.rdropWhile_append_rtakeWhile ..
        rw [trimChars_eq (first ++ second),
          dropWhile_append_of_not_blank second firstBlank,
          rdropWhile_append_of_not_blank _ secondBlank,
          rdropWhile_eq_takeWhile_trimChars secondBlank]
        nth_rewrite 1 [← parts]
        simp only [List.append_assoc]
      · rw [List.append_eq_nil_iff, ← endsDark_iff firstBlank,
          ← startsDark_iff]
        simp [JoinsDark, firstBlank, secondBlank]

/-! ## Decoding the parts -/

/-- The bytes that a mode asks for continue a character. -/
def Utf8Mode.WellFormed : Utf8Mode → Prop
  | .start => True
  | .within _ lower upper _ => 0x80 ≤ lower ∧ upper ≤ 0xBF

/-- The byte continues the sequence that the mode is in. -/
def Utf8Mode.accepts : Utf8Mode → Nat → Bool
  | .start, _ => false
  | .within _ lower upper _, byte => lower ≤ byte && byte ≤ upper

/-- The mode behind some bytes. -/
def modeAfter : Utf8Mode → List (BitVec 8) → Utf8Mode
  | mode, [] => mode
  | mode, byte :: rest => modeAfter (utf8Step mode byte.toNat).2 rest

theorem wellFormed_leadByte
    (byte : Nat) :
    (leadByte byte).2.WellFormed := by
  unfold leadByte
  repeat' split
  all_goals simp [Utf8Mode.WellFormed]

theorem wellFormed_utf8Step
    (mode : Utf8Mode)
    (byte : Nat) :
    (utf8Step mode byte).2.WellFormed := by
  cases mode with
  | start =>
      exact wellFormed_leadByte byte
  | within left lower upper value =>
      simp only [utf8Step]
      split
      · split <;> simp [Utf8Mode.WellFormed]
      · exact wellFormed_leadByte byte

/-- A byte that a well-formed mode accepts is no lead byte. -/
theorem leadByte_of_accepts
    {mode : Utf8Mode}
    {byte : Nat}
    (wellFormed : mode.WellFormed)
    (accepts : mode.accepts byte = true) :
    leadByte byte = ([replacement], .start) := by
  cases mode with
  | start =>
      contradiction
  | within left lower upper value =>
      simp only [Utf8Mode.accepts, Bool.and_eq_true, decide_eq_true_eq]
        at accepts
      obtain ⟨lowest, highest⟩ := wellFormed
      unfold leadByte
      repeat rw [if_neg (by omega)]

/-- A byte that is not accepted is decoded as at the start. -/
theorem decodeFrom_of_not_accepts
    {mode : Utf8Mode}
    {byte : BitVec 8}
    (rest : List (BitVec 8))
    (notAccepted : mode.accepts byte.toNat = false) :
    decodeFrom mode (byte :: rest) =
      decodeFrom mode [] ++ decodeFrom .start (byte :: rest) := by
  cases mode with
  | start =>
      rfl
  | within left lower upper value =>
      have outside : ¬ (lower ≤ byte.toNat ∧ byte.toNat ≤ upper) := by
        simpa [Utf8Mode.accepts] using notAccepted
      simp [decodeFrom, utf8Step, outside]

/-- An accepted byte completes one character or leaves the sequence open. -/
theorem utf8Step_of_accepts
    {mode : Utf8Mode}
    {byte : Nat}
    (accepts : mode.accepts byte = true) :
    (∃ char, utf8Step mode byte = ([char], .start)) ∨
      (utf8Step mode byte).1 = [] := by
  cases mode with
  | start =>
      contradiction
  | within left lower upper value =>
      have inside : lower ≤ byte ∧ byte ≤ upper := by
        simpa [Utf8Mode.accepts] using accepts
      simp only [utf8Step, if_pos inside]
      split
      · exact .inl ⟨_, rfl⟩
      · exact .inr rfl

theorem weight_singleton_le
    (char : Char) :
    weight [char] ≤ 1 :=
  List.countP_le_length

/-- What is pending at the end is one character at most. -/
theorem weight_decodeFrom_nil_le
    (mode : Utf8Mode) :
    weight (decodeFrom mode []) ≤ 1 := by
  cases mode with
  | start =>
      exact Nat.zero_le 1
  | within left lower upper value =>
      exact weight_singleton_le replacement

/-- At the start an accepted byte is replaced. -/
theorem weight_decodeFrom_start
    {mode : Utf8Mode}
    {byte : BitVec 8}
    (rest : List (BitVec 8))
    (wellFormed : mode.WellFormed)
    (accepted : mode.accepts byte.toNat = true) :
    weight (decodeFrom .start (byte :: rest)) =
      weight (decodeFrom .start rest) + 1 := by
  have atStart := leadByte_of_accepts wellFormed accepted
  simp [decodeFrom, utf8Step, atStart, weight_replacement_cons]

/-- With an accepted byte the sequence stands for one character as before. -/
theorem weight_decodeFrom_accepted_le
    {mode : Utf8Mode}
    {byte : BitVec 8}
    {rest : List (BitVec 8)}
    (accepted : mode.accepts byte.toNat = true)
    (further :
      weight (decodeFrom (utf8Step mode byte.toNat).2 rest) ≤
        weight (decodeFrom .start rest) + 1) :
    weight (decodeFrom mode (byte :: rest)) ≤
      weight (decodeFrom .start rest) + 1 := by
  rw [decodeFrom, weight_append]
  cases utf8Step_of_accepts accepted with
  | inl completes =>
      obtain ⟨char, completes⟩ := completes
      rw [completes]
      have one := weight_singleton_le char
      dsimp only
      omega
  | inr staysOpen =>
      rw [staysOpen]
      have none : weight [] = 0 := rfl
      omega

/-- An open sequence stands for at most one more character. -/
theorem weight_decodeFrom_le
    {mode : Utf8Mode}
    (bytes : List (BitVec 8))
    (wellFormed : mode.WellFormed) :
    weight (decodeFrom mode bytes) ≤
      weight (decodeFrom .start bytes) + 1 := by
  induction bytes generalizing mode with
  | nil =>
      exact Nat.le_trans (weight_decodeFrom_nil_le mode)
        (Nat.le_add_left 1 _)
  | cons byte rest inductionHypothesis =>
      cases accepted : mode.accepts byte.toNat with
      | false =>
          have pending := weight_decodeFrom_nil_le mode
          rw [decodeFrom_of_not_accepts rest accepted, weight_append]
          omega
      | true =>
          have further :=
            inductionHypothesis (wellFormed_utf8Step mode byte.toNat)
          have sameWeight := weight_decodeFrom_accepted_le accepted further
          rw [weight_decodeFrom_start rest wellFormed accepted]
          omega

/-- The second part starts inside a character of the whole. -/
def Continues (first second : List (BitVec 8)) : Prop :=
  match second with
  | [] => False
  | byte :: _ => (modeAfter .start first).accepts byte.toNat = true

/-- A cut between characters does not change what is decoded. -/
theorem decodeFrom_append_of_not_accepts
    (mode : Utf8Mode)
    (first : List (BitVec 8))
    {byte : BitVec 8}
    (rest : List (BitVec 8))
    (notAccepted : (modeAfter mode first).accepts byte.toNat = false) :
    decodeFrom mode (first ++ byte :: rest) =
      decodeFrom mode first ++ decodeFrom .start (byte :: rest) := by
  induction first generalizing mode with
  | nil =>
      exact decodeFrom_of_not_accepts rest notAccepted
  | cons head tail inductionHypothesis =>
      have further := inductionHypothesis _ notAccepted
      simp only [List.cons_append, decodeFrom, further, List.append_assoc]

/-- A cut inside a character makes at least one character more. -/
theorem weight_decodeFrom_append_lt
    {mode : Utf8Mode}
    (first : List (BitVec 8))
    {byte : BitVec 8}
    (rest : List (BitVec 8))
    (wellFormed : mode.WellFormed)
    (accepted : (modeAfter mode first).accepts byte.toNat = true) :
    weight (decodeFrom mode (first ++ byte :: rest)) <
      weight (decodeFrom mode first) +
        weight (decodeFrom .start (byte :: rest)) := by
  induction first generalizing mode with
  | nil =>
      have further :=
        weight_decodeFrom_le rest (wellFormed_utf8Step mode byte.toNat)
      have whole :
          weight (decodeFrom mode (byte :: rest)) ≤
            weight (decodeFrom .start rest) + 1 :=
        weight_decodeFrom_accepted_le accepted further
      have pending : weight (decodeFrom mode []) = 1 := by
        cases mode with
        | start =>
            contradiction
        | within left lower upper value =>
            exact weight_replacement_cons []
      rw [List.nil_append, pending,
        weight_decodeFrom_start rest wellFormed accepted]
      omega
  | cons head tail inductionHypothesis =>
      have further :=
        inductionHypothesis (wellFormed_utf8Step mode head.toNat) accepted
      simp only [List.cons_append, decodeFrom, weight_append] at further ⊢
      omega

/-- Decoding the parts decodes the whole, or makes more characters. -/
theorem decodeFrom_append_cases
    (first second : List (BitVec 8)) :
    (¬ Continues first second ∧
        decodeFrom .start (first ++ second) =
          decodeFrom .start first ++ decodeFrom .start second) ∨
      (Continues first second ∧
        weight (decodeFrom .start (first ++ second)) <
          weight (decodeFrom .start first) +
            weight (decodeFrom .start second)) := by
  cases second with
  | nil =>
      exact .inl ⟨id, by simp [decodeFrom]⟩
  | cons byte rest =>
      cases accepted : (modeAfter .start first).accepts byte.toNat with
      | false =>
          refine .inl ⟨?_, ?_⟩
          · intro continues
            exact Bool.noConfusion (accepted.symm.trans continues)
          · exact decodeFrom_append_of_not_accepts .start first rest accepted
      | true =>
          exact .inr
            ⟨accepted,
              weight_decodeFrom_append_lt first rest trivial accepted⟩

end RecomputerGateway.RustText
