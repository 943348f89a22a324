import RecomputerGateway.SpanMarkup

namespace RecomputerGateway.SpanMarkup

/-!
# Searching for the parts to be marked

A search goes through the text from the left; behind a match it goes on at its
end, so matches do not overlap.

Nothing here refers to a particular way to match.
-/

variable {Symbol : Type}

/-- The words of one length that are searched for. -/
structure Words (Symbol : Type) where
  length : Nat
  accepts : List Symbol → Bool
  length_eq : ∀ {word}, accepts word = true → word.length = length

namespace Words

variable (words : Words Symbol)

/--
The segments of a text: a hit where one of the words starts, and plain symbols
between the hits.
-/
def searchFrom : Nat → List Symbol → List (Segment Symbol)
  | 0, text => text.map .plain
  | _, [] => []
  | fuel + 1, symbol :: rest =>
      if words.accepts ((symbol :: rest).take words.length) then
        .hit ((symbol :: rest).take words.length) ::
          searchFrom fuel ((symbol :: rest).drop words.length)
      else .plain symbol :: searchFrom fuel rest

def search (text : List Symbol) : List (Segment Symbol) :=
  words.searchFrom text.length text

/-- One of the words stands somewhere in the text. -/
def Occurs (text : List Symbol) : Prop :=
  ∃ front word rest,
    text = front ++ (word ++ rest) ∧ words.accepts word = true

/-- These segments are what a search finds in the text. -/
inductive Segmented : List Symbol → List (Segment Symbol) → Prop where
  | nil : Segmented [] []
  | plain
      {symbol : Symbol}
      {rest : List Symbol}
      {segments : List (Segment Symbol)}
      (noWord :
        ∀ word behind,
          symbol :: rest = word ++ behind → words.accepts word = false)
      (remainder : Segmented rest segments) :
      Segmented (symbol :: rest) (.plain symbol :: segments)
  | hit
      {word rest : List Symbol}
      {segments : List (Segment Symbol)}
      (isWord : words.accepts word = true)
      (remainder : Segmented rest segments) :
      Segmented (word ++ rest) (.hit word :: segments)

variable {words}

theorem segmented_searchFrom
    (positive : 0 < words.length)
    {fuel : Nat}
    {text : List Symbol}
    (enough : text.length ≤ fuel) :
    words.Segmented text (words.searchFrom fuel text) := by
  induction fuel generalizing text with
  | zero =>
      rw [List.eq_nil_of_length_eq_zero (Nat.le_zero.mp enough)]
      exact .nil
  | succ fuel inductionHypothesis =>
      cases text with
      | nil =>
          exact .nil
      | cons symbol rest =>
          have restFits : rest.length ≤ fuel := Nat.le_of_succ_le_succ enough
          rw [searchFrom]
          split
          next isWord =>
            have shorter :
                ((symbol :: rest).drop words.length).length ≤ fuel := by
              rw [List.length_drop, List.length_cons]
              omega
            have segmented := Segmented.hit isWord (inductionHypothesis shorter)
            rwa [List.take_append_drop] at segmented
          next notWord =>
            refine .plain ?_ (inductionHypothesis restFits)
            intro word behind parts
            rw [← Bool.not_eq_true]
            intro isWord
            apply notWord
            rw [parts, ← words.length_eq isWord, List.take_left]
            exact isWord

theorem segmented_search
    (positive : 0 < words.length)
    (text : List Symbol) :
    words.Segmented text (words.search text) :=
  segmented_searchFrom positive (Nat.le_refl _)

theorem ne_nil_of_accepts
    (positive : 0 < words.length)
    {word : List Symbol}
    (isWord : words.accepts word = true) :
    word ≠ [] := by
  rintro rfl
  exact Nat.ne_of_lt positive (words.length_eq isWord)

namespace Segmented

variable
  {text : List Symbol}
  {segments : List (Segment Symbol)}

/-- The segments make up the text. -/
theorem content_eq
    (segmented : words.Segmented text segments) :
    content segments = text := by
  induction segmented with
  | nil => rfl
  | plain noWord remainder inductionHypothesis =>
      rw [content, inductionHypothesis]
  | hit isWord remainder inductionHypothesis =>
      rw [content, inductionHypothesis]

/-- Nothing is put around anything where no word occurs. -/
theorem wrap_eq_self
    (segmented : words.Segmented text segments)
    (tags : Tags Symbol)
    (absent : ¬ words.Occurs text) :
    wrap tags segments = text := by
  induction segmented with
  | nil =>
      rfl
  | @plain symbol rest segments noWord remainder inductionHypothesis =>
      rw [wrap, inductionHypothesis]
      rintro ⟨front, word, behind, rfl, isWord⟩
      exact absent ⟨symbol :: front, word, behind, rfl, isWord⟩
  | @hit word rest segments isWord remainder inductionHypothesis =>
      exact absurd ⟨[], word, rest, rfl, isWord⟩ absent

/-- A tag is put in where a word occurs. -/
theorem left_mem_wrap
    (segmented : words.Segmented text segments)
    (positive : 0 < words.length)
    (tags : Tags Symbol)
    (occurs : words.Occurs text) :
    tags.left ∈ wrap tags segments := by
  induction segmented with
  | nil =>
      obtain ⟨front, word, behind, isEmpty, isWord⟩ := occurs
      rw [List.nil_eq, List.append_eq_nil_iff,
        List.append_eq_nil_iff] at isEmpty
      exact absurd isEmpty.2.1 (ne_nil_of_accepts positive isWord)
  | @plain symbol rest segments noWord remainder inductionHypothesis =>
      obtain ⟨front, word, behind, parts, isWord⟩ := occurs
      cases front with
      | nil =>
          rw [noWord word behind parts] at isWord
          cases isWord
      | cons first others =>
          obtain ⟨-, restParts⟩ := List.cons.inj parts
          exact
            .tail symbol
              (inductionHypothesis
                ⟨others, word, behind, restParts, isWord⟩)
  | hit isWord remainder inductionHypothesis =>
      exact .head _

/-! ## Words without brackets -/

variable [DecidableEq Symbol] {tags : Tags Symbol}

/-- In a text without tags nothing is found within a tag. -/
theorem hitsOutside_of_untagged
    (segmented : words.Segmented text segments)
    (untagged : tags.left ∉ text) :
    HitsOutside tags .outside segments := by
  induction segmented with
  | nil =>
      trivial
  | @plain symbol rest segments noWord remainder inductionHypothesis =>
      have notLeft : symbol ≠ tags.left := fun same =>
        untagged (same ▸ .head rest)
      rw [HitsOutside, next, if_neg notLeft]
      exact inductionHypothesis fun member => untagged (.tail symbol member)
  | @hit word rest segments isWord remainder inductionHypothesis =>
      rw [List.mem_append, not_or] at untagged
      exact
        ⟨rfl, scan_untagged untagged.1, inductionHypothesis untagged.2⟩

end Segmented

/-- The words have no brackets. -/
def BracketFree (words : Words Symbol) (tags : Tags Symbol) : Prop :=
  ∀ word, words.accepts word = true → tags.Plain word

theorem not_occurs_nil
    (positive : 0 < words.length) :
    ¬ words.Occurs [] := by
  rintro ⟨front, word, behind, isEmpty, isWord⟩
  have noWord : word = [] := by
    have parts := List.append_eq_nil_iff.mp isEmpty.symm
    exact (List.append_eq_nil_iff.mp parts.2).1
  exact ne_nil_of_accepts positive isWord noWord

theorem occurs_cons
    {symbol : Symbol}
    {rest : List Symbol}
    (occurs : words.Occurs (symbol :: rest)) :
    (∃ word behind,
      symbol :: rest = word ++ behind ∧ words.accepts word = true) ∨
        words.Occurs rest := by
  obtain ⟨front, word, behind, parts, isWord⟩ := occurs
  cases front with
  | nil =>
      exact .inl ⟨word, behind, parts, isWord⟩
  | cons first others =>
      exact
        .inr ⟨others, word, behind, (List.cons.inj parts).2, isWord⟩

namespace Segmented

variable
  [DecidableEq Symbol]
  {tags : Tags Symbol}
  {text : List Symbol}
  {segments : List (Segment Symbol)}

/-- Where a search inside a tag finds nothing, there is nothing to find. -/
theorem not_occurs_of_inside
    (segmented : words.Segmented text segments)
    (positive : 0 < words.length)
    (outside : HitsOutside tags .inside segments)
    {body rest : List Symbol}
    (parts : text = body ++ tags.right :: rest)
    (plain : tags.Plain body) :
    ¬ words.Occurs body := by
  induction segmented generalizing body with
  | nil =>
      simp at parts
  | @plain symbol behind segments noWord remainder inductionHypothesis =>
      cases body with
      | nil =>
          exact not_occurs_nil positive
      | cons first others =>
          obtain ⟨rfl, restParts⟩ := List.cons.inj parts
          obtain ⟨firstPlain, othersPlain⟩ := plain_cons_iff.mp plain
          rw [HitsOutside, next_plain firstPlain] at outside
          intro occurs
          rcases occurs_cons occurs with ⟨word, more, whole, isWord⟩ | later
          · have atStart :
                symbol :: behind = word ++ (more ++ tags.right :: rest) := by
              rw [parts, whole, List.append_assoc]
            rw [noWord word _ atStart] at isWord
            cases isWord
          · exact inductionHypothesis outside restParts othersPlain later
  | hit isWord remainder inductionHypothesis =>
      cases outside.1

/-- A search that finds nothing within tags gets into a tag with a bracket. -/
theorem enter
    (segmented : words.Segmented text segments)
    (bracketFree : words.BracketFree tags)
    {place : Place}
    (outside : HitsOutside tags place segments)
    {front more : List Symbol}
    (parts : text = front ++ tags.left :: more)
    (begins : scan tags place front = .outside) :
    ∃ later,
      words.Segmented more later ∧ HitsOutside tags .inside later := by
  induction segmented generalizing place front with
  | nil =>
      simp at parts
  | @plain symbol behind segments noWord remainder inductionHypothesis =>
      cases front with
      | nil =>
          obtain ⟨rfl, rfl⟩ := List.cons.inj parts
          rw [scan_nil] at begins
          rw [begins, HitsOutside, next, if_pos rfl] at outside
          exact ⟨segments, remainder, outside⟩
      | cons first others =>
          obtain ⟨rfl, restParts⟩ := List.cons.inj parts
          exact inductionHypothesis outside restParts begins
  | @hit word behind segments isWord remainder inductionHypothesis =>
      obtain ⟨rfl, ends, later⟩ := outside
      rcases List.append_eq_append_iff.mp parts with
        ⟨others, inFront, restParts⟩ | ⟨others, beyond, restParts⟩
      · rw [inFront, scan_append, ends] at begins
        exact inductionHypothesis later restParts begins
      · cases others with
        | nil =>
            rw [List.append_nil] at beyond
            rw [← beyond] at begins
            have atLeft : behind = [] ++ tags.left :: more := restParts.symm
            exact inductionHypothesis later atLeft rfl
        | cons first tail =>
            obtain ⟨rfl, -⟩ := List.cons.inj restParts
            have inWord : tags.left ∈ word := by
              rw [beyond]
              exact List.mem_append_right front (.head tail)
            exact absurd inWord (bracketFree word isWord).1

/-- So no word occurs in the body of a tag of the text. -/
theorem not_occurs_body
    (segmented : words.Segmented text segments)
    (positive : 0 < words.length)
    (bracketFree : words.BracketFree tags)
    (outside : HitsOutside tags .outside segments)
    {body : List Symbol}
    (hasTag : HasTag tags (tags.tagOf body) text)
    (plain : tags.Plain body) :
    ¬ words.Occurs body := by
  obtain ⟨front, rest, parts, begins⟩ := hasTag
  rw [tags.tagOf_append] at parts
  obtain ⟨later, laterSegmented, laterOutside⟩ :=
    segmented.enter bracketFree outside parts begins
  exact laterSegmented.not_occurs_of_inside positive laterOutside rfl plain

/-- The other way round, a search for other words finds nothing within tags. -/
theorem hitsOutside_of_markup
    (segmented : words.Segmented text segments)
    (bracketFree : words.BracketFree tags)
    (notInOpen : ¬ words.Occurs tags.openBody)
    (notInClose : ¬ words.Occurs tags.closeBody)
    {depth final : Nat}
    {plain : List Symbol}
    (markup : tags.Markup depth text final plain) :
    HitsOutside tags .outside segments := by
  -- The search may be inside a tag, with the rest of its body ahead.
  suffices both :
      (∀ depth plain,
        tags.Markup depth text final plain →
          HitsOutside tags .outside segments) ∧
      ∀ body rest depth plain,
        text = body ++ tags.right :: rest →
          tags.Plain body →
            ¬ words.Occurs body →
              tags.Markup depth rest final plain →
                HitsOutside tags .inside segments from
    both.1 depth plain markup
  clear markup
  induction segmented with
  | nil =>
      exact ⟨fun _ _ _ => trivial, fun _ _ _ _ _ _ _ _ => trivial⟩
  | @plain symbol behind segments noWord remainder inductionHypothesis =>
      obtain ⟨whenOutside, whenInside⟩ := inductionHypothesis
      constructor
      · intro depth plain markup
        generalize together : symbol :: behind = text at markup
        cases markup with
        | done =>
            cases together
        | @symbol _ _ first rest _ notLeft later =>
            obtain ⟨rfl, rfl⟩ := List.cons.inj together
            rw [HitsOutside, next, if_neg notLeft]
            exact whenOutside _ _ later
        | @opened _ _ rest _ later =>
            rw [Tags.openTag, tags.tagOf_append] at together
            obtain ⟨rfl, restParts⟩ := List.cons.inj together
            rw [HitsOutside, next, if_pos rfl]
            exact
              whenInside tags.openBody rest _ _ restParts
                tags.openBody_plain notInOpen later
        | @closed depth _ rest _ later =>
            rw [Tags.closeTag, tags.tagOf_append] at together
            obtain ⟨rfl, restParts⟩ := List.cons.inj together
            rw [HitsOutside, next, if_pos rfl]
            exact
              whenInside tags.closeBody rest _ _ restParts
                tags.closeBody_plain notInClose later
      · intro body rest depth plain parts bodyPlain notInBody later
        cases body with
        | nil =>
            obtain ⟨rfl, rfl⟩ := List.cons.inj parts
            rw [HitsOutside, next, if_neg tags.right_ne_left, if_pos rfl]
            exact whenOutside _ _ later
        | cons first others =>
            obtain ⟨rfl, restParts⟩ := List.cons.inj parts
            obtain ⟨firstPlain, othersPlain⟩ := plain_cons_iff.mp bodyPlain
            rw [HitsOutside, next_plain firstPlain]
            refine whenInside others rest _ _ restParts othersPlain ?_ later
            rintro ⟨front, word, more, rfl, isWord⟩
            exact notInBody ⟨symbol :: front, word, more, rfl, isWord⟩
  | @hit word behind segments isWord remainder inductionHypothesis =>
      have wordPlain := bracketFree word isWord
      constructor
      · intro depth plain markup
        have ends : scan tags .outside word = .outside :=
          scan_plain wordPlain .outside
        obtain ⟨between, wordText, behindText, -, behindMarkup, -⟩ :=
          markup.split ends
        exact ⟨rfl, ends, inductionHypothesis.1 _ _ behindMarkup⟩
      · intro body rest depth plain parts bodyPlain notInBody later
        exfalso
        rcases List.append_eq_append_iff.mp parts with
          ⟨others, inBody, -⟩ | ⟨others, beyond, restParts⟩
        · exact notInBody ⟨[], word, others, inBody, isWord⟩
        · cases others with
          | nil =>
              rw [List.append_nil] at beyond
              exact
                notInBody
                  ⟨[], word, [], by rw [beyond, List.nil_append,
                    List.append_nil], isWord⟩
          | cons first tail =>
              obtain ⟨rfl, -⟩ := List.cons.inj restParts
              apply wordPlain.2
              rw [beyond]
              exact List.mem_append_right body (.head tail)

end Segmented

end Words

end RecomputerGateway.SpanMarkup
