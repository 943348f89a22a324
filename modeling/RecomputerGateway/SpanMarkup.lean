import Mathlib.Data.List.Basic

namespace RecomputerGateway.SpanMarkup

/-!
# Spans in a text

A text is marked up with one kind of span, whose tags stand in brackets.  This
module follows such a text from one tag to the next, and asks what is left of
the tags when further spans are put around parts of the text.

Nothing here refers to particular tags.
-/

variable {Symbol : Type}

/-- An opening and a closing tag; brackets stand at their ends only. -/
structure Tags (Symbol : Type) where
  left : Symbol
  right : Symbol
  openBody : List Symbol
  closeBody : List Symbol
  right_ne_left : right ≠ left
  openBody_plain : left ∉ openBody ∧ right ∉ openBody
  closeBody_plain : left ∉ closeBody ∧ right ∉ closeBody

namespace Tags

variable (tags : Tags Symbol)

/-- No bracket stands in the text. -/
def Plain (text : List Symbol) : Prop :=
  tags.left ∉ text ∧ tags.right ∉ text

def tagOf (body : List Symbol) : List Symbol :=
  tags.left :: (body ++ [tags.right])

theorem tagOf_append (body rest : List Symbol) :
    tags.tagOf body ++ rest = tags.left :: (body ++ tags.right :: rest) := by
  simp [tagOf]

def openTag : List Symbol := tags.tagOf tags.openBody

def closeTag : List Symbol := tags.tagOf tags.closeBody

/--
From one number of open spans to another, the text consists of symbols other
than the left bracket and of whole tags; without its tags it is the plain text.
-/
inductive Markup : Nat → List Symbol → Nat → List Symbol → Prop where
  | done (depth : Nat) :
      Markup depth [] depth []
  | symbol
      {depth final : Nat}
      {symbol : Symbol}
      {rest plain : List Symbol}
      (notLeft : symbol ≠ tags.left)
      (remainder : Markup depth rest final plain) :
      Markup depth (symbol :: rest) final (symbol :: plain)
  | opened
      {depth final : Nat}
      {rest plain : List Symbol}
      (remainder : Markup (depth + 1) rest final plain) :
      Markup depth (tags.openTag ++ rest) final plain
  | closed
      {depth final : Nat}
      {rest plain : List Symbol}
      (remainder : Markup depth rest final plain) :
      Markup (depth + 1) (tags.closeTag ++ rest) final plain

end Tags

/-- Where a reader that only looks at the brackets is. -/
inductive Place where
  | outside
  /-- Behind a left bracket. -/
  | inside
  /-- Behind two left brackets without a right one between them. -/
  | broken
  deriving DecidableEq

/-- A part of a text, which may become the content of a span. -/
inductive Segment (Symbol : Type) where
  | plain (symbol : Symbol)
  | hit (matched : List Symbol)
  deriving DecidableEq

/-- The text with these parts. -/
def content : List (Segment Symbol) → List Symbol
  | [] => []
  | .plain symbol :: rest => symbol :: content rest
  | .hit matched :: rest => matched ++ content rest

/-- The text with a span around every hit. -/
def wrap (tags : Tags Symbol) : List (Segment Symbol) → List Symbol
  | [] => []
  | .plain symbol :: rest => symbol :: wrap tags rest
  | .hit matched :: rest =>
      tags.openTag ++ matched ++ tags.closeTag ++ wrap tags rest

/-- Spans take no symbol away. -/
theorem content_sublist_wrap
    (tags : Tags Symbol)
    (segments : List (Segment Symbol)) :
    (content segments).Sublist (wrap tags segments) := by
  induction segments with
  | nil =>
      exact .slnil
  | cons segment rest inductionHypothesis =>
      cases segment with
      | plain symbol =>
          exact .cons_cons symbol inductionHypothesis
      | hit matched =>
          have inSpan :
              matched.Sublist (tags.openTag ++ matched ++ tags.closeTag) :=
            (List.sublist_append_right tags.openTag matched).trans
              (List.sublist_append_left _ tags.closeTag)
          exact inSpan.append inductionHypothesis

theorem plain_cons_iff
    {tags : Tags Symbol}
    {symbol : Symbol}
    {rest : List Symbol} :
    tags.Plain (symbol :: rest) ↔
      (symbol ≠ tags.left ∧ symbol ≠ tags.right) ∧ tags.Plain rest := by
  unfold Tags.Plain
  rw [List.mem_cons, List.mem_cons, not_or, not_or]
  constructor
  · rintro ⟨⟨notLeft, noLeft⟩, notRight, noRight⟩
    exact ⟨⟨Ne.symm notLeft, Ne.symm notRight⟩, noLeft, noRight⟩
  · rintro ⟨⟨notLeft, notRight⟩, noLeft, noRight⟩
    exact ⟨⟨Ne.symm notLeft, noLeft⟩, Ne.symm notRight, noRight⟩

section Reading

variable [DecidableEq Symbol] (tags : Tags Symbol)

/-- One symbol of the text. -/
def next : Place → Symbol → Place
  | .outside, symbol => if symbol = tags.left then .inside else .outside
  | .inside, symbol =>
      if symbol = tags.left then .broken
      else if symbol = tags.right then .outside else .inside
  | .broken, _ => .broken

def scan (place : Place) (text : List Symbol) : Place :=
  text.foldl (next tags) place

/-- Every hit begins and ends outside of the tags. -/
def HitsOutside : Place → List (Segment Symbol) → Prop
  | _, [] => True
  | place, .plain symbol :: rest => HitsOutside (next tags place symbol) rest
  | place, .hit matched :: rest =>
      place = .outside ∧ scan tags place matched = .outside ∧
        HitsOutside .outside rest

variable {tags}

@[simp] theorem scan_nil (place : Place) : scan tags place [] = place :=
  rfl

@[simp] theorem scan_cons
    (place : Place)
    (symbol : Symbol)
    (rest : List Symbol) :
    scan tags place (symbol :: rest) =
      scan tags (next tags place symbol) rest :=
  rfl

theorem scan_append
    (place : Place)
    (first second : List Symbol) :
    scan tags place (first ++ second) =
      scan tags (scan tags place first) second :=
  List.foldl_append

@[simp] theorem scan_broken (text : List Symbol) :
    scan tags .broken text = .broken := by
  induction text with
  | nil => rfl
  | cons symbol rest inductionHypothesis => exact inductionHypothesis

/-- A symbol that is no bracket leads nowhere. -/
theorem next_plain
    {symbol : Symbol}
    (plain : symbol ≠ tags.left ∧ symbol ≠ tags.right)
    (place : Place) :
    next tags place symbol = place := by
  cases place with
  | outside => exact if_neg plain.1
  | inside => rw [next, if_neg plain.1, if_neg plain.2]
  | broken => rfl

/-- Text without brackets does not lead into a tag or out of one. -/
theorem scan_plain
    {text : List Symbol}
    (plain : tags.Plain text)
    (place : Place) :
    scan tags place text = place := by
  induction text with
  | nil =>
      rfl
  | cons symbol rest inductionHypothesis =>
      obtain ⟨symbolPlain, restPlain⟩ := plain_cons_iff.mp plain
      rw [scan_cons, next_plain symbolPlain]
      exact inductionHypothesis restPlain

/-- Outside, only a left bracket leads into a tag. -/
theorem scan_untagged
    {text : List Symbol}
    (untagged : tags.left ∉ text) :
    scan tags .outside text = .outside := by
  induction text with
  | nil =>
      rfl
  | cons symbol rest inductionHypothesis =>
      have notLeft : symbol ≠ tags.left := fun same =>
        untagged (same ▸ .head rest)
      rw [scan_cons, next, if_neg notLeft]
      exact inductionHypothesis fun member => untagged (.tail symbol member)

/-- A whole tag leads back to where it has begun. -/
theorem scan_tagOf
    {body : List Symbol}
    (plain : tags.Plain body) :
    scan tags .outside (tags.tagOf body) = .outside := by
  rw [Tags.tagOf, scan_cons, next, if_pos rfl, scan_append, scan_plain plain]
  simp [next, tags.right_ne_left]

/-- A tag within a tag breaks it. -/
theorem scan_tagOf_eq_broken
    {place : Place}
    (notOutside : place ≠ .outside)
    (body : List Symbol) :
    scan tags place (tags.tagOf body) = .broken := by
  cases place with
  | outside => contradiction
  | inside => rw [Tags.tagOf, scan_cons, next, if_pos rfl, scan_broken]
  | broken => exact scan_broken _

/-- The beginning of a tag leads into it. -/
theorem scan_beginning
    {body beginning rest : List Symbol}
    (plain : tags.Plain body)
    (parts : tags.tagOf body = beginning ++ rest)
    (begun : beginning ≠ [])
    (unfinished : rest ≠ []) :
    scan tags .outside beginning = .inside := by
  cases beginning with
  | nil =>
      contradiction
  | cons first others =>
      obtain ⟨sameFirst, sameRest⟩ := List.cons.inj parts
      subst sameFirst
      have inBody : others <+: body := by
        have starts : others <+: body ++ [tags.right] :=
          ⟨rest, sameRest.symm⟩
        rcases List.prefix_concat_iff.mp starts with whole | within
        · subst whole
          exact absurd (List.self_eq_append_right.mp sameRest) unfinished
        · exact within
      have othersPlain : tags.Plain others :=
        ⟨fun member => plain.1 (inBody.subset member),
          fun member => plain.2 (inBody.subset member)⟩
      rw [scan_cons, next, if_pos rfl, scan_plain othersPlain]

/-- A cut outside is in front of a tag or behind it. -/
theorem cut_tagOf
    {body first second rest : List Symbol}
    (plain : tags.Plain body)
    (together : first ++ second = tags.tagOf body ++ rest)
    (outside : scan tags .outside first = .outside) :
    first = [] ∨
      ∃ more, first = tags.tagOf body ++ more ∧ rest = more ++ second := by
  rcases List.append_eq_append_iff.mp together with
    ⟨unfinished, whole, -⟩ | ⟨more, beyond, remains⟩
  · by_cases begun : first = []
    · exact .inl begun
    · by_cases finished : unfinished = []
      · rw [finished, List.append_nil] at whole
        refine .inr ⟨[], by rw [whole, List.append_nil], ?_⟩
        rw [whole] at together
        exact (List.append_cancel_left together).symm
      · have isInside := scan_beginning plain whole begun finished
        cases outside.symm.trans isInside
  · exact .inr ⟨more, beyond, remains.symm ▸ rfl⟩

variable (tags) in
/-- This tag stands in the text. -/
def HasTag (tag text : List Symbol) : Prop :=
  ∃ front rest,
    text = front ++ (tag ++ rest) ∧ scan tags .outside front = .outside

theorem HasTag.cons
    {tag text : List Symbol}
    {symbol : Symbol}
    (hasTag : HasTag tags tag text)
    (notLeft : symbol ≠ tags.left) :
    HasTag tags tag (symbol :: text) := by
  obtain ⟨front, rest, rfl, begins⟩ := hasTag
  refine ⟨symbol :: front, rest, rfl, ?_⟩
  rwa [scan_cons, next, if_neg notLeft]

theorem HasTag.behind
    {tag text body : List Symbol}
    (hasTag : HasTag tags tag text)
    (plain : tags.Plain body) :
    HasTag tags tag (tags.tagOf body ++ text) := by
  obtain ⟨front, rest, rfl, begins⟩ := hasTag
  refine ⟨tags.tagOf body ++ front, rest, by rw [List.append_assoc], ?_⟩
  rwa [scan_append, scan_tagOf plain]

end Reading

namespace Tags.Markup

variable {tags : Tags Symbol}

/-- Marked-up texts follow one another. -/
theorem trans
    {depth between final : Nat}
    {first second firstPlain secondPlain : List Symbol}
    (earlier : tags.Markup depth first between firstPlain)
    (later : tags.Markup between second final secondPlain) :
    tags.Markup depth (first ++ second) final (firstPlain ++ secondPlain) := by
  induction earlier with
  | done depth =>
      exact later
  | symbol notLeft remainder inductionHypothesis =>
      exact .symbol notLeft (inductionHypothesis later)
  | opened remainder inductionHypothesis =>
      rw [List.append_assoc]
      exact .opened (inductionHypothesis later)
  | closed remainder inductionHypothesis =>
      rw [List.append_assoc]
      exact .closed (inductionHypothesis later)

/-- What is within one more span does not notice it. -/
theorem deeper
    {depth final : Nat}
    {text plain : List Symbol}
    (markup : tags.Markup depth text final plain) :
    tags.Markup (depth + 1) text (final + 1) plain := by
  induction markup with
  | done depth =>
      exact .done (depth + 1)
  | symbol notLeft remainder inductionHypothesis =>
      exact .symbol notLeft inductionHypothesis
  | opened remainder inductionHypothesis =>
      exact .opened inductionHypothesis
  | closed remainder inductionHypothesis =>
      exact .closed inductionHypothesis

variable [DecidableEq Symbol]

/-- A reader of the brackets ends outside. -/
theorem scan_eq
    {depth final : Nat}
    {text plain : List Symbol}
    (markup : tags.Markup depth text final plain) :
    scan tags .outside text = .outside := by
  induction markup with
  | done depth =>
      rfl
  | symbol notLeft remainder inductionHypothesis =>
      rw [scan_cons, next, if_neg notLeft]
      exact inductionHypothesis
  | opened remainder inductionHypothesis =>
      rw [scan_append, openTag, scan_tagOf tags.openBody_plain]
      exact inductionHypothesis
  | closed remainder inductionHypothesis =>
      rw [scan_append, closeTag, scan_tagOf tags.closeBody_plain]
      exact inductionHypothesis

/-- A cut outside of the tags has a marked-up text on both sides. -/
theorem split
    {depth final : Nat}
    {first second plain : List Symbol}
    (markup : tags.Markup depth (first ++ second) final plain)
    (outside : scan tags .outside first = .outside) :
    ∃ between firstPlain secondPlain,
      tags.Markup depth first between firstPlain ∧
        tags.Markup between second final secondPlain ∧
          plain = firstPlain ++ secondPlain := by
  generalize together : first ++ second = text at markup
  induction markup generalizing first with
  | done depth =>
      obtain ⟨rfl, rfl⟩ := List.append_eq_nil_iff.mp together
      exact ⟨depth, [], [], .done depth, .done depth, rfl⟩
  | @symbol depth final symbol rest plain notLeft remainder
      inductionHypothesis =>
      cases first with
      | nil =>
          subst together
          exact ⟨depth, [], _, .done depth, .symbol notLeft remainder, rfl⟩
      | cons head others =>
          obtain ⟨sameHead, sameRest⟩ := List.cons.inj together
          subst sameHead
          rw [scan_cons, next, if_neg notLeft] at outside
          obtain ⟨between, firstPlain, secondPlain, firstMarkup,
              secondMarkup, rfl⟩ :=
            inductionHypothesis outside sameRest
          exact
            ⟨between, head :: firstPlain, secondPlain,
              .symbol notLeft firstMarkup, secondMarkup, rfl⟩
  | @opened depth final rest plain remainder inductionHypothesis =>
      rcases cut_tagOf tags.openBody_plain together outside with
        rfl | ⟨more, rfl, rfl⟩
      · subst together
        exact ⟨depth, [], plain, .done depth, .opened remainder, rfl⟩
      · rw [scan_append, scan_tagOf tags.openBody_plain] at outside
        obtain ⟨between, firstPlain, secondPlain, firstMarkup, secondMarkup,
            rfl⟩ :=
          inductionHypothesis outside rfl
        exact
          ⟨between, firstPlain, secondPlain, .opened firstMarkup,
            secondMarkup, rfl⟩
  | @closed depth final rest plain remainder inductionHypothesis =>
      rcases cut_tagOf tags.closeBody_plain together outside with
        rfl | ⟨more, rfl, rfl⟩
      · subst together
        exact ⟨depth + 1, [], plain, .done _, .closed remainder, rfl⟩
      · rw [scan_append, scan_tagOf tags.closeBody_plain] at outside
        obtain ⟨between, firstPlain, secondPlain, firstMarkup, secondMarkup,
            rfl⟩ :=
          inductionHypothesis outside rfl
        exact
          ⟨between, firstPlain, secondPlain, .closed firstMarkup,
            secondMarkup, rfl⟩

/-- A text with tags opens a span, unless more are closed than opened. -/
theorem openTag_or
    {depth final : Nat}
    {text plain : List Symbol}
    (markup : tags.Markup depth text final plain) :
    HasTag tags tags.openTag text ∨
      (tags.left ∉ text ∧ final = depth) ∨ final < depth := by
  induction markup with
  | done depth =>
      exact .inr (.inl ⟨List.not_mem_nil, rfl⟩)
  | symbol notLeft remainder inductionHypothesis =>
      rcases inductionHypothesis with hasTag | ⟨noLeft, same⟩ | fewer
      · exact .inl (hasTag.cons notLeft)
      · have stillNone :=
          List.not_mem_cons_of_ne_of_not_mem notLeft.symm noLeft
        exact .inr (.inl ⟨stillNone, same⟩)
      · exact .inr (.inr fewer)
  | opened remainder inductionHypothesis =>
      exact .inl ⟨[], _, rfl, rfl⟩
  | closed remainder inductionHypothesis =>
      rcases inductionHypothesis with hasTag | ⟨-, rfl⟩ | fewer
      · exact .inl (hasTag.behind tags.closeBody_plain)
      · exact .inr (.inr (Nat.lt_succ_self _))
      · exact .inr (.inr (Nat.lt_succ_of_lt fewer))

/-- It closes a span, unless more are opened than closed. -/
theorem closeTag_or
    {depth final : Nat}
    {text plain : List Symbol}
    (markup : tags.Markup depth text final plain) :
    HasTag tags tags.closeTag text ∨
      (tags.left ∉ text ∧ final = depth) ∨ depth < final := by
  induction markup with
  | done depth =>
      exact .inr (.inl ⟨List.not_mem_nil, rfl⟩)
  | symbol notLeft remainder inductionHypothesis =>
      rcases inductionHypothesis with hasTag | ⟨noLeft, same⟩ | more
      · exact .inl (hasTag.cons notLeft)
      · have stillNone :=
          List.not_mem_cons_of_ne_of_not_mem notLeft.symm noLeft
        exact .inr (.inl ⟨stillNone, same⟩)
      · exact .inr (.inr more)
  | opened remainder inductionHypothesis =>
      rcases inductionHypothesis with hasTag | ⟨-, rfl⟩ | more
      · exact .inl (hasTag.behind tags.openBody_plain)
      · exact .inr (.inr (Nat.lt_succ_self _))
      · exact .inr (.inr (Nat.lt_of_succ_lt more))
  | closed remainder inductionHypothesis =>
      exact .inl ⟨[], _, rfl, rfl⟩

end Tags.Markup

/-! ## Spans around parts of a marked-up text -/

section Wrapping

variable [DecidableEq Symbol] {tags : Tags Symbol}

/--
Spans that begin and end outside of the tags leave the plain text as it is;
`front` is the text in front of the segments.
-/
theorem markup_wrap
    {depth final : Nat}
    {front plain : List Symbol}
    {segments : List (Segment Symbol)}
    (markup : tags.Markup depth (front ++ content segments) final plain)
    (outside : HitsOutside tags (scan tags .outside front) segments) :
    tags.Markup depth (front ++ wrap tags segments) final plain := by
  induction segments generalizing depth front plain with
  | nil =>
      exact markup
  | cons segment rest inductionHypothesis =>
      cases segment with
      | plain symbol =>
          rw [content, List.append_cons] at markup
          rw [wrap, List.append_cons]
          apply inductionHypothesis markup
          rwa [scan_append]
      | hit matched =>
          obtain ⟨begins, ends, later⟩ := outside
          rw [begins] at ends
          obtain ⟨between, frontPlain, behindPlain, frontMarkup,
              behindMarkup, rfl⟩ := markup.split begins
          obtain ⟨behind, matchedPlain, restPlain, matchedMarkup,
              restMarkup, rfl⟩ := behindMarkup.split ends
          have restWrapped :
              tags.Markup behind ([] ++ wrap tags rest) final restPlain :=
            inductionHypothesis restMarkup later
          have spanned :
              tags.Markup between
                (tags.openTag ++ (matched ++ (tags.closeTag ++ wrap tags rest)))
                final (matchedPlain ++ restPlain) :=
            .opened (matchedMarkup.deeper.trans (.closed restWrapped))
          rw [wrap, List.append_assoc, List.append_assoc]
          exact frontMarkup.trans spanned

/-- The reader does not notice a span that begins and ends outside. -/
theorem scan_wrap_hit
    {matched : List Symbol}
    (ends : scan tags .outside matched = .outside)
    (rest : List (Segment Symbol)) :
    scan tags .outside (wrap tags (.hit matched :: rest)) =
      scan tags .outside (wrap tags rest) := by
  rw [wrap, scan_append, scan_append, scan_append, Tags.openTag,
    scan_tagOf tags.openBody_plain, ends, Tags.closeTag,
    scan_tagOf tags.closeBody_plain]

/-- Every other span breaks the tag that it begins or ends in. -/
theorem scan_wrap_hit_eq_broken
    {place : Place}
    {matched : List Symbol}
    (within : ¬ (place = .outside ∧ scan tags place matched = .outside))
    (rest : List (Segment Symbol)) :
    scan tags place (wrap tags (.hit matched :: rest)) = .broken := by
  rw [wrap, scan_append, scan_append, scan_append]
  by_cases begins : place = .outside
  · subst begins
    have ends : scan tags .outside matched ≠ .outside := fun isOutside =>
      within ⟨rfl, isOutside⟩
    rw [Tags.openTag, scan_tagOf tags.openBody_plain, Tags.closeTag,
      scan_tagOf_eq_broken ends, scan_broken]
  · rw [Tags.openTag, scan_tagOf_eq_broken begins, scan_broken, scan_broken,
      scan_broken]

/-- A broken tag stays broken. -/
theorem scan_wrap_of_broken
    {place : Place}
    {segments : List (Segment Symbol)}
    (broken : scan tags place (content segments) = .broken) :
    scan tags place (wrap tags segments) = .broken := by
  induction segments generalizing place with
  | nil =>
      exact broken
  | cons segment rest inductionHypothesis =>
      cases segment with
      | plain symbol =>
          exact inductionHypothesis broken
      | hit matched =>
          by_cases outside :
              place = .outside ∧ scan tags place matched = .outside
          · obtain ⟨rfl, ends⟩ := outside
            rw [content, scan_append, ends] at broken
            rw [scan_wrap_hit ends]
            exact inductionHypothesis broken
          · exact scan_wrap_hit_eq_broken outside rest

/-- A span that begins or ends within a tag breaks it. -/
theorem scan_wrap_of_not_outside
    {place : Place}
    {segments : List (Segment Symbol)}
    (notOutside : ¬ HitsOutside tags place segments) :
    scan tags place (wrap tags segments) = .broken := by
  induction segments generalizing place with
  | nil =>
      exact absurd trivial notOutside
  | cons segment rest inductionHypothesis =>
      cases segment with
      | plain symbol =>
          exact inductionHypothesis notOutside
      | hit matched =>
          by_cases outside :
              place = .outside ∧ scan tags place matched = .outside
          · obtain ⟨rfl, ends⟩ := outside
            rw [scan_wrap_hit ends]
            exact inductionHypothesis fun later =>
              notOutside ⟨rfl, ends, later⟩
          · exact scan_wrap_hit_eq_broken outside rest

end Wrapping

end RecomputerGateway.SpanMarkup
