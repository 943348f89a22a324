import RecomputerGateway.EcmaScript
import RecomputerGateway.SpanSearch

namespace RecomputerGateway.LogHighlight

/-!
# Keyword highlighting in the log viewers

The pages for RS485, LoRaWAN and the UPS show a log as HTML.  They escape every
line and put a span around every occurrence of a keyword, one keyword after
the other.
-/

open EcmaScript
open SpanMarkup (HitsOutside Place Segment Tags Words scan wrap)

/-! ## The pages -/

/-- The replacement of a character that has a meaning in HTML. -/
def escapeUnit (unit : CodeUnit) : Text :=
  if unit = 38 then units "&amp;"
  else if unit = 60 then units "&lt;"
  else if unit = 62 then units "&gt;"
  else if unit = 34 then units "&quot;"
  else if unit = 39 then units "&#039;"
  else [unit]

def escapeHtml (line : Text) : Text :=
  line.flatMap escapeUnit

/-- The tags around a keyword. -/
def highlightTags : Tags CodeUnit where
  left := 60
  right := 62
  openBody :=
    units
      "span style=\"background-color:#ffeb3b; color:black; font-weight:bold\""
  closeBody := units "/span"
  right_ne_left := by decide
  openBody_plain := by decide
  closeBody_plain := by decide

/-- `kw.replace(/[.*+?^${}()|[\]\\]/g, '\\$&')`. -/
def escapeRegExp (kw : Text) : Text :=
  kw.flatMap fun unit =>
    if isSyntaxCharacter unit then [backslash, unit] else [unit]

variable (folding : CaseFolding)

/-- `re`, as the words that it matches. -/
def re (kw : Text) : Words CodeUnit where
  length := (patternText (escapeRegExp kw)).length
  accepts := isMatch folding (patternText (escapeRegExp kw))
  length_eq := fun accepted => by
    simpa using congrArg List.length (of_decide_eq_true accepted)

/-- The parts of a text that `re` matches, and those between them. -/
def occurrences (kw text : Text) : List (Segment CodeUnit) :=
  (re folding kw).search text

/-- `highlighted.replace(re, '<span …>$1</span>')`. -/
def highlightKeyword (kw highlighted : Text) : Text :=
  wrap highlightTags (occurrences folding kw highlighted)

/-- One call of the function of `keywords.forEach`. -/
def turn (highlighted kw : Text) : Text :=
  if kw = [] then highlighted else highlightKeyword folding kw highlighted

/-- The option `watch_keywords`: not set, one string or a list. -/
inductive WatchKeywords where
  | unset
  | text (words : Text)
  | list (keywords : List Text)

/-- `keywords`; an empty string counts as not set. -/
def keywords : WatchKeywords → List Text
  | .unset => []
  | .text [] => []
  | .text words => splitSpaces words
  | .list keywords => keywords

/-- The HTML of one line. -/
def highlightLine (kws : List Text) (line : Text) : Text :=
  kws.foldl (turn folding) (escapeHtml line)

/-- `buffer_limit`, for the number that the option starts with, if it does. -/
def bufferLimit (option : Option Int) : Int :=
  match option with
  | none => 2000
  | some 0 => 2000
  | some limit => limit

/-- The lines that are shown. -/
def shownLines (limit : Option Int) (log : Option Text) : List Text :=
  let lines := split 10 (trim BitVec.toNat (log.getD []))
  if (lines.length : Int) > bufferLimit limit then
    lines.drop ((lines.length : Int) - bufferLimit limit).toNat
  else lines

/-- `htmlContent`. -/
def htmlContent
    (watch : WatchKeywords)
    (limit : Option Int)
    (log : Option Text) :
    Text :=
  join 10
    ((shownLines limit log).map (highlightLine folding (keywords watch)))

/-- `view.innerHTML`. -/
def innerHTML
    (watch : WatchKeywords)
    (limit : Option Int)
    (log : Option Text) :
    Text :=
  let html := htmlContent folding watch limit log
  if html = [] then units "No logs available to display" else html

/-! ## What a log says -/

/-- The five entities. -/
def entities : List (Text × CodeUnit) :=
  [(units "&amp;", 38), (units "&lt;", 60), (units "&gt;", 62),
    (units "&quot;", 34), (units "&#039;", 39)]

/-- Decode entities, behind `left` code units that belong to the last one. -/
def decodeFrom : Nat → Text → Text
  | _, [] => []
  | left + 1, _ :: rest => decodeFrom left rest
  | 0, unit :: rest =>
      match entities.find? fun entity => entity.1.isPrefixOf (unit :: rest) with
      | some entity => entity.2 :: decodeFrom (entity.1.length - 1) rest
      | none => unit :: decodeFrom 0 rest

def decodeEntities (text : Text) : Text :=
  decodeFrom 0 text

/--
The highlight spans are the only markup, and the text without their tags and
with its entities decoded is the one that is to be shown.
-/
def Says (html shown : Text) : Prop :=
  ∃ plain,
    highlightTags.Markup 0 html 0 plain ∧ decodeEntities plain = shown

/--
At the turn of every keyword, no match begins or ends within a tag that has
been put in for an earlier one.
-/
def TurnsOutside : List Text → Text → Prop
  | [], _ => True
  | kw :: rest, highlighted =>
      (kw ≠ [] →
          HitsOutside highlightTags .outside
            (occurrences folding kw highlighted)) ∧
        TurnsOutside rest (turn folding highlighted kw)

variable {folding}

/-! ## Escaped text -/

/-- The characters that are replaced. -/
def escapedUnits : Text := [38, 60, 62, 34, 39]

theorem escapeUnit_of_not_mem
    {unit : CodeUnit}
    (notEscaped : unit ∉ escapedUnits) :
    escapeUnit unit = [unit] := by
  simp only [escapedUnits, List.mem_cons, List.not_mem_nil, or_false,
    not_or] at notEscaped
  obtain ⟨ampersand, less, greater, quote, apostrophe⟩ := notEscaped
  rw [escapeUnit, if_neg ampersand, if_neg less, if_neg greater,
    if_neg quote, if_neg apostrophe]

theorem left_not_mem_escapeUnit (unit : CodeUnit) :
    highlightTags.left ∉ escapeUnit unit := by
  by_cases isEscaped : unit ∈ escapedUnits
  · have none :
        (escapedUnits.all fun unit =>
          !(escapeUnit unit).contains highlightTags.left) = true := by
      decide
    simpa using List.all_eq_true.mp none unit isEscaped
  · rw [escapeUnit_of_not_mem isEscaped, List.mem_singleton]
    rintro rfl
    exact isEscaped (by decide)

/-- An escaped line has no markup. -/
theorem markup_of_plain
    {text : Text}
    (noLeft : highlightTags.left ∉ text) :
    highlightTags.Markup 0 text 0 text := by
  induction text with
  | nil =>
      exact .done 0
  | cons unit rest inductionHypothesis =>
      exact
        .symbol (fun same => noLeft (same ▸ .head rest))
          (inductionHypothesis fun member => noLeft (.tail unit member))

theorem left_not_mem_escapeHtml (line : Text) :
    highlightTags.left ∉ escapeHtml line := by
  intro member
  obtain ⟨unit, -, inUnit⟩ := List.mem_flatMap.mp member
  exact left_not_mem_escapeUnit unit inUnit

theorem markup_escapeHtml (line : Text) :
    highlightTags.Markup 0 (escapeHtml line) 0 (escapeHtml line) :=
  markup_of_plain (left_not_mem_escapeHtml line)

/-- Every entity starts with an ampersand. -/
theorem entities_find?_eq_none
    {unit : CodeUnit}
    (notAmpersand : unit ≠ 38)
    (rest : Text) :
    entities.find? (fun entity => entity.1.isPrefixOf (unit :: rest)) =
      none := by
  have startsWithAmpersand :
      ∀ entity ∈ entities, entity.1 = 38 :: entity.1.tail := by
    decide
  rw [List.find?_eq_none]
  intro entity member starts
  rw [startsWithAmpersand entity member, List.isPrefixOf_iff_prefix,
    List.cons_prefix_cons] at starts
  exact notAmpersand starts.1.symm

theorem decodeFrom_escapeUnit
    (unit : CodeUnit)
    (rest : Text) :
    decodeFrom 0 (escapeUnit unit ++ rest) = unit :: decodeFrom 0 rest := by
  by_cases isEscaped : unit ∈ escapedUnits
  · simp only [escapedUnits, List.mem_cons, List.not_mem_nil,
      or_false] at isEscaped
    rcases isEscaped with rfl | rfl | rfl | rfl | rfl
    all_goals rfl
  · have notAmpersand : unit ≠ 38 := by
      rintro rfl
      exact isEscaped (by decide)
    rw [escapeUnit_of_not_mem isEscaped, List.singleton_append, decodeFrom,
      entities_find?_eq_none notAmpersand]

/-- Decoding takes the escapes back. -/
theorem decodeEntities_escapeHtml (line : Text) :
    decodeEntities (escapeHtml line) = line := by
  induction line with
  | nil =>
      rfl
  | cons unit rest inductionHypothesis =>
      rw [decodeEntities, escapeHtml, List.flatMap_cons,
        decodeFrom_escapeUnit]
      exact congrArg (List.cons unit) inductionHypothesis

/-! ## One line -/

theorem escapeRegExp_cons (unit : CodeUnit) (rest : Text) :
    escapeRegExp (unit :: rest) =
      (if isSyntaxCharacter unit then [backslash, unit] else [unit]) ++
        escapeRegExp rest :=
  rfl

/-- The pattern of a keyword matches the keyword itself. -/
theorem patternText_escapeRegExp (kw : Text) :
    patternText (escapeRegExp kw) = kw := by
  induction kw with
  | nil =>
      rfl
  | cons unit rest inductionHypothesis =>
      rw [escapeRegExp_cons]
      by_cases syntactic : isSyntaxCharacter unit = true
      · rw [if_pos syntactic, List.cons_append, List.singleton_append,
          patternText, if_pos rfl, inductionHypothesis]
      · have notBackslash : unit ≠ backslash := by
          rintro rfl
          exact syntactic (by decide)
        rw [if_neg syntactic, List.singleton_append]
        cases escaped : escapeRegExp rest with
        | nil =>
            rw [escaped] at inductionHypothesis
            rw [← inductionHypothesis]
            rfl
        | cons next others =>
            rw [patternText, if_neg notBackslash, ← escaped,
              inductionHypothesis]

theorem length_re (folding : CaseFolding) (kw : Text) :
    (re folding kw).length = kw.length :=
  congrArg List.length (patternText_escapeRegExp kw)

theorem length_re_pos
    (folding : CaseFolding)
    {kw : Text}
    (notEmpty : kw ≠ []) :
    0 < (re folding kw).length := by
  rw [length_re]
  exact List.length_pos_iff.mpr notEmpty

theorem segmented_occurrences
    (folding : CaseFolding)
    {kw : Text}
    (notEmpty : kw ≠ [])
    (text : Text) :
    (re folding kw).Segmented text (occurrences folding kw text) :=
  Words.segmented_search (length_re_pos folding notEmpty) text

theorem content_occurrences
    (folding : CaseFolding)
    {kw : Text}
    (notEmpty : kw ≠ [])
    (text : Text) :
    SpanMarkup.content (occurrences folding kw text) = text :=
  (segmented_occurrences folding notEmpty text).content_eq

/-- A turn takes no character away. -/
theorem sublist_turn
    (folding : CaseFolding)
    (highlighted kw : Text) :
    highlighted.Sublist (turn folding highlighted kw) := by
  unfold turn
  split
  · exact .refl highlighted
  next notEmpty =>
    have kept :=
      SpanMarkup.content_sublist_wrap highlightTags
        (occurrences folding kw highlighted)
    rwa [content_occurrences folding notEmpty] at kept

theorem sublist_foldl_turn
    (folding : CaseFolding)
    (kws : List Text)
    (highlighted : Text) :
    highlighted.Sublist (kws.foldl (turn folding) highlighted) := by
  induction kws generalizing highlighted with
  | nil =>
      exact .refl highlighted
  | cons kw rest inductionHypothesis =>
      exact
        (sublist_turn folding highlighted kw).trans (inductionHypothesis _)

/-- A turn whose matches are outside of the tags keeps the plain text. -/
theorem markup_turn
    {highlighted plain kw : Text}
    (markup : highlightTags.Markup 0 highlighted 0 plain)
    (outside :
      kw ≠ [] →
        HitsOutside highlightTags .outside
          (occurrences folding kw highlighted)) :
    highlightTags.Markup 0 (turn folding highlighted kw) 0 plain := by
  unfold turn
  split
  · exact markup
  next notEmpty =>
    have parts :
        highlightTags.Markup 0
          ([] ++ SpanMarkup.content (occurrences folding kw highlighted)) 0
          plain := by
      rw [content_occurrences folding notEmpty]
      exact markup
    exact SpanMarkup.markup_wrap parts (outside notEmpty)

/-- No later turn repairs a broken tag. -/
theorem scan_foldl_turn_of_broken
    {highlighted : Text}
    (broken : scan highlightTags .outside highlighted = .broken)
    (kws : List Text) :
    scan highlightTags .outside (kws.foldl (turn folding) highlighted) =
      .broken := by
  induction kws generalizing highlighted with
  | nil =>
      exact broken
  | cons kw rest inductionHypothesis =>
      apply inductionHypothesis
      unfold turn
      split
      · exact broken
      next notEmpty =>
        apply SpanMarkup.scan_wrap_of_broken
        rwa [content_occurrences folding notEmpty]

/-- What the turns of all keywords make of a line. -/
theorem foldl_turn_cases
    (folding : CaseFolding)
    {highlighted plain : Text}
    (markup : highlightTags.Markup 0 highlighted 0 plain)
    (kws : List Text) :
    (TurnsOutside folding kws highlighted ∧
        highlightTags.Markup 0 (kws.foldl (turn folding) highlighted) 0
          plain) ∨
      (¬ TurnsOutside folding kws highlighted ∧
        scan highlightTags .outside (kws.foldl (turn folding) highlighted) =
          .broken) := by
  induction kws generalizing highlighted with
  | nil =>
      exact .inl ⟨trivial, markup⟩
  | cons kw rest inductionHypothesis =>
      by_cases outside :
          kw ≠ [] →
            HitsOutside highlightTags .outside
              (occurrences folding kw highlighted)
      · rcases inductionHypothesis (markup_turn markup outside) with
          ⟨later, kept⟩ | ⟨notLater, broken⟩
        · exact .inl ⟨⟨outside, later⟩, kept⟩
        · exact .inr ⟨fun both => notLater both.2, broken⟩
      · refine .inr ⟨fun both => outside both.1, ?_⟩
        obtain ⟨notEmpty, within⟩ := Classical.not_imp.mp outside
        rw [List.foldl_cons]
        apply scan_foldl_turn_of_broken
        rw [turn, if_neg notEmpty]
        exact SpanMarkup.scan_wrap_of_not_outside within

/-! ## All lines -/

theorem escapeHtml_join (lines : List Text) :
    join 10 (lines.map escapeHtml) = escapeHtml (join 10 lines) := by
  induction lines with
  | nil =>
      rfl
  | cons line rest inductionHypothesis =>
      cases rest with
      | nil =>
          rfl
      | cons next others =>
          rw [List.map_cons, List.map_cons, join, ← List.map_cons,
            inductionHypothesis, join, escapeHtml, escapeHtml, escapeHtml,
            List.flatMap_append, List.flatMap_cons]
          rfl

/-- The newlines between marked-up lines belong to the plain text. -/
theorem markup_join
    {lines : List Text}
    {html : Text → Text}
    (markup :
      ∀ line ∈ lines,
        highlightTags.Markup 0 (html line) 0 (escapeHtml line)) :
    highlightTags.Markup 0 (join 10 (lines.map html)) 0
      (join 10 (lines.map escapeHtml)) := by
  induction lines with
  | nil =>
      exact .done 0
  | cons line rest inductionHypothesis =>
      have here := markup line (.head rest)
      have later := inductionHypothesis fun other member =>
        markup other (.tail line member)
      cases rest with
      | nil =>
          exact here
      | cons next others =>
          exact here.trans (.symbol (by decide) later)

/-- A broken tag in one line breaks all of the HTML. -/
theorem scan_join_of_broken
    {kws lines : List Text}
    (within :
      ¬ ∀ line ∈ lines, TurnsOutside folding kws (escapeHtml line)) :
    scan highlightTags .outside
        (join 10 (lines.map (highlightLine folding kws))) =
      .broken := by
  induction lines with
  | nil =>
      exact absurd nofun within
  | cons line rest inductionHypothesis =>
      have here := foldl_turn_cases folding (markup_escapeHtml line) kws
      cases rest with
      | nil =>
          rcases here with ⟨outside, -⟩ | ⟨-, broken⟩
          · refine absurd (fun other member => ?_) within
            rw [List.mem_singleton.mp member]
            exact outside
          · exact broken
      | cons next others =>
          rw [List.map_cons, List.map_cons, join, SpanMarkup.scan_append,
            ← List.map_cons]
          rcases here with ⟨outside, kept⟩ | ⟨-, broken⟩
          · have later :
                ¬ ∀ line ∈ next :: others,
                  TurnsOutside folding kws (escapeHtml line) := by
              intro all
              refine within fun other member => ?_
              rcases List.mem_cons.mp member with rfl | inRest
              · exact outside
              · exact all other inRest
            rw [highlightLine, kept.scan_eq]
            exact inductionHypothesis later
          · rw [highlightLine, broken, SpanMarkup.scan_broken]

theorem sublist_join
    {html : Text → Text}
    (kept : ∀ line, (escapeHtml line).Sublist (html line))
    (lines : List Text) :
    (join 10 (lines.map escapeHtml)).Sublist (join 10 (lines.map html)) := by
  induction lines with
  | nil =>
      exact .slnil
  | cons line rest inductionHypothesis =>
      cases rest with
      | nil =>
          exact kept line
      | cons next others =>
          exact (kept line).append (.cons_cons 10 inductionHypothesis)

/--
Whatever the keywords are, the characters of the escaped lines stand in the
view, all of them and in their order.
-/
theorem sublist_innerHTML
    (folding : CaseFolding)
    (watch : WatchKeywords)
    (limit : Option Int)
    (log : Option Text) :
    (escapeHtml (join 10 (shownLines limit log))).Sublist
      (innerHTML folding watch limit log) := by
  have kept :
      (escapeHtml (join 10 (shownLines limit log))).Sublist
        (htmlContent folding watch limit log) := by
    rw [← escapeHtml_join]
    exact
      sublist_join
        (fun line =>
          sublist_foldl_turn folding (keywords watch) (escapeHtml line))
        (shownLines limit log)
  simp only [innerHTML]
  split
  next isEmpty =>
    rw [isEmpty, List.sublist_nil] at kept
    rw [kept]
    exact List.nil_sublist _
  · exact kept

theorem says_iff_turnsOutside
    (folding : CaseFolding)
    (watch : WatchKeywords)
    (limit : Option Int)
    (log : Option Text) :
    Says (htmlContent folding watch limit log)
        (join 10 (shownLines limit log)) ↔
      ∀ line ∈ shownLines limit log,
        TurnsOutside folding (keywords watch) (escapeHtml line) := by
  constructor
  · rintro ⟨plain, markup, -⟩
    by_contra within
    have broken := scan_join_of_broken within
    cases broken.symm.trans markup.scan_eq
  · intro outside
    refine ⟨escapeHtml (join 10 (shownLines limit log)), ?_,
      decodeEntities_escapeHtml _⟩
    rw [← escapeHtml_join]
    apply markup_join
    intro line member
    rcases foldl_turn_cases folding (markup_escapeHtml line)
      (keywords watch) with ⟨-, kept⟩ | ⟨within, -⟩
    · exact kept
    · exact absurd (outside line member) within

/-! ## Keywords without angle brackets -/

/-- The keyword has no angle brackets. -/
def BracketFree (kw : Text) : Prop :=
  60 ∉ kw ∧ 62 ∉ kw

/-- The keyword is found between the brackets of one of the two tags. -/
def InTags (folding : CaseFolding) (kw : Text) : Prop :=
  (re folding kw).Occurs highlightTags.openBody ∨
    (re folding kw).Occurs highlightTags.closeBody

/--
No keyword that is found in the tags comes behind one that is found in the
text.
-/
def TagWordsFirst
    (folding : CaseFolding)
    (kws : List Text)
    (text : Text) :
    Prop :=
  kws.Pairwise fun earlier later =>
    earlier ≠ [] →
      later ≠ [] →
        (re folding earlier).Occurs text → ¬ InTags folding later

/-- What such a keyword matches has no angle brackets, either. -/
theorem bracketFree_re
    (folding : CaseFolding)
    {kw : Text}
    (bracketFree : BracketFree kw) :
    (re folding kw).BracketFree highlightTags := by
  intro word isWord
  have sameFolded :
      word.map folding.canonicalize = kw.map folding.canonicalize := by
    rw [← patternText_escapeRegExp kw]
    exact of_decide_eq_true isWord
  have inKeyword {unit : CodeUnit} (member : unit ∈ word) :
      ∃ other ∈ kw,
        folding.canonicalize other = folding.canonicalize unit := by
    apply List.mem_map.mp
    rw [← sameFolded]
    exact List.mem_map_of_mem member
  constructor
  · intro member
    obtain ⟨other, inKw, same⟩ := inKeyword member
    exact bracketFree.1 (folding.canonicalize_less same ▸ inKw)
  · intro member
    obtain ⟨other, inKw, same⟩ := inKeyword member
    exact bracketFree.2 (folding.canonicalize_greater same ▸ inKw)

/-- In a text with tags, the matches are outside unless the tags have some. -/
theorem hitsOutside_iff_of_tagged
    (folding : CaseFolding)
    {highlighted plain kw : Text}
    (markup : highlightTags.Markup 0 highlighted 0 plain)
    (tagged : highlightTags.left ∈ highlighted)
    (notEmpty : kw ≠ [])
    (bracketFree : BracketFree kw) :
    HitsOutside highlightTags .outside (occurrences folding kw highlighted) ↔
      ¬ InTags folding kw := by
  have segmented := segmented_occurrences folding notEmpty highlighted
  have positive := length_re_pos folding notEmpty
  have free := bracketFree_re folding bracketFree
  constructor
  · rintro outside (inOpen | inClose)
    · rcases markup.openTag_or with hasTag | ⟨untagged, -⟩ | fewer
      · exact
          segmented.not_occurs_body positive free outside hasTag
            highlightTags.openBody_plain inOpen
      · exact untagged tagged
      · cases fewer
    · rcases markup.closeTag_or with hasTag | ⟨untagged, -⟩ | more
      · exact
          segmented.not_occurs_body positive free outside hasTag
            highlightTags.closeBody_plain inClose
      · exact untagged tagged
      · cases more
  · intro notInTags
    exact
      segmented.hitsOutside_of_markup free
        (fun inOpen => notInTags (.inl inOpen))
        (fun inClose => notInTags (.inr inClose)) markup

/-- Once there are tags, no keyword may be found in them. -/
theorem turnsOutside_iff_of_tagged
    {kws : List Text}
    (bracketFree : ∀ kw ∈ kws, BracketFree kw)
    {highlighted plain : Text}
    (markup : highlightTags.Markup 0 highlighted 0 plain)
    (tagged : highlightTags.left ∈ highlighted) :
    TurnsOutside folding kws highlighted ↔
      ∀ kw ∈ kws, kw ≠ [] → ¬ InTags folding kw := by
  induction kws generalizing highlighted with
  | nil =>
      exact iff_of_true trivial nofun
  | cons kw rest inductionHypothesis =>
      have here (notEmpty : kw ≠ []) :=
        hitsOutside_iff_of_tagged folding markup tagged notEmpty
          (bracketFree kw (.head rest))
      have later (outside : kw ≠ [] → ¬ InTags folding kw) :=
        inductionHypothesis
          (fun other member => bracketFree other (.tail kw member))
          (markup_turn markup fun notEmpty =>
            (here notEmpty).mpr (outside notEmpty))
          ((sublist_turn folding highlighted kw).mem tagged)
      rw [TurnsOutside, List.forall_mem_cons]
      constructor
      · rintro ⟨outside, rest⟩
        have notInTags (notEmpty : kw ≠ []) : ¬ InTags folding kw :=
          (here notEmpty).mp (outside notEmpty)
        exact ⟨notInTags, (later notInTags).mp rest⟩
      · rintro ⟨notInTags, rest⟩
        exact
          ⟨fun notEmpty => (here notEmpty).mpr (notInTags notEmpty),
            (later notInTags).mpr rest⟩

/-- In a text without tags, the first keyword that is found decides. -/
theorem turnsOutside_iff_of_untagged
    {kws : List Text}
    (bracketFree : ∀ kw ∈ kws, BracketFree kw)
    {text : Text}
    (untagged : highlightTags.left ∉ text) :
    TurnsOutside folding kws text ↔ TagWordsFirst folding kws text := by
  induction kws with
  | nil =>
      exact iff_of_true trivial .nil
  | cons kw rest inductionHypothesis =>
      have restFree : ∀ other ∈ rest, BracketFree other :=
        fun other member => bracketFree other (.tail kw member)
      have outside (notEmpty : kw ≠ []) :
          HitsOutside highlightTags .outside (occurrences folding kw text) :=
        (segmented_occurrences folding notEmpty text).hitsOutside_of_untagged
          untagged
      rw [TurnsOutside, TagWordsFirst, List.pairwise_cons,
        and_iff_right outside]
      by_cases found : kw ≠ [] ∧ (re folding kw).Occurs text
      · obtain ⟨notEmpty, occurs⟩ := found
        have tagged : highlightTags.left ∈ turn folding text kw := by
          rw [turn, if_neg notEmpty]
          exact
            (segmented_occurrences folding notEmpty text).left_mem_wrap
              (length_re_pos folding notEmpty) highlightTags occurs
        rw [turnsOutside_iff_of_tagged restFree
          (markup_turn (markup_of_plain untagged) outside) tagged]
        constructor
        · intro none
          refine ⟨fun later member _ laterNotEmpty _ =>
            none later member laterNotEmpty, ?_⟩
          exact
            List.pairwise_of_forall_mem_list
              fun _ _ later member _ laterNotEmpty _ =>
                none later member laterNotEmpty
        · rintro ⟨none, -⟩ later member laterNotEmpty
          exact none later member notEmpty laterNotEmpty occurs
      · have unchanged : turn folding text kw = text := by
          unfold turn
          split
          · rfl
          next notEmpty =>
            exact
              (segmented_occurrences folding notEmpty text).wrap_eq_self
                highlightTags fun occurs => found ⟨notEmpty, occurs⟩
        rw [unchanged, inductionHypothesis restFree, TagWordsFirst]
        refine (and_iff_right ?_).symm
        intro later _ notEmpty _ occurs
        exact absurd ⟨notEmpty, occurs⟩ found

/--
Highlighting keeps what a log says, exactly if no keyword is ever matched
within the tags around an earlier one.  For keywords without angle brackets
this means that no keyword that is found in the tags comes behind one that is
found in the escaped line.
-/
theorem says_htmlContent_iff
    (folding : CaseFolding)
    (watch : WatchKeywords)
    (limit : Option Int)
    (log : Option Text) :
    (Says (htmlContent folding watch limit log)
        (join 10 (shownLines limit log)) ↔
      ∀ line ∈ shownLines limit log,
        TurnsOutside folding (keywords watch) (escapeHtml line)) ∧
      ((∀ kw ∈ keywords watch, BracketFree kw) →
        (Says (htmlContent folding watch limit log)
            (join 10 (shownLines limit log)) ↔
          ∀ line ∈ shownLines limit log,
            TagWordsFirst folding (keywords watch) (escapeHtml line))) := by
  have general := says_iff_turnsOutside folding watch limit log
  refine ⟨general, fun bracketFree => general.trans ?_⟩
  refine forall₂_congr fun line _ => ?_
  exact turnsOutside_iff_of_untagged bracketFree (left_not_mem_escapeHtml line)

/-! ## Two keywords, one of them in the tags -/

/-- The letters of ASCII are compared by their capitals. -/
def asciiFolding : CaseFolding where
  canonicalize := fun unit =>
    if 97 ≤ unit.toNat ∧ unit.toNat ≤ 122 then unit - 32 else unit
  canonicalize_less := by
    intro unit same
    simp only [show ¬ (97 ≤ (60 : CodeUnit).toNat ∧
      (60 : CodeUnit).toNat ≤ 122) by decide, if_false] at same
    split at same <;> bv_omega
  canonicalize_greater := by
    intro unit same
    simp only [show ¬ (97 ≤ (62 : CodeUnit).toNat ∧
      (62 : CodeUnit).toNat ≤ 122) by decide, if_false] at same
    split at same <;> bv_omega

/-- The second keyword is found in the tag around the first. -/
theorem not_says_join_span :
    ¬ Says
      (htmlContent asciiFolding (.list [units "join", units "span"]) none
        (some (units "join")))
      (join 10 (shownLines none (some (units "join")))) := by
  rintro ⟨plain, markup, -⟩
  have broken :
      scan highlightTags .outside
          (htmlContent asciiFolding (.list [units "join", units "span"]) none
            (some (units "join"))) =
        .broken := by
    decide +kernel
  have outside := markup.scan_eq
  rw [broken] at outside
  cases outside

end RecomputerGateway.LogHighlight
