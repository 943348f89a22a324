import Mathlib.Data.List.Induction
import Mathlib.Logic.Function.Basic

namespace RecomputerGateway.UciStore

/-!
# Edits of a package of the unified configuration interface

`uci set` and `uci delete` change named sections and their options.  The edits
are staged; `uci commit` makes the staged package the one in the file.  What a
sequence of edits leaves of a section that stays is what was written last to
each of its options; of a section that is deleted, nothing is left.

Nothing here refers to a particular package: `Name` are the names of sections
and `Key` those of options.
-/

variable {Name Key : Type} [DecidableEq Name] [DecidableEq Key]

/-- A section: its type and its options. -/
structure Section (Key : Type) where
  type : List Char
  options : Key → Option (List Char)

abbrev Package (Name Key : Type) := Name → Option (Section Key)

inductive Edit (Name Key : Type) where
  /-- `uci set package.name.key=value`. -/
  | set (name : Name) (key : Key) (value : List Char)
  /-- `uci delete package.name.key`. -/
  | delete (name : Name) (key : Key)
  /-- `uci set package.name=type`. -/
  | setSection (name : Name) (type : List Char)
  /-- `uci delete package.name`. -/
  | deleteSection (name : Name)

/-- An empty value deletes the option. -/
def stored (value : List Char) : Option (List Char) :=
  if value = [] then none else some value

/-- An option of a section that does not exist is not set. -/
def Edit.apply
    (package : Package Name Key) :
    Edit Name Key → Package Name Key
  | .set name key value =>
      Function.update package name <|
        (package name).map fun part =>
          { part with
            options := Function.update part.options key (stored value) }
  | .delete name key =>
      Function.update package name <|
        (package name).map fun part =>
          { part with options := Function.update part.options key none }
  | .setSection name type =>
      Function.update package name <|
        match package name with
        | some part => some { part with type }
        | none => some { type, options := fun _ => none }
  | .deleteSection name => Function.update package name none

/-- The edits of a script, in their order. -/
def applyEdits
    (edits : List (Edit Name Key))
    (package : Package Name Key) :
    Package Name Key :=
  edits.foldl Edit.apply package

/-- The staged package and the committed one. -/
structure Store (Name Key : Type) where
  staged : Package Name Key
  committed : Package Name Key

namespace Store

def edit
    (edits : List (Edit Name Key))
    (store : Store Name Key) :
    Store Name Key :=
  { store with staged := applyEdits edits store.staged }

/-- `uci commit`. -/
def commit (store : Store Name Key) : Store Name Key :=
  { store with committed := store.staged }

end Store

/-! ## What edits leave behind -/

theorem applyEdits_concat
    (edits : List (Edit Name Key))
    (edit : Edit Name Key)
    (package : Package Name Key) :
    applyEdits (edits ++ [edit]) package =
      edit.apply (applyEdits edits package) := by
  rw [applyEdits, List.foldl_append]
  rfl

theorem applyEdits_append
    (before after : List (Edit Name Key))
    (package : Package Name Key) :
    applyEdits (before ++ after) package =
      applyEdits after (applyEdits before package) :=
  List.foldl_append

/-- What an edit leaves of a section depends on that section alone. -/
theorem Edit.apply_congr
    (edit : Edit Name Key)
    {name : Name}
    {first second : Package Name Key}
    (same : first name = second name) :
    edit.apply first name = edit.apply second name := by
  cases edit with
  | set part key value =>
      by_cases isPart : name = part
      · subst part
        simp only [apply, Function.update_self, same]
      · simp only [apply, Function.update_of_ne isPart, same]
  | delete part key =>
      by_cases isPart : name = part
      · subst part
        simp only [apply, Function.update_self, same]
      · simp only [apply, Function.update_of_ne isPart, same]
  | setSection part type =>
      by_cases isPart : name = part
      · subst part
        simp only [apply, Function.update_self, same]
      · simp only [apply, Function.update_of_ne isPart, same]
  | deleteSection part =>
      by_cases isPart : name = part
      · subst part
        simp only [apply, Function.update_self]
      · simp only [apply, Function.update_of_ne isPart, same]

theorem applyEdits_congr
    (edits : List (Edit Name Key))
    {name : Name}
    {first second : Package Name Key}
    (same : first name = second name) :
    applyEdits edits first name = applyEdits edits second name := by
  induction edits using List.reverseRecOn with
  | nil =>
      exact same
  | append_singleton edits edit inductionHypothesis =>
      rw [applyEdits_concat, applyEdits_concat]
      exact edit.apply_congr inductionHypothesis

/-- Nothing of a section survives edits that delete it. -/
theorem applyEdits_eq_of_deleted
    {edits : List (Edit Name Key)}
    {name : Name}
    (deleted : .deleteSection name ∈ edits)
    (first second : Package Name Key) :
    applyEdits edits first name = applyEdits edits second name := by
  obtain ⟨before, after, rfl⟩ := List.append_of_mem deleted
  rw [applyEdits_append, applyEdits_append]
  refine applyEdits_congr after ?_
  have gone
      (package : Package Name Key) :
      Edit.apply package (.deleteSection name) name = none := by
    rw [Edit.apply, Function.update_self]
  exact (gone _).trans (gone _).symm

/-! ## The last write to an option -/

/-- What an edit writes to an option; `none` within deletes the option. -/
def Edit.written?
    (name : Name)
    (key : Key) :
    Edit Name Key → Option (Option (List Char))
  | .set part option value =>
      if part = name ∧ option = key then some (stored value) else none
  | .delete part option =>
      if part = name ∧ option = key then some none else none
  | .setSection _ _ => none
  | .deleteSection _ => none

/-- The edit neither makes nor deletes the section. -/
def Edit.Keeps (name : Name) : Edit Name Key → Prop
  | .set _ _ _ => True
  | .delete _ _ => True
  | .setSection part _ => part ≠ name
  | .deleteSection part => part ≠ name

/-- What the last edit that writes to the option writes. -/
def lastWritten?
    (name : Name)
    (key : Key)
    (edits : List (Edit Name Key)) :
    Option (Option (List Char)) :=
  (edits.filterMap (Edit.written? name key)).getLast?

/-- A section with the options that the edits write. -/
def Section.written
    (name : Name)
    (edits : List (Edit Name Key))
    (part : Section Key) :
    Section Key :=
  { part with
    options := fun key =>
      (lastWritten? name key edits).getD (part.options key) }

theorem lastWritten?_append
    (name : Name)
    (key : Key)
    (before after : List (Edit Name Key)) :
    lastWritten? name key (before ++ after) =
      (lastWritten? name key after).or (lastWritten? name key before) := by
  simp [lastWritten?, List.getLast?_append]

theorem update_eq_getD
    {options : Key → Option (List Char)}
    (key : Key)
    (value : Option (List Char)) :
    Function.update options key value =
      fun other => (if key = other then some value else none).getD
        (options other) := by
  funext other
  by_cases same : other = key
  · subst other
    simp
  · have different : key ≠ other := Ne.symm same
    simp [Function.update_of_ne same, different]

theorem Section.written_singleton
    (name : Name)
    (edit : Edit Name Key) :
    Section.written name [edit] =
      fun part =>
        { part with
          options := fun key =>
            (edit.written? name key).getD (part.options key) } := by
  have oneWritten
      (key : Key) :
      lastWritten? name key [edit] = edit.written? name key := by
    cases writes : edit.written? name key <;> simp [lastWritten?, writes]
  funext part
  simp only [Section.written, oneWritten]

theorem Edit.apply_of_keeps
    {edit : Edit Name Key}
    {name : Name}
    (keeps : edit.Keeps name)
    (package : Package Name Key) :
    edit.apply package name =
      (package name).map (Section.written name [edit]) := by
  have unwritten
      (nothing : ∀ key, edit.written? name key = none) :
      (package name).map (Section.written name [edit]) = package name := by
    cases package name <;> simp [Section.written_singleton, nothing]
  cases edit with
  | set part key value =>
      by_cases isPart : part = name
      · subst part
        simp only [apply, Function.update_self, update_eq_getD,
          Section.written_singleton, written?, true_and]
      · rw [unwritten (by simp [written?, isPart])]
        exact Function.update_of_ne (Ne.symm isPart) _ _
  | delete part key =>
      by_cases isPart : part = name
      · subst part
        simp only [apply, Function.update_self, update_eq_getD,
          Section.written_singleton, written?, true_and]
      · rw [unwritten (by simp [written?, isPart])]
        exact Function.update_of_ne (Ne.symm isPart) _ _
  | setSection part type =>
      rw [unwritten fun _ => rfl]
      exact Function.update_of_ne (Ne.symm keeps) _ _
  | deleteSection part =>
      rw [unwritten fun _ => rfl]
      exact Function.update_of_ne (Ne.symm keeps) _ _

/-- The options of a section that stays are those that were written last. -/
theorem applyEdits_of_keeps
    {edits : List (Edit Name Key)}
    {name : Name}
    (keep : ∀ edit ∈ edits, edit.Keeps name)
    (package : Package Name Key) :
    applyEdits edits package name =
      (package name).map (Section.written name edits) := by
  induction edits using List.reverseRecOn with
  | nil =>
      change package name = _
      cases package name <;> rfl
  | append_singleton edits edit inductionHypothesis =>
      have keepsLast : edit.Keeps name :=
        keep edit (List.mem_append_right _ (.head []))
      have earlier :=
        inductionHypothesis fun other member =>
          keep other (List.mem_append_left _ member)
      rw [applyEdits_concat, edit.apply_of_keeps keepsLast, earlier]
      cases package name with
      | none =>
          rfl
      | some part =>
          simp only [Option.map_some, Section.written, lastWritten?_append]
          congr 2
          funext key
          cases lastWritten? name key [edit] <;> rfl

end RecomputerGateway.UciStore
