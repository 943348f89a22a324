import RecomputerGateway.UbusStore

namespace RecomputerGateway.Ubus

/-!
# Signatures and handlers

The signatures declare states as `INT8`, which reach a handler as booleans.
The loop logs each argument with `..` before it stores it, and `..` raises an
error for a boolean.
-/

variable {Number : Type}

/-- The arguments that the signature declares have the declared types. -/
def Conforms (name : MethodName) (message : Message Number) : Prop :=
  ∀ entry ∈ message.entries,
    ∀ type,
      (entry.1, type) ∈ name.method.signature → entry.2.HasType type

/-- The handler replies, and has stored every argument whose key it knows. -/
def RunsToReply
    (name : MethodName)
    (store : Store Number)
    (message : Message Number) :
    Prop :=
  (serve store { name, message }).reply.isSome = true ∧
    ∀ entry ∈ message.entries,
      ∀ field,
        (entry.1, field) ∈ name.method.stores →
          (serve store { name, message }).store field = entry.2

/-- A handler that fails leaves the variables as they were. -/
def KeepsOnError
    (name : MethodName)
    (store : Store Number)
    (message : Message Number) :
    Prop :=
  (serve store { name, message }).reply = none →
    (serve store { name, message }).store = store

/-- The arguments are of no type that cannot be logged. -/
structure AvoidsErrors
    (name : MethodName)
    (message : Message Number) :
    Prop where
  noInt8 :
    ∀ entry ∈ message.entries, (entry.1, .int8) ∉ name.method.signature
  undeclared :
    ∀ entry ∈ message.entries,
      (∀ type, (entry.1, type) ∉ name.method.signature) →
        entry.2.concatenates = true

/-- What is stored in front of the error is there already. -/
def StoresNothingNew
    (name : MethodName)
    (store : Store Number)
    (message : Message Number) :
    Prop :=
  ∀ entry ∈ message.logged,
    ∀ field,
      (entry.1, field) ∈ name.method.stores → store field = entry.2

/-! ## Errors -/

/-- Of the declared types, only `INT8` cannot be logged. -/
theorem concatenates_iff_ne_int8
    {value : LuaValue Number}
    {type : UbusType}
    (hasType : value.HasType type) :
    value.concatenates = true ↔ type ≠ .int8 := by
  cases value <;> cases type <;>
    simp [LuaValue.HasType, LuaValue.concatenates] at hasType ⊢

/-- A call that conforms can be logged if it avoids the types that cannot. -/
theorem isPlain_iff_avoidsErrors
    {name : MethodName}
    {message : Message Number}
    (conforms : Conforms name message) :
    message.isPlain = true ↔ AvoidsErrors name message := by
  rw [Message.isPlain, List.all_eq_true]
  constructor
  · intro isPlain
    refine ⟨?_, fun entry member _ => isPlain entry member⟩
    intro entry member isInt8
    exact
      (concatenates_iff_ne_int8 (conforms entry member .int8 isInt8)).mp
        (isPlain entry member) rfl
  · intro avoids entry member
    by_cases isDeclared : ∃ type, (entry.1, type) ∈ name.method.signature
    · obtain ⟨type, declares⟩ := isDeclared
      refine
        (concatenates_iff_ne_int8 (conforms entry member type declares)).mpr ?_
      rintro rfl
      exact avoids.noInt8 entry member declares
    · exact
        avoids.undeclared entry member fun type declares =>
          isDeclared ⟨type, declares⟩

/-- A handler replies to what it can log. -/
theorem reply_isSome_iff
    (name : MethodName)
    (store : Store Number)
    (message : Message Number) :
    (serve store { name, message }).reply.isSome = true ↔
      message.isPlain = true := by
  unfold serve
  rw [Method.handle_reply]
  cases message.isPlain <;> simp

/-- The keys of what is logged are distinct. -/
theorem nodup_logged (message : Message Number) :
    (message.logged.map Prod.fst).Nodup :=
  message.nodup.sublist
    ((List.takeWhile_sublist _).map Prod.fst)

/-- What is logged under a known key is stored. -/
theorem serve_of_mem_logged
    (name : MethodName)
    (store : Store Number)
    {message : Message Number}
    {entry : String × LuaValue Number}
    (member : entry ∈ message.logged)
    {field : Field}
    (wired : (entry.1, field) ∈ name.method.stores) :
    (serve store { name, message }).store field = entry.2 := by
  have onlyKey :
      ∀ other, (other, field) ∈ name.method.stores → other = entry.1 := by
    intro other otherWired
    have isOther := ((mem_stores_iff name other field).mp otherWired).2
    have isEntry := ((mem_stores_iff name entry.1 field).mp wired).2
    exact isOther.symm.trans isEntry
  have given := LastWriter.lookup_of_mem (nodup_logged message) member
  unfold serve
  rw [Method.handle_store,
    LastWriter.writeAll_of_wired wired onlyKey store (nodup_logged message),
    given, Option.getD_some]

/-- A call runs to its reply exactly if it can be logged as a whole. -/
theorem runsToReply_iff
    (name : MethodName)
    (store : Store Number)
    (message : Message Number) :
    RunsToReply name store message ↔ message.isPlain = true := by
  unfold RunsToReply
  rw [reply_isSome_iff]
  constructor
  · rintro ⟨isPlain, -⟩
    exact isPlain
  · intro isPlain
    refine ⟨isPlain, fun entry member field wired => ?_⟩
    rw [← Message.logged_of_isPlain isPlain] at member
    exact serve_of_mem_logged name store member wired

/-- The variables stay exactly if nothing new is stored. -/
theorem store_eq_iff
    (name : MethodName)
    (store : Store Number)
    (message : Message Number) :
    (serve store { name, message }).store = store ↔
      StoresNothingNew name store message := by
  constructor
  · intro isSame entry member field wired
    have isStored := serve_of_mem_logged name store member wired
    rwa [isSame] at isStored
  · intro nothingNew
    funext field
    by_cases isLogged :
        ∃ entry ∈ message.logged, (entry.1, field) ∈ name.method.stores
    · obtain ⟨entry, member, wired⟩ := isLogged
      rw [serve_of_mem_logged name store member wired]
      exact (nothingNew entry member field wired).symm
    · unfold serve
      rw [Method.handle_store]
      apply LastWriter.writeAll_of_unwritten
      intro entry member wired
      exact isLogged ⟨entry, member, wired⟩

/--
A call whose arguments have the declared types runs to its reply exactly if no
`INT8` is among them (nor a boolean or table that is not declared); a failing
call leaves the variables alone exactly if what is stored in front of the error
is there already.
-/
theorem honoursSignature_iff
    (name : MethodName)
    (store : Store Number)
    (message : Message Number)
    (conforms : Conforms name message) :
    (RunsToReply name store message ↔ AvoidsErrors name message) ∧
      (KeepsOnError name store message ↔
        AvoidsErrors name message ∨ StoresNothingNew name store message) := by
  rw [← isPlain_iff_avoidsErrors conforms]
  refine ⟨runsToReply_iff name store message, ?_⟩
  have replies := reply_isSome_iff name store message
  unfold KeepsOnError
  rw [store_eq_iff]
  cases isPlain : message.isPlain with
  | true =>
      have hasReply := replies.mpr isPlain
      simp only [true_or, iff_true]
      intro noReply
      rw [noReply] at hasReply
      cases hasReply
  | false =>
      have noReply : (serve store { name, message }).reply = none := by
        rw [← Option.not_isSome_iff_eq_none, replies, isPlain]
        exact Bool.false_ne_true
      simp only [noReply, true_implies, Bool.false_eq_true, false_or]

/-- A position without its state. -/
def positionMessage : Message Int where
  entries :=
    [("longitude", .string "114.1"), ("latitude", .string "22.5"),
      ("altitude", .string "10")]
  nodup := by decide

/-- A position and its state, with the latitude in front of the state. -/
def stateMessage : Message Int where
  entries := [("latitude", .string "22.5"), ("state", .boolean true)]
  nodup := by decide

/-- A conforming call without a state runs to its reply. -/
theorem runsToReply_of_position :
    RunsToReply .gps initial positionMessage := by
  have conforms : Conforms .gps positionMessage := by
    simp [Conforms, positionMessage, MethodName.method, gps,
      LuaValue.HasType]
  have avoids : AvoidsErrors .gps positionMessage := by
    constructor <;>
      simp [positionMessage, MethodName.method, gps, LuaValue.concatenates]
  exact (honoursSignature_iff .gps initial _ conforms).1.mpr avoids

/-- With its state, it stores the latitude and fails. -/
theorem not_honoursSignature :
    Conforms .gps stateMessage ∧
      ¬ RunsToReply .gps initial stateMessage ∧
        ¬ KeepsOnError .gps initial stateMessage := by
  have conforms : Conforms .gps stateMessage := by
    simp [Conforms, stateMessage, MethodName.method, gps,
      LuaValue.HasType]
  have noReply :
      (serve initial { name := .gps, message := stateMessage }).reply =
        none := by
    decide +kernel
  have isStored :
      (serve initial
          { name := .gps, message := stateMessage }).store
            .gpsLatitudeV =
        .string "22.5" := by
    decide +kernel
  refine ⟨conforms, fun runs => ?_, fun keeps => ?_⟩
  · have hasReply := runs.1
    rw [noReply] at hasReply
    cases hasReply
  · rw [keeps noReply] at isStored
    cases isStored

end RecomputerGateway.Ubus
