import RecomputerGateway.LittleEndian

namespace RecomputerGateway.TypeLengthValue

open Hexadecimal (Byte)
open LittleEndian

/-!
# Items with a type and a length

A message body is a sequence of items.  Each of them is a type of one byte, a
length of two bytes, least significant byte first, and as many bytes of value.
-/

/-- An item, the value of which is not too long for its length. -/
structure Tlv where
  type : Byte
  value : List Byte
  short : value.length < 65536
  deriving DecidableEq

def Tlv.encode (tlv : Tlv) : List Byte :=
  tlv.type :: (le16 tlv.value.length ++ tlv.value)

def encodeAll (tlvs : List Tlv) : List Byte := tlvs.flatMap Tlv.encode

@[simp] theorem encodeAll_nil : encodeAll [] = [] := rfl

@[simp] theorem encodeAll_cons (tlv : Tlv) (tlvs : List Tlv) :
    encodeAll (tlv :: tlvs) = tlv.encode ++ encodeAll tlvs :=
  List.flatMap_cons

@[simp] theorem encodeAll_append (first second : List Tlv) :
    encodeAll (first ++ second) = encodeAll first ++ encodeAll second :=
  List.flatMap_append

theorem Tlv.length_encode (tlv : Tlv) :
    tlv.encode.length = tlv.value.length + 3 := by
  rw [encode, List.length_cons, List.length_append, length_le16]
  omega

/-- The type of an item stands at its offset. -/
theorem byteAt_item
    (front : List Byte)
    (type : Byte)
    (back : List Byte) :
    byteAt (front ++ type :: back) front.length = type := by
  have here := byteAt_append front (type :: back) 0
  rwa [Nat.add_zero] at here

/-- The length of an item stands behind its type. -/
theorem le16At_item
    (front : List Byte)
    (type : Byte)
    (length : Nat)
    (back : List Byte) :
    le16At (front ++ type :: (le16 length ++ back)) (front.length + 1) =
      length % 65536 := by
  rw [le16At_append]
  exact
    (le16At_append [type] (le16 length ++ back) 0).trans
      (le16At_le16 length back)

theorem Tlv.encode_append (tlv : Tlv) (back : List Byte) :
    tlv.encode ++ back =
      tlv.type :: (le16 tlv.value.length ++ (tlv.value ++ back)) := by
  rw [encode, List.cons_append, List.append_assoc]

theorem byteAt_encode
    (front : List Byte)
    (tlv : Tlv)
    (back : List Byte) :
    byteAt (front ++ (tlv.encode ++ back)) front.length = tlv.type := by
  rw [tlv.encode_append, byteAt_item]

theorem le16At_encode
    (front : List Byte)
    (tlv : Tlv)
    (back : List Byte) :
    le16At (front ++ (tlv.encode ++ back)) (front.length + 1) =
      tlv.value.length := by
  rw [tlv.encode_append, le16At_item, Nat.mod_eq_of_lt tlv.short]

/-- The value of an item stands behind its length. -/
theorem take_drop_encode
    (front : List Byte)
    (tlv : Tlv)
    (back : List Byte) :
    ((front ++ (tlv.encode ++ back)).drop (front.length + 3)).take
        tlv.value.length =
      tlv.value := by
  have shape :
      front ++ (tlv.encode ++ back) =
        (front ++ (tlv.type :: le16 tlv.value.length)) ++
          (tlv.value ++ back) := by
    simp only [Tlv.encode, List.cons_append, List.append_assoc]
  have header :
      (front ++ (tlv.type :: le16 tlv.value.length)).length =
        front.length + 3 := by
    rw [List.length_append, List.length_cons, length_le16]
  rw [shape, List.drop_left' header, List.take_left' rfl]

/-- The items for the values that are present, each of a type of its own. -/
def present (fields : List (Byte × Option (List Byte))) : List Tlv :=
  fields.filterMap fun field =>
    field.2.bind fun value =>
      if short : value.length < 65536 then some ⟨field.1, value, short⟩
      else none

theorem present_append (first second : List (Byte × Option (List Byte))) :
    present (first ++ second) = present first ++ present second :=
  List.filterMap_append

theorem present_some
    (type : Byte)
    {value : List Byte}
    (short : value.length < 65536) :
    present [(type, some value)] = [⟨type, value, short⟩] := by
  rw [present, List.filterMap_cons]
  dsimp only
  rw [Option.bind_some, dif_pos short]
  rfl

/-- An item is of one of the types of the fields. -/
theorem mem_types_of_mem_present
    {fields : List (Byte × Option (List Byte))}
    {tlv : Tlv}
    (member : tlv ∈ present fields) :
    tlv.type ∈ fields.map Prod.fst := by
  obtain ⟨field, inFields, isTlv⟩ := List.mem_filterMap.mp member
  obtain ⟨value, -, isItem⟩ := Option.bind_eq_some_iff.mp isTlv
  split at isItem
  · rw [← Option.some.inj isItem]
    exact List.mem_map_of_mem inFields
  · exact nomatch isItem

/-- The item of a type has the value of the field of that type. -/
theorem find?_present
    {fields : List (Byte × Option (List Byte))}
    (distinct : (fields.map Prod.fst).Nodup)
    (short :
      ∀ field ∈ fields, ∀ value ∈ field.2, value.length < 65536)
    (type : Byte) :
    ((present fields).find? fun tlv => tlv.type = type).map Tlv.value =
      (fields.lookup type).getD none := by
  induction fields with
  | nil => rfl
  | cons field fields inductionHypothesis =>
      obtain ⟨head, value⟩ := field
      rw [List.map_cons, List.nodup_cons] at distinct
      obtain ⟨shortHead, shortRest⟩ := List.forall_mem_cons.mp short
      have later := inductionHypothesis distinct.2 shortRest
      have split :
          present ((head, value) :: fields) =
            present [(head, value)] ++ present fields :=
        present_append [(head, value)] fields
      rw [split, List.find?_append, List.lookup_cons]
      by_cases same : type = head
      · have none_later :
            ((present fields).find? fun tlv => tlv.type = type) = none := by
          rw [List.find?_eq_none]
          intro tlv member isType
          refine distinct.1 ?_
          rw [← same, ← of_decide_eq_true isType]
          exact mem_types_of_mem_present member
        rw [none_later, same, beq_self_eq_true]
        cases value with
        | none => rfl
        | some value =>
            rw [present_some head (shortHead value rfl), List.find?_cons,
              decide_eq_true rfl]
            rfl
      · rw [beq_false_of_ne same, ← later]
        refine congrArg (Option.map Tlv.value) ?_
        cases value with
        | none => rfl
        | some value =>
            rw [present_some head (shortHead value rfl), List.find?_cons,
              decide_eq_false (Ne.symm same)]
            rfl

end RecomputerGateway.TypeLengthValue
