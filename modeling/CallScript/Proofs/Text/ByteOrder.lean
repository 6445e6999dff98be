import Mathlib.Data.List.Basic

/-!
# The order of texts by their bytes

Texts are compared character by character.  In UTF-8 this is also the order of
their bytes: of two different characters, the encoding of the smaller one has
the smaller byte where the encodings first differ, and no encoding goes on
where another one ends.  The main statement is `bytes_lt_bytes`.
-/

namespace CallScript.Text

/-- The bytes of a text in UTF-8. -/
def bytes (text : String) : List UInt8 :=
  text.toUTF8.data.toList

theorem bytes_eq_flatMap
    (text : String) :
    bytes text = text.toList.flatMap String.utf8EncodeChar := by
  rw [bytes, String.toUTF8_eq_toByteArray, ← String.utf8Encode_toList, List.utf8Encode,
    List.toList_data_toByteArray]

theorem bytes_append
    (left right : String) :
    bytes (left ++ right) = bytes left ++ bytes right := by
  rw [bytes_eq_flatMap, bytes_eq_flatMap, bytes_eq_flatMap, String.toList_append,
    List.flatMap_append]

theorem toList_loop
    (array : ByteArray)
    (index : Nat)
    (passed : List UInt8) :
    ByteArray.toList.loop array index passed = passed.reverse ++ array.data.toList.drop index := by
  -- The induction is on the number of bytes that are left, as the loop counts upwards.
  induction rest : array.size - index generalizing index passed with
  | zero =>
      have behind : array.data.toList.length ≤ index := by
        rw [Array.length_toList]
        change array.size ≤ index
        omega
      rw [ByteArray.toList.loop.eq_def, if_neg (by omega), List.drop_of_length_le behind,
        List.append_nil]
  | succ rest ih =>
      have inside : index < array.data.toList.length := by
        rw [Array.length_toList]
        change index < array.size
        omega
      have byte : array.get! index = array.data.toList[index] := by
        rw [ByteArray.get!, Array.getElem_toList]
        exact getElem!_pos array.data index inside
      rw [ByteArray.toList.loop.eq_def, if_pos (by omega), ih _ _ (by omega), byte,
        List.drop_eq_getElem_cons inside, List.reverse_cons, List.append_assoc]
      rfl

theorem toList_toUTF8
    (text : String) :
    text.toUTF8.toList = bytes text := by
  rw [ByteArray.toList, toList_loop]
  rfl

/-- The first bytes are smaller than the second ones, however both of them go on. -/
def Precedes (left right : List UInt8) : Prop :=
  ∀ leftRest rightRest : List UInt8, left ++ leftRest < right ++ rightRest

theorem precedes_of_lead
    {small large : Nat}
    (less : small < large)
    (bound : large < 256)
    (left right : List UInt8) :
    Precedes (UInt8.ofNat small :: left) (UInt8.ofNat large :: right) := by
  intro leftRest rightRest
  rw [List.cons_append, List.cons_append, List.cons_lt_cons_iff]
  left
  rw [UInt8.lt_iff_toNat_lt, UInt8.toNat_ofNat', UInt8.toNat_ofNat', Nat.mod_eq_of_lt bound,
    Nat.mod_eq_of_lt (Nat.lt_trans less bound)]
  exact less

/-- Of two codes below the bound, the encoding of the smaller one precedes. -/
def IsMonotone (bound : Nat) (encode : Nat → List UInt8) : Prop :=
  ∀ small large : Nat, small < large → large < bound → Precedes (encode small) (encode large)

/-- A byte that holds all the bits of a code below a mark. -/
theorem isMonotone_lead
    (bound mark : Nat)
    (room : bound + mark ≤ 256) :
    IsMonotone bound fun code => [UInt8.ofNat (code % bound + mark)] := by
  intro small large less below
  apply precedes_of_lead
  · rw [Nat.mod_eq_of_lt below, Nat.mod_eq_of_lt (Nat.lt_trans less below)]
    omega
  · rw [Nat.mod_eq_of_lt below]
    omega

/-- A further byte holds six more bits; it decides where the bytes in front of it are the same. -/
theorem IsMonotone.tail
    {bound : Nat}
    {encode : Nat → List UInt8}
    (monotone : IsMonotone bound encode) :
    IsMonotone (bound * 64) fun code =>
      encode (code / 64) ++ [UInt8.ofNat (code % 64 + 128)] := by
  intro small large less below leftRest rightRest
  rw [List.append_assoc, List.append_assoc]
  rcases Nat.lt_or_eq_of_le (Nat.div_le_div_right (c := 64) (Nat.le_of_lt less)) with
    further | equal
  · exact monotone _ _ further (Nat.div_lt_of_lt_mul (by omega)) _ _
  · rw [equal]
    apply List.append_left_lt
    apply precedes_of_lead
    · omega
    · omega

/-- The encoding of the smaller one of two characters precedes that of the other one. -/
theorem precedes_utf8EncodeChar
    {first second : Char}
    (less : first < second) :
    Precedes (String.utf8EncodeChar first) (String.utf8EncodeChar second) := by
  have codes : first.val.toNat < second.val.toNat := less
  have range : second.val.toNat < 0x110000 := by
    rcases second.valid with low | high
    · exact Nat.lt_trans low (by decide)
    · exact high.2
  have twoBytes := (isMonotone_lead 32 192 (by decide)).tail
  have threeBytes := (isMonotone_lead 16 224 (by decide)).tail.tail
  have fourBytes := (isMonotone_lead 8 240 (by decide)).tail.tail.tail
  have twice (code : Nat) : code / 4096 = code / 64 / 64 := by omega
  have thrice (code : Nat) : code / 262144 = code / 64 / 64 / 64 := by omega
  simp only [String.utf8EncodeChar, twice, thrice]
  generalize first.val.toNat = small at codes
  generalize second.val.toNat = large at codes range
  -- Encodings of different lengths differ in their first bytes.
  split
  · split
    · exact precedes_of_lead codes (by omega) _ _
    split
    · exact precedes_of_lead (by omega) (by omega) _ _
    split
    · exact precedes_of_lead (by omega) (by omega) _ _
    · exact precedes_of_lead (by omega) (by omega) _ _
  rw [if_neg (show ¬ large ≤ 127 by omega)]
  split
  · split
    · exact twoBytes small large codes (by omega)
    split
    · exact precedes_of_lead (by omega) (by omega) _ _
    · exact precedes_of_lead (by omega) (by omega) _ _
  rw [if_neg (show ¬ large ≤ 2047 by omega)]
  split
  · split
    · exact threeBytes small large codes (by omega)
    · exact precedes_of_lead (by omega) (by omega) _ _
  rw [if_neg (show ¬ large ≤ 65535 by omega)]
  exact fourBytes small large codes (by omega)

/-- The smaller one of two texts has the smaller bytes. -/
theorem bytes_lt_bytes
    {left right : String}
    (less : left < right) :
    bytes left < bytes right := by
  rw [bytes_eq_flatMap, bytes_eq_flatMap]
  have characters : left.toList < right.toList := less
  generalize left.toList = first at characters
  generalize right.toList = second at characters
  induction characters with
  | @nil character rest =>
      rw [List.flatMap_cons]
      cases encoding : String.utf8EncodeChar character with
      | nil => exact absurd encoding String.utf8EncodeChar_ne_nil
      | cons byte encoding => exact List.nil_lt_cons _ _
  | cons later ih =>
      rw [List.flatMap_cons, List.flatMap_cons]
      exact List.append_left_lt ih
  | rel smaller =>
      rw [List.flatMap_cons, List.flatMap_cons]
      exact precedes_utf8EncodeChar smaller _ _

theorem bytes_lt_bytes_iff
    {left right : String} :
    bytes left < bytes right ↔ left < right := by
  constructor
  · intro less
    refine Classical.byContradiction fun notLess => ?_
    rcases Std.le_iff_lt_or_eq.1 (String.not_lt.1 notLess) with greater | equal
    · exact List.lt_asymm less (bytes_lt_bytes greater)
    · rw [equal] at less
      exact List.lt_irrefl _ less
  · exact bytes_lt_bytes

end CallScript.Text
