import Turnstile.Text.Utf8

/-!
# Decoding by pieces

How far the first characters of a run of bytes depend on the bytes.  A character
takes four bytes at most, and no byte beyond the fourth is looked at to tell which
character it is or where the next one starts, whether the bytes are well-formed or
broken off.  So many characters are therefore settled by four times as many bytes.

Bytes that were written from a text are decoded to that text.
-/

namespace Turnstile
namespace Text
namespace Utf8

/-! ## Looking ahead -/

theorem decodeUpTo_cons (limit : Nat) (lead : UInt8) (followers : Bytes) :
    decodeUpTo (limit + 1) (lead :: followers) =
      (decodeFirst lead followers).1 ::
        decodeUpTo limit (followers.drop (decodeFirst lead followers).2) :=
  rfl

theorem decodeFirst_used_le (lead : UInt8) (followers : Bytes) :
    (decodeFirst lead followers).2 ≤ 3 := by
  fun_cases decodeFirst lead followers <;> simp

/-- Only the first three followers are looked at. -/
theorem decodeFirst_take
    (lead : UInt8)
    (followers : Bytes)
    {count : Nat}
    (enough : 3 ≤ count) :
    decodeFirst lead (followers.take count) = decodeFirst lead followers := by
  obtain ⟨more, rfl⟩ := Nat.exists_eq_add_of_le' enough
  match followers with
  | [] => rfl
  | [_] => rfl
  | [_, _] => rfl
  | _ :: _ :: _ :: _ => rfl

/-- Characters are settled by four times as many bytes. -/
theorem decodeUpTo_take
    {limit count : Nat}
    (enough : 4 * limit ≤ count)
    (bytes : Bytes) :
    decodeUpTo limit (bytes.take count) = decodeUpTo limit bytes := by
  induction limit generalizing count bytes with
  | zero => simp [decodeUpTo]
  | succ limit inductionHypothesis =>
      cases bytes with
      | nil => simp
      | cons lead followers =>
          obtain ⟨count, rfl⟩ := Nat.exists_eq_add_of_le' (show 1 ≤ count by omega)
          have settled := decodeFirst_take lead followers
            (show 3 ≤ count by omega)
          have used := decodeFirst_used_le lead followers
          rw [List.take_succ_cons, decodeUpTo_cons, decodeUpTo_cons, settled,
            List.drop_take, inductionHypothesis (by omega)]

/-- The first characters are the same under every limit that leaves none out. -/
theorem take_decodeUpTo
    {limit : Nat}
    {bytes : Bytes}
    (whole : bytes.length ≤ limit)
    (count : Nat) :
    (decodeUpTo limit bytes).take count = decodeUpTo count bytes := by
  induction count generalizing limit bytes with
  | zero => simp [decodeUpTo]
  | succ count inductionHypothesis =>
      cases bytes with
      | nil => cases limit <;> rfl
      | cons lead followers =>
          rw [List.length_cons] at whole
          obtain ⟨limit, rfl⟩ := Nat.exists_eq_add_of_le' (show 1 ≤ limit by omega)
          have shorter :
              (followers.drop (decodeFirst lead followers).2).length ≤ limit := by
            rw [List.length_drop]
            omega
          rw [decodeUpTo_cons, decodeUpTo_cons, List.take_succ_cons,
            inductionHypothesis shorter]

theorem take_decode (count : Nat) (bytes : Bytes) :
    (decode bytes).take count = decodeUpTo count bytes :=
  take_decodeUpTo (Nat.le_refl _) count

/-- The first characters of a run of bytes are those of its beginning. -/
theorem take_decode_take (count : Nat) (bytes : Bytes) :
    (decode (bytes.take (4 * count))).take count = (decode bytes).take count := by
  rw [take_decode, take_decode, decodeUpTo_take (Nat.le_refl _)]

/-! ## Written texts -/

theorem toNat_lt_or_of_char (char : Char) :
    char.toNat < 0xD800 ∨ 0xDFFF < char.toNat ∧ char.toNat < 0x110000 :=
  char.valid

theorem inRange_iff {low high : Nat} {byte : UInt8} :
    inRange low high byte = true ↔ low ≤ byte.toNat ∧ byte.toNat ≤ high := by
  simp [inRange]

theorem inRange_eq_false {low high : Nat} {byte : UInt8} :
    inRange low high byte = false ↔ byte.toNat < low ∨ high < byte.toNat := by
  simp [inRange]
  omega

theorem decodeFirst_one
    {lead : UInt8}
    (ascii : lead.toNat < 0x80)
    (followers : Bytes) :
    decodeFirst lead followers = (Char.ofNat lead.toNat, 0) := by
  unfold decodeFirst
  rw [if_pos ascii]

theorem decodeFirst_two
    {lead second : UInt8}
    (first : inRange 0xC2 0xDF lead = true)
    (continued : isContinuation second = true)
    (rest : Bytes) :
    decodeFirst lead (second :: rest) =
      (Char.ofNat (extend (lead.toNat % 32) second), 1) := by
  have bounds := inRange_iff.1 first
  unfold decodeFirst
  rw [if_neg (by omega), if_pos first]
  exact if_pos continued

theorem decodeFirst_three
    {lead second third : UInt8}
    (first : inRange 0xE0 0xEF lead = true)
    (allowed : secondOfThree lead second = true)
    (continued : isContinuation third = true)
    (rest : Bytes) :
    decodeFirst lead (second :: third :: rest) =
      (Char.ofNat (extend (extend (lead.toNat % 16) second) third), 2) := by
  have bounds := inRange_iff.1 first
  have longer : inRange 0xC2 0xDF lead = false := inRange_eq_false.2 (by omega)
  unfold decodeFirst
  rw [if_neg (by omega), longer, if_neg Bool.false_ne_true, if_pos first]
  dsimp only
  rw [if_pos allowed, if_pos continued]

theorem decodeFirst_four
    {lead second third fourth : UInt8}
    (first : inRange 0xF0 0xF4 lead = true)
    (allowed : secondOfFour lead second = true)
    (continued : isContinuation third = true)
    (ended : isContinuation fourth = true)
    (rest : Bytes) :
    decodeFirst lead (second :: third :: fourth :: rest) =
      (Char.ofNat (extend
        (extend (extend (lead.toNat % 8) second) third) fourth), 3) := by
  have bounds := inRange_iff.1 first
  have longer : inRange 0xC2 0xDF lead = false := inRange_eq_false.2 (by omega)
  have longest : inRange 0xE0 0xEF lead = false := inRange_eq_false.2 (by omega)
  unfold decodeFirst
  rw [if_neg (by omega), longer, if_neg Bool.false_ne_true, longest,
    if_neg Bool.false_ne_true, if_pos first]
  dsimp only
  rw [if_pos allowed, if_pos continued, if_pos ended]

theorem secondOfThree_iff {lead second : UInt8} :
    secondOfThree lead second = true ↔
      (0x80 ≤ second.toNat ∧ second.toNat ≤ 0xBF) ∧
        (lead.toNat = 0xE0 → 0xA0 ≤ second.toNat) ∧
        (lead.toNat = 0xED → second.toNat ≤ 0x9F) := by
  rw [secondOfThree]
  split
  · rw [inRange_iff]
    omega
  split
  · rw [inRange_iff]
    omega
  · rw [isContinuation, inRange_iff]
    omega

theorem secondOfFour_iff {lead second : UInt8} :
    secondOfFour lead second = true ↔
      (0x80 ≤ second.toNat ∧ second.toNat ≤ 0xBF) ∧
        (lead.toNat = 0xF0 → 0x90 ≤ second.toNat) ∧
        (lead.toNat = 0xF4 → second.toNat ≤ 0x8F) := by
  rw [secondOfFour]
  split
  · rw [inRange_iff]
    omega
  split
  · rw [inRange_iff]
    omega
  · rw [isContinuation, inRange_iff]
    omega

theorem toNat_ofNat_byte {number : Nat} (fits : number < 256) :
    (UInt8.ofNat number).toNat = number := by
  rw [UInt8.toNat_ofNat', Nat.mod_eq_of_lt fits]

/-- The bytes of a character begin with it, whatever follows. -/
theorem decodeFirst_utf8EncodeChar (char : Char) :
    ∃ lead followers, String.utf8EncodeChar char = lead :: followers ∧
      ∀ rest, decodeFirst lead (followers ++ rest) = (char, followers.length) := by
  have valid := toNat_lt_or_of_char char
  have same : Char.ofNat char.toNat = char := Char.ofNat_toNat char
  have tail (bits : Nat) :
      (UInt8.ofNat (bits % 64 + 0x80)).toNat = bits % 64 + 0x80 :=
    toNat_ofNat_byte (by omega)
  fun_cases String.utf8EncodeChar char
  · next code one =>
      have whole : code = char.toNat := rfl
      have first := toNat_ofNat_byte (show code < 256 by omega)
      refine ⟨_, _, rfl, ?_⟩
      intro rest
      rw [decodeFirst_one (by omega), first, whole, same]
      rfl
  · next code _ two =>
      have whole : code = char.toNat := rfl
      have first := toNat_ofNat_byte (show code / 64 % 32 + 0xC0 < 256 by omega)
      have second := tail code
      have bits : (code / 64 % 32 + 0xC0) % 32 * 64 + (code % 64 + 0x80) % 64 =
          char.toNat := by
        omega
      refine ⟨_, _, rfl, ?_⟩
      intro rest
      rw [List.cons_append, decodeFirst_two (inRange_iff.2 (by omega))
        (inRange_iff.2 (by omega)), extend, first, second, bits, same]
      rfl
  · next code _ _ three =>
      have whole : code = char.toNat := rfl
      have first := toNat_ofNat_byte (show code / 4096 % 16 + 0xE0 < 256 by omega)
      have second := tail (code / 64)
      have third := tail code
      have bits : ((code / 4096 % 16 + 0xE0) % 16 * 64 +
            (code / 64 % 64 + 0x80) % 64) * 64 + (code % 64 + 0x80) % 64 =
          char.toNat := by
        omega
      refine ⟨_, _, rfl, ?_⟩
      intro rest
      rw [List.cons_append, List.cons_append,
        decodeFirst_three (inRange_iff.2 (by omega))
          (secondOfThree_iff.2 (by omega)) (inRange_iff.2 (by omega)),
        extend, extend, first, second, third, bits, same]
      rfl
  · next code _ _ four =>
      have whole : code = char.toNat := rfl
      have first := toNat_ofNat_byte (show code / 262144 % 8 + 0xF0 < 256 by omega)
      have second := tail (code / 4096)
      have third := tail (code / 64)
      have fourth := tail code
      have bits : (((code / 262144 % 8 + 0xF0) % 8 * 64 +
            (code / 4096 % 64 + 0x80) % 64) * 64 +
            (code / 64 % 64 + 0x80) % 64) * 64 + (code % 64 + 0x80) % 64 =
          char.toNat := by
        omega
      refine ⟨_, _, rfl, ?_⟩
      intro rest
      rw [List.cons_append, List.cons_append, List.cons_append,
        decodeFirst_four (inRange_iff.2 (by omega))
          (secondOfFour_iff.2 (by omega)) (inRange_iff.2 (by omega))
          (inRange_iff.2 (by omega)),
        extend, extend, extend, first, second, third, fourth, bits, same]
      rfl

/-- Of the bytes of some characters, the first characters are decoded. -/
theorem decodeUpTo_flatMap_utf8EncodeChar (limit : Nat) (chars : List Char) :
    decodeUpTo limit (chars.flatMap String.utf8EncodeChar) = chars.take limit := by
  induction chars generalizing limit with
  | nil => cases limit <;> rfl
  | cons char rest inductionHypothesis =>
      cases limit with
      | zero => rfl
      | succ limit =>
          obtain ⟨lead, followers, bytes, read⟩ := decodeFirst_utf8EncodeChar char
          rw [List.flatMap_cons, bytes, List.cons_append, decodeUpTo_cons, read,
            List.drop_left, inductionHypothesis, List.take_succ_cons]

/-- Listing bytes from an index on puts them behind those already listed. -/
theorem toList_loop (bytes : ByteArray) (index : Nat) (listed : Bytes) :
    ByteArray.toList.loop bytes index listed =
      listed.reverse ++ bytes.data.toList.drop index := by
  fun_induction ByteArray.toList.loop bytes index listed with
  | case1 index listed inside inductionHypothesis =>
      have within : index < bytes.data.toList.length := by simpa using inside
      have next : bytes.get! index = bytes.data.toList[index] := by
        simp [ByteArray.get!, inside]
      rw [inductionHypothesis, List.drop_eq_getElem_cons within, next,
        List.reverse_cons, List.append_assoc, List.singleton_append]
  | case2 index listed outside =>
      have past : bytes.data.toList.length ≤ index := by
        simpa using Nat.le_of_not_lt outside
      rw [List.drop_of_length_le past, List.append_nil]

/-- A text is written character by character. -/
theorem encode_eq_flatMap (text : String) :
    encode text = text.toList.flatMap String.utf8EncodeChar := by
  have written : text.toUTF8 =
      (text.toList.flatMap String.utf8EncodeChar).toByteArray := by
    rw [← List.utf8Encode, ← String.toByteArray_ofList, String.ofList_toList]
    rfl
  rw [encode, ByteArray.toList, toList_loop, written,
    List.toList_data_toByteArray]
  rfl

/-- The first characters of what a text was written as are those of the text. -/
theorem take_decode_encode (count : Nat) (text : String) :
    (decode (encode text)).take count = text.toList.take count := by
  rw [take_decode, encode_eq_flatMap, decodeUpTo_flatMap_utf8EncodeChar]

/-! ## Sizes -/

/-- A text takes four bytes a character at most. -/
theorem utf8ByteSize_ofList_le (chars : List Char) :
    (String.ofList chars).utf8ByteSize ≤ 4 * chars.length := by
  induction chars with
  | nil => simp
  | cons char rest inductionHypothesis =>
      have one := char.utf8Size_le_four
      have parted : String.ofList (char :: rest) =
          String.singleton char ++ String.ofList rest := by
        rw [String.singleton_eq_ofList, ← String.ofList_append]
        rfl
      rw [parted, String.utf8ByteSize_append, String.utf8ByteSize_singleton,
        List.length_cons]
      omega

end Utf8
end Text
end Turnstile
