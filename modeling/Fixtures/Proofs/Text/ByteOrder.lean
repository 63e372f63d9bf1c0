/-!
# The order of bytes

Texts compare as lists of characters, which compare by code point. In UTF-8 this is the order of their bytes:
of two characters the one with the lesser code has, at the first place where their bytes differ, the lesser
byte.
-/

namespace Fixtures.Text

/-- The bytes of a text. -/
def bytes (s : String) : List UInt8 := s.toUTF8.data.toList

theorem bytes_eq (s : String) : bytes s = s.toList.flatMap String.utf8EncodeChar := by
  have encoded : s.toByteArray = s.toList.utf8Encode := by
    rw [← String.toByteArray_ofList, String.ofList_toList]
  rw [bytes, String.toUTF8_eq_toByteArray, encoded, List.utf8Encode, List.toList_data_toByteArray]

/-- The bytes of a lesser character come first, whatever follows. -/
theorem utf8EncodeChar_append_lt {c d : Char} (h : c < d) (u v : List UInt8) :
    String.utf8EncodeChar c ++ u < String.utf8EncodeChar d ++ v := by
  have below : c.val.toNat < d.val.toNat := h
  have last : d.val.toNat < 0x110000 := by
    have := d.valid
    simp only [UInt32.isValidChar, Nat.isValidChar] at this
    omega
  unfold String.utf8EncodeChar
  generalize c.val.toNat = x at *
  generalize d.val.toNat = y at *
  -- No byte overflows, so the bytes are the digits to base 64 of the code with a mark added.
  have lead2 (n : Nat) : (n % 32 + 0xc0) % 256 = n % 32 + 0xc0 := by omega
  have lead3 (n : Nat) : (n % 16 + 0xe0) % 256 = n % 16 + 0xe0 := by omega
  have lead4 (n : Nat) : (n % 8 + 0xf0) % 256 = n % 8 + 0xf0 := by omega
  have further (n : Nat) : (n % 64 + 0x80) % 256 = n % 64 + 0x80 := by omega
  have second (n : Nat) : n / 4096 = n / 64 / 64 := by omega
  have third (n : Nat) : n / 262144 = n / 64 / 64 / 64 := by omega
  dsimp only
  repeat' split
  all_goals
    simp only [List.cons_append, List.nil_append, List.cons_lt_cons_iff, UInt8.lt_iff_toNat_lt,
      ← UInt8.toNat_inj, UInt8.toNat_ofNat', Nat.reducePow, lead2, lead3, lead4, further, second, third]
    omega

/-- The bytes of a lesser list of characters come first. -/
theorem flatMap_utf8EncodeChar_lt {cs ds : List Char} (h : cs < ds) :
    cs.flatMap String.utf8EncodeChar < ds.flatMap String.utf8EncodeChar := by
  induction cs generalizing ds with
  | nil =>
    cases ds with
    | nil => exact absurd h (List.lt_irrefl _)
    | cons d ds =>
      obtain ⟨b, more, hb⟩ := List.exists_cons_of_ne_nil (@String.utf8EncodeChar_ne_nil d)
      rw [List.flatMap_nil, List.flatMap_cons, hb, List.cons_append]
      exact List.nil_lt_cons _ _
  | cons c cs ih =>
    cases ds with
    | nil => exact absurd h (List.not_lt_nil _)
    | cons d ds =>
      rw [List.flatMap_cons, List.flatMap_cons]
      rcases List.cons_lt_cons_iff.1 h with first | ⟨rfl, later⟩
      · exact utf8EncodeChar_append_lt first _ _
      · exact List.append_left_lt (ih later)

/-- Texts are ordered by their bytes. -/
theorem bytes_lt_iff {s t : String} : bytes s < bytes t ↔ s < t := by
  have forth {s t : String} (h : s < t) : bytes s < bytes t := by
    rw [bytes_eq, bytes_eq]
    exact flatMap_utf8EncodeChar_lt h
  refine ⟨fun h => ?_, forth⟩
  by_cases same : s = t
  · rw [same] at h
    exact absurd h (List.lt_irrefl _)
  · rcases String.le_total t s with below | above
    · have less : t < s := Std.lt_of_le_of_ne below (Ne.symm same)
      exact absurd h (List.lt_asymm (forth less))
    · exact Std.lt_of_le_of_ne above same

end Fixtures.Text
