import TextCursor.Proofs.Matchers

/-! # Occurrences in bytes are occurrences in texts

    A literal is sought in the bytes of a haystack, and nothing looks whether its
    bytes are found between two characters.  They always are, because UTF-8 is
    self-synchronising:

    * the first byte of a character is never a later byte of another one, so a text
      that is not empty is found where a character begins
      (`exists_cut_of_firstByte`);
    * no character is written as the beginning of another one, so from there on the
      haystack has the characters of the text (`bytes_prefix_iff`).

    Hence what a literal or a character answers is a cut of the haystack in three:
    what stands before it, what was sought, and the rest. -/

namespace TextCursor

namespace Text

variable {t haystack : Text}

/-! ## Bytes of characters -/

/-- No character is written as the beginning of another one. -/
theorem eq_of_utf8EncodeChar_append {c d : Char} {xs ys : List UInt8}
    (h : String.utf8EncodeChar c ++ xs = String.utf8EncodeChar d ++ ys) : c = d := by
  have hbytes := congrArg List.toByteArray h
  rw [List.toByteArray_append, List.toByteArray_append] at hbytes
  have hdecode := ByteArray.utf8DecodeChar?_utf8EncodeChar_append (b := xs.toByteArray) (c := c)
  rw [hbytes, ByteArray.utf8DecodeChar?_utf8EncodeChar_append] at hdecode
  exact (Option.some.inj hdecode).symm

/-- A text begins another one if its bytes do. -/
theorem bytes_prefix_iff : t.bytes <+: haystack.bytes ↔ t <+: haystack := by
  constructor
  · intro h
    induction t generalizing haystack with
    | nil => exact List.nil_prefix
    | cons c t ih =>
        obtain ⟨more, hmore⟩ := h
        cases haystack with
        | nil =>
            have hlength := congrArg List.length hmore
            rw [List.length_append, length_bytes, length_bytes, width_cons, width_nil] at hlength
            have := c.utf8Size_pos
            omega
        | cons d haystack =>
            have hsplit : String.utf8EncodeChar c ++ (bytes t ++ more)
                = String.utf8EncodeChar d ++ bytes haystack := by
              rw [← List.append_assoc]
              exact hmore
            obtain rfl := eq_of_utf8EncodeChar_append hsplit
            exact (List.prefix_cons_inj c).mpr (ih ⟨more, List.append_cancel_left hsplit⟩)
  · rintro ⟨rest, rfl⟩
    rw [bytes_append]
    exact List.prefix_append _ _

/-- The bytes of a text that is not empty begin with a byte that begins a character. -/
theorem exists_firstByte (h : t ≠ []) :
    ∃ b, t.bytes.head? = some b ∧ b.IsUTF8FirstByte := by
  cases t with
  | nil => exact absurd rfl h
  | cons c t =>
      have hlength : 0 < (String.utf8EncodeChar c).length := by
        rw [String.length_utf8EncodeChar]
        exact c.utf8Size_pos
      refine ⟨(String.utf8EncodeChar c)[0], ?_, UInt8.isUTF8FirstByte_getElem_utf8EncodeChar.mpr rfl⟩
      show (String.utf8EncodeChar c ++ bytes t).head? = _
      rw [List.head?_eq_getElem?, List.getElem?_append_left hlength, List.getElem?_eq_getElem]

/-- Where a byte that begins a character stands, the text can be cut. -/
theorem exists_cut_of_firstByte {k : Nat} {b : UInt8} (hb : b.IsUTF8FirstByte)
    (hk : haystack.bytes[k]? = some b) : ∃ front back, haystack = front ++ back ∧ front.width = k := by
  induction haystack generalizing k with
  | nil => exact nomatch hk
  | cons c haystack ih =>
      have hbytes : (String.utf8EncodeChar c ++ bytes haystack)[k]? = some b := hk
      rcases Nat.lt_or_ge k c.utf8Size with hin | hout
      · -- of the bytes of one character only the first begins one
        have hlt : k < (String.utf8EncodeChar c).length := by
          rw [String.length_utf8EncodeChar]
          exact hin
        rw [List.getElem?_append_left hlt, List.getElem?_eq_getElem hlt] at hbytes
        obtain rfl := Option.some.inj hbytes
        obtain rfl := UInt8.isUTF8FirstByte_getElem_utf8EncodeChar.mp hb
        exact ⟨[], c :: haystack, rfl, rfl⟩
      · rw [List.getElem?_append_right (by rw [String.length_utf8EncodeChar]; exact hout),
          String.length_utf8EncodeChar] at hbytes
        obtain ⟨front, back, rfl, hwidth⟩ := ih hbytes
        refine ⟨c :: front, back, rfl, ?_⟩
        rw [width_cons, hwidth]
        omega

/-- Where the bytes of a text that is not empty stand, the text stands. -/
theorem exists_cut_of_bytes {k : Nat} (hne : t ≠ []) (h : t.bytes <+: haystack.bytes.drop k) :
    ∃ front back, haystack = front ++ t ++ back ∧ front.width = k := by
  obtain ⟨b, hhead, hb⟩ := exists_firstByte hne
  have hk : haystack.bytes[k]? = some b := by
    obtain ⟨more, hmore⟩ := h
    rw [← List.head?_drop, ← hmore, List.head?_append, hhead]
    rfl
  obtain ⟨front, rest, rfl, rfl⟩ := exists_cut_of_firstByte hb hk
  rw [bytes_append, ← length_bytes, List.drop_left, bytes_prefix_iff] at h
  obtain ⟨back, rfl⟩ := h
  exact ⟨front, back, (List.append_assoc front t back).symm, rfl⟩

end Text

namespace Matcher

variable {t haystack : Text} {c : Char} {anchored : Bool} {found : Span}

/-! ## Answers of literals and characters -/

/-- What an occurrence of bytes is. -/
theorem prefix_of_firstOccurrence {sought bs : List UInt8} {k : Nat}
    (h : firstOccurrence sought bs = some k) : sought <+: bs.drop k := by
  induction bs generalizing k with
  | nil =>
      rw [firstOccurrence] at h
      by_cases hempty : sought.isEmpty = true
      · rw [List.isEmpty_iff.mp hempty]
        exact List.nil_prefix
      · rw [if_neg hempty] at h
        cases h
  | cons b bs ih =>
      rw [firstOccurrence] at h
      by_cases hhere : sought.isPrefixOf (b :: bs) = true
      · rw [if_pos hhere] at h
        obtain rfl := Option.some.inj h
        exact List.isPrefixOf_iff_prefix.mp hhere
      · rw [if_neg hhere] at h
        obtain ⟨j, hj, rfl⟩ := Option.map_eq_some_iff.mp h
        exact ih hj

/-- Nothing is found at once. -/
theorem firstOccurrence_nil (bs : List UInt8) : firstOccurrence [] bs = some 0 := by
  cases bs <;> rfl

/-- A literal answers with a place where it stands in the haystack. -/
theorem exists_cut_of_literal (h : (literal t).find haystack anchored = some found) :
    ∃ front back, haystack = front ++ t ++ back ∧ found = ⟨front.width, front.width + t.width⟩ ∧
      (anchored = true → front = []) := by
  obtain ⟨start, hstart, rfl⟩ := Option.map_eq_some_iff.mp h
  cases anchored with
  | true =>
      rw [if_pos rfl] at hstart
      by_cases hhere : t.bytes.isPrefixOf haystack.bytes = true
      · rw [if_pos hhere] at hstart
        obtain rfl := Option.some.inj hstart
        obtain ⟨back, rfl⟩ := Text.bytes_prefix_iff.mp (List.isPrefixOf_iff_prefix.mp hhere)
        exact ⟨[], back, rfl, rfl, fun _ => rfl⟩
      · rw [if_neg hhere] at hstart
        exact nomatch hstart
  | false =>
      replace hstart : firstOccurrence t.bytes haystack.bytes = some start := hstart
      cases t with
      | nil =>
          -- the empty text has no first byte, but it is found at the very beginning
          obtain rfl := Option.some.inj ((firstOccurrence_nil _).symm.trans hstart)
          exact ⟨[], haystack, rfl, rfl, nofun⟩
      | cons d t =>
          obtain ⟨front, back, heq, rfl⟩ :=
            Text.exists_cut_of_bytes (List.cons_ne_nil d t) (prefix_of_firstOccurrence hstart)
          exact ⟨front, back, heq, rfl, nofun⟩

/-- A character is found where it stands. -/
theorem exists_cut_of_firstIndex {k : Nat} (h : firstIndex c haystack = some k) :
    ∃ front back, haystack = front ++ [c] ++ back ∧ front.width = k := by
  induction haystack generalizing k with
  | nil => exact nomatch h
  | cons d haystack ih =>
      rw [firstIndex] at h
      by_cases heq : c = d
      · rw [if_pos heq] at h
        obtain rfl := Option.some.inj h
        exact ⟨[], haystack, by rw [heq]; rfl, rfl⟩
      · rw [if_neg heq] at h
        obtain ⟨j, hj, rfl⟩ := Option.map_eq_some_iff.mp h
        obtain ⟨front, back, rfl, rfl⟩ := ih hj
        exact ⟨d :: front, back, rfl, Nat.add_comm _ _⟩

/-- A character answers with a place where it stands in the haystack. -/
theorem exists_cut_of_char (h : (char c).find haystack anchored = some found) :
    ∃ front back, haystack = front ++ [c] ++ back ∧
      found = ⟨front.width, front.width + Text.width [c]⟩ ∧ (anchored = true → front = []) := by
  obtain ⟨start, hstart, rfl⟩ := Option.map_eq_some_iff.mp h
  cases anchored with
  | true =>
      rw [if_pos rfl] at hstart
      by_cases hhere : haystack.head? = some c
      · rw [if_pos hhere] at hstart
        obtain rfl := Option.some.inj hstart
        obtain ⟨back, rfl⟩ := List.head?_eq_some_iff.mp hhere
        exact ⟨[], back, rfl, rfl, fun _ => rfl⟩
      · rw [if_neg hhere] at hstart
        exact nomatch hstart
  | false =>
      obtain ⟨front, back, heq, rfl⟩ := exists_cut_of_firstIndex (c := c) hstart
      exact ⟨front, back, heq, rfl, nofun⟩

end Matcher

end TextCursor
