import TextCursor.Matcher
import TextCursor.Proofs.Boundaries

/-! # Literals and characters as matchers

    A literal is sought in the bytes of the haystack and a character in its
    characters.  Either way the span ends within the haystack, so that the sum
    of its start and of the width sought is a word whenever the width of the
    haystack is one. -/

namespace TextCursor

/-- The width of a text is the number of its bytes. -/
theorem Text.length_bytes (t : Text) : t.bytes.length = t.width := by
  induction t with
  | nil => rfl
  | cons c t ih =>
      show (String.utf8EncodeChar c ++ bytes t).length = c.utf8Size + width t
      rw [List.length_append, String.length_utf8EncodeChar, ih]

/-- The bytes of two texts are those of the first one and those of the second one. -/
theorem Text.bytes_append (front back : Text) :
    (front ++ back).bytes = front.bytes ++ back.bytes := by
  induction front with
  | nil => rfl
  | cons c front ih =>
      show String.utf8EncodeChar c ++ bytes (front ++ back) = _
      rw [ih, ← List.append_assoc]
      rfl

namespace Matcher

/-- An occurrence of bytes ends within the bytes searched. -/
theorem firstOccurrence_le {sought bs : List UInt8} {k : Nat}
    (h : firstOccurrence sought bs = some k) : k + sought.length ≤ bs.length := by
  induction bs generalizing k with
  | nil =>
      rw [firstOccurrence] at h
      by_cases hempty : sought.isEmpty = true
      · rw [if_pos hempty] at h
        obtain rfl := Option.some.inj h
        rw [List.isEmpty_iff.mp hempty]
        exact Nat.le_refl 0
      · rw [if_neg hempty] at h
        exact nomatch h
  | cons b bs ih =>
      rw [firstOccurrence] at h
      by_cases hhere : sought.isPrefixOf (b :: bs) = true
      · rw [if_pos hhere] at h
        obtain rfl := Option.some.inj h
        rw [Nat.zero_add]
        exact (List.isPrefixOf_iff_prefix.mp hhere).length_le
      · rw [if_neg hhere] at h
        obtain ⟨j, hj, rfl⟩ := Option.map_eq_some_iff.mp h
        have := ih hj
        rw [List.length_cons]
        omega

/-- A character found ends within the text. -/
theorem firstIndex_le {c : Char} {t : Text} {k : Nat} (h : firstIndex c t = some k) :
    k + c.utf8Size ≤ t.width := by
  induction t generalizing k with
  | nil => exact nomatch h
  | cons d t ih =>
      rw [firstIndex] at h
      rw [Text.width_cons]
      by_cases heq : c = d
      · rw [if_pos heq] at h
        obtain rfl := Option.some.inj h
        rw [heq]
        omega
      · rw [if_neg heq] at h
        obtain ⟨j, hj, rfl⟩ := Option.map_eq_some_iff.mp h
        have := ih hj
        omega

/-- The span of a literal ends within the haystack. -/
theorem literal_stop_le {sought haystack : Text} {anchored : Bool} {found : Span}
    (h : (literal sought).find haystack anchored = some found) :
    found.stop ≤ haystack.width := by
  obtain ⟨start, hstart, rfl⟩ := Option.map_eq_some_iff.mp h
  show start + sought.width ≤ haystack.width
  rw [← Text.length_bytes sought, ← Text.length_bytes haystack]
  cases anchored with
  | false => exact firstOccurrence_le hstart
  | true =>
      rw [if_pos rfl] at hstart
      by_cases hhere : sought.bytes.isPrefixOf haystack.bytes = true
      · rw [if_pos hhere] at hstart
        obtain rfl := Option.some.inj hstart
        rw [Nat.zero_add]
        exact (List.isPrefixOf_iff_prefix.mp hhere).length_le
      · rw [if_neg hhere] at hstart
        exact nomatch hstart

/-- The span of a character ends within the haystack. -/
theorem char_stop_le {c : Char} {haystack : Text} {anchored : Bool} {found : Span}
    (h : (char c).find haystack anchored = some found) : found.stop ≤ haystack.width := by
  obtain ⟨start, hstart, rfl⟩ := Option.map_eq_some_iff.mp h
  show start + c.utf8Size ≤ haystack.width
  cases anchored with
  | false => exact firstIndex_le hstart
  | true =>
      rw [if_pos rfl] at hstart
      by_cases hhere : haystack.head? = some c
      · rw [if_pos hhere] at hstart
        obtain rfl := Option.some.inj hstart
        obtain ⟨rest, rfl⟩ := List.head?_eq_some_iff.mp hhere
        rw [Text.width_cons]
        omega
      · rw [if_neg hhere] at hstart
        exact nomatch hstart

end Matcher

end TextCursor
