import Mathlib.Data.List.Induction
import Mathlib.Data.List.Nodup
import Mathlib.Logic.Equiv.Defs
import TextCursor.Document.Settings
import TextCursor.Proofs.Boundaries

/-! # Settings are read field by field

    A map gives each field the value under the name of the field, and a field that it
    does not name keeps its standard value.  Nothing else of the map makes a
    difference: `Field.HeldBy` looks at the entries of one name only, and there is one
    of them at most, since the names in a map are distinct.  Which documents hold which
    value is said by relations, `HoldsWord` and `HoldsEnd`, that know neither errors nor
    the order in which fields are looked at.

    A sequence gives its elements to the fields in order, as the map does that names
    them so (`Field.ofMap_zip`); there may be no more of them than there are fields.  And
    what is written is a map that names every field, so it is read back.

    A window and a setup are both the values of two fields, and `ReadsFields` is all that
    has to be known of how they are read. -/

namespace TextCursor

namespace Document

variable {entries others : List (Text × Document)} {name : Text} {d : Document}

/-! ## Entries -/

/-- No two entries of a map have one name. -/
def Distinct (entries : List (Text × Document)) : Prop :=
  (entries.map Prod.fst).Nodup

instance (entries : List (Text × Document)) : Decidable (Distinct entries) :=
  inferInstanceAs (Decidable (entries.map Prod.fst).Nodup)

/-- The entries whose names are among some fields. -/
def declared (fields : List Text) (entries : List (Text × Document)) : List (Text × Document) :=
  entries.filter fun entry => entry.1 ∈ fields

/-- An entry with a declared name is a declared one. -/
theorem mem_declared_iff {fields : List Text} (hname : name ∈ fields) :
    (name, d) ∈ declared fields entries ↔ (name, d) ∈ entries := by
  simp [declared, hname]

/-- Of the entries with a name the last one counts. -/
theorem entry?_concat (entries : List (Text × Document)) (key : Text) (value : Document)
    (name : Text) :
    entry? (entries ++ [(key, value)]) name
      = if key = name then some value else entry? entries name := by
  unfold entry?
  rw [List.foldl_append]
  rfl

/-- The entry that is found for a name is an entry. -/
theorem mem_of_entry?_eq_some (h : entry? entries name = some d) : (name, d) ∈ entries := by
  induction entries using List.reverseRecOn with
  | nil => exact nomatch h
  | append_singleton entries entry ih =>
      obtain ⟨key, value⟩ := entry
      rw [entry?_concat] at h
      by_cases hkey : key = name
      · rw [if_pos hkey] at h
        obtain rfl := Option.some.inj h
        rw [hkey]
        exact List.mem_append_right _ (List.mem_singleton_self _)
      · rw [if_neg hkey] at h
        exact List.mem_append_left _ (ih h)

/-- None is found for a name if and only if there is none. -/
theorem entry?_eq_none_iff : entry? entries name = none ↔ ∀ d, (name, d) ∉ entries := by
  constructor
  · intro h d hmem
    induction entries using List.reverseRecOn with
    | nil => exact nomatch hmem
    | append_singleton entries entry ih =>
        obtain ⟨key, value⟩ := entry
        rw [entry?_concat] at h
        by_cases hkey : key = name
        · rw [if_pos hkey] at h
          exact nomatch h
        · rw [if_neg hkey] at h
          rcases List.mem_append.mp hmem with hmem | hlast
          · exact ih h hmem
          · exact hkey (Prod.mk.inj (List.mem_singleton.mp hlast)).1.symm
  · intro h
    rw [Option.eq_none_iff_forall_ne_some]
    exact fun d hd => h d (mem_of_entry?_eq_some hd)

/-- Where names are distinct, what stands under a name is found. -/
theorem Distinct.entry?_eq_some_iff (h : Distinct entries) :
    entry? entries name = some d ↔ (name, d) ∈ entries := by
  refine ⟨mem_of_entry?_eq_some, fun hmem => ?_⟩
  cases hfound : entry? entries name with
  | none => exact absurd hmem (entry?_eq_none_iff.mp hfound d)
  | some found =>
      have hsame := List.inj_on_of_nodup_map h hmem (mem_of_entry?_eq_some hfound) rfl
      rw [(Prod.mk.inj hsame).2]

/-- Entries with different names are distinct, whatever they hold. -/
theorem distinct_zip {names : List Text} (hnames : names.Nodup) (items : List Document) :
    Distinct (names.zip items) := by
  induction names generalizing items with
  | nil => exact List.nodup_nil
  | cons name names ih =>
      obtain ⟨hname, hnames⟩ := List.nodup_cons.mp hnames
      cases items with
      | nil => exact List.nodup_nil
      | cons item items =>
          refine List.nodup_cons.mpr ⟨fun hmem => ?_, ih hnames items⟩
          obtain ⟨⟨key, value⟩, hentry, rfl⟩ := List.mem_map.mp hmem
          exact hname (List.of_mem_zip hentry).1

/-- Under the names of some fields stand the elements that are given to them in order. -/
theorem entry?_zip {names : List Text} (hnames : names.Nodup) (items : List Document) {i : Nat}
    (hi : i < names.length) : entry? (names.zip items) names[i] = items[i]? := by
  refine Option.ext fun d => ?_
  rw [(distinct_zip hnames items).entry?_eq_some_iff, List.mem_iff_getElem?]
  simp only [List.getElem?_zip_eq_some]
  constructor
  · rintro ⟨j, hname, hitem⟩
    obtain ⟨hj, hname⟩ := List.getElem?_eq_some_iff.mp hname
    obtain rfl := hnames.getElem_inj_iff.mp hname
    exact hitem
  · exact fun hitem => ⟨i, List.getElem?_eq_getElem hi, hitem⟩

/-! ## Values -/

/-- A document that holds a machine word. -/
inductive HoldsWord : Document → Nat → Prop
  | integer {n : Nat} (fits : n < wordLimit) : HoldsWord (.integer n) n

/-- A document that holds a behaviour at the end of the input: by its name, or by an entry of that
    name for nothing. -/
inductive HoldsEnd : Document → EndOfInput → Prop
  | name (e : EndOfInput) : HoldsEnd (.text e.name.toList) e
  | entry (e : EndOfInput) : HoldsEnd (.map [(e.name.toList, .null)]) e

/-- A word is read from a document that holds it, and from no other. -/
theorem readWord_eq_ok_iff {n : Nat} : readWord d = .ok n ↔ HoldsWord d n := by
  constructor
  · intro h
    unfold readWord at h
    split at h
    · split at h
      · rename_i hfits
        obtain rfl := Except.ok.inj h
        exact .integer hfits
      · exact nomatch h
    · exact nomatch h
    · exact nomatch h
  · rintro ⟨fits⟩
    exact if_pos fits

/-- A behaviour is read from its own name only. -/
theorem readName_eq_ok_iff {e : EndOfInput} : readName name = .ok e ↔ name = e.name.toList := by
  constructor
  · intro h
    unfold readName at h
    split at h
    · rename_i found hfound
      obtain rfl := Except.ok.inj h
      have hname := List.find?_some hfound
      exact (of_decide_eq_true hname).symm
    · exact nomatch h
  · rintro rfl
    cases e <;> rfl

/-- A behaviour is read from a document that holds it, by name or by entry, and from no other. -/
theorem readEndOfInput_eq_ok_iff {e : EndOfInput} : readEndOfInput d = .ok e ↔ HoldsEnd d e := by
  constructor
  · intro h
    unfold readEndOfInput at h
    split at h
    · rw [readName_eq_ok_iff.mp h]
      exact .name e
    · rename_i name value
      obtain ⟨found, hname, hvalue⟩ := exists_of_bind_eq_ok h
      split at hvalue
      · obtain rfl := Except.ok.inj hvalue
        rw [readName_eq_ok_iff.mp hname]
        exact .entry found
      · exact nomatch hvalue
    · exact nomatch h
    · exact nomatch h
  · have hname : readName e.name.toList = .ok e := readName_eq_ok_iff.mpr rfl
    rintro (_ | _)
    · exact hname
    · show (readName e.name.toList >>= _) = _
      rw [hname]
      rfl

/-- A sequence may be shorter than the fields, and not longer. -/
theorem checkLength_eq_ok_iff {items : List Document} {fields : Nat} :
    checkLength items fields = .ok () ↔ items.length ≤ fields := by
  unfold checkLength
  split
  · rename_i hle
    exact iff_of_true rfl hle
  · rename_i hlong
    exact iff_of_false (fun h => nomatch h) hlong

/-! ## Fields -/

/-- A field of some settings: how it is read, and what a document holds for it. -/
structure Field (α : Type) where
  name : String
  standard : α
  read : Document → Except SettingsError α
  Holds : Document → α → Prop
  read_eq_ok_iff : ∀ {d a}, read d = .ok a ↔ Holds d a

namespace Field

variable {α : Type} {a : α}

/-- A field for a machine word. -/
def word (name : String) (standard : Nat) : Field Nat :=
  ⟨name, standard, readWord, HoldsWord, readWord_eq_ok_iff⟩

/-- A field for what happens at the end of the input. -/
def endOfInput (name : String) (standard : EndOfInput) : Field EndOfInput :=
  ⟨name, standard, readEndOfInput, HoldsEnd, readEndOfInput_eq_ok_iff⟩

/-- The name of the field in a document. -/
def key (f : Field α) : Text :=
  f.name.toList

/-- What a map gives to the field. -/
def ofMap (f : Field α) (entries : List (Text × Document)) : Except SettingsError α :=
  readField entries f.name f.standard f.read

/-- What a sequence gives to the field at an index. -/
def ofSequence (f : Field α) (items : List Document) (index : Nat) : Except SettingsError α :=
  readElement items index f.standard f.read

/-- The value of the field in a map: the one that its entry holds, or the standard one. -/
inductive HeldBy (f : Field α) (entries : List (Text × Document)) : α → Prop
  | named {d : Document} {a : α} (entry : (f.key, d) ∈ entries) (holds : f.Holds d a) :
      HeldBy f entries a
  | unnamed (absent : ∀ d, (f.key, d) ∉ entries) : HeldBy f entries f.standard

/-- A field is read from a map that holds its value. -/
theorem ofMap_eq_ok_iff (f : Field α) (h : Distinct entries) :
    f.ofMap entries = .ok a ↔ f.HeldBy entries a := by
  unfold ofMap readField
  constructor
  · intro hread
    split at hread
    · rename_i d hfound
      exact .named (mem_of_entry?_eq_some hfound) (f.read_eq_ok_iff.mp hread)
    · rename_i hnone
      obtain rfl := Except.ok.inj hread
      exact .unnamed (entry?_eq_none_iff.mp hnone)
  · rintro (⟨hentry, hholds⟩ | habsent)
    · have hfound : entry? entries f.name.toList = _ := h.entry?_eq_some_iff.mpr hentry
      rw [hfound]
      exact f.read_eq_ok_iff.mpr hholds
    · have hnone : entry? entries f.name.toList = none := entry?_eq_none_iff.mpr habsent
      rw [hnone]

/-- Only the entries under its name make a difference to a field. -/
theorem heldBy_congr (f : Field α) (hsame : ∀ d, (f.key, d) ∈ entries ↔ (f.key, d) ∈ others) :
    f.HeldBy entries a ↔ f.HeldBy others a := by
  constructor
  · rintro (⟨hentry, hholds⟩ | habsent)
    · exact .named ((hsame _).mp hentry) hholds
    · exact .unnamed fun d hd => habsent d ((hsame d).mpr hd)
  · rintro (⟨hentry, hholds⟩ | habsent)
    · exact .named ((hsame _).mpr hentry) hholds
    · exact .unnamed fun d hd => habsent d ((hsame d).mp hd)

/-- Elements are given to fields as if they stood under their names. -/
theorem ofMap_zip (f : Field α) {names : List Text} (hnames : names.Nodup) (items : List Document)
    {i : Nat} (hi : i < names.length) (hname : names[i] = f.key) :
    f.ofMap (names.zip items) = f.ofSequence items i := by
  have hentry : entry? (names.zip items) f.name.toList = items[i]? := by
    have hzip := entry?_zip hnames items hi
    rwa [hname] at hzip
  rw [ofMap, readField, hentry]
  rfl

end Field

/-! ## Settings of two fields -/

section Settings

variable {α β σ : Type} {ofDocument : Document → Except SettingsError σ} {first : Field α}
  {second : Field β} {values : σ ≃ α × β}

/-- Settings, which are the values of two fields, as they are read: of a map the second field is
    looked at first, and of a sequence the first one. -/
structure ReadsFields (ofDocument : Document → Except SettingsError σ) (first : Field α)
    (second : Field β) (values : σ ≃ α × β) : Prop where
  of_map : ∀ entries, ofDocument (.map entries) = do
    let b ← second.ofMap entries
    let a ← first.ofMap entries
    return values.symm (a, b)
  of_sequence : ∀ items, ofDocument (.sequence items) = do
    let a ← first.ofSequence items 0
    let b ← second.ofSequence items 1
    checkLength items 2
    return values.symm (a, b)
  keys_ne : first.key ≠ second.key

/-- What such settings depend on. -/
structure MergesByField (ofDocument : Document → Except SettingsError σ) (first : Field α)
    (second : Field β) (values : σ ≃ α × β) : Prop where
  /-- Entries with other names make no difference, nor does the order of the entries. -/
  unchanged : ∀ {entries others : List (Text × Document)}, Distinct entries → Distinct others →
    (declared [first.key, second.key] entries).Perm (declared [first.key, second.key] others) →
    ∀ s, ofDocument (.map entries) = .ok s ↔ ofDocument (.map others) = .ok s
  /-- Each field has the value that the map holds for it, whatever it holds for the other one. -/
  by_field : ∀ {entries : List (Text × Document)}, Distinct entries → ∀ s,
    ofDocument (.map entries) = .ok s ↔
      first.HeldBy entries (values s).1 ∧ second.HeldBy entries (values s).2
  /-- A sequence is read as the map that names its elements in the order of the fields. -/
  in_order : ∀ (items : List Document) (s : σ), ofDocument (.sequence items) = .ok s ↔
    items.length ≤ 2 ∧ ofDocument (.map ([first.key, second.key].zip items)) = .ok s

namespace ReadsFields

/-- A map is read by reading both fields from it. -/
theorem map_iff (h : ReadsFields ofDocument first second values)
    (entries : List (Text × Document)) (s : σ) : ofDocument (.map entries) = .ok s ↔
      first.ofMap entries = .ok (values s).1 ∧ second.ofMap entries = .ok (values s).2 := by
  rw [h.of_map]
  constructor
  · intro hread
    obtain ⟨b, hb, hread⟩ := exists_of_bind_eq_ok hread
    obtain ⟨a, ha, hread⟩ := exists_of_bind_eq_ok hread
    obtain rfl := Except.ok.inj hread
    rw [Equiv.apply_symm_apply]
    exact ⟨ha, hb⟩
  · rintro ⟨ha, hb⟩
    rw [hb, ok_bind, ha, ok_bind]
    exact congrArg Except.ok (values.symm_apply_apply s)

/-- A sequence is read by reading the first field from its start and the second one behind it. -/
theorem sequence_iff (h : ReadsFields ofDocument first second values) (items : List Document)
    (s : σ) : ofDocument (.sequence items) = .ok s ↔ items.length ≤ 2 ∧
      first.ofSequence items 0 = .ok (values s).1 ∧
      second.ofSequence items 1 = .ok (values s).2 := by
  rw [h.of_sequence]
  constructor
  · intro hread
    obtain ⟨a, ha, hread⟩ := exists_of_bind_eq_ok hread
    obtain ⟨b, hb, hread⟩ := exists_of_bind_eq_ok hread
    obtain ⟨⟨⟩, hlength, hread⟩ := exists_of_bind_eq_ok hread
    obtain rfl := Except.ok.inj hread
    rw [Equiv.apply_symm_apply]
    exact ⟨checkLength_eq_ok_iff.mp hlength, ha, hb⟩
  · rintro ⟨hlength, ha, hb⟩
    rw [ha, ok_bind, hb, ok_bind, checkLength_eq_ok_iff.mpr hlength, ok_bind]
    exact congrArg Except.ok (values.symm_apply_apply s)

/-- Settings are read from a map that holds the values of both fields. -/
theorem by_field (h : ReadsFields ofDocument first second values)
    {entries : List (Text × Document)} (hdistinct : Distinct entries) (s : σ) :
    ofDocument (.map entries) = .ok s ↔
      first.HeldBy entries (values s).1 ∧ second.HeldBy entries (values s).2 := by
  rw [h.map_iff, first.ofMap_eq_ok_iff hdistinct, second.ofMap_eq_ok_iff hdistinct]

/-- Settings that are read field by field merge so. -/
theorem merges (h : ReadsFields ofDocument first second values) :
    MergesByField ofDocument first second values where
  unchanged := by
    intro entries others hentries hothers hperm s
    have hsame : ∀ name ∈ [first.key, second.key], ∀ d,
        (name, d) ∈ entries ↔ (name, d) ∈ others := by
      intro name hname d
      rw [← mem_declared_iff hname, hperm.mem_iff, mem_declared_iff hname]
    have hfirst := hsame first.key (by simp)
    have hsecond := hsame second.key (by simp)
    rw [h.by_field hentries, h.by_field hothers, first.heldBy_congr hfirst,
      second.heldBy_congr hsecond]
  by_field := h.by_field
  in_order := by
    intro items s
    have hnodup : [first.key, second.key].Nodup := by simpa using h.keys_ne
    rw [h.sequence_iff, h.map_iff, first.ofMap_zip (i := 0) hnodup items (by simp) rfl,
      second.ofMap_zip (i := 1) hnodup items (by simp) rfl]

/-- A map that names both fields, with documents that hold their values, is read as the settings
    with these values. -/
theorem ofDocument_pair (h : ReadsFields ofDocument first second values) {d e : Document} {s : σ}
    (hd : first.Holds d (values s).1) (he : second.Holds e (values s).2) :
    ofDocument (.map [(first.key, d), (second.key, e)]) = .ok s := by
  have hdistinct : Distinct [(first.key, d), (second.key, e)] := by
    simpa [Distinct] using h.keys_ne
  exact (h.by_field hdistinct s).mpr ⟨.named (by simp) hd, .named (by simp) he⟩

end ReadsFields

end Settings

end Document

namespace Window

/-- A window is its two fields. -/
def values : Window ≃ Nat × Nat where
  toFun w := (w.width, w.lead)
  invFun := fun (width, lead) => ⟨width, lead⟩
  left_inv := fun _ => rfl
  right_inv := fun _ => rfl

def widthField : Document.Field Nat := .word "snippet_width" standard.width

def leadField : Document.Field Nat := .word "snippet_lead" standard.lead

/-- The settings of a window are read field by field. -/
theorem readsFields : Document.ReadsFields ofDocument widthField leadField values :=
  ⟨fun _ => rfl, fun _ => rfl, by decide⟩

/-- A window that is written is read back. -/
theorem ofDocument_toDocument {w : Window} (hwidth : w.width < wordLimit)
    (hlead : w.lead < wordLimit) : ofDocument w.toDocument = .ok w :=
  readsFields.ofDocument_pair (.integer hwidth) (.integer hlead)

end Window

namespace MachineSetup

/-- A setup is its two fields. -/
def values : MachineSetup ≃ Nat × EndOfInput where
  toFun s := (s.cells, s.inputEnd)
  invFun := fun (cells, inputEnd) => ⟨cells, inputEnd⟩
  left_inv := fun _ => rfl
  right_inv := fun _ => rfl

def cellsField : Document.Field Nat := .word "tape_len" standard.cells

def inputEndField : Document.Field EndOfInput := .endOfInput "eof" standard.inputEnd

theorem readsFields : Document.ReadsFields ofDocument cellsField inputEndField values :=
  ⟨fun _ => rfl, fun _ => rfl, by decide⟩

theorem ofDocument_toDocument {s : MachineSetup} (hcells : s.cells < wordLimit) :
    ofDocument s.toDocument = .ok s :=
  readsFields.ofDocument_pair (.integer hcells) (.name s.inputEnd)

end MachineSetup

/-- **Settings merge field by field.**  What is written of a window or of a setup, whose numbers are
    words, is read back as it was.  A map is read field by field: it is read if what it has under
    the name of each field holds a value, which is then the value of the field, and a field that it
    does not name has its standard value; other entries and the order of the entries make no
    difference.  A sequence of at most two elements is read as the map that gives them to the fields
    in order, and a longer one is not read. -/
theorem settings_merge_by_field :
    (∀ w : Window, w.width < wordLimit → w.lead < wordLimit →
      Window.ofDocument w.toDocument = .ok w) ∧
    (∀ s : MachineSetup, s.cells < wordLimit → MachineSetup.ofDocument s.toDocument = .ok s) ∧
    Document.MergesByField Window.ofDocument Window.widthField Window.leadField Window.values ∧
    Document.MergesByField MachineSetup.ofDocument MachineSetup.cellsField
      MachineSetup.inputEndField MachineSetup.values :=
  ⟨fun _ => Window.ofDocument_toDocument, fun _ => MachineSetup.ofDocument_toDocument,
    Window.readsFields.merges, MachineSetup.readsFields.merges⟩

/-- The largest word, which is no signed one, is read back; and a setup with both fields in the
    other order around a name that is no field's is read as without it. -/
theorem settings_merge_by_field_around_another_name :
    wordLimit - 1 < wordLimit ∧ 0 < wordLimit ∧
      Window.ofDocument (Window.toDocument ⟨wordLimit - 1, 0⟩) = .ok ⟨wordLimit - 1, 0⟩ ∧
      MachineSetup.ofDocument (MachineSetup.toDocument ⟨wordLimit - 1, .unchanged⟩)
        = .ok ⟨wordLimit - 1, .unchanged⟩ ∧
      Document.Distinct [("eof".toList, .map [("AllOnes".toList, .null)]),
        ("z".toList, .sequence []), ("tape_len".toList, .integer (wordLimit - 1 : Nat))] ∧
      MachineSetup.ofDocument (.map [("eof".toList, .map [("AllOnes".toList, .null)]),
        ("z".toList, .sequence []), ("tape_len".toList, .integer (wordLimit - 1 : Nat))])
        = .ok ⟨wordLimit - 1, .allOnes⟩ ∧
      MachineSetup.ofDocument (.sequence [.integer 3, .text "Unchanged".toList])
        = .ok ⟨3, .unchanged⟩ := by
  obtain ⟨hwindow, hsetup, -, hmerges⟩ := settings_merge_by_field
  have hlargest : wordLimit - 1 < wordLimit := by decide
  have hdistinct : Document.Distinct [("eof".toList, .map [("AllOnes".toList, .null)]),
      ("z".toList, .sequence []), ("tape_len".toList, .integer (wordLimit - 1 : Nat))] := by decide
  have hplain : Document.Distinct [("tape_len".toList, .integer (wordLimit - 1 : Nat)),
      ("eof".toList, .map [("AllOnes".toList, .null)])] := by decide
  refine ⟨hlargest, by decide, hwindow _ hlargest (by decide), hsetup _ hlargest, hdistinct, ?_, ?_⟩
  · exact (hmerges.unchanged hdistinct hplain (List.Perm.swap _ _ _) _).mpr rfl
  · exact (hmerges.in_order _ _).mpr ⟨by decide, rfl⟩

end TextCursor
