import NativeDeps.Proofs.Text.Halves
import NativeDeps.Proofs.Text.Spelling
import NativeDeps.Value.Access

/-!
# Texts and mappings

What can be asked of every text and of every mapping.  A text is told by its spelling.  It
may be changed in letter case and freed of blanks, it is told apart as a key from every
other value, and it can be written.  A mapping can be asked for any key.
-/

namespace NativeDeps

namespace Value

variable {spelling other : Spelling}

@[simp]
theorem ofSpelling_ofText (text : String) : ofSpelling text = .text text := by
  rw [ofSpelling]
  split
  · rename_i whole found
    rw [Spelling.text?_ofText] at found
    rw [Option.some.inj found]
  · rename_i found
    rw [Spelling.text?_ofText] at found
    cases found

theorem ofSpelling_of_isBroken (isBroken : spelling.text? = none) :
    ofSpelling spelling = @halves spelling isBroken := by
  rw [ofSpelling]
  split
  · rename_i whole found
    cases isBroken.symm.trans found
  · rfl

/-- A spelling is a text with characters only, or one with halves. -/
theorem ofSpelling_cases (spelling : Spelling) :
    (∃ text : String, spelling = text ∧ ofSpelling spelling = .text text) ∨
      ∃ isBroken, ofSpelling spelling = @halves spelling isBroken := by
  by_cases isBroken : spelling.text? = none
  · exact .inr ⟨isBroken, ofSpelling_of_isBroken isBroken⟩
  · obtain ⟨text, whole⟩ := Option.ne_none_iff_exists'.1 isBroken
    obtain rfl := Spelling.text?_eq_some_iff.1 whole
    exact .inl ⟨text, rfl, ofSpelling_ofText text⟩

theorem ofSpelling_eq_text_iff {text : String} :
    ofSpelling spelling = .text text ↔ spelling = text := by
  constructor
  · intro same
    rcases ofSpelling_cases spelling with ⟨whole, rfl, isText⟩ | ⟨_, halves⟩
    · rw [isText] at same
      rw [Value.text.inj same]
    · cases halves.symm.trans same
  · rintro rfl
    exact ofSpelling_ofText text

/-- A text has the spelling that it is made of. -/
@[simp]
theorem spelling?_ofSpelling (spelling : Spelling) :
    (ofSpelling spelling).spelling? = some spelling := by
  rcases ofSpelling_cases spelling with ⟨text, rfl, isText⟩ | ⟨_, halves⟩
  · rw [isText]
    rfl
  · rw [halves]
    rfl

theorem ofSpelling_injective (same : ofSpelling spelling = ofSpelling other) :
    spelling = other := by
  have sameSpelling := congrArg spelling? same
  rw [spelling?_ofSpelling, spelling?_ofSpelling] at sameSpelling
  exact Option.some.inj sameSpelling

@[simp]
theorem ofSpelling_inj :
    ofSpelling spelling = ofSpelling other ↔ spelling = other :=
  ⟨ofSpelling_injective, congrArg ofSpelling⟩

/-- A text counts as given unless it is empty. -/
theorem isGiven_ofSpelling (spelling : Spelling) :
    (ofSpelling spelling).isGiven = (spelling != "") := by
  rcases ofSpelling_cases spelling with ⟨text, rfl, isText⟩ | ⟨half, halves⟩
  · rw [isText, isGiven, Bool.eq_iff_iff, bne_iff_ne, bne_iff_ne, Ne, Ne,
      Spelling.ofText_inj]
  · have notEmpty : spelling ≠ "" := by
      rintro rfl
      cases half
    rw [halves, isGiven, bne_iff_ne.2 notEmpty]

/-- A text is read as its spelling. -/
@[simp]
theorem toText_ofSpelling (spelling : Spelling) :
    (ofSpelling spelling).toText = .ok spelling := by
  rcases ofSpelling_cases spelling with ⟨text, rfl, isText⟩ | ⟨_, halves⟩
  · rw [isText, toText]
  · rw [halves, toText]

theorem toTextOrNull_ofSpelling (spelling : Spelling) :
    (ofSpelling spelling).toTextOrNull = .ok (some spelling) := by
  rw [toTextOrNull.eq_2, toText_ofSpelling]
  · rfl
  · intro isNull
    rcases ofSpelling_cases spelling with ⟨text, rfl, isText⟩ | ⟨_, halves⟩
    · cases isText.symm.trans isNull
    · cases halves.symm.trans isNull

@[simp]
theorem toTextOrNull_ofSpellingOrNull (spelling : Option Spelling) :
    (ofSpellingOrNull spelling).toTextOrNull = .ok spelling := by
  cases spelling with
  | none => rfl
  | some spelling => exact toTextOrNull_ofSpelling spelling

/-- A text without halves is told as it is. -/
@[simp]
theorem told_text (text : String) : (Value.text text).told = text :=
  Spelling.shown_ofText text

theorem lowered_ofSpelling (spelling : Spelling) :
    (ofSpelling spelling).lowered = .ok (ofSpelling spelling.lower) := by
  rcases ofSpelling_cases spelling with ⟨text, rfl, isText⟩ | ⟨_, halves⟩
  · rw [isText, Spelling.lower_ofText, ofSpelling_ofText]
    rfl
  · rw [halves]
    rfl

theorem stripped_ofSpelling (spelling : Spelling) :
    (ofSpelling spelling).stripped = .ok (ofSpelling spelling.strip) := by
  rcases ofSpelling_cases spelling with ⟨text, rfl, isText⟩ | ⟨_, halves⟩
  · rw [isText, Spelling.strip_ofText, ofSpelling_ofText]
    rfl
  · rw [halves]
    rfl

/-- Whether a value is a text, with or without halves of characters. -/
def IsText (value : Value) : Prop :=
  value.spelling?.isSome = true

instance (value : Value) : Decidable value.IsText :=
  inferInstanceAs (Decidable (_ = true))

theorem isText_ofSpelling (spelling : Spelling) : (ofSpelling spelling).IsText := by
  rw [IsText, spelling?_ofSpelling]
  rfl

theorem IsText.lowered {value : Value} (isText : value.IsText) :
    ∃ lowered, value.lowered = .ok lowered ∧ lowered.IsText := by
  cases value with
  | text text => exact ⟨_, rfl, rfl⟩
  | halves spelling => exact ⟨_, rfl, isText_ofSpelling _⟩
  | _ => cases isText

theorem IsText.stripped {value : Value} (isText : value.IsText) :
    ∃ stripped, value.stripped = .ok stripped ∧ stripped.IsText := by
  cases value with
  | text text => exact ⟨_, rfl, rfl⟩
  | halves spelling => exact ⟨_, rfl, isText_ofSpelling _⟩
  | _ => cases isText

/-- Every text is the one of its spelling. -/
theorem IsText.exists_spelling {value : Value} (isText : value.IsText) :
    ∃ spelling, value = ofSpelling spelling := by
  cases value with
  | text text => exact ⟨text, (ofSpelling_ofText text).symm⟩
  | @halves spelling isBroken =>
      exact ⟨spelling, (ofSpelling_of_isBroken isBroken).symm⟩
  | _ => cases isText

/-- Texts are the same key when they are the same text. -/
theorem IsText.sameKey_iff {value other : Value} (isText : value.IsText) :
    value.sameKey other = true ↔ value = other := by
  cases value with
  | text text => cases other <;> simp [sameKey, wholeNumber?]
  | halves spelling => cases other <;> simp [sameKey, wholeNumber?]
  | _ => cases isText

@[simp]
theorem sameKey_ofSpelling (spelling other : Spelling) :
    (ofSpelling spelling).sameKey (ofSpelling other) = (spelling == other) := by
  rw [Bool.eq_iff_iff, (isText_ofSpelling spelling).sameKey_iff, ofSpelling_inj,
    beq_iff_eq]

theorem sameKey_text_iff {value : Value} {text : String} :
    value.sameKey (.text text) = true ↔ value = .text text := by
  cases value <;> simp [sameKey, wholeNumber?]

theorem sameKey_ofSpelling_iff {value : Value} :
    value.sameKey (ofSpelling spelling) = true ↔
      value = ofSpelling spelling := by
  rcases ofSpelling_cases spelling with ⟨text, rfl, isText⟩ | ⟨_, halves⟩
  · rw [isText, sameKey_text_iff]
  · rw [halves]
    cases value <;> simp [sameKey, wholeNumber?]

/-- A text has no digits of a number, however long it is. -/
theorem IsText.holdsLong {value : Value} (isText : value.IsText) :
    value.holdsLong = false := by
  cases value with
  | text text => rfl
  | halves spelling => rfl
  | _ => cases isText

/-- What is null or a text has no digits of a number. -/
theorem holdsLong_of_isText
    {value : Value} (textual : value ≠ .null → value.IsText) :
    value.holdsLong = false := by
  cases value with
  | null => rfl
  | _ => exact (textual nofun).holdsLong

/-- A value that can be written is written as its text. -/
theorem eq_asText_of_written
    {value : Value} {spelling : Spelling}
    (written : value.written = .ok spelling) : spelling = value.asText := by
  rw [Value.written] at written
  split_ifs at written
  exact (Except.ok.inj written).symm

/-- A text that may be left out is a text where it is there. -/
theorem isText_ofTextOrNull {content : Option String}
    (isThere : ofTextOrNull content ≠ .null) :
    (ofTextOrNull content).IsText := by
  cases content with
  | none => exact absurd rfl isThere
  | some text => rfl

/-- Values can be listed when all of them are texts. -/
theorem exists_toSpellings_iff (values : List Value) :
    (∃ names, toSpellings values = .ok names) ↔
      ∀ value ∈ values, value.IsText := by
  induction values with
  | nil => exact iff_of_true ⟨[], rfl⟩ nofun
  | cons value rest induction =>
      rw [List.forall_mem_cons, ← induction, toSpellings, IsText]
      cases value.spelling? with
      | none => exact iff_of_false nofun nofun
      | some spelling =>
          constructor
          · rintro ⟨names, named⟩
            cases restNamed : toSpellings rest with
            | error failure =>
                rw [restNamed] at named
                cases named
            | ok others => exact ⟨rfl, others, rfl⟩
          · rintro ⟨_, names, named⟩
            rw [named]
            exact ⟨_, rfl⟩

theorem isSome_lookup? (key : Value) (entries : List (Value × Value)) :
    (lookup? key entries).isSome = entries.any (·.1.sameKey key) := by
  induction entries with
  | nil => rfl
  | cons entry rest induction =>
      rcases entry with ⟨other, value⟩
      rw [lookup?, List.any_cons]
      cases other.sameKey key with
      | true => rfl
      | false => exact induction

/-- A mapping holds its keys. -/
theorem holds_of_entries
    {value : Value} {entries : List (Value × Value)}
    (asked : value.entries = .ok entries) (key : Value) :
    value.holds key = .ok (entries.any (·.1.sameKey key)) := by
  rw [Value.entries] at asked
  split at asked
  · rename_i same
    obtain rfl := Except.ok.inj asked
    rw [holds, same, ← isSome_lookup?]
  · cases asked

/-- A mapping has the fallback where there is no entry for a scalar. -/
theorem get_of_entries
    {value key : Value} {entries : List (Value × Value)}
    (asked : value.entries = .ok entries) (isScalar : key.isScalar = true)
    (fallback : Value) :
    value.get key fallback = .ok ((lookup? key entries).getD fallback) := by
  rw [get, asked]
  exact if_pos isScalar

theorem getText_of_entries
    {value : Value} {entries : List (Value × Value)}
    (asked : value.entries = .ok entries) (name : String) :
    value.getText name =
      match field? name entries with
      | some found => .ok found
      | none => .error .absent := by
  rw [Value.entries] at asked
  split at asked
  · rename_i same
    rw [Except.ok.inj asked] at same
    cases found : field? name entries with
    | none => simp only [getText, same, found]
    | some value => simp only [getText, same, found]
  · cases asked

end Value

end NativeDeps
