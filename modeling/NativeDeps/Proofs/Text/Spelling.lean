import NativeDeps.Text.Spelling

/-!
# Letters, code points and texts

A character is a code point that is no half of a character, and a letter is any code point.
So a spelling is the same as its code points, and the spellings without halves are the same
as the texts.
-/

namespace NativeDeps

namespace Text

theorem toNat_lt_codePoints (character : Char) :
    character.toNat < 0x110000 := by
  rcases character.valid with below | ⟨_, above⟩
  · exact Nat.lt_trans below (by decide)
  · exact above

theorem isHalf_toNat (character : Char) :
    isHalf character.toNat = false := by
  rcases character.valid with below | ⟨above, _⟩
  · simp only [isHalf, Bool.and_eq_false_iff, decide_eq_false_iff_not]
    exact Or.inl (Nat.not_le.2 below)
  · simp only [isHalf, Bool.and_eq_false_iff, decide_eq_false_iff_not]
    exact Or.inr (Nat.not_lt.2 above)

theorem isFirstHalf_toNat (character : Char) :
    isFirstHalf character.toNat = false := by
  have noHalf := isHalf_toNat character
  rw [isHalf, Bool.and_eq_false_iff, decide_eq_false_iff_not,
    decide_eq_false_iff_not] at noHalf
  rw [isFirstHalf, Bool.and_eq_false_iff, decide_eq_false_iff_not,
    decide_eq_false_iff_not]
  omega

theorem joinPairs_cons_of_not_isFirstHalf
    {code : Nat} (noHalf : isFirstHalf code = false) (codes : List Nat) :
    joinPairs (code :: codes) = code :: joinPairs codes := by
  cases codes with
  | nil => rfl
  | cons next rest =>
      rw [joinPairs, noHalf, Bool.false_and, if_neg Bool.false_ne_true]

/-- Characters have no halves that could be joined. -/
theorem joinPairs_map_toNat (characters : List Char) :
    joinPairs (characters.map Char.toNat) = characters.map Char.toNat := by
  induction characters with
  | nil => rfl
  | cons character rest induction =>
      rw [List.map_cons,
        joinPairs_cons_of_not_isFirstHalf (isFirstHalf_toNat character),
        induction]

@[simp]
theorem charOfCode_toNat (character : Char) :
    charOfCode character.toNat = character := by
  have isCharacter : character.toNat.isValidChar := character.valid
  rw [charOfCode, if_pos isCharacter, Char.ofNat_toNat]

end Text

namespace Letter

@[simp]
theorem code_char (character : Char) : (char character).code = character.toNat :=
  rfl

theorem code_lt_codePoints (letter : Letter) : letter.code < 0x110000 := by
  cases letter with
  | char character => exact Text.toNat_lt_codePoints character
  | half place =>
      rw [code]
      omega

theorem isHalf_code (letter : Letter) :
    Text.isHalf letter.code = !letter.isChar := by
  cases letter with
  | char character => exact Text.isHalf_toNat character
  | half place =>
      have inRange := place.isLt
      have isHalf : 0xD800 ≤ (half place).code ∧ (half place).code < 0xE000 := by
        rw [code]
        omega
      rw [Text.isHalf, decide_eq_true isHalf.1, decide_eq_true isHalf.2]
      rfl

/-- A letter is the one of its code point. -/
@[simp]
theorem ofCode_code (letter : Letter) : ofCode letter.code = letter := by
  cases letter with
  | char character =>
      have noHalf := Text.isHalf_toNat character
      simp only [Text.isHalf, Bool.and_eq_false_iff, decide_eq_false_iff_not]
        at noHalf
      rw [ofCode, dif_neg (by rw [code]; omega), code, Text.charOfCode_toNat]
  | half place =>
      have inRange := place.isLt
      have offset : (half place).code - 0xD800 = place := by
        rw [code]
        omega
      have isHalf :
          0xD800 ≤ (half place).code ∧ (half place).code - 0xD800 < 0x800 := by
        rw [offset, code]
        omega
      rw [ofCode, dif_pos isHalf]
      exact congrArg half (Fin.ext offset)

end Letter

namespace Spelling

variable {spelling other : Spelling} {text : String}

@[simp]
theorem ofText_empty : ofText "" = [] :=
  rfl

theorem ofText_ofList (characters : List Char) :
    ofText (String.ofList characters) = characters.map .char := by
  rw [ofText, String.toList_ofList]

theorem ofText_eq_nil_iff : ofText text = [] ↔ text = "" := by
  rw [ofText, List.map_eq_nil_iff, String.toList_eq_nil_iff]

/-- The spelling of a text has its characters and nothing else. -/
@[simp]
theorem chars?_map_char (characters : List Char) :
    chars? (characters.map .char) = some characters := by
  induction characters with
  | nil => rfl
  | cons character rest induction =>
      rw [List.map_cons, chars?, induction]
      rfl

theorem chars?_eq_some_iff {characters : List Char} :
    spelling.chars? = some characters ↔ spelling = characters.map .char := by
  constructor
  · intro isWhole
    induction spelling generalizing characters with
    | nil =>
        obtain rfl := Option.some.inj isWhole
        rfl
    | cons letter rest induction =>
        cases letter with
        | char character =>
            obtain ⟨others, restWhole, rfl⟩ := Option.map_eq_some_iff.1 isWhole
            rw [List.map_cons, induction restWhole]
        | half place => cases isWhole
  · rintro rfl
    exact chars?_map_char characters

@[simp]
theorem chars?_ofText (text : String) : (ofText text).chars? = some text.toList :=
  chars?_map_char text.toList

@[simp]
theorem text?_ofText (text : String) : (ofText text).text? = some text := by
  rw [text?, chars?_ofText, Option.map_some, String.ofList_toList]

theorem text?_eq_some_iff : spelling.text? = some text ↔ spelling = text := by
  constructor
  · intro isWhole
    obtain ⟨characters, same, rfl⟩ := Option.map_eq_some_iff.1 isWhole
    rw [chars?_eq_some_iff.1 same, ofText_ofList]
  · rintro rfl
    exact text?_ofText text

theorem ofText_injective {text other : String}
    (same : ofText text = ofText other) : text = other := by
  have sameText := congrArg text? same
  rw [text?_ofText, text?_ofText] at sameText
  exact Option.some.inj sameText

@[simp]
theorem ofText_inj {text other : String} :
    ofText text = ofText other ↔ text = other :=
  ⟨ofText_injective, congrArg ofText⟩

theorem isWhole_ofText (text : String) : IsWhole text := by
  intro letter member
  obtain ⟨character, _, rfl⟩ := List.mem_map.1 member
  rfl

/-- The spellings without halves are those of the texts. -/
theorem isWhole_iff : spelling.IsWhole ↔ ∃ text : String, spelling = text := by
  constructor
  · intro isWhole
    induction spelling with
    | nil => exact ⟨"", rfl⟩
    | cons letter rest induction =>
        obtain ⟨letterWhole, restWhole⟩ := List.forall_mem_cons.1 isWhole
        obtain ⟨text, rfl⟩ := induction restWhole
        cases letter with
        | char character =>
            refine ⟨String.ofList (character :: text.toList), ?_⟩
            rw [ofText_ofList]
            rfl
        | half place => cases letterWhole
  · rintro ⟨text, rfl⟩
    exact isWhole_ofText text

/-- Spellings without halves are those of some texts. -/
theorem exists_texts {spellings : List Spelling}
    (areWhole : ∀ spelling ∈ spellings, spelling.IsWhole) :
    ∃ texts : List String, spellings = texts.map ofText := by
  induction spellings with
  | nil => exact ⟨[], rfl⟩
  | cons spelling rest induction =>
      obtain ⟨isWhole, restWhole⟩ := List.forall_mem_cons.1 areWhole
      obtain ⟨text, rfl⟩ := isWhole_iff.1 isWhole
      obtain ⟨texts, rfl⟩ := induction restWhole
      exact ⟨text :: texts, rfl⟩

theorem text?_eq_none_iff : spelling.text? = none ↔ ¬ spelling.IsWhole := by
  rw [isWhole_iff, Option.eq_none_iff_forall_ne_some, not_exists]
  exact forall_congr' fun _ => not_congr text?_eq_some_iff

theorem isWhole_append :
    (spelling ++ other).IsWhole ↔ spelling.IsWhole ∧ other.IsWhole :=
  List.forall_mem_append

/-- A half of a character that stands alone. -/
def lone : Spelling :=
  [.half 0]

/-- A spelling is the one of its code points. -/
@[simp]
theorem ofCodes_codes (spelling : Spelling) : ofCodes spelling.codes = spelling := by
  rw [ofCodes, codes, List.map_map]
  exact List.map_id'' Letter.ofCode_code spelling

@[simp]
theorem codes_cons (letter : Letter) (rest : Spelling) :
    codes (letter :: rest) = letter.code :: codes rest :=
  rfl

@[simp]
theorem codes_append (spelling other : Spelling) :
    codes (spelling ++ other) = spelling.codes ++ other.codes :=
  List.map_append

/-- The code points of a spelling spell its characters, if it has no half. -/
theorem charsOfCodes?_codes (spelling : Spelling) :
    Text.charsOfCodes? spelling.codes = spelling.chars? := by
  induction spelling with
  | nil => rfl
  | cons letter rest induction =>
      rw [codes_cons, Text.charsOfCodes?, induction, Letter.isHalf_code]
      cases letter with
      | char character =>
          rw [Letter.code, Text.charOfCode_toNat]
          rfl
      | half place => rfl

theorem codes_map_char (characters : List Char) :
    codes (characters.map .char) = characters.map Char.toNat := by
  rw [codes, List.map_map]
  rfl

theorem codes_ofText (text : String) :
    (ofText text).codes = text.toList.map Char.toNat :=
  codes_map_char text.toList

/-- In a text without halves nothing is joined. -/
theorem joined_ofText (text : String) : (ofText text).joined = text := by
  rw [joined, codes_ofText, Text.joinPairs_map_toNat, ← codes_ofText,
    ofCodes_codes]

/-- A text without halves is shown as it is. -/
@[simp]
theorem shown_ofText (text : String) : (ofText text).shown = text := by
  have same : text.toList.map (Text.charOfCode ∘ Char.toNat) = text.toList :=
    List.map_id'' Text.charOfCode_toNat text.toList
  rw [shown, codes_ofText, Text.textOfCodes, Text.joinPairs_map_toNat,
    List.map_map, same, String.ofList_toList]

end Spelling

end NativeDeps
