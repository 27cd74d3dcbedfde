import NativeDeps.Proofs.Descriptor.Reading

/-!
# Descriptors written out

A descriptor that is written out with all its fields is read back as it was.  So the form
that is written out stands for the descriptor: it says what the accepted value says, with
every default in its place, and other values are accepted as the same descriptor exactly
if they are written out in the same form.
-/

namespace NativeDeps

namespace Value

theorem readElements_spellings (index : Nat) (spellings : List Spelling) :
    readElements toText index (spellings.map .ofSpelling) = .ok spellings := by
  induction spellings generalizing index with
  | nil => rfl
  | cons first rest induction =>
      rw [List.map_cons, readElements, induction, toText_ofSpelling]
      rfl

theorem toTexts_spellings (spellings : List Spelling) :
    toTexts (.list (spellings.map .ofSpelling)) = .ok spellings :=
  readElements_spellings 0 spellings

theorem toFullText_text {name : String} (named : name ≠ "") :
    toFullText (.text name) = .ok ⟨name, named⟩ := by
  rw [toFullText, toText]
  dsimp only
  rw [Spelling.text?_ofText]
  exact dif_neg named

variable {α : Type} {read : Value → Checked α}
  {entries : List (Value × Value)} {name : String} {value : Value}
  {content : α}

/-- A required field that is there and can be read gives what is read. -/
theorem required_eq_ok
    (there : field? name entries = some value)
    (reads : read value = .ok content) :
    required name read entries = .ok content := by
  rw [required, there]
  dsimp only
  rw [reads]
  rfl

/-- So does an optional field, whatever it defaults to. -/
theorem optional_eq_ok
    (there : field? name entries = some value)
    (reads : read value = .ok content) (fallback : α) :
    optional name fallback read entries = .ok content := by
  rw [optional, there]
  dsimp only
  rw [reads]
  rfl

end Value

theorem PlatformCondition.ofValue_mapping (platforms : List Spelling) :
    ofValue
        (.mapping
          [(.text "platforms", .list (platforms.map .ofSpelling))]) =
      .ok ⟨platforms⟩ := by
  have reads :
      Value.optional "platforms" [] Value.toTexts
          [(.text "platforms", .list (platforms.map .ofSpelling))] =
        .ok platforms :=
    Value.optional_eq_ok rfl (Value.toTexts_spellings platforms) []
  show (Value.optional "platforms" [] Value.toTexts _ >>= _) = _
  rw [reads]
  rfl

namespace Descriptor

variable (descriptor : Descriptor)

/-- A descriptor has broken no rule, so it can be put together again. -/
theorem assemble_self :
    assemble descriptor.name descriptor.base descriptor.condition
        descriptor.conditional descriptor.scope descriptor.named =
      .ok descriptor := by
  rw [assemble]
  split
  · rename_i violation broken
    rw [descriptor.lawful] at broken
    cases broken
  · rfl

/-- Entries in which every field can be read as a descriptor has it give the descriptor. -/
theorem ofEntries_eq_ok {entries : List (Value × Value)}
    (name :
      Value.required "name" Value.toFullText entries =
        .ok ⟨descriptor.name, descriptor.named⟩)
    (base :
      Value.optional "base_dependencies" [] Value.toTexts entries =
        .ok descriptor.base)
    (condition :
      Value.optional "platform_condition" ⟨[]⟩ PlatformCondition.ofValue
          entries =
        .ok descriptor.condition)
    (conditional :
      Value.optional "conditional_dependencies" [] Value.toTexts entries =
        .ok descriptor.conditional)
    (scope :
      Value.optional "conditional_namespace" none Value.toTextOrNull
          entries =
        .ok descriptor.scope) :
    ofEntries entries = .ok descriptor := by
  rw [ofEntries, name, base, condition, conditional, scope]
  exact descriptor.assemble_self

/-- What is written out is read back. -/
theorem ofValue_toValue : ofValue descriptor.toValue = .ok descriptor := by
  show ofEntries _ = _
  exact
    descriptor.ofEntries_eq_ok
      (Value.required_eq_ok rfl (Value.toFullText_text descriptor.named))
      (Value.optional_eq_ok rfl (Value.toTexts_spellings descriptor.base) [])
      (Value.optional_eq_ok rfl
        (PlatformCondition.ofValue_mapping descriptor.condition.platforms) ⟨[]⟩)
      (Value.optional_eq_ok rfl (Value.toTexts_spellings descriptor.conditional) [])
      (Value.optional_eq_ok rfl
        (Value.toTextOrNull_ofSpellingOrNull descriptor.scope) none)

/-- What is read back tells descriptors apart, so their forms do. -/
theorem toValue_injective : Function.Injective toValue := by
  intro descriptor other same
  have reads := other.ofValue_toValue
  rw [← same, ofValue_toValue] at reads
  exact Except.ok.inj reads

/-- Every known field stands in what is written out, on both levels. -/
theorem isSome_at?_toValue :
    (∀ name ∈ fieldNames,
      (descriptor.toValue.at? [.field name]).isSome = true) ∧
      (descriptor.toValue.at?
        [.field "platform_condition", .field "platforms"]).isSome = true := by
  simp only [fieldNames, List.forall_mem_cons]
  exact ⟨⟨rfl, rfl, rfl, rfl, rfl, List.forall_mem_nil _⟩, rfl⟩

variable {descriptor} {value form : Value}

/-- An accepted value says what its descriptor says. -/
theorem draft_of_ofValue (accepts : ofValue value = .ok descriptor) :
    descriptor.draft = Draft.ofValue value := by
  have verdict := verdict_ofValue value
  rw [accepts] at verdict
  cases verdict with
  | described _ _ _ written => exact written

/-- The form in which an accepted value is written out. -/
def writtenForm? (value : Value) : Option Value :=
  (ofValue value).toOption.map toValue

theorem writtenForm?_eq_some_iff :
    writtenForm? value = some form ↔
      ∃ descriptor, ofValue value = .ok descriptor ∧ descriptor.toValue = form := by
  rw [writtenForm?]
  cases ofValue value <;> simp [Except.toOption]

/--
An accepted value is written out in a form with all fields, which says what the value says.
The form is accepted again, as the same descriptor, which resolves the same on every host.
Another value is accepted as this descriptor exactly if it is written out in this form.
-/
theorem accepted_value_reads_back
    {value : Value} {descriptor : Descriptor}
    (accepts : ofValue value = .ok descriptor) :
    ((∀ name ∈ fieldNames,
        (descriptor.toValue.at? [.field name]).isSome = true) ∧
      (descriptor.toValue.at?
        [.field "platform_condition", .field "platforms"]).isSome = true) ∧
      Draft.ofValue descriptor.toValue = Draft.ofValue value ∧
      (∃ again,
        ofValue descriptor.toValue = .ok again ∧
          again = descriptor ∧
          ∀ host : Value, again.resolveOn host = descriptor.resolveOn host) ∧
      ∀ other : Value,
        ofValue other = .ok descriptor ↔
          writtenForm? other = some descriptor.toValue := by
  have readsBack := descriptor.ofValue_toValue
  refine ⟨descriptor.isSome_at?_toValue, ?_, ?_, fun other => ?_⟩
  · rw [← draft_of_ofValue readsBack, draft_of_ofValue accepts]
  · exact ⟨descriptor, readsBack, rfl, fun host => rfl⟩
  · rw [writtenForm?_eq_some_iff]
    constructor
    · intro otherAccepts
      exact ⟨descriptor, otherAccepts, rfl⟩
    · rintro ⟨otherDescriptor, otherAccepts, same⟩
      rwa [← toValue_injective same]

/-- An object that leaves out what has a default, and has fields that are not known. -/
def sparse : Value :=
  .mapping
    [(.text "version", .int 2),
      (.text "platform_condition",
        .mapping
          [(.text "note", .null), (.text "platforms", .list [.text "Darwin"])]),
      (.text "name", .text "courier"),
      (.text "conditional_dependencies",
        .list [.text "zlib", .bytes [0x53, 0x79]])]

/-- The same project, with one default written out. -/
def sparseWithDefault : Value :=
  .mapping
    [(.text "name", .text "courier"),
      (.text "conditional_dependencies", .list [.text "zlib", .text "Sy"]),
      (.text "conditional_namespace", .null),
      (.text "platform_condition",
        .mapping [(.text "platforms", .list [.text "Darwin"])])]

def sparseProject : Descriptor where
  name := "courier"
  base := []
  condition := ⟨["Darwin"]⟩
  conditional := ["zlib", "Sy"]
  scope := none
  named := by decide
  lawful := by decide

/-- Both are accepted as one project, and so they are written out in one form. -/
theorem sparse_value_reads_back :
    ofValue sparse = .ok sparseProject ∧
      ofValue sparseProject.toValue = .ok sparseProject ∧
      writtenForm? sparseWithDefault = some sparseProject.toValue := by
  have accepts : ofValue sparse = .ok sparseProject := rfl
  have readsBack := accepted_value_reads_back accepts
  obtain ⟨again, reads, rfl, _⟩ := readsBack.2.2.1
  exact ⟨accepts, reads, (readsBack.2.2.2 sparseWithDefault).1 rfl⟩

end Descriptor

end NativeDeps
