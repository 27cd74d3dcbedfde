import NativeDeps.Proofs.Yaml.ScalarToken

/-!
# Fields as tokens

A key at the margin with a text, with null or with a list of texts.  The items of the
list are at the margin too, so it opens no block of its own; without items it is
written between brackets.
-/

namespace NativeDeps.Yaml

/-- The token of a text behind a key or a hyphen. -/
def textToken (text : Spelling) : Token :=
  .scalar (.ofSpelling text) (writesPlain text)

/-- The tokens of the items of a list at the margin. -/
def itemTokens (texts : List Spelling) : List Token :=
  texts.flatMap fun text => [.entry, textToken text]

def keyTokens (key : String) : List Token :=
  [.key, .scalar (.chars key.toList) true, .value]

/-- The token of a text or null as the value of a key. -/
def valueToken : Option Spelling → Token
  | none => .scalar (.chars "null".toList) true
  | some text => textToken text

/-- The tokens of a list of texts as the value of a key. -/
def listTokens (texts : List Spelling) : List Token :=
  if texts.isEmpty then [.flowListStart, .flowListEnd] else itemTokens texts

namespace Lexer

open Relation

variable {position : Position} {tokens : List Token} {isOpen allowsKey : Bool}
  {candidate : Option Candidate} {rest : List Char}

theorem steps_emptyList (opens : opensLine rest = true) :
    ∃ next,
      ReflTransGen Step
          (atMargin position tokens true false none
            (" []".toList ++ '\n' :: rest))
          next ∧
        AtLine next (.flowListEnd :: .flowListStart :: tokens) true rest := by
  let opened : Lexer :=
    { atMargin ((position.step ' ').step '[') (.flowListStart :: tokens) true
        true none (']' :: '\n' :: rest) with outer := [none] }
  let closed :=
    atMargin (((position.step ' ').step '[').step ']')
      (.flowListEnd :: .flowListStart :: tokens) true false none
      ('\n' :: rest)
  have first :
      Step
        (atMargin position tokens true false none
          (" []".toList ++ '\n' :: rest))
        opened :=
    .read (settle_atMargin rfl rfl) rfl (by simp [readToken]; rfl) rfl
      (Nat.lt_succ_of_lt (Nat.lt_succ_self _))
  have second : Step opened closed :=
    .read rfl rfl (by simp [readToken]; rfl) rfl (Nat.lt_succ_self _)
  exact
    ⟨closed, .head first (.single second), atLine_of_lineEnd opens rfl⟩

theorem steps_items
    (texts : List Spelling) {lexer : Lexer}
    (atLine : AtLine lexer tokens true (texts.flatMap writeItem)) :
    ∃ next,
      ReflTransGen Step lexer next ∧
        AtLine next ((itemTokens texts).reverse ++ tokens) true [] := by
  induction texts generalizing lexer tokens with
  | nil => exact ⟨lexer, .refl, atLine⟩
  | cons text others induction =>
      have opens : opensLine (others.flatMap writeItem) = true := by
        cases others <;> rfl
      rcases writeText_eq_cons 1 text with ⟨more, begins⟩
      have written :
          (text :: others).flatMap writeItem =
            '-' :: (writeText 1 text ++
              '\n' :: others.flatMap writeItem) := by
        simp [writeItem]
      rw [written, begins] at atLine
      rcases step_entry atLine with ⟨position, first⟩
      have onText :=
        @step_text position (.entry :: tokens) true none _ text opens rfl
          1
      rw [begins] at onText
      rcases onText with ⟨behind, second, atNext⟩
      rcases induction atNext with ⟨next, steps, atEnd⟩
      refine ⟨next, .head first (.head second steps), ?_⟩
      simpa [itemTokens, textToken] using atEnd

/-- A key is read with its value. -/
theorem steps_field
    {key : String} (isKey : isKeyWord key.toList = true)
    (value : Option Spelling) {lexer : Lexer} (opens : opensLine rest = true)
    (atLine : AtLine lexer tokens isOpen (writeField key value ++ rest)) :
    ∃ next,
      ReflTransGen Step lexer next ∧
        AtLine next
          ((keyTokens key ++ [valueToken value]).reverse ++
            beforeKey isOpen tokens)
          true rest := by
  cases value with
  | none =>
      have written :
          writeField key none ++ rest =
            key.toList ++ ':' :: (" null".toList ++ '\n' :: rest) := by
        simp [writeField]
      rw [written] at atLine
      rcases steps_key isKey rfl atLine with ⟨position, onKey⟩
      obtain ⟨next, onValue, atNext⟩ :=
        @step_null position _ false none rest opens rfl
      exact ⟨next, onKey.tail onValue, atNext⟩
  | some text =>
      have written :
          writeField key (some text) ++ rest =
            key.toList ++ ':' ::
              (writeText (key.length + 1) text ++ '\n' :: rest) := by
        simp [writeField]
      rcases writeText_eq_cons (key.length + 1) text with ⟨more, begins⟩
      rw [written] at atLine
      obtain ⟨position, onKey⟩ :=
        steps_key isKey (by rw [begins]; rfl) atLine
      obtain ⟨next, onValue, atNext⟩ :=
        @step_text position _ false none rest text opens rfl
          (key.length + 1)
      exact ⟨next, onKey.tail onValue, atNext⟩

/-- A key is read with the list behind it, which ends the text. -/
theorem steps_listField
    {key : String} (isKey : isKeyWord key.toList = true)
    (texts : List Spelling) {lexer : Lexer}
    (atLine : AtLine lexer tokens isOpen (writeItems key texts)) :
    ∃ next,
      ReflTransGen Step lexer next ∧
        AtLine next
          ((keyTokens key ++ listTokens texts).reverse ++
            beforeKey isOpen tokens)
          true [] := by
  cases texts with
  | nil =>
      rcases steps_key isKey rfl atLine with ⟨position, onKey⟩
      obtain ⟨next, onList, atNext⟩ :=
        @steps_emptyList position _ [] rfl
      exact ⟨next, onKey.trans onList, atNext⟩
  | cons text others =>
      rcases steps_key isKey rfl atLine with ⟨position, onKey⟩
      have opens : opensLine ((text :: others).flatMap writeItem) = true := rfl
      have atItems :=
        @atLine_of_lineEnd position
          ((keyTokens key).reverse ++ beforeKey isOpen tokens) true false none
          _ opens rfl
      rcases steps_items (text :: others) atItems with ⟨next, onItems, atNext⟩
      refine ⟨next, onKey.trans onItems, ?_⟩
      simpa [keyTokens, listTokens] using atNext

end Lexer

end NativeDeps.Yaml
