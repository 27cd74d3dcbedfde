import NativeDeps.Proofs.Yaml.QuotedScalar

/-!
# Texts between single quotes

Between single quotes the writer holds back spaces and line ends, as the reader does.
What the writer holds is what the reader has to take when the next character is
written, and it is never both spaces and line ends.
-/

namespace NativeDeps.Yaml

namespace Held

def characters : Held → List Char
  | .spaces count => List.replicate count ' '
  | .breaks count => List.replicate count '\n'

/-- At the end of a scalar all is written as where no line is folded. -/
theorem writeLast_eq_write (held : Held) (column : Nat) :
    held.writeLast = (held.write column true).1 := by
  cases held <;> simp [writeLast, write]

/-- What is held is pending once it is written. -/
theorem readsQuoted_write
    {held : Held} (something : held ≠ .breaks 0) {column : Nat}
    {isFirst : Bool} {more rest : List Char} {content : Spelling}
    (reads :
      ∀ pending : Pending, pending.meaning = held.characters →
        ReadsQuoted false pending more content rest) :
    ReadsQuoted false (.blanks []) ((held.write column isFirst).1 ++ more)
      content rest := by
  cases held with
  | spaces count =>
      rw [write]
      split
      · rename_i folds
        obtain rfl := eq_one_of_foldsAt (Bool.and_eq_true_iff.1 folds).1
        exact .newLine (reads _ rfl)
      · exact .spaces count (reads _ rfl)
  | breaks count =>
      obtain ⟨others, rfl⟩ : ∃ others, count = others + 1 :=
        Nat.exists_eq_succ_of_ne_zero fun none => something (none ▸ rfl)
      have written :
          (write column isFirst (breaks (others + 1))).1 ++ more =
            '\n' :: (List.replicate others '\n' ++ (newLine ++ more)) := by
        simp [write, List.replicate_succ]
      have meaning :
          Pending.meaning (.lines (some '\n')
            (List.replicate others '\n' ++ ['\n'])) =
            (breaks (others + 1)).characters := by
        simp [Pending.meaning, characters, List.replicate_succ']
      rw [written]
      refine .lineEnd ?_ (.lineEnds others rfl (.newLine (reads _ meaning)))
      cases others <;> rfl

end Held

/-- No end of a text has a space beside a line end unless the text has. -/
theorem hasSpaceAtBreak_of_append
    {before after : List Char}
    (clean : hasSpaceAtBreak (before ++ after) = false) :
    hasSpaceAtBreak after = false := by
  induction before with
  | nil => exact clean
  | cons character before induction =>
      apply induction
      cases others : before ++ after with
      | nil => rfl
      | cons second following =>
          rw [List.cons_append, others] at clean
          simp only [hasSpaceAtBreak, Bool.or_eq_false_iff] at clean
          exact clean.2

theorem hasSpaceAtBreak_of_replicate_append
    {count : Nat} {held next : Char} {others : List Char}
    (clean :
      hasSpaceAtBreak (List.replicate (count + 1) held ++ next :: others) =
        false) :
    hasSpaceAtBreak (held :: next :: others) = false := by
  apply @hasSpaceAtBreak_of_append (List.replicate count held)
  rwa [List.replicate_succ', List.append_assoc] at clean

namespace Held

variable {held : Held} {others : List Char}

/-- Spaces stand behind no line end that is held. -/
theorem exists_eq_spaces
    (something : held ≠ .breaks 0)
    (clean : hasSpaceAtBreak (held.characters ++ ' ' :: others) = false) :
    ∃ count, held = .spaces count := by
  cases held with
  | spaces count => exact ⟨count, rfl⟩
  | breaks count =>
      cases count with
      | zero => exact absurd rfl something
      | succ count =>
          have apart := hasSpaceAtBreak_of_replicate_append clean
          simp [hasSpaceAtBreak, isBreak] at apart

/-- Line ends stand behind no space that is held. -/
theorem eq_spaces_zero_or_exists_eq_breaks
    (clean : hasSpaceAtBreak (held.characters ++ '\n' :: others) = false) :
    held = .spaces 0 ∨ ∃ count, held = .breaks count := by
  cases held with
  | spaces count =>
      cases count with
      | zero => exact .inl rfl
      | succ count =>
          have apart := hasSpaceAtBreak_of_replicate_append clean
          simp [hasSpaceAtBreak, isBreak] at apart
  | breaks count => exact .inr ⟨count, rfl⟩

end Held

/-- Any other character is written behind what was held, a single quote twice. -/
theorem writeSingle_cons
    {character : Char} (notSpace : character ≠ ' ')
    (notFeed : character ≠ '\n') (isFirst : Bool) (held : Held)
    (column : Nat) (others : List Char) :
    writeSingle isFirst held column (character :: others) =
      (held.write column isFirst).1 ++
        if character = '\'' then
          '\'' :: '\'' ::
            writeSingle false (.spaces 0)
              ((held.write column isFirst).2 + 2) others
        else
          character ::
            writeSingle false (.spaces 0)
              ((held.write column isFirst).2 + 1) others := by
  rw [writeSingle]
  · simp only [beq_iff_eq, notSpace, notFeed, if_false]
    split <;> rfl
  · simp [notSpace]
  · simp [notFeed]
  · simp [notFeed]

/-- What is written between single quotes reads back, with what was held in front. -/
theorem readsQuoted_writeSingle
    (characters : List Char) {rest : List Char}
    (notDoubled : rest.head? ≠ some '\'') {held : Held}
    (something : held ≠ .breaks 0)
    (ordinary : ∀ character ∈ characters, isSpecial character = false)
    (clean : hasSpaceAtBreak (held.characters ++ characters) = false)
    (isFirst : Bool) (column : Nat) :
    ReadsQuoted false (.blanks [])
      (writeSingle isFirst held column characters ++ rest)
      ((held.characters ++ characters).map .char) rest := by
  induction characters generalizing held isFirst column with
  | nil =>
      rw [writeSingle, held.writeLast_eq_write column, List.append_assoc,
        List.append_nil]
      apply Held.readsQuoted_write something
      intro pending meaning
      rw [← meaning]
      exact .closeSingle notDoubled
  | cons character others induction =>
      have ordinaryOthers := fun other member =>
        ordinary other (List.mem_cons_of_mem character member)
      by_cases isSpace : character = ' '
      · subst isSpace
        obtain ⟨count, rfl⟩ := Held.exists_eq_spaces something clean
        have moved :
            (Held.spaces count).characters ++ ' ' :: others =
              (Held.spaces (count + 1)).characters ++ others := by
          simp [Held.characters, List.replicate_succ']
        rw [moved] at clean ⊢
        exact induction (by simp) ordinaryOthers clean isFirst column
      · by_cases isFeed : character = '\n'
        · subst isFeed
          rcases Held.eq_spaces_zero_or_exists_eq_breaks clean with
            rfl | ⟨count, rfl⟩
          · exact
              @induction (.breaks 1) (by simp) ordinaryOthers clean isFirst
                column
          · have moved :
                (Held.breaks count).characters ++ '\n' :: others =
                  (Held.breaks (count + 1)).characters ++ others := by
              simp [Held.characters, List.replicate_succ']
            rw [moved] at clean ⊢
            exact induction (by simp) ordinaryOthers clean isFirst column
        · rw [writeSingle_cons isSpace isFeed, List.append_assoc]
          apply Held.readsQuoted_write something
          intro pending meaning
          rw [← meaning, List.map_append]
          have cleanOthers : hasSpaceAtBreak others = false :=
            @hasSpaceAtBreak_of_append (held.characters ++ [character]) others
              (by simpa using clean)
          have reads :=
            @induction (.spaces 0) (by simp) ordinaryOthers cleanOthers false
          split
          · rename_i isQuote
            subst isQuote
            exact .doubledQuote (reads _)
          · rename_i notQuote
            refine .letter ?_ (reads _)
            simp [isLetter, notQuote,
              isGap_of_not_isSpecial (ordinary character (by simp)) isSpace
                isFeed]

end NativeDeps.Yaml
